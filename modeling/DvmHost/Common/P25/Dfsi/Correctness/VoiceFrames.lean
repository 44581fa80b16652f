import DvmHost.Common.P25.Dfsi.LC
import DvmHost.Common.P25.Lc.Correctness.EncryptionSync
import DvmHost.Common.P25.Lc.Correctness.LinkControl

/-!
# `Common.P25.Dfsi.Correctness.VoiceFrames` — the voice frames of a logical link data unit

The frames that an encoder lays out carry their codeword and their part of the link control to the decoder of the
other side, one frame at a time: what a frame changes of a receiver is written down once (`takeLDU1`, `takeLDU2`), and
a run over any of the frames is a run of these. So all nine bring the sender's fields over, as far as the frames have
room for them, and one that is lost leaves the fields of the others. The one exception is VOICE14, with which the
message indicator is handed to the link control: without it the octets of VOICE12 and VOICE13 do not arrive there
either (`indicator_not_handed`).
-/

namespace DvmHost

open RS634717

/-! ## Systematic octets -/

/-- The octets of the data stay where they are. -/
theorem RS634717.encodeWith_data {c : Code} (hv : Valid c) (data : Bytes) {n i : Nat} (hn : 8 * n ≤ 6 * c.k)
    (hi : i < n) : encodeWith c data i = data i :=
  byte_of_bits (fun _ hb => readBit_encodeWith_data hv data (by omega)) hi

namespace P25

namespace Dfsi

namespace LC

/-! ## Frames -/

/-- What is sent with the nine frames of a unit, and what the buffers hold before. -/
structure Voices where
  imbe : Fin 9 → Bytes
  stack : Fin 9 → Bytes
  data : Fin 9 → Bytes
  buffer : Fin 9 → Bytes

/-- VOICE1 to VOICE9. -/
def frameLDU1 (sender : LC) (v : Voices) (n : Fin 9) : Bytes :=
  { sender with frameType := P25_DFSI_LDU1_VOICE n }.encodeLDU1 (v.stack n) (v.data n) (v.imbe n)

/-- VOICE10 to VOICE18. -/
def frameLDU2 (sender : LC) (v : Voices) (n : Fin 9) : Bytes :=
  { sender with frameType := P25_DFSI_LDU2_VOICE n }.encodeLDU2 (v.stack n) (v.data n) (v.imbe n)

/-- The frames of a list, one after the other. -/
def receiveLDU1 (sender : LC) (v : Voices) (frames : List (Fin 9)) (r : LC) : LC :=
  frames.foldl (fun r n => (r.decodeLDU1 (frameLDU1 sender v n) (v.buffer n)).2.1) r

def receiveLDU2 (sender : LC) (v : Voices) (frames : List (Fin 9)) (r : LC) : LC :=
  frames.foldl (fun r n => (r.decodeLDU2 (frameLDU2 sender v n) (v.buffer n)).2.1) r

/-- The octets of a frame. -/
structure Laid (type : UInt8) (rs : Bytes) (sender : LC) (imbe : Bytes) (n : Fin 9) (frame : Bytes) : Prop where
  type : frame 0 = type
  imbe : ∀ j < P25_RAW_IMBE_LENGTH_BYTES, frame (VOICE_IMBE_OFFSET n + j) = imbe j
  rssi : n = 0 → frame 6 = sender.rssi
  octets : 2 ≤ n.val → n.val < 8 → ∀ k < 3, frame (1 + k) = rs (3 * (n.val - 2) + k)
  lsd : n = 8 → frame 1 = sender.lsd.lsd1 ∧ frame 2 = sender.lsd.lsd2

/-- The codeword ends inside the frame, and starts behind the octet of the type. -/
theorem codeword_inside (n : Fin 9) : 0 < VOICE_IMBE_OFFSET n ∧
    VOICE_IMBE_OFFSET n + P25_RAW_IMBE_LENGTH_BYTES ≤ VOICE_FRAME_LENGTH_BYTES n := by
  revert n
  decide

/-- **An encoder lays the frame out.** -/
theorem encodeFrame_laid {voice : Fin 9 → UInt8}
    (hvoice : ∀ n, (List.finRange 9).find? (fun m => voice n = voice m) = some n) (rs : Bytes) (sender : LC)
    (stack data imbe : Bytes) (n : Fin 9) :
    Laid (voice n) rs sender imbe n (encodeFrame voice rs { sender with frameType := voice n } stack data imbe) := by
  obtain ⟨hpos, hinside⟩ := codeword_inside n
  unfold encodeFrame
  dsimp only
  rw [hvoice n]
  dsimp only
  have hfront : ∀ (frame : Bytes) (k : Nat), k < VOICE_IMBE_OFFSET n →
      memcpy data 0 (memcpy frame (VOICE_IMBE_OFFSET n) imbe P25_RAW_IMBE_LENGTH_BYTES) (VOICE_FRAME_LENGTH_BYTES n) k =
        frame k := fun frame k hk => by
    have hcopy := memcpy_add data 0 (memcpy frame (VOICE_IMBE_OFFSET n) imbe P25_RAW_IMBE_LENGTH_BYTES)
      (show k < VOICE_FRAME_LENGTH_BYTES n by omega)
    rw [Nat.zero_add] at hcopy
    rw [hcopy, memcpy_of_lt _ _ _ hk]
  refine ⟨?_, fun j hj => ?_, ?_, ?_, ?_⟩
  · rw [hfront _ 0 hpos]
    (repeat' split) <;> rfl
  · have hcopy := fun frame => memcpy_add data 0 (memcpy frame (VOICE_IMBE_OFFSET n) imbe P25_RAW_IMBE_LENGTH_BYTES)
      (show VOICE_IMBE_OFFSET n + j < VOICE_FRAME_LENGTH_BYTES n by omega)
    rw [← Nat.zero_add (VOICE_IMBE_OFFSET n + j), hcopy, memcpy_add _ _ _ hj]
  · rintro rfl
    rw [hfront _ 6 (by decide)]
    rfl
  · intro hlow hhigh k hk
    have hoffset : ∀ n : Fin 9, 2 ≤ n.val → n.val < 8 → VOICE_IMBE_OFFSET n = 5 := by decide
    have hcases : ∀ n : Fin 9, 2 ≤ n.val → n.val < 8 → n = 2 ∨ n = 3 ∨ n = 4 ∨ n = 5 ∨ n = 6 ∨ n = 7 := by decide
    rw [hfront _ (1 + k) (by rw [hoffset n hlow hhigh]; omega)]
    have hk3 : k = 0 ∨ k = 1 ∨ k = 2 := by omega
    rcases hcases n hlow hhigh with rfl | rfl | rfl | rfl | rfl | rfl <;> rcases hk3 with rfl | rfl | rfl <;> rfl
  · rintro rfl
    rw [hfront _ 1 (by decide), hfront _ 2 (by decide)]
    exact ⟨rfl, rfl⟩

/-- The nine types of a unit are found where they stand. -/
theorem find_ldu1 (n : Fin 9) :
    (List.finRange 9).find? (fun m => P25_DFSI_LDU1_VOICE n = P25_DFSI_LDU1_VOICE m) = some n := by
  revert n
  decide

theorem find_ldu2 (n : Fin 9) :
    (List.finRange 9).find? (fun m => P25_DFSI_LDU2_VOICE n = P25_DFSI_LDU2_VOICE m) = some n := by
  revert n
  decide

theorem frameLDU1_laid (sender : LC) (v : Voices) (n : Fin 9) :
    Laid (P25_DFSI_LDU1_VOICE n) (encode241213 (ldu1Octets sender.control)) sender (v.imbe n) n
      (frameLDU1 sender v n) :=
  encodeFrame_laid find_ldu1 _ sender _ _ _ n

theorem frameLDU2_laid (sender : LC) (v : Voices) (n : Fin 9) :
    Laid (P25_DFSI_LDU2_VOICE n) (encode24169 sender.control.ldu2Octets) sender (v.imbe n) n
      (frameLDU2 sender v n) :=
  encodeFrame_laid find_ldu2 _ sender _ _ _ n

/-- The codeword is read where it was written. -/
theorem Laid.codeword_eq {type : UInt8} {rs imbe : Bytes} {sender : LC} {n : Fin 9} {frame : Bytes}
    (h : Laid type rs sender imbe n frame) (buffer : Bytes) :
    codeword n frame buffer = memcpy buffer 0 imbe P25_RAW_IMBE_LENGTH_BYTES := memcpy_congr _ _ h.imbe

/-! ## What a frame changes -/

/-- The three octets of an ID. -/
theorem word24_octets_and (v : UInt32) :
    word24 (v >>> (16 : UInt32) &&& 0xFF).toUInt8 (v >>> (8 : UInt32) &&& 0xFF).toUInt8
      (v >>> (0 : UInt32) &&& 0xFF).toUInt8 = v &&& 0xFFFFFF := by
  have h24 : v.toNat &&& 16777215 = v.toNat % 16777216 := Nat.and_two_pow_sub_one_eq_mod v.toNat 24
  apply UInt32.toNat_inj.mp
  rw [toUInt8_and_0xFF, toUInt8_and_0xFF, toUInt8_and_0xFF, toNat_word24, toNat_shiftRight_toUInt8 _ _ (by decide),
    toNat_shiftRight_toUInt8 _ _ (by decide), toNat_shiftRight_toUInt8 _ _ (by decide), UInt32.toNat_and]
  simp only [UInt32.reduceToNat]
  omega

/-- The two octets of a key ID. -/
theorem low16_or_octets (v : UInt32) :
    (v >>> (8 : UInt32) &&& 0xFF).toUInt8.toUInt32 <<< (8 : UInt32) ||| (v >>> (0 : UInt32) &&& 0xFF).toUInt8.toUInt32 =
      v &&& 0xFFFF := by
  have hword : ∀ b1 b2 : UInt8, b1.toUInt32 <<< (8 : UInt32) ||| b2.toUInt32 =
      b1.toUInt32 <<< (8 : UInt32) + b2.toUInt32 := by
    intro b1 b2
    have h := (sum24_eq_word24 0x00 b1 b2).symm
    unfold word24 sum24 at h
    rwa [show (0x00 : UInt8).toUInt32 <<< (16 : UInt32) = 0 from rfl, UInt32.zero_or, UInt32.zero_add] at h
  rw [hword]
  exact DvmHost.LC.low16_octets v

/-- By name, so that the numerals of `Fin 9` carry no proof of their own. -/
local instance neZero_nine : NeZero 9 := ⟨by decide⟩

/-- What VOICE1 to VOICE9 change of a receiver. -/
def takeLDU1 (sender r : LC) (n : Fin 9) : LC :=
  let r := { r with frameType := P25_DFSI_LDU1_VOICE n }
  if n = 0 then { r with control := .default, lsd := {}, rssi := sender.rssi }
  else if n = 2 then
    { r with control := { r.control with
      lco := sender.control.lco
      mfId := sender.control.mfId
      emergency := sender.control.emergency
      encrypted := sender.control.encrypted
      priority := sender.control.priority &&& 0x07 } }
  else if n = 3 then { r with control := { r.control with dstId := sender.control.dstId &&& 0xFFFFFF } }
  else if n = 4 then { r with control := { r.control with srcId := sender.control.srcId &&& 0xFFFFFF } }
  else if n = 8 then { r with lsd := sender.lsd }
  else r

/-- What VOICE10 to VOICE18 change of a receiver. -/
def takeLDU2 (sender r : LC) (n : Fin 9) : LC :=
  let r := { r with frameType := P25_DFSI_LDU2_VOICE n }
  let taken (at_ : Nat) : Bytes := fun k =>
    if at_ ≤ k ∧ k < at_ + 3 then sender.control.miOctets k else r.mi k
  if n = 0 then { r with mi := fun _ => 0x00, lsd := {}, rssi := sender.rssi }
  else if n = 2 then { r with mi := taken 0 }
  else if n = 3 then { r with mi := taken 3 }
  else if n = 4 then { r with mi := taken 6, control := { r.control with mi := fun i => taken 6 i } }
  else if n = 5 then
    { r with control := { r.control with algId := sender.control.algId, kId := sender.control.kId &&& 0xFFFF } }
  else if n = 8 then { r with lsd := sender.lsd }
  else r

theorem voice_cases (n : Fin 9) : n = 0 ∨ n = 1 ∨ n = 2 ∨ n = 3 ∨ n = 4 ∨ n = 5 ∨ n = 6 ∨ n = 7 ∨ n = 8 := by
  revert n
  decide

/-- **What VOICE1 to VOICE9 bring over**, whatever the receiver held before. -/
theorem decodeLDU1_frame (sender r : LC) (v : Voices) (n : Fin 9) :
    r.decodeLDU1 (frameLDU1 sender v n) (v.buffer n) =
      (true, takeLDU1 sender r n, memcpy (v.buffer n) 0 (v.imbe n) P25_RAW_IMBE_LENGTH_BYTES) := by
  have hlaid := frameLDU1_laid sender v n
  have hcodeword := hlaid.codeword_eq (v.buffer n)
  have hrs : ∀ i < 9, encode241213 (ldu1Octets sender.control) i = ldu1Octets sender.control i := fun i hi =>
    encodeWith_data valid_241213 _ (by decide) hi
  generalize frameLDU1 sender v n = frame at hlaid hcodeword
  have hoctet : ∀ k < 3, ∀ at_ ≤ 6, 2 ≤ n.val → n.val < 8 → 3 * (n.val - 2) = at_ →
      frame (1 + k) = ldu1Octets sender.control (at_ + k) := fun k hk at_ hat hlow hhigh hplace => by
    rw [hlaid.octets hlow hhigh k hk, hplace, hrs _ (by omega)]
  unfold decodeLDU1 takeLDU1
  dsimp only
  rw [hlaid.type]
  rcases voice_cases n with rfl | rfl | rfl | rfl | rfl | rfl | rfl | rfl | rfl
  · simp +decide only [if_true, if_false, hcodeword, hlaid.rssi rfl]
  · simp +decide only [if_true, if_false, hcodeword]
  · have hlco : frame 1 = sender.control.lco := hoctet 0 (by decide) 0 (by decide) (by decide) (by decide) rfl
    have hmfId : frame 2 = sender.control.mfId := hoctet 1 (by decide) 0 (by decide) (by decide) (by decide) rfl
    have hoptions : frame 3 = sender.control.optionsOctet :=
      hoctet 2 (by decide) 0 (by decide) (by decide) (by decide) rfl
    obtain ⟨hemergency, hencrypted, hpriority⟩ := sender.control.optionsOctet_fields
    simp +decide only [if_true, if_false, hcodeword, hlco, hmfId, hoptions, hemergency, hencrypted, hpriority]
  · have hid : id frame = sender.control.dstId &&& 0xFFFFFF := by
      have h0 := hoctet 0 (by decide) 3 (by decide) (by decide) (by decide) rfl
      have h1 := hoctet 1 (by decide) 3 (by decide) (by decide) (by decide) rfl
      have h2 := hoctet 2 (by decide) 3 (by decide) (by decide) (by decide) rfl
      show word24 (frame (1 + 0)) (frame (1 + 1)) (frame (1 + 2)) = _
      rw [h0, h1, h2]
      exact word24_octets_and sender.control.dstId
    simp +decide only [if_true, if_false, hcodeword, hid]
  · have hid : id frame = sender.control.srcId &&& 0xFFFFFF := by
      have h0 := hoctet 0 (by decide) 6 (by decide) (by decide) (by decide) rfl
      have h1 := hoctet 1 (by decide) 6 (by decide) (by decide) (by decide) rfl
      have h2 := hoctet 2 (by decide) 6 (by decide) (by decide) (by decide) rfl
      show word24 (frame (1 + 0)) (frame (1 + 1)) (frame (1 + 2)) = _
      rw [h0, h1, h2]
      exact word24_octets_and sender.control.srcId
    simp +decide only [if_true, if_false, hcodeword, hid]
  · simp +decide only [if_true, if_false, hcodeword]
  · simp +decide only [if_true, if_false, hcodeword]
  · simp +decide only [if_true, if_false, hcodeword]
  · simp +decide only [if_true, if_false, hcodeword, hlaid.lsd rfl]

/-- Three octets of the message indicator, laid over those of a receiver. -/
theorem indicator_eq {mi data taken : Bytes} {at_ : Nat} (h : ∀ k < 3, data (1 + k) = taken (at_ + k)) :
    indicator mi at_ data = fun k => if at_ ≤ k ∧ k < at_ + 3 then taken k else mi k := by
  funext k
  have h0 : data 1 = taken at_ := h 0 (by decide)
  have h1 : data 2 = taken (at_ + 1) := h 1 (by decide)
  have h2 : data 3 = taken (at_ + 2) := h 2 (by decide)
  unfold indicator setByte
  rw [h0, h1, h2]
  by_cases hin : at_ ≤ k ∧ k < at_ + 3
  · rw [if_pos hin]
    have hk : k = at_ ∨ k = at_ + 1 ∨ k = at_ + 2 := by omega
    rcases hk with rfl | rfl | rfl
    · rw [if_neg (by omega), if_neg (by omega), if_pos rfl]
    · rw [if_neg (by omega), if_pos rfl]
    · rw [if_pos rfl]
  · rw [if_neg hin, if_neg (by omega), if_neg (by omega), if_neg (by omega)]

/-- **What VOICE10 to VOICE18 bring over**, whatever the receiver held before. -/
theorem decodeLDU2_frame (sender r : LC) (v : Voices) (n : Fin 9) :
    r.decodeLDU2 (frameLDU2 sender v n) (v.buffer n) =
      (true, takeLDU2 sender r n, memcpy (v.buffer n) 0 (v.imbe n) P25_RAW_IMBE_LENGTH_BYTES) := by
  have hlaid := frameLDU2_laid sender v n
  have hcodeword := hlaid.codeword_eq (v.buffer n)
  have hrs : ∀ i < 12, encode24169 sender.control.ldu2Octets i = sender.control.ldu2Octets i := fun i hi =>
    encodeWith_data valid_24169 _ (by decide) hi
  generalize frameLDU2 sender v n = frame at hlaid hcodeword
  have hoctet : ∀ k < 3, ∀ at_ ≤ 9, 2 ≤ n.val → n.val < 8 → 3 * (n.val - 2) = at_ →
      frame (1 + k) = sender.control.ldu2Octets (at_ + k) := fun k hk at_ hat hlow hhigh hplace => by
    rw [hlaid.octets hlow hhigh k hk, hplace, hrs _ (by omega)]
  -- the indicator is in front of the algorithm and the key
  have hmi : ∀ k < 3, ∀ at_ ≤ 6, 2 ≤ n.val → n.val < 8 → 3 * (n.val - 2) = at_ →
      frame (1 + k) = sender.control.miOctets (at_ + k) := fun k hk at_ hat hlow hhigh hplace => by
    rw [hoctet k hk at_ (by omega) hlow hhigh hplace]
    unfold LC.ldu2Octets
    rw [setByte_of_ne _ _ (by omega), setByte_of_ne _ _ (by omega), setByte_of_ne _ _ (by omega)]
  unfold decodeLDU2 takeLDU2
  dsimp only
  rw [hlaid.type]
  rcases voice_cases n with rfl | rfl | rfl | rfl | rfl | rfl | rfl | rfl | rfl
  · simp +decide only [if_true, if_false, hcodeword, hlaid.rssi rfl]
  · simp +decide only [if_true, if_false, hcodeword]
  · have htaken : indicator r.mi 0 frame = _ :=
      indicator_eq fun k hk => hmi k hk 0 (by decide) (by decide) (by decide) rfl
    simp +decide only [if_true, if_false, hcodeword, htaken]
  · have htaken : indicator r.mi 3 frame = _ :=
      indicator_eq fun k hk => hmi k hk 3 (by decide) (by decide) (by decide) rfl
    simp +decide only [if_true, if_false, hcodeword, htaken]
  · have htaken : indicator r.mi 6 frame = _ :=
      indicator_eq fun k hk => hmi k hk 6 (by decide) (by decide) (by decide) rfl
    simp +decide only [if_true, if_false, hcodeword, htaken]
  · have halgId : frame 1 = sender.control.algId := hoctet 0 (by decide) 9 (by decide) (by decide) (by decide) rfl
    have hkId : (frame 2).toUInt32 <<< (8 : UInt32) ||| (frame 3).toUInt32 = sender.control.kId &&& 0xFFFF := by
      have h1 := hoctet 1 (by decide) 9 (by decide) (by decide) (by decide) rfl
      have h2 := hoctet 2 (by decide) 9 (by decide) (by decide) (by decide) rfl
      show (frame (1 + 1)).toUInt32 <<< (8 : UInt32) ||| (frame (1 + 2)).toUInt32 = _
      rw [h1, h2]
      exact low16_or_octets sender.control.kId
    simp +decide only [if_true, if_false, hcodeword, halgId, hkId]
  · simp +decide only [if_true, if_false, hcodeword]
  · simp +decide only [if_true, if_false, hcodeword]
  · simp +decide only [if_true, if_false, hcodeword, hlaid.lsd rfl]

/-! ## Runs -/

theorem receiveLDU1_eq (sender : LC) (v : Voices) (frames : List (Fin 9)) (r : LC) :
    receiveLDU1 sender v frames r = frames.foldl (takeLDU1 sender) r := by
  unfold receiveLDU1
  induction frames generalizing r with
  | nil => rfl
  | cons n frames ih => rw [List.foldl_cons, decodeLDU1_frame, ih, List.foldl_cons]

theorem receiveLDU2_eq (sender : LC) (v : Voices) (frames : List (Fin 9)) (r : LC) :
    receiveLDU2 sender v frames r = frames.foldl (takeLDU2 sender) r := by
  unfold receiveLDU2
  induction frames generalizing r with
  | nil => rfl
  | cons n frames ih => rw [List.foldl_cons, decodeLDU2_frame, ih, List.foldl_cons]

/-- A payload is returned. -/
def Returns (decoded : Bool × LC × Bytes) (imbe : Bytes) : Prop :=
  decoded.1 = true ∧ ∀ j < P25_RAW_IMBE_LENGTH_BYTES, decoded.2.2 j = imbe j

/-- The fields of an LDU1, as far as the frames have room for them. -/
structure ArrivedLDU1 (sent got : LC) : Prop where
  lco : got.control.lco = sent.control.lco
  mfId : got.control.mfId = sent.control.mfId
  emergency : got.control.emergency = sent.control.emergency
  encrypted : got.control.encrypted = sent.control.encrypted
  priority : got.control.priority = sent.control.priority &&& 0x07
  dstId : got.control.dstId = sent.control.dstId &&& 0xFFFFFF
  srcId : got.control.srcId = sent.control.srcId &&& 0xFFFFFF
  lsd : got.lsd = sent.lsd
  rssi : got.rssi = sent.rssi

/-- The fields of an LDU2. -/
structure ArrivedLDU2 (sent got : LC) : Prop where
  mi : got.control.mi = sent.control.mi
  algId : got.control.algId = sent.control.algId
  kId : got.control.kId = sent.control.kId &&& 0xFFFF
  lsd : got.lsd = sent.lsd
  rssi : got.rssi = sent.rssi

/-- Receivers that differ in the fields of one frame of an LDU1 at most. -/
def DifferLDU1 (n : Fin 9) (full got : LC) : Prop :=
  match n.val with
  | 0 => ∃ rssi, got = { full with rssi := rssi }
  | 2 => ∃ lco mfId emergency encrypted priority, got = { full with control := { full.control with
      lco := lco, mfId := mfId, emergency := emergency, encrypted := encrypted, priority := priority } }
  | 3 => ∃ dstId, got = { full with control := { full.control with dstId := dstId } }
  | 4 => ∃ srcId, got = { full with control := { full.control with srcId := srcId } }
  | 8 => ∃ frameType lsd, got = { full with frameType := frameType, lsd := lsd }
  | _ => got = full

/-- Receivers that differ in the fields of one frame of an LDU2 at most; `own` tells the octets of the message indicator
    that are the frame's. -/
def DifferLDU2 (own : Fin 9 → Fin 9 → Prop) (n : Fin 9) (full got : LC) : Prop :=
  match n.val with
  | 0 => ∃ rssi, got = { full with rssi := rssi }
  | 2 | 3 | 4 => ∃ collected mi,
      got = { full with mi := collected, control := { full.control with mi := mi } } ∧
        ∀ k, ¬ own n k → mi k = full.control.mi k
  | 5 => ∃ algId kId, got = { full with control := { full.control with algId := algId, kId := kId } }
  | 8 => ∃ frameType lsd, got = { full with frameType := frameType, lsd := lsd }
  | _ => got = full

/-- The three octets that VOICE12, VOICE13 and VOICE14 have room for. -/
def ownOctets (n k : Fin 9) : Prop := k.val / 3 + 2 = n.val

/-- All octets are VOICE14's, which hands them over. -/
def handedOctets (n k : Fin 9) : Prop := ownOctets n k ∨ n = 4

theorem arrived_ldu1 (sender : LC) (v : Voices) (r : LC) :
    ArrivedLDU1 sender (receiveLDU1 sender v (List.finRange 9) r) := by
  rw [receiveLDU1_eq]
  exact ⟨rfl, rfl, rfl, rfl, rfl, rfl, rfl, rfl, rfl⟩

theorem arrived_ldu2 (sender : LC) (v : Voices) (r : LC) :
    ArrivedLDU2 sender (receiveLDU2 sender v (List.finRange 9) r) := by
  rw [receiveLDU2_eq]
  refine ⟨?_, rfl, rfl, rfl, rfl⟩
  funext i
  have hi := i.isLt
  refine Eq.trans ?_ (sender.control.miOctets_apply i)
  show (if 6 ≤ i.val ∧ i.val < 9 then sender.control.miOctets i
    else if 3 ≤ i.val ∧ i.val < 6 then sender.control.miOctets i
    else if 0 ≤ i.val ∧ i.val < 3 then sender.control.miOctets i else 0x00) = _
  by_cases h6 : 6 ≤ i.val
  · rw [if_pos ⟨h6, hi⟩]
  by_cases h3 : 3 ≤ i.val
  · rw [if_neg (by omega), if_pos ⟨h3, by omega⟩]
  · rw [if_neg (by omega), if_neg (by omega), if_pos (by omega)]

theorem differ_ldu1 (sender : LC) (v : Voices) (frameType : UInt8) (n : Fin 9) :
    DifferLDU1 n (receiveLDU1 sender v (List.finRange 9) (default frameType))
      (receiveLDU1 sender v ((List.finRange 9).erase n) (default frameType)) := by
  rw [receiveLDU1_eq, receiveLDU1_eq]
  rcases voice_cases n with rfl | rfl | rfl | rfl | rfl | rfl | rfl | rfl | rfl
  · exact ⟨0, rfl⟩
  · rfl
  · exact ⟨_, _, _, _, _, rfl⟩
  · exact ⟨0, rfl⟩
  · exact ⟨0, rfl⟩
  · rfl
  · rfl
  · rfl
  · exact ⟨P25_DFSI_LDU1_VOICE 7, {}, rfl⟩

theorem differ_ldu2 (sender : LC) (v : Voices) (frameType : UInt8) (n : Fin 9) :
    DifferLDU2 handedOctets n (receiveLDU2 sender v (List.finRange 9) (default frameType))
      (receiveLDU2 sender v ((List.finRange 9).erase n) (default frameType)) := by
  rw [receiveLDU2_eq, receiveLDU2_eq]
  rcases voice_cases n with rfl | rfl | rfl | rfl | rfl | rfl | rfl | rfl | rfl
  · exact ⟨0, rfl⟩
  · rfl
  · refine ⟨_, _, rfl, fun k hk => ?_⟩
    have hown : k.val / 3 + 2 ≠ 2 := fun h => hk (Or.inl h)
    show (if 6 ≤ k.val ∧ k.val < 9 then sender.control.miOctets k
      else if 3 ≤ k.val ∧ k.val < 6 then sender.control.miOctets k else 0x00) =
        if 6 ≤ k.val ∧ k.val < 9 then sender.control.miOctets k
        else if 3 ≤ k.val ∧ k.val < 6 then sender.control.miOctets k
        else if 0 ≤ k.val ∧ k.val < 3 then sender.control.miOctets k else 0x00
    rw [if_neg (show ¬(0 ≤ k.val ∧ k.val < 3) by omega)]
  · refine ⟨_, _, rfl, fun k hk => ?_⟩
    have hown : k.val / 3 + 2 ≠ 3 := fun h => hk (Or.inl h)
    show (if 6 ≤ k.val ∧ k.val < 9 then sender.control.miOctets k
      else if 0 ≤ k.val ∧ k.val < 3 then sender.control.miOctets k else 0x00) =
        if 6 ≤ k.val ∧ k.val < 9 then sender.control.miOctets k
        else if 3 ≤ k.val ∧ k.val < 6 then sender.control.miOctets k
        else if 0 ≤ k.val ∧ k.val < 3 then sender.control.miOctets k else 0x00
    rw [if_neg (show ¬(3 ≤ k.val ∧ k.val < 6) by omega)]
  · exact ⟨_, _, rfl, fun k hk => absurd (Or.inr rfl) hk⟩
  · exact ⟨P25_ALGO_UNENCRYPT, 0, rfl⟩
  · rfl
  · rfl
  · exact ⟨P25_DFSI_LDU2_VOICE 7, {}, rfl⟩

/-- **Logical link data units arrive.** Every frame returns its payload to any receiver; nine of them bring the fields
    over, as far as the frames have room for them; and without one of them a new receiver differs in that frame's
    fields only, and, without VOICE14, in the message indicator. -/
theorem frames_arrive (sender : LC) (v : Voices) (frameType : UInt8) :
    (∀ (r : LC) (n : Fin 9), Returns (r.decodeLDU1 (frameLDU1 sender v n) (v.buffer n)) (v.imbe n) ∧
      Returns (r.decodeLDU2 (frameLDU2 sender v n) (v.buffer n)) (v.imbe n)) ∧
    ArrivedLDU1 sender (receiveLDU1 sender v (List.finRange 9) (default frameType)) ∧
    ArrivedLDU2 sender (receiveLDU2 sender v (List.finRange 9) (default frameType)) ∧
    ∀ n, DifferLDU1 n (receiveLDU1 sender v (List.finRange 9) (default frameType))
        (receiveLDU1 sender v ((List.finRange 9).erase n) (default frameType)) ∧
      DifferLDU2 handedOctets n (receiveLDU2 sender v (List.finRange 9) (default frameType))
        (receiveLDU2 sender v ((List.finRange 9).erase n) (default frameType)) := by
  refine ⟨fun r n => ⟨?_, ?_⟩, arrived_ldu1 sender v _, arrived_ldu2 sender v _, fun n =>
    ⟨differ_ldu1 sender v frameType n, differ_ldu2 sender v frameType n⟩⟩
  · rw [decodeLDU1_frame]
    refine ⟨rfl, fun j hj => ?_⟩
    have hcopy := memcpy_add (v.buffer n) 0 (v.imbe n) hj
    rwa [Nat.zero_add] at hcopy
  · rw [decodeLDU2_frame]
    refine ⟨rfl, fun j hj => ?_⟩
    have hcopy := memcpy_add (v.buffer n) 0 (v.imbe n) hj
    rwa [Nat.zero_add] at hcopy

/-- **What does not arrive**: of a destination, what is above its 24 bits; and without VOICE14 the octets of VOICE12 and
    VOICE13, which the receiver has. -/
theorem indicator_not_handed :
    (¬ ∀ (sender : LC) (v : Voices) (frameType : UInt8),
      (receiveLDU1 sender v (List.finRange 9) (default frameType)).control.dstId = sender.control.dstId) ∧
    ¬ ∀ (sender : LC) (v : Voices) (frameType : UInt8) (n : Fin 9),
      DifferLDU2 ownOctets n (receiveLDU2 sender v (List.finRange 9) (default frameType))
        (receiveLDU2 sender v ((List.finRange 9).erase n) (default frameType)) := by
  let blank : Voices := ⟨fun _ _ => 0x00, fun _ _ => 0x00, fun _ _ => 0x00, fun _ _ => 0x00⟩
  constructor
  · intro hall
    have hdst := hall { default 0x00 with control := { DvmHost.LC.default with dstId := 0x1000000 } } blank 0x00
    rw [receiveLDU1_eq] at hdst
    exact absurd hdst (by decide)
  · intro hall
    obtain ⟨collected, mi, hgot, hkept⟩ :=
      hall { default 0x00 with control := { DvmHost.LC.default with algId := 0x84, mi := fun _ => 0x01 } } blank 0x00 4
    rw [receiveLDU2_eq, receiveLDU2_eq] at hgot
    have hmi := hkept 0 (by unfold ownOctets; decide)
    rw [receiveLDU2_eq] at hmi
    have hlost : mi 0 = 0x00 := (congrFun (congrArg (fun r => r.control.mi) hgot) 0).symm
    rw [hlost] at hmi
    exact absurd hmi (by decide)

end LC

end Dfsi

end P25

end DvmHost

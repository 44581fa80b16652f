import DvmHost.Common.Dmr.SlotType
import DvmHost.Common.Edac.Correctness.ShortCodeRepair
import DvmHost.Common.Edac.Correctness.VoiceRepair
import DvmHost.Host.Dmr.Packet.Correctness.BurstMiddle

/-!
# `Common.Dmr.Correctness.BurstNoise` — bit errors in the words of a burst

The slot type and the embedded signalling word of a burst stand in pieces between its frames. The positions of their
bits are `slotPos` and `embPos`: the encoders write these and leave all others (`SlotType.readBit_encode_of_ne`,
`EMB.readBit_encode_of_ne`). Of the slot type the decoder uses the word that is corrected, so three errors do no harm
(`SlotType.decode_near`). Of the embedded signalling it does not, so each error in the seven bits of the fields is an
error in a field (`EMB.decode_eq_iff`).
-/

namespace DvmHost

open Lib

namespace Dmr

/-- How many of the `n` bits at the positions `pos` are flipped. -/
def errors (pos : Nat → Nat) (n : Nat) (sent burst : Bytes) : Nat :=
  AMBEFEC.diffs n (fun i => readBit burst (pos i)) fun i => readBit sent (pos i)

theorem two_shift (b : UInt8) (j : Nat) : bitOf (b <<< (2 : UInt8)) j = bitOf b (j + 2) :=
  bitOf_shiftLeft b 2 (by decide) j

theorem six_shift (b : UInt8) {j : Nat} (hj : j < 8) :
    bitOf (b >>> (6 : UInt8)) j = (decide (6 ≤ j) && bitOf b (j - 6)) :=
  bitOf_shiftRight b 6 (by decide) hj

namespace SlotType

/-- Where bit `i` of the word stands in a burst. -/
def slotPos (i : Nat) : Nat := if i < 10 then 98 + i else 146 + i

theorem gather_octets (data : Bytes) {j : Nat} (hj : j < 8) :
    (bitOf (gather data 0) j = if j < 6 then bitOf (data 12) (j + 2) else bitOf (data 13) (j - 6)) ∧
    (bitOf (gather data 1) j = if j < 2 then bitOf (data 13) (j + 2) else if j < 6 then bitOf (data 19) (j + 2)
      else bitOf (data 20) (j - 6)) ∧
    (bitOf (gather data 2) j = if j < 4 then bitOf (data 20) (j + 2) else false) := by
  obtain ⟨hC0, h3F, hFC, h03, h30, h3C, hF0, h0F⟩ := bitOf_masks hj
  unfold gather
  simp (disch := decide) only [setByte_of_ne, setByte_same]
  simp only [bitOf_or, bitOf_and, two_shift, six_shift _ hj, hC0, hFC, h03, h3C, hF0]
  refine ⟨?_, ?_, ?_⟩
  · by_cases h : j < 6 <;> simp [h, Nat.not_le.mpr, Nat.not_lt.mp]
  · by_cases h : j < 2
    · have h' : ¬ 6 ≤ j := by omega
      simp [h, h', Nat.not_le.mpr]
    · by_cases h' : j < 6 <;> simp [h, h', Nat.not_le.mpr, Nat.not_lt.mp]
  · by_cases h : j < 4 <;> simp [h]

/-- **The word is read from its positions.** -/
theorem readBit_gather (data : Bytes) {i : Nat} (hi : i < 20) : readBit (gather data) i = readBit data (slotPos i) := by
  obtain ⟨h0, h1, h2⟩ := gather_octets data (show i % 8 < 8 from Nat.mod_lt _ (by decide))
  unfold slotPos
  rw [readBit_eq, readBit_eq]
  by_cases hlow : i < 10
  · rw [if_pos hlow]
    by_cases ho : i / 8 = 0
    · rw [ho, h0]
      split
      · rw [show (98 + i) / 8 = 12 by omega, show (98 + i) % 8 = i % 8 + 2 by omega]
      · rw [show (98 + i) / 8 = 13 by omega, show (98 + i) % 8 = i % 8 - 6 by omega]
    · rw [show i / 8 = 1 by omega, h1, if_pos (by omega), show (98 + i) / 8 = 13 by omega,
        show (98 + i) % 8 = i % 8 + 2 by omega]
  · rw [if_neg hlow]
    by_cases ho : i / 8 = 1
    · rw [ho, h1, if_neg (by omega)]
      split
      · rw [show (146 + i) / 8 = 19 by omega, show (146 + i) % 8 = i % 8 + 2 by omega]
      · rw [show (146 + i) / 8 = 20 by omega, show (146 + i) % 8 = i % 8 - 6 by omega]
    · rw [show i / 8 = 2 by omega, h2, if_pos (by omega), show (146 + i) / 8 = 20 by omega,
        show (146 + i) % 8 = i % 8 + 2 by omega]

theorem encode_octets (s : SlotType) (data : Bytes) {j : Nat} (hj : j < 8) :
    (bitOf (s.encode data 12) j = if j < 2 then bitOf (data 12) j else bitOf (s.word 0) (j - 2)) ∧
    (bitOf (s.encode data 13) j = if j < 2 then bitOf (s.word 0) (j + 6) else if j < 4 then bitOf (s.word 1) (j - 2)
      else bitOf (data 13) j) ∧
    (bitOf (s.encode data 19) j = if j < 4 then bitOf (data 19) j else bitOf (s.word 1) (j - 2)) ∧
    (bitOf (s.encode data 20) j = if j < 2 then bitOf (s.word 1) (j + 6) else if j < 6 then bitOf (s.word 2) (j - 2)
      else bitOf (data 20) j) := by
  obtain ⟨hC0, h3F, hFC, h03, h30, h3C, hF0, h0F⟩ := bitOf_masks hj
  have hup : ∀ b : UInt8, bitOf (b <<< (6 : UInt8)) j = bitOf b (j + 6) := fun b => bitOf_shiftLeft b 6 (by decide) j
  have hdown : ∀ b : UInt8, bitOf (b >>> (2 : UInt8)) j = (decide (2 ≤ j) && bitOf b (j - 2)) :=
    fun b => bitOf_shiftRight b 2 (by decide) hj
  unfold encode
  simp (disch := decide) only [setByte_of_ne, setByte_same]
  simp only [bitOf_or, bitOf_and, hup, hdown, hC0, h3F, h03, h30, h3C, hF0, h0F]
  refine ⟨?_, ?_, ?_, ?_⟩
  · by_cases h : j < 2 <;> simp [h, Nat.not_le.mpr, Nat.not_lt.mp]
  · by_cases h : j < 2
    · have h4 : ¬ 4 ≤ j := by omega
      simp [h, h4, Nat.not_le.mpr]
    · by_cases h4 : j < 4 <;> simp [h, h4, Nat.not_le.mpr, Nat.not_lt.mp]
  · by_cases h : j < 4
    · simp [h, Nat.not_le.mpr]
    · have h2 : 2 ≤ j := by omega
      simp [h, h2, Nat.not_lt.mp]
  · by_cases h : j < 2
    · have h6 : ¬ 6 ≤ j := by omega
      simp [h, h6, Nat.not_le.mpr]
    · by_cases h6 : j < 6 <;> simp [h, h6, Nat.not_le.mpr, Nat.not_lt.mp]

/-- **The word is written to its positions.** -/
theorem readBit_encode_slotPos (s : SlotType) (data : Bytes) {i : Nat} (hi : i < 20) :
    readBit (s.encode data) (slotPos i) = readBit s.word i := by
  unfold slotPos
  rw [readBit_eq, readBit_eq]
  split
  · obtain ⟨h12, h13, -, -⟩ := encode_octets s data (show (98 + i) % 8 < 8 from Nat.mod_lt _ (by decide))
    rcases (by omega : (98 + i) / 8 = 12 ∨ (98 + i) / 8 = 13) with ho | ho
    · rw [ho, h12, if_neg (by omega), show i / 8 = 0 by omega, show i % 8 = (98 + i) % 8 - 2 by omega]
    · rw [ho, h13]
      split
      · rw [show i / 8 = 0 by omega, show i % 8 = (98 + i) % 8 + 6 by omega]
      · rw [if_pos (by omega), show i / 8 = 1 by omega, show i % 8 = (98 + i) % 8 - 2 by omega]
  · obtain ⟨-, -, h19, h20⟩ := encode_octets s data (show (146 + i) % 8 < 8 from Nat.mod_lt _ (by decide))
    rcases (by omega : (146 + i) / 8 = 19 ∨ (146 + i) / 8 = 20) with ho | ho
    · rw [ho, h19, if_neg (by omega), show i / 8 = 1 by omega, show i % 8 = (146 + i) % 8 - 2 by omega]
    · rw [ho, h20]
      split
      · rw [show i / 8 = 1 by omega, show i % 8 = (146 + i) % 8 + 6 by omega]
      · rw [if_pos (by omega), show i / 8 = 2 by omega, show i % 8 = (146 + i) % 8 - 2 by omega]

/-- The other bits are left. -/
theorem readBit_encode_of_ne (s : SlotType) (data : Bytes) {k : Nat} (hk : ∀ i < 20, k ≠ slotPos i) :
    readBit (s.encode data) k = readBit data k := by
  have hout : k < 98 ∨ 108 ≤ k ∧ k < 156 ∨ 166 ≤ k := by
    by_contra hin
    have hlow := hk (k - 98)
    have hhigh := hk (k - 146)
    unfold slotPos at hlow hhigh
    split at hlow <;> split at hhigh <;> omega
  obtain ⟨h12, h13, h19, h20⟩ := encode_octets s data (show k % 8 < 8 from Nat.mod_lt _ (by decide))
  rw [readBit_eq, readBit_eq]
  by_cases ho12 : k / 8 = 12
  · rw [ho12, h12, if_pos (by omega)]
  · by_cases ho13 : k / 8 = 13
    · rw [ho13, h13, if_neg (by omega), if_neg (by omega)]
    · by_cases ho19 : k / 8 = 19
      · rw [ho19, h19, if_pos (by omega)]
      · by_cases ho20 : k / 8 = 20
        · rw [ho20, h20, if_neg (by omega), if_neg (by omega)]
        · unfold encode
          simp (disch := omega) only [setByte_of_ne]

/-- The fields fit their bits. -/
structure Fits (s : SlotType) : Prop where
  colorCode : s.colorCode < 16
  dataType : s.dataType < 16

/-- The octet of the two fields. -/
def octet (s : SlotType) : UInt8 := s.colorCode <<< (4 : UInt8) &&& 0xF0 ||| s.dataType <<< (0 : UInt8) &&& 0x0F

theorem word_eq (s : SlotType) : s.word = Golay2087.codeword s.octet := by
  show Golay2087.encode _ = Golay2087.encode _
  refine congrArg Golay2087.encode (funext fun k => ?_)
  by_cases h0 : k = 0
  · rw [h0, if_pos rfl]
    rfl
  · simp [setByte, h0]

theorem octet_fields {s : SlotType} (hs : s.Fits) :
    s.octet >>> (4 : UInt8) &&& 0x0F = s.colorCode ∧ s.octet >>> (0 : UInt8) &&& 0x0F = s.dataType := by
  have hall : ∀ colorCode dataType : Fin 16,
      (octet ⟨UInt8.ofNat colorCode.val, UInt8.ofNat dataType.val⟩) >>> (4 : UInt8) &&& 0x0F =
        UInt8.ofNat colorCode.val ∧
      (octet ⟨UInt8.ofNat colorCode.val, UInt8.ofNat dataType.val⟩) >>> (0 : UInt8) &&& 0x0F =
        UInt8.ofNat dataType.val := by decide
  have h := hall ⟨s.colorCode.toNat, UInt8.lt_iff_toNat_lt.mp hs.colorCode⟩
    ⟨s.dataType.toNat, UInt8.lt_iff_toNat_lt.mp hs.dataType⟩
  simp only [UInt8.ofNat_toNat] at h
  exact h

/-- **Three errors in the slot type are corrected.** -/
theorem decode_near {s : SlotType} (hs : s.Fits) (data burst : Bytes)
    (h : errors slotPos 20 (s.encode data) burst ≤ 3) :
    decode burst = some s := by
  have hsame : errors slotPos 20 (s.encode data) burst =
      AMBEFEC.diffs 20 (readBit (gather burst)) (readBit s.word) :=
    AMBEFEC.diffs_congr (fun i hi => (readBit_gather burst hi).symm) fun i hi => readBit_encode_slotPos s data hi
  have hless := AMBEFEC.diffs_le_succ 19 (readBit (gather burst)) (readBit s.word)
  have hnear : Gf2Division.weight 19 (Golay2087.code (gather burst) ^^^
      Golay2087.code (Golay2087.codeword s.octet)) ≤ 3 := by
    rw [Golay2087.code_eq, Golay2087.code_eq, AMBEFEC.weight_packWord_xor, ← word_eq]
    exact Nat.le_trans hless (hsame ▸ h)
  obtain ⟨hcolor, htype⟩ := octet_fields hs
  show (Golay2087.decode (gather burst)).bind _ = _
  rw [Golay2087.decode_near hnear, Option.bind_some, hcolor, htype]

end SlotType

namespace EMB

/-- Where bit `i` of the word stands in a burst. -/
def embPos (i : Nat) : Nat := if i < 8 then 108 + i else 140 + i

/-- The two octets of a word. -/
def word (emb : EMB) : UInt8 × UInt8 :=
  QR1676.encode ((emb.colorCode <<< (4 : UInt8) &&& 0xF0) ||| (if emb.PI then 0x08 else 0x00) |||
    (emb.LCSS <<< (1 : UInt8) &&& 0x06))

theorem four_shift_left (b : UInt8) (j : Nat) : bitOf (b <<< (4 : UInt8)) j = bitOf b (j + 4) :=
  bitOf_shiftLeft b 4 (by decide) j

theorem embPos_of_lt {j : Nat} (hj : j < 8) : embPos j = 108 + j ∧ embPos (8 + j) = 148 + j := by
  unfold embPos
  rw [if_pos hj, if_neg (by omega), ← Nat.add_assoc]
  exact ⟨rfl, rfl⟩

/-- **The word is read from its positions.** -/
theorem bitOf_gather (data : Bytes) {j : Nat} (hj : j < 8) :
    bitOf (gather data).1 j = readBit data (embPos j) ∧ bitOf (gather data).2 j = readBit data (embPos (8 + j)) := by
  obtain ⟨hF0, h0F⟩ := bitOf_nibbles hj
  obtain ⟨hfirst, hsecond⟩ := embPos_of_lt hj
  have hjoin : ∀ a b : UInt8, bitOf ((a <<< (4 : UInt8) &&& 0xF0) ||| (b >>> (4 : UInt8) &&& 0x0F)) j =
      if j < 4 then bitOf a (j + 4) else bitOf b (j - 4) := by
    intro a b
    rw [bitOf_or, bitOf_and, bitOf_and, four_shift_left, bitOf_shiftRight_four b hj, hF0, h0F]
    by_cases h : j < 4 <;> simp [h, Nat.not_le.mpr, Nat.not_lt.mp]
  unfold gather
  rw [hjoin, hjoin, hfirst, hsecond, readBit_eq, readBit_eq]
  by_cases h : j < 4
  · rw [if_pos h, if_pos h, show (108 + j) / 8 = 13 by omega, show (108 + j) % 8 = j + 4 by omega,
      show (148 + j) / 8 = 18 by omega, show (148 + j) % 8 = j + 4 by omega]
    exact ⟨rfl, rfl⟩
  · rw [if_neg h, if_neg h, show (108 + j) / 8 = 14 by omega, show (108 + j) % 8 = j - 4 by omega,
      show (148 + j) / 8 = 19 by omega, show (148 + j) % 8 = j - 4 by omega]
    exact ⟨rfl, rfl⟩

/-- **The word is written to its positions.** -/
theorem gather_encode (emb : EMB) (data : Bytes) : gather (emb.encode data) = emb.word := by
  have hjoin : ∀ d e w : UInt8, (((d &&& 0xF0 ||| w >>> (4 : UInt8) &&& 0x0F) <<< (4 : UInt8) &&& 0xF0) |||
      ((e &&& 0x0F ||| w <<< (4 : UInt8) &&& 0xF0) >>> (4 : UInt8) &&& 0x0F)) = w := by
    intro d e w
    refine byte_ext fun j hj => ?_
    obtain ⟨hF0, h0F⟩ := bitOf_nibbles hj
    rw [bitOf_or, bitOf_and, bitOf_and, four_shift_left, bitOf_shiftRight_four _ hj, hF0, h0F]
    by_cases h : j < 4
    · obtain ⟨hF0', h0F'⟩ := bitOf_nibbles (show j + 4 < 8 by omega)
      rw [bitOf_or, bitOf_and, bitOf_and, bitOf_shiftRight_four _ (by omega), hF0', h0F']
      simp [h, Nat.not_le.mpr]
    · obtain ⟨hF0', h0F'⟩ := bitOf_nibbles (show j - 4 < 8 by omega)
      have h4 : j - 4 < 4 := by omega
      have hback : j - 4 + 4 = j := by omega
      rw [bitOf_or (e &&& 0x0F), bitOf_and e, bitOf_and (w <<< (4 : UInt8)), four_shift_left, hF0', h0F', hback]
      simp [h, h4, Nat.not_le.mpr, Nat.not_lt.mp]
  unfold gather encode
  simp (disch := decide) only [setByte_of_ne, setByte_same]
  rw [hjoin, hjoin]
  rfl

/-- The other bits are left. -/
theorem readBit_encode_of_ne (emb : EMB) (data : Bytes) {k : Nat} (hk : ∀ i < 16, k ≠ embPos i) :
    readBit (emb.encode data) k = readBit data k := by
  have hout : k < 108 ∨ 116 ≤ k ∧ k < 148 ∨ 156 ≤ k := by
    by_contra hin
    have hlow := hk (k - 108)
    have hhigh := hk (k - 140)
    unfold embPos at hlow hhigh
    split at hlow <;> split at hhigh <;> omega
  exact readBit_encodeEMB emb data hout

/-- The fields of an octet are its bits but the last. -/
theorem fields_eq_iff (v w : UInt8) : (v >>> (4 : UInt8) &&& 0x0F = w >>> (4 : UInt8) &&& 0x0F ∧
      (v &&& 0x08 = 0x08 ↔ w &&& 0x08 = 0x08) ∧ v >>> (1 : UInt8) &&& 0x03 = w >>> (1 : UInt8) &&& 0x03) ↔
    v >>> (1 : UInt8) = w >>> (1 : UInt8) := by
  have hall : ∀ v : BitVec 8, UInt8.ofBitVec v >>> (1 : UInt8) =
      (UInt8.ofBitVec v >>> (4 : UInt8) &&& 0x0F) <<< (3 : UInt8) |||
        (if UInt8.ofBitVec v &&& 0x08 = 0x08 then 0x04 else 0x00) ||| (UInt8.ofBitVec v >>> (1 : UInt8) &&& 0x03) := by
    decide
  have hback : ∀ v : BitVec 8,
      UInt8.ofBitVec v >>> (4 : UInt8) &&& 0x0F = (UInt8.ofBitVec v >>> (1 : UInt8)) >>> (3 : UInt8) &&& 0x0F ∧
      (UInt8.ofBitVec v &&& 0x08 = 0x08 ↔ (UInt8.ofBitVec v >>> (1 : UInt8)) &&& 0x04 = 0x04) := by decide
  constructor
  · rintro ⟨hhigh, hflag, hlow⟩
    have hv := hall v.toBitVec
    have hw := hall w.toBitVec
    simp only [UInt8.ofBitVec_toBitVec] at hv hw
    rw [hv, hw, hhigh, hlow]
    simp only [hflag]
  · intro h
    obtain ⟨hv, hv'⟩ := hback v.toBitVec
    obtain ⟨hw, hw'⟩ := hback w.toBitVec
    simp only [UInt8.ofBitVec_toBitVec] at hv hw hv' hw'
    refine ⟨by rw [hv, hw, h], by rw [hv', hw', h], by rw [h]⟩

/-- **The fields are the first seven bits**: `decode` corrects none of them. -/
theorem decode_eq_iff {emb : EMB} (hemb : emb.Fits) (data burst : Bytes) : decode burst = emb ↔
    ∀ i < 7, readBit burst (embPos i) = readBit (emb.encode data) (embPos i) := by
  have hshift : ∀ v w : UInt8, v >>> (1 : UInt8) = w >>> (1 : UInt8) ↔ ∀ i < 7, bitOf v i = bitOf w i := by
    intro v w
    have hbit : ∀ (b : UInt8) {j : Nat}, j < 8 →
        bitOf (b >>> (1 : UInt8)) j = (decide (1 ≤ j) && bitOf b (j - 1)) :=
      fun b j hj => bitOf_shiftRight b 1 (by decide) hj
    constructor
    · intro h i hi
      have hv := hbit v (show i + 1 < 8 by omega)
      have hw := hbit w (show i + 1 < 8 by omega)
      rw [decide_eq_true (by omega), Bool.true_and, Nat.add_sub_cancel] at hv hw
      rw [← hv, ← hw, h]
    · intro h
      refine byte_ext fun j hj => ?_
      rw [hbit v hj, hbit w hj]
      cases j with
      | zero => rfl
      | succ j => rw [Nat.add_sub_cancel, h j (by omega)]
  have hfields : ∀ a b : Bytes, decode a = decode b ↔ (gather a).1 >>> (1 : UInt8) = (gather b).1 >>> (1 : UInt8) := by
    intro a b
    rw [← fields_eq_iff]
    constructor
    · intro h
      exact ⟨congrArg EMB.colorCode h, decide_eq_decide.mp (congrArg EMB.PI h), congrArg EMB.LCSS h⟩
    · rintro ⟨hcolor, hPI, hLCSS⟩
      have hmk : ∀ d : Bytes, decode d = ⟨(gather d).1 >>> (4 : UInt8) &&& 0x0F,
          decide ((gather d).1 &&& 0x08 = 0x08), (gather d).1 >>> (1 : UInt8) &&& 0x03⟩ := fun _ => rfl
      rw [hmk a, hmk b, hcolor, decide_eq_decide.mpr hPI, hLCSS]
  have hsent : decode burst = emb ↔ decode burst = decode (emb.encode data) := by
    rw [show decode (emb.encode data) = emb from decode_encodeEMB hemb data]
  rw [hsent, hfields, hshift]
  constructor
  · intro h i hi
    rw [← (bitOf_gather burst (by omega)).1, ← (bitOf_gather _ (by omega)).1, h i hi]
  · intro h i hi
    rw [(bitOf_gather burst (by omega)).1, (bitOf_gather _ (by omega)).1, h i hi]

/-- **The code corrects two errors**, in what `decode` drops. -/
theorem code_corrects (emb : EMB) (data burst : Bytes)
    (h : errors embPos 16 (emb.encode data) burst ≤ 2) :
    QR1676.decode (gather burst).1 (gather burst).2 = some emb.word.1 := by
  have hcode : ∀ a : Bytes, QR1676.code (gather a).1 (gather a).2 = LC.packWord 15 fun i => readBit a (embPos i) :=
    fun a => QR1676.code_eq (fun j hj => (bitOf_gather a hj).1.symm)
      fun j hj => (bitOf_gather a (Nat.lt_succ_of_lt hj)).2.symm
  have hsent : QR1676.code emb.word.1 emb.word.2 = LC.packWord 15 fun i => readBit (emb.encode data) (embPos i) := by
    rw [← gather_encode emb data]
    exact hcode _
  refine QR1676.decode_near ?_
  show Gf2Division.weight 15 (_ ^^^ QR1676.code emb.word.1 emb.word.2) ≤ 2
  rw [hcode, hsent, AMBEFEC.weight_packWord_xor]
  exact Nat.le_trans (AMBEFEC.diffs_le_succ 15 _ _) h

end EMB

/-- **Noise in a burst.** At most three errors in its slot type are corrected. Of at most two errors in its embedded
    signalling word the code corrects what it is asked for, but `decode` reads its fields from the octets as they
    were received: they are right if and only if none of the seven bits of the fields is flipped. -/
theorem noise_iff {st : SlotType} (hst : st.Fits) {emb : EMB} (hemb : emb.Fits) (data burst burst' : Bytes)
    (hslot : errors SlotType.slotPos 20 (st.encode data) burst ≤ 3)
    (hword : errors EMB.embPos 16 (emb.encode data) burst' ≤ 2) :
    QR1676.decode (EMB.gather burst').1 (EMB.gather burst').2 = some emb.word.1 ∧
      ((SlotType.decode burst = some st ∧ EMB.decode burst' = emb ∧
          (∀ k, (∀ i < 20, k ≠ SlotType.slotPos i) → readBit (st.encode data) k = readBit data k) ∧
          (∀ k, (∀ i < 16, k ≠ EMB.embPos i) → readBit (emb.encode data) k = readBit data k)) ↔
        ∀ i < 7, readBit burst' (EMB.embPos i) = readBit (emb.encode data) (EMB.embPos i)) := by
  refine ⟨EMB.code_corrects emb data burst' hword, ?_⟩
  rw [← EMB.decode_eq_iff hemb data burst']
  constructor
  · rintro ⟨-, hfields, -, -⟩
    exact hfields
  · intro hfields
    exact ⟨SlotType.decode_near hst data burst hslot, hfields, fun k hk => SlotType.readBit_encode_of_ne st data hk,
      fun k hk => EMB.readBit_encode_of_ne emb data hk⟩

/-- Errors in the data of the slot type and in the check bits of the embedded signalling. -/
theorem noise_check_bits :
    EMB.decode (flipBits [115, 155] ((⟨0x05, true, 0x02⟩ : EMB).encode fun _ => 0x00)) = ⟨0x05, true, 0x02⟩ := by
  have hslot : errors SlotType.slotPos 20 ((⟨0x05, 0x01⟩ : SlotType).encode fun _ => 0x00)
      (flipBits [98, 101, 160] ((⟨0x05, 0x01⟩ : SlotType).encode fun _ => 0x00)) ≤ 3 := by decide
  have hword : errors EMB.embPos 16 ((⟨0x05, true, 0x02⟩ : EMB).encode fun _ => 0x00)
      (flipBits [115, 155] ((⟨0x05, true, 0x02⟩ : EMB).encode fun _ => 0x00)) ≤ 2 := by decide
  have hdata : ∀ i < 7, readBit (flipBits [115, 155] ((⟨0x05, true, 0x02⟩ : EMB).encode fun _ => 0x00))
      (EMB.embPos i) = readBit ((⟨0x05, true, 0x02⟩ : EMB).encode fun _ => 0x00) (EMB.embPos i) := by decide
  exact ((noise_iff (⟨by decide, by decide⟩ : SlotType.Fits ⟨0x05, 0x01⟩)
    (⟨by decide, by decide⟩ : EMB.Fits ⟨0x05, true, 0x02⟩)
    (fun _ => 0x00) _ _ hslot hword).2.mpr hdata).2.1

/-- One error in the color code. -/
theorem color_code_flipped :
    errors EMB.embPos 16 ((⟨0x05, true, 0x02⟩ : EMB).encode fun _ => 0x00)
        (flipBit ((⟨0x05, true, 0x02⟩ : EMB).encode fun _ => 0x00) 108) = 1 ∧
      EMB.decode (flipBit ((⟨0x05, true, 0x02⟩ : EMB).encode fun _ => 0x00) 108) = ⟨0x0D, true, 0x02⟩ ∧
      (⟨0x0D, true, 0x02⟩ : EMB) ≠ ⟨0x05, true, 0x02⟩ := by
  decide

end Dmr

end DvmHost

import DvmHost.Common.Dmr.Data.Correctness.EmbeddedLc
import DvmHost.Host.Dmr.Packet.Voice

/-!
# `Host.Dmr.Packet.Correctness.BurstMiddle` — the middle of a voice burst

The 48 bits in the middle of a burst are the embedded signalling word, in two halves, and 32 bits of embedded data
between them. Regenerating the audio leaves all of it (`readBit_regenerateDMR`), silence and the word itself leave the
32 bits (`readBit_insertNullAudio`, `readBit_encodeEMB`), so the audio of a burst changes neither its word nor its data
(`readBit_regenerateAudio`, `decode_regenerateAudio`).
-/

namespace DvmHost

open Lib

namespace Dmr

/-! ## The embedded signalling word -/

/-- **The word** leaves the other bits, and so the 32 bits of embedded data. -/
theorem readBit_encodeEMB (emb : EMB) (data : Bytes) {k : Nat} (hk : k < 108 ∨ 116 ≤ k ∧ k < 148 ∨ 156 ≤ k) :
    readBit (emb.encode data) k = readBit data k := by
  obtain ⟨hmF0, hm0F⟩ := bitOf_nibbles (show k % 8 < 8 from Nat.mod_lt _ (by decide))
  rw [readBit_eq, readBit_eq]
  unfold EMB.encode
  by_cases hhigh : k / 8 = 13 ∨ k / 8 = 18
  · -- the half octet in front is kept
    rcases hhigh with ho | ho <;> rw [ho] <;> simp (disch := omega) only [setByte_of_ne, setByte_of_eq] <;>
      rw [bitOf_or, bitOf_and, bitOf_and, hmF0, hm0F, decide_eq_true (by omega), decide_eq_false (by omega),
        Bool.and_true, Bool.and_false, Bool.or_false]
  · by_cases hlow : k / 8 = 14 ∨ k / 8 = 19
    · rcases hlow with ho | ho <;> rw [ho] <;> simp (disch := omega) only [setByte_of_ne, setByte_of_eq] <;>
        rw [bitOf_or, bitOf_and, bitOf_and, hmF0, hm0F, decide_eq_true (by omega), decide_eq_false (by omega),
          Bool.and_true, Bool.and_false, Bool.or_false]
    · simp (disch := omega) only [setByte_of_ne]

/-- The half octets that the word is read from. -/
theorem decode_congr {a b : Bytes} (h13 : a 13 &&& 0x0F = b 13 &&& 0x0F) (h14 : a 14 &&& 0xF0 = b 14 &&& 0xF0) :
    EMB.decode a = EMB.decode b := by
  have hlow : ∀ v : BitVec 8, UInt8.ofBitVec v <<< (4 : UInt8) &&& 0xF0 =
      (UInt8.ofBitVec v &&& 0x0F) <<< (4 : UInt8) &&& 0xF0 := by decide +kernel
  have hhigh : ∀ v : BitVec 8, UInt8.ofBitVec v >>> (4 : UInt8) &&& 0x0F =
      (UInt8.ofBitVec v &&& 0xF0) >>> (4 : UInt8) &&& 0x0F := by decide +kernel
  unfold EMB.decode
  rw [show a 13 <<< (4 : UInt8) &&& 0xF0 = _ from hlow (a 13).toBitVec,
    show a 14 >>> (4 : UInt8) &&& 0x0F = _ from hhigh (a 14).toBitVec,
    show b 13 <<< (4 : UInt8) &&& 0xF0 = _ from hlow (b 13).toBitVec,
    show b 14 >>> (4 : UInt8) &&& 0x0F = _ from hhigh (b 14).toBitVec]
  simp only [UInt8.ofBitVec_toBitVec, h13, h14]

/-- Of two halves that are put together, each is there. -/
theorem joined_halves (v w : UInt8) : (v &&& 0xF0 ||| w &&& 0x0F) &&& 0x0F = w &&& 0x0F ∧
    (v &&& 0x0F ||| w &&& 0xF0) &&& 0xF0 = w &&& 0xF0 := by
  constructor
  · refine byte_ext fun j hj => ?_
    obtain ⟨hmF0, hm0F⟩ := bitOf_nibbles hj
    rw [bitOf_and, bitOf_or, bitOf_and, bitOf_and, hmF0, hm0F]
    by_cases h : j < 4 <;> simp [h, Nat.not_le.mpr, Nat.not_lt.mp]
  · refine byte_ext fun j hj => ?_
    obtain ⟨hmF0, hm0F⟩ := bitOf_nibbles hj
    rw [bitOf_and, bitOf_or, bitOf_and, bitOf_and, hmF0, hm0F]
    by_cases h : j < 4 <;> simp [h, Nat.not_le.mpr, Nat.not_lt.mp]

/-- The fields fit their bits. -/
structure EMB.Fits (emb : EMB) : Prop where
  colorCode : emb.colorCode < 16
  LCSS : emb.LCSS < 4

theorem fits_decode (data : Bytes) : (EMB.decode data).Fits := by
  have hfour : ∀ v : BitVec 8, UInt8.ofBitVec v &&& 0x0F < 16 := by decide +kernel
  have htwo : ∀ v : BitVec 8, UInt8.ofBitVec v &&& 0x03 < 4 := by decide +kernel
  exact ⟨hfour (UInt8.toBitVec _), htwo (UInt8.toBitVec _)⟩

/-- The octets that a word is read from, as it is written. -/
def wordOctets (emb : EMB) : Bytes := emb.encode fun _ => 0x00

/-- The table is systematic. -/
theorem decode_wordOctets : ∀ (colorCode : Fin 16) (PI : Bool) (LCSS : Fin 4),
    EMB.decode (wordOctets ⟨UInt8.ofNat colorCode.val, PI, UInt8.ofNat LCSS.val⟩) =
      ⟨UInt8.ofNat colorCode.val, PI, UInt8.ofNat LCSS.val⟩ := by
  decide +kernel

/-- **A word that is written reads back.** -/
theorem decode_encodeEMB {emb : EMB} (h : emb.Fits) (data : Bytes) : EMB.decode (emb.encode data) = emb := by
  have hsame : EMB.decode (emb.encode data) = EMB.decode (wordOctets emb) := by
    refine decode_congr ?_ ?_
    · unfold wordOctets EMB.encode
      dsimp only
      simp (disch := decide) only [setByte_of_ne, setByte_same]
      rw [(joined_halves _ _).1, (joined_halves _ _).1]
    · unfold wordOctets EMB.encode
      dsimp only
      simp (disch := decide) only [setByte_of_ne, setByte_same]
      rw [(joined_halves _ _).2, (joined_halves _ _).2]
  have hread := decode_wordOctets ⟨emb.colorCode.toNat, UInt8.lt_iff_toNat_lt.mp h.colorCode⟩ emb.PI
    ⟨emb.LCSS.toNat, UInt8.lt_iff_toNat_lt.mp h.LCSS⟩
  simp only [UInt8.ofNat_toNat] at hread
  rw [hsame, hread]

/-! ## The audio -/

/-- The bits of the frames are outside of the middle. -/
theorem ambePos_outside (table : List Nat) (h : ∀ pos ∈ table, pos < 72) {i : Nat} (hi : i < table.length)
    (frame : Fin 3) : AMBEFEC.ambePos (table.getD i 0) frame < 108 ∨ 156 ≤ AMBEFEC.ambePos (table.getD i 0) frame := by
  have hpos : table.getD i 0 < 72 := by
    rw [List.getD_eq_getElem _ _ hi]
    exact h _ (List.getElem_mem hi)
  match frame with
  | 0 =>
      show table.getD i 0 < 108 ∨ 156 ≤ table.getD i 0
      omega
  | 1 =>
      show (if table.getD i 0 + 72 ≥ 108 then table.getD i 0 + 72 + 48 else table.getD i 0 + 72) < 108 ∨
        156 ≤ (if table.getD i 0 + 72 ≥ 108 then table.getD i 0 + 72 + 48 else table.getD i 0 + 72)
      split <;> omega
  | 2 =>
      show table.getD i 0 + 192 < 108 ∨ 156 ≤ table.getD i 0 + 192
      omega

/-- Writing the words of a table leaves the middle. -/
theorem readBit_writeWords {table : List Nat} (h : ∀ pos ∈ table, pos < 72) (word : Fin 3 → Nat) (bytes : Bytes)
    {k : Nat} (hlo : 108 ≤ k) (hhi : k < 156) :
    readBit (AMBEFEC.writeWords table word bytes) k = readBit bytes k := by
  -- every write of the loops is at a position outside
  have hturn : ∀ (l : List (Fin 3)) (i : Nat) (hi : i < table.length) (bytes : Bytes),
      readBit (l.foldl (fun bytes frame => writeBit bytes (AMBEFEC.ambePos (table.getD i 0) frame)
        (DvmHost.LC.unpackWord table.length (word frame) (fun _ => false) i)) bytes) k = readBit bytes k := by
    intro l i hi
    induction l with
    | nil => exact fun _ => rfl
    | cons frame l ih =>
        intro bytes
        have hout := ambePos_outside table h hi frame
        rw [List.foldl_cons, ih, readBit_writeBit, if_neg (by omega)]
  have hloop : ∀ (turns : List Nat) (hturns : ∀ i ∈ turns, i < table.length) (bytes : Bytes),
      readBit (turns.foldl (fun bytes i => (List.finRange 3).foldl (fun bytes frame =>
        writeBit bytes (AMBEFEC.ambePos (table.getD i 0) frame)
          (DvmHost.LC.unpackWord table.length (word frame) (fun _ => false) i)) bytes) bytes) k = readBit bytes k := by
    intro turns hturns
    induction turns with
    | nil => exact fun _ => rfl
    | cons i turns ih =>
        intro bytes
        rw [List.foldl_cons, ih (fun j hj => hturns j (List.mem_cons_of_mem _ hj)),
          hturn _ i (hturns i List.mem_cons_self)]
  exact hloop _ (fun i hi => List.mem_range.mp hi) bytes

/-- **Regenerating the audio** leaves the middle. -/
theorem readBit_regenerateDMR (PRNG_TABLE : Nat → Nat) (data : Bytes) {k : Nat} (hlo : 108 ≤ k) (hhi : k < 156) :
    readBit (Slot.regenerateDMR PRNG_TABLE data).2 k = readBit data k := by
  unfold Slot.regenerateDMR
  cases hresult : AMBEFEC.regenerateDMR PRNG_TABLE data with
  | none => rfl
  | some result =>
      unfold AMBEFEC.regenerateDMR at hresult
      simp only [Option.bind_eq_bind, Option.bind_eq_some_iff] at hresult
      obtain ⟨w1, -, w2, -, w3, -, hresult⟩ := hresult
      rw [← Option.some.inj hresult]
      show readBit (AMBEFEC.writeWords _ _ (AMBEFEC.writeWords _ _ (AMBEFEC.writeWords _ _ data))) k = _
      rw [readBit_writeWords (by decide) _ _ hlo hhi, readBit_writeWords (by decide) _ _ hlo hhi,
        readBit_writeWords (by decide) _ _ hlo hhi]

/-- Silence leaves the 32 bits of embedded data. -/
theorem readBit_insertNullAudio (data : Bytes) {k : Nat} (hlo : 116 ≤ k) (hhi : k < 148) :
    readBit (insertNullAudio data) k = readBit data k := by
  have hoctet : 14 ≤ k / 8 ∧ k / 8 < 19 := by omega
  rw [readBit_eq, readBit_eq]
  unfold insertNullAudio
  dsimp only
  rw [memcpy_of_lt _ _ _ (by omega), setByte_of_ne _ _ (by omega), setByte_of_ne _ _ (by omega), memcpy,
    if_neg (by omega)]

/-- An octet by its bits. -/
theorem half_congr {a b : Bytes} {i : Nat} {mask : UInt8} (h : ∀ j < 8, bitOf mask j = true →
    readBit a (8 * i + j) = readBit b (8 * i + j)) : a i &&& mask = b i &&& mask := by
  refine byte_ext fun j hj => ?_
  rw [bitOf_and, bitOf_and]
  cases hm : bitOf mask j with
  | false => rw [Bool.and_false, Bool.and_false]
  | true =>
      have hbit := h j hj hm
      rw [readBit_octet a i hj, readBit_octet b i hj] at hbit
      rw [hbit]

/-- Regenerating the audio leaves the word. -/
theorem decode_regenerateDMR (PRNG_TABLE : Nat → Nat) (data : Bytes) :
    EMB.decode (Slot.regenerateDMR PRNG_TABLE data).2 = EMB.decode data := by
  refine decode_congr (half_congr fun j hj hm => ?_) (half_congr fun j hj hm => ?_)
  · have hhalf := (bitOf_nibbles hj).2.symm.trans hm
    exact readBit_regenerateDMR PRNG_TABLE data (by have := of_decide_eq_true hhalf; omega) (by omega)
  · exact readBit_regenerateDMR PRNG_TABLE data (by omega) (by omega)

/-- **The audio of a burst of the network** leaves its word. -/
theorem decode_netAudio (PRNG_TABLE : Nat → Nat) (lc : LC) (data : Bytes) :
    EMB.decode (Slot.netAudio PRNG_TABLE lc data) = EMB.decode data := by
  unfold Slot.netAudio
  split
  · exact decode_regenerateDMR PRNG_TABLE data
  · rfl

/-- **The audio of a burst of a radio** leaves its word and its embedded data. -/
theorem regenerateAudio_middle (PRNG_TABLE : Nat → Nat) (s : Slot) (lc : LC) (data : Bytes) :
    EMB.decode (Slot.regenerateAudio PRNG_TABLE s lc false data) = EMB.decode data ∧
      ∀ k, 116 ≤ k → k < 148 → readBit (Slot.regenerateAudio PRNG_TABLE s lc false data) k = readBit data k := by
  unfold Slot.regenerateAudio
  split
  · have hfirst := decode_regenerateDMR PRNG_TABLE data
    dsimp only
    split
    · refine ⟨?_, fun k hlo hhi => ?_⟩
      · rw [if_neg Bool.false_ne_true, decode_encodeEMB (fits_decode _), hfirst]
      · rw [if_neg Bool.false_ne_true, readBit_encodeEMB _ _ (.inr (.inl ⟨hlo, hhi⟩)),
          readBit_regenerateDMR _ _ (by omega) (by omega),
          readBit_insertNullAudio _ hlo hhi, readBit_regenerateDMR _ _ (by omega) (by omega)]
    · exact ⟨hfirst, fun k hlo hhi => readBit_regenerateDMR _ _ (by omega) (by omega)⟩
  · exact ⟨rfl, fun _ _ _ => rfl⟩

end Dmr

end DvmHost

import DvmHost.Lib.Blocks
import DvmHost.Common.Utils
import DvmHost.Common.Edac.Hamming

/-!
# `Common.Edac.BPTC19696` — the BPTC (196,96) block product turbo code

`src/common/edac/BPTC19696.cpp`. The 96 payload bits sit in nine rows of eleven; each row is completed to a
Hamming (15,11) word, each of the fifteen columns to a Hamming (13,9) word, and the 195 bits are interleaved
with one unused bit into the two halves of a burst. The member arrays `m_rawData` and `m_deInterData` are
written in full before they are read, so the functions pass them as values.
-/

namespace DvmHost

namespace BPTC19696

open Lib Lib.Blocks

/-- Row `r` of `m_deInterData`. -/
def rowPos (r i : Nat) : Nat := r * 15 + 1 + i

/-- Column `c` of `m_deInterData`. -/
def columnPos (c a : Nat) : Nat := c + 1 + 15 * a

/-- The interleave sequence. -/
def interleaveSequence (a : Nat) : Nat := (a * 181) % 196

/-- The bounds of the nine loops over the payload bits. -/
def dataRuns : List (Nat × Nat) :=
  [(4, 11), (16, 26), (31, 41), (46, 56), (61, 71), (76, 86), (91, 101), (106, 116), (121, 131)]

/-- The positions those loops visit, in order; the `pos`-th holds payload bit `pos`. -/
def dataPositions : List Nat := dataRuns.flatMap fun run => List.range' run.1 (run.2 + 1 - run.1)

/-! ## Decoding -/

/-- `decodeExtractBinary`. -/
def decodeExtractBinary (inp : Bytes) : Bits :=
  let rawData := unpackBytes inp 0 (fun _ => false) 0 13
  let bits := byteToBitsBE (inp 20) (fun _ => false) 0
  let rawData : Bits := fun k => if k = 98 then bits 6 else if k = 99 then bits 7 else rawData k
  unpackBytes inp 21 rawData 100 12

/-- `decodeDeInterleave`. -/
def decodeDeInterleave (rawData : Bits) : Bits :=
  scatter (List.range 196) id (fun a => rawData (interleaveSequence a)) (fun _ => false)

/-- One column of `decodeErrorCheck`: it is written back when it was fixed. -/
def columnStep (s : Bits × Bool) (c : Nat) : Bits × Bool :=
  let dec := Hamming.decode1393 (gather false 13 (columnPos c) s.1)
  if dec.1 then (scatter (List.range 13) (columnPos c) dec.2 s.1, true) else s

/-- One row of `decodeErrorCheck`, fixed in place. -/
def rowStep (s : Bits × Bool) (r : Nat) : Bits × Bool :=
  let dec := Hamming.decode15113_2 (gather false 15 (rowPos r) s.1)
  (scatter (List.range 15) (rowPos r) dec.2 s.1, s.2 || dec.1)

/-- One turn of the loop of `decodeErrorCheck`: the columns, then the nine rows with payload. -/
def decodePass (deInterData : Bits) : Bits × Bool :=
  (List.range 9).foldl rowStep ((List.range 15).foldl columnStep (deInterData, false))

/-- `do { .. count++; } while (fixing && count < n)`. -/
def errorCheckLoop : Nat → Bits → Bits
  | 0, deInterData => deInterData
  | n + 1, deInterData =>
      let pass := decodePass deInterData
      if pass.2 then errorCheckLoop n pass.1 else pass.1

/-- `decodeErrorCheck`. -/
def decodeErrorCheck (deInterData : Bits) : Bits := errorCheckLoop 5 deInterData

/-- `decodeExtractData`. -/
def decodeExtractData (deInterData : Bits) (data : Bytes) : Bytes :=
  packBytes (fun pos => deInterData (dataPositions.getD pos 0)) 0 data 0 12

/-- `decode`. -/
def decode (inp out : Bytes) : Bytes :=
  decodeExtractData (decodeErrorCheck (decodeDeInterleave (decodeExtractBinary inp))) out

/-! ## Encoding -/

/-- `encodeExtractData`. -/
def encodeExtractData (inp : Bytes) : Bits :=
  let bData := unpackBytes inp 0 (fun _ => false) 0 12
  scatter (List.range 96) (fun pos => dataPositions.getD pos 0) bData (fun _ => false)

/-- `encodeErrorCheck`: the rows with payload, then the columns. -/
def encodeErrorCheck (deInterData : Bits) : Bits :=
  let rows := (List.range 9).foldl (fun d r => onBlock false 15 (rowPos r) Hamming.encode15113_2 d) deInterData
  (List.range 15).foldl (fun d c => onBlock false 13 (columnPos c) Hamming.encode1393 d) rows

/-- `encodeInterleave`. -/
def encodeInterleave (deInterData : Bits) : Bits :=
  scatter (List.range 196) interleaveSequence deInterData (fun _ => false)

/-- `encodeExtractBinary`. Bytes 12 and 20 keep the bits of the slot type and sync. -/
def encodeExtractBinary (rawData : Bits) (data : Bytes) : Bytes :=
  let data := packBytes rawData 0 data 0 12
  let byte := bitsToByteBE rawData 96
  let data : Bytes := fun k =>
    if k = 12 then (data 12 &&& 0x3F) ||| ((byte >>> (0 : UInt8)) &&& 0xC0)
    else if k = 20 then (data 20 &&& 0xFC) ||| ((byte >>> (4 : UInt8)) &&& 0x03)
    else data k
  packBytes rawData 100 data 21 12

/-- `encode`. -/
def encode (inp out : Bytes) : Bytes :=
  encodeExtractBinary (encodeInterleave (encodeErrorCheck (encodeExtractData inp))) out

/-! ## The burst

Of the bits of a burst, `0 .. 97` and `166 .. 263` carry the code; the slot type and the sync lie between. -/

/-- The burst bit that carries interleaved bit `k`. -/
def framePos (k : Nat) : Nat := if k < 98 then k else k + 68

theorem framePos_inj {j k : Nat} (h : framePos j = framePos k) : j = k := by
  unfold framePos at h
  split at h <;> split at h <;> omega

theorem interleaveSequence_lt (a : Nat) : interleaveSequence a < 196 := Nat.mod_lt _ (by decide)

theorem interleaveSequence_inj {a b : Nat} (ha : a < 196) (hb : b < 196)
    (h : interleaveSequence a = interleaveSequence b) : a = b := by
  unfold interleaveSequence at h
  omega

theorem decodeExtractBinary_apply (inp : Bytes) {k : Nat} (hk : k < 196) :
    decodeExtractBinary inp k = readBit inp (framePos k) := by
  unfold decodeExtractBinary framePos
  rw [unpackBytes_apply, readBit_eq]
  by_cases h100 : 100 ≤ k
  · have hbyte : (k + 68) / 8 = 21 + (k - 100) / 8 := by omega
    have hbit : (k + 68) % 8 = (k - 100) % 8 := by omega
    rw [if_pos (by omega), if_neg (by omega), hbyte, hbit]
  · rw [if_neg (by omega), byteToBitsBE_apply, byteToBitsBE_apply, unpackBytes_apply]
    by_cases h98 : k < 98
    · rw [if_neg (by omega), if_neg (by omega), if_pos (by omega), if_pos h98, Nat.zero_add, Nat.sub_zero]
    · have hends : k = 98 ∨ k = 99 := by omega
      rcases hends with rfl | rfl <;> rfl

theorem bitOf_shiftRight_zero (b : UInt8) : b >>> (0 : UInt8) = b := by
  refine UInt8.toBitVec_inj.mp ?_
  simp

/-- A coded burst: the code's bits are the interleaved bits, the others those that were there. -/
theorem readBit_encodeExtractBinary (rawData : Bits) (data : Bytes) {i : Nat} (hi : i < 264) :
    readBit (encodeExtractBinary rawData data) i =
      if i < 98 then rawData i else if i < 166 then readBit data i else rawData (i - 68) := by
  have hmod : i % 8 < 8 := Nat.mod_lt i (by decide)
  obtain ⟨hmC0, hm3F, hmFC, hm03, -, -, -, -⟩ := bitOf_masks hmod
  rw [readBit_eq, readBit_eq]
  unfold encodeExtractBinary
  rw [packBytes_apply]
  by_cases h21 : 21 ≤ i / 8
  · rw [if_pos (by omega), bitOf_bitsToByteBE _ _ hmod, if_neg (by omega), if_neg (by omega)]
    congr 1
    omega
  · rw [if_neg (by omega), packBytes_apply, packBytes_apply, packBytes_apply]
    by_cases h12 : i / 8 = 12
    · rw [if_pos h12, if_neg (by omega), bitOf_or, bitOf_and, bitOf_and, bitOf_shiftRight_zero,
        bitOf_bitsToByteBE _ _ hmod, hm3F, hmC0, h12]
      by_cases hlow : i < 98
      · have hpos : 96 + i % 8 = i := by omega
        rw [if_pos hlow, decide_eq_false (by omega), decide_eq_true (by omega), hpos]
        simp
      · rw [if_neg hlow, if_pos (by omega), decide_eq_true (by omega), decide_eq_false (by omega)]
        simp
    · rw [if_neg h12]
      by_cases h20 : i / 8 = 20
      · rw [if_pos h20, if_neg (by omega : ¬ (0 ≤ 20 ∧ 20 < 0 + 12)), bitOf_or, bitOf_and, bitOf_and,
          bitOf_shiftRight_four _ hmod, hmFC, hm03, h20, if_neg (by omega : ¬ i < 98)]
        by_cases hhigh : i < 166
        · rw [if_pos hhigh, decide_eq_true (by omega : i % 8 < 6), decide_eq_false (by omega : ¬ 6 ≤ i % 8)]
          simp
        · have hpos : 96 + (i % 8 - 4) = i - 68 := by omega
          rw [if_neg hhigh, decide_eq_false (by omega : ¬ i % 8 < 6), decide_eq_true (by omega : 4 ≤ i % 8),
            decide_eq_true (by omega : 6 ≤ i % 8),
            bitOf_bitsToByteBE _ _ (by omega : i % 8 - 4 < 8), hpos]
          simp
      · rw [if_neg h20]
        by_cases hfirst : i / 8 < 12
        · have hpos : 0 + 8 * (i / 8 - 0) + i % 8 = i := by omega
          rw [if_pos (by omega), bitOf_bitsToByteBE _ _ hmod, if_pos (by omega), hpos]
        · rw [if_neg (by omega), if_neg (by omega), if_pos (by omega)]

theorem decodeDeInterleave_apply (rawData : Bits) {a : Nat} (ha : a < 196) :
    decodeDeInterleave rawData a = rawData (interleaveSequence a) := by
  have hid : ∀ b < 196, id b = id a → b = a := fun _ _ h => h
  exact scatter_range ha hid

theorem encodeInterleave_apply (deInterData : Bits) {a : Nat} (ha : a < 196) :
    encodeInterleave deInterData (interleaveSequence a) = deInterData a :=
  scatter_range ha (fun _ hb h => interleaveSequence_inj hb ha h)

end BPTC19696

end DvmHost

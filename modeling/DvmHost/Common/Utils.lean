import Mathlib
import DvmHost.Lib.Access

/-!
# `Common.Utils` — byte and bit arrays

The bit and word macros and conversions of `src/common/Utils.{h,cpp}` and the mask table of
`src/common/Defines.h`.
A byte buffer is a function of the index and so is a `bool` array; bit `i` of a buffer is bit `i % 8` of byte
`i / 8`, the most significant first. `bitOf` is the bit as a property of the byte, which every mask and shift
of the source is read through.
-/

namespace DvmHost

open Lib

/-- A `uint8_t` buffer. -/
abbrev Bytes := Nat → UInt8

/-- A `bool` buffer. -/
abbrev Bits := Nat → Bool

/-- `BIT_MASK_TABLE`. -/
def bitMaskTable (i : Nat) : UInt8 := [0x80, 0x40, 0x20, 0x10, 0x08, 0x04, 0x02, 0x01].getD i 0

/-- `READ_BIT(p, i)`, as the condition it is used as. -/
def readBit (p : Bytes) (i : Nat) : Bool := p (i / 8) &&& bitMaskTable (i % 8) ≠ 0

/-- `WRITE_BIT(p, i, b)`. -/
def writeBit (p : Bytes) (i : Nat) (b : Bool) : Bytes := fun k =>
  if k = i / 8 then
    if b then p (i / 8) ||| bitMaskTable (i % 8) else p (i / 8) &&& ~~~bitMaskTable (i % 8)
  else p k

/-- `Utils::byteToBitsBE`, writing at an offset of a bit array. -/
def byteToBitsBE (byte : UInt8) (bits : Bits) (off : Nat) : Bits := fun k =>
  if off ≤ k ∧ k < off + 8 then byte &&& bitMaskTable (k - off) = bitMaskTable (k - off) else bits k

/-- `Utils::bitsToByteBE`, reading at an offset of a bit array. -/
def bitsToByteBE (bits : Bits) (off : Nat) : UInt8 :=
  (if bits (off + 0) then 0x80 else 0x00) ||| (if bits (off + 1) then 0x40 else 0x00) |||
  (if bits (off + 2) then 0x20 else 0x00) ||| (if bits (off + 3) then 0x10 else 0x00) |||
  (if bits (off + 4) then 0x08 else 0x00) ||| (if bits (off + 5) then 0x04 else 0x00) |||
  (if bits (off + 6) then 0x02 else 0x00) ||| (if bits (off + 7) then 0x01 else 0x00)

/-- The lines `Utils::byteToBitsBE(in[first + i], bits + off + 8 * i)` for `i` below `n`. -/
def unpackBytes (inp : Bytes) (first : Nat) (bits : Bits) (off n : Nat) : Bits :=
  (List.range n).foldl (fun bits i => byteToBitsBE (inp (first + i)) bits (off + 8 * i)) bits

/-- The lines `Utils::bitsToByteBE(bits + off + 8 * i, out[first + i])` for `i` below `n`. -/
def packBytes (bits : Bits) (off : Nat) (out : Bytes) (first n : Nat) : Bytes :=
  (List.range n).foldl (fun out i k => if k = first + i then bitsToByteBE bits (off + 8 * i) else out k) out

/-- The loop `for i < n { WRITE_BIT(p, w * i, bit i 0); WRITE_BIT(p, w * i + 1, bit i 1); .. }` that writes `w`
    bits in each turn. -/
def writeBitRun (p : Bytes) (w n : Nat) (bit : Nat → Nat → Bool) : Bytes :=
  (List.range n).foldl (fun p i => (List.range w).foldl (fun p j => writeBit p (w * i + j) (bit i j)) p) p

/-- The loop `for i < length { b = READ_BIT(src, srcOff + i); WRITE_BIT(dst, dstOff + i, b); }`. -/
def copyBits (dst : Bytes) (dstOff : Nat) (src : Bytes) (srcOff length : Nat) : Bytes :=
  (List.range length).foldl (fun p i => writeBit p (dstOff + i) (readBit src (srcOff + i))) dst

/-- `B2(n)`, and the larger macros that fill `BITS_TABLE`. -/
def B2 (n : Nat) : List Nat := [n, n + 1, n + 1, n + 2]

/-- `B4(n)`. -/
def B4 (n : Nat) : List Nat := B2 n ++ B2 (n + 1) ++ B2 (n + 1) ++ B2 (n + 2)

/-- `B6(n)`. -/
def B6 (n : Nat) : List Nat := B4 n ++ B4 (n + 1) ++ B4 (n + 1) ++ B4 (n + 2)

/-- `BITS_TABLE`. -/
def BITS_TABLE : List Nat := B6 0 ++ B6 1 ++ B6 1 ++ B6 2

/-- `Utils::countBits32`: the bits of the four octets. -/
def countBits32 (bits : Nat) : Nat :=
  BITS_TABLE.getD (bits % 256) 0 + BITS_TABLE.getD (bits >>> 8 % 256) 0 +
    BITS_TABLE.getD (bits >>> 16 % 256) 0 + BITS_TABLE.getD (bits >>> 24 % 256) 0

/-- `Utils::bin2Hex`, reading six bits at an offset. -/
def bin2Hex (input : Bytes) (offset : Nat) : UInt8 :=
  (if readBit input (offset + 0) then 0x20 else 0x00) |||
  (if readBit input (offset + 1) then 0x10 else 0x00) |||
  (if readBit input (offset + 2) then 0x08 else 0x00) |||
  (if readBit input (offset + 3) then 0x04 else 0x00) |||
  (if readBit input (offset + 4) then 0x02 else 0x00) ||| (if readBit input (offset + 5) then 0x01 else 0x00)

/-- The masks `0x20U, 0x10U, ..` of `hex2Bin`. -/
def hexMask (t : Nat) : UInt8 := [0x20, 0x10, 0x08, 0x04, 0x02, 0x01].getD t 0

/-- `Utils::hex2Bin`, writing six bits at an offset. -/
def hex2Bin (input : UInt8) (output : Bytes) (offset : Nat) : Bytes :=
  (List.range 6).foldl (fun output t => writeBit output (offset + t) (input &&& hexMask t ≠ 0)) output

/-- `p[i] = b`. -/
def setByte (p : Bytes) (i : Nat) (b : UInt8) : Bytes := fun k => if k = i then b else p k

/-- `__SET_UINT32(val, buffer, offset)`. -/
def setUInt32 (val : UInt32) (buffer : Bytes) (offset : Nat) : Bytes :=
  let buffer := setByte buffer (0 + offset) (val >>> (24 : UInt32) &&& 0xFF).toUInt8
  let buffer := setByte buffer (1 + offset) (val >>> (16 : UInt32) &&& 0xFF).toUInt8
  let buffer := setByte buffer (2 + offset) (val >>> (8 : UInt32) &&& 0xFF).toUInt8
  setByte buffer (3 + offset) (val >>> (0 : UInt32) &&& 0xFF).toUInt8

/-- What the pointer `p + n` points to. -/
def fromByte (n : Nat) (p : Bytes) : Bytes := fun i => p (n + i)

/-- `memcpy(dst + off, src, n)`. -/
def memcpy (dst : Bytes) (off : Nat) (src : Bytes) (n : Nat) : Bytes := fun k =>
  if off ≤ k ∧ k < off + n then src (k - off) else dst k

/-- A call on the pointer `p + n`. -/
def onTail (n : Nat) (f : Bytes → Bytes) (p : Bytes) : Bytes := fun k =>
  if k < n then p k else f (fromByte n p) (k - n)

/-- The word of four octets, most significant first. -/
def word32 (b0 b1 b2 b3 : UInt8) : UInt32 :=
  b0.toUInt32 <<< (24 : UInt32) ||| b1.toUInt32 <<< (16 : UInt32) ||| b2.toUInt32 <<< (8 : UInt32) |||
    b3.toUInt32 <<< (0 : UInt32)

/-- The word of three octets, most significant first: `b0 << 16 | b1 << 8 | b2`. -/
def word24 (b0 b1 b2 : UInt8) : UInt32 :=
    b0.toUInt32 <<< (16 : UInt32) ||| b1.toUInt32 <<< (8 : UInt32) ||| b2.toUInt32

/-- `__GET_UINT16(buffer, offset)`, a word of three octets. -/
def getUInt16 (buffer : Bytes) (offset : Nat) : UInt32 :=
  word24 (buffer (offset + 0)) (buffer (offset + 1)) (buffer (offset + 2))

/-- The sum `(b0 << 16) + (b1 << 8) + b2` of three octets. -/
def sum24 (b0 b1 b2 : UInt8) : UInt32 :=
    b0.toUInt32 <<< (16 : UInt32) + b1.toUInt32 <<< (8 : UInt32) + b2.toUInt32

/-- The word of two octets, most significant first: `(data[0] << 8) | (data[1] << 0)`. -/
def word16 (b0 b1 : UInt8) : UInt16 := b0.toUInt16 <<< (8 : UInt16) ||| b1.toUInt16 <<< (0 : UInt16)

/-- `__GET_UINT32(buffer, offset)`. -/
def getUInt32 (offset : Nat) : Access UInt8 UInt32 := do
  let b0 ← Access.cell (offset + 0)
  let b1 ← Access.cell (offset + 1)
  let b2 ← Access.cell (offset + 2)
  let b3 ← Access.cell (offset + 3)
  pure (word32 b0 b1 b2 b3)

/-! ## Bits of a byte -/

/-- Bit `j` of a byte, the most significant first. -/
def bitOf (b : UInt8) (j : Nat) : Bool := b.toBitVec.getMsbD j

attribute [grind =] bitOf

theorem bitOf_of_ge (b : UInt8) {j : Nat} (h : 8 ≤ j) : bitOf b j = false := by
  unfold bitOf
  rw [BitVec.getMsbD, decide_eq_false (by omega), Bool.false_and]

@[simp] theorem bitOf_and (a b : UInt8) (j : Nat) : bitOf (a &&& b) j = (bitOf a j && bitOf b j) := by
  simp [bitOf]

@[simp] theorem bitOf_or (a b : UInt8) (j : Nat) : bitOf (a ||| b) j = (bitOf a j || bitOf b j) := by
  simp [bitOf]

@[simp] theorem bitOf_xor (a b : UInt8) (j : Nat) : bitOf (a ^^^ b) j = (bitOf a j ^^ bitOf b j) := by
  simp [bitOf]

/-- Bytes with the same eight bits are the same. -/
theorem byte_ext {a b : UInt8} (h : ∀ j < 8, bitOf a j = bitOf b j) : a = b := by
  refine UInt8.toBitVec_inj.mp (BitVec.eq_of_getMsbD_eq fun j hj => ?_)
  exact h j hj

theorem bitOf_bitMask {i j : Nat} (hi : i < 8) (hj : j < 8) : bitOf (bitMaskTable i) j = decide (j = i) := by
  have h : ∀ i j : Fin 8, bitOf (bitMaskTable i) j = decide (j.val = i.val) := by decide
  exact h ⟨i, hi⟩ ⟨j, hj⟩

@[simp] theorem bitOf_zero (j : Nat) : bitOf 0 j = false := by
  rcases Nat.lt_or_ge j 8 with hj | hj
  · have h : ∀ j : Fin 8, bitOf 0 j = false := by decide
    exact h ⟨j, hj⟩
  · exact bitOf_of_ge 0 hj

/-- A mask leaves its bit. -/
theorem bitOf_and_bitMask (b : UInt8) {j k : Nat} (hj : j < 8) (hk : k < 8) :
    bitOf (b &&& bitMaskTable j) k = (bitOf b k && decide (k = j)) := by
  rw [bitOf_and, bitOf_bitMask hj hk]

/-- The byte-level test of a mask is the bit. -/
theorem and_bitMask_ne_zero (b : UInt8) {j : Nat} (hj : j < 8) :
    decide (b &&& bitMaskTable j ≠ 0) = bitOf b j := by
  have hbit : bitOf (b &&& bitMaskTable j) j = bitOf b j := by
    rw [bitOf_and_bitMask b hj hj, decide_eq_true rfl, Bool.and_true]
  cases hb : bitOf b j with
  | false =>
      refine decide_eq_false (not_not.mpr (byte_ext fun k hk => ?_))
      rw [bitOf_and_bitMask b hj hk, bitOf_zero]
      by_cases hkj : k = j
      · rw [hkj, hb, Bool.false_and]
      · rw [decide_eq_false hkj, Bool.and_false]
  | true =>
      refine decide_eq_true fun hzero => ?_
      rw [hzero, bitOf_zero, hb] at hbit
      exact Bool.noConfusion hbit

theorem and_bitMask_eq (b : UInt8) {j : Nat} (hj : j < 8) :
    decide (b &&& bitMaskTable j = bitMaskTable j) = bitOf b j := by
  have hbit : bitOf (b &&& bitMaskTable j) j = bitOf b j := by
    rw [bitOf_and_bitMask b hj hj, decide_eq_true rfl, Bool.and_true]
  cases hb : bitOf b j with
  | false =>
      refine decide_eq_false fun hsame => ?_
      rw [hsame, bitOf_bitMask hj hj, hb, decide_eq_true rfl] at hbit
      exact Bool.noConfusion hbit
  | true =>
      refine decide_eq_true (byte_ext fun k hk => ?_)
      rw [bitOf_and_bitMask b hj hk, bitOf_bitMask hj hk]
      by_cases hkj : k = j
      · rw [hkj, hb, Bool.true_and]
      · rw [decide_eq_false hkj, Bool.and_false]

theorem bitOf_compl (b : UInt8) {j : Nat} (hj : j < 8) : bitOf (~~~b) j = !bitOf b j := by
  simp [bitOf, hj]

theorem bitOf_eq_testBit (b : UInt8) {j : Nat} (hj : j < 8) : bitOf b j = b.toNat.testBit (7 - j) := by
  unfold bitOf
  rw [BitVec.getMsbD_eq_getLsbD, decide_eq_true hj, Bool.true_and]
  rfl

theorem bitOf_shiftLeft (b s : UInt8) (hs : s < 8) (j : Nat) : bitOf (b <<< s) j = bitOf b (j + s.toNat) := by
  have hlt : s.toNat < 8 := UInt8.lt_iff_toNat_lt.mp hs
  by_cases hj : j < 8
  · rw [bitOf_eq_testBit _ hj, UInt8.toNat_shiftLeft, Nat.mod_eq_of_lt hlt, Nat.testBit_mod_two_pow,
      decide_eq_true (by omega), Bool.true_and, Nat.testBit_shiftLeft]
    by_cases hin : j + s.toNat < 8
    · rw [decide_eq_true (by omega), Bool.true_and, bitOf_eq_testBit _ hin, Nat.sub_sub]
    · rw [decide_eq_false (by omega), Bool.false_and, bitOf_of_ge _ (by omega)]
  · rw [bitOf_of_ge _ (by omega), bitOf_of_ge _ (by omega)]

theorem bitOf_shiftRight (b s : UInt8) (hs : s < 8) {j : Nat} (hj : j < 8) :
    bitOf (b >>> s) j = (decide (s.toNat ≤ j) && bitOf b (j - s.toNat)) := by
  have hlt : s.toNat < 8 := UInt8.lt_iff_toNat_lt.mp hs
  rw [bitOf_eq_testBit _ hj, UInt8.toNat_shiftRight, Nat.mod_eq_of_lt hlt, Nat.testBit_shiftRight]
  by_cases hin : s.toNat ≤ j
  · have hpos : s.toNat + (7 - j) = 7 - (j - s.toNat) := by omega
    rw [decide_eq_true hin, Bool.true_and, bitOf_eq_testBit _ (by omega), hpos]
  · have hbig : b.toNat < 2 ^ (s.toNat + (7 - j)) :=
      Nat.lt_of_lt_of_le b.toNat_lt (Nat.pow_le_pow_right (by decide) (by omega))
    rw [decide_eq_false hin, Bool.false_and, Nat.testBit_lt_two_pow hbig]

theorem bitOf_shiftRight_four (b : UInt8) {j : Nat} (hj : j < 8) :
    bitOf (b >>> (4 : UInt8)) j = (decide (4 ≤ j) && bitOf b (j - 4)) :=
  bitOf_shiftRight b 4 (by decide) hj

/-- Where the bits of the masks are. -/
theorem bitOf_masks {j : Nat} (hj : j < 8) : bitOf 0xC0 j = decide (j < 2) ∧ bitOf 0x3F j = decide (2 ≤ j) ∧
    bitOf 0xFC j = decide (j < 6) ∧ bitOf 0x03 j = decide (6 ≤ j) ∧ bitOf 0x30 j = decide (2 ≤ j ∧ j < 4) ∧
    bitOf 0x3C j = decide (2 ≤ j ∧ j < 6) ∧ bitOf 0xF0 j = decide (j < 4) ∧ bitOf 0x0F j = decide (4 ≤ j) := by
  have hall : ∀ j : Fin 8, bitOf 0xC0 j = decide (j.val < 2) ∧ bitOf 0x3F j = decide (2 ≤ j.val) ∧
      bitOf 0xFC j = decide (j.val < 6) ∧ bitOf 0x03 j = decide (6 ≤ j.val) ∧
      bitOf 0x30 j = decide (2 ≤ j.val ∧ j.val < 4) ∧ bitOf 0x3C j = decide (2 ≤ j.val ∧ j.val < 6) ∧
      bitOf 0xF0 j = decide (j.val < 4) ∧ bitOf 0x0F j = decide (4 ≤ j.val) := by decide
  exact hall ⟨j, hj⟩

/-- The two halves of an octet. -/
theorem bitOf_nibbles {j : Nat} (hj : j < 8) : bitOf 0xF0 j = decide (j < 4) ∧ bitOf 0x0F j = decide (4 ≤ j) := by
  obtain ⟨-, -, -, -, -, -, hF0, h0F⟩ := bitOf_masks hj
  exact ⟨hF0, h0F⟩

/-! ## Reading and writing -/

theorem readBit_eq (p : Bytes) (i : Nat) : readBit p i = bitOf (p (i / 8)) (i % 8) :=
  and_bitMask_ne_zero _ (Nat.mod_lt i (by decide))

/-- The bits of an octet. -/
theorem readBit_octet (p : Bytes) (i : Nat) {j : Nat} (hj : j < 8) : readBit p (8 * i + j) = bitOf (p i) j := by
  have hdiv : (8 * i + j) / 8 = i := by omega
  have hmod : (8 * i + j) % 8 = j := by omega
  rw [readBit_eq, hdiv, hmod]

/-- A written bit reads back, and no other bit changes. -/
theorem readBit_writeBit (p : Bytes) (i : Nat) (b : Bool) (k : Nat) :
    readBit (writeBit p i b) k = if k = i then b else readBit p k := by
  have hi : i % 8 < 8 := Nat.mod_lt i (by decide)
  have hk : k % 8 < 8 := Nat.mod_lt k (by decide)
  rw [readBit_eq, readBit_eq]
  unfold writeBit
  by_cases hbyte : k / 8 = i / 8
  · have hsame : k = i ↔ k % 8 = i % 8 := by omega
    rw [if_pos hbyte, hbyte]
    cases b
    · rw [if_neg Bool.false_ne_true, bitOf_and, bitOf_compl _ hk, bitOf_bitMask hi hk]
      by_cases hki : k = i
      · simp [hki]
      · simp [hki, hsame.not.mp hki]
    · rw [if_pos rfl, bitOf_or, bitOf_bitMask hi hk]
      by_cases hki : k = i
      · simp [hki]
      · simp [hki, hsame.not.mp hki]
  · rw [if_neg hbyte, if_neg (fun hki : k = i => hbyte (by rw [hki]))]

/-- The bit array of a byte. -/
theorem byteToBitsBE_apply (byte : UInt8) (bits : Bits) (off k : Nat) :
    byteToBitsBE byte bits off k = if off ≤ k ∧ k < off + 8 then bitOf byte (k - off) else bits k := by
  unfold byteToBitsBE
  split
  · exact and_bitMask_eq byte (by omega)
  · rfl

/-- The byte of eight bits. -/
theorem bitOf_bitsToByteBE (bits : Bits) (off : Nat) {j : Nat} (hj : j < 8) :
    bitOf (bitsToByteBE bits off) j = bits (off + j) := by
  have hbit : ∀ (c : Bool) (i : Nat), i < 8 →
      bitOf (if c then bitMaskTable i else 0x00) j = (c && decide (j = i)) := by
    intro c i hi
    cases c
    · exact bitOf_zero j
    · rw [if_pos rfl, bitOf_bitMask hi hj, Bool.true_and]
  have hsum : bitOf (bitsToByteBE bits off) j =
      (bits (off + 0) && decide (j = 0) || bits (off + 1) && decide (j = 1) ||
       bits (off + 2) && decide (j = 2) || bits (off + 3) && decide (j = 3) ||
       bits (off + 4) && decide (j = 4) || bits (off + 5) && decide (j = 5) ||
       bits (off + 6) && decide (j = 6) || bits (off + 7) && decide (j = 7)) := by
    rw [← hbit _ 0 (by decide), ← hbit _ 1 (by decide), ← hbit _ 2 (by decide), ← hbit _ 3 (by decide),
      ← hbit _ 4 (by decide), ← hbit _ 5 (by decide), ← hbit _ 6 (by decide), ← hbit _ 7 (by decide)]
    simp only [← bitOf_or]
    rfl
  rw [hsum]
  have h8 : j = 0 ∨ j = 1 ∨ j = 2 ∨ j = 3 ∨ j = 4 ∨ j = 5 ∨ j = 6 ∨ j = 7 := by omega
  rcases h8 with rfl | rfl | rfl | rfl | rfl | rfl | rfl | rfl <;> simp

/-- A byte is the byte of its bits. -/
theorem bitsToByteBE_eq {bits : Bits} {off : Nat} {b : UInt8} (h : ∀ j < 8, bits (off + j) = bitOf b j) :
    bitsToByteBE bits off = b :=
  byte_ext fun j hj => by rw [bitOf_bitsToByteBE bits off hj, h j hj]

theorem unpackBytes_apply (inp : Bytes) (first : Nat) (bits : Bits) (off n k : Nat) :
    unpackBytes inp first bits off n k =
      if off ≤ k ∧ k < off + 8 * n then bitOf (inp (first + (k - off) / 8)) ((k - off) % 8) else bits k := by
  unfold unpackBytes
  induction n with
  | zero => rw [if_neg (by omega)]; rfl
  | succ n ih =>
      rw [List.range_succ, List.foldl_append, List.foldl_cons, List.foldl_nil, byteToBitsBE_apply, ih]
      by_cases hlast : off + 8 * n ≤ k ∧ k < off + 8 * n + 8
      · have hbyte : (k - off) / 8 = n := by omega
        have hbit : (k - off) % 8 = k - (off + 8 * n) := by omega
        rw [if_pos hlast, if_pos (by omega), hbyte, hbit]
      · rw [if_neg hlast]
        by_cases hin : off ≤ k ∧ k < off + 8 * n
        · rw [if_pos hin, if_pos (by omega)]
        · rw [if_neg hin, if_neg (by omega)]

theorem packBytes_apply (bits : Bits) (off : Nat) (out : Bytes) (first n k : Nat) :
    packBytes bits off out first n k =
      if first ≤ k ∧ k < first + n then bitsToByteBE bits (off + 8 * (k - first)) else out k := by
  unfold packBytes
  induction n with
  | zero => rw [if_neg (by omega)]; rfl
  | succ n ih =>
      rw [List.range_succ, List.foldl_append, List.foldl_cons, List.foldl_nil, ih]
      by_cases hlast : k = first + n
      · rw [if_pos hlast, if_pos (by omega), hlast, Nat.add_sub_cancel_left]
      · rw [if_neg hlast]
        by_cases hin : first ≤ k ∧ k < first + n
        · rw [if_pos hin, if_pos (by omega)]
        · rw [if_neg hin, if_neg (by omega)]

theorem readBit_writeBits (p : Bytes) (off w : Nat) (bit : Nat → Bool) (k : Nat) :
    readBit ((List.range w).foldl (fun p j => writeBit p (off + j) (bit j)) p) k =
      if off ≤ k ∧ k < off + w then bit (k - off) else readBit p k := by
  induction w with
  | zero => rw [if_neg (by omega)]; rfl
  | succ w ih =>
      rw [List.range_succ, List.foldl_append, List.foldl_cons, List.foldl_nil, readBit_writeBit, ih]
      by_cases hlast : k = off + w
      · rw [if_pos hlast, if_pos (by omega), hlast, Nat.add_sub_cancel_left]
      · rw [if_neg hlast]
        by_cases hin : off ≤ k ∧ k < off + w
        · rw [if_pos hin, if_pos (by omega)]
        · rw [if_neg hin, if_neg (by omega)]

theorem readBit_copyBits (dst : Bytes) (dstOff : Nat) (src : Bytes) (srcOff length k : Nat) :
    readBit (copyBits dst dstOff src srcOff length) k =
      if dstOff ≤ k ∧ k < dstOff + length then readBit src (srcOff + (k - dstOff)) else readBit dst k :=
    readBit_writeBits dst dstOff length (fun i => readBit src (srcOff + i)) k

/-- The bits of a writing loop. -/
theorem readBit_writeBitRun (p : Bytes) {w : Nat} (hw : 0 < w) (n : Nat) (bit : Nat → Nat → Bool) (k : Nat) :
    readBit (writeBitRun p w n bit) k = if k < w * n then bit (k / w) (k % w) else readBit p k := by
  unfold writeBitRun
  induction n with
  | zero => rw [if_neg (by omega)]; rfl
  | succ n ih =>
      rw [List.range_succ, List.foldl_append, List.foldl_cons, List.foldl_nil, readBit_writeBits, ih,
        Nat.mul_succ]
      by_cases hlast : w * n ≤ k ∧ k < w * n + w
      · have hdiv : k / w = n := by
          rw [Nat.div_eq_iff hw]
          constructor <;> [rw [Nat.mul_comm]; rw [Nat.mul_comm]] <;> omega
        have hmod : k % w = k - w * n := by rw [Nat.mod_def, hdiv]
        rw [if_pos hlast, if_pos hlast.2, hdiv, hmod]
      · rw [if_neg hlast]
        by_cases hin : k < w * n
        · rw [if_pos hin, if_pos (by omega)]
        · rw [if_neg hin, if_neg (by omega)]

/-- Buffers that agree on bits agree on octets. -/
theorem byte_of_bits {p q : Bytes} {n : Nat} (h : ∀ b < 8 * n, readBit p b = readBit q b) {i : Nat}
    (hi : i < n) :
    p i = q i := by
  apply byte_ext
  intro j hj
  have hb := h (8 * i + j) (by omega)
  rwa [readBit_octet p i hj, readBit_octet q i hj] at hb

/-- Buffers with the same bits are the same. -/
theorem bytes_ext {p q : Bytes} (h : ∀ k, readBit p k = readBit q k) : p = q := by
  funext i
  exact byte_of_bits (n := i + 1) (fun b _ => h b) (Nat.lt_succ_self i)

/-! ## Pointers into a buffer -/

theorem readBit_fromByte (n : Nat) (p : Bytes) (k : Nat) :
    readBit (fromByte n p) k = readBit p (8 * n + k) := by
  have hbyte : (8 * n + k) / 8 = n + k / 8 := by omega
  have hbit : (8 * n + k) % 8 = k % 8 := by omega
  rw [readBit_eq, readBit_eq, hbyte, hbit]
  rfl

/-- The call saw, and left, what the pointer points to. -/
theorem fromByte_onTail (n : Nat) (f : Bytes → Bytes) (p : Bytes) : fromByte n (onTail n f p) = f (fromByte n p) := by
  funext i
  unfold fromByte onTail
  rw [if_neg (by omega), Nat.add_sub_cancel_left]
  rfl

theorem readBit_onTail (n : Nat) (f : Bytes → Bytes) (p : Bytes) (k : Nat) :
    readBit (onTail n f p) k = if k < 8 * n then readBit p k else readBit (f (fromByte n p)) (k - 8 * n) := by
  rw [readBit_eq, readBit_eq]
  unfold onTail
  by_cases hk : k < 8 * n
  · rw [if_pos hk, if_pos (by omega)]
  · have hbyte : (k - 8 * n) / 8 = k / 8 - n := by omega
    have hbit : (k - 8 * n) % 8 = k % 8 := by omega
    rw [if_neg hk, if_neg (by omega), readBit_eq, hbyte, hbit]

theorem memcpy_of_lt (dst : Bytes) {off k : Nat} (src : Bytes) (n : Nat) (hk : k < off) :
    memcpy dst off src n k = dst k :=
    if_neg fun h => Nat.not_lt.mpr h.1 hk

theorem memcpy_add (dst : Bytes) (off : Nat) (src : Bytes) {n k : Nat} (hk : k < n) :
    memcpy dst off src n (off + k) = src k := by
  unfold memcpy
  rw [if_pos ⟨Nat.le_add_right off k, by omega⟩, Nat.add_sub_cancel_left]

theorem memcpy_congr (dst : Bytes) (off : Nat) {src src' : Bytes} {n : Nat} (h : ∀ k < n, src k = src' k) :
    memcpy dst off src n = memcpy dst off src' n := by
  funext k
  unfold memcpy
  split
  · exact h _ (by omega)
  · rfl

/-! ## Hexbits -/

/-- A mask of `hex2Bin` selects the bit. -/
theorem and_hexMask_ne_zero (b : UInt8) {t : Nat} (ht : t < 6) :
    decide (b &&& hexMask t ≠ 0) = bitOf b (t + 2) := by
  have hmask : ∀ t : Fin 6, hexMask t = bitMaskTable (t + 2) := by decide
  have hm : hexMask t = bitMaskTable (t + 2) := hmask ⟨t, ht⟩
  rw [hm]
  exact and_bitMask_ne_zero b (by omega)

/-- The bits of a hexbit. -/
theorem bitOf_bin2Hex (p : Bytes) (off : Nat) {j : Nat} (hj : j < 8) :
    bitOf (bin2Hex p off) j = (decide (2 ≤ j) && readBit p (off + (j - 2))) := by
  have hbit : ∀ (c : Bool) (i : Nat), i < 8 →
      bitOf (if c then bitMaskTable i else 0x00) j = (c && decide (j = i)) := by
    intro c i hi
    cases c
    · exact bitOf_zero j
    · rw [if_pos rfl, bitOf_bitMask hi hj, Bool.true_and]
  have hsum : bitOf (bin2Hex p off) j =
      (readBit p (off + 0) && decide (j = 2) || readBit p (off + 1) && decide (j = 3) ||
       readBit p (off + 2) && decide (j = 4) || readBit p (off + 3) && decide (j = 5) ||
       readBit p (off + 4) && decide (j = 6) || readBit p (off + 5) && decide (j = 7)) := by
    rw [← hbit _ 2 (by decide), ← hbit _ 3 (by decide), ← hbit _ 4 (by decide), ← hbit _ 5 (by decide),
      ← hbit _ 6 (by decide), ← hbit _ 7 (by decide)]
    simp only [← bitOf_or]
    rfl
  rw [hsum]
  have h8 : j = 0 ∨ j = 1 ∨ j = 2 ∨ j = 3 ∨ j = 4 ∨ j = 5 ∨ j = 6 ∨ j = 7 := by omega
  rcases h8 with rfl | rfl | rfl | rfl | rfl | rfl | rfl | rfl <;> simp

/-- The bits that a hexbit is written into. -/
theorem readBit_hex2Bin (s : UInt8) (p : Bytes) (off k : Nat) :
    readBit (hex2Bin s p off) k = if off ≤ k ∧ k < off + 6 then bitOf s (k - off + 2) else readBit p k := by
  unfold hex2Bin
  rw [readBit_writeBits]
  split
  · exact and_hexMask_ne_zero s (by omega)
  · rfl

/-- A buffer of hexbits written one behind the other. -/
theorem readBit_foldl_hex2Bin (sym : Nat → UInt8) (n : Nat) (p : Bytes) (k : Nat) :
    readBit ((List.range n).foldl (fun p i => hex2Bin (sym i) p (6 * i)) p) k =
      if k < 6 * n then bitOf (sym (k / 6)) (k % 6 + 2) else readBit p k := by
  induction n with
  | zero => rw [if_neg (by omega)]; rfl
  | succ n ih =>
      rw [List.range_succ, List.foldl_append, List.foldl_cons, List.foldl_nil, readBit_hex2Bin, ih]
      by_cases hlast : 6 * n ≤ k ∧ k < 6 * n + 6
      · have hdiv : k / 6 = n := by omega
        have hmod : k % 6 = k - 6 * n := by omega
        rw [if_pos hlast, if_pos (by omega), hdiv, hmod]
      · rw [if_neg hlast]
        by_cases hin : k < 6 * n
        · rw [if_pos hin, if_pos (by omega)]
        · rw [if_neg hin, if_neg (by omega)]

/-- A hexbit that is written reads back. -/
theorem bin2Hex_eq {p : Bytes} {off : Nat} {s : UInt8} (h0 : bitOf s 0 = false) (h1 : bitOf s 1 = false)
    (h : ∀ t < 6, readBit p (off + t) = bitOf s (t + 2)) : bin2Hex p off = s := by
  apply byte_ext
  intro j hj
  rw [bitOf_bin2Hex p off hj]
  rcases Nat.lt_or_ge j 2 with hlow | hhigh
  · have h01 : j = 0 ∨ j = 1 := by omega
    rcases h01 with rfl | rfl
    · rw [h0]
      rfl
    · rw [h1]
      rfl
  · have hj2 : j - 2 + 2 = j := by omega
    rw [decide_eq_true hhigh, Bool.true_and, h (j - 2) (by omega), hj2]

/-! ## Words -/

@[simp] theorem setByte_same (p : Bytes) (i : Nat) (b : UInt8) : setByte p i b i = b := if_pos rfl

theorem setByte_of_eq (p : Bytes) {i k : Nat} (b : UInt8) (h : k = i) : setByte p i b k = b := if_pos h

theorem setByte_of_ne (p : Bytes) {i k : Nat} (b : UInt8) (h : k ≠ i) : setByte p i b k = p k := if_neg h

/-- A word is written into its four octets only. -/
theorem setUInt32_of_notMem (v : UInt32) (p : Bytes) {offset k : Nat} (h : k < offset ∨ offset + 4 ≤ k) :
    setUInt32 v p offset k = p k := by
  unfold setUInt32
  simp (disch := omega) only [setByte_of_ne]

/-- A bit of an octet of a word. -/
theorem getLsbD_octet {w : Nat} (v : BitVec w) (hw : 8 ≤ w) (k i : Nat) :
    ((v >>> k &&& (255#8).setWidth w).setWidth 8).getLsbD i = (decide (i < 8) && v.getLsbD (k + i)) := by
  rw [BitVec.getLsbD_setWidth, BitVec.getLsbD_and, BitVec.getLsbD_ushiftRight, BitVec.getLsbD_setWidth]
  by_cases hi : i < 8
  · have hmask : ∀ j : Fin 8, (255#8).getLsbD j = true := by decide
    have hbit : (255#8).getLsbD i = true := hmask ⟨i, hi⟩
    have hiw : i < w := Nat.lt_of_lt_of_le hi hw
    rw [hbit, decide_eq_true hiw, Bool.and_true, Bool.and_true]
  · rw [decide_eq_false hi, Bool.false_and, Bool.false_and]

/-- **The octets of a word rebuild it.** -/
theorem word32_octets (v : UInt32) :
    word32 (v >>> (24 : UInt32) &&& 0xFF).toUInt8 (v >>> (16 : UInt32) &&& 0xFF).toUInt8
      (v >>> (8 : UInt32) &&& 0xFF).toUInt8 (v >>> (0 : UInt32) &&& 0xFF).toUInt8 = v := by
  apply UInt32.toBitVec_inj.mp
  have hoctets : (word32 (v >>> (24 : UInt32) &&& 0xFF).toUInt8 (v >>> (16 : UInt32) &&& 0xFF).toUInt8
      (v >>> (8 : UInt32) &&& 0xFF).toUInt8 (v >>> (0 : UInt32) &&& 0xFF).toUInt8).toBitVec =
      ((v.toBitVec >>> 24 &&& (255#8).setWidth 32).setWidth 8).setWidth 32 <<< 24 |||
      ((v.toBitVec >>> 16 &&& (255#8).setWidth 32).setWidth 8).setWidth 32 <<< 16 |||
      ((v.toBitVec >>> 8 &&& (255#8).setWidth 32).setWidth 8).setWidth 32 <<< 8 |||
      ((v.toBitVec >>> 0 &&& (255#8).setWidth 32).setWidth 8).setWidth 32 <<< 0 := rfl
  rw [hoctets]
  apply BitVec.eq_of_getLsbD_eq
  intro i hi
  simp only [BitVec.getLsbD_or, BitVec.getLsbD_shiftLeft, BitVec.getLsbD_setWidth (m := 32),
    getLsbD_octet v.toBitVec (by decide : 8 ≤ 32)]
  grind

theorem word16_octets (v : UInt16) :
    word16 (v >>> (8 : UInt16) &&& 0xFF).toUInt8 (v >>> (0 : UInt16) &&& 0xFF).toUInt8 = v := by
  apply UInt16.toBitVec_inj.mp
  have hoctets : (word16 (v >>> (8 : UInt16) &&& 0xFF).toUInt8 (v >>> (0 : UInt16) &&& 0xFF).toUInt8).toBitVec =
      ((v.toBitVec >>> 8 &&& (255#8).setWidth 16).setWidth 8).setWidth 16 <<< 8 |||
      ((v.toBitVec >>> 0 &&& (255#8).setWidth 16).setWidth 8).setWidth 16 <<< 0 := rfl
  rw [hoctets]
  apply BitVec.eq_of_getLsbD_eq
  intro i hi
  simp only [BitVec.getLsbD_or, BitVec.getLsbD_shiftLeft, BitVec.getLsbD_setWidth (m := 16),
    getLsbD_octet v.toBitVec (by decide : 8 ≤ 16)]
  grind

/-- The low octet of a word that was shifted down, as an assignment to a `uint8_t` keeps it. -/
theorem toNat_shiftRight_toUInt8 (v k : UInt32) (hk : k.toNat < 32) :
    (v >>> k).toUInt8.toNat = v.toNat / 2 ^ k.toNat % 256 := by
  simp [Nat.shiftRight_eq_div_pow, Nat.mod_eq_of_lt hk]

theorem toNat_word24 (b0 b1 b2 : UInt8) :
    (word24 b0 b1 b2).toNat = b0.toNat * 65536 + b1.toNat * 256 + b2.toNat := by
  have h0 := b0.toNat_lt
  have h1 := b1.toNat_lt
  have h2 := b2.toNat_lt
  have hlow : b1.toNat * 256 ||| b2.toNat = b1.toNat * 256 + b2.toNat := by
    rw [Nat.mul_comm]
    exact (Nat.two_pow_add_eq_or_of_lt (i := 8) h2 b1.toNat).symm
  have hhigh : b0.toNat * 65536 ||| (b1.toNat * 256 + b2.toNat) = b0.toNat * 65536 + (b1.toNat * 256 + b2.toNat) := by
    rw [Nat.mul_comm]
    exact (Nat.two_pow_add_eq_or_of_lt (i := 16) (by omega) b0.toNat).symm
  unfold word24
  simp only [UInt32.toNat_or, UInt32.toNat_shiftLeft, UInt8.toNat_toUInt32, UInt32.reduceToNat, Nat.shiftLeft_eq,
    Nat.reduceMod, Nat.reducePow]
  rw [Nat.mod_eq_of_lt (by omega), Nat.mod_eq_of_lt (by omega), Nat.or_assoc, hlow, hhigh, Nat.add_assoc]

/-- **A word that fits three octets is rebuilt from them.** -/
theorem word24_octets {v : UInt32} (h : v.toNat < 2 ^ 24) :
    word24 (v >>> (16 : UInt32)).toUInt8 (v >>> (8 : UInt32)).toUInt8 (v >>> (0 : UInt32)).toUInt8 = v := by
  apply UInt32.toNat_inj.mp
  rw [toNat_word24, toNat_shiftRight_toUInt8 _ _ (by decide), toNat_shiftRight_toUInt8 _ _ (by decide),
    toNat_shiftRight_toUInt8 _ _ (by decide)]
  simp only [UInt32.reduceToNat]
  omega

theorem sum24_eq_word24 (b0 b1 b2 : UInt8) : sum24 b0 b1 b2 = word24 b0 b1 b2 := by
  have h0 := b0.toNat_lt
  have h1 := b1.toNat_lt
  have h2 := b2.toNat_lt
  apply UInt32.toNat_inj.mp
  rw [toNat_word24]
  unfold sum24
  simp only [UInt32.toNat_add, UInt32.toNat_shiftLeft, UInt8.toNat_toUInt32, UInt32.reduceToNat, Nat.shiftLeft_eq,
    Nat.reduceMod, Nat.reducePow]
  omega

/-- The mask of an octet before it is stored in one does nothing. -/
theorem toUInt8_and_0xFF (v : UInt32) : (v &&& 0xFF).toUInt8 = v.toUInt8 := by
  have h8 : ∀ n : Nat, n &&& 255 = n % 256 := fun n => Nat.and_two_pow_sub_one_eq_mod n 8
  apply UInt8.toNat_inj.mp
  simp [h8]

/-- **The masked octets of a word that fits are summed to it.** -/
theorem sum24_octets {v : UInt32} (h : v.toNat < 2 ^ 24) :
    sum24 (v >>> (16 : UInt32) &&& 0xFF).toUInt8 (v >>> (8 : UInt32) &&& 0xFF).toUInt8
      (v >>> (0 : UInt32) &&& 0xFF).toUInt8 = v := by
  rw [toUInt8_and_0xFF, toUInt8_and_0xFF, toUInt8_and_0xFF, sum24_eq_word24, word24_octets h]

theorem value_getUInt32 (m : Bytes) (offset : Nat) :
    (getUInt32 offset).value m = word32 (m (offset + 0)) (m (offset + 1)) (m (offset + 2)) (m (offset + 3)) :=
    rfl

/-- A word reads back. -/
theorem value_getUInt32_setUInt32 (v : UInt32) (p : Bytes) (offset : Nat) :
    (getUInt32 offset).value (setUInt32 v p offset) = v := by
  rw [value_getUInt32]
  unfold setUInt32
  simp (disch := omega) only [setByte_of_ne, setByte_of_eq]
  exact word32_octets v

/-- A word written elsewhere does not show. -/
theorem value_getUInt32_of_disjoint (v : UInt32) (p : Bytes) {offset o : Nat}
    (h : o + 4 ≤ offset ∨ offset + 4 ≤ o) :
    (getUInt32 o).value (setUInt32 v p offset) = (getUInt32 o).value p := by
  rw [value_getUInt32, value_getUInt32]
  simp (disch := omega) only [setUInt32_of_notMem]

theorem within_getUInt32 {m : Bytes} {offset n : Nat} : (getUInt32 offset).Within m n ↔ offset + 4 ≤ n := by
  unfold getUInt32
  simp only [Access.within_bind, Access.within_cell, Access.within_pure, and_true]
  omega

theorem local_getUInt32 (offset : Nat) : Access.Local (getUInt32 offset) := by
  unfold getUInt32
  repeat' first | exact Access.local_pure _ | refine Access.local_bind (Access.local_cell _) fun _ => ?_

/-! ## Octets of packed fields -/

theorem toNat_and_mask (v : UInt8) {mask : UInt8} {w : Nat} (hmask : mask.toNat = 2 ^ w - 1) :
    (v &&& mask).toNat = v.toNat % 2 ^ w := by
  rw [UInt8.toNat_and, hmask, Nat.and_two_pow_sub_one_eq_mod]

/-- A field is kept by its mask when it fits the bits below. -/
theorem and_mask_iff {v mask : UInt8} {w : Nat} (hmask : mask.toNat = 2 ^ w - 1) :
    v &&& mask = v ↔ v.toNat < 2 ^ w := by
  rw [← UInt8.toNat_inj, toNat_and_mask v hmask]
  exact ⟨fun h => h ▸ Nat.mod_lt _ (Nat.two_pow_pos w), Nat.mod_eq_of_lt⟩

/-- What a mask keeps is a number of its width. -/
theorem exists_and_mask (v : UInt8) {mask : UInt8} {w : Nat} (hmask : mask.toNat = 2 ^ w - 1) :
    ∃ k : Fin (2 ^ w), v &&& mask = UInt8.ofNat k := by
  refine ⟨⟨v.toNat % 2 ^ w, Nat.mod_lt _ (Nat.two_pow_pos w)⟩, ?_⟩
  have hle : v.toNat % 2 ^ w ≤ v.toNat := Nat.mod_le _ _
  have hlt := v.toNat_lt
  apply UInt8.toNat_inj.mp
  rw [toNat_and_mask v hmask, UInt8.toNat_ofNat']
  exact (Nat.mod_eq_of_lt (by omega)).symm

theorem and_mask_of_lt {v mask : UInt8} {w : Nat} (hmask : mask.toNat = 2 ^ w - 1) (h : v.toNat < 2 ^ w) :
    v &&& mask = v :=
    (and_mask_iff hmask).mpr h

/-- A flag over a field of seven bits. -/
theorem septet_fields (F : Bool) {v : UInt8} (h : v < 128) :
    let octet := (if F then 0x80 else 0x00) + (v &&& 0x7F)
    decide (octet &&& 0x80 = 0x80) = F ∧ octet &&& 0x7F = v := by
  have hall : ∀ F : Bool, ∀ w : BitVec 8, UInt8.ofBitVec w < 128 →
      let octet := (if F then 0x80 else 0x00) + (UInt8.ofBitVec w &&& 0x7F)
      decide (octet &&& 0x80 = 0x80) = F ∧ octet &&& 0x7F = UInt8.ofBitVec w := by decide
  exact hall F v.toBitVec h

/-- The octet of a response: class, type and status. -/
theorem response_fields {rspClass rspType rspStatus : UInt8} (hc : rspClass < 4) (ht : rspType < 8)
    (hs : rspStatus < 8) :
    let octet := (rspClass &&& 0x03) <<< (6 : UInt8) + (rspType &&& 0x07) <<< (3 : UInt8) + (rspStatus &&& 0x07)
    octet >>> (6 : UInt8) &&& 0x03 = rspClass ∧ octet >>> (3 : UInt8) &&& 0x07 = rspType ∧
      octet &&& 0x07 = rspStatus := by
  have hall : ∀ c : Fin 4, ∀ t s : Fin 8,
      let octet := (UInt8.ofNat c &&& 0x03) <<< (6 : UInt8) + (UInt8.ofNat t &&& 0x07) <<< (3 : UInt8) +
        (UInt8.ofNat s &&& 0x07)
      octet >>> (6 : UInt8) &&& 0x03 = UInt8.ofNat c ∧ octet >>> (3 : UInt8) &&& 0x07 = UInt8.ofNat t ∧
        octet &&& 0x07 = UInt8.ofNat s := by decide
  have h := hall ⟨rspClass.toNat, UInt8.lt_iff_toNat_lt.mp hc⟩ ⟨rspType.toNat, UInt8.lt_iff_toNat_lt.mp ht⟩
    ⟨rspStatus.toNat, UInt8.lt_iff_toNat_lt.mp hs⟩
  dsimp only at h
  rwa [UInt8.ofNat_toNat, UInt8.ofNat_toNat, UInt8.ofNat_toNat] at h

/-- A conditional sum is additive in the accumulator and the condition together. -/
theorem ite_xor (p p' a : UInt8) (c c' : Bool) :
    (if c ^^ c' then (p ^^^ p') ^^^ a else p ^^^ p') =
    (if c then p ^^^ a else p) ^^^ (if c' then p' ^^^ a else p') := by
  cases c <;> cases c'
  · rfl
  · exact UInt8.xor_assoc p p' a
  · change (p ^^^ p') ^^^ a = (p ^^^ a) ^^^ p'
    rw [UInt8.xor_assoc, UInt8.xor_comm p' a, ← UInt8.xor_assoc]
  · change p ^^^ p' = (p ^^^ a) ^^^ (p' ^^^ a)
    rw [UInt8.xor_assoc p a, UInt8.xor_comm p' a, ← UInt8.xor_assoc a a p', UInt8.xor_self, UInt8.zero_xor]

/-! ## Channel errors -/

/-- The buffer with bit `i` inverted. -/
def flipBit (p : Bytes) (i : Nat) : Bytes := writeBit p i (!readBit p i)

/-- The buffer with the bits at the positions of `S` inverted, one after the other. -/
def flipBits (S : List Nat) (p : Bytes) : Bytes := S.foldl flipBit p

theorem readBit_flipBit (p : Bytes) (i k : Nat) :
    readBit (flipBit p i) k = if k = i then !readBit p k else readBit p k := by
  unfold flipBit
  rw [readBit_writeBit]
  split
  · next h => rw [h]
  · rfl

/-- Bits that are not inverted read as before. -/
theorem readBit_flipBits_of_notMem {S : List Nat} {p : Bytes} {k : Nat} (h : k ∉ S) :
    readBit (flipBits S p) k = readBit p k := by
  unfold flipBits
  induction S generalizing p with
  | nil => rfl
  | cons i S ih =>
      rw [List.foldl_cons, ih (fun hk => h (List.mem_cons_of_mem i hk)), readBit_flipBit,
        if_neg (fun hk : k = i => h (hk ▸ List.mem_cons_self))]

/-- Distinct bits that are inverted read inverted. -/
theorem readBit_flipBits_of_mem {S : List Nat} (hnd : S.Nodup) {p : Bytes} {k : Nat} (h : k ∈ S) :
    readBit (flipBits S p) k = !readBit p k := by
  unfold flipBits
  induction S generalizing p with
  | nil => exact absurd h List.not_mem_nil
  | cons i S ih =>
      obtain ⟨hi, hS⟩ := List.nodup_cons.mp hnd
      rw [List.foldl_cons]
      rcases List.mem_cons.mp h with rfl | hk
      · have hrest := readBit_flipBits_of_notMem (p := flipBit p k) hi
        unfold flipBits at hrest
        rw [hrest, readBit_flipBit, if_pos rfl]
      · rw [ih hS hk, readBit_flipBit, if_neg (fun he : k = i => hi (he ▸ hk))]

end DvmHost

import DvmHost.Common.Edac.Golay2087
import DvmHost.Common.Edac.QR1676
import DvmHost.Common.P25.Lc.Correctness.FrameCoding
import DvmHost.Lib.MinDistance

/-!
# `Common.Edac.Correctness.ShortCodeRepair` — what the Golay (20,8,7) and the QR (16,7,6) code correct

Both decoders divide the word without its parity bit by the generator polynomial and look the errors up by the
remainder. Each pattern of three errors in nineteen bits, and of two in fifteen, stands at its own remainder in the
table, so it is taken off again (`Golay2087.decode_near`, `QR1676.decode_near`).
-/

namespace DvmHost

open Lib Lib.Gf2Division

/-! ## Octets in a row -/

/-- The first bits of an octet as a number. -/
theorem packWord_bitOf (b : UInt8) {n : Nat} (hn : n ≤ 8) : LC.packWord n (bitOf b) = b.toNat >>> (8 - n) := by
  apply Nat.eq_of_testBit_eq
  intro k
  rw [LC.testBit_packWord, Nat.testBit_shiftRight]
  by_cases hk : k < n
  · have hpos : 7 - (n - 1 - k) = 8 - n + k := by omega
    rw [decide_eq_true hk, Bool.true_and, bitOf_eq_testBit b (by omega), hpos]
  · have hlt : b.toNat < 2 ^ (8 - n + k) := Nat.lt_of_lt_of_le b.toNat_lt (Nat.pow_le_pow_right (by decide) (by omega))
    rw [decide_eq_false hk, Bool.false_and, Nat.testBit_lt_two_pow hlt]

theorem packWord_add (a n : Nat) (f : Bits) :
    LC.packWord (a + n) f = LC.packWord a f * 2 ^ n + LC.packWord n fun j => f (a + j) := by
  induction n with
  | zero => rw [Nat.add_zero, Nat.pow_zero, Nat.mul_one]; rfl
  | succ n ih =>
      rw [← Nat.add_assoc, LC.packWord_succ, LC.packWord_succ, ih, Nat.pow_succ, ← Nat.mul_assoc]
      omega

/-- Bits from an octet on. -/
theorem packWord_octet (p : Bytes) (i : Nat) {n : Nat} (hn : n ≤ 8) :
    LC.packWord n (fun j => readBit p (8 * i + j)) = (p i).toNat >>> (8 - n) := by
  rw [← packWord_bitOf (p i) hn]
  apply LC.packWord_congr
  intro j hj
  rw [readBit_octet p i (by omega)]

namespace Golay2087

theorem genpol_lt : GENPOL < 2 ^ (11 + 1) := by decide

theorem genpol_top : GENPOL.testBit 11 = true := by decide

/-- The nineteen bits that are divided. -/
def code (data : Bytes) : Nat := (data 0).toNat <<< 11 + (data 1).toNat <<< 3 + (data 2).toNat >>> 5

theorem code_eq (data : Bytes) : code data = LC.packWord 19 (readBit data) := by
  have h0 := packWord_octet data 0 (n := 8) (by decide)
  have h1 := packWord_octet data 1 (n := 8) (by decide)
  have h2 := packWord_octet data 2 (n := 3) (by decide)
  have hsplit : LC.packWord 19 (readBit data) = LC.packWord 8 (fun j => readBit data (8 * 0 + j)) * 2 ^ 11 +
      (LC.packWord 8 (fun j => readBit data (8 * 1 + j)) * 2 ^ 3 + LC.packWord 3 fun j => readBit data (8 * 2 + j)) := by
    rw [packWord_add 8 11, packWord_add 8 3]
    simp only [Nat.mul_zero, Nat.zero_add, Nat.mul_one, ← Nat.add_assoc]
  unfold code
  rw [hsplit, h0, h1, h2, Nat.shiftLeft_eq, Nat.shiftLeft_eq, Nat.add_assoc]
  rfl

theorem code_lt (data : Bytes) : code data < 2 ^ 19 := by
  rw [code_eq]
  exact LC.packWord_lt 19 _

/-- **The loop ends with the remainder** on every word of nineteen bits. -/
theorem getSyndrome1987_eq {p : Nat} (hp : p < 2 ^ 19) : getSyndrome1987 p = some (rem GENPOL 11 19 p) :=
  guarded_divLoop_eq genpol_lt genpol_top (by decide) hp (by decide)

/-- The octets of a codeword. -/
def codeword (v : UInt8) : Bytes := encode fun i => if i = 0 then v else 0

/-- The codewords have no remainder, and their data in front. -/
theorem codeword_spec (v : UInt8) : rem GENPOL 11 19 (code (codeword v)) = 0 ∧
    code (codeword v) >>> 11 = v.toNat := by
  have h : ∀ v : BitVec 8, remArith GENPOL 11 19 (code (codeword (UInt8.ofBitVec v))) = 0 ∧
      code (codeword (UInt8.ofBitVec v)) >>> 11 = v.toNat := by decide +kernel
  obtain ⟨hrem, hdata⟩ := h v.toBitVec
  exact ⟨(remArith_eq genpol_lt genpol_top _ _).symm.trans hrem, hdata⟩

example : code (codeword 0xA5) >>> 11 = 0xA5 := by decide +kernel

/-- The table has every pattern of three errors. -/
theorem sumsAll_decoding : MinDistance.sumsAll (fun e =>
    Nat.beq (((MinDistance.tableRows 32 64 DECODING_TABLE_1987).getD (Nat.div (remArith GENPOL 11 19 e) 32) []).getD
      (Nat.mod (remArith GENPOL 11 19 e) 32) 0) e) (MinDistance.units 19) 3 0 = true := by
  decide +kernel

/-- **Three errors are corrected.** -/
theorem decode_near {data : Bytes} {v : UInt8} (h : weight 19 (code data ^^^ code (codeword v)) ≤ 3) :
    decode data = some v := by
  obtain ⟨hrem, hdata⟩ := codeword_spec v
  have herror : rem GENPOL 11 19 (code data) = rem GENPOL 11 19 (code data ^^^ code (codeword v)) := by
    rw [rem_xor, hrem, Nat.xor_zero]
  have hpattern := MinDistance.getD_rem_of_sumsAll genpol_lt genpol_top (by decide) sumsAll_decoding
    (Nat.xor_lt_two_pow (code_lt data) (code_lt (codeword v))) h
  have hback : ∀ e, (if e ≠ 0x00 then code data ^^^ e else code data) = code data ^^^ e := by
    intro e
    split
    · rfl
    · next h0 => rw [not_not.mp h0, Nat.xor_zero]
  show ((getSyndrome1987 (code data)).bind fun syndrome => some (UInt8.ofNat
    ((if DECODING_TABLE_1987.getD syndrome 0 ≠ 0x00 then code data ^^^ DECODING_TABLE_1987.getD syndrome 0
      else code data) >>> 11))) = _
  rw [getSyndrome1987_eq (code_lt data), Option.bind_some, herror, hpattern, hback, ← Nat.xor_assoc, Nat.xor_self,
    Nat.zero_xor, hdata, UInt8.ofNat_toNat]

end Golay2087

namespace QR1676

theorem genpol_lt : GENPOL < 2 ^ (8 + 1) := by decide

theorem genpol_top : GENPOL.testBit 8 = true := by decide

/-- The fifteen bits that are divided. -/
def code (data0 data1 : UInt8) : Nat := data0.toNat <<< 7 + data1.toNat >>> 1

theorem code_lt (data0 data1 : UInt8) : code data0 data1 < 2 ^ 15 := by
  have h0 := data0.toNat_lt
  have h1 := data1.toNat_lt
  unfold code
  rw [Nat.shiftLeft_eq, Nat.shiftRight_eq_div_pow]
  omega

theorem code_eq {data0 data1 : UInt8} {f : Bits} (h0 : ∀ j < 8, f j = bitOf data0 j)
    (h1 : ∀ j < 7, f (8 + j) = bitOf data1 j) : code data0 data1 = LC.packWord 15 f := by
  rw [packWord_add 8 7, LC.packWord_congr h0, LC.packWord_congr h1, packWord_bitOf _ (by decide),
    packWord_bitOf _ (by decide), ← Nat.shiftLeft_eq]
  rfl

/-- **The loop ends with the remainder** on every word of fifteen bits. -/
theorem getSyndrome1576_eq {p : Nat} (hp : p < 2 ^ 15) : getSyndrome1576 p = some (rem GENPOL 8 15 p) :=
  guarded_divLoop_eq genpol_lt genpol_top (by decide) hp (by decide)

/-- The codewords have no remainder, and their first octet in front. -/
theorem codeword_spec (data : UInt8) : rem GENPOL 8 15 (code (encode data).1 (encode data).2) = 0 ∧
    code (encode data).1 (encode data).2 >>> 7 = (encode data).1.toNat := by
  have h : ∀ v : BitVec 8, remArith GENPOL 8 15 (code (encode (UInt8.ofBitVec v)).1 (encode (UInt8.ofBitVec v)).2) = 0 ∧
      code (encode (UInt8.ofBitVec v)).1 (encode (UInt8.ofBitVec v)).2 >>> 7 =
        (encode (UInt8.ofBitVec v)).1.toNat := by decide +kernel
  obtain ⟨hrem, hdata⟩ := h data.toBitVec
  exact ⟨(remArith_eq genpol_lt genpol_top _ _).symm.trans hrem, hdata⟩

/-- The table has every pattern of two errors. -/
theorem sumsAll_decoding : MinDistance.sumsAll (fun e =>
    Nat.beq (((MinDistance.tableRows 16 16 DECODING_TABLE_1576).getD (Nat.div (remArith GENPOL 8 15 e) 16) []).getD
      (Nat.mod (remArith GENPOL 8 15 e) 16) 0) e) (MinDistance.units 15) 2 0 = true := by
  decide

/-- **Two errors are corrected**, in what is returned: the first octet of the codeword. -/
theorem decode_near {data0 data1 data : UInt8}
    (h : weight 15 (code data0 data1 ^^^ code (encode data).1 (encode data).2) ≤ 2) :
    decode data0 data1 = some (encode data).1 := by
  have hlt := code_lt data0 data1
  have hword := code_lt (encode data).1 (encode data).2
  obtain ⟨hrem, hdata⟩ := codeword_spec data
  have herror : rem GENPOL 8 15 (code data0 data1) =
      rem GENPOL 8 15 (code data0 data1 ^^^ code (encode data).1 (encode data).2) := by
    rw [rem_xor, hrem, Nat.xor_zero]
  have hpattern := MinDistance.getD_rem_of_sumsAll genpol_lt genpol_top (by decide) sumsAll_decoding
    (Nat.xor_lt_two_pow hlt hword) h
  show ((getSyndrome1576 (code data0 data1)).bind fun syndrome => some (UInt8.ofNat
    ((code data0 data1 ^^^ DECODING_TABLE_1576.getD syndrome 0) >>> 7))) = _
  rw [getSyndrome1576_eq hlt, Option.bind_some, herror, hpattern, ← Nat.xor_assoc, Nat.xor_self, Nat.zero_xor,
    hdata, UInt8.ofNat_toNat]

end QR1676

end DvmHost

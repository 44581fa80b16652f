import DvmHost.Lib.Gf2Division
import DvmHost.Lib.Lfsr
import Mathlib.Algebra.Field.ZMod
import Mathlib.Algebra.Polynomial.RingDivision
import Mathlib.Data.Nat.Size
import Mathlib.Tactic.LinearCombination

/-!
# `Lib.Remainder` — what a CRC register computes

Bits are the coefficients of polynomials over the field of two elements: a register's bit `i` that of `X ^ i`, and
of a message the last bit the constant one. A step multiplies the register by `X`, adds the message bit at `X ^ w`
and takes away the generator as often as that calls for, so that after a message the register holds the remainder of
the message, moved up by `w`, and of what it started with (`ofReg_run`).

Numbers stand for the polynomials of their bits as well: the remainder that `Gf2Division` computes of a number is that
of its polynomial (`ofNat_rem`).
-/

namespace Lib.Remainder

open Polynomial

variable {w : Nat}

/-- A bit as a coefficient. -/
def bit (b : Bool) : ZMod 2 := if b then 1 else 0

@[simp] theorem bit_false : bit false = 0 := rfl

@[simp] theorem bit_true : bit true = 1 := rfl

@[simp] theorem bit_xor (a b : Bool) : bit (a ^^ b) = bit a + bit b := by
  cases a <;> cases b <;> decide

theorem bit_injective {a b : Bool} (h : bit a = bit b) : a = b := by
  revert a b
  decide

/-! ## Registers -/

/-- The polynomial of a register. -/
noncomputable def ofReg (s : BitVec w) : (ZMod 2)[X] := ∑ i ∈ Finset.range w, C (bit (s.getLsbD i)) * X ^ i

theorem coeff_ofReg (s : BitVec w) (n : Nat) : (ofReg s).coeff n = bit (s.getLsbD n) := by
  unfold ofReg
  rw [finsetSum_coeff]
  by_cases hn : n < w
  · rw [Finset.sum_eq_single n]
    · rw [coeff_C_mul_X_pow, if_pos rfl]
    · intro i _ hne
      rw [coeff_C_mul_X_pow, if_neg fun h => hne h.symm]
    · exact fun h => absurd (Finset.mem_range.mpr hn) h
  · rw [BitVec.getLsbD_of_ge s n (by omega)]
    refine Finset.sum_eq_zero fun i hi => ?_
    have hi' := Finset.mem_range.mp hi
    rw [coeff_C_mul_X_pow, if_neg (by omega)]

@[simp] theorem ofReg_zero : ofReg 0#w = 0 := by
  ext n
  rw [coeff_ofReg, BitVec.getLsbD_zero, bit_false, coeff_zero]

theorem ofReg_xor (s t : BitVec w) : ofReg (s ^^^ t) = ofReg s + ofReg t := by
  ext n
  rw [coeff_add, coeff_ofReg, coeff_ofReg, coeff_ofReg, BitVec.getLsbD_xor, bit_xor]

theorem ofReg_injective {s t : BitVec w} (h : ofReg s = ofReg t) : s = t := by
  apply BitVec.eq_of_getLsbD_eq
  intro i _
  have hcoeff := congrArg (fun p => p.coeff i) h
  simp only [coeff_ofReg] at hcoeff
  exact bit_injective hcoeff

/-- A wider register holds the same polynomial. -/
theorem ofReg_setWidth (s : BitVec w) {v : Nat} (hv : w ≤ v) : ofReg (s.setWidth v) = ofReg s := by
  ext n
  rw [coeff_ofReg, coeff_ofReg, BitVec.getLsbD_setWidth]
  by_cases hn : n < v
  · rw [decide_eq_true hn, Bool.true_and]
  · rw [BitVec.getLsbD_of_ge s n (by omega), Bool.and_false]

/-- Moving up multiplies by `X`, but for the bit that leaves the register. -/
theorem ofReg_shiftLeft_one (s : BitVec w) : ofReg (s <<< 1) = X * ofReg s + C (bit s.msb) * X ^ w := by
  ext n
  rw [coeff_add, coeff_C_mul_X_pow, coeff_ofReg, BitVec.getLsbD_shiftLeft]
  cases n with
  | zero =>
      rw [coeff_X_mul_zero]
      by_cases hw : w = 0
      · subst hw
        rw [BitVec.of_length_zero (x := s)]
        rfl
      · rw [if_neg fun h => hw h.symm]
        simp
  | succ n =>
      rw [coeff_X_mul, coeff_ofReg, Nat.add_sub_cancel]
      rcases Nat.lt_trichotomy (n + 1) w with hlt | heq | hgt
      · rw [if_neg (by omega)]
        simp [hlt]
      · subst heq
        rw [if_pos rfl, BitVec.msb_eq_getLsbD_last, Nat.add_sub_cancel]
        simp [CharTwo.add_self_eq_zero]
      · rw [if_neg (by omega), BitVec.getLsbD_of_ge s n (by omega)]
        simp [Nat.not_lt_of_gt hgt]

/-! ## Messages -/

/-- The polynomial of a message, its first bit the highest. -/
noncomputable def ofMsg : List Bool → (ZMod 2)[X]
  | [] => 0
  | b :: msg => C (bit b) * X ^ msg.length + ofMsg msg

theorem ofMsg_replicate_false (k : Nat) : ofMsg (List.replicate k false) = 0 := by
  induction k with
  | zero => rfl
  | succ k ih => rw [List.replicate_succ, ofMsg, ih, bit_false, C_0, zero_mul, add_zero]

theorem ofMsg_concat (msg : List Bool) (b : Bool) : ofMsg (msg ++ [b]) = ofMsg msg * X + C (bit b) := by
  induction msg with
  | nil => simp [ofMsg]
  | cons a msg ih =>
      rw [List.cons_append, ofMsg, ofMsg, ih, List.length_append, List.length_singleton, pow_succ]
      ring

theorem ofMsg_map_range (n : Nat) (o : Nat → Bool) :
    ofMsg ((List.range n).map o) = ∑ i ∈ Finset.range n, C (bit (o i)) * X ^ (n - 1 - i) := by
  induction n with
  | zero => rfl
  | succ n ih =>
      rw [List.range_succ, List.map_append, List.map_singleton, ofMsg_concat, ih, Finset.sum_range_succ,
        Finset.sum_mul, Nat.add_sub_cancel, Nat.sub_self, pow_zero, mul_one]
      congr 1
      refine Finset.sum_congr rfl fun i hi => ?_
      have hi' := Finset.mem_range.mp hi
      rw [mul_assoc, ← pow_succ]
      congr 2
      omega

/-! ## Division -/

/-- The generator of a register. -/
noncomputable def generator (poly : BitVec w) : (ZMod 2)[X] := X ^ w + ofReg poly

/-- The remainder of a message, moved up by the width, behind a first value of the register. -/
noncomputable def remainder (poly init : BitVec w) (msg : List Bool) : (ZMod 2)[X] :=
  (ofReg init * X ^ msg.length + ofMsg msg * X ^ w) %ₘ generator poly

theorem degree_ofReg_lt (s : BitVec w) : (ofReg s).degree < (w : WithBot Nat) := by
  rw [degree_lt_iff_coeff_zero]
  intro n hn
  rw [coeff_ofReg, BitVec.getLsbD_of_ge s n hn, bit_false]

theorem monic_generator (poly : BitVec w) : (generator poly).Monic :=
  monic_X_pow_add (degree_ofReg_lt poly)

theorem degree_generator (poly : BitVec w) : (generator poly).degree = w := by
  unfold generator
  rw [degree_add_eq_left_of_degree_lt, degree_X_pow]
  rw [degree_X_pow]
  exact degree_ofReg_lt poly

/-- A step, as an operation on polynomials. -/
theorem ofReg_step (poly s : BitVec w) (b : Bool) :
    ofReg (Lfsr.step poly s b) = X * ofReg s + C (bit b) * X ^ w + C (bit (b ^^ s.msb)) * generator poly := by
  have htwo : (C (bit b) + C (bit b) : (ZMod 2)[X]) = 0 := CharTwo.add_self_eq_zero _
  have hshift : ofReg (s <<< 1) = X * ofReg s + C (bit b) * X ^ w + C (bit (b ^^ s.msb)) * X ^ w := by
    rw [ofReg_shiftLeft_one, bit_xor, C_add]
    linear_combination (-X ^ w : (ZMod 2)[X]) * htwo
  unfold Lfsr.step generator
  cases hfeed : (b ^^ s.msb)
  · rw [if_neg Bool.false_ne_true, hshift, hfeed, bit_false, C_0, zero_mul, zero_mul]
  · rw [if_pos rfl, ofReg_xor, hshift, hfeed, bit_true, C_1]
    ring

/-- The run lemma of `ofReg_step`. -/
theorem exists_ofReg_run (poly s : BitVec w) (msg : List Bool) :
    ∃ q, ofReg (Lfsr.run poly s msg) + generator poly * q = ofReg s * X ^ msg.length + ofMsg msg * X ^ w := by
  induction msg generalizing s with
  | nil => exact ⟨0, by simp [Lfsr.run, ofMsg]⟩
  | cons b msg ih =>
      obtain ⟨q, hq⟩ := ih (Lfsr.step poly s b)
      refine ⟨q - C (bit (b ^^ s.msb)) * X ^ msg.length, ?_⟩
      rw [ofReg_step] at hq
      change ofReg (Lfsr.run poly (Lfsr.step poly s b) msg) + _ = _
      rw [ofMsg, List.length_cons, pow_succ]
      linear_combination hq

/-- **The register is the remainder.** -/
theorem ofReg_run (poly s : BitVec w) (msg : List Bool) : ofReg (Lfsr.run poly s msg) = remainder poly s msg := by
  obtain ⟨q, hq⟩ := exists_ofReg_run poly s msg
  have hdeg : (ofReg (Lfsr.run poly s msg)).degree < (generator poly).degree := by
    rw [degree_generator]
    exact degree_ofReg_lt _
  exact (div_modByMonic_unique q _ (monic_generator poly) ⟨hq, hdeg⟩).2.symm

/-- Remainders of messages from the zero register add up. -/
theorem remainder_map_range (poly : BitVec w) (n : Nat) (o : Nat → Bool) :
    remainder poly 0#w ((List.range n).map o) =
      ∑ i ∈ Finset.range n, C (bit (o i)) * remainder poly 0#w (true :: List.replicate (n - 1 - i) false) := by
  have hunit (k : Nat) : ofMsg (true :: List.replicate k false) = X ^ k := by
    rw [ofMsg, ofMsg_replicate_false, List.length_replicate, bit_true, C_1, one_mul, add_zero]
  unfold remainder
  rw [ofReg_zero, zero_mul, zero_add, ofMsg_map_range, Finset.sum_mul]
  change modByMonicHom (generator poly) _ = _
  rw [map_sum]
  refine Finset.sum_congr rfl fun i _ => ?_
  rw [zero_mul, zero_add, hunit, mul_assoc, ← smul_eq_C_mul, map_smul, smul_eq_C_mul]
  rfl

/-! ## Numbers -/

/-- The polynomial of a number. -/
noncomputable def ofNat (p : Nat) : (ZMod 2)[X] := ofReg (BitVec.ofNat p.size p)

theorem coeff_ofNat (p n : Nat) : (ofNat p).coeff n = bit (p.testBit n) := by
  rw [ofNat, coeff_ofReg, BitVec.getLsbD_ofNat]
  by_cases hn : n < p.size
  · rw [decide_eq_true hn, Bool.true_and]
  · have hlt : p < 2 ^ n := Nat.lt_of_lt_of_le (Nat.lt_size_self p) (Nat.pow_le_pow_right (by decide) (by omega))
    rw [decide_eq_false hn, Bool.false_and, Nat.testBit_lt_two_pow hlt]

theorem ofNat_xor (p q : Nat) : ofNat (p ^^^ q) = ofNat p + ofNat q := by
  ext n
  rw [coeff_add, coeff_ofNat, coeff_ofNat, coeff_ofNat, Nat.testBit_xor, bit_xor]

theorem ofNat_two_mul (p : Nat) : ofNat (2 * p) = X * ofNat p := by
  ext n
  rw [coeff_ofNat]
  cases n with
  | zero =>
      rw [coeff_X_mul_zero]
      simp
  | succ n => rw [coeff_X_mul, coeff_ofNat, Nat.testBit_succ, Nat.mul_div_cancel_left p (by decide)]

theorem degree_ofNat_lt {p d : Nat} (h : p < 2 ^ d) : (ofNat p).degree < (d : WithBot Nat) := by
  rw [degree_lt_iff_coeff_zero]
  intro n hn
  have hlt : p < 2 ^ n := Nat.lt_of_lt_of_le h (Nat.pow_le_pow_right (by decide) hn)
  rw [coeff_ofNat, Nat.testBit_lt_two_pow hlt, bit_false]

section Division

open Gf2Division

variable {g d : Nat} (hg : g < 2 ^ (d + 1)) (htop : g.testBit d = true)

include hg htop

theorem degree_ofNat : (ofNat g).degree = d := by
  refine degree_eq_of_le_of_coeff_ne_zero ?_ ?_
  · exact Order.le_of_lt_succ (degree_ofNat_lt hg)
  · rw [coeff_ofNat, htop, bit_true]
    exact one_ne_zero

theorem monic_ofNat : (ofNat g).Monic := by
  refine monic_of_natDegree_le_of_coeff_eq_one d (natDegree_le_of_degree_le (degree_ofNat hg htop).le) ?_
  rw [coeff_ofNat, htop, bit_true]

omit hg htop in
/-- A number is its remainder and a multiple of the divisor. -/
theorem exists_ofNat_rem (g d : Nat) {n p : Nat} (hp : p < 2 ^ n) :
    ∃ q, ofNat (rem g d n p) + ofNat g * q = ofNat p := by
  induction n generalizing p with
  | zero =>
      have h0 : p = 0 := by omega
      refine ⟨0, ?_⟩
      rw [h0, mul_zero, add_zero]
      rfl
  | succ n ih =>
      have hpow : 2 ^ (n + 1) = 2 * 2 ^ n := by rw [Nat.pow_succ, Nat.mul_comm]
      obtain ⟨q, hq⟩ := ih (p := p / 2) (by omega)
      have hwhole : ofNat p = X * ofNat (p / 2) + ofNat (p % 2) := by
        rw [← ofNat_two_mul, ← ofNat_xor, two_mul_half_xor]
      have hstep : ofNat (2 * rem g d n (p / 2) ^^^ p % 2) + ofNat g * (X * q) = ofNat p := by
        rw [ofNat_xor, ofNat_two_mul, hwhole, ← hq]
        ring
      unfold rem reduce
      split
      · -- the top bit is taken away with a copy of the divisor
        refine ⟨X * q - 1, ?_⟩
        rw [ofNat_xor]
        linear_combination hstep
      · exact ⟨X * q, hstep⟩

/-- **The remainder of a number** is that of its polynomial. -/
theorem ofNat_rem {n p : Nat} (hp : p < 2 ^ n) : ofNat (rem g d n p) = ofNat p %ₘ ofNat g := by
  obtain ⟨q, hq⟩ := exists_ofNat_rem g d hp
  have hdeg : (ofNat (rem g d n p)).degree < (ofNat g).degree := by
    rw [degree_ofNat hg htop]
    exact degree_ofNat_lt (rem_lt hg htop n p)
  exact (div_modByMonic_unique q _ (monic_ofNat hg htop) ⟨hq, hdeg⟩).2.symm

end Division

end Lib.Remainder

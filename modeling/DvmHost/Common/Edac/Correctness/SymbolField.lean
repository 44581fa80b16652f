import DvmHost.Common.Edac.Correctness.ReedSolomon
import DvmHost.Lib.HornerCode

/-!
# `Common.Edac.Correctness.SymbolField` — symbols of six bits form the field of the codec

With the product of `gf6Mult` the symbols are a commutative ring without zero divisors, in which `alpha` satisfies
the primitive polynomial and has 63 powers. The Horner evaluations of the codec are then the power sums of
`Lib.HornerCode`, with a power of `alpha` for each place of a block.
-/

namespace DvmHost

open Lib Lib.HornerCode

namespace RS634717

/-! ## The ring -/

/-- The doubling step of `gf6Mult`. -/
def double (a : UInt8) : UInt8 :=
  if a <<< (1 : UInt8) &&& 0x40 = 0x40 then a <<< (1 : UInt8) ^^^ 0x43 else a <<< (1 : UInt8)

theorem double_xor (a b : UInt8) : double (a ^^^ b) = double a ^^^ double b := by
  have hshift : (a ^^^ b) <<< (1 : UInt8) = a <<< (1 : UInt8) ^^^ b <<< (1 : UInt8) :=
    UInt8.toBitVec_inj.mp (BitVec.shiftLeft_xor_distrib a.toBitVec b.toBitVec 1)
  have htest : ∀ c : UInt8, (c &&& 0x40 = 0x40) ↔ bitOf c 1 = true := by
    intro c
    rw [← and_bitMask_eq c (j := 1) (by decide), decide_eq_true_iff]
    rfl
  unfold double
  simp only [hshift, htest, bitOf_xor]
  exact ite_xor _ _ _ _ _

/-- The loop of `gf6Mult` is additive in its accumulator and first factor together. -/
theorem gf6Loop_xor_left (n : Nat) (p p' a a' b : UInt8) :
    gf6Loop n (p ^^^ p') (a ^^^ a') b = gf6Loop n p a b ^^^ gf6Loop n p' a' b := by
  induction n generalizing p p' a a' b with
  | zero => rfl
  | succ n ih =>
      have hstep : ∀ p a : UInt8, gf6Loop (n + 1) p a b =
          gf6Loop n (if b &&& 0x01 = 0x01 then p ^^^ a else p) (double a) (b >>> (1 : UInt8)) := fun _ _ => rfl
      rw [hstep, hstep, hstep, double_xor, ← ih]
      congr 1
      split
      · rw [UInt8.xor_assoc, UInt8.xor_assoc, ← UInt8.xor_assoc p' a, UInt8.xor_comm p' a, UInt8.xor_assoc a p']
      · rfl

theorem add_mulSym (a a' b : Sym) : mulSym (a + a') b = mulSym a b + mulSym a' b := by
  have h : gf6Mult (ofSym a ^^^ ofSym a') (ofSym b) = gf6Mult (ofSym a) (ofSym b) ^^^ gf6Mult (ofSym a') (ofSym b) :=
    gf6Loop_xor_left 6 0x00 0x00 (ofSym a) (ofSym a') (ofSym b)
  unfold mulSym
  rw [ofSym_add, h, toSym_xor]

theorem zero_mulSym (b : Sym) : mulSym 0 b = 0 := by
  have h : ∀ i, mulSym 0 (nthSym i) = 0 := by decide
  obtain ⟨i, rfl⟩ := exists_nthSym b
  exact h i

theorem mulSym_comm (a b : Sym) : mulSym a b = mulSym b a := by
  refine sym_induction (P := fun a => mulSym a b = mulSym b a) ?_ ?_ ?_ a
  · rw [zero_mulSym, mulSym_zero]
  · intro a a' ha ha'
    rw [add_mulSym, mulSym_add, ha, ha']
  · intro t
    refine sym_induction (P := fun b => mulSym (unitSym t) b = mulSym b (unitSym t)) ?_ ?_ ?_ b
    · rw [zero_mulSym, mulSym_zero]
    · intro b b' hb hb'
      rw [add_mulSym, mulSym_add, hb, hb']
    · have h : ∀ t t', mulSym (unitSym t) (unitSym t') = mulSym (unitSym t') (unitSym t) := by decide
      exact h t

theorem mulSym_assoc (a b c : Sym) : mulSym (mulSym a b) c = mulSym a (mulSym b c) := by
  refine sym_induction (P := fun a => mulSym (mulSym a b) c = mulSym a (mulSym b c)) ?_ ?_ ?_ a
  · rw [zero_mulSym, zero_mulSym, zero_mulSym]
  · intro a a' ha ha'
    rw [add_mulSym, add_mulSym, add_mulSym, ha, ha']
  · intro t
    refine sym_induction (P := fun b => mulSym (mulSym (unitSym t) b) c = mulSym (unitSym t) (mulSym b c)) ?_ ?_ ?_ b
    · rw [mulSym_zero, zero_mulSym, mulSym_zero]
    · intro b b' hb hb'
      rw [mulSym_add, add_mulSym, add_mulSym, mulSym_add, hb, hb']
    · intro t'
      refine sym_induction (P := fun c => mulSym (mulSym (unitSym t) (unitSym t')) c =
        mulSym (unitSym t) (mulSym (unitSym t') c)) ?_ ?_ ?_ c
      · rw [mulSym_zero, mulSym_zero, mulSym_zero]
      · intro c c' hc hc'
        rw [mulSym_add, mulSym_add, mulSym_add, hc, hc']
      · have h : ∀ t t' t'', mulSym (mulSym (unitSym t) (unitSym t')) (unitSym t'') =
            mulSym (unitSym t) (mulSym (unitSym t') (unitSym t'')) := by decide
        exact h t t'

theorem mulSym_one (a : Sym) : mulSym a (toSym 1) = a := by
  have h : ∀ i, mulSym (nthSym i) (toSym 1) = nthSym i := by decide
  obtain ⟨i, rfl⟩ := exists_nthSym a
  exact h i

instance : Mul Sym := ⟨mulSym⟩

instance : One Sym := ⟨toSym 1⟩

instance : Neg Sym := ⟨id⟩

instance : CommRing Sym where
  neg_add_cancel := fun a : BitVec 6 => BitVec.xor_self
  left_distrib := mulSym_add
  right_distrib := add_mulSym
  zero_mul := zero_mulSym
  mul_zero := mulSym_zero
  mul_assoc := mulSym_assoc
  one_mul := fun a => (mulSym_comm _ a).trans (mulSym_one a)
  mul_one := mulSym_one
  mul_comm := mulSym_comm
  zsmul := zsmulRec

instance : Nontrivial Sym := ⟨0, 1, by decide⟩

/-- A symbol other than zero divides one. -/
theorem exists_mul_eq_one {a : Sym} (ha : a ≠ 0) : ∃ b, a * b = 1 := by
  have h : ∀ i, nthSym i ≠ 0 → mulSym (nthSym i) (toSym (RS.alpha_to.getD
      ((63 - RS.index_of.getD (ofSym (nthSym i)).toNat 0) % 63) 0).toUInt8) = toSym 1 := by
    rw [index_of_eq, alpha_to_eq]
    decide
  obtain ⟨i, rfl⟩ := exists_nthSym a
  exact ⟨_, h i ha⟩

instance : NoZeroDivisors Sym where
  eq_zero_or_eq_zero_of_mul_eq_zero := by
    intro a b hab
    by_cases ha : a = 0
    · exact Or.inl ha
    · obtain ⟨c, hc⟩ := exists_mul_eq_one ha
      right
      calc b = a * c * b := by rw [hc, one_mul]
        _ = a * b * c := by ring
        _ = 0 := by rw [hab, zero_mul]

instance : IsDomain Sym := NoZeroDivisors.to_isDomain Sym

/-! ## The primitive element -/

/-- The primitive element of the codec. -/
def alpha : Sym := toSym 2

/-- `alpha` is a root of `x ^ 6 + x + 1`, the polynomial 0x43. -/
theorem alpha_pow_six : alpha ^ 6 + alpha + 1 = 0 := by
  have h : mulSym alpha (mulSym alpha (mulSym alpha (mulSym alpha (mulSym alpha alpha)))) + alpha + toSym 1 = 0 := by
    decide
  have hpow : alpha ^ 6 = alpha * (alpha * (alpha * (alpha * (alpha * alpha)))) := by ring
  rw [hpow]
  exact h

theorem alphaPow_eq (r : Nat) (a : Sym) : alphaPow r a = alpha ^ r * a := by
  rw [alphaPow_apply]
  induction r with
  | zero => rw [Function.iterate_zero_apply, pow_zero, one_mul]
  | succ r ih =>
      rw [Function.iterate_succ_apply', ih, pow_succ', mul_assoc]
      rfl

/-- The powers of `alpha` are the table of the codec. -/
theorem alpha_pow (r : Nat) : alpha ^ r = toSym (RS.alpha_to.getD (r % 63) 0).toUInt8 := by
  have h := alphaPow_alpha_to (k := 0) (by decide) r
  have hone : toSym (RS.alpha_to.getD 0 0).toUInt8 = 1 := by
    rw [alpha_to_eq]
    decide
  rw [hone, alphaPow_eq, mul_one, Nat.zero_add] at h
  exact h

theorem alpha_pow_ne_zero (r : Nat) : alpha ^ r ≠ 0 := pow_ne_zero r (by decide)

/-- The first 63 powers are distinct. -/
theorem alpha_pow_injective {i j : Nat} (hi : i < 63) (hj : j < 63) (h : alpha ^ i = alpha ^ j) : i = j := by
  have hlog : ∀ i : Fin 63,
      RS.index_of.getD (ofSym (toSym (RS.alpha_to.getD i 0).toUInt8)).toNat 0 = i := by
    rw [index_of_eq, alpha_to_eq]
    decide
  rw [alpha_pow, alpha_pow, Nat.mod_eq_of_lt hi, Nat.mod_eq_of_lt hj] at h
  exact (hlog ⟨i, hi⟩).symm.trans ((congrArg (fun s => RS.index_of.getD (ofSym s).toNat 0) h).trans (hlog ⟨j, hj⟩))

/-! ## Blocks -/

/-- The place of a block that symbol `i` stands at: the coefficient of `x ^ (62 - i)`. -/
def place (i : Fin 63) : Sym := alpha ^ (62 - i.val)

theorem place_injective : Function.Injective place := by
  intro i j h
  have hij := alpha_pow_injective (by omega) (by omega) h
  exact Fin.ext (by omega)

theorem place_ne_zero (i : Fin 63) : place i ≠ 0 := alpha_pow_ne_zero _

/-- A Horner evaluation is a sum over the symbols. -/
theorem horner_eq_sum (r : Nat) (w : Nat → Sym) (n : Nat) :
    horner (alphaPow r) w n = ∑ i ∈ Finset.range n, w i * (alpha ^ (n - 1 - i)) ^ r := by
  induction n with
  | zero => rfl
  | succ n ih =>
      have hlast : n + 1 - 1 - n = 0 := by omega
      have hterm : ∀ i ∈ Finset.range n,
          alpha ^ r * (w i * (alpha ^ (n - 1 - i)) ^ r) = w i * (alpha ^ (n + 1 - 1 - i)) ^ r := by
        intro i hi
        have hlt := Finset.mem_range.mp hi
        have hexp : n + 1 - 1 - i = n - 1 - i + 1 := by omega
        rw [hexp, pow_succ alpha, mul_pow]
        ring
      calc horner (alphaPow r) w (n + 1)
          = alpha ^ r * horner (alphaPow r) w n + w n := by rw [horner_succ, alphaPow_eq]
        _ = (∑ i ∈ Finset.range n, alpha ^ r * (w i * (alpha ^ (n - 1 - i)) ^ r)) + w n := by
            rw [ih, Finset.mul_sum]
        _ = (∑ i ∈ Finset.range n, w i * (alpha ^ (n + 1 - 1 - i)) ^ r) + w n * (alpha ^ (n + 1 - 1 - n)) ^ r := by
            rw [Finset.sum_congr rfl hterm, hlast, pow_zero, one_pow, mul_one]
        _ = ∑ i ∈ Finset.range (n + 1), w i * (alpha ^ (n + 1 - 1 - i)) ^ r := (Finset.sum_range_succ _ n).symm

/-- **The syndromes of a block are power sums.** -/
theorem vanish_iff {w : Nat → Sym} {nroots : Nat} :
    PowerSums.Vanish place nroots (fun i : Fin 63 => w i) ↔ ∀ k < nroots, horner (alphaPow (k + 1)) w 63 = 0 := by
  have hsum : ∀ r, horner (alphaPow r) w 63 = ∑ i : Fin 63, w i * place i ^ r := by
    intro r
    rw [horner_eq_sum, Finset.sum_range]
    rfl
  exact forall₂_congr fun k _ => by rw [hsum]

end RS634717

end DvmHost

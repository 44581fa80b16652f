import Mathlib.Algebra.BigOperators.Ring.Finset
import Mathlib.Algebra.Polynomial.BigOperators
import Mathlib.Algebra.Polynomial.Eval.Degree
import Mathlib.Algebra.Ring.Basic
import Mathlib.InformationTheory.Hamming

/-!
# `Lib.HornerCode` — codes given by evaluations

A word of `n` symbols is evaluated at an endomorphism `f` of the symbols by Horner's rule, the first symbol
the most significant; for multiplications by the powers of an element this is the evaluation of a polynomial.
`Codeword` asks that the evaluations at all roots vanish. Evaluation is additive and commutes with every
endomorphism that commutes with the root, so the words a generator matrix encodes are codewords as soon as its
rows are (`codeword_encode`). So are the words that end in what a division register is left with
(`horner_eq_zero`).

The second half is about the weight of such words. A word has a symbol at each of finitely many positions, and each
position has a point. When the power sums `∑ w i * x i ^ (k + 1)` vanish for `r` powers in a row, then so do those of
`w i * x i * f (x i)` for every polynomial `f` of degree less than `r`; the polynomial that vanishes at all points of
the word but one singles that one out, so a word of at most `r` symbols is zero (`eq_zero_of_hammingNorm_le`). Around
any word there is therefore at most one word of the code within `r / 2` symbols (`eq_of_hammingDist_le`).
-/

namespace Lib.HornerCode

variable {M : Type*} [AddCommMonoid M]

/-- The evaluation at `f` of the first `n` symbols of a word. -/
def horner (f : AddMonoid.End M) (w : Nat → M) : Nat → M
  | 0 => 0
  | n + 1 => f (horner f w n) + w n

section Horner

variable (f : AddMonoid.End M)

theorem horner_succ (w : Nat → M) (n : Nat) : horner f w (n + 1) = f (horner f w n) + w n := rfl

theorem horner_congr {w w' : Nat → M} {n : Nat} (h : ∀ i < n, w i = w' i) : horner f w n = horner f w' n := by
  induction n with
  | zero => rfl
  | succ n ih => rw [horner_succ, horner_succ, ih fun i hi => h i (by omega), h n (by omega)]

theorem horner_zero (n : Nat) : horner f (fun _ => 0) n = 0 := by
  induction n with
  | zero => rfl
  | succ n ih => rw [horner_succ, ih, map_zero, add_zero]

theorem horner_add (w w' : Nat → M) (n : Nat) :
    horner f (fun i => w i + w' i) n = horner f w n + horner f w' n := by
  induction n with
  | zero => exact (add_zero 0).symm
  | succ n ih => rw [horner_succ, ih, map_add, horner_succ, horner_succ, add_add_add_comm]

/-- Evaluation is additive over sums of words. -/
theorem horner_sum {ι : Type*} (s : Finset ι) (w : ι → Nat → M) (n : Nat) :
    horner f (fun i => ∑ j ∈ s, w j i) n = ∑ j ∈ s, horner f (w j) n := by
  classical
  induction s using Finset.induction_on with
  | empty =>
      rw [Finset.sum_empty, ← horner_zero f n]
      rfl
  | insert j s hj ih =>
      rw [Finset.sum_insert hj, ← ih, ← horner_add]
      exact horner_congr f fun i _ => Finset.sum_insert hj

/-- Evaluation commutes with what commutes with the root. -/
theorem horner_map {g : AddMonoid.End M} (hcomm : ∀ x, g (f x) = f (g x)) (w : Nat → M) (n : Nat) :
    horner f (fun i => g (w i)) n = g (horner f w n) := by
  induction n with
  | zero => exact (map_zero g).symm
  | succ n ih => rw [horner_succ, horner_succ, ih, map_add, hcomm]

/-- Leading zeros do not count. -/
theorem horner_pad {w : Nat → M} {p : Nat} (hpad : ∀ i < p, w i = 0) (n : Nat) :
    horner f w (p + n) = horner f (fun i => w (p + i)) n := by
  induction n with
  | zero => exact (horner_congr f hpad).trans (horner_zero f p)
  | succ n ih => rw [Nat.add_succ, horner_succ, horner_succ, ih]

/-- In a ring, the evaluation at an element is the sum of its powers. -/
theorem horner_mulLeft {R : Type*} [CommRing R] (x : R) (w : Nat → R) (n : Nat) :
    horner (AddMonoid.End.mulLeft x) w n = ∑ i ∈ Finset.range n, w i * x ^ (n - 1 - i) := by
  induction n with
  | zero => rfl
  | succ n ih =>
      have hlast : n + 1 - 1 - n = 0 := by omega
      have hstep : horner (AddMonoid.End.mulLeft x) w (n + 1) = x * horner (AddMonoid.End.mulLeft x) w n + w n := rfl
      rw [hstep, ih, Finset.sum_range_succ, hlast, pow_zero, mul_one, Finset.mul_sum]
      refine congrArg (· + w n) (Finset.sum_congr rfl fun i hi => ?_)
      have hexp : n + 1 - 1 - i = n - 1 - i + 1 := by
        have := Finset.mem_range.mp hi
        omega
      rw [hexp, pow_succ, mul_left_comm, mul_comm x]

end Horner

/-! ## Codes -/

/-- The first `n` symbols of `w` are a codeword: every root evaluates them to zero. -/
def Codeword (roots : List (AddMonoid.End M)) (n : Nat) (w : Nat → M) : Prop := ∀ f ∈ roots, horner f w n = 0

/-- The word that the matrix `rows` encodes from `k` multipliers. -/
def encode (g : Nat → AddMonoid.End M) (rows : Nat → Nat → M) (k : Nat) : Nat → M := fun i =>
  ∑ j ∈ Finset.range k, g j (rows j i)

/-- **Encoding gives codewords**, when the rows are codewords and the multipliers commute with the roots. -/
theorem codeword_encode {roots : List (AddMonoid.End M)} {n k : Nat} {g : Nat → AddMonoid.End M}
    {rows : Nat → Nat → M}
    (hrows : ∀ j < k, Codeword roots n (rows j)) (hcomm : ∀ j < k, ∀ f ∈ roots, ∀ x, g j (f x) = f (g j x)) :
    Codeword roots n (encode g rows k) := by
  intro f hf
  refine (horner_sum f (Finset.range k) (fun j i => g j (rows j i)) n).trans ?_
  apply Finset.sum_eq_zero
  intro j hj
  have hjk : j < k := Finset.mem_range.mp hj
  rw [horner_map f (hcomm j hjk f hf), hrows j hjk f hf, map_zero]

/-! ## Division registers -/

section Division

variable (f : AddMonoid.End M) (g : Nat → AddMonoid.End M) (d : Nat)

/-- A step of a register of `d` symbols: it shifts up by one, and what leaves it is added to the symbol that enters
    and fed back through the taps `g`. -/
def divide (reg : Nat → M) (x : M) : Nat → M := fun j => (if j = 0 then 0 else reg (j - 1)) + g j (x + reg (d - 1))

/-- The contents of a register as a polynomial, at `f`. -/
def valueAt (reg : Nat → M) : M := ∑ j ∈ Finset.range d, (f ^ j) (reg j)

variable {f g d}

theorem pow_succ_apply (j : Nat) (x : M) : (f ^ (j + 1)) x = f ((f ^ j) x) := by
  rw [pow_succ']
  rfl

/-- Where `f` is a root of the polynomial of the taps, a step multiplies by it and adds the symbol. -/
theorem valueAt_divide (hd : 0 < d) (hroot : ∀ x, ∑ j ∈ Finset.range d, (f ^ j) (g j x) = (f ^ d) x)
    (reg : Nat → M) (x : M) : valueAt f d (divide g d reg x) = f (valueAt f d reg) + (f ^ d) x := by
  obtain ⟨e, rfl⟩ : ∃ e, d = e + 1 := ⟨d - 1, by omega⟩
  have hshift : ∑ j ∈ Finset.range (e + 1), (f ^ j) (if j = 0 then 0 else reg (j - 1)) + (f ^ (e + 1)) (reg e)
      = f (valueAt f (e + 1) reg) := by
    rw [Finset.sum_range_succ', valueAt, map_sum, Finset.sum_range_succ]
    simp only [pow_succ_apply, if_pos, map_zero, add_zero, Nat.add_sub_cancel]
    rfl
  calc valueAt f (e + 1) (divide g (e + 1) reg x)
      = ∑ j ∈ Finset.range (e + 1), (f ^ j) (if j = 0 then 0 else reg (j - 1))
          + ∑ j ∈ Finset.range (e + 1), (f ^ j) (g j (x + reg e)) := by
        rw [valueAt, ← Finset.sum_add_distrib]
        refine Finset.sum_congr rfl fun j _ => ?_
        rw [divide, map_add, Nat.add_sub_cancel]
    _ = ∑ j ∈ Finset.range (e + 1), (f ^ j) (if j = 0 then 0 else reg (j - 1))
          + ((f ^ (e + 1)) (reg e) + (f ^ (e + 1)) x) := by
        rw [hroot, map_add, add_comm ((f ^ (e + 1)) x)]
    _ = f (valueAt f (e + 1) reg) + (f ^ (e + 1)) x := by rw [← add_assoc, hshift]

/-- The register after the first `n` symbols of a word. -/
def remainder (g : Nat → AddMonoid.End M) (d : Nat) (w : Nat → M) : Nat → Nat → M
  | 0 => fun _ => 0
  | n + 1 => divide g d (remainder g d w n) (w n)

/-- The register holds the remainder of the word, at a root. -/
theorem valueAt_remainder (hd : 0 < d) (hroot : ∀ x, ∑ j ∈ Finset.range d, (f ^ j) (g j x) = (f ^ d) x)
    (w : Nat → M) (n : Nat) : valueAt f d (remainder g d w n) = (f ^ d) (horner f w n) := by
  induction n with
  | zero =>
      rw [horner, map_zero, valueAt]
      exact Finset.sum_eq_zero fun j _ => map_zero _
  | succ n ih =>
      have hcomm : f ((f ^ d) (horner f w n)) = (f ^ d) (f (horner f w n)) := by
        rw [← pow_succ_apply, pow_succ]
        rfl
      rw [remainder, valueAt_divide hd hroot, ih, hcomm, ← map_add, horner_succ]

/-- The last `d` symbols of a word, as a register. -/
theorem horner_append (w : Nat → M) (n : Nat) :
    horner f w (n + d) = (f ^ d) (horner f w n) + valueAt f d (fun j => w (n + (d - 1 - j))) := by
  induction d with
  | zero => exact (add_zero _).symm
  | succ d ih =>
      have hlast : valueAt f (d + 1) (fun j => w (n + (d + 1 - 1 - j)))
          = f (valueAt f d (fun j => w (n + (d - 1 - j)))) + w (n + d) := by
        rw [valueAt, Finset.sum_range_succ', valueAt, map_sum]
        congr 1
        refine Finset.sum_congr rfl fun j _ => ?_
        rw [pow_succ_apply, Nat.add_sub_cancel, Nat.sub_sub, Nat.add_comm 1 j]
      rw [Nat.add_succ, horner_succ, ih, map_add, pow_succ_apply, hlast, add_assoc]

/-- **Systematic encoding.** A word that ends in its remainder vanishes at every root, where symbols are their own
    negatives. -/
theorem horner_eq_zero (hd : 0 < d) (hroot : ∀ x, ∑ j ∈ Finset.range d, (f ^ j) (g j x) = (f ^ d) x)
    (hself : ∀ x : M, x + x = 0) {w : Nat → M} {n : Nat}
    (hparity : ∀ j < d, w (n + (d - 1 - j)) = remainder g d w n j) : horner f w (n + d) = 0 := by
  have hvalue : valueAt f d (fun j => w (n + (d - 1 - j))) = valueAt f d (remainder g d w n) :=
    Finset.sum_congr rfl fun j hj => congrArg _ (hparity j (Finset.mem_range.mp hj))
  rw [horner_append, hvalue, valueAt_remainder hd hroot, hself]

end Division

end Lib.HornerCode

namespace Lib.PowerSums

open Polynomial

variable {ι F : Type*} [Fintype ι] [CommRing F] [IsDomain F] [DecidableEq F]

/-- The first `r` power sums of a word vanish. -/
def Vanish (x : ι → F) (r : ℕ) (w : ι → F) : Prop := ∀ k < r, ∑ i, w i * x i ^ (k + 1) = 0

omit [IsDomain F] [DecidableEq F] in
theorem Vanish.sub {x : ι → F} {r : ℕ} {w w' : ι → F} (h : Vanish x r w) (h' : Vanish x r w') :
    Vanish x r (w - w') := by
  intro k hk
  have hsplit : ∀ i, (w - w') i * x i ^ (k + 1) = w i * x i ^ (k + 1) - w' i * x i ^ (k + 1) := fun i => by
    rw [Pi.sub_apply, sub_mul]
  rw [Finset.sum_congr rfl fun i _ => hsplit i, Finset.sum_sub_distrib, h k hk, h' k hk, sub_zero]

omit [IsDomain F] [DecidableEq F] in
/-- The power sums give the sums with a polynomial of small degree. -/
theorem Vanish.sum_eval {x : ι → F} {r : ℕ} {w : ι → F} (h : Vanish x r w) {f : F[X]} (hf : f.natDegree < r) :
    ∑ i, w i * x i * f.eval (x i) = 0 := by
  have hterm : ∀ i, w i * x i * f.eval (x i) = ∑ k ∈ Finset.range r, f.coeff k * (w i * x i ^ (k + 1)) := by
    intro i
    rw [eval_eq_sum_range' hf, Finset.mul_sum]
    refine Finset.sum_congr rfl fun k _ => ?_
    ring
  rw [Finset.sum_congr rfl fun i _ => hterm i, Finset.sum_comm]
  refine Finset.sum_eq_zero fun k hk => ?_
  rw [← Finset.mul_sum, h k (Finset.mem_range.mp hk), mul_zero]

/-- **Light words are zero.** -/
theorem eq_zero_of_hammingNorm_le {x : ι → F} {r : ℕ} {w : ι → F} (hinj : Function.Injective x)
    (hx : ∀ i, x i ≠ 0) (h : Vanish x r w) (hlight : hammingNorm w ≤ r) : w = 0 := by
  classical
  by_contra hne
  obtain ⟨p, hp⟩ : ∃ p, w p ≠ 0 := by
    by_contra hall
    exact hne (funext fun i => not_not.mp fun hi => hall ⟨i, hi⟩)
  -- the polynomial that vanishes at the points of all other symbols
  let S := Finset.univ.filter fun i => w i ≠ 0
  let f : F[X] := ∏ q ∈ S.erase p, (X - C (x q))
  have hpS : p ∈ S := Finset.mem_filter.mpr ⟨Finset.mem_univ p, hp⟩
  have hdeg : f.natDegree < r := by
    have hcard : (S.erase p).card + 1 = S.card := Finset.card_erase_add_one hpS
    have hS : S.card ≤ r := hlight
    have hprod : f.natDegree = (S.erase p).card := by
      rw [natDegree_prod_of_monic _ _ fun q _ => monic_X_sub_C (x q)]
      simp
    omega
  have heval : ∀ y, f.eval y = ∏ q ∈ S.erase p, (y - x q) := by
    intro y
    rw [eval_prod]
    exact Finset.prod_congr rfl fun q _ => by rw [eval_sub, eval_X, eval_C]
  have hsum := h.sum_eval hdeg
  rw [Finset.sum_eq_single p] at hsum
  · have hfp : f.eval (x p) ≠ 0 := by
      rw [heval, Finset.prod_ne_zero_iff]
      intro q hq hzero
      exact (Finset.ne_of_mem_erase hq) (hinj (sub_eq_zero.mp hzero)).symm
    exact mul_ne_zero (mul_ne_zero hp (hx p)) hfp hsum
  · intro i _ hip
    by_cases hi : w i = 0
    · rw [hi, zero_mul, zero_mul]
    · have hiS : i ∈ S.erase p :=
        Finset.mem_erase.mpr ⟨hip, Finset.mem_filter.mpr ⟨Finset.mem_univ i, hi⟩⟩
      rw [heval, Finset.prod_eq_zero hiS (sub_self _), mul_zero]
  · exact fun hout => absurd (Finset.mem_univ p) hout

/-- **Decoding is unique** within half of the power sums. -/
theorem eq_of_hammingDist_le {x : ι → F} {r : ℕ} {w w' y : ι → F} (hinj : Function.Injective x)
    (hx : ∀ i, x i ≠ 0) (h : Vanish x r w) (h' : Vanish x r w') (hsum : hammingDist y w + hammingDist y w' ≤ r) :
    w = w' := by
  have hdist : hammingDist w w' ≤ r := by
    have htriangle := hammingDist_triangle w y w'
    rw [hammingDist_comm w y] at htriangle
    omega
  apply sub_eq_zero.mp
  apply eq_zero_of_hammingNorm_le hinj hx (h.sub h')
  rwa [sub_eq_neg_add, ← hammingDist_eq_hammingNorm, hammingDist_comm]

end Lib.PowerSums

import Mathlib.Algebra.BigOperators.Fin
import Mathlib.Algebra.Field.ZMod
import Mathlib.Algebra.Polynomial.Coeff
import Mathlib.Data.Fintype.Pi

/-!
# `Lib.ShiftRegister` — linear feedback shift registers

A register of `w + 1` stages moves up by one stage in a step, and its first stage takes a combination of the stages
that were there, with the coefficients of a polynomial: the stage at `j` counts with the coefficient of `X ^ (j + 1)`.
Steps are additive. When the last stage is fed back a step can be undone, so that over a finite ring the steps are
permutations of the states (`bijective_step`), and none but the zero state comes to the zero state.
-/

namespace Lib.ShiftRegister

open Polynomial

variable {F : Type} [CommRing F] {w : Nat}

/-- What is fed back of the stages. -/
noncomputable def feedback (p : F[X]) (s : Fin w → F) : F := ∑ j : Fin w, p.coeff (j + 1) * s j

/-- A step of the register. -/
noncomputable def step (p : F[X]) (s : Fin (w + 1) → F) : Fin (w + 1) → F := Fin.cons (feedback p s) (Fin.init s)

@[simp] theorem step_zero_apply (p : F[X]) (s : Fin (w + 1) → F) : step p s 0 = feedback p s := rfl

@[simp] theorem step_succ_apply (p : F[X]) (s : Fin (w + 1) → F) (j : Fin w) : step p s j.succ = s j.castSucc := rfl

/-! ## The polynomial -/

@[simp] theorem feedback_add (p q : F[X]) (s : Fin w → F) : feedback (p + q) s = feedback p s + feedback q s := by
  unfold feedback
  rw [← Finset.sum_add_distrib]
  exact Finset.sum_congr rfl fun j _ => by rw [coeff_add, add_mul]

/-- A power of `X` feeds one stage back. -/
theorem feedback_X_pow (s : Fin w → F) (j : Fin w) : feedback (X ^ (j.val + 1)) s = s j := by
  unfold feedback
  rw [Finset.sum_eq_single j]
  · rw [coeff_X_pow_self, one_mul]
  · intro i _ hne
    rw [coeff_X_pow, if_neg fun h => hne (Fin.ext (Nat.succ.inj h)), zero_mul]
  · exact fun h => absurd (Finset.mem_univ j) h

/-- The constant feeds nothing back. -/
@[simp] theorem feedback_one (s : Fin w → F) : feedback 1 s = 0 := by
  unfold feedback
  refine Finset.sum_eq_zero fun j _ => ?_
  rw [coeff_one, if_neg (Nat.succ_ne_zero _), zero_mul]

/-! ## Steps -/

theorem feedback_zero (p : F[X]) : feedback p (0 : Fin w → F) = 0 :=
  Finset.sum_eq_zero fun j _ => mul_zero (p.coeff (j + 1))

@[simp] theorem step_zero (p : F[X]) : step p (0 : Fin (w + 1) → F) = 0 := by
  funext j
  refine Fin.cases ?_ (fun i => ?_) j
  · exact feedback_zero p
  · rfl

/-- **A step can be undone** when the last stage is fed back. -/
theorem step_injective {p : F[X]} (hlast : IsUnit (p.coeff (w + 1))) :
    Function.Injective (step p : (Fin (w + 1) → F) → Fin (w + 1) → F) := by
  intro s t h
  -- all stages but the last are still there
  have hinit (j : Fin w) : s j.castSucc = t j.castSucc := congrFun h j.succ
  have hfeed : feedback p s = feedback p t := congrFun h 0
  unfold feedback at hfeed
  rw [Fin.sum_univ_castSucc, Fin.sum_univ_castSucc] at hfeed
  have hsum : ∑ j : Fin w, p.coeff (j.castSucc + 1) * s j.castSucc
      = ∑ j : Fin w, p.coeff (j.castSucc + 1) * t j.castSucc :=
    Finset.sum_congr rfl fun j _ => by rw [hinit j]
  rw [hsum] at hfeed
  have htop : s (Fin.last w) = t (Fin.last w) := hlast.mul_left_cancel (add_left_cancel hfeed)
  funext j
  exact Fin.lastCases htop hinit j

/-- **Steps permute the states** of a register over a finite ring. -/
theorem bijective_step [Finite F] {p : F[X]} (hlast : IsUnit (p.coeff (w + 1))) :
    Function.Bijective (step p : (Fin (w + 1) → F) → Fin (w + 1) → F) :=
  Finite.injective_iff_bijective.mp (step_injective hlast)

theorem iterate_step_zero (p : F[X]) (n : Nat) : (step p)^[n] (0 : Fin (w + 1) → F) = 0 :=
  Function.iterate_fixed (step_zero p) n

/-- However many steps it takes, only the zero state comes to the zero state. -/
theorem iterate_step_eq_zero_iff {p : F[X]} (hlast : IsUnit (p.coeff (w + 1))) (n : Nat) (s : Fin (w + 1) → F) :
    (step p)^[n] s = 0 ↔ s = 0 := by
  constructor
  · intro h
    exact (step_injective hlast).iterate n (h.trans (iterate_step_zero p n).symm)
  · rintro rfl
    exact iterate_step_zero p n

end Lib.ShiftRegister

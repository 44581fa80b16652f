import Mathlib.Algebra.BigOperators.Ring.Finset
import DvmHost.Common.Nxdn.Edac.Convolution

/-!
# `Common.Nxdn.Edac.Correctness.ViterbiRepair` — the Viterbi decoder repairs a punctured block

A block of `N` bits ends in four zeros, so its last two symbols repeat bit `N - 5`, and eight zero symbols follow.
The channels of NXDN puncture some symbols, the decoder is given 1 for those, and the last two may reach it as 0
whatever they were (`Received`). The difference of two paths is a path too: its weight, counted without the
punctured symbols and the last two, is bounded by running labels over the 32 pairs of a state and whether a data
bit has differed, and the tables are evaluated (`separates`).

A path that differs in a data bit is dearer than the block's own even after one symbol is inverted, or, where the
last two symbols were lost, as cheap; the tie then goes to the block because the bit that differs last is set.
-/

namespace DvmHost.Nxdn

open Lib.Viterbi Finset

namespace Convolution

/-! ## Differences -/

/-- Symbol `p` of a path. -/
def symbol (y : Nat → Bool) (p : Nat) : Bool := if p % 2 = 0 then out1 y (p / 2) else out2 y (p / 2)

/-- The difference of two paths. -/
def diff (y z : Nat → Bool) (t : Nat) : Bool := y t ^^ z t

theorem diff_eq_true {y z : Nat → Bool} {t : Nat} : diff y z t = true ↔ y t ≠ z t := by
  unfold diff
  cases y t <;> cases z t <;> decide

theorem diff_eq_false {y z : Nat → Bool} {t : Nat} : diff y z t = false ↔ y t = z t := by
  unfold diff
  cases y t <;> cases z t <;> decide

theorem symbol_diff (y z : Nat → Bool) (p : Nat) : symbol (diff y z) p = (symbol y p ^^ symbol z p) := by
  unfold symbol out1 out2 diff
  split <;> simp only [Bool.xor_assoc, Bool.xor_left_comm]

/-- A symbol of the step with state `s` and input `b`; `second` picks the second one. -/
def stepSymbol (second : Bool) (s : Nat) (b : Bool) : Nat :=
  if second then (b.toNat + s + s / 2 + s / 8) % 2 else (b.toNat + s / 4 + s / 8) % 2

theorem stepSymbol_window (e : Nat → Bool) (t : Nat) :
    stepSymbol false (window e t) (e (t + 4)) = (symbol e (2 * t)).toNat ∧
    stepSymbol true (window e t) (e (t + 4)) = (symbol e (2 * t + 1)).toNat := by
  have h : ∀ a b c d e : Bool,
      stepSymbol false (b.toNat + 2 * c.toNat + 4 * d.toNat + 8 * e.toNat) a = (a ^^ d ^^ e).toNat ∧
      stepSymbol true (b.toNat + 2 * c.toNat + 4 * d.toNat + 8 * e.toNat) a = (a ^^ b ^^ c ^^ e).toNat := by
    decide +kernel
  have h0 : (2 * t) % 2 = 0 := by omega
  have h1 : ¬ (2 * t + 1) % 2 = 0 := by omega
  have hhalf0 : 2 * t / 2 = t := by omega
  have hhalf1 : (2 * t + 1) / 2 = t := by omega
  unfold symbol
  rw [if_pos h0, if_neg h1, hhalf0, hhalf1]
  exact h (e (t + 4)) (e (t + 3)) (e (t + 2)) (e (t + 1)) (e t)

/-- What a step weighs where its symbols count or not. -/
def symbolWeight (first second : Bool) (s : Nat) (b : Bool) : Nat :=
  (if first then stepSymbol false s b else 0) + (if second then stepSymbol true s b else 0)

/-- What step `t` weighs where only the kept symbols count. -/
def stepWeight (kept : Nat → Bool) (t s : Nat) (b : Bool) : Nat :=
  symbolWeight (kept (2 * t)) (kept (2 * t + 1)) s b

/-! ## Labels for the states, apart by whether a data bit has differed -/

/-- The pair, as a number below 32, after the input `b` at step `t`. -/
def nextPair (N t i : Nat) (b : Bool) : Nat :=
  (2 * (i % 16) + b.toNat) % 16 + 16 * (decide (16 ≤ i) || (b && decide (t + 4 < N))).toNat

/-- The label of pair `i` after a step, from the table before it; `data` is whether the step's input counts as data. -/
def relaxed (first second data : Bool) (table i : Nat) : Nat :=
  let s := i % 16
  let b := decide (i % 2 = 1)
  let best := fun flag => min (digit table (s / 2 + flag) + symbolWeight first second (s / 2) b)
    (digit table (s / 2 + 8 + flag) + symbolWeight first second (s / 2 + 8) b)
  min 7 (if i < 16 then if data && b then 7 else best 0
    else if data && b then min (best 0) (best 16) else best 16)

/-- The table after a step; the cases make an evaluation look at the two symbols once. -/
def nextTable (data : Bool) (table : Nat) : Bool → Bool → Nat
  | true, true => pack (relaxed true true data table) 32
  | true, false => pack (relaxed true false data table) 32
  | false, true => pack (relaxed false true data table) 32
  | false, false => pack (relaxed false false data table) 32

/-- The table of labels before step `t`. -/
def labelTable (kept : Nat → Bool) (N : Nat) : Nat → Nat
  | 0 => pack (fun i => if i < 16 then 0 else 7) 32
  | t + 1 => nextTable (decide (t + 4 < N)) (labelTable kept N t) (kept (2 * t)) (kept (2 * t + 1))

/-- The weight of the four steps after the block, from state `s` on. -/
def tailWeight (s : Nat) : Nat :=
  ([s, 2 * s % 16, 4 * s % 16, 8 * s % 16].map fun s => stepSymbol false s false + stepSymbol true s false).sum

/-- The check of the labels before the last step of the block: a difference is heavy, also when the last two symbols
    count against it, except that it may be one short when no later bit differs. -/
def separates (table : Nat) : Bool :=
  (List.range 16).all fun s => [false, true].all fun b =>
    let weight := digit table (s + 16) + tailWeight ((2 * s + b.toNat) % 16)
    decide (3 ≤ weight) && (decide (3 + stepSymbol false s b + stepSymbol true s b ≤ weight)
      || (decide (s = 8) && !b && decide (4 ≤ weight)))

theorem nextTable_eq (data : Bool) (table : Nat) (first second : Bool) :
    nextTable data table first second = pack (relaxed first second data table) 32 := by
  cases first <;> cases second <;> rfl

theorem relaxed_lt (first second data : Bool) (table i : Nat) : relaxed first second data table i < 8 := by
  unfold relaxed
  dsimp only
  omega

theorem nextPair_lt (N t i : Nat) (b : Bool) : nextPair N t i b < 32 := by
  have := Bool.toNat_le (decide (16 ≤ i) || (b && decide (t + 4 < N)))
  unfold nextPair
  omega

/-- The label of the pair a step leads to is no more than the label before and the weight of the step. -/
theorem relaxed_le (first second : Bool) (N t table : Nat) {i : Nat} (hi : i < 32) (b : Bool) :
    relaxed first second (decide (t + 4 < N)) table (nextPair N t i b)
      ≤ digit table i + symbolWeight first second (i % 16) b := by
  have hb := Bool.toNat_le b
  have hflag := Bool.toNat_le (decide (16 ≤ i) || (b && decide (t + 4 < N)))
  have hbit : decide (nextPair N t i b % 2 = 1) = b := by
    unfold nextPair
    cases b with
    | false => exact decide_eq_false (by simp only [Bool.toNat_false]; omega)
    | true => exact decide_eq_true (by simp only [Bool.toNat_true]; omega)
  have hhalf : nextPair N t i b % 16 / 2 = i % 8 := by
    unfold nextPair
    omega
  have hsmall : nextPair N t i b < 16 ↔ ¬ (16 ≤ i ∨ (b = true ∧ t + 4 < N)) := by
    rw [← decide_eq_true_eq (p := t + 4 < N), ← Bool.and_eq_true, ← decide_eq_true_eq (p := 16 ≤ i),
      ← Bool.or_eq_true]
    unfold nextPair
    cases (decide (16 ≤ i) || (b && decide (t + 4 < N)))
    · simp only [Bool.toNat_false]
      simp
      omega
    · simp only [Bool.toNat_true]
      simp
  -- the branch from `i` is one of the two that the label of its flag takes the better of
  have hbest : min (digit table (i % 8 + i / 16 * 16) + symbolWeight first second (i % 8) b)
      (digit table (i % 8 + 8 + i / 16 * 16) + symbolWeight first second (i % 8 + 8) b)
      ≤ digit table i + symbolWeight first second (i % 16) b := by
    rcases (by omega : i % 16 = i % 8 ∨ i % 16 = i % 8 + 8) with hs | hs
    · have hpair : i % 8 + i / 16 * 16 = i := by omega
      rw [hs, hpair]
      exact Nat.min_le_left _ _
    · have hpair : i % 8 + 8 + i / 16 * 16 = i := by omega
      rw [hs, hpair]
      exact Nat.min_le_right _ _
  unfold relaxed
  dsimp only
  rw [hbit, hhalf]
  rcases (by omega : i / 16 = 0 ∨ i / 16 = 1) with hq | hq
  · rw [hq, Nat.zero_mul] at hbest
    by_cases hdata : b = true ∧ t + 4 < N
    · have hge : ¬ nextPair N t i b < 16 := fun h => hsmall.mp h (Or.inr hdata)
      rw [if_neg hge, hdata.1, decide_eq_true hdata.2, Bool.and_self, if_pos rfl]
      rw [hdata.1] at hbest
      omega
    · have hlt : nextPair N t i b < 16 := hsmall.mpr fun h => h.elim (fun h16 => by omega) hdata
      have hnot : ¬ (decide (t + 4 < N) && b) = true := by
        rw [Bool.and_eq_true, decide_eq_true_eq]
        exact fun h => hdata ⟨h.2, h.1⟩
      rw [if_pos hlt, if_neg hnot]
      omega
  · rw [hq, Nat.one_mul] at hbest
    have hge : ¬ nextPair N t i b < 16 := fun h => hsmall.mp h (Or.inl (by omega))
    rw [if_neg hge]
    split <;> omega

theorem certified (kept : Nat → Bool) (N : Nat) :
    Certified (nextPair N) (fun t i b => stepWeight kept t (i % 16) b) (· < 32)
      (fun t i => digit (labelTable kept N t) i) := by
  intro t i b hi
  refine ⟨nextPair_lt N t i b, ?_⟩
  dsimp only
  rw [labelTable, nextTable_eq, digit_pack (relaxed_lt _ _ _ _) (nextPair_lt N t i b)]
  exact relaxed_le _ _ N t _ hi b

/-! ## Weights of differences -/

/-- The positions that count before and after the last step `m` of the block. -/
def counted (punctured : List Nat) (m p : Nat) : Bool :=
  if p < 2 * m then !punctured.any (Nat.beq p) else decide (2 * m + 2 ≤ p)

/-- Whether a data bit of `e` has entered before step `t`. -/
def entered (N : Nat) (e : Nat → Bool) : Nat → Bool
  | 0 => false
  | t + 1 => entered N e t || (e (t + 4) && decide (t + 4 < N))

theorem entered_of_bit {N : Nat} {e : Nat → Bool} {t u : Nat} (hu : e (u + 4) = true) (hN : u + 4 < N) (hut : u < t) :
    entered N e t = true := by
  induction t with
  | zero => exact absurd hut (Nat.not_lt_zero u)
  | succ t ih =>
      rw [entered]
      rcases Nat.lt_succ_iff_lt_or_eq.mp hut with hlt | rfl
      · rw [ih hlt, Bool.true_or]
      · rw [hu, decide_eq_true hN, Bool.true_and, Bool.or_true]

theorem run_nextPair (N : Nat) (e : Nat → Bool) (t : Nat) :
    run (nextPair N) (window e 0) (fun t => e (t + 4)) t = window e t + 16 * (entered N e t).toNat := by
  induction t with
  | zero => rfl
  | succ t ih =>
      have hw := window_lt e t
      have hf := Bool.toNat_le (entered N e t)
      have hmod : (window e t + 16 * (entered N e t).toNat) % 16 = window e t := by omega
      have hflag : decide (16 ≤ window e t + 16 * (entered N e t).toNat) = entered N e t := by
        cases hfl : entered N e t with
        | false => exact decide_eq_false (by simp only [Bool.toNat_false]; omega)
        | true => exact decide_eq_true (by simp only [Bool.toNat_true]; omega)
      have hshift : (2 * window e t + (e (t + 4)).toNat) % 16 = window e (t + 1) := by
        have h4 := Bool.toNat_le (e (t + 4))
        have h3 := Bool.toNat_le (e (t + 3))
        have h2 := Bool.toNat_le (e (t + 2))
        have h1 := Bool.toNat_le (e (t + 1))
        rw [window_succ, window]
        omega
      rw [run, ih, nextPair, hmod, hflag, hshift, entered]

/-- The weight of a path over the block of `m + 1` steps and the four after it. -/
def weight (punctured : List Nat) (m : Nat) (e : Nat → Bool) : Nat :=
  ∑ t ∈ range (m + 5), stepWeight (counted punctured m) t (window e t) (e (t + 4))

/-- The last step of the block does not count, and the steps after it do. -/
theorem weight_eq (punctured : List Nat) (m : Nat) {e : Nat → Bool} (hend : ∀ u, m + 5 ≤ u → e u = false) :
    weight punctured m e = (∑ t ∈ range m, stepWeight (counted punctured m) t (window e t) (e (t + 4)))
      + tailWeight (window e (m + 1)) := by
  have hskip : stepWeight (counted punctured m) m (window e m) (e (m + 4)) = 0 := by
    simp [stepWeight, symbolWeight, counted]
  have hfull : ∀ t, m < t → stepWeight (counted punctured m) t (window e t) (e (t + 4))
      = stepSymbol false (window e t) false + stepSymbol true (window e t) false := fun t ht => by
    rw [hend (t + 4) (by omega)]
    simp [stepWeight, symbolWeight, counted, show ¬ 2 * t < 2 * m by omega, show ¬ 2 * t + 1 < 2 * m by omega,
      show 2 * m + 2 ≤ 2 * t by omega, show 2 * m + 2 ≤ 2 * t + 1 by omega]
  -- without input the window moves up one place a step
  have hshift : ∀ t, m < t → window e (t + 1) = 2 * window e t % 16 := fun t ht => by
    have h3 := Bool.toNat_le (e (t + 3))
    have h2 := Bool.toNat_le (e (t + 2))
    have h1 := Bool.toNat_le (e (t + 1))
    rw [window_succ, window, hend (t + 4) (by omega)]
    simp only [Bool.toNat_false]
    omega
  have h2 := hshift (m + 1) (by omega)
  have h3 := hshift (m + 2) (by omega)
  have h4 := hshift (m + 3) (by omega)
  rw [weight, sum_range_succ, sum_range_succ, sum_range_succ, sum_range_succ, sum_range_succ, hskip,
    hfull (m + 1) (by omega), hfull (m + 2) (by omega), hfull (m + 3) (by omega), hfull (m + 4) (by omega)]
  have e2 : window e (m + 2) = 2 * window e (m + 1) % 16 := h2
  have e3 : window e (m + 3) = 4 * window e (m + 1) % 16 := by rw [h3, e2]; omega
  have e4 : window e (m + 4) = 8 * window e (m + 1) % 16 := by rw [h4, e3]; omega
  rw [e2, e3, e4]
  simp only [tailWeight, List.map_cons, List.map_nil, List.sum_cons, List.sum_nil]
  omega

/-- **Differences are heavy.** What the check of the table says of every path that differs in a data bit. -/
theorem heavy_of_separates {punctured : List Nat} {m : Nat}
    (hsep : separates (labelTable (counted punctured m) (m + 1) m) = true) {e : Nat → Bool}
    (hend : ∀ u, m + 5 ≤ u → e u = false) {u : Nat} (h4 : 4 ≤ u) (hum : u ≤ m) (hu : e u = true) :
    3 ≤ weight punctured m e ∧
      (3 + (symbol e (2 * m)).toNat + (symbol e (2 * m + 1)).toNat ≤ weight punctured m e ∨
        (4 ≤ weight punctured m e ∧ e m = true ∧ ∀ v, m < v → e v = false)) := by
  have hentered : entered (m + 1) e m = true := by
    have hsub : u - 4 + 4 = u := by omega
    exact entered_of_bit (u := u - 4) (by rwa [hsub]) (by omega) (by omega)
  have hrun := run_nextPair (m + 1) e m
  obtain ⟨-, hlabel⟩ := label_le_cost (certified (counted punctured m) (m + 1)) (s := window e 0)
    (by have := window_lt e 0; omega)
    (by
      show digit (labelTable (counted punctured m) (m + 1) 0) (window e 0) = 0
      rw [labelTable, digit_pack (fun i => by split <;> omega) (by have := window_lt e 0; omega),
        if_pos (window_lt e 0)])
    (fun t => e (t + 4)) m
  have hsum : ∀ t, (run (nextPair (m + 1)) (window e 0) (fun t => e (t + 4)) t) % 16 = window e t := fun t => by
    have := window_lt e t
    rw [run_nextPair]
    omega
  simp only [hsum] at hlabel
  rw [hrun, hentered] at hlabel
  simp only [Bool.toNat_true, Nat.mul_one] at hlabel
  have hshift : (2 * window e m + (e (m + 4)).toNat) % 16 = window e (m + 1) := by
    have h4 := Bool.toNat_le (e (m + 4))
    have h3 := Bool.toNat_le (e (m + 3))
    have h2 := Bool.toNat_le (e (m + 2))
    have h1 := Bool.toNat_le (e (m + 1))
    rw [window_succ, window]
    omega
  have hweight := weight_eq punctured m hend
  -- the check, at the state before the last step and its input
  have hcheck := List.all_eq_true.mp hsep (window e m) (List.mem_range.mpr (window_lt e m))
  have hcheck := List.all_eq_true.mp hcheck (e (m + 4)) (by cases e (m + 4) <;> simp)
  rw [hshift, (stepSymbol_window e m).1, (stepSymbol_window e m).2] at hcheck
  simp only [Bool.and_eq_true, Bool.or_eq_true, decide_eq_true_eq, Bool.not_eq_true'] at hcheck
  obtain ⟨hthree, hor⟩ := hcheck
  refine ⟨by omega, ?_⟩
  rcases hor with hsure | ⟨⟨hs, hb⟩, hfour⟩
  · exact Or.inl (by omega)
  · refine Or.inr ⟨by omega, ?_⟩
    have hbits : ∀ a b c d : Bool, a.toNat + 2 * b.toNat + 4 * c.toNat + 8 * d.toNat = 8 →
        a = false ∧ b = false ∧ c = false ∧ d = true := by decide
    obtain ⟨h3, h2, h1, h0⟩ := hbits _ _ _ _ hs
    refine ⟨h0, fun v hv => ?_⟩
    rcases (by omega : v = m + 1 ∨ v = m + 2 ∨ v = m + 3 ∨ v = m + 4 ∨ m + 5 ≤ v) with rfl | rfl | rfl | rfl | hv
    · exact h1
    · exact h2
    · exact h3
    · exact hb
    · exact hend v hv

/-! ## What the decoder is given -/

/-- The symbols `r` are those of the path `y`, whose block ends with step `m`, but for the punctured ones, perhaps
    symbol `f`, and perhaps the last two of the block. -/
structure Received (punctured : List Nat) (m : Nat) (y : Nat → Bool) (f : Nat) (r : Bytes) : Prop where
  soft : Soft r
  erased : ∀ p < 2 * m, p ∈ punctured → (r p).toNat = 1
  sent : ∀ p < 2 * m, p ∉ punctured → p ≠ f → (r p).toNat = 2 * (symbol y p).toNat
  last : ∀ p, 2 * m ≤ p → p < 2 * m + 2 → p ≠ f → y m = false → (r p).toNat ≤ 1
  after : ∀ p, 2 * m + 2 ≤ p → p < 2 * m + 10 → p ≠ f → (r p).toNat = 0

/-- What the symbols of step `t` cost on the path `y`. -/
def stepCost (r : Bytes) (y : Nat → Bool) (t : Nat) : Nat :=
  symbolCost (symbol y (2 * t)) (r (2 * t)).toNat + symbolCost (symbol y (2 * t + 1)) (r (2 * t + 1)).toNat

theorem symbol_even (y : Nat → Bool) (t : Nat) : symbol y (2 * t) = out1 y t := by
  have hmod : 2 * t % 2 = 0 := by omega
  have hdiv : 2 * t / 2 = t := by omega
  rw [symbol, if_pos hmod, hdiv]

theorem symbol_odd (y : Nat → Bool) (t : Nat) : symbol y (2 * t + 1) = out2 y t := by
  have hmod : ¬ (2 * t + 1) % 2 = 0 := by omega
  have hdiv : (2 * t + 1) / 2 = t := by omega
  rw [symbol, if_neg hmod, hdiv]

theorem pathCost_window {r : Bytes} (hr : Soft r) (y : Nat → Bool) (n : Nat) :
    pathCost (branchCost r) (window y) y n = ∑ t ∈ range n, stepCost r y t :=
  sum_congr rfl fun t _ => by
    rw [branchCost_window (hr _) (hr _), stepCost, symbol_even, symbol_odd]

/-! ## The survivor -/

/-- The survivor into state 0 after `n` steps, as a sequence of bits. -/
def chosen (r : Bytes) (n t : Nat) : Bool := if t < n then choice older (branchCost r) n 0 t else false

theorem chosen_of_lt (r : Bytes) {n t : Nat} (ht : t < n) : chosen r n t = choice older (branchCost r) n 0 t := if_pos ht

theorem chosen_of_ge (r : Bytes) {n t : Nat} (ht : n ≤ t) : chosen r n t = false := if_neg (Nat.not_lt.mpr ht)

theorem window_eq_zero {y : Nat → Bool} {n : Nat} (hend : ∀ t, n ≤ t → y t = false) : window y n = 0 := by
  simp [window, hend (n + 3) (by omega), hend (n + 2) (by omega), hend (n + 1) (by omega), hend n (Nat.le_refl n)]

theorem pathCost_chosen (r : Bytes) (n : Nat) :
    pathCost (branchCost r) (survivor older (branchCost r) n 0) (choice older (branchCost r) n 0) n
      = pathCost (branchCost r) (window (chosen r n)) (chosen r n) n := by
  have hpath : IsPath older (survivor older (branchCost r) n 0) (chosen r n) n := by
    intro t ht
    rw [chosen_of_lt r ht]
    exact isPath_survivor n 0 t ht
  refine sum_congr rfl fun t ht => ?_
  have ht := mem_range.mp ht
  rw [eq_window hpath (by rw [survivor_self, window_eq_zero fun _ => chosen_of_ge r]) ht, chosen_of_lt r ht]

/-- **Nothing is cheaper** than the survivor, of what ends in four zeros. -/
theorem chosen_le (r : Bytes) {n : Nat} {y : Nat → Bool} (hend : ∀ t, n ≤ t → y t = false) :
    pathCost (branchCost r) (window (chosen r n)) (chosen r n) n ≤ pathCost (branchCost r) (window y) y n := by
  have hle := survivor_le (branchCost r) (isPath_window y n)
  rwa [window_eq_zero hend, pathCost_chosen] at hle

/-- A path that differs from the survivor in its first bits alone is no cheaper in its first steps. -/
theorem chosen_prefix_le {r : Bytes} (hr : Soft r) {n T : Nat} (hT : T ≤ n) {y : Nat → Bool}
    (hsame : ∀ t, T ≤ t → y t = chosen r n t) :
    ∑ t ∈ range T, stepCost r (chosen r n) t ≤ ∑ t ∈ range T, stepCost r y t := by
  have hle := chosen_le r (show ∀ t, n ≤ t → y t = false from fun t ht => by
    rw [hsame t (by omega), chosen_of_ge r ht])
  obtain ⟨k, hk⟩ := Nat.exists_eq_add_of_le hT
  have hrest : ∑ t ∈ range k, stepCost r y (T + t) = ∑ t ∈ range k, stepCost r (chosen r n) (T + t) := by
    refine sum_congr rfl fun t _ => ?_
    unfold stepCost
    rw [symbol_even, symbol_odd, symbol_even, symbol_odd]
    unfold out1 out2
    rw [hsame (T + t) (by omega), hsame (T + t + 1) (by omega), hsame (T + t + 2) (by omega),
      hsame (T + t + 3) (by omega), hsame (T + t + 4) (by omega)]
  rw [pathCost_window hr, pathCost_window hr] at hle
  have hsplit : ∀ f : Nat → Nat, ∑ t ∈ range n, f t = ∑ t ∈ range T, f t + ∑ t ∈ range k, f (T + t) := by
    intro f
    rw [hk, sum_range_add]
  rw [hsplit, hsplit, hrest] at hle
  exact Nat.le_of_add_le_add_right hle

section Gap

variable {punctured : List Nat} {m f : Nat} {y : Nat → Bool} {r : Bytes}

/-- After the block the path sends zeros, and its last step repeats bit `m`. -/
theorem symbol_tail (htail : ∀ u, m < u → y u = false) {p : Nat} (hp : 2 * m ≤ p) :
    symbol y p = (decide (p < 2 * m + 2) && y m) := by
  have h4 : y (p / 2 + 4) = false := htail _ (by omega)
  have h3 : y (p / 2 + 3) = false := htail _ (by omega)
  have h2 : y (p / 2 + 2) = false := htail _ (by omega)
  have h1 : y (p / 2 + 1) = false := htail _ (by omega)
  have hsym : symbol y p = y (p / 2) := by
    unfold symbol out1 out2
    rw [h1, h2, h3, h4]
    simp
  rw [hsym]
  by_cases hlt : p < 2 * m + 2
  · have hhalf : p / 2 = m := by omega
    rw [hhalf, decide_eq_true hlt, Bool.true_and]
  · rw [decide_eq_false hlt, Bool.false_and]
    exact htail _ (by omega)

theorem symbolCost_le_two {o : Bool} {r : Nat} (hr : r ≤ 2) : symbolCost o r ≤ 2 := by
  cases o <;> simp only [symbolCost, Bool.toNat_false, Bool.toNat_true] <;> omega

/-- A symbol of another path costs twice as much more as it counts, except at `f`, and except at the last step
    where it may cost less by as much. -/
theorem symbolCost_gap (htail : ∀ u, m < u → y u = false) (hr : Received punctured m y f r) (z : Nat → Bool)
    {p : Nat} (hp : p < 2 * m + 10) :
    symbolCost (symbol y p) (r p).toNat
        + 2 * (if counted punctured m p then (symbol (diff y z) p).toNat else 0)
      ≤ symbolCost (symbol z p) (r p).toNat + (if p = f then 4 else 0)
        + (if p / 2 = m then 2 * ((y m).toNat * (symbol (diff y z) p).toNat) else 0) := by
  have hsoft := hr.soft p
  have hx := Bool.toNat_le (symbol (diff y z) p)
  by_cases hf : p = f
  · -- an inverted symbol: at most 2 here, and at most 2 counted
    have hcost := symbolCost_le_two (o := symbol y p) hsoft
    rw [if_pos hf]
    split <;> omega
  · rw [if_neg hf]
    have hz : symbol z p = (symbol y p ^^ symbol (diff y z) p) := by
      rw [symbol_diff, ← Bool.xor_assoc, Bool.xor_self, Bool.false_xor]
    rw [hz]
    rcases (by omega : p < 2 * m ∨ (2 * m ≤ p ∧ p < 2 * m + 2) ∨ 2 * m + 2 ≤ p) with hlt | ⟨hge, hlt⟩ | hge
    · have hhalf : ¬ p / 2 = m := by omega
      rw [if_neg hhalf, counted, if_pos hlt]
      by_cases hmem : p ∈ punctured
      · have hcontains : punctured.any (Nat.beq p) = true :=
          List.any_eq_true.mpr ⟨p, hmem, Nat.beq_refl p⟩
        rw [hr.erased p hlt hmem, hcontains]
        cases symbol y p <;> cases symbol (diff y z) p <;> decide
      · have hcontains : punctured.any (Nat.beq p) = false := by
          rw [List.any_eq_false]
          exact fun q hq heq => hmem (Nat.eq_of_beq_eq_true heq ▸ hq)
        rw [hr.sent p hlt hmem hf, hcontains]
        cases symbol y p <;> cases symbol (diff y z) p <;> decide
    · have hhalf : p / 2 = m := by omega
      have hnot : ¬ p < 2 * m := by omega
      rw [if_pos hhalf, counted, if_neg hnot, decide_eq_false (by omega), symbol_tail htail hge,
        decide_eq_true hlt, Bool.true_and]
      cases hy : y m with
      | false =>
          have hlast := hr.last p hge hlt hf hy
          cases symbol (diff y z) p <;> simp [symbolCost]
          omega
      | true =>
          cases symbol (diff y z) p <;> simp [symbolCost]
          omega
    · have hhalf : ¬ p / 2 = m := by omega
      have hnot : ¬ p < 2 * m := by omega
      rw [if_neg hhalf, counted, if_neg hnot, decide_eq_true hge, symbol_tail htail (by omega),
        decide_eq_false (by omega), Bool.false_and, hr.after p hge hp hf]
      cases symbol (diff y z) p <;> decide

theorem stepCost_gap (htail : ∀ u, m < u → y u = false) (hr : Received punctured m y f r) (z : Nat → Bool)
    {t : Nat} (ht : t < m + 5) :
    stepCost r y t + 2 * stepWeight (counted punctured m) t (window (diff y z) t) (diff y z (t + 4))
      ≤ stepCost r z t + (if t = f / 2 then 4 else 0)
        + (if t = m then 2 * ((y m).toNat * ((symbol (diff y z) (2 * t)).toNat
            + (symbol (diff y z) (2 * t + 1)).toNat)) else 0) := by
  have h0 := symbolCost_gap htail hr z (p := 2 * t) (by omega)
  have h1 := symbolCost_gap htail hr z (p := 2 * t + 1) (by omega)
  have hd0 : 2 * t / 2 = t := by omega
  have hd1 : (2 * t + 1) / 2 = t := by omega
  have hhit : (if 2 * t = f then 4 else 0) + (if 2 * t + 1 = f then 4 else 0) = if t = f / 2 then 4 else 0 := by
    split_ifs <;> omega
  rw [hd0] at h0
  rw [hd1] at h1
  unfold stepWeight symbolWeight stepCost
  rw [(stepSymbol_window (diff y z) t).1, (stepSymbol_window (diff y z) t).2, Nat.mul_add (y m).toNat]
  split_ifs at h0 h1 ⊢ <;> omega

/-- What another path costs more over the whole run. -/
theorem pathCost_gap (htail : ∀ u, m < u → y u = false) (hr : Received punctured m y f r) (z : Nat → Bool) :
    pathCost (branchCost r) (window y) y (m + 5) + 2 * weight punctured m (diff y z)
      ≤ pathCost (branchCost r) (window z) z (m + 5) + 4
        + 2 * ((y m).toNat * ((symbol (diff y z) (2 * m)).toNat + (symbol (diff y z) (2 * m + 1)).toNat)) := by
  have hsum := sum_le_sum fun t ht => stepCost_gap htail hr z (t := t) (mem_range.mp ht)
  rw [sum_add_distrib, ← mul_sum, sum_add_distrib, sum_add_distrib, sum_ite_eq', sum_ite_eq',
    if_pos (mem_range.mpr (by omega : m < m + 5))] at hsum
  have hhit : (if f / 2 ∈ range (m + 5) then 4 else 0) ≤ 4 := by split <;> omega
  rw [pathCost_window hr.soft, pathCost_window hr.soft, weight]
  omega

/-- **Repair.** With at most one inverted symbol the survivor has the data bits of the block. -/
theorem choice_eq (hsep : separates (labelTable (counted punctured m) (m + 1) m) = true)
    (htail : ∀ u, m < u → y u = false) (hr : Received punctured m y f r) {u : Nat} (h4 : 4 ≤ u) (hum : u ≤ m) :
    choice older (branchCost r) (m + 5) 0 u = y u := by
  by_contra hne
  have hlt : u < m + 5 := by omega
  have hyend : ∀ t, m + 5 ≤ t → y t = false := fun t ht => htail t (by omega)
  have hyle := chosen_le r hyend
  have hgap := pathCost_gap htail hr (chosen r (m + 5))
  have hend : ∀ t, m + 5 ≤ t → diff y (chosen r (m + 5)) t = false := fun t ht => by
    rw [diff_eq_false, hyend t ht, chosen_of_ge r ht]
  have hdiff : diff y (chosen r (m + 5)) u = true := by
    rw [diff_eq_true, chosen_of_lt r hlt]
    exact fun h => hne h.symm
  have hx0 := Bool.toNat_le (symbol (diff y (chosen r (m + 5))) (2 * m))
  have hx1 := Bool.toNat_le (symbol (diff y (chosen r (m + 5))) (2 * m + 1))
  obtain ⟨hthree, hheavy⟩ := heavy_of_separates hsep hend h4 hum hdiff
  cases hym : y m with
  | false =>
      rw [hym] at hgap
      simp only [Bool.toNat_false, Nat.zero_mul] at hgap
      omega
  | true =>
      rw [hym] at hgap
      simp only [Bool.toNat_true, Nat.one_mul] at hgap
      rcases hheavy with hheavy | ⟨hfour, hlast, hrest⟩
      · omega
      · -- a tie, which goes to the path whose last differing bit is set
        have htie := survivor_tie (branchCost r) (isPath_window y (m + 5)) (t := m)
        rw [window_eq_zero hyend, pathCost_chosen] at htie
        have hchoice : choice older (branchCost r) (m + 5) 0 m = true := by
          refine htie (by omega) (by omega) ?_ fun v hv hvn => ?_
          · rw [← chosen_of_lt r (show m < m + 5 by omega)]
            exact (diff_eq_true.mp hlast).symm
          · have h := diff_eq_false.mp (hrest v hv)
            rw [h, chosen_of_lt r hvn]
        rw [diff_eq_true, chosen_of_lt r (show m < m + 5 by omega), hchoice, hym] at hlast
        exact hlast rfl

end Gap

end Convolution

end DvmHost.Nxdn

import Mathlib.Algebra.BigOperators.Group.Finset.Basic
import Mathlib.Algebra.Order.BigOperators.Group.Finset
import Mathlib.Tactic.Ring
import Mathlib.Tactic.Positivity

/-!
# `Lib.Viterbi` — cheapest paths of a trellis with two branches into each state

A trellis is given backwards: `older s b` is the state before `s` when the branch into `s` is `b`, and
`cost t s b` is what the branch costs at step `t`. The **metrics** keep, for each state, the smaller of the two
branch sums, the second branch on a tie, and the **decision** says which it was. A path that follows the decisions
costs its metric, so no path to the same state is cheaper (`survivor_le`), and where one is as cheap, the survivor
takes the second branch at the last step where they differ (`survivor_tie`).

The second half bounds costs from below: a table of **labels** that no step can undercut bounds every run
(`label_le_cost`), and a table of small numbers is packed into one (`pack`), for evaluation.
-/

namespace Lib.Viterbi

open Finset

variable {σ : Type} (older : σ → Bool → σ) (cost : Nat → σ → Bool → Nat)

/-! ## Metrics and survivors -/

/-- The cost of the best path into each state after so many steps, every state being free at the start. -/
def metric : Nat → σ → Nat
  | 0, _ => 0
  | t + 1, s =>
      if metric t (older s true) + cost t s true ≤ metric t (older s false) + cost t s false then
        metric t (older s true) + cost t s true
      else metric t (older s false) + cost t s false

/-- The branch that the metric of step `t + 1` is from. -/
def decision (t : Nat) (s : σ) : Bool :=
  decide (metric older cost t (older s true) + cost t s true
    ≤ metric older cost t (older s false) + cost t s false)

/-- The states `p` and the branches `c` between them, up to step `n`. -/
def IsPath (p : Nat → σ) (c : Nat → Bool) (n : Nat) : Prop := ∀ t < n, p t = older (p (t + 1)) (c t)

/-- The cost of the first `n` steps. -/
def pathCost (p : Nat → σ) (c : Nat → Bool) (n : Nat) : Nat := ∑ t ∈ range n, cost t (p (t + 1)) (c t)

/-- The state `k` steps before `s`, along the decisions. -/
def trace (n : Nat) (s : σ) : Nat → σ
  | 0 => s
  | k + 1 => older (trace n s k) (decision older cost (n - (k + 1)) (trace n s k))

/-- The states of the path that the decisions lead back from `s`. -/
def survivor (n : Nat) (s : σ) (t : Nat) : σ := trace older cost n s (n - t)

/-- Its branches. -/
def choice (n : Nat) (s : σ) (t : Nat) : Bool := decision older cost t (survivor older cost n s (t + 1))

variable {older cost}

theorem metric_succ (t : Nat) (s : σ) :
    metric older cost (t + 1) s = metric older cost t (older s (decision older cost t s))
      + cost t s (decision older cost t s) := by
  by_cases h : metric older cost t (older s true) + cost t s true
      ≤ metric older cost t (older s false) + cost t s false
  · have hd : decision older cost t s = true := decide_eq_true h
    rw [hd, metric, if_pos h]
  · have hd : decision older cost t s = false := decide_eq_false h
    rw [hd, metric, if_neg h]

variable (older cost) in
theorem metric_succ_le (t : Nat) (s : σ) (b : Bool) :
    metric older cost (t + 1) s ≤ metric older cost t (older s b) + cost t s b := by
  rw [metric]
  cases b <;> split <;> omega

/-- The branch decided against is dearer when it is the second one. -/
theorem metric_succ_lt {t : Nat} {s : σ} (h : decision older cost t s = false) :
    metric older cost (t + 1) s < metric older cost t (older s true) + cost t s true := by
  rw [metric_succ, h]
  exact Nat.lt_of_not_le (of_decide_eq_false h)

variable (cost) in
theorem pathCost_succ (p : Nat → σ) (c : Nat → Bool) (n : Nat) :
    pathCost cost p c (n + 1) = pathCost cost p c n + cost n (p (n + 1)) (c n) := sum_range_succ _ n

theorem IsPath.mono {p : Nat → σ} {c : Nat → Bool} {m n : Nat} (h : IsPath older p c n) (hm : m ≤ n) :
    IsPath older p c m := fun t ht => h t (by omega)

/-- No path is cheaper than the metric of the state it ends in. -/
theorem metric_le {p : Nat → σ} {c : Nat → Bool} {n : Nat} (h : IsPath older p c n) :
    metric older cost n (p n) ≤ pathCost cost p c n := by
  induction n with
  | zero => exact Nat.zero_le _
  | succ n ih =>
      have hn := ih (h.mono (Nat.le_succ n))
      rw [pathCost_succ]
      calc metric older cost (n + 1) (p (n + 1))
          ≤ metric older cost n (older (p (n + 1)) (c n)) + cost n (p (n + 1)) (c n) := metric_succ_le ..
        _ = metric older cost n (p n) + cost n (p (n + 1)) (c n) := by rw [← h n (Nat.lt_succ_self n)]
        _ ≤ pathCost cost p c n + cost n (p (n + 1)) (c n) := Nat.add_le_add_right hn _

theorem survivor_self (n : Nat) (s : σ) : survivor older cost n s n = s := by
  rw [survivor, Nat.sub_self]
  rfl

theorem isPath_survivor (n : Nat) (s : σ) :
    IsPath older (survivor older cost n s) (choice older cost n s) n := by
  intro t ht
  have hk : n - t = n - (t + 1) + 1 := by omega
  have ht' : n - (n - (t + 1) + 1) = t := by omega
  rw [choice, survivor, survivor, hk, trace, ht']

/-- The survivor costs the metric of the state it is traced from. -/
theorem pathCost_survivor (n : Nat) (s : σ) {m : Nat} (hm : m ≤ n) :
    pathCost cost (survivor older cost n s) (choice older cost n s) m
      = metric older cost m (survivor older cost n s m) := by
  induction m with
  | zero => rfl
  | succ m ih =>
      rw [pathCost_succ, ih (by omega), metric_succ, isPath_survivor n s m hm]
      rfl

variable (cost) in
/-- **Optimality.** No path to the same state is cheaper than the survivor. -/
theorem survivor_le {p : Nat → σ} {c : Nat → Bool} {n : Nat} (h : IsPath older p c n) :
    pathCost cost (survivor older cost n (p n)) (choice older cost n (p n)) n ≤ pathCost cost p c n := by
  rw [pathCost_survivor n (p n) le_rfl, survivor_self]
  exact metric_le h

/-- Where they last differ, and from there on, two paths to the same state have the same states. -/
theorem states_eq_of_agree {p q : Nat → σ} {c d : Nat → Bool} {n u : Nat} (hp : IsPath older p c n)
    (hq : IsPath older q d n) (hend : p n = q n) (hagree : ∀ v, u ≤ v → v < n → c v = d v) (hun : u ≤ n) :
    p u = q u := by
  -- backwards from the common end
  have hback : ∀ k, u ≤ n - k → p (n - k) = q (n - k) := by
    intro k
    induction k with
    | zero => exact fun _ => hend
    | succ k ih =>
        intro hk
        rcases Nat.lt_or_ge k n with hkn | hkn
        · have hnext : n - (k + 1) + 1 = n - k := by omega
          have hlt : n - (k + 1) < n := by omega
          rw [hp _ hlt, hq _ hlt, hnext, ih (by omega), hagree _ hk hlt]
        · have hzero : n - (k + 1) = n - k := by omega
          rw [hzero]
          exact ih (by omega)
  have hsub : n - (n - u) = u := by omega
  have h := hback (n - u) (by omega)
  rwa [hsub] at h

variable (cost) in
/-- After the last difference the two costs grow alike. -/
theorem pathCost_agree {p q : Nat → σ} {c d : Nat → Bool} {n u : Nat} (hp : IsPath older p c n)
    (hq : IsPath older q d n) (hend : p n = q n) (hagree : ∀ v, u ≤ v → v < n → c v = d v) {m : Nat}
    (hm : u ≤ m) (hmn : m ≤ n) :
    pathCost cost p c m + pathCost cost q d u = pathCost cost q d m + pathCost cost p c u := by
  induction m, hm using Nat.le_induction with
  | base => exact Nat.add_comm _ _
  | succ m hm ih =>
      have hstate : p (m + 1) = q (m + 1) :=
        states_eq_of_agree hp hq hend (fun v hv hvn => hagree v (by omega) hvn) hmn
      have := ih (by omega)
      rw [pathCost_succ cost p c m, pathCost_succ cost q d m, hstate, hagree m hm hmn]
      omega

variable (cost) in
/-- **Ties.** Where a path to the same state is as cheap as the survivor, the survivor takes the second branch at
    the last step where the two differ. -/
theorem survivor_tie {p : Nat → σ} {c : Nat → Bool} {n t : Nat} (h : IsPath older p c n)
    (hcost : pathCost cost p c n
      = pathCost cost (survivor older cost n (p n)) (choice older cost n (p n)) n)
    (htn : t < n) (hne : choice older cost n (p n) t ≠ c t)
    (hagree : ∀ u, t < u → u < n → choice older cost n (p n) u = c u) : choice older cost n (p n) t = true := by
  by_contra hfalse
  have hdec : decision older cost t (survivor older cost n (p n) (t + 1)) = false :=
    Bool.eq_false_of_not_eq_true hfalse
  have hc : c t = true := by
    cases hct : c t with
    | true => rfl
    | false => exact absurd (hct ▸ Bool.eq_false_of_not_eq_true hfalse) hne
  have hend : survivor older cost n (p n) n = p n := survivor_self n (p n)
  have hstate : survivor older cost n (p n) (t + 1) = p (t + 1) :=
    states_eq_of_agree (isPath_survivor n (p n)) h hend hagree htn
  have htail := pathCost_agree cost (u := t + 1) (isPath_survivor n (p n)) h hend hagree htn le_rfl
  -- up to here the survivor is strictly cheaper, and afterwards both pay the same
  have hlt : metric older cost (t + 1) (p (t + 1)) < pathCost cost p c (t + 1) := by
    calc metric older cost (t + 1) (p (t + 1))
        < metric older cost t (older (p (t + 1)) true) + cost t (p (t + 1)) true :=
          metric_succ_lt (by rwa [hstate] at hdec)
      _ = metric older cost t (p t) + cost t (p (t + 1)) (c t) := by rw [h t htn, hc]
      _ ≤ pathCost cost p c t + cost t (p (t + 1)) (c t) :=
          Nat.add_le_add_right (metric_le (h.mono (by omega))) _
      _ = pathCost cost p c (t + 1) := (pathCost_succ cost p c t).symm
  have hsurv : pathCost cost (survivor older cost n (p n)) (choice older cost n (p n)) (t + 1)
      = metric older cost (t + 1) (p (t + 1)) := by
    rw [pathCost_survivor n (p n) htn, hstate]
  omega

/-! ## Labels -/

/-- The state after `t` steps of a run on the inputs `b`. -/
def run {τ : Type} (next : Nat → τ → Bool → τ) (s : τ) (b : Nat → Bool) : Nat → τ
  | 0 => s
  | t + 1 => next t (run next s b t) (b t)

/-- No step from a state in `dom` undercuts the labels. -/
def Certified {τ : Type} (next : Nat → τ → Bool → τ) (weight : Nat → τ → Bool → Nat) (dom : τ → Prop)
    (label : Nat → τ → Nat) : Prop :=
  ∀ t s b, dom s → dom (next t s b) ∧ label (t + 1) (next t s b) ≤ label t s + weight t s b

/-- **Labels are lower bounds.** -/
theorem label_le_cost {τ : Type} {next : Nat → τ → Bool → τ} {weight : Nat → τ → Bool → Nat} {dom : τ → Prop}
    {label : Nat → τ → Nat} (hcert : Certified next weight dom label) {s : τ} (hs : dom s)
    (hstart : label 0 s = 0) (b : Nat → Bool) (n : Nat) :
    dom (run next s b n) ∧ label n (run next s b n) ≤ ∑ t ∈ range n, weight t (run next s b t) (b t) := by
  induction n with
  | zero => exact ⟨hs, le_of_eq hstart⟩
  | succ n ih =>
      obtain ⟨hdom, hle⟩ := ih
      obtain ⟨hdom', hstep⟩ := hcert n (run next s b n) (b n) hdom
      rw [sum_range_succ]
      exact ⟨hdom', le_trans hstep (Nat.add_le_add_right hle _)⟩

/-! ## Tables of octal digits -/

/-- The first `n` values of `f`, below 8, as the digits of a number. -/
def pack (f : Nat → Nat) : Nat → Nat
  | 0 => 0
  | n + 1 => pack f n + f n * 8 ^ n

/-- Digit `i` of a packed table. -/
def digit (table i : Nat) : Nat := table / 8 ^ i % 8

theorem pack_lt {f : Nat → Nat} (hf : ∀ i, f i < 8) (n : Nat) : pack f n < 8 ^ n := by
  induction n with
  | zero => exact Nat.one_pos
  | succ n ih =>
      have : f n * 8 ^ n ≤ 7 * 8 ^ n := Nat.mul_le_mul_right _ (by have := hf n; omega)
      rw [pack, pow_succ]
      omega

theorem digit_pack {f : Nat → Nat} (hf : ∀ i, f i < 8) {n i : Nat} (hi : i < n) : digit (pack f n) i = f i := by
  induction n with
  | zero => exact absurd hi (Nat.not_lt_zero i)
  | succ n ih =>
      rcases Nat.lt_succ_iff_lt_or_eq.mp hi with hlt | rfl
      · -- the new digit lies above the one asked for
        obtain ⟨k, rfl⟩ := Nat.exists_eq_add_of_lt hlt
        have hhigh : f (i + k + 1) * 8 ^ (i + k + 1) = 8 ^ i * (8 * (f (i + k + 1) * 8 ^ k)) := by
          rw [show i + k + 1 = i + (k + 1) by omega, pow_add, pow_succ]
          ring
        rw [← ih hlt, digit, digit, pack, hhigh, Nat.add_mul_div_left _ _ (by positivity),
          Nat.add_mul_mod_self_left]
      · rw [digit, pack, Nat.add_mul_div_right _ _ (by positivity), Nat.div_eq_of_lt (pack_lt hf i), Nat.zero_add,
          Nat.mod_eq_of_lt (hf i)]

end Lib.Viterbi

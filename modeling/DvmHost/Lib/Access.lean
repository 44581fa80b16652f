import Mathlib.Data.List.Basic

/-!
# `Lib.Access` — computations that read a memory

An `Access α β` computes a `β` from a memory of `α` cells and records the addresses it reads, in order. The
recorded addresses say what a parser looks at: `Within` bounds them, and `Local` says that nothing else in the
memory can change the outcome.
-/

namespace Lib

/-- A computation over a memory: its value and the addresses it reads. -/
def Access (α β : Type) : Type := (Nat → α) → β × List Nat

namespace Access

variable {α β γ : Type}

/-- The value computed from a memory. -/
def value (x : Access α β) (m : Nat → α) : β := (x m).1

/-- The addresses read in a memory. -/
def touched (x : Access α β) (m : Nat → α) : List Nat := (x m).2

/-- The computation that reads nothing. -/
def ret (b : β) : Access α β := fun _ => (b, [])

/-- One computation after another. -/
def andThen (x : Access α β) (f : β → Access α γ) : Access α γ := fun m =>
  ((f (x m).1 m).1, (x m).2 ++ (f (x m).1 m).2)

instance : Monad (Access α) where
  pure := ret
  bind := andThen

/-- Read a cell. -/
def cell (i : Nat) : Access α α := fun m => (m i, [i])

/-- Read `n` cells from `start` on, as `memcpy` does. -/
def cells (start n : Nat) : Access α (List α) := fun m =>
  ((List.range n).map fun i => m (start + i), (List.range n).map fun i => start + i)

section Value

variable (m : Nat → α)

@[simp] theorem value_pure (b : β) : (pure b : Access α β).value m = b := rfl

@[simp] theorem value_bind (x : Access α β) (f : β → Access α γ) :
    (x >>= f).value m = (f (x.value m)).value m := rfl

@[simp] theorem value_cell (i : Nat) : (cell i : Access α α).value m = m i := rfl

@[simp] theorem value_cells (start n : Nat) :
    (cells start n : Access α (List α)).value m = (List.range n).map fun i => m (start + i) := rfl

@[simp] theorem touched_pure (b : β) : (pure b : Access α β).touched m = [] := rfl

@[simp] theorem touched_bind (x : Access α β) (f : β → Access α γ) :
    (x >>= f).touched m = x.touched m ++ (f (x.value m)).touched m := rfl

@[simp] theorem touched_cell (i : Nat) : (cell i : Access α α).touched m = [i] := rfl

@[simp] theorem touched_cells (start n : Nat) :
    (cells start n : Access α (List α)).touched m = (List.range n).map fun i => start + i := rfl

end Value

/-! ## Bounds -/

/-- Every address read lies below `n`. -/
def Within (x : Access α β) (m : Nat → α) (n : Nat) : Prop := ∀ i ∈ x.touched m, i < n

instance (x : Access α β) (m : Nat → α) (n : Nat) : Decidable (x.Within m n) :=
  inferInstanceAs (Decidable (∀ i ∈ x.touched m, i < n))

section Within

variable {m : Nat → α} {n : Nat}

@[simp] theorem within_pure (b : β) : (pure b : Access α β).Within m n := fun _ h => absurd h List.not_mem_nil

@[simp] theorem within_bind (x : Access α β) (f : β → Access α γ) :
    (x >>= f).Within m n ↔ x.Within m n ∧ (f (x.value m)).Within m n := List.forall_mem_append

@[simp] theorem within_cell (i : Nat) : (cell i : Access α α).Within m n ↔ i < n := List.forall_mem_singleton

/-- A copy of no cells reads nothing; any other is bounded by its last cell. -/
@[simp] theorem within_cells (start k : Nat) :
    (cells start k : Access α (List α)).Within m n ↔ k = 0 ∨ start + k ≤ n := by
  unfold Within
  simp only [touched_cells, List.mem_map, List.mem_range]
  constructor
  · intro h
    rcases Nat.eq_zero_or_pos k with hk | hk
    · exact Or.inl hk
    · have hlast := h (start + (k - 1)) ⟨k - 1, by omega, rfl⟩
      exact Or.inr (by omega)
  · rintro h i ⟨j, hj, rfl⟩
    omega

end Within

/-! ## Locality -/

/-- Memories that agree on the addresses read give the same outcome. -/
def Local (x : Access α β) : Prop :=
  ∀ m m' : Nat → α, (∀ i ∈ x.touched m, m i = m' i) → x m = x m'

theorem local_pure (b : β) : Local (pure b : Access α β) := fun _ _ _ => rfl

theorem local_cell (i : Nat) : Local (cell i : Access α α) := by
  intro m m' h
  unfold cell
  rw [h i List.mem_cons_self]

theorem local_cells (start n : Nat) : Local (cells start n : Access α (List α)) := by
  intro m m' h
  have hcells : ∀ i ∈ List.range n, m (start + i) = m' (start + i) := fun i hi =>
    h _ (List.mem_map.mpr ⟨i, hi, rfl⟩)
  unfold cells
  rw [List.map_congr_left hcells]

theorem local_bind {x : Access α β} {f : β → Access α γ} (hx : Local x) (hf : ∀ b, Local (f b)) :
    Local (x >>= f) := by
  intro m m' h
  rw [touched_bind] at h
  have hfirst : x m = x m' := hx m m' fun i hi => h i (List.mem_append_left _ hi)
  have hsecond : f (x m).1 m = f (x m).1 m' :=
    hf _ m m' fun i hi => h i (List.mem_append_right _ hi)
  change ((f (x m).1 m).1, (x m).2 ++ (f (x m).1 m).2) = ((f (x m').1 m').1, (x m').2 ++ (f (x m').1 m').2)
  rw [← hfirst, hsecond]

/-- **Only the cells below a bound matter** to a local computation that stays below it. -/
theorem Local.eq_of_within {x : Access α β} (hx : Local x) {m m' : Nat → α} {n : Nat} (hn : x.Within m n)
    (h : ∀ i < n, m i = m' i) : x m = x m' := hx m m' fun i hi => h i (hn i hi)

end Access

end Lib

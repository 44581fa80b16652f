import Mathlib.Logic.Function.Basic

/-!
# `Lib.Copying` — copies of objects and what they show

The objects of a class are cells that an address picks out, and `copy target data` is what its member function makes
of the object `target` when it copies `data`. Two objects are alike when an observation `view` — what the getters and
the encoders of the class return — cannot tell them apart. An assignment does nothing when an object is assigned to
itself, so it loses nothing exactly there and where the copy loses nothing.
-/

namespace Lib

namespace Copying

variable {ι α β : Type} [DecidableEq ι]

/-- `operator=`: `if (this != &data) { copy(data); }`. -/
def assign (copy : α → α → α) (objects : ι → α) (this data : ι) : ι → α :=
  if this ≠ data then Function.update objects this (copy (objects this) (objects data)) else objects

theorem assign_this (copy : α → α → α) (objects : ι → α) {this data : ι} (h : this ≠ data) :
    assign copy objects this data this = copy (objects this) (objects data) := by
  unfold assign
  rw [if_pos h, Function.update_self]

/-- Only the object on the left is written. -/
theorem assign_of_ne (copy : α → α → α) (objects : ι → α) {this data k : ι} (h : k ≠ this) :
    assign copy objects this data k = objects k := by
  unfold assign
  split
  · exact Function.update_of_ne h _ _
  · rfl

/-- **Assignment.** Afterwards the two objects are alike iff they were one, or the copy is like what it copies. -/
theorem view_assign_iff (view : α → β) (copy : α → α → α) (objects : ι → α) (this data : ι) :
    view (assign copy objects this data this) = view (assign copy objects this data data) ↔
      this = data ∨ view (copy (objects this) (objects data)) = view (objects data) := by
  rcases eq_or_ne this data with rfl | hne
  · exact iff_of_true rfl (.inl rfl)
  · rw [assign_this copy objects hne, assign_of_ne copy objects hne.symm]
    exact (or_iff_right hne).symm

end Copying

end Lib

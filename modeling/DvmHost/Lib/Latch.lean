import Mathlib.Data.List.Induction

/-!
# `Lib.Latch` — a value with an authority and hints

A value is set by two sources. An **authority** always prevails; when it contradicts the value in force, it closes a
latch, and from then on the **hints** of the other source are not heard any more. The value after any sequence of
events is told by the sequence: what the authority said last, unless the latch is open and a hint has come since.
-/

namespace Lib

namespace Latch

variable {α : Type}

/-- What a source says. -/
inductive Event (α : Type) where
  | authority (v : α)
  | hint (v : α)

/-- The value in force and the latch. -/
structure State (α : Type) where
  value : α
  latched : Bool

/-- What the authority said last. -/
def decided (v : α) (es : List (Event α)) : α :=
  es.foldl (fun v e => match e with | .authority w => w | .hint _ => v) v

/-- The last hint since then. -/
def hinted (es : List (Event α)) : Option α :=
  es.foldl (fun _ e => match e with | .authority _ => none | .hint w => some w) none

theorem decided_authority (v w : α) (es : List (Event α)) : decided v (es ++ [.authority w]) = w :=
  List.foldl_append

theorem decided_hint (v w : α) (es : List (Event α)) : decided v (es ++ [.hint w]) = decided v es :=
  List.foldl_append

theorem hinted_authority (w : α) (es : List (Event α)) : hinted (es ++ [.authority w]) = none :=
  List.foldl_append

theorem hinted_hint (w : α) (es : List (Event α)) : hinted (es ++ [.hint w]) = some w :=
  List.foldl_append

variable [DecidableEq α]

/-- One event. -/
def step (s : State α) : Event α → State α
  | .authority v => { value := v, latched := s.latched || decide (s.value ≠ v) }
  | .hint v => { s with value := if s.latched then s.value else v }

/-- A sequence of events, on an open latch. -/
def after (v : α) (es : List (Event α)) : State α := es.foldl step { value := v, latched := false }

theorem after_concat (v : α) (es : List (Event α)) (e : Event α) : after v (es ++ [e]) = step (after v es) e :=
  List.foldl_append

/-- **The value.** Behind a closed latch it is what the authority said last, before an open one the last hint since
    then, if there was one. -/
theorem value_after (v : α) (es : List (Event α)) :
    (after v es).value =
      if (after v es).latched then decided v es else (hinted es).getD (decided v es) := by
  induction es using List.reverseRecOn with
  | nil => rfl
  | append_singleton es e ih =>
    rw [after_concat]
    cases e with
    | authority w =>
      show w = _
      rw [decided_authority, hinted_authority, Option.getD_none, ite_self]
    | hint w =>
      rw [decided_hint, hinted_hint, Option.getD_some]
      show (if (after v es).latched then (after v es).value else w) =
        if (after v es).latched then decided v es else w
      split
      · rename_i hlatched
        rw [ih, if_pos hlatched]
      · rfl

/-- **The latch.** It is closed iff the authority has contradicted the value in force at some time. -/
theorem latched_after_iff (v : α) (es : List (Event α)) :
    (after v es).latched = true ↔
      ∃ l w r, es = l ++ .authority w :: r ∧ (after v l).value ≠ w := by
  induction es using List.reverseRecOn with
  | nil =>
    refine iff_of_false (Bool.false_ne_true) ?_
    rintro ⟨l, w, r, h, -⟩
    exact absurd h.symm (List.append_ne_nil_of_right_ne_nil _ (List.cons_ne_nil _ _))
  | append_singleton es e ih =>
    have hsplit : (∃ l w r, es ++ [e] = l ++ .authority w :: r ∧ (after v l).value ≠ w) ↔
        (∃ l w r, es = l ++ .authority w :: r ∧ (after v l).value ≠ w) ∨
        ∃ w, e = .authority w ∧ (after v es).value ≠ w := by
      constructor
      · rintro ⟨l, w, r, h, hne⟩
        rcases List.eq_nil_or_concat r with rfl | ⟨r', e', rfl⟩
        · obtain ⟨rfl, he⟩ := List.append_inj' h rfl
          exact .inr ⟨w, List.head_eq_of_cons_eq he, hne⟩
        · rw [List.concat_eq_append, ← List.cons_append, ← List.append_assoc] at h
          exact .inl ⟨l, w, r', (List.append_inj' h rfl).1, hne⟩
      · rintro (⟨l, w, r, rfl, hne⟩ | ⟨w, rfl, hne⟩)
        · exact ⟨l, w, r ++ [e], by simp, hne⟩
        · exact ⟨es, w, [], rfl, hne⟩
    rw [hsplit, ← ih, after_concat]
    cases e with
    | authority w =>
      show (_ || decide ((after v es).value ≠ w)) = true ↔ _
      rw [Bool.or_eq_true, decide_eq_true_eq]
      refine or_congr_right ⟨fun h => ⟨w, rfl, h⟩, ?_⟩
      rintro ⟨w', he, hne⟩
      injection he with he
      exact he ▸ hne
    | hint w =>
      show (after v es).latched = true ↔ _
      refine (or_iff_left ?_).symm
      rintro ⟨w', he, -⟩
      exact nomatch he

end Latch

end Lib

import Mathlib.Data.List.Basic

/-!
# `Lib.Framing` — cutting a stream into items, however it arrives

A framing looks at the head of a stream and says whether an item stands there complete, and how long it is. That
answer may not change when more of the stream arrives. Then nothing depends on the arrival: what has been cut off, and
the open rest, are those of the whole stream (`parse_append`).

Items of one size need no such look: a batching counts what waits until `n` leave together. Nothing is lost, doubled or
reordered (`flatten_pushAll`), every batch has `n` items, and fewer than `n` ever wait.
-/

namespace Lib

/-- A framing of streams over `α` into items of `β`. `next` is `none` while the first item is incomplete. -/
structure Framing (α β : Type) where
  next : List α → Option (β × Nat)
  pos : ∀ {xs b n}, next xs = some (b, n) → 0 < n
  le : ∀ {xs b n}, next xs = some (b, n) → n ≤ xs.length
  stable : ∀ {xs b n} (ys), next xs = some (b, n) → next (xs ++ ys) = some (b, n)

namespace Framing

variable {α β : Type} (F : Framing α β)

/-- The items of a stream, and the open rest behind them. -/
def parse (xs : List α) : List β × List α :=
  match _h : F.next xs with
  | none => ([], xs)
  | some (b, n) => (b :: (parse (xs.drop n)).1, (parse (xs.drop n)).2)
termination_by xs.length
decreasing_by
  all_goals
    have hpos := F.pos _h
    have hle := F.le _h
    rw [List.length_drop]
    omega

/-- The items of a stream. -/
def items (xs : List α) : List β := (F.parse xs).1

/-- The open rest of a stream. -/
def rest (xs : List α) : List α := (F.parse xs).2

variable {F}

theorem parse_of_none {xs : List α} (h : F.next xs = none) : F.parse xs = ([], xs) := by
  rw [parse]
  split
  · rfl
  · next hsome => exact nomatch h.symm.trans hsome

theorem parse_of_some {xs : List α} {b : β} {n : Nat} (h : F.next xs = some (b, n)) :
    F.parse xs = (b :: F.items (xs.drop n), F.rest (xs.drop n)) := by
  rw [parse]
  split
  · next hnone => exact nomatch hnone.symm.trans h
  · next hsome =>
      obtain ⟨rfl, rfl⟩ := Prod.mk.inj (Option.some.inj (hsome.symm.trans h))
      rfl

theorem items_of_none {xs : List α} (h : F.next xs = none) : F.items xs = [] := by
  rw [items, parse_of_none h]

theorem rest_of_none {xs : List α} (h : F.next xs = none) : F.rest xs = xs := by
  rw [rest, parse_of_none h]

theorem items_of_some {xs : List α} {b : β} {n : Nat} (h : F.next xs = some (b, n)) :
    F.items xs = b :: F.items (xs.drop n) := by
  rw [items, parse_of_some h]

theorem rest_of_some {xs : List α} {b : β} {n : Nat} (h : F.next xs = some (b, n)) :
    F.rest xs = F.rest (xs.drop n) := by
  rw [rest, parse_of_some h]

/-- **Nothing depends on the arrival.** Cutting what has arrived, and then its open rest with what arrives later, is
    cutting the whole. -/
theorem parse_append (xs ys : List α) :
    F.items (xs ++ ys) = F.items xs ++ F.items (F.rest xs ++ ys) ∧ F.rest (xs ++ ys) = F.rest (F.rest xs ++ ys) := by
  induction hlen : xs.length using Nat.strongRecOn generalizing xs with
  | _ len ih =>
      cases h : F.next xs with
      | none =>
          rw [items_of_none h, rest_of_none h]
          exact ⟨rfl, rfl⟩
      | some p =>
          obtain ⟨b, n⟩ := p
          have hpos := F.pos h
          have hle := F.le h
          have hdrop : (xs ++ ys).drop n = xs.drop n ++ ys := List.drop_append_of_le_length hle
          obtain ⟨hitems, hrest⟩ := ih (xs.drop n).length (by rw [List.length_drop]; omega) (xs.drop n) rfl
          rw [items_of_some (F.stable ys h), rest_of_some (F.stable ys h), items_of_some h, rest_of_some h, hdrop,
            hitems, hrest]
          exact ⟨rfl, rfl⟩

theorem items_append (xs ys : List α) : F.items (xs ++ ys) = F.items xs ++ F.items (F.rest xs ++ ys) :=
  (parse_append xs ys).1

theorem rest_append (xs ys : List α) : F.rest (xs ++ ys) = F.rest (F.rest xs ++ ys) := (parse_append xs ys).2

/-- No item stands complete at the head of the open rest. -/
theorem next_rest (xs : List α) : F.next (F.rest xs) = none := by
  induction hlen : xs.length using Nat.strongRecOn generalizing xs with
  | _ len ih =>
      cases h : F.next xs with
      | none => rw [rest_of_none h, h]
      | some p =>
          have hpos := F.pos h
          have hle := F.le h
          rw [rest_of_some h]
          exact ih (xs.drop p.2).length (by rw [List.length_drop]; omega) (xs.drop p.2) rfl

end Framing

/-! ## Batches of one size -/

section Batching

variable {α : Type}

/-- The items that wait, and the batches that have left. -/
structure Batching (α : Type) where
  pending : List α
  batches : List (List α)

namespace Batching

/-- Nothing has come. -/
def empty : Batching α := ⟨[], []⟩

/-- One more item. -/
def push (n : Nat) (s : Batching α) (a : α) : Batching α :=
  if s.pending.length + 1 = n then ⟨[], s.batches ++ [s.pending ++ [a]]⟩ else ⟨s.pending ++ [a], s.batches⟩

/-- The items, one after the other. -/
def pushAll (n : Nat) (s : Batching α) (as : List α) : Batching α := as.foldl (push n) s

/-- Fewer than `n` items wait, and every batch has `n`. -/
structure Full (n : Nat) (s : Batching α) : Prop where
  pending : s.pending.length < n
  batches : ∀ b ∈ s.batches, b.length = n

@[simp] theorem pushAll_nil (n : Nat) (s : Batching α) : s.pushAll n [] = s := rfl

theorem pushAll_append (n : Nat) (s : Batching α) (as bs : List α) :
    s.pushAll n (as ++ bs) = (s.pushAll n as).pushAll n bs := List.foldl_append

theorem pushAll_concat (n : Nat) (s : Batching α) (as : List α) (a : α) :
    s.pushAll n (as ++ [a]) = (s.pushAll n as).push n a := pushAll_append n s as [a]

theorem flatten_push (n : Nat) (s : Batching α) (a : α) :
    (s.push n a).batches.flatten ++ (s.push n a).pending = s.batches.flatten ++ s.pending ++ [a] := by
  unfold push
  split
  · simp
  · simp

/-- **Nothing is lost, doubled or reordered.** -/
theorem flatten_pushAll (n : Nat) (s : Batching α) (as : List α) :
    (s.pushAll n as).batches.flatten ++ (s.pushAll n as).pending = s.batches.flatten ++ s.pending ++ as := by
  induction as generalizing s with
  | nil => simp
  | cons a as ih =>
      show ((s.push n a).pushAll n as).batches.flatten ++ ((s.push n a).pushAll n as).pending = _
      rw [ih, flatten_push, List.append_assoc, List.singleton_append]

theorem Full.push {n : Nat} {s : Batching α} (h : s.Full n) (a : α) : (s.push n a).Full n := by
  have hpending := h.pending
  unfold Batching.push
  split
  · rename_i hlast
    refine ⟨?_, fun b hb => ?_⟩
    · show 0 < n
      omega
    · rcases List.mem_append.mp hb with hold | hnew
      · exact h.batches b hold
      · rw [List.mem_singleton.mp hnew, List.length_append, List.length_singleton, hlast]
  · refine ⟨?_, h.batches⟩
    show (s.pending ++ [a]).length < n
    rw [List.length_append, List.length_singleton]
    omega

theorem Full.pushAll {n : Nat} {s : Batching α} (h : s.Full n) (as : List α) : (s.pushAll n as).Full n := by
  induction as generalizing s with
  | nil => exact h
  | cons a as ih => exact ih (h.push a)

theorem full_empty {n : Nat} (hn : 0 < n) : (empty : Batching α).Full n := ⟨hn, fun _ hb => nomatch hb⟩

end Batching

end Batching

end Lib

import Mathlib.Data.List.Pairwise
import Mathlib.Data.List.Nodup

/-!
# `Lib.KeyedTable` — tables that are searched for a key with a wildcard

A table is a list of entries, and the key of an entry is an id and a slot. A search for an id and a slot finds the
first entry with that key; one for an id and the slot `any` finds the first entry with the id. `upsert` changes the
entry that a search finds, or puts a new one last; `remove` takes the first entry with exactly the key.

Uniqueness of the keys alone is not kept. It is together with an order (`Keyed`): an entry for `any` comes before the
other entries of its id. What a search for one key finds is then left alone by changes to another, but for one case:
an upsert for `any` that finds an entry of another slot takes that slot away (`search_upsert_lost`).
-/

namespace Lib

namespace KeyedTable

variable {E I S : Type} [DecidableEq I] [DecidableEq S] (key : E → I × S) (any : S)

/-- An entry answers a search. -/
def Answers (i : I) (s : S) (e : E) : Prop := (key e).1 = i ∧ (s = any ∨ (key e).2 = s)

instance (i : I) (s : S) (e : E) : Decidable (Answers key any i s e) := inferInstanceAs (Decidable (_ ∧ _))

/-- The first entry that answers. -/
def search (l : List E) (i : I) (s : S) : Option E := l.find? fun e => Answers key any i s e

/-- The entry that a search finds is changed, or a new one comes last. -/
def upsert (i : I) (s : S) (change : E → E) (new : E) : List E → List E
  | [] => [new]
  | e :: l => if Answers key any i s e then change e :: l else e :: upsert i s change new l

/-- The first entry with the key goes. -/
def remove (i : I) (s : S) (l : List E) : List E := l.eraseP fun e => key e = (i, s)

/-- **The invariant.** Of two entries of an id, the later is for a slot, and for another one than the earlier. -/
def Keyed (l : List E) : Prop :=
  l.Pairwise fun a b => (key a).1 = (key b).1 → (key b).2 ≠ any ∧ (key a).2 ≠ (key b).2

variable {key any}

@[simp] theorem search_nil (i : I) (s : S) : search key any [] i s = none := rfl

theorem search_cons (e : E) (l : List E) (i : I) (s : S) :
    search key any (e :: l) i s = if Answers key any i s e then some e else search key any l i s := by
  unfold search
  rw [List.find?_cons]
  by_cases h : Answers key any i s e
  · rw [decide_eq_true h, if_pos h]
  · rw [decide_eq_false h, if_neg h]

/-- The index form of `upsert`. -/
theorem upsert_eq (i : I) (s : S) (change : E → E) (new : E) (l : List E) :
    upsert key any i s change new l =
      if l.findIdx (fun e => Answers key any i s e) < l.length then
        l.modify (l.findIdx fun e => Answers key any i s e) change
      else l ++ [new] := by
  induction l with
  | nil => rfl
  | cons e l ih =>
      unfold upsert
      by_cases h : Answers key any i s e
      · simp [List.findIdx_cons, h]
      · rw [if_neg h, ih]
        simp only [List.findIdx_cons, h, decide_false, cond_false, List.length_cons, Nat.add_lt_add_iff_right,
          List.modify_succ_cons, List.cons_append]
        split <;> rfl

/-- Maps that keep the keys keep the searches. -/
theorem search_map {F : Type} {key' : F → I × S} (g : F → E) (hkey : ∀ x, key (g x) = key' x) (l : List F) (i : I)
    (s : S) : search key any (l.map g) i s = (search key' any l i s).map g := by
  induction l with
  | nil => rfl
  | cons x l ih =>
      have hsame : Answers key any i s (g x) ↔ Answers key' any i s x := by
        unfold Answers
        rw [hkey]
      rw [List.map_cons, search_cons, search_cons, ih]
      by_cases h : Answers key' any i s x
      · rw [if_pos h, if_pos (hsame.mpr h), Option.map_some]
      · rw [if_neg h, if_neg (mt hsame.mp h)]

/-! ## The keys stay unique -/

omit [DecidableEq I] [DecidableEq S] in
theorem Keyed.nodup {l : List E} (h : Keyed key any l) : (l.map key).Nodup := by
  rw [List.nodup_iff_pairwise_ne, List.pairwise_map]
  exact h.imp fun hab heq => (hab (congrArg Prod.fst heq)).2 (congrArg Prod.snd heq)

omit [DecidableEq I] [DecidableEq S] in
theorem keyed_nil : Keyed key any [] := List.Pairwise.nil

theorem Keyed.remove {l : List E} (h : Keyed key any l) (i : I) (s : S) : Keyed key any (remove key i s l) :=
  h.sublist List.eraseP_sublist

theorem mem_upsert {i : I} {s : S} {change : E → E} {new x : E} {l : List E}
    (hx : x ∈ upsert key any i s change new l) : x ∈ l ∨ x = new ∨ ∃ e ∈ l, Answers key any i s e ∧ x = change e := by
  induction l with
  | nil => exact .inr (.inl (List.mem_singleton.mp hx))
  | cons e l ih =>
      unfold upsert at hx
      split at hx
      · rename_i hanswers
        rcases List.mem_cons.mp hx with heq | hrest
        · exact .inr (.inr ⟨e, List.mem_cons_self, hanswers, heq⟩)
        · exact .inl (List.mem_cons_of_mem e hrest)
      · rcases List.mem_cons.mp hx with heq | hrest
        · exact .inl (heq ▸ List.mem_cons_self)
        · rcases ih hrest with hold | hnew | ⟨y, hy, hanswers⟩
          · exact .inl (List.mem_cons_of_mem e hold)
          · exact .inr (.inl hnew)
          · exact .inr (.inr ⟨y, List.mem_cons_of_mem e hy, hanswers⟩)

/-- **An upsert keeps the invariant.** For `any` it changes the first entry of its id, so the order stays. -/
theorem Keyed.upsert {l : List E} (h : Keyed key any l) {i : I} {s : S} {change : E → E} {new : E}
    (hchange : ∀ e, key (change e) = (i, s)) (hnew : key new = (i, s)) :
    Keyed key any (upsert key any i s change new l) := by
  induction l with
  | nil => exact List.pairwise_singleton _ _
  | cons e l ih =>
      obtain ⟨hfirst, hrest⟩ := List.pairwise_cons.mp h
      unfold KeyedTable.upsert
      split
      · rename_i hanswers
        refine List.pairwise_cons.mpr ⟨fun b hb hsame => ?_, hrest⟩
        rw [hchange] at hsame ⊢
        obtain ⟨hnot, hne⟩ := hfirst b hb (hanswers.1.trans hsame)
        refine ⟨hnot, ?_⟩
        rcases hanswers.2 with hany | hslot
        · -- the slot is `any`, and that of a later entry is not
          rw [hany]
          exact hnot.symm
        · rwa [← hslot]
      · rename_i hanswers
        refine List.pairwise_cons.mpr ⟨fun b hb hsame => ?_, ih hrest⟩
        have hnewcase : ∀ b : E, key b = (i, s) → (key e).1 = (key b).1 → (key b).2 ≠ any ∧ (key e).2 ≠ (key b).2 := by
          intro b hb hsame
          rw [hb] at hsame ⊢
          exact ⟨fun hany => hanswers ⟨hsame, .inl hany⟩, fun hslot => hanswers ⟨hsame, .inr hslot⟩⟩
        rcases mem_upsert hb with hold | rfl | ⟨y, -, -, rfl⟩
        · exact hfirst b hold hsame
        · exact hnewcase _ hnew hsame
        · exact hnewcase _ (hchange y) hsame

/-! ## Searches -/

/-- The changed entry, or the new one, is found. -/
theorem search_upsert_self {i : I} {s : S} {change : E → E} {new : E} (hchange : ∀ e, key (change e) = (i, s))
    (hnew : key new = (i, s)) (l : List E) :
    search key any (upsert key any i s change new l) i s = some (((search key any l i s).map change).getD new) := by
  have hself : ∀ e : E, key e = (i, s) → Answers key any i s e := fun e he => by
    unfold Answers
    rw [he]
    exact ⟨rfl, .inr rfl⟩
  induction l with
  | nil =>
      show search key any [new] i s = _
      rw [search_cons, if_pos (hself new hnew)]
      rfl
  | cons e l ih =>
      unfold upsert
      split
      · rename_i hanswers
        rw [search_cons, if_pos (hself _ (hchange e)), search_cons, if_pos hanswers]
        rfl
      · rename_i hanswers
        rw [search_cons, if_neg hanswers, search_cons, if_neg hanswers, ih]

/-- Another key: of another id, or of another slot that is not `any`. -/
def Other (any : S) (i : I) (s : S) (i' : I) (s' : S) : Prop := i' ≠ i ∨ (s' ≠ any ∧ s' ≠ s)

omit [DecidableEq I] [DecidableEq S] in
theorem not_answers_of_other {i i' : I} {s s' : S} (hother : Other any i s i' s') {e : E} (he : key e = (i, s)) :
    ¬ Answers key any i' s' e := by
  unfold Answers
  rw [he]
  rintro ⟨hid, hslot⟩
  rcases hother with hne | ⟨hany, hne⟩
  · exact hne hid.symm
  · rcases hslot with hslot | hslot
    · exact hany hslot
    · exact hne hslot.symm

/-- An upsert for a slot, or for `any` where no slot is in the way, leaves the searches for other keys alone. -/
theorem search_upsert_other {i i' : I} {s s' : S} {change : E → E} {new : E} (hchange : ∀ e, key (change e) = (i, s))
    (hnew : key new = (i, s)) (hother : Other any i s i' s') {l : List E}
    (hfound : ∀ e, search key any l i s = some e → key e = (i, s)) :
    search key any (upsert key any i s change new l) i' s' = search key any l i' s' := by
  induction l with
  | nil =>
      show search key any [new] i' s' = _
      rw [search_cons, if_neg (not_answers_of_other hother hnew)]
  | cons e l ih =>
      unfold upsert
      rw [search_cons] at hfound
      split
      · rename_i hanswers
        have he := hfound e (if_pos hanswers)
        rw [search_cons, if_neg (not_answers_of_other hother (hchange e)), search_cons,
          if_neg (not_answers_of_other hother he)]
      · rename_i hanswers
        rw [if_neg hanswers] at hfound
        rw [search_cons, search_cons, ih hfound]

/-- **An upsert for `any` that finds an entry of another slot** takes it away: nothing answers for that slot. -/
theorem search_upsert_lost {l : List E} (h : Keyed key any l) {i : I} {change : E → E} {e : E}
    (hchange : ∀ e, key (change e) = (i, any)) (new : E) (hfound : search key any l i any = some e) (hslot : (key e).2 ≠ any) :
    search key any l i (key e).2 = some e ∧
      search key any (upsert key any i any change new l) i (key e).2 = none := by
  induction l with
  | nil => exact absurd hfound (by simp)
  | cons x l ih =>
      obtain ⟨hfirst, hrest⟩ := List.pairwise_cons.mp h
      rw [search_cons] at hfound
      unfold upsert
      by_cases hanswers : Answers key any i any x
      · rw [if_pos hanswers] at hfound ⊢
        obtain rfl := Option.some.inj hfound
        have hself : Answers key any i (key x).2 x := ⟨hanswers.1, .inr rfl⟩
        refine ⟨by rw [search_cons, if_pos hself], ?_⟩
        rw [search_cons, if_neg (not_answers_of_other (.inr ⟨hslot, hslot⟩) (hchange x))]
        -- no later entry has the slot
        refine List.find?_eq_none.mpr fun y hy hyes => ?_
        obtain ⟨hid, hsame⟩ : Answers key any i (key x).2 y := of_decide_eq_true hyes
        exact (hfirst y hy (hanswers.1.trans hid.symm)).2 (hsame.resolve_left hslot).symm
      · rw [if_neg hanswers] at hfound ⊢
        have hnot : ¬ Answers key any i (key e).2 x := fun hx => hanswers ⟨hx.1, .inl rfl⟩
        obtain ⟨hbefore, hafter⟩ := ih hrest hfound
        rw [search_cons, if_neg hnot, search_cons, if_neg hnot]
        exact ⟨hbefore, hafter⟩

/-- A removal leaves the searches for other keys alone. -/
theorem search_remove_other {i i' : I} {s s' : S} (hother : Other any i s i' s') (l : List E) :
    search key any (remove key i s l) i' s' = search key any l i' s' := by
  unfold remove
  induction l with
  | nil => rfl
  | cons e l ih =>
      by_cases he : key e = (i, s)
      · rw [List.eraseP_cons_of_pos (by simpa using he), search_cons, if_neg (not_answers_of_other hother he)]
      · rw [List.eraseP_cons_of_neg (by simpa using he), search_cons, search_cons, ih]

end KeyedTable

end Lib

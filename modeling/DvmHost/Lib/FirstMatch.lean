import Mathlib.Data.List.Nodup

/-!
# `Lib.FirstMatch` — ordered tables with a wildcard

A table is a list of entries, each with a slot, and is searched for the first entry that matches. The slot `any`
matches every entry. `put` appends an entry for a slot unless one matches, `drop` takes away the first entry of a slot,
exactly. What a row of `put` and then a row of `drop` leaves is what the row of `drop` leaves of the table itself, and
behind it the new entries that are not dropped (`foldl_drop_foldl_put`).
-/

namespace Lib

namespace FirstMatch

variable {E S : Type} [DecidableEq S] (slot : E → S) (any : S) (new : S → E)

/-- An entry answers a search for the slot `s`. -/
def Matches (s : S) (e : E) : Prop := s = any ∨ slot e = s

instance (s : S) (e : E) : Decidable (Matches slot any s e) := inferInstanceAs (Decidable (_ ∨ _))

/-- An entry for a slot comes last, unless one matches. -/
def put (l : List E) (s : S) : List E := if l.any (fun e => Matches slot any s e) then l else l ++ [new s]

/-- The first entry of a slot goes. -/
def drop (l : List E) (s : S) : List E := l.eraseP fun e => slot e = s

/-- The slots that a row of `put` enters. -/
def added (l : List E) : List S → List S
  | [] => []
  | s :: ss =>
      if l.any (fun e => Matches slot any s e) then added l ss else s :: added (l ++ [new s]) ss

variable {slot any new}

theorem foldl_put (ss : List S) (l : List E) :
    ss.foldl (put slot any new) l = l ++ (added slot any new l ss).map new := by
  induction ss generalizing l with
  | nil => simp [added]
  | cons s ss ih =>
      rw [List.foldl_cons, ih]
      simp only [put, added]
      split
      · rfl
      · rw [List.map_cons, List.append_assoc, List.singleton_append]

/-- **Which slots are entered**: those without an entry; the wildcard only as the first slot of an empty table. -/
theorem mem_added_iff (hnew : ∀ s, slot (new s) = s) {ss : List S} {l : List E} {s : S} :
    s ∈ added slot any new l ss ↔
      s ∈ ss ∧ (∀ e ∈ l, slot e ≠ s) ∧ (s = any → l = [] ∧ ss.head? = some any) := by
  induction ss generalizing l with
  | nil => simp [added]
  | cons t ss ih =>
      unfold added
      by_cases hmatch : l.any (fun e => Matches slot any t e) = true
      · rw [if_pos hmatch, ih]
        obtain ⟨e, he, hte⟩ := List.any_eq_true.mp hmatch
        have hte : Matches slot any t e := of_decide_eq_true hte
        have hne : l ≠ [] := List.ne_nil_of_mem he
        constructor
        · rintro ⟨hs, hfree, hany⟩
          exact ⟨List.mem_cons_of_mem t hs, hfree, fun h => absurd (hany h).1 hne⟩
        · rintro ⟨hs, hfree, hany⟩
          refine ⟨?_, hfree, fun h => absurd (hany h).1 hne⟩
          rcases List.mem_cons.mp hs with rfl | hs
          · rcases hte with hte | hte
            · exact absurd (hany hte).1 hne
            · exact absurd hte (hfree e he)
          · exact hs
      · rw [if_neg hmatch, List.mem_cons, ih]
        have hfresh : ∀ e ∈ l, ¬ Matches slot any t e := fun e he hte =>
          hmatch (List.any_eq_true.mpr ⟨e, he, decide_eq_true hte⟩)
        constructor
        · rintro (rfl | ⟨hs, hfree, hany⟩)
          · refine ⟨List.mem_cons_self, fun e he heq => hfresh e he (Or.inr heq), fun h => ⟨?_, ?_⟩⟩
            · exact List.eq_nil_iff_forall_not_mem.mpr fun e he => hfresh e he (Or.inl h)
            · rw [List.head?_cons, h]
          · refine ⟨List.mem_cons_of_mem t hs, fun e he => hfree e (List.mem_append_left _ he), fun h => ?_⟩
            exact absurd (hany h).1 (by simp)
        · rintro ⟨hs, hfree, hany⟩
          by_cases hst : s = t
          · exact Or.inl hst
          · right
            rcases List.mem_cons.mp hs with hs | hs
            · exact absurd hs hst
            · refine ⟨hs, fun e he heq => ?_, fun h => ?_⟩
              · rcases List.mem_append.mp he with he | he
                · exact hfree e he heq
                · rw [List.mem_singleton.mp he, hnew] at heq
                  exact hst heq.symm
              · have hhead := (hany h).2
                rw [List.head?_cons, ← h] at hhead
                exact absurd (Option.some.inj hhead).symm hst

theorem nodup_added (hnew : ∀ s, slot (new s) = s) (ss : List S) (l : List E) : (added slot any new l ss).Nodup := by
  induction ss generalizing l with
  | nil => exact List.nodup_nil
  | cons s ss ih =>
      unfold added
      split
      · exact ih l
      · refine List.nodup_cons.mpr ⟨fun hs => ?_, ih _⟩
        have hfree := ((mem_added_iff hnew).mp hs).2.1 (new s) (List.mem_append_right l List.mem_cons_self)
        exact hfree (hnew s)

/-- A slot without an entry is dropped from the new entries. -/
theorem drop_append (hnew : ∀ s, slot (new s) = s) {l : List E} {ss : List S} (hnodup : ss.Nodup)
    (hfree : ∀ s ∈ ss, ∀ e ∈ l, slot e ≠ s) (d : S) :
    drop slot (l ++ ss.map new) d = drop slot l d ++ (ss.filter fun s => s ≠ d).map new := by
  unfold drop
  by_cases hd : ∃ e ∈ l, slot e = d
  · -- the entry is one of the table, and no new one has its slot
    obtain ⟨e, he, hed⟩ := hd
    have hnone : ∀ s ∈ ss, s ≠ d := fun s hs hsd => hfree s hs e he (hed.trans hsd.symm)
    rw [List.eraseP_append_left (by simpa using hed) _ he]
    congr 2
    exact (List.filter_eq_self.mpr fun s hs => by simpa using hnone s hs).symm
  · have hl : ∀ e ∈ l, ¬ decide (slot e = d) = true := fun e he hed => hd ⟨e, he, of_decide_eq_true hed⟩
    rw [List.eraseP_append_right (ss.map new) hl, List.eraseP_of_forall_not hl]
    congr 1
    induction ss with
    | nil => rfl
    | cons s ss ih =>
        obtain ⟨hs, hnodup⟩ := List.nodup_cons.mp hnodup
        rw [List.map_cons]
        by_cases hsd : s = d
        · rw [List.eraseP_cons_of_pos (by simpa [hnew] using hsd), List.filter_cons_of_neg (by simpa using hsd)]
          congr 1
          refine (List.filter_eq_self.mpr fun t ht => ?_).symm
          simpa using fun h : t = d => hs (hsd.trans h.symm ▸ ht)
        · rw [List.eraseP_cons_of_neg (by simpa [hnew] using hsd), List.filter_cons_of_pos (by simpa using hsd),
            List.map_cons, ih hnodup fun t ht => hfree t (List.mem_cons_of_mem s ht)]

theorem mem_drop {l : List E} {d : S} {e : E} (h : e ∈ drop slot l d) : e ∈ l := List.mem_of_mem_eraseP h

/-- **What a row of additions and then a row of removals leaves.** -/
theorem foldl_drop_foldl_put (hnew : ∀ s, slot (new s) = s) (l : List E) (ss ds : List S) :
    ds.foldl (drop slot) (ss.foldl (put slot any new) l) =
      ds.foldl (drop slot) l ++ ((added slot any new l ss).filter fun s => s ∉ ds).map new := by
  rw [foldl_put]
  have hnodup : (added slot any new l ss).Nodup := nodup_added hnew ss l
  have hfree : ∀ s ∈ added slot any new l ss, ∀ e ∈ l, slot e ≠ s := fun s hs => ((mem_added_iff hnew).mp hs).2.1
  generalize added slot any new l ss = fresh at hnodup hfree
  induction ds generalizing l fresh with
  | nil => simp
  | cons d ds ih =>
      rw [List.foldl_cons, drop_append hnew hnodup hfree, ih _ _ (hnodup.filter _), List.foldl_cons,
        List.filter_filter]
      · congr 2
        refine List.filter_congr fun s _ => ?_
        simp [List.mem_cons, not_or, Bool.and_comm]
      · intro s hs e he
        exact hfree s (List.mem_of_mem_filter hs) e (mem_drop he)

end FirstMatch

end Lib

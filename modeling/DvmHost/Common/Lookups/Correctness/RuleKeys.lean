import DvmHost.Common.Lookups.TalkgroupRulesLookup
import DvmHost.Lib.KeyedTable
import DvmHost.Lib.Run

/-!
# `Common.Lookups.Correctness.RuleKeys` — the talkgroup rules as a keyed table

Without their rewrites, which `find` never returns, the rules are a `Lib.KeyedTable` with the slot 0 as its wildcard
(`bare_addEntry`, `bare_addRule`, `bare_eraseEntry`). No two rules ever have the same talkgroup and slot
(`keyed_exec`). Two things go wrong: a rule with rewrites is found without them, and to add a rule for slot 0 where
there is one for another slot takes that one away (`keyedTable_iff`).
-/

namespace DvmHost

open Lib

namespace Rules

open DvmHost.Rules.TalkgroupRuleGroupVoice (key)

/-- A rule as an assignment to a new one leaves it. -/
def bare (tg : TalkgroupRuleGroupVoice) : TalkgroupRuleGroupVoice := TalkgroupRuleGroupVoice.assign {} tg

@[simp] theorem key_bare (tg : TalkgroupRuleGroupVoice) : key (bare tg) = key tg := rfl

@[simp] theorem bare_assign (entry data : TalkgroupRuleGroupVoice) : bare (entry.assign data) = bare data := rfl

@[simp] theorem bare_bare (tg : TalkgroupRuleGroupVoice) : bare (bare tg) = bare tg := rfl

/-- What is found is the rule itself exactly if it has no rewrites. -/
theorem bare_eq_iff {tg : TalkgroupRuleGroupVoice} : bare tg = tg ↔ tg.config.rewrite = [] := by
  obtain ⟨name, ⟨config, rewrite⟩, source⟩ := tg
  constructor
  · intro h
    exact (congrArg (fun tg => tg.config.rewrite) h).symm
  · intro h
    have hrewrite : rewrite = [] := h
    subst hrewrite
    rfl

theorem answers_eq (id : UInt32) (slot : UInt8) (tg : TalkgroupRuleGroupVoice) :
    answers id slot tg = decide (KeyedTable.Answers key 0 id slot tg) := by
  unfold answers KeyedTable.Answers
  by_cases hslot : slot = 0
  · rw [if_neg (not_not.mpr hslot)]
    exact decide_eq_decide.mpr ⟨fun h => ⟨h, .inl hslot⟩, And.left⟩
  · rw [if_pos hslot]
    exact decide_eq_decide.mpr ⟨fun h => ⟨h.1, .inr h.2⟩, fun h => ⟨h.1, h.2.resolve_left hslot⟩⟩

/-- `find` is a search among the bare rules. -/
theorem find_eq (l : List TalkgroupRuleGroupVoice) (id : UInt32) (slot : UInt8) :
    find l id slot = (KeyedTable.search key 0 (l.map bare) id slot).getD (bare {}) := by
  have hsearch : l.find? (answers id slot) = KeyedTable.search key 0 l id slot :=
    congrArg (fun p => l.find? p) (funext (answers_eq id slot))
  rw [KeyedTable.search_map bare key_bare]
  unfold find
  rw [hsearch]
  cases KeyedTable.search key 0 l id slot <;> rfl

/-! ## The functions on bare rules -/

/-- Both ways to add a rule: the entry that is found is assigned to, or a new one comes last. -/
theorem bare_upsert (l : List TalkgroupRuleGroupVoice) (id : UInt32) (slot : UInt8)
    (make : TalkgroupRuleGroupVoice → TalkgroupRuleGroupVoice) (new : TalkgroupRuleGroupVoice)
    (hmake : ∀ x, bare (make x) = bare (make (bare x))) :
    (if l.findIdx (answers id slot) < l.length then
        l.modify (l.findIdx (answers id slot)) fun x => x.assign (make x) else l ++ [new]).map bare =
      KeyedTable.upsert key 0 id slot (fun x => bare (make x)) (bare new) (l.map bare) := by
  have hidx : l.findIdx (answers id slot) = l.findIdx fun e => decide (KeyedTable.Answers key 0 id slot e) :=
    congrArg (fun p => l.findIdx p) (funext (answers_eq id slot))
  rw [hidx, ← KeyedTable.upsert_eq]
  induction l with
  | nil => rfl
  | cons x l ih =>
      have hsame : KeyedTable.Answers key 0 id slot (bare x) ↔ KeyedTable.Answers key 0 id slot x := Iff.rfl
      have hrest := ih (congrArg (fun p => l.findIdx p) (funext (answers_eq id slot)))
      rw [List.map_cons]
      unfold KeyedTable.upsert
      by_cases h : KeyedTable.Answers key 0 id slot x
      · rw [if_pos h, if_pos (hsame.mpr h), List.map_cons, bare_assign, hmake]
      · rw [if_neg h, if_neg (mt hsame.mp h), List.map_cons, hrest]

theorem bare_addEntry (l : List TalkgroupRuleGroupVoice) (id : UInt32) (slot : UInt8) (enabled : Bool) :
    (addEntry l id slot enabled).map bare =
      KeyedTable.upsert key 0 id slot (fun x => bare (merged id slot enabled x)) (bare (fresh id slot enabled))
        (l.map bare) :=
  bare_upsert l id slot (merged id slot enabled) (fresh id slot enabled) fun _ => rfl

theorem bare_addRule (l : List TalkgroupRuleGroupVoice) {entry : TalkgroupRuleGroupVoice}
    (hvalid : entry.isInvalid = false) :
    (addRule l entry).map bare =
      KeyedTable.upsert key 0 entry.source.tgId entry.source.tgSlot (fun _ => bare entry) (bare entry)
        (l.map bare) := by
  unfold addRule
  rw [hvalid, if_neg Bool.false_ne_true]
  exact bare_upsert l _ _ (fun _ => entry) entry fun _ => rfl

/-- What an assignment copies moves down with the entries. -/
theorem map_shiftDown {B : Type} {g : TalkgroupRuleGroupVoice → B}
    (hg : ∀ x y : TalkgroupRuleGroupVoice, g (x.assign y) = g y) :
    ∀ l : List TalkgroupRuleGroupVoice, (shiftDown l).map g = (l.drop 1).map g
  | [] => rfl
  | [_] => rfl
  | x :: y :: rest => by
      rw [shiftDown, List.map_cons, hg, map_shiftDown hg (y :: rest)]
      rfl

/-- So an entry is erased, as far as an assignment copies the others. -/
theorem map_eraseEntry {B : Type} {g : TalkgroupRuleGroupVoice → B}
    (hg : ∀ x y : TalkgroupRuleGroupVoice, g (x.assign y) = g y)
    (id : UInt32) (slot : UInt8) {p : B → Bool}
    (hp : ∀ x, p (g x) = decide (x.source.tgId = id ∧ x.source.tgSlot = slot)) (l : List TalkgroupRuleGroupVoice) :
    (eraseEntry l id slot).map g = (l.map g).eraseP p := by
  unfold eraseEntry
  dsimp only
  rw [List.map_append, map_shiftDown hg, List.drop_drop]
  induction l with
  | nil => rfl
  | cons x l ih =>
      cases htest : decide (x.source.tgId = id ∧ x.source.tgSlot = slot) with
      | true =>
          rw [List.findIdx_cons, htest, cond_true, List.map_cons, List.eraseP_cons_of_pos ((hp x).trans htest)]
          rfl
      | false =>
          rw [List.findIdx_cons, htest, cond_false, List.map_cons,
            List.eraseP_cons_of_neg (by rw [hp x, htest]; exact Bool.false_ne_true), ← ih]
          rfl

theorem bare_eraseEntry (l : List TalkgroupRuleGroupVoice) (id : UInt32) (slot : UInt8) :
    (eraseEntry l id slot).map bare = KeyedTable.remove key id slot (l.map bare) := by
  refine map_eraseEntry bare_assign id slot (fun x => decide_eq_decide.mpr ?_) l
  show (x.source.tgId, x.source.tgSlot) = (id, slot) ↔ _
  rw [Prod.mk.injEq]

/-! ## Runs -/

/-- A call that changes the table. -/
inductive Call where
  | addEntry (id : UInt32) (slot : UInt8) (enabled : Bool)
  | addRule (entry : TalkgroupRuleGroupVoice)
  | eraseEntry (id : UInt32) (slot : UInt8)
  | clear

/-- A call. -/
def exec (l : List TalkgroupRuleGroupVoice) : Call → List TalkgroupRuleGroupVoice
  | .addEntry id slot enabled => addEntry l id slot enabled
  | .addRule entry => addRule l entry
  | .eraseEntry id slot => eraseEntry l id slot
  | .clear => []

/-- The entry that a call adds: what `addEntry` makes of the entry that it finds, or a new one; or the rule. -/
def added (l : List TalkgroupRuleGroupVoice) : Call → Option TalkgroupRuleGroupVoice
  | .addEntry id slot enabled =>
      some (((l.find? (answers id slot)).map (merged id slot enabled)).getD (fresh id slot enabled))
  | .addRule entry => if entry.isInvalid then none else some entry
  | _ => none

/-- The talkgroup and the slot that a call is about. -/
def target : Call → Option (UInt32 × UInt8)
  | .addEntry id slot _ => some (id, slot)
  | .addRule entry => if entry.isInvalid then none else some (key entry)
  | .eraseEntry id slot => some (id, slot)
  | .clear => none

/-- No two rules are for the same talkgroup and slot. -/
def UniqueKeys (l : List TalkgroupRuleGroupVoice) : Prop := (l.map key).Nodup

/-- **A keyed table.** The entry that the call adds is found as it is; and what is found for another talkgroup, or for
    another slot of the talkgroup that is not 0, stays. -/
structure KeyedCall (l : List TalkgroupRuleGroupVoice) (call : Call) : Prop where
  found : ∀ entry, added l call = some entry → find (exec l call) entry.source.tgId entry.source.tgSlot = entry
  others : ∀ id slot, target call = some (id, slot) → ∀ id' slot', KeyedTable.Other 0 id slot id' slot' →
    find (exec l call) id' slot' = find l id' slot'

/-- **The calls of a keyed table.** The entry that `addEntry` finds is for the slot itself, which matters for slot 0
    alone; and no entry that it finds, and no rule that is added, has rewrites. -/
def Sound (l : List TalkgroupRuleGroupVoice) : Call → Prop
  | .addEntry id slot _ =>
      ∀ it, l.find? (answers id slot) = some it → it.config.rewrite = [] ∧ it.source.tgSlot = slot
  | .addRule entry =>
      entry.isInvalid = true ∨ (entry.config.rewrite = [] ∧
        ∀ it, l.find? (answers entry.source.tgId entry.source.tgSlot) = some it →
          it.source.tgSlot = entry.source.tgSlot)
  | _ => True

theorem search_bare (l : List TalkgroupRuleGroupVoice) (id : UInt32) (slot : UInt8) :
    KeyedTable.search key 0 (l.map bare) id slot = (l.find? (answers id slot)).map bare := by
  rw [KeyedTable.search_map bare key_bare]
  exact congrArg (fun p => (l.find? p).map bare) (funext (answers_eq id slot)).symm

/-- What is found behind an addition. -/
theorem find_upsert_self {l l' : List TalkgroupRuleGroupVoice} {id : UInt32} {slot : UInt8}
    {make : TalkgroupRuleGroupVoice → TalkgroupRuleGroupVoice} {new : TalkgroupRuleGroupVoice}
    (hl : l'.map bare = KeyedTable.upsert key 0 id slot (fun x => bare (make x)) (bare new) (l.map bare))
    (hkey : ∀ x, key (make x) = (id, slot)) (hnew : key new = (id, slot))
    (hmake : ∀ x, bare (make x) = bare (make (bare x))) :
    find l' id slot = bare (((l.find? (answers id slot)).map make).getD new) := by
  have hfound : KeyedTable.search key 0 (KeyedTable.upsert key 0 id slot (fun x => bare (make x)) (bare new)
      (l.map bare)) id slot = _ :=
    KeyedTable.search_upsert_self (show ∀ x, key (bare (make x)) = (id, slot) from hkey)
      (show key (bare new) = (id, slot) from hnew) (l.map bare)
  rw [find_eq, hl, hfound, search_bare]
  cases l.find? (answers id slot) with
  | none => rfl
  | some it => exact (hmake it).symm

/-- **When an addition leaves the other keys alone**: exactly if the entry that it finds is for the slot itself. -/
theorem others_upsert_iff {l l' : List TalkgroupRuleGroupVoice} (h : KeyedTable.Keyed key 0 (l.map bare)) {id : UInt32}
    {slot : UInt8} {make : TalkgroupRuleGroupVoice → TalkgroupRuleGroupVoice} {new : TalkgroupRuleGroupVoice}
    (hl : l'.map bare = KeyedTable.upsert key 0 id slot (fun x => bare (make x)) (bare new) (l.map bare))
    (hkey : ∀ x, key (make x) = (id, slot)) (hnew : key new = (id, slot)) :
    (∀ id' slot', KeyedTable.Other 0 id slot id' slot' → find l' id' slot' = find l id' slot') ↔
      ∀ it, l.find? (answers id slot) = some it → it.source.tgSlot = slot := by
  constructor
  · intro hothers it hit
    have hanswers : KeyedTable.Answers key 0 id slot it := by
      have hyes := List.find?_some hit
      rw [answers_eq] at hyes
      exact of_decide_eq_true hyes
    by_contra hslot
    have hzero : slot = 0 := hanswers.2.resolve_right hslot
    subst hzero
    have hsearch : KeyedTable.search key 0 (l.map bare) id 0 = some (bare it) := by
      rw [search_bare, hit]
      rfl
    obtain ⟨hbefore, hafter⟩ := KeyedTable.search_upsert_lost h
      (show ∀ x, key (bare (make x)) = (id, 0) from hkey) (bare new) hsearch hslot
    have hkept := hothers id it.source.tgSlot (.inr ⟨hslot, hslot⟩)
    rw [find_eq, find_eq, hl] at hkept
    -- the rule was found, and now a default one is
    have hgone : bare {} = bare it := by
      have hafter' : KeyedTable.search key 0 (KeyedTable.upsert key 0 id 0 (fun x => bare (make x)) (bare new)
        (l.map bare)) id it.source.tgSlot = none := hafter
      have hbefore' : KeyedTable.search key 0 (l.map bare) id it.source.tgSlot = some (bare it) := hbefore
      rwa [hafter', hbefore'] at hkept
    exact hslot (congrArg (fun x => x.source.tgSlot) hgone).symm
  · intro hfound id' slot' hother
    have hown : ∀ e, KeyedTable.search key 0 (l.map bare) id slot = some e → key e = (id, slot) := by
      intro e he
      rw [search_bare] at he
      obtain ⟨it, hit, rfl⟩ := Option.map_eq_some_iff.mp he
      have hyes := List.find?_some hit
      rw [answers_eq] at hyes
      exact Prod.ext (of_decide_eq_true hyes).1 (hfound it hit)
    rw [find_eq, find_eq, hl, KeyedTable.search_upsert_other (show ∀ x, key (bare (make x)) = (id, slot) from hkey)
      (show key (bare new) = (id, slot) from hnew) hother hown]

/-- **A call is one of a keyed table exactly if it is sound.** -/
theorem keyedCall_iff {l : List TalkgroupRuleGroupVoice} (h : KeyedTable.Keyed key 0 (l.map bare)) (call : Call) :
    KeyedCall l call ↔ Sound l call := by
  cases call with
  | clear =>
      refine iff_of_true ⟨fun entry he => ?_, fun id slot ht => ?_⟩ trivial
      · exact absurd he (by simp [added])
      · exact absurd ht (by simp [target])
  | eraseEntry id slot =>
      refine iff_of_true ⟨fun entry he => ?_, fun id' slot' ht id'' slot'' hother => ?_⟩ trivial
      · exact absurd he (by simp [added])
      · obtain ⟨rfl, rfl⟩ := Prod.mk.inj (Option.some.inj ht)
        rw [find_eq, find_eq]
        show (KeyedTable.search key 0 ((eraseEntry l id slot).map bare) id'' slot'').getD _ = _
        rw [bare_eraseEntry, KeyedTable.search_remove_other hother]
  | addEntry id slot enabled =>
      have hself := find_upsert_self (bare_addEntry l id slot enabled) (fun _ => rfl) rfl fun _ => rfl
      have hothers := others_upsert_iff h (bare_addEntry l id slot enabled) (fun _ => rfl) rfl
      constructor
      · rintro ⟨hfound, hother⟩ it hit
        refine ⟨?_, hothers.mp (fun id' slot' => hother id slot rfl id' slot') it hit⟩
        have hentry : added l (.addEntry id slot enabled) = some (merged id slot enabled it) := by
          show some (((l.find? (answers id slot)).map _).getD _) = _
          rw [hit]
          rfl
        have hbare := hfound _ hentry
        rw [hit] at hself
        have hrewrite : (merged id slot enabled it).config.rewrite = [] := bare_eq_iff.mp (hself.symm.trans hbare)
        exact hrewrite
      · intro hsound
        refine ⟨fun entry he => ?_, fun id' slot' ht => ?_⟩
        · have hentry := Option.some.inj he
          have hkey : key entry = (id, slot) := by
            rw [← hentry]
            cases l.find? (answers id slot) <;> rfl
          obtain ⟨hid, hslot⟩ := Prod.mk.inj hkey
          rw [hid, hslot]
          refine hself.trans ?_
          rw [hentry, bare_eq_iff, ← hentry]
          cases hit : l.find? (answers id slot) with
          | none => rfl
          | some it => exact (hsound it hit).1
        · obtain ⟨rfl, rfl⟩ := Prod.mk.inj (Option.some.inj ht)
          exact hothers.mpr fun it hit => (hsound it hit).2
  | addRule entry =>
      cases hvalid : entry.isInvalid with
      | true =>
          refine iff_of_true ⟨fun e he => ?_, fun id slot ht => ?_⟩ (.inl hvalid)
          · exact absurd he (by simp [added, hvalid])
          · exact absurd ht (by simp [target, hvalid])
      | false =>
          have hself := find_upsert_self (bare_addRule l hvalid) (fun _ => rfl) rfl fun _ => rfl
          have hothers := others_upsert_iff h (bare_addRule l hvalid) (fun _ => rfl) rfl
          have hadded : added l (.addRule entry) = some entry := by
            show (if entry.isInvalid then none else some entry) = _
            rw [hvalid, if_neg Bool.false_ne_true]
          have htarget : target (.addRule entry) = some (key entry) := by
            show (if entry.isInvalid then none else some (key entry)) = _
            rw [hvalid, if_neg Bool.false_ne_true]
          have hmade : (((l.find? (answers entry.source.tgId entry.source.tgSlot)).map fun _ => entry).getD entry) =
              entry := by
            cases l.find? (answers entry.source.tgId entry.source.tgSlot) <;> rfl
          rw [hmade] at hself
          constructor
          · rintro ⟨hfound, hother⟩
            refine .inr ⟨bare_eq_iff.mp (hself.symm.trans (hfound entry hadded)), ?_⟩
            exact hothers.mp fun id' slot' => hother _ _ htarget id' slot'
          · intro hsound
            rcases hsound with hinvalid | ⟨hrewrite, hslot⟩
            · rw [hvalid] at hinvalid
              exact Bool.noConfusion hinvalid
            · refine ⟨fun e he => ?_, fun id slot ht => ?_⟩
              · obtain rfl := Option.some.inj (hadded.symm.trans he)
                exact hself.trans (bare_eq_iff.mpr hrewrite)
              · obtain ⟨rfl, rfl⟩ := Prod.mk.inj (Option.some.inj (htarget.symm.trans ht))
                exact hothers.mpr hslot

/-- **Every call keeps the invariant**, sound or not. -/
theorem keyed_exec {l : List TalkgroupRuleGroupVoice} (h : KeyedTable.Keyed key 0 (l.map bare)) (call : Call) :
    KeyedTable.Keyed key 0 ((exec l call).map bare) := by
  cases call with
  | clear => exact KeyedTable.keyed_nil
  | eraseEntry id slot =>
      show KeyedTable.Keyed key 0 ((eraseEntry l id slot).map bare)
      rw [bare_eraseEntry]
      exact h.remove id slot
  | addEntry id slot enabled =>
      show KeyedTable.Keyed key 0 ((addEntry l id slot enabled).map bare)
      rw [bare_addEntry]
      exact h.upsert (fun _ => rfl) rfl
  | addRule entry =>
      show KeyedTable.Keyed key 0 ((addRule l entry).map bare)
      cases hvalid : entry.isInvalid with
      | true =>
          unfold addRule
          rwa [hvalid, if_pos rfl]
      | false =>
          rw [bare_addRule l hvalid]
          exact h.upsert (fun _ => rfl) rfl

theorem uniqueKeys_of_keyed {l : List TalkgroupRuleGroupVoice} (h : KeyedTable.Keyed key 0 (l.map bare)) :
    UniqueKeys l := by
  have hnodup := h.nodup
  rwa [List.map_map] at hnodup

/-- A call as a step. -/
def step (l : List TalkgroupRuleGroupVoice) (call : Call) (l' : List TalkgroupRuleGroupVoice) : Prop := l' = exec l call

/-- **The keys stay unique in every run, and the table is a keyed one exactly if every call is sound.** -/
theorem keyedTable_iff {calls : List (Call × List TalkgroupRuleGroupVoice)} (hrun : Run step [] calls) :
    States UniqueKeys [] calls ∧ (Guarded KeyedCall [] calls ↔ Guarded Sound [] calls) := by
  have hstart : KeyedTable.Keyed key 0 (([] : List TalkgroupRuleGroupVoice).map bare) := KeyedTable.keyed_nil
  have hkeep : ∀ {l call l'}, KeyedTable.Keyed key 0 (l.map bare) → step l call l' →
      KeyedTable.Keyed key 0 (l'.map bare) := by
    rintro l call _ h rfl
    exact keyed_exec h call
  exact ⟨(hrun.states_of_invariant (I := fun l => KeyedTable.Keyed key 0 (l.map bare)) hkeep hstart).mono
      fun _ => uniqueKeys_of_keyed,
    hrun.guarded_congr (I := fun l => KeyedTable.Keyed key 0 (l.map bare)) hkeep keyedCall_iff hstart⟩

theorem run_exec (l : List TalkgroupRuleGroupVoice) (calls : List Call) : Run step l (trace exec l calls) :=
  run_trace (fun l call => show step l call (exec l call) from rfl) calls l

/-- A talkgroup on its two slots, and one of them taken away. -/
theorem keyedTable_iff_slots :
    Guarded KeyedCall [] (trace exec [] [.addEntry 100 1 true, .addEntry 100 2 true, .eraseEntry 100 1]) := by
  refine (keyedTable_iff (run_exec _ _)).2.mpr ⟨?_, ?_, trivial, trivial⟩
  · intro it hit
    exact absurd hit (by simp)
  · intro it hit
    have hnone : List.find? (answers 100 2) [fresh 100 1 true] = none := rfl
    exact absurd (hit.symm.trans hnone) (by simp)

/-- **A rule is lost**: a talkgroup is added on slot 1 and then on slot 0, and is no longer found on slot 1. -/
theorem keyedTable_lost :
    ∃ calls, Run step [] calls ∧ ¬ (States UniqueKeys [] calls ∧ Guarded KeyedCall [] calls) := by
  refine ⟨_, run_exec [] [.addEntry 100 1 true, .addEntry 100 0 true], ?_⟩
  rintro ⟨-, -, hcall, -⟩
  have hkept := hcall.others 100 0 rfl 100 1 (.inr ⟨by decide, by decide⟩)
  have hid := congrArg (fun x => x.source.tgId) hkept
  exact absurd hid (by decide)

/-! ## The table without names and rewrites

`TalkgroupRulesLookup` has the rules without their names and rewrites, on which no access check looks. -/

/-- A rule without its name and its rewrites. -/
def forget (tg : TalkgroupRuleGroupVoice) : DvmHost.TalkgroupRuleGroupVoice :=
  { config := tg.config.toTalkgroupRuleConfig, source := tg.source }

/-- The rules of a table without their names and rewrites. -/
def forgetAll (l : List TalkgroupRuleGroupVoice) : TalkgroupRulesLookup := { groupVoice := l.map forget }

theorem find_forgetAll (l : List TalkgroupRuleGroupVoice) (id : UInt32) (slot : UInt8) :
    (forgetAll l).find id slot = forget (find l id slot) := by
  unfold TalkgroupRulesLookup.find find forgetAll
  rw [List.find?_map]
  show ((l.find? (answers id slot)).map forget).getD {} = _
  cases l.find? (answers id slot) <;> rfl

theorem map_forget_modify (l : List TalkgroupRuleGroupVoice) (it : Nat)
    (f : TalkgroupRuleGroupVoice → TalkgroupRuleGroupVoice)
    (g : DvmHost.TalkgroupRuleGroupVoice → DvmHost.TalkgroupRuleGroupVoice) (h : ∀ x, forget (f x) = g (forget x)) :
    (l.modify it f).map forget = (l.map forget).modify it g := by
  induction l generalizing it with
  | nil => simp
  | cons x l ih =>
      cases it with
      | zero => simp [h]
      | succ it => simp [ih]

theorem addEntry_forgetAll (l : List TalkgroupRuleGroupVoice) (id : UInt32) (slot : UInt8) (enabled : Bool) :
    (forgetAll l).addEntry id slot enabled = forgetAll (addEntry l id slot enabled) := by
  have hidx : (l.map forget).findIdx (fun x =>
      if slot ≠ 0 then x.source.tgId = id ∧ x.source.tgSlot = slot else x.source.tgId = id) =
        l.findIdx (answers id slot) := List.findIdx_map ..
  unfold TalkgroupRulesLookup.addEntry addEntry forgetAll
  dsimp only
  rw [hidx, List.length_map]
  split
  · rw [map_forget_modify l _ _ (fun x =>
      { x with config := { x.config with active := enabled }, source := { tgId := id, tgSlot := slot } }) fun _ => rfl]
  · rw [List.map_append]
    rfl

theorem eraseEntry_forgetAll (l : List TalkgroupRuleGroupVoice) (id : UInt32) (slot : UInt8) :
    (forgetAll l).eraseEntry id slot = forgetAll (eraseEntry l id slot) := by
  unfold TalkgroupRulesLookup.eraseEntry forgetAll
  rw [map_eraseEntry (p := fun x => decide (x.source.tgId = id ∧ x.source.tgSlot = slot)) (fun _ _ => rfl) id slot
    (fun _ => rfl) l]

end Rules

end DvmHost

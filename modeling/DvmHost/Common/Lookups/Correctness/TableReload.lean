import DvmHost.Common.Lookups.LookupTable
import DvmHost.Lib.Run

/-!
# `Common.Lookups.Correctness.TableReload` — reloads and the mutex of the tables

A call completes when it returns and leaves the mutex free, and reads no token that its line does not have; a load that
succeeds leaves what the file lists, and one that fails leaves the table that was there (`Completes`). Which calls do is
said for one call on a table whose mutex is free (`load_iff`, `rules_load_iff`) and taken to runs by `Lib.Run`:
`reload_iff`.
-/

namespace DvmHost

open Lib

namespace LookupTable

variable {T : Type} (format : LineFormat T) (beyond : List Char)

/-! ## What a file lists -/

/-- A line that is neither empty nor a comment. -/
def isEntry : List Char → Bool
  | [] => false
  | c :: _ => c ≠ '#'

/-- A line with fewer tokens than are taken from it. -/
def isShort (line : List Char) : Bool := isEntry line && decide ((tokenize line).length < format.need)

/-- The entry of a line that is well formed. -/
def wellFormed? (line : List Char) : Option (UInt32 × T) :=
  if isEntry line && !isShort format line then some (format.entryOf fun k => (tokenize line).getD k []) else none

/-- The entry of the last of these lines that has the id. -/
def lastOf (lines : List (List Char)) (id : UInt32) : Option T :=
  ((lines.filterMap (wellFormed? format)).reverse.find? fun e => e.1 = id).map Prod.snd

/-- What a file lists under an id. -/
def listed (content : Option (List Char)) (id : UInt32) : Option T := lastOf format (getlines (content.getD [])) id

theorem lastOf_cons (line : List Char) (lines : List (List Char)) (id : UInt32) :
    lastOf format (line :: lines) id =
      (lastOf format lines id).or (((wellFormed? format line).filter fun e => e.1 = id).map Prod.snd) := by
  unfold lastOf
  cases hentry : wellFormed? format line with
  | none =>
      rw [List.filterMap_cons_none hentry]
      simp
  | some e =>
      rw [List.filterMap_cons_some hentry, List.reverse_cons, List.find?_append, Option.map_or]
      congr 1
      by_cases hid : e.1 = id <;> simp [hid, Option.filter_some]

/-! ## The loop of `load` -/

theorem loadLine_of_not {line : List Char} (h : isEntry line = false) (t : LookupTable T) :
    loadLine format beyond t line = t := by
  cases line with
  | nil => rfl
  | cons c cs =>
      have hcomment : c = '#' := by simpa [isEntry] using h
      exact if_pos hcomment

theorem loadLine_of_entry {line : List Char} (h : isEntry line = true) (t : LookupTable T) :
    loadLine format beyond t line =
      { t with
        m_table := t.m_table.insert (format.entryOf fun k => (tokenize line).getD k beyond).1
          (format.entryOf fun k => (tokenize line).getD k beyond).2
        overread := t.overread || isShort format line } := by
  cases line with
  | nil => exact Bool.noConfusion h
  | cons c cs =>
      have hentry : c ≠ '#' := by simpa [isEntry] using h
      unfold isShort
      rw [h, Bool.true_and]
      exact if_neg hentry

/-- A line with all its tokens says the same whatever is beyond it. -/
theorem entryOf_of_not_short {line : List Char} (h : isEntry line = true) (hshort : isShort format line = false) :
    (format.entryOf fun k => (tokenize line).getD k beyond) = format.entryOf fun k => (tokenize line).getD k [] := by
  refine format.reads _ _ fun k hk => ?_
  have hlen : k < (tokenize line).length := by
    unfold isShort at hshort
    rw [h, Bool.true_and, decide_eq_false_iff_not] at hshort
    omega
  simp [List.getD, hlen]

/-- **What the loop leaves**: the mutex as it was, whether a line was short, and a table that has entries if it had any
    or if there are lines with entries. -/
theorem foldl_loadLine (lines : List (List Char)) (t : LookupTable T) :
    (lines.foldl (loadLine format beyond) t).locked = t.locked ∧
      (lines.foldl (loadLine format beyond) t).overread = (t.overread || lines.any (isShort format)) ∧
      ((lines.foldl (loadLine format beyond) t).m_table.keys = [] ↔ t.m_table.keys = [] ∧ lines.any isEntry = false) := by
  induction lines generalizing t with
  | nil => simp
  | cons line lines ih =>
      obtain ⟨hlocked, hoverread, hkeys⟩ := ih (loadLine format beyond t line)
      rw [List.foldl_cons, hlocked, hoverread, hkeys, List.any_cons, List.any_cons]
      cases hentry : isEntry line with
      | false =>
          have hshort : isShort format line = false := by
            unfold isShort
            rw [hentry, Bool.false_and]
          rw [loadLine_of_not format beyond hentry, hshort, Bool.false_or, Bool.false_or]
          exact ⟨rfl, rfl, Iff.rfl⟩
      | true =>
          rw [loadLine_of_entry format beyond hentry, Bool.true_or]
          refine ⟨rfl, Bool.or_assoc _ _ _, iff_of_false ?_ ?_⟩
          · rintro ⟨hnil, -⟩
            rw [AList.keys_insert] at hnil
            exact absurd hnil (List.cons_ne_nil _ _)
          · rintro ⟨-, hfalse⟩
            exact Bool.noConfusion hfalse

/-- **What the table holds behind the loop**, where no line is short: the last entry of an id wins. -/
theorem lookup_foldl_loadLine {lines : List (List Char)} (hshort : lines.any (isShort format) = false)
    (t : LookupTable T) (id : UInt32) :
    (lines.foldl (loadLine format beyond) t).m_table.lookup id = (lastOf format lines id).or (t.m_table.lookup id) := by
  induction lines generalizing t with
  | nil => rfl
  | cons line lines ih =>
      rw [List.any_cons, Bool.or_eq_false_iff] at hshort
      obtain ⟨hline, hlines⟩ := hshort
      rw [List.foldl_cons, ih hlines, lastOf_cons, Option.or_assoc]
      congr 1
      unfold wellFormed?
      cases hentry : isEntry line with
      | false =>
          rw [loadLine_of_not format beyond hentry]
          rfl
      | true =>
          rw [loadLine_of_entry format beyond hentry, hline, entryOf_of_not_short format beyond hentry hline]
          show (t.m_table.insert _ _).lookup id = _
          rw [UnorderedMap.lookup_insert_ite]
          generalize (format.entryOf fun k => (tokenize line).getD k []) = e
          by_cases hid : id = e.1
          · simp [hid, Option.filter_some]
          · have hne : ¬ e.1 = id := fun h => hid h.symm
            simp [hid, hne, Option.filter_some]

/-! ## One load -/

/-- The mutex is free, and nothing was read from beyond a line. -/
def Free (t : LookupTable T) : Prop := t.locked = false ∧ t.overread = false

/-- What a load should do: a file that is loaded is the table, and where none is, the table stays. -/
def LoadPost (t : LookupTable T) (content : Option (List Char)) (a : TableAnswer T) (t' : LookupTable T) : Prop :=
  (a = .loaded true → ∀ id, t'.m_table.lookup id = listed format content id) ∧
    (a = .loaded false → ∀ id, t'.m_table.lookup id = t.m_table.lookup id)

/-- **The loads that complete.** There is no file to read; or no line of it is short, and it has an entry, or the table
    is empty. -/
def SafeLoad (t : LookupTable T) (content : Option (List Char)) : Prop :=
  ∀ file, content = some file → (getlines file).any (isShort format) = false ∧
    ((getlines file).any isEntry = true ∨ ∀ id, t.m_table.lookup id = none)

/-- A load of a table whose mutex is free. -/
theorem load_some {t : LookupTable T} (hfree : t.locked = false) (file : List Char) :
    ∃ t', t.load format beyond (some file) = some (.loaded ((getlines file).any isEntry), t') ∧ t'.locked = false ∧
      t'.overread = (t.overread || (getlines file).any (isShort format)) ∧
      (t'.m_table.keys = [] ↔ (getlines file).any isEntry = false) ∧
      ((getlines file).any (isShort format) = false → ∀ id, t'.m_table.lookup id = listed format (some file) id) := by
  obtain ⟨-, hoverread, hkeys⟩ := foldl_loadLine format beyond (getlines file)
    ({ m_table := ∅, locked := true, overread := t.overread } : LookupTable T)
  have hload : t.load format beyond (some file) =
      (let t' := ((getlines file).foldl (loadLine format beyond)
        ({ m_table := ∅, locked := true, overread := t.overread } : LookupTable T)).unlock
      if t'.m_table.keys.length = 0 then some (.loaded false, t') else some (.loaded true, t')) := by
    simp [load, clear, lock, unlock, hfree]
  refine ⟨((getlines file).foldl (loadLine format beyond) { m_table := ∅, locked := true, overread := t.overread }).unlock,
    hload.trans ?_, rfl, hoverread, hkeys.trans (and_iff_right rfl), fun hshort id => ?_⟩
  · dsimp only
    cases hany : (getlines file).any isEntry with
    | false => exact if_pos (List.length_eq_zero_iff.mpr (hkeys.mpr ⟨rfl, hany⟩))
    | true =>
        refine if_neg fun hzero => ?_
        have hnone := (hkeys.mp (List.length_eq_zero_iff.mp hzero)).2
        rw [hany] at hnone
        exact Bool.noConfusion hnone
  · exact (lookup_foldl_loadLine format beyond hshort _ id).trans Option.or_none

theorem keys_eq_nil_iff (m : UnorderedMap UInt32 T) : m.keys = [] ↔ ∀ id, m.lookup id = none := by
  constructor
  · intro hnil id
    rw [AList.lookup_eq_none, AList.mem_keys, hnil]
    exact List.not_mem_nil
  · intro hnone
    refine List.eq_nil_iff_forall_not_mem.mpr fun id hid => ?_
    exact AList.lookup_eq_none.mp (hnone id) (AList.mem_keys.mpr hid)

/-- **A load completes exactly if it is safe.** -/
theorem load_iff {t : LookupTable T} (hfree : Free t) (content : Option (List Char)) :
    (∃ a t', t.load format beyond content = some (a, t') ∧ Free t' ∧ LoadPost format t content a t') ↔
      SafeLoad format t content := by
  cases content with
  | none =>
      refine iff_of_true ⟨_, t, rfl, hfree, fun ha => ?_, fun _ _ => rfl⟩ fun file hfile => ?_
      · exact absurd ha (by simp)
      · exact absurd hfile (by simp)
  | some file =>
      obtain ⟨t₁, hload, hlocked, hoverread, hkeys, hlisted⟩ := load_some format beyond hfree.1 file
      rw [hfree.2, Bool.false_or] at hoverread
      constructor
      · rintro ⟨a, t', hload', hfree', hpost⟩ f hf
        obtain rfl := Option.some.inj hf
        obtain ⟨rfl, rfl⟩ := Prod.mk.inj (Option.some.inj (hload.symm.trans hload'))
        refine ⟨hoverread.symm.trans hfree'.2, ?_⟩
        cases hany : (getlines file).any isEntry with
        | true => exact .inl rfl
        | false =>
            refine .inr fun id => ?_
            rw [hany] at hkeys hpost
            rw [← hpost.2 rfl id]
            exact (keys_eq_nil_iff _).mp (hkeys.mpr rfl) id
      · intro hsafe
        obtain ⟨hshort, hentries⟩ := hsafe file rfl
        refine ⟨_, t₁, hload, ⟨hlocked, hoverread.trans hshort⟩, fun _ => hlisted hshort, fun ha id => ?_⟩
        have hany : (getlines file).any isEntry = false := by
          injection ha
        rw [hany] at hentries hkeys
        rw [hentries.resolve_left Bool.false_ne_true id]
        exact (keys_eq_nil_iff _).mp (hkeys.mpr rfl) id

/-- **`hasEntry` never frees the mutex.** -/
theorem hasEntry_locked {t t' : LookupTable T} {id : UInt32} {a : TableAnswer T}
    (h : t.hasEntry id = some (a, t')) : t'.locked = true := by
  unfold hasEntry lock at h
  cases hlocked : t.locked with
  | true => simp [hlocked] at h
  | false =>
      rw [hlocked] at h
      cases hlookup : t.m_table.lookup id with
      | none =>
          simp [hlookup] at h
          rw [← h.2]
      | some entry =>
          simp [hlookup] at h
          rw [← h.2]

theorem lock_of_free {t : LookupTable T} (h : Free t) : t.lock = some { t with locked := true } := by
  unfold lock
  rw [h.1, if_neg Bool.false_ne_true]

end LookupTable

/-! ## The calls of the tables -/

namespace RadioIdLookup

open LookupTable

/-- What a call should do: what a load should, and nothing else otherwise. -/
def Post (t : LookupTable RadioId) : Call → TableAnswer RadioId → LookupTable RadioId → Prop
  | .load content, a, t' => LoadPost lineFormat t content a t'
  | _, _, _ => True

/-- **The calls that complete**: not `hasEntry`, and a load if it is safe. -/
def Safe (t : LookupTable RadioId) : Call → Prop
  | .load content => SafeLoad lineFormat t content
  | .hasEntry _ => False
  | _ => True

theorem completes_call_iff (beyond : List Char) (t : LookupTable RadioId) (call : Call) (h : Free t) :
    Completes (exec beyond) Free Post (some t) call ↔ Safe t call := by
  constructor
  · rintro ⟨t₀, a, t', ht, hexec, hfree, hpost⟩
    obtain rfl := Option.some.inj ht
    cases call with
    | load content => exact (load_iff lineFormat beyond h content).mp ⟨a, t', hexec, hfree, hpost⟩
    | hasEntry id => exact Bool.noConfusion (hfree.1.symm.trans (hasEntry_locked hexec))
    | find id => trivial
    | addEntry id enabled => trivial
  · intro hsafe
    cases call with
    | load content =>
        obtain ⟨a, t', hexec, hfree, hpost⟩ := (load_iff lineFormat beyond h content).mpr hsafe
        exact ⟨t, a, t', rfl, hexec, hfree, hpost⟩
    | hasEntry id => exact hsafe.elim
    | find id =>
        by_cases hid : id = P25_WUID_ALL ∨ id = P25_WUID_FNE
        · exact ⟨t, _, t, rfl, if_pos hid, h, trivial⟩
        · refine ⟨t, .found (find ⟨t.m_table⟩ id), { t with locked := false }, rfl, (if_neg hid).trans ?_,
            ⟨rfl, h.2⟩, trivial⟩
          rw [lock_of_free h]
          rfl
    | addEntry id enabled =>
        by_cases hid : id = P25_WUID_ALL ∨ id = P25_WUID_FNE
        · exact ⟨t, _, t, rfl, if_pos hid, h, trivial⟩
        · refine ⟨t, .done, { t with m_table := (addEntry ⟨t.m_table⟩ id enabled).m_table, locked := false }, rfl,
            (if_neg hid).trans ?_, ⟨rfl, h.2⟩, trivial⟩
          rw [lock_of_free h]
          rfl

end RadioIdLookup

namespace IdenTableLookup

open LookupTable

variable (fl : Floats)

/-- What a call should do: what a load should, and nothing else otherwise. -/
def Post (t : LookupTable (IdenTable fl)) : Call → TableAnswer (IdenTable fl) → LookupTable (IdenTable fl) → Prop
  | .load content, a, t' => LoadPost (lineFormat fl) t content a t'
  | _, _, _ => True

/-- **The calls that complete**: not `hasEntry`, and a load if it is safe. -/
def Safe (t : LookupTable (IdenTable fl)) : Call → Prop
  | .load content => SafeLoad (lineFormat fl) t content
  | .hasEntry _ => False
  | .find _ => True

theorem completes_call_iff (beyond : List Char) (t : LookupTable (IdenTable fl)) (call : Call) (h : Free t) :
    Completes (exec fl beyond) Free (Post fl) (some t) call ↔ Safe fl t call := by
  constructor
  · rintro ⟨t₀, a, t', ht, hexec, hfree, hpost⟩
    obtain rfl := Option.some.inj ht
    cases call with
    | load content => exact (load_iff (lineFormat fl) beyond h content).mp ⟨a, t', hexec, hfree, hpost⟩
    | hasEntry id => exact Bool.noConfusion (hfree.1.symm.trans (hasEntry_locked hexec))
    | find id => trivial
  · intro hsafe
    cases call with
    | load content =>
        obtain ⟨a, t', hexec, hfree, hpost⟩ := (load_iff (lineFormat fl) beyond h content).mpr hsafe
        exact ⟨t, a, t', rfl, hexec, hfree, hpost⟩
    | hasEntry id => exact hsafe.elim
    | find id =>
        refine ⟨t, .found (find fl t.m_table id), { t with locked := false }, rfl, ?_, ⟨rfl, h.2⟩, trivial⟩
        unfold exec
        rw [lock_of_free h]
        rfl

end IdenTableLookup

namespace Rules

open Yaml (Node YamlNumbers)

variable (num : YamlNumbers)

/-- A rule with all that its node says. -/
def ruleOf (node : Node) : TalkgroupRuleGroupVoice :=
  { name := (node.getKey "name").asString
    config := configOf num (node.getKey "config")
    source := sourceOf num (node.getKey "source") }

/-- The rules that a tree lists. -/
def listedRules (root : Option Node) : List TalkgroupRuleGroupVoice :=
  match (root.getD .none).getKey "groupVoice" with
  | .sequence items => items.map (ruleOf num)
  | _ => []

/-- A rule is read as it is listed exactly if it lists no rewrites. -/
theorem groupVoiceOf_eq_iff {node : Node} :
    groupVoiceOf num node = ruleOf num node ↔ ((node.getKey "config").getKey "rewrite").size = 0 := by
  have hrewrite : groupVoiceOf num node = ruleOf num node ↔ (configOf num (node.getKey "config")).rewrite = [] := by
    constructor
    · intro h
      exact (congrArg (fun tg => tg.config.rewrite) h).symm
    · intro h
      unfold groupVoiceOf ruleOf TalkgroupRuleConfig.assign
      congr 1
      generalize configOf num (node.getKey "config") = config at *
      obtain ⟨config, rewrite⟩ := config
      exact congrArg _ (Eq.symm h)
  rw [hrewrite]
  show List.map _ _ = [] ↔ _
  rw [List.map_eq_nil_iff, Node.visited_eq_nil_iff]

namespace RulesLookup

/-- The mutex is free. -/
def Free (t : RulesLookup) : Prop := t.locked = false

/-- What a call should do: rules that are loaded are those listed, and where none are, the table stays. -/
def Post (t : RulesLookup) : Call → TableAnswer TalkgroupRuleGroupVoice → RulesLookup → Prop
  | .load root, a, t' =>
      (a = .loaded true → t'.groupVoice = listedRules num root) ∧ (a = .loaded false → t'.groupVoice = t.groupVoice)
  | _, _, _ => True

/-- **The calls that complete**: a load if there is no tree, or it has a list of rules that is not empty, of which none
    has rewrites. -/
def Safe (_ : RulesLookup) : Call → Prop
  | .load root => ∀ node, root = some node → ∃ items, node.getKey "groupVoice" = .sequence items ∧ items ≠ [] ∧
      ∀ item ∈ items, ((item.getKey "config").getKey "rewrite").size = 0
  | _ => True

theorem lock_of_free {t : RulesLookup} (h : Free t) : t.lock = some { t with locked := true } := by
  unfold lock
  rw [show t.locked = false from h, if_neg Bool.false_ne_true]

/-- A load of a tree, on a table whose mutex is free. -/
theorem load_some {t : RulesLookup} (h : Free t) (node : Node) :
    t.load num (some node) =
      if (node.getKey "groupVoice").size = 0 then some (.loaded false, { groupVoice := [], locked := true })
      else some (.loaded true,
        { groupVoice := (node.getKey "groupVoice").visited.map (groupVoiceOf num), locked := false }) := by
  have hfree : t.locked = false := h
  have hvisited : (node.getKey "groupVoice").size ≠ 0 → (node.getKey "groupVoice").visited ≠ [] :=
    mt Node.visited_eq_nil_iff.mp
  unfold load clear lock unlock
  by_cases hsize : (node.getKey "groupVoice").size = 0
  · simp [hfree, hsize]
  · simp [hfree, hsize, hvisited hsize]

/-- **A load of the rules completes exactly if it is safe.** -/
theorem rules_load_iff {t : RulesLookup} (h : Free t) (root : Option Node) :
    (∃ a t', t.load num root = some (a, t') ∧ Free t' ∧ Post num t (.load root) a t') ↔ Safe t (.load root) := by
  cases root with
  | none =>
      refine iff_of_true ⟨_, t, rfl, h, fun ha => ?_, fun _ => rfl⟩ fun node hnode => ?_
      · exact absurd ha (by simp)
      · exact absurd hnode (by simp)
  | some node =>
      rw [load_some num h node]
      constructor
      · rintro ⟨a, t', hload, hfree, hpost⟩ n hn
        obtain rfl := Option.some.inj hn
        by_cases hsize : (node.getKey "groupVoice").size = 0
        · -- the mutex stays locked
          rw [if_pos hsize] at hload
          obtain ⟨-, rfl⟩ := Prod.mk.inj (Option.some.inj hload)
          exact Bool.noConfusion hfree
        · rw [if_neg hsize] at hload
          obtain ⟨rfl, rfl⟩ := Prod.mk.inj (Option.some.inj hload)
          have hlisted : (node.getKey "groupVoice").visited.map (groupVoiceOf num) = listedRules num (some node) :=
            hpost.1 rfl
          unfold listedRules at hlisted
          rw [Option.getD_some] at hlisted
          cases hnode : node.getKey "groupVoice" with
          | none =>
              rw [hnode] at hsize
              exact absurd rfl hsize
          | scalar data =>
              rw [hnode] at hsize
              exact absurd rfl hsize
          | sequence items =>
              rw [hnode, Node.visited_sequence] at hlisted
              refine ⟨items, rfl, fun hnil => ?_, fun item hitem => ?_⟩
              · rw [hnode, hnil] at hsize
                exact hsize rfl
              · exact (groupVoiceOf_eq_iff num).mp (List.map_inj_left.mp hlisted item hitem)
          | map items =>
              -- a map that is taken for a list leaves a rule that nothing lists
              have hitems : items ≠ [] := by
                intro hnil
                rw [hnode, hnil] at hsize
                exact hsize rfl
              rw [hnode, Node.visited_map hitems] at hlisted
              exact absurd hlisted (List.cons_ne_nil _ _)
      · intro hsafe
        obtain ⟨items, hnode, hitems, hrewrites⟩ := hsafe node rfl
        have hsize : (node.getKey "groupVoice").size ≠ 0 := by
          rw [hnode]
          exact fun hzero => hitems (List.length_eq_zero_iff.mp hzero)
        refine ⟨_, _, if_neg hsize, rfl, fun _ => ?_, fun ha => ?_⟩
        · show (node.getKey "groupVoice").visited.map (groupVoiceOf num) = listedRules num (some node)
          unfold listedRules
          rw [Option.getD_some, hnode, Node.visited_sequence]
          exact List.map_congr_left fun item hitem => (groupVoiceOf_eq_iff num).mpr (hrewrites item hitem)
        · exact absurd ha (by simp)

theorem completes_call_iff (t : RulesLookup) (call : Call) (h : Free t) :
    Completes (exec num) Free (Post num) (some t) call ↔ Safe t call := by
  cases call with
  | load root =>
      rw [← rules_load_iff num h root]
      constructor
      · rintro ⟨t₀, a, t', ht, hexec, hfree, hpost⟩
        obtain rfl := Option.some.inj ht
        exact ⟨a, t', hexec, hfree, hpost⟩
      · rintro ⟨a, t', hexec, hfree, hpost⟩
        exact ⟨t, a, t', rfl, hexec, hfree, hpost⟩
  | find id slot =>
      refine iff_of_true ⟨t, .found (Rules.find t.groupVoice id slot), { t with locked := false }, rfl, ?_, rfl,
        trivial⟩ trivial
      unfold exec
      rw [lock_of_free h]
      rfl
  | addEntry id slot enabled =>
      refine iff_of_true ⟨t, .done, { groupVoice := addEntry t.groupVoice id slot enabled, locked := false }, rfl, ?_, rfl,
        trivial⟩ trivial
      unfold exec
      rw [lock_of_free h]
      rfl
  | addRule entry =>
      by_cases hinvalid : entry.isInvalid = true
      · exact iff_of_true ⟨t, _, t, rfl, if_pos hinvalid, h, trivial⟩ trivial
      · refine iff_of_true ⟨t, .done, { groupVoice := addRule t.groupVoice entry, locked := false }, rfl,
          (if_neg hinvalid).trans ?_, rfl, trivial⟩ trivial
        rw [lock_of_free h]
        rfl
  | eraseEntry id slot =>
      refine iff_of_true ⟨t, .done, { groupVoice := eraseEntry t.groupVoice id slot, locked := false }, rfl, ?_, rfl,
        trivial⟩ trivial
      unfold exec
      rw [lock_of_free h]
      rfl

end RulesLookup

end Rules

/-! ## Runs -/

/-- **All calls of a run complete exactly if all are safe**, for the three tables, whatever they held before. -/
theorem reload_iff (beyond : List Char) (fl : Floats) (num : Yaml.YamlNumbers) :
    (∀ (table : UnorderedMap UInt32 RadioId) l,
      Run (CallStep (RadioIdLookup.exec beyond)) (some ⟨table, false, false⟩) l →
        (Guarded (Completes (RadioIdLookup.exec beyond) LookupTable.Free RadioIdLookup.Post)
            (some ⟨table, false, false⟩) l ↔
          Guarded (Provided RadioIdLookup.Safe) (some ⟨table, false, false⟩) l)) ∧
    (∀ (table : UnorderedMap UInt32 (IdenTableLookup.IdenTable fl)) l,
      Run (CallStep (IdenTableLookup.exec fl beyond)) (some ⟨table, false, false⟩) l →
        (Guarded (Completes (IdenTableLookup.exec fl beyond) LookupTable.Free (IdenTableLookup.Post fl))
            (some ⟨table, false, false⟩) l ↔
          Guarded (Provided (IdenTableLookup.Safe fl)) (some ⟨table, false, false⟩) l)) ∧
    ∀ (groupVoice : List Rules.TalkgroupRuleGroupVoice) l,
      Run (CallStep (Rules.RulesLookup.exec num)) (some ⟨groupVoice, false⟩) l →
        (Guarded (Completes (Rules.RulesLookup.exec num) Rules.RulesLookup.Free (Rules.RulesLookup.Post num))
            (some ⟨groupVoice, false⟩) l ↔
          Guarded (Provided Rules.RulesLookup.Safe) (some ⟨groupVoice, false⟩) l) :=
  ⟨fun _ _ hrun => completes_iff (RadioIdLookup.completes_call_iff beyond) ⟨rfl, rfl⟩ hrun,
    fun _ _ hrun => completes_iff (IdenTableLookup.completes_call_iff fl beyond) ⟨rfl, rfl⟩ hrun,
    fun _ _ hrun => completes_iff (Rules.RulesLookup.completes_call_iff num) rfl hrun⟩

/-- No number is read from a text. -/
def noNumbers : Yaml.YamlNumbers := ⟨fun _ defaultValue => defaultValue⟩

/-- The floats are left out. -/
def noFloats : Floats := ⟨Unit, fun _ => (), fun _ => true, id, fun _ _ => false, (), (), (), ()⟩

/-- A file of a comment and two ids, and a search. -/
theorem reload_iff_ids :
    Guarded (Completes (RadioIdLookup.exec []) LookupTable.Free RadioIdLookup.Post) (some ⟨∅, false, false⟩)
      (callTrace (RadioIdLookup.exec []) (some ⟨∅, false, false⟩)
        [.load (some ['#', '\n', '1', ',', '1', '\n', '2', ',', '0']), .find 1]) := by
  refine ((reload_iff [] noFloats noNumbers).1 ∅ _ (run_callTrace _ _)).mpr ⟨?_, fun _ _ => trivial, trivial⟩
  intro t ht file hfile
  obtain rfl := Option.some.inj ht
  obtain rfl := Option.some.inj hfile
  exact ⟨by decide, .inl (by decide)⟩

/-- **A file of rules without a list locks the table for good**: the load fails, and the next search never returns. -/
theorem reload_stuck :
    ∃ l, Run (CallStep (Rules.RulesLookup.exec noNumbers)) (some ⟨[Rules.fresh 1 0 true], false⟩) l ∧
      ¬ Guarded (Completes (Rules.RulesLookup.exec noNumbers) Rules.RulesLookup.Free
        (Rules.RulesLookup.Post noNumbers)) (some ⟨[Rules.fresh 1 0 true], false⟩) l := by
  refine ⟨_, run_callTrace _ [.load (some .none), .find 1 0], ?_⟩
  rintro ⟨-, ⟨t, a, t', ht, hexec, -⟩, -⟩
  obtain rfl := Option.some.inj ht
  exact absurd hexec (by simp [Rules.RulesLookup.exec, Rules.RulesLookup.lock])

end DvmHost

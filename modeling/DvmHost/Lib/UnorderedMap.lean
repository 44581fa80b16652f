import Mathlib.Data.List.AList

/-!
# `Lib.UnorderedMap` — hash maps whose iteration order is not fixed

An `unordered_map` is an association list with distinct keys (`AList`), whose `entries` are listed in the
order an iteration visits them. That order is an artefact of hashing: `SameMap` relates two maps that
hold the same entries in any two orders, and a step of a system may start from any map of the class.
-/

namespace Lib

/-- `std::unordered_map<K, V>`; `entries` is the iteration order. -/
abbrev UnorderedMap (K V : Type) := AList (fun _ : K => V)

namespace UnorderedMap

variable {K V : Type}

/-- The two maps hold the same entries, iterated in possibly different orders. -/
def SameMap (m m' : UnorderedMap K V) : Prop := m.entries.Perm m'.entries

theorem SameMap.refl (m : UnorderedMap K V) : SameMap m m := List.Perm.refl _

theorem SameMap.keys_perm {m m' : UnorderedMap K V} (h : SameMap m m') : m.keys.Perm m'.keys :=
  List.Perm.map _ h

theorem SameMap.size_eq {m m' : UnorderedMap K V} (h : SameMap m m') :
    m.keys.length = m'.keys.length := h.keys_perm.length_eq

/-- The map `m` iterating in the order of `l`. -/
def reorder (m : UnorderedMap K V) (l : List (Sigma fun _ : K => V)) (h : m.entries.Perm l) :
    UnorderedMap K V := ⟨l, (List.perm_nodupKeys h).mp m.nodupKeys⟩

theorem sameMap_reorder (m : UnorderedMap K V) (l : List (Sigma fun _ : K => V)) (h : m.entries.Perm l) :
    SameMap m (m.reorder l h) := h

variable [DecidableEq K]

/-- Lookups do not see the iteration order. -/
theorem SameMap.lookup_eq {m m' : UnorderedMap K V} (h : SameMap m m') (k : K) :
    m.lookup k = m'.lookup k := AList.perm_lookup h

/-- `m[k] = f(m[k])`, where `m[k]` first creates the default value when `k` is missing. -/
def modify [Inhabited V] (m : UnorderedMap K V) (k : K) (f : V → V) : UnorderedMap K V :=
  m.insert k (f ((m.lookup k).getD default))

theorem lookup_insert_ite (m : UnorderedMap K V) (k k' : K) (v : V) :
    (m.insert k v).lookup k' = if k' = k then some v else m.lookup k' := by
  split
  · next h => rw [h, AList.lookup_insert]
  · next h => exact AList.lookup_insert_ne h

theorem lookup_erase_ite (m : UnorderedMap K V) (k k' : K) :
    (m.erase k).lookup k' = if k' = k then none else m.lookup k' := by
  split
  · next h => rw [h, AList.lookup_erase]
  · next h => exact AList.lookup_erase_ne h

/-- An entry can be iterated first; the others keep their keys apart from it. -/
theorem exists_perm_cons {m : UnorderedMap K V} {k : K} {v : V} (h : m.lookup k = some v) :
    ∃ rest, m.entries.Perm (⟨k, v⟩ :: rest) ∧ (∀ e ∈ rest, e.1 ≠ k ∧ m.lookup e.1 = some e.2) ∧
      ∀ k' v', k' ≠ k → m.lookup k' = some v' → ⟨k', v'⟩ ∈ rest := by
  have hmem : (⟨k, v⟩ : Sigma fun _ : K => V) ∈ m.entries := AList.mem_lookup_iff.mp h
  obtain ⟨pre, post, heq⟩ := List.append_of_mem hmem
  have hperm : m.entries.Perm (⟨k, v⟩ :: (pre ++ post)) := heq ▸ List.perm_middle
  have hkeys := (List.perm_nodupKeys hperm).mp m.nodupKeys
  refine ⟨pre ++ post, hperm, fun e he => ⟨?_, ?_⟩, fun k' v' hne hk' => ?_⟩
  · intro hk
    have hin : e.1 ∈ (pre ++ post).keys := List.mem_keys_of_mem he
    exact (List.nodupKeys_cons.mp hkeys).1 (hk ▸ hin)
  · exact AList.mem_lookup_iff.mpr (hperm.mem_iff.mpr (List.mem_cons_of_mem _ he))
  · rcases List.mem_cons.mp (hperm.mem_iff.mp (AList.mem_lookup_iff.mp hk')) with he | he
    · exact absurd (congrArg Sigma.fst he) hne
    · exact he

theorem mem_keys_iff_lookup (m : UnorderedMap K V) (k : K) :
    k ∈ m.keys ↔ ∃ v, m.lookup k = some v := by
  rw [← AList.mem_keys, ← AList.lookup_isSome, Option.isSome_iff_exists]

/-- Inserting under a new key adds one entry. -/
theorem size_insert_of_notMem {m : UnorderedMap K V} {k : K} (h : k ∉ m.keys) (v : V) :
    (m.insert k v).keys.length = m.keys.length + 1 := by
  rw [AList.keys_insert, List.erase_of_not_mem h, List.length_cons]

/-- Inserting under a key already present replaces its value. -/
theorem size_insert_of_mem {m : UnorderedMap K V} {k : K} (h : k ∈ m.keys) (v : V) :
    (m.insert k v).keys.length = m.keys.length := by
  have hpos : 0 < m.keys.length := List.length_pos_of_mem h
  rw [AList.keys_insert, List.length_cons, List.length_erase_of_mem h]
  omega

/-- Erasing a present key removes one entry. -/
theorem size_erase_of_mem {m : UnorderedMap K V} {k : K} (h : k ∈ m.keys) :
    (m.erase k).keys.length + 1 = m.keys.length := by
  have hpos : 0 < m.keys.length := List.length_pos_of_mem h
  rw [AList.keys_erase, List.length_erase_of_mem h]
  omega

/-! ## Maps whose entries name their key -/

/-- Every entry is under the key that a field of it names. -/
def KeyedBy (field : V → K) (m : UnorderedMap K V) : Prop := ∀ k v, m.lookup k = some v → field v = k

section KeyedBy

variable {field : V → K} {m : UnorderedMap K V}

theorem keyedBy_empty : KeyedBy field (∅ : UnorderedMap K V) := fun _ _ h => absurd h (by simp)

theorem KeyedBy.insert (h : KeyedBy field m) {k : K} {v : V} (hv : field v = k) : KeyedBy field (m.insert k v) := by
  intro k' v' hlookup
  rw [lookup_insert_ite] at hlookup
  split at hlookup
  · next hk => rw [← Option.some.inj hlookup, hv, hk]
  · exact h k' v' hlookup

theorem KeyedBy.erase (h : KeyedBy field m) (k : K) : KeyedBy field (m.erase k) := by
  intro k' v' hlookup
  rw [lookup_erase_ite] at hlookup
  split at hlookup
  · exact absurd hlookup (by simp)
  · exact h k' v' hlookup

/-- A search by the field that names the key is a lookup. -/
theorem KeyedBy.find?_eq (h : KeyedBy field m) (q : V → Bool) (k : K) :
    (m.entries.find? fun x => decide (field x.2 = k) && q x.2).map (fun x => x.2) = (m.lookup k).filter q := by
  cases hfind : m.entries.find? fun x => decide (field x.2 = k) && q x.2 with
  | none =>
      rw [Option.map_none]
      cases hv : m.lookup k with
      | none => rfl
      | some v =>
          have hnot := List.find?_eq_none.mp hfind _ (AList.mem_lookup_iff.mp hv)
          have hq : ¬ q v = true := fun hq => hnot (by simp [h k v hv, hq])
          rw [Option.filter_some, if_neg hq]
  | some x =>
      have hx : m.lookup x.1 = some x.2 := AList.mem_lookup_iff.mpr (List.mem_of_find?_eq_some hfind)
      have hfound := List.find?_some hfind
      rw [Bool.and_eq_true, decide_eq_true_eq] at hfound
      obtain ⟨hk, hq⟩ := hfound
      rw [Option.map_some, ← hk, h x.1 x.2 hx, hx, Option.filter_some, if_pos hq]

end KeyedBy

end UnorderedMap

end Lib

/-!
# `Common.Yaml` — a tree that is read from a file

What the readers of a configuration use of `src/common/yaml`: the kinds of node, the two index operators, the size and
the conversion of a scalar. A number is read from its text by the stream operators of the standard library, which are a
parameter (`YamlNumbers`).
-/

namespace DvmHost

namespace Yaml

/-- `yaml::Node`. -/
inductive Node where
  | none
  | scalar (data : String)
  | sequence (items : List Node)
  | map (items : List (String × Node))

namespace Node

/-- `size`. -/
def size : Node → Nat
  | .sequence items => items.length
  | .map items => items.length
  | _ => 0

/-- `operator[]` of a key: the node is turned to a map, and a key that is missing is made. -/
def getKey (node : Node) (key : String) : Node :=
  match node with
  | .map items => ((items.find? fun item => item.1 = key).map Prod.snd).getD .none
  | _ => .none

/-- `operator[]` of an index, and the node as it is then: one that is not a sequence is turned to an empty one. -/
def getIndex (node : Node) (index : Nat) : Node × Node :=
  match node with
  | .sequence items => (items.getD index .none, .sequence items)
  | _ => (.none, .sequence [])

/-- `for (size_t i = 0; i < node.size(); i++)`, with `node[i]` in it: the nodes that are visited from `i` on. -/
def visit (node : Node) (i : Nat) : Nat → List Node
  | 0 => []
  | turns + 1 => if i < node.size then (node.getIndex i).1 :: visit (node.getIndex i).2 (i + 1) turns else []

/-- All that are visited. -/
def visited (node : Node) : List Node := node.visit 0 node.size

/-- `asString`. -/
def asString : Node → String
  | .scalar data => data
  | _ => ""

/-- `as<bool>`. -/
def asBool (node : Node) (defaultValue : Bool) : Bool :=
  if node.asString = "" then defaultValue
  else
    let data := node.asString.toLower
    data = "true" || data = "yes" || data = "1"

end Node

/-- `StringConverter<uint32_t>`: what the stream operators make of a text, or the default. -/
structure YamlNumbers where
  toUInt32 : String → UInt32 → UInt32

namespace Node

/-- A sequence is visited item by item. -/
theorem visit_sequence (items : List Node) (i turns : Nat) (h : i + turns = items.length) :
    visit (.sequence items) i turns = items.drop i := by
  induction turns generalizing i with
  | zero => exact (List.drop_of_length_le (by omega)).symm
  | succ turns ih =>
      have hi : i < items.length := by omega
      unfold visit
      rw [if_pos (show i < size (.sequence items) from hi), List.drop_eq_getElem_cons hi]
      show items.getD i .none :: visit (.sequence items) (i + 1) turns = _
      rw [ih (i + 1) (by omega)]
      simp [List.getD, hi]

theorem visited_sequence (items : List Node) : visited (.sequence items) = items :=
  visit_sequence items 0 items.length (Nat.zero_add _)

/-- A map that is taken for a list is visited once, and nothing of it is seen. -/
theorem visited_map {items : List (String × Node)} (h : items ≠ []) : visited (.map items) = [.none] := by
  have hpos := List.length_pos_iff.mpr h
  obtain ⟨n, hn⟩ := Nat.exists_eq_succ_of_ne_zero (Nat.ne_of_gt hpos)
  unfold visited
  rw [show size (.map items) = n + 1 from hn]
  unfold visit
  rw [if_pos (show 0 < size (.map items) from hpos)]
  cases n <;> rfl

theorem visited_eq_nil_iff {node : Node} : node.visited = [] ↔ node.size = 0 := by
  cases node with
  | none => exact iff_of_true rfl rfl
  | scalar data => exact iff_of_true rfl rfl
  | sequence items =>
      rw [visited_sequence]
      exact List.length_eq_zero_iff.symm
  | map items =>
      by_cases h : items = []
      · subst h
        exact iff_of_true rfl rfl
      · rw [visited_map h]
        exact iff_of_false (List.cons_ne_nil _ _) fun hzero => h (List.length_eq_zero_iff.mp hzero)

end Node

end Yaml

end DvmHost

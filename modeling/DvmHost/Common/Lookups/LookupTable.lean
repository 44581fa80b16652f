import Mathlib
import DvmHost.Common.Lookups.RadioIdLookup
import DvmHost.Common.Lookups.TalkgroupRulesLookup
import DvmHost.Common.Yaml

/-!
# `Common.Lookups.LookupTable` — the tables, their files and their mutex

`src/common/lookups/LookupTable.h` and the `load` functions of the three tables. A mutex is locked or not; a call that
has to lock one that is locked never returns (`none`). Log messages are left out.

The tables of radio ids and of channel identities are read from lines of tokens by the same code, which differs in how
many tokens it takes and what it makes of them (`LineFormat`). A token that the line does not have is read from beyond
the vector: what is there is a parameter, and `overread` keeps that it was read.
-/

namespace DvmHost

open Lib

/-! ## The mutex -/

/-- The members of `class LookupTable<T>` that the calls work on. -/
structure LookupTable (T : Type) where
  m_table : UnorderedMap UInt32 T
  locked : Bool
  overread : Bool

/-- What a call returns. -/
inductive TableAnswer (T : Type) where
  | loaded (ret : Bool)
  | found (entry : T)
  | listed (ret : Bool)
  | done

namespace LookupTable

variable {T : Type}

/-- `m_mutex.lock()`. -/
def lock (t : LookupTable T) : Option (LookupTable T) := if t.locked then none else some { t with locked := true }

/-- `m_mutex.unlock()`. -/
def unlock (t : LookupTable T) : LookupTable T := { t with locked := false }

/-- `clear`. -/
def clear (t : LookupTable T) : Option (LookupTable T) := do
  let t ← t.lock
  return { t with m_table := ∅ }.unlock

/-- `hasEntry`: both of its ways out are behind `lock` and before `unlock`. -/
def hasEntry (t : LookupTable T) (id : UInt32) : Option (TableAnswer T × LookupTable T) := do
  let t ← t.lock
  match t.m_table.lookup id with
  | some _ => return (.listed true, t)
  | none => return (.listed false, t)

/-! ## Files of lines -/

/-- `std::getline`, until there are no lines. -/
def getlines : List Char → List (List Char)
  | [] => []
  | c :: cs =>
      if c = '\n' then [] :: getlines cs
      else
        match getlines cs with
        | [] => [[c]]
        | line :: lines => (c :: line) :: lines

/-- The lines of `load` that take a line apart at its commas: an empty token is dropped. -/
def tokenize (line : List Char) : List (List Char) :=
  let (parsed, next) := line.foldl (fun (parsed, next) c =>
    if c = ',' then if next ≠ [] then (parsed ++ [next], []) else (parsed, next) else (parsed, next ++ [c])) ([], [])
  if next ≠ [] then parsed ++ [next] else parsed

/-- `isspace`. -/
def isspace (c : Char) : Bool := c = ' ' || ('\t' ≤ c && c ≤ '\r')

/-- `atoi`, as the bits of the `int`: a number too large for a `long` is the largest, and is then cut to 32 bits. -/
def atoi (s : List Char) : UInt32 :=
  let s := s.dropWhile isspace
  let value (digits : List Char) : Nat :=
    (digits.takeWhile Char.isDigit).foldl (fun n c => n * 10 + (c.toNat - '0'.toNat)) 0
  match s with
  | '-' :: digits => 0 - UInt32.ofNat (min (value digits) (2 ^ 63))
  | '+' :: digits => UInt32.ofNat (min (value digits) (2 ^ 63 - 1))
  | digits => UInt32.ofNat (min (value digits) (2 ^ 63 - 1))

/-- What a table makes of the tokens of a line: the number of tokens that it takes, and the entry with its id, which
    depend on these tokens alone. -/
structure LineFormat (T : Type) where
  need : Nat
  entryOf : (Nat → List Char) → UInt32 × T
  reads : ∀ f g, (∀ k < need, f k = g k) → entryOf f = entryOf g

variable (format : LineFormat T) (beyond : List Char)

/-- One turn of the loop of `load`. -/
def loadLine (t : LookupTable T) (line : List Char) : LookupTable T :=
  match line with
  | [] => t
  | c :: _ =>
      if c = '#' then t
      else
        let parsed := tokenize line
        let (id, entry) := format.entryOf fun k => parsed.getD k beyond
        { t with
          m_table := t.m_table.insert id entry
          overread := t.overread || decide (parsed.length < format.need) }

/-- `load`; there is no content where no file is named or it cannot be opened. -/
def load (t : LookupTable T) (content : Option (List Char)) : Option (TableAnswer T × LookupTable T) :=
  match content with
  | none => some (.loaded false, t)
  | some content => do
      let t ← t.clear
      let t ← t.lock
      let t := ((getlines content).foldl (loadLine format beyond) t).unlock
      if t.m_table.keys.length = 0 then return (.loaded false, t)
      return (.loaded true, t)

end LookupTable

/-! ## Radio ids -/

namespace RadioIdLookup

open LookupTable (atoi LineFormat)

/-- What `RadioIdLookup::load` reads: the id, and whether the radio is enabled. -/
def lineFormat : LineFormat RadioId where
  need := 2
  entryOf parsed := (atoi (parsed 0), { radioEnabled := atoi (parsed 1) = 1, radioDefault := false })
  reads f g h := by rw [h 0 (by decide), h 1 (by decide)]

/-- A call on a `RadioIdLookup`. -/
inductive Call where
  | load (content : Option (List Char))
  | find (id : UInt32)
  | hasEntry (id : UInt32)
  | addEntry (id : UInt32) (enabled : Bool)

/-- A call with its mutex. The two P25 ids are answered before it is locked. -/
def exec (beyond : List Char) (t : LookupTable RadioId) :
    Call → Option (TableAnswer RadioId × LookupTable RadioId)
  | .load content => t.load lineFormat beyond content
  | .hasEntry id => t.hasEntry id
  | .find id =>
      if id = P25_WUID_ALL ∨ id = P25_WUID_FNE then some (.found (find ⟨t.m_table⟩ id), t)
      else do
        let t ← t.lock
        return (.found (find ⟨t.m_table⟩ id), t.unlock)
  | .addEntry id enabled =>
      if id = P25_WUID_ALL ∨ id = P25_WUID_FNE then some (.done, t)
      else do
        let t ← t.lock
        return (.done, { t with m_table := (addEntry ⟨t.m_table⟩ id enabled).m_table }.unlock)

end RadioIdLookup

/-! ## Channel identities -/

/-- The `float` of the identities: what is read from a text, and what `IdenTableLookup` does with it. -/
structure Floats where
  F : Type
  atof : List Char → F
  isZero : F → Bool
  half : F → F
  lt : F → F → Bool
  eighth : F
  hundred25k : F
  twelveHalf : F
  zero : F

namespace IdenTableLookup

open LookupTable (atoi LineFormat)

variable (fl : Floats)

/-- `class IdenTable`. -/
structure IdenTable where
  channelId : UInt8
  baseFrequency : UInt32
  chSpaceKhz : fl.F
  txOffsetMhz : fl.F
  chBandwidthKhz : fl.F

/-- The channel spacing, clamped to 125 Hz and 125 kHz. -/
def clampSpace (chSpaceKhz : fl.F) : fl.F :=
  let chSpaceKhz := if fl.lt chSpaceKhz fl.eighth then fl.eighth else chSpaceKhz
  if fl.lt fl.hundred25k chSpaceKhz then fl.hundred25k else chSpaceKhz

/-- What `IdenTableLookup::load` reads: five tokens, the first of them an octet. -/
def lineFormat : LineFormat (IdenTable fl) where
  need := 5
  entryOf parsed :=
    let channelId := (atoi (parsed 0)).toUInt8
    let chBandwidthKhz := fl.atof (parsed 4)
    let chSpaceKhz := fl.atof (parsed 2)
    let chSpaceKhz := if fl.isZero chSpaceKhz then fl.half chBandwidthKhz else chSpaceKhz
    (channelId.toUInt32,
      { channelId := channelId
        baseFrequency := atoi (parsed 1)
        chSpaceKhz := clampSpace fl chSpaceKhz
        txOffsetMhz := fl.atof (parsed 3)
        chBandwidthKhz := chBandwidthKhz })
  reads f g h := by
    rw [h 0 (by decide), h 1 (by decide), h 2 (by decide), h 3 (by decide), h 4 (by decide)]

/-- `find`, of a table that is locked: an id that is not listed has the values of a new entry. -/
def find (m_table : UnorderedMap UInt32 (IdenTable fl)) (id : UInt32) : IdenTable fl :=
  let entry := (m_table.lookup id).getD
    { channelId := 0, baseFrequency := 0, chSpaceKhz := fl.zero, txOffsetMhz := fl.zero, chBandwidthKhz := fl.zero }
  { entry with
    chBandwidthKhz := if fl.isZero entry.chBandwidthKhz then fl.twelveHalf else entry.chBandwidthKhz
    chSpaceKhz := clampSpace fl entry.chSpaceKhz }

/-- A call on an `IdenTableLookup`. -/
inductive Call where
  | load (content : Option (List Char))
  | find (id : UInt32)
  | hasEntry (id : UInt32)

/-- A call with its mutex. -/
def exec (beyond : List Char) (t : LookupTable (IdenTable fl)) :
    Call → Option (TableAnswer (IdenTable fl) × LookupTable (IdenTable fl))
  | .load content => t.load (lineFormat fl) beyond content
  | .hasEntry id => t.hasEntry id
  | .find id => do
      let t ← t.lock
      return (.found (find fl t.m_table id), t.unlock)

end IdenTableLookup

/-! ## Talkgroup rules -/

namespace Rules

open Yaml (Node YamlNumbers)

variable (num : YamlNumbers)

/-- `node.as<uint32_t>(0U)`. -/
def asUInt32 (node : Node) : UInt32 := num.toUInt32 node.asString 0

/-- `TalkgroupRuleGroupVoiceSource(node)`. -/
def sourceOf (node : Node) : TalkgroupRuleGroupVoiceSource :=
  { tgId := asUInt32 num (node.getKey "tgid"), tgSlot := (asUInt32 num (node.getKey "slot")).toUInt8 }

/-- `TalkgroupRuleRewrite(node)`. -/
def rewriteOf (node : Node) : TalkgroupRuleRewrite :=
  { peerId := asUInt32 num (node.getKey "peerId")
    tgId := asUInt32 num (node.getKey "tgid")
    tgSlot := (asUInt32 num (node.getKey "slot")).toUInt8 }

/-- `TalkgroupRuleConfig(node)`. -/
def configOf (node : Node) : TalkgroupRuleConfig :=
  { active := (node.getKey "active").asBool false
    parrot := (node.getKey "parrot").asBool false
    inclusion := (node.getKey "inclusion").visited.map (asUInt32 num)
    exclusion := (node.getKey "exclusion").visited.map (asUInt32 num)
    rewrite := (node.getKey "rewrite").visited.map (rewriteOf num) }

/-- `TalkgroupRuleGroupVoice(node)`: what is read is assigned to the members of a new rule. -/
def groupVoiceOf (node : Node) : TalkgroupRuleGroupVoice :=
  { name := (node.getKey "name").asString
    config := TalkgroupRuleConfig.assign {} (configOf num (node.getKey "config"))
    source := sourceOf num (node.getKey "source") }

/-- The members of `class TalkgroupRulesLookup` that the calls work on. -/
structure RulesLookup where
  groupVoice : List TalkgroupRuleGroupVoice
  locked : Bool

namespace RulesLookup

/-- `m_mutex.lock()`. -/
def lock (t : RulesLookup) : Option RulesLookup := if t.locked then none else some { t with locked := true }

/-- `m_mutex.unlock()`. -/
def unlock (t : RulesLookup) : RulesLookup := { t with locked := false }

/-- `clear`. -/
def clear (t : RulesLookup) : Option RulesLookup := do
  let t ← t.lock
  return { t with groupVoice := [] }.unlock

/-- `load`; there is no tree where no file is named, or it cannot be opened or parsed. An empty list is given up on
    behind `lock` and before `unlock`. -/
def load (t : RulesLookup) (root : Option Node) : Option (TableAnswer TalkgroupRuleGroupVoice × RulesLookup) :=
  match root with
  | none => some (.loaded false, t)
  | some root => do
      let t ← t.clear
      let t ← t.lock
      let groupVoiceList := root.getKey "groupVoice"
      if groupVoiceList.size = 0 then return (.loaded false, t)
      let t := { t with groupVoice := t.groupVoice ++ groupVoiceList.visited.map (groupVoiceOf num) }.unlock
      if t.groupVoice.length = 0 then return (.loaded false, t)
      return (.loaded true, t)

/-- A call on a `TalkgroupRulesLookup`. -/
inductive Call where
  | load (root : Option Node)
  | find (id : UInt32) (slot : UInt8)
  | addEntry (id : UInt32) (slot : UInt8) (enabled : Bool)
  | addRule (entry : TalkgroupRuleGroupVoice)
  | eraseEntry (id : UInt32) (slot : UInt8)

/-- A call with its mutex. An invalid rule is passed over before it is locked. -/
def exec (t : RulesLookup) : Call → Option (TableAnswer TalkgroupRuleGroupVoice × RulesLookup)
  | .load root => t.load num root
  | .find id slot => do
      let t ← t.lock
      return (.found (find t.groupVoice id slot), t.unlock)
  | .addEntry id slot enabled => do
      let t ← t.lock
      return (.done, { t with groupVoice := addEntry t.groupVoice id slot enabled }.unlock)
  | .addRule entry =>
      if entry.isInvalid then some (.done, t)
      else do
        let t ← t.lock
        return (.done, { t with groupVoice := addRule t.groupVoice entry }.unlock)
  | .eraseEntry id slot => do
      let t ← t.lock
      return (.done, { t with groupVoice := eraseEntry t.groupVoice id slot }.unlock)

end RulesLookup

end Rules

end DvmHost

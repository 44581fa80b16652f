/-!
# `Common.Lookups.TalkgroupRulesLookup` — the talkgroup rules

`src/common/lookups/TalkgroupRulesLookup.{h,cpp}`: the rules in the order of the vector that is searched. The
names and the rewrite lists of the rules are left out.
-/

namespace DvmHost

/-- `class TalkgroupRuleGroupVoiceSource`. -/
structure TalkgroupRuleGroupVoiceSource where
  tgId : UInt32 := 0
  tgSlot : UInt8 := 0

/-- `class TalkgroupRuleConfig`. -/
structure TalkgroupRuleConfig where
  active : Bool := false
  parrot : Bool := false
  inclusion : List UInt32 := []
  exclusion : List UInt32 := []

/-- `class TalkgroupRuleGroupVoice`. -/
structure TalkgroupRuleGroupVoice where
  config : TalkgroupRuleConfig := {}
  source : TalkgroupRuleGroupVoiceSource := {}

/-- The tables of `class TalkgroupRulesLookup`. -/
structure TalkgroupRulesLookup where
  sendTalkgroups : Bool := false
  groupVoice : List TalkgroupRuleGroupVoice := []

/-- `TalkgroupRuleGroupVoice::isInvalid`. -/
def TalkgroupRuleGroupVoice.isInvalid (tg : TalkgroupRuleGroupVoice) : Bool := tg.source.tgId = 0

namespace TalkgroupRulesLookup

/-- `find`: the slot counts when it is not zero. -/
def find (l : TalkgroupRulesLookup) (id : UInt32) (slot : UInt8) : TalkgroupRuleGroupVoice :=
  (l.groupVoice.find? fun x =>
    if slot ≠ 0 then x.source.tgId = id ∧ x.source.tgSlot = slot else x.source.tgId = id).getD {}

/-- `addEntry` of an id and a slot: the first entry that `find` would find is changed, or a new one comes last. -/
def addEntry (l : TalkgroupRulesLookup) (id : UInt32) (slot : UInt8) (enabled : Bool) : TalkgroupRulesLookup :=
  let it := l.groupVoice.findIdx fun x =>
    if slot ≠ 0 then x.source.tgId = id ∧ x.source.tgSlot = slot else x.source.tgId = id
  if it < l.groupVoice.length then
    { l with groupVoice := l.groupVoice.modify it fun x =>
        { x with config := { x.config with active := enabled }, source := { tgId := id, tgSlot := slot } } }
  else
    { l with groupVoice := l.groupVoice ++
        [{ config := { active := enabled }, source := { tgId := id, tgSlot := slot } }] }

/-- `eraseEntry`: the slot always counts. -/
def eraseEntry (l : TalkgroupRulesLookup) (id : UInt32) (slot : UInt8) : TalkgroupRulesLookup :=
  { l with groupVoice := l.groupVoice.eraseP fun x => x.source.tgId = id ∧ x.source.tgSlot = slot }

end TalkgroupRulesLookup

namespace TalkgroupRuleGroupVoice

/-- Whether the lists of a rule let a peer take part; the inclusion list goes before the exclusion list. -/
def permits (tg : TalkgroupRuleGroupVoice) (peerId : UInt32) : Bool :=
  if tg.config.inclusion.length > 0 then tg.config.inclusion.contains peerId
  else if tg.config.exclusion.length > 0 then !tg.config.exclusion.contains peerId
  else true

end TalkgroupRuleGroupVoice

namespace Rules

/-- `class TalkgroupRuleRewrite`. -/
structure TalkgroupRuleRewrite where
  peerId : UInt32 := 0
  tgId : UInt32 := 0
  tgSlot : UInt8 := 0
deriving DecidableEq

/-- `class TalkgroupRuleConfig`. -/
structure TalkgroupRuleConfig extends DvmHost.TalkgroupRuleConfig where
  rewrite : List TalkgroupRuleRewrite := []

/-- `TalkgroupRuleConfig::operator=`. -/
def TalkgroupRuleConfig.assign (config data : TalkgroupRuleConfig) : TalkgroupRuleConfig :=
  { active := data.active
    parrot := data.parrot
    inclusion := data.inclusion
    exclusion := data.exclusion
    rewrite := config.rewrite }

/-- `class TalkgroupRuleGroupVoice`. -/
structure TalkgroupRuleGroupVoice where
  name : String := ""
  config : TalkgroupRuleConfig := {}
  source : TalkgroupRuleGroupVoiceSource := {}

namespace TalkgroupRuleGroupVoice

/-- `TalkgroupRuleGroupVoice::operator=`. -/
def assign (entry data : TalkgroupRuleGroupVoice) : TalkgroupRuleGroupVoice :=
  { name := data.name, config := entry.config.assign data.config, source := data.source }

/-- `isInvalid`. -/
def isInvalid (tg : TalkgroupRuleGroupVoice) : Bool := tg.source.tgId = 0

/-- The talkgroup and the slot. -/
def key (tg : TalkgroupRuleGroupVoice) : UInt32 × UInt8 := (tg.source.tgId, tg.source.tgSlot)

end TalkgroupRuleGroupVoice

/-- The test of `addEntry` and `find`: the slot counts when it is not zero. -/
def answers (id : UInt32) (slot : UInt8) (x : TalkgroupRuleGroupVoice) : Bool :=
  if slot ≠ 0 then x.source.tgId = id ∧ x.source.tgSlot = slot else x.source.tgId = id

/-- The entry that `addEntry` makes of the one that it finds. -/
def merged (id : UInt32) (slot : UInt8) (enabled : Bool) (it : TalkgroupRuleGroupVoice) : TalkgroupRuleGroupVoice :=
  let config : TalkgroupRuleConfig := TalkgroupRuleConfig.assign { active := enabled } it.config
  let config := { config with active := enabled }
  { it with config := it.config.assign config, source := { tgId := id, tgSlot := slot } }

/-- The entry that `addEntry` makes where it finds none. -/
def fresh (id : UInt32) (slot : UInt8) (enabled : Bool) : TalkgroupRuleGroupVoice :=
  { config := TalkgroupRuleConfig.assign {} { active := enabled }, source := { tgId := id, tgSlot := slot } }

/-- `addEntry` of an id and a slot. -/
def addEntry (groupVoice : List TalkgroupRuleGroupVoice) (id : UInt32) (slot : UInt8) (enabled : Bool) :
    List TalkgroupRuleGroupVoice :=
  let it := groupVoice.findIdx (answers id slot)
  if it < groupVoice.length then groupVoice.modify it fun x => x.assign (merged id slot enabled x)
  else groupVoice ++ [fresh id slot enabled]

/-- `addEntry` of a rule: an invalid one is passed over. -/
def addRule (groupVoice : List TalkgroupRuleGroupVoice) (entry : TalkgroupRuleGroupVoice) :
    List TalkgroupRuleGroupVoice :=
  if entry.isInvalid then groupVoice
  else
    let it := groupVoice.findIdx (answers entry.source.tgId entry.source.tgSlot)
    if it < groupVoice.length then groupVoice.modify it fun x => x.assign entry
    else groupVoice ++ [entry]

/-- The end of `std::vector::erase`: every later entry is assigned to the one before it, and the last goes. -/
def shiftDown : List TalkgroupRuleGroupVoice → List TalkgroupRuleGroupVoice
  | [] => []
  | [_] => []
  | x :: y :: rest => x.assign y :: shiftDown (y :: rest)

/-- `eraseEntry`: the slot always counts. -/
def eraseEntry (groupVoice : List TalkgroupRuleGroupVoice) (id : UInt32) (slot : UInt8) :
    List TalkgroupRuleGroupVoice :=
  let it := groupVoice.findIdx fun x => x.source.tgId = id ∧ x.source.tgSlot = slot
  groupVoice.take it ++ shiftDown (groupVoice.drop it)

/-- `find`: the entry is assigned to one that is new. -/
def find (groupVoice : List TalkgroupRuleGroupVoice) (id : UInt32) (slot : UInt8) : TalkgroupRuleGroupVoice :=
  match groupVoice.find? (answers id slot) with
  | some it => TalkgroupRuleGroupVoice.assign {} it
  | none => TalkgroupRuleGroupVoice.assign {} {}

end Rules

end DvmHost

import DvmHost.Lib.UnorderedMap

/-!
# `Common.Lookups.RadioIdLookup` — the table of known radio ids

`src/common/lookups/RadioIdLookup.{h,cpp}`. An id that is not listed is found as a default entry, which the
access checks let pass; the two well-known P25 ids are always enabled.
-/

namespace DvmHost

open Lib

/-- `P25_WUID_FNE`. -/
def P25_WUID_FNE : UInt32 := 0xFFFFFC

/-- `P25_WUID_ALL`. -/
def P25_WUID_ALL : UInt32 := 0xFFFFFF

/-- `class RadioId`. -/
structure RadioId where
  radioEnabled : Bool := false
  radioDefault : Bool := false
deriving DecidableEq

/-- The table of `class RadioIdLookup`. -/
structure RadioIdLookup where
  m_table : UnorderedMap UInt32 RadioId

namespace RadioIdLookup

/-- `find`. -/
def find (l : RadioIdLookup) (id : UInt32) : RadioId :=
  if id = P25_WUID_ALL ∨ id = P25_WUID_FNE then { radioEnabled := true, radioDefault := false }
  else (l.m_table.lookup id).getD { radioEnabled := false, radioDefault := true }

/-- The check that every handler makes of a radio id: `false` for a listed id that is disabled. -/
def isAllowed (l : RadioIdLookup) (id : UInt32) : Bool :=
  let rid := l.find id
  rid.radioDefault || rid.radioEnabled

/-- `addEntry`. -/
def addEntry (l : RadioIdLookup) (id : UInt32) (enabled : Bool) : RadioIdLookup :=
  if id = P25_WUID_ALL ∨ id = P25_WUID_FNE then l
  else
    let entry : RadioId := { radioEnabled := enabled, radioDefault := false }
    match l.m_table.lookup id with
    | some _entry =>
        -- if the enabled value does not match, it is overridden
        if _entry.radioEnabled ≠ enabled then { l with m_table := l.m_table.insert id entry } else l
    | none => { l with m_table := l.m_table.insert id entry }

/-- `toggleEntry`, which logs what it does. -/
def toggleEntry (l : RadioIdLookup) (id : UInt32) (enabled : Bool) : RadioIdLookup := l.addEntry id enabled

end RadioIdLookup

end DvmHost

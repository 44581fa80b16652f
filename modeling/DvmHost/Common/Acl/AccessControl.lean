import DvmHost.Common.Lookups.RadioIdLookup
import DvmHost.Common.Lookups.TalkgroupRulesLookup

/-!
# `Common.Acl.AccessControl` — which radios and talkgroups a site accepts

`src/common/{dmr,p25,nxdn}/acl/AccessControl.cpp`, over the two lookups, each with the flag that turns its list into the
list of what is accepted. DMR looks the talkgroup up without its slot, which is then compared.
-/

namespace DvmHost

namespace Dmr

/-- The static members of `class AccessControl`, and `getACL` of the two lookups. -/
structure AccessControl where
  ridLookup : RadioIdLookup
  ridACL : Bool
  tidLookup : TalkgroupRulesLookup
  tidACL : Bool

namespace AccessControl

/-- `validateSrcId`: without the access list, only a listed radio that is disabled is refused. -/
def validateSrcId (acl : AccessControl) (id : UInt32) : Bool :=
  let rid := acl.ridLookup.find id
  if !acl.ridACL then !(!rid.radioDefault && !rid.radioEnabled) else rid.radioEnabled

/-- `validateTGId`. -/
def validateTGId (acl : AccessControl) (slotNo : UInt8) (id : UInt32) : Bool :=
  if id = 0 then false
  else if !acl.tidACL then true
  else
    let tid := acl.tidLookup.find id 0
    if tid.isInvalid then false
    else if !tid.config.active then false
    else slotNo = 0 || tid.source.tgSlot = slotNo

end AccessControl

end Dmr

namespace P25

/-- The static members of `class AccessControl`, and `getACL` of the two lookups. -/
structure AccessControl where
  ridLookup : RadioIdLookup
  ridACL : Bool
  tidLookup : TalkgroupRulesLookup
  tidACL : Bool

namespace AccessControl

/-- `validateSrcId`: without the access list, only a listed radio that is disabled is refused. -/
def validateSrcId (acl : AccessControl) (id : UInt32) : Bool :=
  let rid := acl.ridLookup.find id
  if !acl.ridACL then !(!rid.radioDefault && !rid.radioEnabled) else rid.radioEnabled

/-- `validateTGId`. -/
def validateTGId (acl : AccessControl) (id : UInt32) : Bool :=
  if id = 0 then false
  else if !acl.tidACL then true
  else
    let tid := acl.tidLookup.find id 0
    if tid.isInvalid then false else tid.config.active

end AccessControl

end P25

namespace Nxdn

/-- The static members of `class AccessControl`, and `getACL` of the two lookups. -/
structure AccessControl where
  ridLookup : RadioIdLookup
  ridACL : Bool
  tidLookup : TalkgroupRulesLookup
  tidACL : Bool

namespace AccessControl

/-- `validateSrcId`: without the access list, only a listed radio that is disabled is refused. -/
def validateSrcId (acl : AccessControl) (id : UInt32) : Bool :=
  let rid := acl.ridLookup.find id
  if !acl.ridACL then !(!rid.radioDefault && !rid.radioEnabled) else rid.radioEnabled

/-- `validateTGId`. -/
def validateTGId (acl : AccessControl) (id : UInt32) : Bool :=
  if id = 0 then false
  else if !acl.tidACL then true
  else
    let tid := acl.tidLookup.find id 0
    if tid.isInvalid then false else tid.config.active

@[simp] theorem validateTGId_zero (acl : AccessControl) : acl.validateTGId 0 = false := rfl

end AccessControl

end Nxdn

end DvmHost

import DvmHost.Common.Lookups.AffiliationLookup

/-!
# `Host.Dmr.Lookups.DMRAffiliationLookup` — channel grants with TDMA slots

`src/host/dmr/lookups/DMRAffiliationLookup.{h,cpp}`. A DMR channel carries two slots, one of which may be
reserved for the control channel (TSCC). `grantChSlotTable` records the slot of every grant; a channel
leaves the free list only when no slot of it is left before the grant, or when it carries the TSCC.
-/

namespace DvmHost

open Lib

/-- The tables of `class DMRAffiliationLookup`. -/
structure DMRAffiliationLookup extends AffiliationLookup where
  grantChSlotTable : UnorderedMap UInt32 (UInt32 × UInt8)
  tsccChNo : UInt32
  tsccSlot : UInt8

namespace DMRAffiliationLookup

/-- `DMRAffiliationLookup(verbose)`. -/
def new : DMRAffiliationLookup :=
  { toAffiliationLookup := .new, grantChSlotTable := ∅, tsccChNo := 0, tsccSlot := 0 }

/-- `setSlotForChannelTSCC`: only slots 1 and 2 are taken. -/
def setSlotForChannelTSCC (s : DMRAffiliationLookup) (chNo : UInt32) (slot : UInt8) :
    DMRAffiliationLookup :=
  if slot = 0 ∨ slot > 2 then s else { s with tsccChNo := chNo, tsccSlot := slot }

/-- `addRFCh`, inherited. -/
def addRFCh (s : DMRAffiliationLookup) (chNo : UInt32) : DMRAffiliationLookup :=
  { s with toAffiliationLookup := s.toAffiliationLookup.addRFCh chNo }

/-- The locals of the loop in `getAvailableSlotForChannel`. -/
structure SlotScan where
  slot : UInt8
  grantedSlot : Bool
  slotCount : Nat
deriving DecidableEq, Repr

/-- `switch (slot) { case 1: 2; case 2: 1; }`, the slot opposite. -/
def opposite (slot : UInt8) : UInt8 :=
  match slot with
  | 1 => 2
  | 2 => 1
  | _ => slot

/-- One slot of the wanted channel, as the loop meets it: a slot equal to the running answer flips it. -/
def scanSlot (r : SlotScan) (foundSlot : UInt8) : SlotScan :=
  if r.slot = foundSlot then ⟨opposite foundSlot, true, r.slotCount + 1⟩ else r

/-- The slots granted on a channel, in the iteration order of the slot table. -/
def slotsOn (s : DMRAffiliationLookup) (chNo : UInt32) : List UInt8 :=
  s.grantChSlotTable.entries.filterMap (fun e => if e.2.1 = chNo then some e.2.2 else none)

/-- The loop of `getAvailableSlotForChannel`, which starts from slot 1. -/
def scanSlots (foundSlots : List UInt8) : SlotScan := foundSlots.foldl scanSlot ⟨1, false, 0⟩

/-- `getAvailableSlotForChannel`. -/
def getAvailableSlotForChannel (s : DMRAffiliationLookup) (chNo : UInt32) : UInt8 :=
  if chNo = 0 then 0
  else
    let r := scanSlots (s.slotsOn chNo)
    if r.slotCount = 2 then 0
    else if chNo = s.tsccChNo ∧ r.slot = s.tsccSlot then
      -- nothing granted: use the slot opposing the TSCC; otherwise the TSCC is not assignable
      if r.grantedSlot then 0 else opposite s.tsccSlot
    else r.slot

/-- `grantChSlot`. The channel is the front of the free list, and stays there unless no slot of it was
    available or it carries the TSCC. -/
def grantChSlot (s : DMRAffiliationLookup) (dstId srcId : UInt32) (slot : UInt8) (grantTimeout : UInt32)
    (grp netGranted : Bool) : Bool × DMRAffiliationLookup :=
  if dstId = 0 then (false, s)
  else match s.rfChTable with
    | [] => (false, s)
    | chNo :: _ =>
        if chNo = s.tsccChNo ∧ slot = s.tsccSlot then (false, s)
        else
          let free :=
            if s.getAvailableSlotForChannel chNo = 0 ∨ chNo = s.tsccChNo then s.rfChTable.erase chNo
            else s.rfChTable
          (true, { s with
            toAffiliationLookup := { s.toAffiliationLookup with rfChTable := free }.enterGrant chNo dstId
              srcId grantTimeout grp netGranted
            grantChSlotTable := s.grantChSlotTable.insert dstId (chNo, slot) })

/-- `grantCh`. `none` is the `std::out_of_range` that `m_rfChTable.at(0)` throws on an empty free list,
    before anything is written. -/
def grantCh (s : DMRAffiliationLookup) (dstId srcId grantTimeout : UInt32) (grp netGranted : Bool) :
    Option (Bool × DMRAffiliationLookup) :=
  match s.rfChTable with
  | [] => none
  | chNo :: _ =>
      let slot := s.getAvailableSlotForChannel chNo
      if slot = 0 then some (false, s)
      else some (s.grantChSlot dstId srcId slot grantTimeout grp netGranted)

/-- The part of `releaseGrant` for one destination. The channel returns to the free list unless it is
    still there. A missing slot entry makes `m_grantChSlotTable.at` throw before anything is written. -/
def releaseOne (s : DMRAffiliationLookup) (dstId : UInt32) : Bool × DMRAffiliationLookup :=
  if s.isGranted dstId then
    let chNo := (s.grantChTable.lookup dstId).getD 0
    match s.grantChSlotTable.lookup dstId with
    | none => (false, s)
    | some _ =>
        (true, { s with
          grantChTable := s.grantChTable.erase dstId
          grantSrcIdTable := s.grantSrcIdTable.erase dstId
          grantChSlotTable := s.grantChSlotTable.erase dstId
          netGrantedTable := s.netGrantedTable.erase dstId
          rfChTable := if chNo ∈ s.rfChTable then s.rfChTable else s.rfChTable ++ [chNo]
          rfGrantChCnt := if s.rfGrantChCnt > 0 then s.rfGrantChCnt - 1 else 0
          grantTimers := UnorderedMap.modify s.grantTimers dstId Timer.stop })
  else (false, s)

/-- `for (dstId : gntsToRel) releaseGrant(dstId, false)`. -/
def releaseEach (s : DMRAffiliationLookup) (gntsToRel : List UInt32) : DMRAffiliationLookup :=
  gntsToRel.foldl (fun s dstId => (s.releaseOne dstId).2) s

/-- `releaseGrant`. -/
def releaseGrant (s : DMRAffiliationLookup) (dstId : UInt32) (releaseAll : Bool) :
    Bool × DMRAffiliationLookup :=
  if dstId = 0 ∧ !releaseAll then (false, s)
  else if dstId = 0 ∧ releaseAll then (true, s.releaseEach s.grantChTable.keys)
  else s.releaseOne dstId

/-- `touchGrant`, inherited. -/
def touchGrant (s : DMRAffiliationLookup) (dstId : UInt32) : DMRAffiliationLookup :=
  { s with toAffiliationLookup := s.toAffiliationLookup.touchGrant dstId }

/-- `clock`, inherited; its `releaseGrant` is the override above. -/
def clock (s : DMRAffiliationLookup) (ms : UInt32) : DMRAffiliationLookup :=
  let (t, gntsToRel) := s.toAffiliationLookup.clockTimers ms
  { s with toAffiliationLookup := t }.releaseEach gntsToRel

/-- The same tables, with every map in an arbitrary iteration order. -/
structure SameTables (s t : DMRAffiliationLookup) : Prop where
  base : s.toAffiliationLookup.SameTables t.toAffiliationLookup
  grantChSlotTable : UnorderedMap.SameMap s.grantChSlotTable t.grantChSlotTable
  tsccChNo : s.tsccChNo = t.tsccChNo
  tsccSlot : s.tsccSlot = t.tsccSlot

theorem SameTables.refl (s : DMRAffiliationLookup) : SameTables s s := ⟨.refl _, .refl _, rfl, rfl⟩

end DMRAffiliationLookup

end DvmHost

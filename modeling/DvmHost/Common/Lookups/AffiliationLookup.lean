import DvmHost.Lib.UnorderedMap
import DvmHost.Common.Timer

/-!
# `Common.Lookups.AffiliationLookup` — the registration, affiliation and channel-grant tables

`src/common/lookups/AffiliationLookup.{h,cpp}`. The free RF channels are a vector used as a queue; a live
grant is spread over the maps keyed by destination. The maps are `unordered_map`s, so every loop over one
of them visits the entries in the order that map happens to have (`UnorderedMap.entries`).

The release callback and the log lines do not touch the tables and are left out, as are the lookups no
modelled operation reads, and the data of the channels.
-/

namespace DvmHost

open Lib

/-- The tables of `class AffiliationLookup`. -/
structure AffiliationLookup where
  rfChTable : List UInt32
  rfGrantChCnt : UInt8
  unitRegTable : List UInt32
  grpAffTable : UnorderedMap UInt32 UInt32
  grantChTable : UnorderedMap UInt32 UInt32
  grantSrcIdTable : UnorderedMap UInt32 UInt32
  uuGrantedTable : UnorderedMap UInt32 Bool
  netGrantedTable : UnorderedMap UInt32 Bool
  grantTimers : UnorderedMap UInt32 Timer

namespace AffiliationLookup

/-- `AffiliationLookup(name, verbose)`: every table is empty. -/
def new : AffiliationLookup := ⟨[], 0, [], ∅, ∅, ∅, ∅, ∅, ∅⟩

/-- `isUnitReg`. -/
def isUnitReg (s : AffiliationLookup) (srcId : UInt32) : Bool := srcId ∈ s.unitRegTable

/-- `unitReg`. -/
def unitReg (s : AffiliationLookup) (srcId : UInt32) : AffiliationLookup :=
  if s.isUnitReg srcId then s else { s with unitRegTable := s.unitRegTable ++ [srcId] }

/-- `isGroupAff`. -/
def isGroupAff (s : AffiliationLookup) (srcId dstId : UInt32) : Bool :=
  match s.grpAffTable.lookup srcId with
  | some tblDstId => tblDstId = dstId
  | none => false

/-- `groupAff`. -/
def groupAff (s : AffiliationLookup) (srcId dstId : UInt32) : AffiliationLookup :=
  if s.isGroupAff srcId dstId then s
  else { s with grpAffTable := s.grpAffTable.insert srcId dstId }

/-- `groupUnaff`. -/
def groupUnaff (s : AffiliationLookup) (srcId : UInt32) : Bool × AffiliationLookup :=
  match s.grpAffTable.lookup srcId with
  | some _ => (true, { s with grpAffTable := s.grpAffTable.erase srcId })
  | none => (false, s)

/-- `unitDereg`: drops the affiliation, then the first registration entry. -/
def unitDereg (s : AffiliationLookup) (srcId : UInt32) : Bool × AffiliationLookup :=
  if s.isUnitReg srcId then
    let t := (s.groupUnaff srcId).2
    (true, { t with unitRegTable := t.unitRegTable.erase srcId })
  else (false, s)

/-- `addRFCh`. -/
def addRFCh (s : AffiliationLookup) (chNo : UInt32) : AffiliationLookup :=
  { s with rfChTable := s.rfChTable ++ [chNo] }

/-- `removeRFCh`. The source's body is `m_rfChTable.push_back(chNo)`, as in `addRFCh`. -/
def removeRFCh (s : AffiliationLookup) (chNo : UInt32) : AffiliationLookup :=
  { s with rfChTable := s.rfChTable ++ [chNo] }

/-- `isRFChAvailable`. -/
def isRFChAvailable (s : AffiliationLookup) : Bool := !s.rfChTable.isEmpty

/-- `isGranted`: a grant of channel `0` does not count. -/
def isGranted (s : AffiliationLookup) (dstId : UInt32) : Bool :=
  if dstId = 0 then false
  else match s.grantChTable.lookup dstId with
    | some chNo => chNo ≠ 0
    | none => false

/-- `getGrantedCh`. -/
def getGrantedCh (s : AffiliationLookup) (dstId : UInt32) : UInt32 :=
  if dstId = 0 then 0
  else if s.isGranted dstId then (s.grantChTable.lookup dstId).getD 0
  else 0

/-- `getGrantedSrcId`. -/
def getGrantedSrcId (s : AffiliationLookup) (dstId : UInt32) : UInt32 :=
  if dstId = 0 then 0
  else if s.isGranted dstId then (s.grantSrcIdTable.lookup dstId).getD 0
  else 0

/-- `isGroup`. -/
def isGroup (s : AffiliationLookup) (dstId : UInt32) : Bool :=
  if dstId = 0 then true
  else match s.uuGrantedTable.lookup dstId with
    | some uu => !uu
    | none => true

/-- `grantSize`, a `uint8_t`. -/
def grantSize (s : AffiliationLookup) : UInt8 := s.grantChTable.keys.length.toUInt8

/-- The table writes of a grant that `grantCh` shares with its DMR override: the destination's entries, a
    fresh timer, and the grant counter (a `uint8_t`). -/
def enterGrant (s : AffiliationLookup) (chNo dstId srcId grantTimeout : UInt32) (grp netGranted : Bool) :
    AffiliationLookup :=
  { s with
    grantChTable := s.grantChTable.insert dstId chNo
    grantSrcIdTable := s.grantSrcIdTable.insert dstId srcId
    rfGrantChCnt := s.rfGrantChCnt + 1
    uuGrantedTable := s.uuGrantedTable.insert dstId (!grp)
    netGrantedTable := s.netGrantedTable.insert dstId netGranted
    grantTimers := s.grantTimers.insert dstId (Timer.new 1000 grantTimeout 0).start }

/-- `grantCh`: takes the channel at the front of the free list. Nothing asks whether the destination
    already holds one. -/
def grantCh (s : AffiliationLookup) (dstId srcId grantTimeout : UInt32) (grp netGranted : Bool) :
    Bool × AffiliationLookup :=
  if dstId = 0 then (false, s)
  else match s.rfChTable with
    | [] => (false, s)
    | chNo :: rest =>
        (true, { s with rfChTable := rest }.enterGrant chNo dstId srcId grantTimeout grp netGranted)

/-- `touchGrant`. -/
def touchGrant (s : AffiliationLookup) (dstId : UInt32) : AffiliationLookup :=
  if dstId = 0 then s
  else if s.isGranted dstId then
    { s with grantTimers := UnorderedMap.modify s.grantTimers dstId Timer.start }
  else s

/-- The part of `releaseGrant` for one destination: the channel returns to the end of the free list. -/
def releaseOne (s : AffiliationLookup) (dstId : UInt32) : Bool × AffiliationLookup :=
  if s.isGranted dstId then
    let chNo := (s.grantChTable.lookup dstId).getD 0
    (true, { s with
      grantChTable := s.grantChTable.erase dstId
      grantSrcIdTable := s.grantSrcIdTable.erase dstId
      uuGrantedTable := s.uuGrantedTable.erase dstId
      netGrantedTable := s.netGrantedTable.erase dstId
      rfChTable := s.rfChTable ++ [chNo]
      rfGrantChCnt := if s.rfGrantChCnt > 0 then s.rfGrantChCnt - 1 else 0
      grantTimers := UnorderedMap.modify s.grantTimers dstId Timer.stop })
  else (false, s)

/-- `for (dstId : gntsToRel) releaseGrant(dstId, false)`. -/
def releaseEach (s : AffiliationLookup) (gntsToRel : List UInt32) : AffiliationLookup :=
  gntsToRel.foldl (fun s dstId => (s.releaseOne dstId).2) s

/-- `releaseGrant`: destination `0` with `releaseAll` releases every entry of the grant table. -/
def releaseGrant (s : AffiliationLookup) (dstId : UInt32) (releaseAll : Bool) : Bool × AffiliationLookup :=
  if dstId = 0 ∧ !releaseAll then (false, s)
  else if dstId = 0 ∧ releaseAll then (true, s.releaseEach s.grantChTable.keys)
  else s.releaseOne dstId

/-- The first loop of `clock`: advances the timer of every granted destination, in iteration order, and
    collects those that have run out. -/
def clockTimers (s : AffiliationLookup) (ms : UInt32) : AffiliationLookup × List UInt32 :=
  s.grantChTable.keys.foldl (fun (s, gntsToRel) dstId =>
    let timers := UnorderedMap.modify s.grantTimers dstId (fun t => t.clock ms)
    let timer := (timers.lookup dstId).getD default
    ({ s with grantTimers := timers },
      if timer.isRunning && timer.hasExpired then gntsToRel ++ [dstId] else gntsToRel))
    (s, [])

/-- `clock`. -/
def clock (s : AffiliationLookup) (ms : UInt32) : AffiliationLookup :=
  let (t, gntsToRel) := s.clockTimers ms
  t.releaseEach gntsToRel

/-- The same tables, with every map in an arbitrary iteration order. -/
structure SameTables (s t : AffiliationLookup) : Prop where
  rfChTable : s.rfChTable = t.rfChTable
  rfGrantChCnt : s.rfGrantChCnt = t.rfGrantChCnt
  unitRegTable : s.unitRegTable = t.unitRegTable
  grpAffTable : UnorderedMap.SameMap s.grpAffTable t.grpAffTable
  grantChTable : UnorderedMap.SameMap s.grantChTable t.grantChTable
  grantSrcIdTable : UnorderedMap.SameMap s.grantSrcIdTable t.grantSrcIdTable
  uuGrantedTable : UnorderedMap.SameMap s.uuGrantedTable t.uuGrantedTable
  netGrantedTable : UnorderedMap.SameMap s.netGrantedTable t.netGrantedTable
  grantTimers : UnorderedMap.SameMap s.grantTimers t.grantTimers

theorem SameTables.refl (s : AffiliationLookup) : SameTables s s :=
  ⟨rfl, rfl, rfl, .refl _, .refl _, .refl _, .refl _, .refl _, .refl _⟩

/-! ## What the operations leave alone

The free list, the grant table and the counter are written by `grantCh`, `releaseGrant` and the two
channel operations only. -/

/-- `s` and `t` have the same channels, grants and counter. -/
structure SameGrants (s t : AffiliationLookup) : Prop where
  rfChTable : t.rfChTable = s.rfChTable
  rfGrantChCnt : t.rfGrantChCnt = s.rfGrantChCnt
  grantChTable : t.grantChTable = s.grantChTable

theorem SameGrants.rfl' {s : AffiliationLookup} : SameGrants s s := ⟨rfl, rfl, rfl⟩

theorem SameGrants.trans {s t u : AffiliationLookup} (h : SameGrants s t) (h' : SameGrants t u) :
    SameGrants s u :=
  ⟨h'.1.trans h.1, h'.2.trans h.2, h'.3.trans h.3⟩

theorem unitReg_sameGrants (s : AffiliationLookup) (srcId : UInt32) : SameGrants s (s.unitReg srcId) := by
  unfold unitReg; split <;> exact ⟨rfl, rfl, rfl⟩

theorem groupAff_sameGrants (s : AffiliationLookup) (srcId dstId : UInt32) :
    SameGrants s (s.groupAff srcId dstId) := by
  unfold groupAff; split <;> exact ⟨rfl, rfl, rfl⟩

theorem groupUnaff_sameGrants (s : AffiliationLookup) (srcId : UInt32) :
    SameGrants s (s.groupUnaff srcId).2 := by
  unfold groupUnaff; split <;> exact ⟨rfl, rfl, rfl⟩

theorem unitDereg_sameGrants (s : AffiliationLookup) (srcId : UInt32) :
    SameGrants s (s.unitDereg srcId).2 := by
  unfold unitDereg
  split
  · exact (groupUnaff_sameGrants s srcId).trans ⟨rfl, rfl, rfl⟩
  · exact .rfl'

theorem touchGrant_sameGrants (s : AffiliationLookup) (dstId : UInt32) :
    SameGrants s (s.touchGrant dstId) := by
  unfold touchGrant
  split
  · exact .rfl'
  · split <;> exact ⟨rfl, rfl, rfl⟩

/-- The timer loop of `clock` changes timers only. -/
theorem clockTimers_sameGrants (s : AffiliationLookup) (ms : UInt32) :
    SameGrants s (s.clockTimers ms).1 := by
  unfold clockTimers
  generalize s.grantChTable.keys = dsts
  suffices h : ∀ (t : AffiliationLookup) (acc : List UInt32), SameGrants s t → SameGrants s
      (dsts.foldl (fun (s, gntsToRel) dstId =>
        let timers := UnorderedMap.modify s.grantTimers dstId (fun t => t.clock ms)
        let timer := (timers.lookup dstId).getD default
        ({ s with grantTimers := timers },
          if timer.isRunning && timer.hasExpired then gntsToRel ++ [dstId] else gntsToRel))
        (t, acc)).1 from h s [] .rfl'
  induction dsts with
  | nil => intro t acc h; exact h
  | cons d ds ih => intro t acc h; exact ih _ _ (h.trans ⟨rfl, rfl, rfl⟩)

/-- `isGranted` reads the grant table: a granted destination is non-zero and holds a non-zero channel. -/
theorem isGranted_iff {s : AffiliationLookup} {dstId : UInt32} :
    s.isGranted dstId = true ↔ dstId ≠ 0 ∧ ∃ chNo, s.grantChTable.lookup dstId = some chNo ∧ chNo ≠ 0 := by
  unfold isGranted
  by_cases hd : dstId = 0
  · simp [hd]
  · cases h : s.grantChTable.lookup dstId with
    | none => simp [hd]
    | some chNo => simp [hd]

/-- A channel that is not zero is the one that the table holds. -/
theorem getGrantedCh_pos {s : AffiliationLookup} {dstId : UInt32} (h : s.getGrantedCh dstId > 0) :
    s.isGranted dstId = true ∧ s.grantChTable.lookup dstId = some (s.getGrantedCh dstId) := by
  unfold getGrantedCh at h ⊢
  split at h
  · exact absurd h (by decide)
  · next hd =>
      split at h
      · next hgranted =>
          obtain ⟨-, chNo, hlookup, -⟩ := isGranted_iff.mp hgranted
          rw [if_neg hd, if_pos hgranted, hlookup]
          exact ⟨hgranted, rfl⟩
      · exact absurd h (by decide)

/-- Whether a destination is granted is read off the grant table. -/
theorem isGranted_congr {s t : AffiliationLookup} {dstId : UInt32}
    (h : t.grantChTable.lookup dstId = s.grantChTable.lookup dstId) : t.isGranted dstId = s.isGranted dstId := by
  unfold isGranted
  rw [h]

theorem SameGrants.isGranted {s t : AffiliationLookup} (h : SameGrants s t) (dstId : UInt32) :
    t.isGranted dstId = s.isGranted dstId := isGranted_congr (by rw [h.grantChTable])

/-! ## The registered units -/

/-- Grants and their timers leave the registrations alone. -/
theorem grantCh_units (s : AffiliationLookup) (dstId srcId grantTimeout : UInt32) (grp netGranted : Bool) :
    (s.grantCh dstId srcId grantTimeout grp netGranted).2.unitRegTable = s.unitRegTable := by
  unfold grantCh
  split
  · rfl
  · split <;> rfl

theorem touchGrant_units (s : AffiliationLookup) (dstId : UInt32) :
    (s.touchGrant dstId).unitRegTable = s.unitRegTable := by
  unfold touchGrant
  split
  · rfl
  · split <;> rfl

theorem releaseOne_units (s : AffiliationLookup) (dstId : UInt32) :
    (s.releaseOne dstId).2.unitRegTable = s.unitRegTable := by
  unfold releaseOne
  split <;> rfl

theorem releaseEach_units (s : AffiliationLookup) (dsts : List UInt32) :
    (s.releaseEach dsts).unitRegTable = s.unitRegTable := by
  unfold releaseEach
  induction dsts generalizing s with
  | nil => rfl
  | cons d ds ih => exact (ih _).trans (releaseOne_units s d)

theorem releaseGrant_units (s : AffiliationLookup) (dstId : UInt32) (releaseAll : Bool) :
    (s.releaseGrant dstId releaseAll).2.unitRegTable = s.unitRegTable := by
  unfold releaseGrant
  split
  · rfl
  · split
    · exact releaseEach_units s _
    · exact releaseOne_units s dstId

/-- The timer loop of `clock` registers nobody. -/
theorem clockTimers_units (s : AffiliationLookup) (ms : UInt32) :
    (s.clockTimers ms).1.unitRegTable = s.unitRegTable := by
  unfold clockTimers
  generalize s.grantChTable.keys = dsts
  suffices h : ∀ (t : AffiliationLookup) (acc : List UInt32), t.unitRegTable = s.unitRegTable →
      (dsts.foldl (fun (s, gntsToRel) dstId =>
        let timers := UnorderedMap.modify s.grantTimers dstId (fun t => t.clock ms)
        let timer := (timers.lookup dstId).getD default
        ({ s with grantTimers := timers },
          if timer.isRunning && timer.hasExpired then gntsToRel ++ [dstId] else gntsToRel))
        (t, acc)).1.unitRegTable = s.unitRegTable from h s [] rfl
  induction dsts with
  | nil => intro t acc h; exact h
  | cons d ds ih => intro t acc h; exact ih _ _ h

theorem clock_units (s : AffiliationLookup) (ms : UInt32) : (s.clock ms).unitRegTable = s.unitRegTable := by
  unfold clock
  exact (releaseEach_units _ _).trans (clockTimers_units s ms)

theorem groupAff_units (s : AffiliationLookup) (srcId dstId : UInt32) :
    (s.groupAff srcId dstId).unitRegTable = s.unitRegTable := by
  unfold groupAff
  split <;> rfl

/-- Who is registered after a de-registration was registered before. -/
theorem isUnitReg_unitDereg {s : AffiliationLookup} {srcId u : UInt32}
    (h : (s.unitDereg srcId).2.isUnitReg u = true) : s.isUnitReg u = true := by
  unfold unitDereg at h
  split at h
  · have hunits : (s.groupUnaff srcId).2.unitRegTable = s.unitRegTable := by
      unfold groupUnaff
      split <;> rfl
    simp only [isUnitReg, hunits, decide_eq_true_eq] at h ⊢
    exact List.mem_of_mem_erase h
  · exact h

/-- Who is registered after a registration: the unit, and who was before. -/
theorem isUnitReg_unitReg (s : AffiliationLookup) (srcId u : UInt32) :
    (s.unitReg srcId).isUnitReg u = true ↔ u = srcId ∨ s.isUnitReg u = true := by
  unfold unitReg
  split
  · next h =>
      refine ⟨Or.inr, ?_⟩
      rintro (rfl | hu)
      · exact h
      · exact hu
  · simp only [isUnitReg, decide_eq_true_eq, List.mem_append, List.mem_singleton]
    exact or_comm

/-! ## Channel numbers -/

/-- No channel that is free or granted has the number `0`, which stands for no channel. -/
structure Numbered (s : AffiliationLookup) : Prop where
  free : 0 ∉ s.rfChTable
  granted : ∀ d, s.grantChTable.lookup d ≠ some 0

theorem Numbered.of_sameGrants {s t : AffiliationLookup} (h : Numbered s) (hst : SameGrants s t) : Numbered t := by
  refine ⟨?_, fun d => ?_⟩
  · rw [hst.rfChTable]
    exact h.free
  · rw [hst.grantChTable]
    exact h.granted d

theorem Numbered.of_sameTables {s t : AffiliationLookup} (h : Numbered s) (hst : SameTables s t) : Numbered t := by
  refine ⟨?_, fun d => ?_⟩
  · rw [← hst.rfChTable]
    exact h.free
  · rw [← hst.grantChTable.lookup_eq]
    exact h.granted d

/-- A grant takes a free channel. -/
theorem Numbered.grantCh {s : AffiliationLookup} (h : Numbered s) (dstId srcId grantTimeout : UInt32)
    (grp netGranted : Bool) : Numbered (s.grantCh dstId srcId grantTimeout grp netGranted).2 := by
  unfold AffiliationLookup.grantCh
  split
  · exact h
  · split
    · exact h
    · next chNo rest hfree =>
        have hmem : chNo ∈ s.rfChTable := hfree ▸ List.mem_cons_self
        refine ⟨fun hzero => h.free ?_, fun d hd => ?_⟩
        · rw [hfree]
          exact List.mem_cons_of_mem _ hzero
        · replace hd : AList.lookup d (s.grantChTable.insert dstId chNo) = some 0 := hd
          rw [UnorderedMap.lookup_insert_ite] at hd
          split at hd
          · exact h.free (Option.some.inj hd ▸ hmem)
          · exact h.granted d hd

/-- A release gives a granted channel back. -/
theorem Numbered.releaseOne {s : AffiliationLookup} (h : Numbered s) (dstId : UInt32) :
    Numbered (s.releaseOne dstId).2 := by
  unfold AffiliationLookup.releaseOne
  split
  · next hgranted =>
      obtain ⟨-, chNo, hlookup, hne⟩ := isGranted_iff.mp hgranted
      refine ⟨fun hzero => ?_, fun d hd => ?_⟩
      · rcases List.mem_append.mp hzero with hzero | hzero
        · exact h.free hzero
        · rw [hlookup] at hzero
          exact hne (List.mem_singleton.mp hzero).symm
      · replace hd : AList.lookup d (s.grantChTable.erase dstId) = some 0 := hd
        rw [UnorderedMap.lookup_erase_ite] at hd
        split at hd
        · exact nomatch hd
        · exact h.granted d hd
  · exact h

theorem Numbered.releaseEach {s : AffiliationLookup} (h : Numbered s) (dsts : List UInt32) :
    Numbered (s.releaseEach dsts) := by
  unfold AffiliationLookup.releaseEach
  induction dsts generalizing s with
  | nil => exact h
  | cons d ds ih => exact ih (h.releaseOne d)

theorem Numbered.releaseGrant {s : AffiliationLookup} (h : Numbered s) (dstId : UInt32) (releaseAll : Bool) :
    Numbered (s.releaseGrant dstId releaseAll).2 := by
  unfold AffiliationLookup.releaseGrant
  split
  · exact h
  · split
    · exact h.releaseEach _
    · exact h.releaseOne dstId

theorem Numbered.clock {s : AffiliationLookup} (h : Numbered s) (ms : UInt32) : Numbered (s.clock ms) :=
  (h.of_sameGrants (clockTimers_sameGrants s ms)).releaseEach _

/-- **A granted destination has a channel.** -/
theorem getGrantedCh_pos_of_isGranted {s : AffiliationLookup} {dstId : UInt32} (hgranted : s.isGranted dstId = true) :
    s.getGrantedCh dstId > 0 := by
  obtain ⟨hd, chNo, hlookup, hne⟩ := isGranted_iff.mp hgranted
  unfold getGrantedCh
  rw [if_neg hd, if_pos hgranted, hlookup]
  exact UInt32.pos_iff_ne_zero.mpr hne

/-- **A grant succeeds while a channel is free**, and the destination is granted then. -/
theorem Numbered.grantCh_granted {s : AffiliationLookup} (h : Numbered s) {dstId : UInt32} (hd : dstId ≠ 0)
    (hfree : s.isRFChAvailable = true) (srcId grantTimeout : UInt32) (grp netGranted : Bool) :
    (s.grantCh dstId srcId grantTimeout grp netGranted).1 = true ∧
      (s.grantCh dstId srcId grantTimeout grp netGranted).2.isGranted dstId = true := by
  unfold AffiliationLookup.grantCh
  rw [if_neg hd]
  split
  · next hnone =>
      unfold isRFChAvailable at hfree
      rw [hnone] at hfree
      exact absurd hfree Bool.false_ne_true
  · next chNo rest heq =>
      refine ⟨rfl, isGranted_iff.mpr ⟨hd, chNo, AList.lookup_insert _, fun hzero => h.free ?_⟩⟩
      rw [heq, hzero]
      exact List.mem_cons_self

/-- A destination that was released is not granted. -/
theorem isGranted_releaseGrant (s : AffiliationLookup) (dstId : UInt32) :
    (s.releaseGrant dstId false).2.isGranted dstId = false := by
  unfold releaseGrant
  split
  · next h =>
      unfold isGranted
      rw [if_pos h.1]
  split
  · next h => exact absurd h.2 Bool.false_ne_true
  · unfold releaseOne
    split
    · have hnone : AList.lookup dstId (s.grantChTable.erase dstId) = none := AList.lookup_erase _ _
      refine Bool.eq_false_iff.mpr fun h => ?_
      obtain ⟨-, chNo, hlookup, -⟩ := isGranted_iff.mp h
      exact nomatch hnone.symm.trans hlookup
    · next h => exact Bool.eq_false_iff.mpr h

end AffiliationLookup

end DvmHost

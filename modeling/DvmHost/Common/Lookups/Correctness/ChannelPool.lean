import Mathlib.Data.Finset.Insert
import Mathlib.Data.Finset.Erase
import DvmHost.Lib.Run
import DvmHost.Common.Lookups.AffiliationLookup

/-!
# `Common.Lookups.Correctness.ChannelPool` — conservation of the RF channel pool

The abstract view of `AffiliationLookup` is a **pool**: the channel numbers that were added and not
removed. Conservation says every one of them is in exactly one place, the free list or one grant, that no
channel is in two places, and that the grant counter counts the grants (`Conserved`).

`removeRFCh` appends where it should delete, `grantCh` overwrites the grant of a destination that already
holds a channel, and the counter is eight bits wide. Away from those three (`Conserves`, a condition on the
state before the call) every operation keeps the pool, and only then: `conserved_iff_conserves`.
-/

namespace DvmHost

namespace AffiliationLookup

open Lib

/-- Destination `dstId` holds channel `chNo`. -/
def Holds (s : AffiliationLookup) (dstId chNo : UInt32) : Prop := s.grantChTable.lookup dstId = some chNo

/-- The operations of the table. `clearGroupAff` and the getters write nothing. -/
inductive Op
  | addRFCh (chNo : UInt32)
  | removeRFCh (chNo : UInt32)
  | grantCh (dstId srcId grantTimeout : UInt32) (grp netGranted : Bool)
  | touchGrant (dstId : UInt32)
  | releaseGrant (dstId : UInt32) (releaseAll : Bool)
  | unitReg (srcId : UInt32)
  | unitDereg (srcId : UInt32)
  | groupAff (srcId dstId : UInt32)
  | groupUnaff (srcId : UInt32)
  | clock (ms : UInt32)

/-- One call. -/
def exec (s : AffiliationLookup) : Op → AffiliationLookup
  | .addRFCh chNo => s.addRFCh chNo
  | .removeRFCh chNo => s.removeRFCh chNo
  | .grantCh dstId srcId grantTimeout grp netGranted =>
      (s.grantCh dstId srcId grantTimeout grp netGranted).2
  | .touchGrant dstId => s.touchGrant dstId
  | .releaseGrant dstId releaseAll => (s.releaseGrant dstId releaseAll).2
  | .unitReg srcId => s.unitReg srcId
  | .unitDereg srcId => (s.unitDereg srcId).2
  | .groupAff srcId dstId => s.groupAff srcId dstId
  | .groupUnaff srcId => (s.groupUnaff srcId).2
  | .clock ms => s.clock ms

/-- The channels added and not removed, after one more call. -/
def poolAfter (pool : Finset UInt32) : Op → Finset UInt32
  | .addRFCh chNo => insert chNo pool
  | .removeRFCh chNo => pool.erase chNo
  | _ => pool

/-- The table together with the channel numbers added to it and not removed. -/
structure Pooled where
  pool : Finset UInt32
  tbl : AffiliationLookup

/-- The empty table. -/
def Pooled.start : Pooled := ⟨∅, .new⟩

/-- One call on the table as it stands. -/
def Pooled.exec (s : Pooled) (op : Op) : Pooled := ⟨poolAfter s.pool op, s.tbl.exec op⟩

/-- One call on the table, its maps iterating in any order whatever. -/
def PooledStep (s : Pooled) (op : Op) (s' : Pooled) : Prop :=
  ∃ t, SameTables s.tbl t ∧ s' = Pooled.exec ⟨s.pool, t⟩ op

/-- **Conservation.** Every pool channel is either once in the free list and held by nobody, or off the
    list and held by exactly one destination; no channel is listed twice, held twice, or listed and held;
    the counter is the number of live grants. -/
structure Conserved (s : Pooled) : Prop where
  placed : ∀ ch ∈ s.pool,
    (s.tbl.rfChTable.count ch = 1 ∧ ∀ d, ¬ s.tbl.Holds d ch) ∨
    (ch ∉ s.tbl.rfChTable ∧ ∃! d, s.tbl.Holds d ch)
  nodup : s.tbl.rfChTable.Nodup
  notBoth : ∀ ch d, ch ∈ s.tbl.rfChTable → ¬ s.tbl.Holds d ch
  oneHolder : ∀ ch d d', s.tbl.Holds d ch → s.tbl.Holds d' ch → d = d'
  counted : s.tbl.rfGrantChCnt.toNat = s.tbl.grantChTable.keys.length

/-- **The steps that conserve.** A channel number may be added (or "removed", which also appends it) only
    while it is neither free nor held, and a grant that goes through must be for a destination without one,
    with fewer than 255 grants live. -/
def Conserves (s : Pooled) : Op → Prop
  | .addRFCh chNo | .removeRFCh chNo => chNo ∉ s.tbl.rfChTable ∧ ∀ d, ¬ s.tbl.Holds d chNo
  | .grantCh dstId _ _ _ _ =>
      dstId = 0 ∨ s.tbl.rfChTable = [] ∨
        (dstId ∉ s.tbl.grantChTable.keys ∧ s.tbl.grantChTable.keys.length < 255)
  | _ => True

/-! ## The inductive core

`Conserved` repeats itself; the part to carry through a step is that nothing is in two places, that every
pool channel is in one, and the count. -/

/-- The core of `Conserved` over an arbitrary table. -/
structure Core (pool : Finset UInt32) (t : AffiliationLookup) : Prop where
  covered : ∀ ch ∈ pool, ch ∈ t.rfChTable ∨ ∃ d, t.Holds d ch
  nodup : t.rfChTable.Nodup
  notBoth : ∀ ch d, ch ∈ t.rfChTable → ¬ t.Holds d ch
  oneHolder : ∀ ch d d', t.Holds d ch → t.Holds d' ch → d = d'
  counted : t.rfGrantChCnt.toNat = t.grantChTable.keys.length

theorem conserved_iff_core {s : Pooled} : Conserved s ↔ Core s.pool s.tbl := by
  constructor
  · intro h
    refine ⟨fun ch hch => ?_, h.nodup, h.notBoth, h.oneHolder, h.counted⟩
    rcases h.placed ch hch with ⟨hc, -⟩ | ⟨-, d, hd, -⟩
    · exact Or.inl (List.count_pos_iff.mp (by omega))
    · exact Or.inr ⟨d, hd⟩
  · intro h
    refine ⟨fun ch hch => ?_, h.nodup, h.notBoth, h.oneHolder, h.counted⟩
    rcases h.covered ch hch with hl | ⟨d, hd⟩
    · exact Or.inl ⟨List.count_eq_one_of_mem h.nodup hl, fun d => h.notBoth ch d hl⟩
    · exact Or.inr ⟨fun hl => h.notBoth ch d hl hd, d, hd, fun d' hd' => h.oneHolder ch d' d hd' hd⟩

/-- The core only looks at the channels, the grants and the counter, whatever the iteration order. -/
theorem Core.of_same {pool : Finset UInt32} {s t : AffiliationLookup} (h : Core pool s)
    (hch : t.rfChTable = s.rfChTable) (hcnt : t.rfGrantChCnt = s.rfGrantChCnt)
    (hgr : UnorderedMap.SameMap s.grantChTable t.grantChTable) : Core pool t := by
  have hholds : ∀ d ch, t.Holds d ch ↔ s.Holds d ch := fun d ch => by
    unfold Holds; rw [hgr.lookup_eq]
  refine ⟨fun ch hc => ?_, hch ▸ h.nodup, fun ch d hl => ?_, fun ch d d' => ?_, ?_⟩
  · simpa only [hch, hholds] using h.covered ch hc
  · rw [hholds]; exact h.notBoth ch d (hch ▸ hl)
  · rw [hholds, hholds]; exact h.oneHolder ch d d'
  · rw [hcnt, h.counted, hgr.size_eq]

theorem Core.of_sameGrants {pool : Finset UInt32} {s t : AffiliationLookup} (h : Core pool s)
    (hst : SameGrants s t) : Core pool t :=
  h.of_same hst.rfChTable hst.rfGrantChCnt (by rw [hst.grantChTable]; exact .refl _)

theorem Core.of_sameTables {pool : Finset UInt32} {s t : AffiliationLookup} (h : Core pool s)
    (hst : SameTables s t) : Core pool t :=
  h.of_same hst.rfChTable.symm hst.rfGrantChCnt.symm hst.grantChTable

/-! ## One lemma per operation -/

/-- Appending a channel number keeps the core exactly when the number is neither free nor held. -/
theorem core_append_iff {pool pool' : Finset UInt32} {s : AffiliationLookup} {chNo : UInt32}
    (h : Core pool s) (hpool : ∀ ch ∈ pool', ch = chNo ∨ ch ∈ pool) :
    Core pool' (s.addRFCh chNo) ↔ chNo ∉ s.rfChTable ∧ ∀ d, ¬ s.Holds d chNo := by
  constructor
  · intro h'
    refine ⟨fun hmem => ?_, fun d hd => h'.notBoth chNo d (by simp [addRFCh]) hd⟩
    have hnd : (s.rfChTable ++ [chNo]).Nodup := h'.nodup
    exact (List.nodup_append.mp hnd).2.2 chNo hmem chNo (by simp) rfl
  · rintro ⟨hfree, hheld⟩
    refine ⟨fun ch hch => ?_, ?_, fun ch d hl hd => ?_, h.oneHolder, h.counted⟩
    · show ch ∈ s.rfChTable ++ [chNo] ∨ _
      rcases hpool ch hch with rfl | hch
      · exact Or.inl (by simp)
      · exact (h.covered ch hch).imp (fun hl => List.mem_append_left _ hl) id
    · show (s.rfChTable ++ [chNo]).Nodup
      exact List.nodup_append.mpr ⟨h.nodup, by simp, fun a ha b hb => by
        rw [List.mem_singleton.mp hb]; exact fun he => hfree (he ▸ ha)⟩
    · rcases List.mem_append.mp (show ch ∈ s.rfChTable ++ [chNo] from hl) with hl | hl
      · exact h.notBoth ch d hl hd
      · exact hheld d (List.mem_singleton.mp hl ▸ hd)

/-- A grant that goes through keeps the core exactly when the destination held nothing and the 8-bit
    counter does not wrap. -/
theorem core_grant_iff {pool : Finset UInt32} {s : AffiliationLookup} {chNo dstId srcId grantTimeout : UInt32}
    {rest : List UInt32} {grp netGranted : Bool} (h : Core pool s) (hfree : s.rfChTable = chNo :: rest) :
    Core pool ({ s with rfChTable := rest }.enterGrant chNo dstId srcId grantTimeout grp netGranted) ↔
      dstId ∉ s.grantChTable.keys ∧ s.grantChTable.keys.length < 255 := by
  have hcnt : (s.rfGrantChCnt + 1).toNat = (s.grantChTable.keys.length + 1) % 256 := by
    rw [UInt8.toNat_add, h.counted]; rfl
  have hlt : s.grantChTable.keys.length < 256 := h.counted ▸ s.rfGrantChCnt.toNat_lt
  constructor
  · intro h'
    have hcount : (s.rfGrantChCnt + 1).toNat = (s.grantChTable.insert dstId chNo).keys.length := h'.counted
    rw [hcnt] at hcount
    by_cases hin : dstId ∈ s.grantChTable.keys
    · -- a replaced grant leaves the size as it was, but the counter moves
      rw [UnorderedMap.size_insert_of_mem hin] at hcount
      omega
    · rw [UnorderedMap.size_insert_of_notMem hin] at hcount
      exact ⟨hin, by omega⟩
  · rintro ⟨hnew, hroom⟩
    have hnd : chNo ∉ rest ∧ rest.Nodup := by simpa [hfree] using h.nodup
    have hnone : s.grantChTable.lookup dstId = none :=
      AList.lookup_eq_none.mpr (by rwa [AList.mem_keys])
    have hholds : ∀ d ch, ({ s with rfChTable := rest }.enterGrant chNo dstId srcId grantTimeout grp
        netGranted).Holds d ch ↔ (d = dstId ∧ ch = chNo) ∨ s.Holds d ch := by
      intro d ch
      unfold Holds enterGrant
      rw [UnorderedMap.lookup_insert_ite]
      by_cases hd : d = dstId
      · subst hd; simp [hnone, eq_comm]
      · simp [hd]
    refine ⟨fun ch hch => ?_, hnd.2, fun ch d hl hd => ?_, fun ch d d' hd hd' => ?_, ?_⟩
    · rcases h.covered ch hch with hl | ⟨d, hd⟩
      · rw [hfree] at hl
        rcases List.mem_cons.mp hl with rfl | hl
        · exact Or.inr ⟨dstId, (hholds _ _).mpr (Or.inl ⟨rfl, rfl⟩)⟩
        · exact Or.inl hl
      · exact Or.inr ⟨d, (hholds _ _).mpr (Or.inr hd)⟩
    · rcases (hholds _ _).mp hd with ⟨-, rfl⟩ | hd
      · exact hnd.1 hl
      · exact h.notBoth ch d (by rw [hfree]; exact List.mem_cons_of_mem _ hl) hd
    · -- the channel just granted was free, so nobody else holds it
      have hfresh : ∀ d, ¬ s.Holds d chNo := fun d => h.notBoth chNo d (by simp [hfree])
      rcases (hholds _ _).mp hd with ⟨he, hc⟩ | ho <;> rcases (hholds _ _).mp hd' with ⟨he', hc'⟩ | ho'
      · exact he.trans he'.symm
      · exact absurd (hc ▸ ho') (hfresh d')
      · exact absurd (hc' ▸ ho) (hfresh d)
      · exact h.oneHolder ch d d' ho ho'
    · show (s.rfGrantChCnt + 1).toNat = (s.grantChTable.insert dstId chNo).keys.length
      rw [hcnt, UnorderedMap.size_insert_of_notMem hnew]
      omega

/-- What `releaseOne` does to a granted destination. -/
theorem releaseOne_cases (s : AffiliationLookup) (dstId : UInt32) :
    (s.releaseOne dstId).2 = s ∨
    ∃ chNo t, s.grantChTable.lookup dstId = some chNo ∧ (s.releaseOne dstId).2 = t ∧
      t.rfChTable = s.rfChTable ++ [chNo] ∧ t.grantChTable = s.grantChTable.erase dstId ∧
      t.rfGrantChCnt = if s.rfGrantChCnt > 0 then s.rfGrantChCnt - 1 else 0 := by
  unfold releaseOne
  split
  · next hg =>
      obtain ⟨-, chNo, hlk, -⟩ := isGranted_iff.mp hg
      exact Or.inr ⟨chNo, _, hlk, rfl, by simp [hlk], rfl, rfl⟩
  · exact Or.inl rfl

/-- Releasing a grant keeps the core: the channel moves from the grant back to the list. -/
theorem core_releaseOne {pool : Finset UInt32} {s : AffiliationLookup} (h : Core pool s) (dstId : UInt32) :
    Core pool (s.releaseOne dstId).2 := by
  rcases releaseOne_cases s dstId with he | ⟨chNo, t, hlk, ht, hch, hgr, hcnt⟩
  · rw [he]; exact h
  rw [ht]
  have hin : dstId ∈ s.grantChTable.keys := (UnorderedMap.mem_keys_iff_lookup _ _).mpr ⟨chNo, hlk⟩
  have hholds : ∀ d ch, t.Holds d ch ↔ d ≠ dstId ∧ s.Holds d ch := by
    intro d ch
    unfold Holds
    rw [hgr, UnorderedMap.lookup_erase_ite]
    by_cases hd : d = dstId <;> simp [hd]
  refine ⟨fun ch hc => ?_, ?_, fun ch d hl hd => ?_, fun ch d d' hd hd' => ?_, ?_⟩
  · rcases h.covered ch hc with hl | ⟨d, hd⟩
    · exact Or.inl (by rw [hch]; exact List.mem_append_left _ hl)
    · by_cases he : d = dstId
      · subst he
        have : ch = chNo := Option.some.inj (hd.symm.trans hlk)
        exact Or.inl (by simp [hch, this])
      · exact Or.inr ⟨d, (hholds _ _).mpr ⟨he, hd⟩⟩
  · rw [hch]
    exact List.nodup_append.mpr ⟨h.nodup, by simp, fun a ha b hb he => by
      rw [he, List.mem_singleton.mp hb] at ha; exact h.notBoth chNo dstId ha hlk⟩
  · obtain ⟨hne, hd⟩ := (hholds _ _).mp hd
    rw [hch] at hl
    rcases List.mem_append.mp hl with hl | hl
    · exact h.notBoth ch d hl hd
    · rw [List.mem_singleton.mp hl] at hd
      exact hne (h.oneHolder chNo d dstId hd hlk)
  · exact h.oneHolder ch d d' ((hholds _ _).mp hd).2 ((hholds _ _).mp hd').2
  · have hsize := UnorderedMap.size_erase_of_mem hin
    have hpos : s.rfGrantChCnt > 0 := by
      rw [gt_iff_lt, UInt8.lt_iff_toNat_lt, h.counted]
      show 0 < _
      omega
    rw [hcnt, if_pos hpos, hgr, UInt8.toNat_sub_of_le _ _ (by
      rw [UInt8.le_iff_toNat_le, h.counted]; show 1 ≤ _; omega), h.counted]
    show _ - 1 = _
    omega

theorem core_releaseEach {pool : Finset UInt32} (gnts : List UInt32) :
    ∀ {s : AffiliationLookup}, Core pool s → Core pool (s.releaseEach gnts) := by
  induction gnts with
  | nil => intro s h; exact h
  | cons d ds ih => intro s h; exact ih (core_releaseOne h d)

theorem core_releaseGrant {pool : Finset UInt32} {s : AffiliationLookup} (h : Core pool s)
    (dstId : UInt32) (releaseAll : Bool) : Core pool (s.releaseGrant dstId releaseAll).2 := by
  unfold releaseGrant
  split
  · exact h
  · split
    · exact core_releaseEach _ h
    · exact core_releaseOne h dstId

theorem core_clock {pool : Finset UInt32} {s : AffiliationLookup} (h : Core pool s) (ms : UInt32) :
    Core pool (s.clock ms) :=
  core_releaseEach _ (h.of_sameGrants (clockTimers_sameGrants s ms))

/-! ## The step and the run -/

/-- **The step law.** From a conserved table, a call keeps the core exactly when it is one of `Conserves`. -/
theorem core_exec_iff {s : Pooled} (h : Core s.pool s.tbl) (op : Op) :
    Core (poolAfter s.pool op) (s.tbl.exec op) ↔ Conserves s op := by
  cases op with
  | addRFCh chNo => exact core_append_iff h (fun ch hc => Finset.mem_insert.mp hc)
  | removeRFCh chNo => exact core_append_iff h (fun ch hc => Or.inr (Finset.mem_of_mem_erase hc))
  | grantCh dstId srcId grantTimeout grp netGranted =>
      show Core s.pool (s.tbl.grantCh dstId srcId grantTimeout grp netGranted).2 ↔
        (dstId = 0 ∨ s.tbl.rfChTable = [] ∨ _)
      unfold grantCh
      by_cases hd : dstId = 0
      · simp [hd, h]
      · rw [if_neg hd]
        cases hfree : s.tbl.rfChTable with
        | nil => simp [h]
        | cons chNo rest => simpa [hd] using core_grant_iff h hfree
  | touchGrant dstId => exact iff_of_true (h.of_sameGrants (touchGrant_sameGrants s.tbl dstId)) trivial
  | releaseGrant dstId releaseAll => exact iff_of_true (core_releaseGrant h dstId releaseAll) trivial
  | unitReg srcId => exact iff_of_true (h.of_sameGrants (unitReg_sameGrants s.tbl srcId)) trivial
  | unitDereg srcId => exact iff_of_true (h.of_sameGrants (unitDereg_sameGrants s.tbl srcId)) trivial
  | groupAff srcId dstId => exact iff_of_true (h.of_sameGrants (groupAff_sameGrants s.tbl srcId dstId)) trivial
  | groupUnaff srcId => exact iff_of_true (h.of_sameGrants (groupUnaff_sameGrants s.tbl srcId)) trivial
  | clock ms => exact iff_of_true (core_clock h ms) trivial

/-- The guard does not see the iteration order of the maps. -/
theorem conserves_of_sameTables {s : Pooled} {t : AffiliationLookup} (hst : SameTables s.tbl t) (op : Op) :
    Conserves ⟨s.pool, t⟩ op ↔ Conserves s op := by
  have hholds : ∀ d ch, t.Holds d ch ↔ s.tbl.Holds d ch := fun d ch => by
    unfold Holds; rw [hst.grantChTable.lookup_eq]
  have hkeys : ∀ d, d ∈ t.grantChTable.keys ↔ d ∈ s.tbl.grantChTable.keys :=
    fun d => hst.grantChTable.keys_perm.mem_iff.symm
  have hsize := hst.grantChTable.size_eq
  cases op <;> simp only [Conserves, hst.rfChTable, hholds, hkeys, hsize]

theorem conserved_step_iff {s s' : Pooled} {op : Op} (h : Conserved s) (hst : PooledStep s op s') :
    Conserved s' ↔ Conserves s op := by
  obtain ⟨t, hsame, rfl⟩ := hst
  rw [conserved_iff_core]
  have hcore : Core s.pool t := (conserved_iff_core.mp h).of_sameTables hsame
  exact (core_exec_iff (s := ⟨s.pool, t⟩) hcore op).trans (conserves_of_sameTables hsame op)

theorem conserved_start : Conserved .start := by
  refine conserved_iff_core.mpr ⟨?_, List.nodup_nil, ?_, ?_, rfl⟩
  · intro ch hch; simp [Pooled.start] at hch
  · intro ch d hl; simp [Pooled.start, new] at hl
  · intro ch d d' hd; simp [Holds, Pooled.start, new] at hd

/-- **Channel-pool conservation.** In a run from the empty table, of any operations in any order and with
    any map iteration orders, the pool is conserved in every state if and only if every step is one of
    `Conserves`. -/
theorem conserved_iff_conserves {l : List (Op × Pooled)} (hrun : Run PooledStep .start l) :
    States Conserved .start l ↔ Guarded Conserves .start l :=
  hrun.states_iff_guarded (I := fun _ => True) (P := Conserved) (G := Conserves)
    (fun _ h hg hst => ⟨trivial, (conserved_step_iff h hst).mpr hg⟩)
    (fun _ h hst h' => (conserved_step_iff h hst).mp h') trivial conserved_start

theorem run_pooled (ops : List Op) :
    Run PooledStep Pooled.start (trace Pooled.exec Pooled.start ops) := by
  refine run_trace ?_ ops Pooled.start
  intro s op
  exact ⟨s.tbl, .refl s.tbl, rfl⟩

/-- A channel added and granted. -/
theorem conserved_iff_conserves_grant :
    States Conserved .start (trace Pooled.exec .start [.addRFCh 1, .grantCh 100 7 10 true false]) := by
  refine (conserved_iff_conserves (run_pooled _)).mpr ?_
  refine ⟨⟨by decide, fun d hd => ?_⟩, Or.inr (Or.inr ⟨by decide, by decide⟩), trivial⟩
  have hnone : Pooled.start.tbl.grantChTable.lookup d = none := AList.lookup_empty d
  rw [hd] at hnone
  exact absurd hnone (by simp)

/-- **A channel lost.** A second grant for the same destination takes the next free channel and forgets the
    first, which is then neither free nor held. -/
theorem channel_lost : ∃ l, Run PooledStep .start l ∧ ¬ States Conserved .start l := by
  refine ⟨_, run_pooled [.addRFCh 1, .addRFCh 2, .grantCh 100 7 10 true false, .grantCh 100 7 10 true false],
    fun h => ?_⟩
  have hlast := h.2 _ (List.mem_cons_of_mem _ (List.mem_cons_of_mem _ (List.mem_cons_of_mem _
    List.mem_cons_self)))
  rcases hlast.placed 1 (by decide) with ⟨hlisted, -⟩ | ⟨-, d, hheld, -⟩
  · exact absurd hlisted (by decide)
  · have hlk : ((∅ : UnorderedMap UInt32 UInt32).insert 100 1 |>.insert 100 2).lookup d = some 1 := hheld
    rw [UnorderedMap.lookup_insert_ite, UnorderedMap.lookup_insert_ite, AList.lookup_empty] at hlk
    split at hlk <;> exact absurd hlk (by decide)

end AffiliationLookup

end DvmHost

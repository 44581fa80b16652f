import DvmHost.Host.Dmr.Lookups.Correctness.SlotExclusivity

/-!
# `Host.Dmr.Lookups.Correctness.AllocationCompleteness` — which grant requests are served

A site has a set of channels. A request is **served** when the free list is not read past its end and, if the
destination holds no grant and any slot of the site other than the TSCC is free, the request is granted — whatever
the iteration order of the tables (`Served`).

Only the front of the free list is ever tried, and a channel both of whose slots are granted stays there, since the
test that would take it off runs before the last grant is entered. So a request is served exactly when the front
channel itself has a free slot or no channel has one (`served_iff`). That rests on what holds in every state of a
history (`Stocked`): the free list has no channel twice, all of it and all that is granted belongs to the site, and
while the channel of the TSCC is on the list nothing is granted on it.
-/

namespace DvmHost

namespace DMRAffiliationLookup

open Lib

/-! ## Requests -/

/-- The destination that a request is for. -/
def Op.destination : Op → Option UInt32
  | .grantCh dstId _ _ _ _ | .grantChSlot dstId _ _ _ _ => some dstId
  | _ => none

/-- What a call returns, `none` for the exception of an empty free list. A slot that is not on offer is not asked
    for. -/
def answer (s : DMRAffiliationLookup) : Op → Option Bool
  | .grantCh dstId srcId grantTimeout grp netGranted =>
      (s.grantCh dstId srcId grantTimeout grp netGranted).map Prod.fst
  | .grantChSlot dstId srcId grantTimeout grp netGranted =>
      match s.rfChTable with
      | [] => some false
      | chNo :: _ =>
          let slot := s.getAvailableSlotForChannel chNo
          if slot = 0 then some false else some (s.grantChSlot dstId srcId slot grantTimeout grp netGranted).1
  | _ => some true

/-- A slot of the site that is not the TSCC and that no live grant holds. -/
structure Free (chNos : List UInt32) (s : DMRAffiliationLookup) (chNo : UInt32) (slot : UInt8) : Prop where
  site : chNo ∈ chNos
  slots : slot = 1 ∨ slot = 2
  offTscc : ¬ (chNo = s.tsccChNo ∧ slot = s.tsccSlot)
  unheld : ∀ d, ¬ s.Live d chNo slot

/-- A destination without a grant. -/
def Waiting (s : DMRAffiliationLookup) (dstId : UInt32) : Prop := dstId ≠ 0 ∧ s.isGranted dstId = false

/-- **Served.** In any iteration order the call returns, and grants what can be granted. -/
def Served (chNos : List UInt32) (s : DMRAffiliationLookup) (op : Op) : Prop :=
  ∀ t, SameTables s t → ∃ ok, t.answer op = some ok ∧
    ∀ dstId ∈ op.destination, s.Waiting dstId → (∃ chNo slot, Free chNos s chNo slot) → ok = true

/-- The channel at the front of the free list has a free slot if any channel has. -/
def FrontFree (chNos : List UInt32) (s : DMRAffiliationLookup) (dstId : UInt32) : Prop :=
  s.Waiting dstId → (∃ chNo slot, Free chNos s chNo slot) →
    ∃ chNo ∈ s.rfChTable.head?, ∃ slot, Free chNos s chNo slot

/-- **The requests that are served.** -/
def Servable (chNos : List UInt32) (s : DMRAffiliationLookup) : Op → Prop
  | .grantCh dstId _ _ _ _ => s.rfChTable ≠ [] ∧ FrontFree chNos s dstId
  | .grantChSlot dstId _ _ _ _ => FrontFree chNos s dstId
  | _ => True

/-- The grants, releases and timers of a history; the channels of the site are added before. -/
def GrantStep (s : DMRAffiliationLookup) (op : Op) (s' : DMRAffiliationLookup) : Prop :=
  Step s op s' ∧ ∀ chNo, op ≠ .addRFCh chNo

/-! ## What holds in every state -/

/-- **The stock of a site.** -/
structure Stocked (chNos : List UInt32) (s : DMRAffiliationLookup) : Prop where
  consistent : Consistent s
  nodup : s.rfChTable.Nodup
  listed : ∀ chNo ∈ s.rfChTable, chNo ∈ chNos
  granted : ∀ d ch slot, s.grantChSlotTable.lookup d = some (ch, slot) → ch ∈ chNos
  /-- The channel of the TSCC carries one grant at most, and none while it is on the list. -/
  once : ∀ d d' slot slot', s.grantChSlotTable.lookup d = some (s.tsccChNo, slot) →
    s.grantChSlotTable.lookup d' = some (s.tsccChNo, slot') → d = d'
  bare : s.tsccChNo ∈ s.rfChTable → ∀ d slot, s.grantChSlotTable.lookup d ≠ some (s.tsccChNo, slot)

/-- The list is the same, and no grant is new. -/
theorem Stocked.of_fewer {chNos : List UInt32} {s t : DMRAffiliationLookup} (h : Stocked chNos s) (hst : Fewer s t)
    (hlist : t.rfChTable = s.rfChTable) : Stocked chNos t where
  consistent := h.consistent.of_fewer hst
  nodup := hlist ▸ h.nodup
  listed := hlist ▸ h.listed
  granted d ch slot hd := h.granted d ch slot (hst.slot hd)
  once d d' slot slot' hd hd' :=
    h.once d d' slot slot' (hst.tsccChNo ▸ hst.slot hd) (hst.tsccChNo ▸ hst.slot hd')
  bare hmem d slot hd := by
    rw [hst.tsccChNo] at hmem hd
    exact h.bare (hlist ▸ hmem) d slot (hst.slot hd)

/-- A channel that comes back is one of the site, and the only grant that can have been on it is gone. -/
theorem Stocked.releaseOne {chNos : List UInt32} {s : DMRAffiliationLookup} (h : Stocked chNos s) (dstId : UInt32) :
    Stocked chNos (s.releaseOne dstId).2 := by
  have hfewer := fewer_releaseOne s dstId
  by_cases hg : s.isGranted dstId = true
  · obtain ⟨-, chNo, hch, -⟩ := AffiliationLookup.isGranted_iff.mp hg
    obtain ⟨⟨ch, slot⟩, hslot, hfst⟩ : ∃ v, s.grantChSlotTable.lookup dstId = some v ∧ v.1 = chNo := by
      have hagree := h.consistent.agree dstId
      rw [hch] at hagree
      exact Option.map_eq_some_iff.mp hagree.symm
    obtain rfl : ch = chNo := hfst
    have hlist : (s.releaseOne dstId).2.rfChTable =
        if ch ∈ s.rfChTable then s.rfChTable else s.rfChTable ++ [ch] := by
      unfold DMRAffiliationLookup.releaseOne
      rw [if_pos hg, hch, hslot]
      rfl
    have hgone : (s.releaseOne dstId).2.grantChSlotTable.lookup dstId = none := by
      unfold DMRAffiliationLookup.releaseOne
      rw [if_pos hg, hslot]
      exact AList.lookup_erase ..
    by_cases hmem : ch ∈ s.rfChTable
    · exact h.of_fewer hfewer (hlist.trans (if_pos hmem))
    · rw [if_neg hmem] at hlist
      refine ⟨h.consistent.of_fewer hfewer, ?_, ?_, fun d ch slot hd => h.granted d ch slot (hfewer.slot hd),
        fun d d' slot slot' hd hd' =>
          h.once d d' slot slot' (hfewer.tsccChNo ▸ hfewer.slot hd) (hfewer.tsccChNo ▸ hfewer.slot hd'), ?_⟩
      · rw [hlist, List.nodup_append]
        exact ⟨h.nodup, List.nodup_singleton ch, fun a ha b hb hab =>
          hmem (List.mem_singleton.mp hb ▸ hab ▸ ha)⟩
      · intro chNo hin
        rw [hlist, List.mem_append, List.mem_singleton] at hin
        rcases hin with hin | rfl
        · exact h.listed chNo hin
        · exact h.granted dstId chNo slot hslot
      · intro hin d slot' hd
        have hd' := hfewer.slot hd
        rw [hlist, List.mem_append, List.mem_singleton, hfewer.tsccChNo] at hin
        rw [hfewer.tsccChNo] at hd'
        rcases hin with hin | hin
        · exact h.bare hin d slot' hd'
        · obtain rfl := h.once d dstId slot' slot hd' (hin ▸ hslot)
          exact absurd (hgone.symm.trans hd) (by simp)
  · have hsame : (s.releaseOne dstId).2 = s := by
      unfold DMRAffiliationLookup.releaseOne
      rw [if_neg hg]
    rw [hsame]
    exact h

theorem Stocked.releaseEach {chNos : List UInt32} (gnts : List UInt32) :
    ∀ {s : DMRAffiliationLookup}, Stocked chNos s → Stocked chNos (s.releaseEach gnts) := by
  induction gnts with
  | nil => exact fun h => h
  | cons d ds ih => exact fun h => ih (h.releaseOne d)

theorem Stocked.of_sameGrants {chNos : List UInt32} {s : DMRAffiliationLookup} {t : AffiliationLookup}
    (h : Stocked chNos s) (hst : AffiliationLookup.SameGrants s.toAffiliationLookup t) :
    Stocked chNos { s with toAffiliationLookup := t } :=
  h.of_fewer (fewer_of_sameGrants hst) hst.rfChTable

/-- The channel of the TSCC is taken off the list when it is granted, any other stays. -/
theorem rfChTable_placed {s : DMRAffiliationLookup} {dstId srcId grantTimeout chNo : UInt32} {grp netGranted : Bool}
    (hp : Placed s dstId (s.exec (.grantCh dstId srcId grantTimeout grp netGranted)) chNo) :
    (s.exec (.grantCh dstId srcId grantTimeout grp netGranted)).rfChTable =
      if chNo = s.tsccChNo then s.rfChTable.erase chNo else s.rfChTable := by
  obtain ⟨rest, hfree⟩ : ∃ rest, s.rfChTable = chNo :: rest := List.head?_eq_some_iff.mp hp.front
  have hts := ((available_cases s chNo).resolve_left hp.offered).2
  have hcond : (s.getAvailableSlotForChannel chNo = 0 ∨ chNo = s.tsccChNo) ↔ chNo = s.tsccChNo :=
    or_iff_right hp.offered
  unfold exec grantCh
  rw [hfree]
  dsimp only
  rw [if_neg hp.offered]
  unfold grantChSlot
  rw [if_neg hp.dst, hfree]
  dsimp only
  rw [if_neg hts]
  simp only [hcond]
  rfl

/-- A grant on the channel at the front. -/
theorem Stocked.placed {chNos : List UInt32} {s t : DMRAffiliationLookup} {dstId chNo : UInt32}
    (h : Stocked chNos s) (hp : Placed s dstId t chNo)
    (hlist : t.rfChTable = if chNo = s.tsccChNo then s.rfChTable.erase chNo else s.rfChTable) :
    Stocked chNos t := by
  have hfront : chNo ∈ s.rfChTable := List.mem_of_mem_head? hp.front
  have hsub : ∀ ch ∈ t.rfChTable, ch ∈ s.rfChTable := by
    intro ch hch
    rw [hlist] at hch
    split at hch
    · exact List.mem_of_mem_erase hch
    · exact hch
  have hlk : ∀ d ch slot, t.grantChSlotTable.lookup d = some (ch, slot) →
      (d = dstId ∧ ch = chNo) ∨ s.grantChSlotTable.lookup d = some (ch, slot) := by
    intro d ch slot hd
    rw [hp.grantChSlotTable, UnorderedMap.lookup_insert_ite] at hd
    split at hd
    · next heq => cases hd; exact .inl ⟨heq, rfl⟩
    · exact .inr hd
  refine ⟨h.consistent.of_placed hp, ?_, fun ch hch => h.listed ch (hsub ch hch), ?_, ?_, ?_⟩
  · rw [hlist]
    split
    · exact h.nodup.erase _
    · exact h.nodup
  · intro d ch slot hd
    rcases hlk d ch slot hd with ⟨-, rfl⟩ | hd
    · exact h.listed ch hfront
    · exact h.granted d ch slot hd
  · intro d d' slot slot' hd hd'
    rw [hp.tsccChNo] at hd hd'
    rcases hlk d _ slot hd with ⟨rfl, hch⟩ | hd <;> rcases hlk d' _ slot' hd' with ⟨rfl, hch'⟩ | hd'
    · rfl
    · exact absurd hd' (h.bare (hch ▸ hfront) d' slot')
    · exact absurd hd (h.bare (hch' ▸ hfront) d slot)
    · exact h.once d d' slot slot' hd hd'
  · intro hmem d slot hd
    rw [hp.tsccChNo] at hmem hd
    rw [hlist] at hmem
    split at hmem
    · next heq => exact h.nodup.not_mem_erase (heq ▸ hmem)
    · next hne =>
        rcases hlk d _ slot hd with ⟨-, hch⟩ | hd
        · exact hne hch.symm
        · exact h.bare hmem d slot hd

/-- Every step of a history keeps the stock. -/
theorem Stocked.step {chNos : List UInt32} {s s' : DMRAffiliationLookup} {op : Op} (h : Stocked chNos s)
    (hst : GrantStep s op s') : Stocked chNos s' := by
  obtain ⟨⟨t, hsame, rfl⟩, hop⟩ := hst
  have ht : Stocked chNos t := h.of_fewer (.of_sameTables hsame) hsame.base.rfChTable.symm
  have hgrant : ∀ dstId srcId grantTimeout grp netGranted,
      Stocked chNos (t.exec (.grantCh dstId srcId grantTimeout grp netGranted)) := by
    intro dstId srcId grantTimeout grp netGranted
    rcases exec_grantCh_cases t dstId srcId grantTimeout grp netGranted with ⟨heq, -⟩ | ⟨chNo, hp⟩
    · rw [heq]
      exact ht
    · exact ht.placed hp (rfChTable_placed hp)
  cases op with
  | addRFCh chNo => exact absurd rfl (hop chNo)
  | grantCh dstId srcId grantTimeout grp netGranted => exact hgrant ..
  | grantChSlot dstId srcId grantTimeout grp netGranted =>
    rw [exec_grantChSlot]
    exact hgrant ..
  | touchGrant dstId => exact ht.of_sameGrants (AffiliationLookup.touchGrant_sameGrants _ dstId)
  | releaseGrant dstId releaseAll =>
    show Stocked chNos (t.releaseGrant dstId releaseAll).2
    unfold releaseGrant
    split
    · exact ht
    · split
      · exact ht.releaseEach _
      · exact ht.releaseOne dstId
  | clock ms => exact (ht.of_sameGrants (AffiliationLookup.clockTimers_sameGrants _ ms)).releaseEach _

theorem setUp_rfChTable (chNos : List UInt32) (tsccChNo : UInt32) (tsccSlot : UInt8) :
    (setUp chNos tsccChNo tsccSlot).rfChTable = chNos := by
  have hadd : ∀ s : DMRAffiliationLookup, (chNos.foldl addRFCh s).rfChTable = s.rfChTable ++ chNos := by
    induction chNos with
    | nil => exact fun s => (List.append_nil _).symm
    | cons ch chs ih =>
      intro s
      rw [List.foldl_cons, ih]
      show (s.rfChTable ++ [ch]) ++ chs = _
      rw [List.append_assoc]
      rfl
  unfold setUp setSlotForChannelTSCC
  split
  · exact hadd new
  · exact hadd new

theorem setUp_stocked {chNos : List UInt32} (hnodup : chNos.Nodup) (tsccChNo : UInt32) (tsccSlot : UInt8) :
    Stocked chNos (setUp chNos tsccChNo tsccSlot) := by
  have hnone : ∀ d, (setUp chNos tsccChNo tsccSlot).grantChSlotTable.lookup d = none := by
    intro d
    rw [(setUp_tables chNos tsccChNo tsccSlot).2]
    exact AList.lookup_empty d
  have hlist := setUp_rfChTable chNos tsccChNo tsccSlot
  refine ⟨(setUp_consistent chNos tsccChNo tsccSlot).1, ?_, ?_, ?_, ?_, ?_⟩
  · rw [hlist]
    exact hnodup
  · intro chNo h
    rw [hlist] at h
    exact h
  · intro d ch slot hd
    exact nomatch (hnone d).symm.trans hd
  · intro d d' slot slot' hd
    exact nomatch (hnone d).symm.trans hd
  · intro _ d slot hd
    exact nomatch (hnone d).symm.trans hd

/-! ## The slot picker in any order -/

/-- Slots other than the running answer do not change it. -/
theorem scan_of_notMem {r : SlotScan} {foundSlots : List UInt8} (h : r.slot ∉ foundSlots) :
    foundSlots.foldl scanSlot r = r := by
  induction foundSlots with
  | nil => rfl
  | cons f fs ih =>
    rw [List.mem_cons, not_or] at h
    have hstep : scanSlot r f = r := if_neg h.1
    rw [List.foldl_cons, hstep]
    exact ih h.2

/-- A run of ones flips the answer once. -/
theorem scan_ones {foundSlots : List UInt8} (h1 : 1 ∈ foundSlots) (hall : ∀ f ∈ foundSlots, f = 1) :
    scanSlots foundSlots = ⟨2, true, 1⟩ := by
  obtain ⟨f, fs, rfl⟩ := List.exists_cons_of_ne_nil (List.ne_nil_of_mem h1)
  obtain rfl := hall f List.mem_cons_self
  refine scan_of_notMem (r := ⟨2, true, 1⟩) fun h2 => ?_
  exact absurd (hall 2 (List.mem_cons_of_mem _ h2)) (by decide)

/-- Ones before twos: the channel is seen to be full. -/
theorem scan_ones_twos {ones twos : List UInt8} (h1 : 1 ∈ ones) (hones : ∀ f ∈ ones, f = 1) (h2 : 2 ∈ twos)
    (htwos : ∀ f ∈ twos, f = 2) : (scanSlots (ones ++ twos)).slotCount = 2 := by
  have hfirst := scan_ones h1 hones
  unfold scanSlots at hfirst ⊢
  rw [List.foldl_append, hfirst]
  obtain ⟨f, fs, rfl⟩ := List.exists_cons_of_ne_nil (List.ne_nil_of_mem h2)
  obtain rfl := htwos f List.mem_cons_self
  have hrest : fs.foldl scanSlot ⟨1, true, 2⟩ = ⟨1, true, 2⟩ := by
    refine scan_of_notMem fun h1 => ?_
    exact absurd (htwos 1 (List.mem_cons_of_mem _ h1)) (by decide)
  show (fs.foldl scanSlot ⟨1, true, 2⟩).slotCount = 2
  rw [hrest]

theorem mem_slotsOn {s : DMRAffiliationLookup} {ch : UInt32} {slot : UInt8} :
    slot ∈ s.slotsOn ch ↔ ∃ d, s.grantChSlotTable.lookup d = some (ch, slot) := by
  unfold slotsOn
  rw [List.mem_filterMap]
  constructor
  · rintro ⟨⟨d, ch', slot'⟩, hmem, h⟩
    split at h
    · next heq =>
        obtain rfl := Option.some.inj h
        obtain rfl : ch' = ch := heq
        exact ⟨d, AList.mem_lookup_iff.mpr hmem⟩
    · exact nomatch h
  · rintro ⟨d, hd⟩
    exact ⟨⟨d, ch, slot⟩, AList.mem_lookup_iff.mp hd, if_pos rfl⟩

/-- A free slot makes the picker offer one, in any order. -/
theorem available_of_free {chNos : List UInt32} {s : DMRAffiliationLookup} {ch : UInt32} {slot : UInt8}
    (h : Consistent s) (h0 : ch ≠ 0) (hfree : Free chNos s ch slot) : s.getAvailableSlotForChannel ch ≠ 0 := by
  have hunheld : slot ∉ s.slotsOn ch := by
    rw [mem_slotsOn]
    rintro ⟨d, hd⟩
    exact hfree.unheld d (h.live_iff.mpr hd)
  by_cases hone : 1 ∈ s.slotsOn ch
  · -- slot 1 is held, so the free slot is 2 and the ones are all there is
    have htwo : slot = 2 := hfree.slots.resolve_left fun h1 => hunheld (h1 ▸ hone)
    have hall : ∀ f ∈ s.slotsOn ch, f = 1 := by
      intro f hf
      obtain ⟨d, hd⟩ := mem_slotsOn.mp hf
      exact (h.slots d ch f hd).resolve_right fun h2 => hunheld (htwo ▸ h2 ▸ hf)
    rw [available_of_flipped h0 (scan_ones hone hall), if_neg fun hts => hfree.offTscc ⟨hts.1, htwo.trans hts.2.symm⟩]
    decide
  · exact available_of_unscanned h0 (scan_of_notMem (r := ⟨1, false, 0⟩) hone)

/-- The tables can be iterated with the grants of slot 1 first. -/
theorem exists_ones_first {s : DMRAffiliationLookup} (h : Consistent s) {ch : UInt32}
    (h1 : 1 ∈ s.slotsOn ch) (h2 : 2 ∈ s.slotsOn ch) :
    ∃ t, SameTables s t ∧ (scanSlots (t.slotsOn ch)).slotCount = 2 := by
  let p : (Sigma fun _ : UInt32 => UInt32 × UInt8) → Bool := fun e => decide (e.2.2 = 1)
  have hperm : s.grantChSlotTable.entries.Perm
      (s.grantChSlotTable.entries.filter p ++ s.grantChSlotTable.entries.filter fun e => !p e) :=
    (List.filter_append_perm p _).symm
  have hpart : ∀ (q : (Sigma fun _ : UInt32 => UInt32 × UInt8) → Bool) (slot : UInt8),
      slot ∈ (s.grantChSlotTable.entries.filter q).filterMap (fun e => if e.2.1 = ch then some e.2.2 else none) ↔
        ∃ d, s.grantChSlotTable.lookup d = some (ch, slot) ∧ q ⟨d, ch, slot⟩ = true := by
    intro q slot
    rw [List.mem_filterMap]
    constructor
    · rintro ⟨⟨d, ch', slot'⟩, hmem, h⟩
      obtain ⟨hmem, hq⟩ := List.mem_filter.mp hmem
      split at h
      · next heq =>
          obtain rfl := Option.some.inj h
          obtain rfl : ch' = ch := heq
          exact ⟨d, AList.mem_lookup_iff.mpr hmem, hq⟩
      · exact nomatch h
    · rintro ⟨d, hd, hq⟩
      exact ⟨⟨d, ch, slot⟩, List.mem_filter.mpr ⟨AList.mem_lookup_iff.mp hd, hq⟩, if_pos rfl⟩
  refine ⟨{ s with grantChSlotTable := s.grantChSlotTable.reorder _ hperm },
    ⟨.refl _, UnorderedMap.sameMap_reorder _ _ hperm, rfl, rfl⟩, ?_⟩
  show (scanSlots (List.filterMap _ (_ ++ _))).slotCount = 2
  rw [List.filterMap_append]
  obtain ⟨d1, hd1⟩ := mem_slotsOn.mp h1
  obtain ⟨d2, hd2⟩ := mem_slotsOn.mp h2
  refine scan_ones_twos ((hpart p 1).mpr ⟨d1, hd1, rfl⟩) (fun f hf => ?_)
    ((hpart _ 2).mpr ⟨d2, hd2, rfl⟩) (fun f hf => ?_)
  · obtain ⟨d, -, hq⟩ := (hpart p f).mp hf
    exact of_decide_eq_true hq
  · obtain ⟨d, hd, hq⟩ := (hpart _ f).mp hf
    refine (h.slots d ch f hd).resolve_left fun hone => ?_
    subst hone
    exact nomatch hq

/-- **The front channel.** In every order the picker offers a slot of a channel on the list iff one is free. -/
theorem forall_available_iff {chNos : List UInt32} {s : DMRAffiliationLookup} {ch : UInt32} (h : Stocked chNos s)
    (h0 : ch ≠ 0) (hch : ch ∈ s.rfChTable) :
    (∀ t, SameTables s t → t.getAvailableSlotForChannel ch ≠ 0) ↔ ∃ slot, Free chNos s ch slot := by
  constructor
  · intro hall
    by_contra hnone
    have hfull : ∀ slot, slot = 1 ∨ slot = 2 → ¬ (ch = s.tsccChNo ∧ slot = s.tsccSlot) → slot ∈ s.slotsOn ch := by
      intro slot hslot hts
      by_contra hmem
      refine hnone ⟨slot, h.listed ch hch, hslot, hts, fun d hd => hmem ?_⟩
      exact mem_slotsOn.mpr ⟨d, h.consistent.live_iff.mp hd⟩
    by_cases htscc : ch = s.tsccChNo
    · -- nothing is granted beside the TSCC, so the other slot is free
      have hbare : ∀ slot, slot ∉ s.slotsOn ch := by
        intro slot hmem
        obtain ⟨d, hd⟩ := mem_slotsOn.mp hmem
        exact h.bare (htscc ▸ hch) d slot (htscc ▸ hd)
      by_cases hone : (1 : UInt8) = s.tsccSlot
      · exact hbare 2 (hfull 2 (.inr rfl) fun hts => absurd (hone.trans hts.2.symm) (by decide))
      · exact hbare 1 (hfull 1 (.inl rfl) fun hts => hone hts.2)
    · have hoff : ∀ slot, ¬ (ch = s.tsccChNo ∧ slot = s.tsccSlot) := fun slot hts => htscc hts.1
      obtain ⟨t, ht, hcount⟩ := exists_ones_first h.consistent (hfull 1 (.inl rfl) (hoff 1))
        (hfull 2 (.inr rfl) (hoff 2))
      refine hall t ht ?_
      unfold getAvailableSlotForChannel
      dsimp only
      rw [if_neg h0, if_pos hcount]
  · rintro ⟨slot, hfree⟩ t ht
    have hfree' : Free chNos t ch slot := by
      refine ⟨hfree.site, hfree.slots, ?_, fun d hd => hfree.unheld d ?_⟩
      · rw [← ht.tsccChNo, ← ht.tsccSlot]
        exact hfree.offTscc
      · unfold Live at hd ⊢
        rwa [ht.base.grantChTable.lookup_eq, ht.grantChSlotTable.lookup_eq]
    exact available_of_free (h.consistent.of_fewer (.of_sameTables ht)) h0 hfree'

/-! ## Requests in any order -/

/-- A grant on request: it needs a channel, a destination and a slot on offer. -/
theorem answer_grantCh (s : DMRAffiliationLookup) (dstId srcId grantTimeout : UInt32) (grp netGranted : Bool) :
    s.answer (.grantCh dstId srcId grantTimeout grp netGranted) =
      s.rfChTable.head?.map fun chNo => decide (s.getAvailableSlotForChannel chNo ≠ 0 ∧ dstId ≠ 0) := by
  unfold answer grantCh
  cases hfree : s.rfChTable with
  | nil => rfl
  | cons chNo rest =>
    dsimp only
    by_cases hav : s.getAvailableSlotForChannel chNo = 0
    · rw [if_pos hav]
      simp [hav]
    · have hts := ((available_cases s chNo).resolve_left hav).2
      rw [if_neg hav]
      unfold grantChSlot
      by_cases hd : dstId = 0
      · rw [if_pos hd]
        simp [hd]
      · rw [if_neg hd, hfree]
        dsimp only
        rw [if_neg hts]
        simp [hav, hd]

/-- Asked for the slot on offer, `grantChSlot` answers as `grantCh`, and refuses without a channel. -/
theorem answer_grantChSlot (s : DMRAffiliationLookup) (dstId srcId grantTimeout : UInt32) (grp netGranted : Bool) :
    s.answer (.grantChSlot dstId srcId grantTimeout grp netGranted) =
      some ((s.answer (.grantCh dstId srcId grantTimeout grp netGranted)).getD false) := by
  unfold answer grantCh
  cases s.rfChTable with
  | nil => rfl
  | cons chNo rest =>
    dsimp only
    split <;> rfl

/-- **One request.** It is served iff it is one of `Servable`. -/
theorem served_iff {chNos : List UInt32} {s : DMRAffiliationLookup} (h : Stocked chNos s) (h0 : 0 ∉ chNos) (op : Op) :
    Served chNos s op ↔ Servable chNos s op := by
  -- what it takes that a waiting destination is granted a free slot in every order
  have hgrant : ∀ dstId srcId grantTimeout grp netGranted, s.Waiting dstId →
      ((∀ t, SameTables s t → t.answer (.grantCh dstId srcId grantTimeout grp netGranted) = some true) ↔
        ∃ chNo ∈ s.rfChTable.head?, ∃ slot, Free chNos s chNo slot) := by
    intro dstId srcId grantTimeout grp netGranted hwait
    cases hhead : s.rfChTable.head? with
    | none =>
      refine iff_of_false (fun hall => ?_) (by rintro ⟨chNo, hmem, -⟩; exact nomatch hmem)
      have hnone := hall s (.refl s)
      rw [answer_grantCh, hhead] at hnone
      exact nomatch hnone
    | some chNo =>
      have hmem : chNo ∈ s.rfChTable := List.mem_of_mem_head? hhead
      have hne : chNo ≠ 0 := fun heq => h0 (heq ▸ h.listed chNo hmem)
      have hans : ∀ t, SameTables s t →
          (t.answer (.grantCh dstId srcId grantTimeout grp netGranted) = some true ↔
            t.getAvailableSlotForChannel chNo ≠ 0) := by
        intro t ht
        rw [answer_grantCh, ← ht.base.rfChTable, hhead, Option.map_some, Option.some.injEq, decide_eq_true_eq]
        exact and_iff_left hwait.1
      rw [forall_congr' fun t => forall_congr' (hans t), forall_available_iff h hne hmem]
      simp
  cases op with
  | grantCh dstId srcId grantTimeout grp netGranted =>
    constructor
    · intro hserved
      constructor
      · intro hnil
        obtain ⟨ok, hok, -⟩ := hserved s (.refl s)
        rw [answer_grantCh, hnil] at hok
        exact nomatch hok
      · intro hwait hfree
        refine (hgrant dstId srcId grantTimeout grp netGranted hwait).mp fun t ht => ?_
        obtain ⟨ok, hok, hgranted⟩ := hserved t ht
        rw [hok, hgranted dstId rfl hwait hfree]
    · rintro ⟨hne, hfront⟩ t ht
      obtain ⟨chNo, hhead⟩ := Option.isSome_iff_exists.mp (List.isSome_head?.mpr (ht.base.rfChTable ▸ hne))
      refine ⟨_, (answer_grantCh ..).trans (by rw [hhead]; rfl), fun d hd hwait hfree => ?_⟩
      obtain rfl : dstId = d := Option.some.inj hd
      have hok := (hgrant dstId srcId grantTimeout grp netGranted hwait).mpr (hfront hwait hfree) t ht
      rw [answer_grantCh, hhead] at hok
      exact Option.some.inj hok
  | grantChSlot dstId srcId grantTimeout grp netGranted =>
    constructor
    · intro hserved hwait hfree
      refine (hgrant dstId srcId grantTimeout grp netGranted hwait).mp fun t ht => ?_
      obtain ⟨ok, hok, hgranted⟩ := hserved t ht
      rw [hgranted dstId rfl hwait hfree, answer_grantChSlot, Option.some.injEq] at hok
      cases hans : t.answer (.grantCh dstId srcId grantTimeout grp netGranted) with
      | none => rw [hans] at hok; exact nomatch hok
      | some b => rw [hans] at hok; exact congrArg some hok
    · intro hfront t ht
      refine ⟨_, answer_grantChSlot .., fun d hd hwait hfree => ?_⟩
      obtain rfl : dstId = d := Option.some.inj hd
      rw [(hgrant dstId srcId grantTimeout grp netGranted hwait).mpr (hfront hwait hfree) t ht]
      rfl
  | addRFCh chNo => exact iff_of_true (fun t _ => ⟨true, rfl, fun _ h => nomatch h⟩) trivial
  | touchGrant dstId => exact iff_of_true (fun t _ => ⟨true, rfl, fun _ h => nomatch h⟩) trivial
  | releaseGrant dstId releaseAll => exact iff_of_true (fun t _ => ⟨true, rfl, fun _ h => nomatch h⟩) trivial
  | clock ms => exact iff_of_true (fun t _ => ⟨true, rfl, fun _ h => nomatch h⟩) trivial

/-! ## Histories -/

/-- **Allocation over histories.** In any history of grants, releases and timers on any set of channels, with any
    iteration orders, every request is served if and only if each finds the free list non-empty where `grantCh`
    reads it and, when the destination has no grant and some slot is free, a free slot on the channel at its front. -/
theorem served_iff_servable {chNos : List UInt32} (hnodup : chNos.Nodup) (h0 : 0 ∉ chNos) {tsccChNo : UInt32}
    {tsccSlot : UInt8} {l : List (Op × DMRAffiliationLookup)}
    (hrun : Run GrantStep (setUp chNos tsccChNo tsccSlot) l) :
    Guarded (Served chNos) (setUp chNos tsccChNo tsccSlot) l ↔
      Guarded (Servable chNos) (setUp chNos tsccChNo tsccSlot) l :=
  hrun.guarded_congr (I := Stocked chNos) (fun h hst => h.step hst) (fun h op => served_iff h h0 op)
    (setUp_stocked hnodup tsccChNo tsccSlot)

/-- The run of a list of grants, releases and timers. -/
theorem run_grants (ops : List Op) (hops : ∀ op ∈ ops, ∀ chNo, op ≠ .addRFCh chNo) :
    ∀ s, Run GrantStep s (trace exec s ops) := by
  induction ops with
  | nil => exact fun _ => .nil
  | cons op ops ih =>
    exact fun s => .cons ⟨⟨s, .refl s, rfl⟩, hops op List.mem_cons_self⟩
      (ih (fun op' h => hops op' (List.mem_cons_of_mem _ h)) _)

/-- A grant beside the TSCC, and its release. -/
theorem served_iff_servable_release :
    Guarded (Served [1, 2]) (setUp [1, 2] 1 1)
      (trace exec (setUp [1, 2] 1 1) [.grantCh 100 7 10 true false, .releaseGrant 100 false]) := by
  refine (served_iff_servable (by decide) (by decide) (run_grants _ (by simp) _)).mpr
    ⟨⟨by decide, fun _ _ => ⟨1, rfl, 2, by decide, .inr rfl, by decide, fun d hd => ?_⟩⟩, trivial, trivial⟩
  exact nomatch (AList.lookup_empty d).symm.trans hd.1

/-- **A full channel in front.** Two grants fill channel 1, which stays at the front of the list: the third
    destination can be refused while nobody is on channel 2. With the TSCC on its only channel a site has an empty
    list after one grant, and the next request reads past its end. -/
theorem front_blocks :
    (∃ l, Run GrantStep (setUp [1, 2] 0 0) l ∧ ¬ Guarded (Served [1, 2]) (setUp [1, 2] 0 0) l) ∧
    ∃ l, Run GrantStep (setUp [1] 1 1) l ∧ ¬ Guarded (Served [1]) (setUp [1] 1 1) l := by
  constructor
  · let ops : List Op := [.grantCh 100 7 10 true false, .grantCh 200 8 10 true false, .grantCh 300 9 10 true false]
    let s := ((setUp [1, 2] 0 0).exec (.grantCh 100 7 10 true false)).exec (.grantCh 200 8 10 true false)
    have hrun : Run GrantStep (setUp [1, 2] 0 0) (trace exec (setUp [1, 2] 0 0) (ops.take 2)) :=
      run_grants _ (by simp [ops]) _
    have hslots : ∀ d, s.grantChSlotTable.lookup d =
        if d = 200 then some (1, 2) else if d = 100 then some (1, 1) else none := by
      intro d
      have hfirst := UnorderedMap.lookup_insert_ite (setUp [1, 2] 0 0).grantChSlotTable 100 d (1, 1)
      rw [(setUp_tables [1, 2] 0 0).2, AList.lookup_empty] at hfirst
      rw [← hfirst]
      exact UnorderedMap.lookup_insert_ite _ 200 d (1, 2)
    have hs : Stocked [1, 2] s :=
      (hrun.states_of_invariant (fun h hst => h.step hst) (setUp_stocked (by decide) 0 0)).2 (_, s)
        (List.mem_cons_of_mem _ List.mem_cons_self)
    refine ⟨trace exec (setUp [1, 2] 0 0) ops, run_grants _ (by simp [ops]) _, fun h => ?_⟩
    have hserved : Served [1, 2] s (.grantCh 300 9 10 true false) := h.2.2.1
    have hother : Free [1, 2] s 2 1 := by
      refine ⟨by decide, .inl rfl, by decide, fun d hd => ?_⟩
      have hlk := (hslots d).symm.trans hd.2
      split at hlk
      · exact absurd hlk (by decide)
      · split at hlk <;> exact absurd hlk (by decide)
    obtain ⟨chNo, hhead, slot, hfree⟩ :=
      ((served_iff hs (by decide) _).mp hserved).2 ⟨by decide, by decide⟩ ⟨2, 1, hother⟩
    obtain rfl : 1 = chNo := Option.some.inj hhead
    rcases hfree.slots with rfl | rfl
    · exact hfree.unheld 100 ⟨by decide, hslots 100⟩
    · exact hfree.unheld 200 ⟨by decide, hslots 200⟩
  · refine ⟨trace exec (setUp [1] 1 1) [.grantCh 100 7 10 true false, .grantCh 200 8 10 true false],
      run_grants _ (by simp) _, fun h => ?_⟩
    obtain ⟨ok, hok, -⟩ := h.2.1 _ (.refl _)
    exact nomatch hok

end DMRAffiliationLookup

end DvmHost

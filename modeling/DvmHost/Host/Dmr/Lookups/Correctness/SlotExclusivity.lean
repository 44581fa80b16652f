import DvmHost.Lib.Run
import DvmHost.Host.Dmr.Lookups.DMRAffiliationLookup

/-!
# `Host.Dmr.Lookups.Correctness.SlotExclusivity` — one grant per channel and slot

A live grant of `DMRAffiliationLookup` occupies a pair of channel and slot. Exclusivity says that no two
grants occupy one pair, that none occupies the TSCC, and that the slot `getAvailableSlotForChannel` offers
does not depend on the order in which the slot table iterates (`Exclusive`).

The picker folds over the table and flips its answer each time it meets the slot it would return. With one
grant on the channel this is right; with both slots granted, meeting 1 before 2 finds the channel full and
meeting 2 before 1 offers slot 2 again. Under the invariant `Consistent` the three properties therefore come
down to **no channel carrying two grants** (`exclusive_iff_alone`), and a run keeps them exactly when no
grant is made on a channel that another destination is already on (`exclusive_iff_fits`).
-/

namespace DvmHost

namespace DMRAffiliationLookup

open Lib

/-- Destination `dstId` has a live grant of `slot` on channel `chNo`. -/
def Live (s : DMRAffiliationLookup) (dstId chNo : UInt32) (slot : UInt8) : Prop :=
  s.grantChTable.lookup dstId = some chNo ∧ s.grantChSlotTable.lookup dstId = some (chNo, slot)

/-- **Slot exclusivity.** -/
structure Exclusive (s : DMRAffiliationLookup) : Prop where
  /-- No two live grants share a channel and slot. -/
  distinct : ∀ d d' ch slot, s.Live d ch slot → s.Live d' ch slot → d = d'
  /-- No live grant is on the TSCC. -/
  offTscc : ∀ d, ¬ s.Live d s.tsccChNo s.tsccSlot
  /-- The slot on offer is the same for every iteration order. -/
  orderFree : ∀ t, SameTables s t → ∀ ch,
    t.getAvailableSlotForChannel ch = s.getAvailableSlotForChannel ch

/-- The operations; `grantChSlot` is called with the slot `getAvailableSlotForChannel` gives for the channel
    at the front, when it gives one. -/
inductive Op
  | addRFCh (chNo : UInt32)
  | grantCh (dstId srcId grantTimeout : UInt32) (grp netGranted : Bool)
  | grantChSlot (dstId srcId grantTimeout : UInt32) (grp netGranted : Bool)
  | touchGrant (dstId : UInt32)
  | releaseGrant (dstId : UInt32) (releaseAll : Bool)
  | clock (ms : UInt32)

/-- One call. The exception of `grantCh` on an empty free list leaves the tables as they are. -/
def exec (s : DMRAffiliationLookup) : Op → DMRAffiliationLookup
  | .addRFCh chNo => s.addRFCh chNo
  | .grantCh dstId srcId grantTimeout grp netGranted =>
      match s.grantCh dstId srcId grantTimeout grp netGranted with
      | none => s
      | some (_, t) => t
  | .grantChSlot dstId srcId grantTimeout grp netGranted =>
      match s.rfChTable with
      | [] => s
      | chNo :: _ =>
          let slot := s.getAvailableSlotForChannel chNo
          if slot = 0 then s else (s.grantChSlot dstId srcId slot grantTimeout grp netGranted).2
  | .touchGrant dstId => s.touchGrant dstId
  | .releaseGrant dstId releaseAll => (s.releaseGrant dstId releaseAll).2
  | .clock ms => s.clock ms

/-- One call, the maps iterating in any order whatever. -/
def Step (s : DMRAffiliationLookup) (op : Op) (s' : DMRAffiliationLookup) : Prop :=
  ∃ t, SameTables s t ∧ s' = t.exec op

/-- The table as the host sets it up: the channels added, the TSCC set (a slot other than 1 or 2 leaves it
    unset), and nothing granted. -/
def setUp (chNos : List UInt32) (tsccChNo : UInt32) (tsccSlot : UInt8) : DMRAffiliationLookup :=
  (chNos.foldl addRFCh new).setSlotForChannelTSCC tsccChNo tsccSlot

/-- **The steps that keep exclusivity.** A grant must find the front channel unused by any other
    destination, unless it is refused anyway: for destination 0, with no free channel or channel 0 at the
    front, or when the front channel carries the TSCC on slot 2. -/
def Fits (s : DMRAffiliationLookup) : Op → Prop
  | .grantCh dstId _ _ _ _ | .grantChSlot dstId _ _ _ _ =>
      dstId = 0 ∨ ∀ chNo ∈ s.rfChTable.head?,
        chNo = 0 ∨ (chNo = s.tsccChNo ∧ s.tsccSlot = 2) ∨ ∀ d slot, s.Live d chNo slot → d = dstId
  | _ => True

/-! ## The slot picker -/

theorem opposite_ne {slot : UInt8} (h : slot = 1 ∨ slot = 2) : opposite slot ≠ slot := by
  rcases h with rfl | rfl <;> decide

/-- The running answer of the picker is slot 1 or slot 2. -/
theorem scanSlots_slot (foundSlots : List UInt8) :
    (scanSlots foundSlots).slot = 1 ∨ (scanSlots foundSlots).slot = 2 := by
  unfold scanSlots
  suffices h : ∀ r : SlotScan, (r.slot = 1 ∨ r.slot = 2) →
      (foundSlots.foldl scanSlot r).slot = 1 ∨ (foundSlots.foldl scanSlot r).slot = 2 from
    h _ (Or.inl rfl)
  induction foundSlots with
  | nil => intro r hr; exact hr
  | cons f fs ih =>
      intro r hr
      refine ih _ ?_
      unfold scanSlot
      split
      · next hf =>
          subst hf
          rcases hr with hr | hr
          · right; rw [hr]; rfl
          · left; rw [hr]; rfl
      · exact hr

/-- What the picker offers is no slot, or a slot that is not the TSCC. -/
theorem available_cases (s : DMRAffiliationLookup) (ch : UInt32) :
    s.getAvailableSlotForChannel ch = 0 ∨
      ((s.getAvailableSlotForChannel ch = 1 ∨ s.getAvailableSlotForChannel ch = 2) ∧
        ¬ (ch = s.tsccChNo ∧ s.getAvailableSlotForChannel ch = s.tsccSlot)) := by
  have hr := scanSlots_slot (s.slotsOn ch)
  unfold getAvailableSlotForChannel
  dsimp only
  split
  · exact Or.inl rfl
  split
  · exact Or.inl rfl
  split
  · next hts =>
      split
      · exact Or.inl rfl
      · refine Or.inr ⟨?_, fun h => opposite_ne (hts.2 ▸ hr) h.2⟩
        rw [← hts.2]
        rcases hr with hr | hr
        · right; rw [hr]; rfl
        · left; rw [hr]; rfl
  · next hts => exact Or.inr ⟨hr, hts⟩

/-- A scan that meets no slot 1 leaves a slot to offer. -/
theorem available_of_unscanned {s : DMRAffiliationLookup} {ch : UInt32} (hch : ch ≠ 0)
    (h : scanSlots (s.slotsOn ch) = ⟨1, false, 0⟩) : s.getAvailableSlotForChannel ch ≠ 0 := by
  unfold getAvailableSlotForChannel
  rw [if_neg hch, h]
  dsimp only
  rw [if_neg (by decide)]
  split
  · next hts => rw [← hts.2]; decide
  · decide

/-- A scan that met slot 1 only offers slot 2, unless the TSCC is there. -/
theorem available_of_flipped {s : DMRAffiliationLookup} {ch : UInt32} (hch : ch ≠ 0)
    (h : scanSlots (s.slotsOn ch) = ⟨2, true, 1⟩) :
    s.getAvailableSlotForChannel ch = if ch = s.tsccChNo ∧ s.tsccSlot = 2 then 0 else 2 := by
  unfold getAvailableSlotForChannel
  rw [if_neg hch, h]
  dsimp only
  rw [if_neg (by decide), if_pos rfl]
  simp only [eq_comm (a := (2 : UInt8))]

theorem slotsOn_nil {ch : UInt32} {l : List (Sigma fun _ : UInt32 => UInt32 × UInt8)}
    (h : ∀ e ∈ l, e.2.1 ≠ ch) :
    l.filterMap (fun e => if e.2.1 = ch then some e.2.2 else none) = [] := by
  rw [List.filterMap_eq_nil_iff]
  intro e he
  simp [h e he]

/-- A channel nobody is on has no slots in the table. -/
theorem slotsOn_eq_nil {s : DMRAffiliationLookup} {ch : UInt32}
    (h : ∀ d slot, s.grantChSlotTable.lookup d ≠ some (ch, slot)) : s.slotsOn ch = [] := by
  refine slotsOn_nil ?_
  rintro ⟨d, ch', slot⟩ he rfl
  exact h d slot (AList.mem_lookup_iff.mpr he)

/-- A channel with a single grant has that one slot. -/
theorem slotsOn_eq_singleton {s : DMRAffiliationLookup} {d ch : UInt32} {slot : UInt8}
    (hd : s.grantChSlotTable.lookup d = some (ch, slot))
    (honly : ∀ d' slot', s.grantChSlotTable.lookup d' = some (ch, slot') → d' = d) :
    s.slotsOn ch = [slot] := by
  obtain ⟨rest, hperm, hrest, -⟩ := UnorderedMap.exists_perm_cons hd
  have hnil : rest.filterMap (fun e => if e.2.1 = ch then some e.2.2 else none) = [] := slotsOn_nil (by
    rintro ⟨d', ch', slot'⟩ he rfl
    exact (hrest _ he).1 (honly d' slot' (hrest _ he).2))
  have hslots := hperm.filterMap (fun e => if e.2.1 = ch then some e.2.2 else none)
  rw [List.filterMap_cons, hnil, if_pos rfl] at hslots
  exact hslots.eq_singleton

/-- Two grants on one channel can be iterated in either order. -/
theorem exists_slotsOn_pair {s : DMRAffiliationLookup} {d d' ch : UInt32} {slot slot' : UInt8}
    (hd : s.grantChSlotTable.lookup d = some (ch, slot))
    (hd' : s.grantChSlotTable.lookup d' = some (ch, slot')) (hne : d' ≠ d)
    (honly : ∀ e sl, s.grantChSlotTable.lookup e = some (ch, sl) → e = d ∨ e = d') :
    ∃ t, SameTables s t ∧ t.slotsOn ch = [slot, slot'] := by
  obtain ⟨rest, hperm, hrest, hin⟩ := UnorderedMap.exists_perm_cons hd
  obtain ⟨pre, post, rfl⟩ := List.append_of_mem (hin d' _ hne hd')
  have hperm' : s.grantChSlotTable.entries.Perm (⟨d, ch, slot⟩ :: ⟨d', ch, slot'⟩ :: (pre ++ post)) :=
    hperm.trans (List.perm_middle.cons _)
  refine ⟨{ s with grantChSlotTable := s.grantChSlotTable.reorder _ hperm' },
    ⟨.refl _, UnorderedMap.sameMap_reorder _ _ hperm', rfl, rfl⟩, ?_⟩
  have hkeys := (List.perm_nodupKeys hperm').mp s.grantChSlotTable.nodupKeys
  rw [List.nodupKeys_cons, List.nodupKeys_cons] at hkeys
  have hnil : (pre ++ post).filterMap (fun e => if e.2.1 = ch then some e.2.2 else none) = [] := slotsOn_nil (by
    rintro ⟨e, ch', sl⟩ he rfl
    have hek : e ∈ (pre ++ post).keys := List.mem_keys_of_mem he
    have hlk : s.grantChSlotTable.lookup e = some (ch', sl) :=
      AList.mem_lookup_iff.mpr (hperm'.mem_iff.mpr (List.mem_cons_of_mem _ (List.mem_cons_of_mem _ he)))
    rcases honly e sl hlk with rfl | rfl
    · exact hkeys.1 (List.mem_cons_of_mem _ hek)
    · exact hkeys.2.1 hek)
  show List.filterMap _ (_ :: _ :: (pre ++ post)) = _
  rw [List.filterMap_cons, List.filterMap_cons, hnil]
  simp

/-! ## The invariant -/

/-- **The auxiliary invariant.** The two grant tables agree, every grant is of slot 1 or 2 on a non-zero
    channel, and the TSCC is not granted. Every operation keeps it. -/
structure Consistent (s : DMRAffiliationLookup) : Prop where
  agree : ∀ d, s.grantChTable.lookup d = (s.grantChSlotTable.lookup d).map Prod.fst
  slots : ∀ d ch slot, s.grantChSlotTable.lookup d = some (ch, slot) → slot = 1 ∨ slot = 2
  channels : ∀ d ch slot, s.grantChSlotTable.lookup d = some (ch, slot) → ch ≠ 0
  offTscc : ∀ d, s.grantChSlotTable.lookup d ≠ some (s.tsccChNo, s.tsccSlot)

theorem Consistent.live_iff {s : DMRAffiliationLookup} (h : Consistent s) {d ch : UInt32} {slot : UInt8} :
    s.Live d ch slot ↔ s.grantChSlotTable.lookup d = some (ch, slot) := by
  unfold Live
  refine ⟨fun hl => hl.2, fun hl => ⟨?_, hl⟩⟩
  rw [h.agree, hl]
  rfl

/-- No channel carries the grants of two destinations. -/
def Alone (s : DMRAffiliationLookup) : Prop :=
  ∀ d d' ch slot slot', s.grantChSlotTable.lookup d = some (ch, slot) →
    s.grantChSlotTable.lookup d' = some (ch, slot') → d = d'

theorem slotsOn_of_sameTables {s t : DMRAffiliationLookup} (h : Alone s) (hst : SameTables s t)
    (ch : UInt32) : t.slotsOn ch = s.slotsOn ch := by
  have hlk : ∀ d, s.grantChSlotTable.lookup d = t.grantChSlotTable.lookup d := hst.grantChSlotTable.lookup_eq
  by_cases hon : ∃ d slot, s.grantChSlotTable.lookup d = some (ch, slot)
  · obtain ⟨d, slot, hd⟩ := hon
    rw [slotsOn_eq_singleton hd (fun d' slot' hd' => h _ _ _ _ _ hd' hd),
      slotsOn_eq_singleton (hlk d ▸ hd) (fun d' slot' hd' => h _ _ _ _ _ ((hlk d').trans hd') hd)]
  · have hoff : ∀ d slot, s.grantChSlotTable.lookup d ≠ some (ch, slot) :=
      fun d slot hd => hon ⟨d, slot, hd⟩
    rw [slotsOn_eq_nil hoff, slotsOn_eq_nil (fun d slot hd => hoff d slot ((hlk d).trans hd))]

/-- **Exclusivity is solitude.** With both slots of a channel granted, the picker's answer depends on which
    of the two the slot table lists first. -/
theorem exclusive_iff_alone {s : DMRAffiliationLookup} (h : Consistent s) : Exclusive s ↔ Alone s := by
  constructor
  · intro hex d d' ch slot slot' hd hd'
    by_contra hne
    have hslot : slot ≠ slot' := by
      rintro rfl
      exact hne (hex.distinct d d' ch slot (h.live_iff.mpr hd) (h.live_iff.mpr hd'))
    -- name the grants by their slots
    wlog hone : slot = 1 generalizing d d' slot slot'
    · have hslot1 : slot' = 1 := by
        rcases h.slots d ch slot hd with h1 | h2
        · exact absurd h1 hone
        · rcases h.slots d' ch slot' hd' with h1 | h2'
          · exact h1
          · exact absurd (h2.trans h2'.symm) hslot
      exact this d' d slot' slot hd' hd (fun he => hne he.symm) hslot.symm hslot1
    have htwo : slot' = 2 := (h.slots d' ch slot' hd').resolve_left (fun h1 => hslot (hone.trans h1.symm))
    subst hone htwo
    have hch : ch ≠ 0 := h.channels d ch 1 hd
    have honly : ∀ e sl, s.grantChSlotTable.lookup e = some (ch, sl) → e = d ∨ e = d' := by
      intro e sl he
      rcases h.slots e ch sl he with rfl | rfl
      · exact Or.inl (hex.distinct e d ch 1 (h.live_iff.mpr he) (h.live_iff.mpr hd))
      · exact Or.inr (hex.distinct e d' ch 2 (h.live_iff.mpr he) (h.live_iff.mpr hd'))
    obtain ⟨t, ht, htslots⟩ := exists_slotsOn_pair hd hd' (fun he => hne he.symm) honly
    obtain ⟨u, hu, huslots⟩ := exists_slotsOn_pair hd' hd hne (fun e sl he => (honly e sl he).symm)
    have hfull : t.getAvailableSlotForChannel ch = 0 := by
      unfold getAvailableSlotForChannel
      rw [if_neg hch, htslots]
      rfl
    have htscc : ¬ (ch = u.tsccChNo ∧ u.tsccSlot = 2) := by
      rw [← hu.tsccChNo, ← hu.tsccSlot]
      rintro ⟨rfl, htwo⟩
      exact h.offTscc d' (htwo ▸ hd')
    have hoffer : u.getAvailableSlotForChannel ch = 2 := by
      rw [available_of_flipped hch (by rw [huslots]; decide), if_neg htscc]
    have hsame := (hex.orderFree t ht ch).trans (hex.orderFree u hu ch).symm
    rw [hfull, hoffer] at hsame
    exact absurd hsame (by decide)
  · intro hal
    refine ⟨fun d d' ch slot hd hd' => hal d d' ch slot slot hd.2 hd'.2, fun d hd => h.offTscc d hd.2, ?_⟩
    intro t ht ch
    unfold getAvailableSlotForChannel
    rw [slotsOn_of_sameTables hal ht ch, ht.tsccChNo, ht.tsccSlot]

/-! ## What the operations do to the grants -/

/-- `t` has the TSCC of `s` and some of its grants, unchanged. -/
structure Fewer (s t : DMRAffiliationLookup) : Prop where
  tsccChNo : t.tsccChNo = s.tsccChNo
  tsccSlot : t.tsccSlot = s.tsccSlot
  each : ∀ d, (t.grantChTable.lookup d = s.grantChTable.lookup d ∧
      t.grantChSlotTable.lookup d = s.grantChSlotTable.lookup d) ∨
    (t.grantChTable.lookup d = none ∧ t.grantChSlotTable.lookup d = none)

theorem Fewer.refl (s : DMRAffiliationLookup) : Fewer s s := ⟨rfl, rfl, fun _ => Or.inl ⟨rfl, rfl⟩⟩

theorem Fewer.trans {s t u : DMRAffiliationLookup} (h : Fewer s t) (h' : Fewer t u) : Fewer s u := by
  refine ⟨h'.1.trans h.1, h'.2.trans h.2, fun d => ?_⟩
  rcases h'.each d with ⟨hc, hs⟩ | hnone
  · rw [hc, hs]; exact h.each d
  · exact Or.inr hnone

theorem Fewer.slot {s t : DMRAffiliationLookup} (h : Fewer s t) {d : UInt32} {v : UInt32 × UInt8}
    (hd : t.grantChSlotTable.lookup d = some v) : s.grantChSlotTable.lookup d = some v := by
  rcases h.each d with ⟨-, hs⟩ | ⟨-, hs⟩
  · rw [← hs, hd]
  · rw [hs] at hd; exact absurd hd (by simp)

theorem Fewer.of_sameTables {s t : DMRAffiliationLookup} (h : SameTables s t) : Fewer s t :=
  ⟨h.tsccChNo.symm, h.tsccSlot.symm,
    fun d => Or.inl ⟨(h.base.grantChTable.lookup_eq d).symm, (h.grantChSlotTable.lookup_eq d).symm⟩⟩

theorem Consistent.of_fewer {s t : DMRAffiliationLookup} (h : Consistent s) (hst : Fewer s t) :
    Consistent t := by
  refine ⟨fun d => ?_, fun d ch slot hd => h.slots d ch slot (hst.slot hd),
    fun d ch slot hd => h.channels d ch slot (hst.slot hd), fun d hd => ?_⟩
  · rcases hst.each d with ⟨hc, hs⟩ | ⟨hc, hs⟩
    · rw [hc, hs]; exact h.agree d
    · rw [hc, hs]; rfl
  · rw [hst.tsccChNo, hst.tsccSlot] at hd
    exact h.offTscc d (hst.slot hd)

theorem Alone.of_fewer {s t : DMRAffiliationLookup} (h : Alone s) (hst : Fewer s t) : Alone t :=
  fun d d' ch slot slot' hd hd' => h d d' ch slot slot' (hst.slot hd) (hst.slot hd')

theorem fewer_releaseOne (s : DMRAffiliationLookup) (dstId : UInt32) :
    Fewer s (s.releaseOne dstId).2 := by
  unfold releaseOne
  split
  · dsimp only
    split
    · exact .refl s
    · refine ⟨rfl, rfl, fun d => ?_⟩
      rw [UnorderedMap.lookup_erase_ite, UnorderedMap.lookup_erase_ite]
      by_cases hd : d = dstId
      · exact Or.inr ⟨if_pos hd, if_pos hd⟩
      · exact Or.inl ⟨if_neg hd, if_neg hd⟩
  · exact .refl s

theorem fewer_releaseEach (gnts : List UInt32) : ∀ s : DMRAffiliationLookup, Fewer s (s.releaseEach gnts) := by
  induction gnts with
  | nil => intro s; exact .refl s
  | cons d ds ih => intro s; exact (fewer_releaseOne s d).trans (ih _)

theorem fewer_releaseGrant (s : DMRAffiliationLookup) (dstId : UInt32) (releaseAll : Bool) :
    Fewer s (s.releaseGrant dstId releaseAll).2 := by
  unfold releaseGrant
  split
  · exact .refl s
  · split
    · exact fewer_releaseEach _ s
    · exact fewer_releaseOne s dstId

theorem fewer_of_sameGrants {s : DMRAffiliationLookup} {t : AffiliationLookup}
    (h : AffiliationLookup.SameGrants s.toAffiliationLookup t) :
    Fewer s { s with toAffiliationLookup := t } :=
  ⟨rfl, rfl, fun d => Or.inl ⟨congrArg (AList.lookup d) h.grantChTable, rfl⟩⟩

theorem fewer_clock (s : DMRAffiliationLookup) (ms : UInt32) : Fewer s (s.clock ms) :=
  (fewer_of_sameGrants (AffiliationLookup.clockTimers_sameGrants _ ms)).trans (fewer_releaseEach _ _)

/-- `dstId` was given the slot on offer on the front channel. -/
structure Placed (s : DMRAffiliationLookup) (dstId : UInt32) (t : DMRAffiliationLookup) (chNo : UInt32) :
    Prop where
  dst : dstId ≠ 0
  front : s.rfChTable.head? = some chNo
  offered : s.getAvailableSlotForChannel chNo ≠ 0
  grantChTable : t.grantChTable = s.grantChTable.insert dstId chNo
  grantChSlotTable :
    t.grantChSlotTable = s.grantChSlotTable.insert dstId (chNo, s.getAvailableSlotForChannel chNo)
  tsccChNo : t.tsccChNo = s.tsccChNo
  tsccSlot : t.tsccSlot = s.tsccSlot

/-- A grant is refused, for destination 0 or for want of a slot, or placed. -/
theorem exec_grantCh_cases (s : DMRAffiliationLookup) (dstId srcId grantTimeout : UInt32)
    (grp netGranted : Bool) :
    (s.exec (.grantCh dstId srcId grantTimeout grp netGranted) = s ∧
      (dstId = 0 ∨ ∀ chNo ∈ s.rfChTable.head?, s.getAvailableSlotForChannel chNo = 0)) ∨
    ∃ chNo, Placed s dstId (s.exec (.grantCh dstId srcId grantTimeout grp netGranted)) chNo := by
  unfold exec grantCh
  cases hfree : s.rfChTable with
  | nil => exact Or.inl ⟨rfl, Or.inr (by simp)⟩
  | cons chNo rest =>
      dsimp only
      by_cases hav : s.getAvailableSlotForChannel chNo = 0
      · rw [if_pos hav]
        exact Or.inl ⟨rfl, Or.inr (by simpa using hav)⟩
      · rw [if_neg hav]
        have hts := ((available_cases s chNo).resolve_left hav).2
        unfold grantChSlot
        by_cases hd : dstId = 0
        · exact Or.inl ⟨by rw [if_pos hd], Or.inl hd⟩
        · right
          rw [if_neg hd, hfree]
          dsimp only
          rw [if_neg hts]
          exact ⟨chNo, hd, by rw [hfree]; rfl, hav, rfl, rfl, rfl, rfl⟩

/-- Called with the slot on offer, `grantChSlot` is `grantCh`. -/
theorem exec_grantChSlot (s : DMRAffiliationLookup) (dstId srcId grantTimeout : UInt32)
    (grp netGranted : Bool) :
    s.exec (.grantChSlot dstId srcId grantTimeout grp netGranted) =
      s.exec (.grantCh dstId srcId grantTimeout grp netGranted) := by
  unfold exec grantCh
  cases s.rfChTable with
  | nil => rfl
  | cons chNo rest =>
      dsimp only
      split <;> rfl

theorem Consistent.of_placed {s t : DMRAffiliationLookup} {dstId chNo : UInt32} (h : Consistent s)
    (hp : Placed s dstId t chNo) : Consistent t := by
  obtain ⟨hslot, hts⟩ := (available_cases s chNo).resolve_left hp.offered
  have hlk : ∀ d, t.grantChSlotTable.lookup d =
      if d = dstId then some (chNo, s.getAvailableSlotForChannel chNo) else s.grantChSlotTable.lookup d := by
    intro d; rw [hp.grantChSlotTable, UnorderedMap.lookup_insert_ite]
  have hch : chNo ≠ 0 := by
    rintro rfl
    exact hp.offered (by unfold getAvailableSlotForChannel; rw [if_pos rfl])
  refine ⟨fun d => ?_, fun d ch slot hd => ?_, fun d ch slot hd => ?_, fun d hd => ?_⟩
  · rw [hlk, hp.grantChTable, UnorderedMap.lookup_insert_ite]
    split
    · rfl
    · exact h.agree d
  · rw [hlk] at hd
    split at hd
    · cases hd; exact hslot
    · exact h.slots d ch slot hd
  · rw [hlk] at hd
    split at hd
    · cases hd; exact hch
    · exact h.channels d ch slot hd
  · rw [hlk, hp.tsccChNo, hp.tsccSlot] at hd
    split at hd
    · rw [Option.some.injEq, Prod.mk.injEq] at hd
      exact hts hd
    · exact h.offTscc d hd

/-- A grant placed on a channel keeps solitude exactly when no other destination is on it. -/
theorem alone_placed_iff {s t : DMRAffiliationLookup} {dstId chNo : UInt32} (h : Alone s)
    (hp : Placed s dstId t chNo) :
    Alone t ↔ ∀ d slot, s.grantChSlotTable.lookup d = some (chNo, slot) → d = dstId := by
  have hlk : ∀ d, t.grantChSlotTable.lookup d =
      if d = dstId then some (chNo, s.getAvailableSlotForChannel chNo) else s.grantChSlotTable.lookup d := by
    intro d; rw [hp.grantChSlotTable, UnorderedMap.lookup_insert_ite]
  constructor
  · intro hal d slot hd
    by_contra hne
    exact hne (hal d dstId chNo slot _ (by rw [hlk, if_neg hne]; exact hd) (by rw [hlk, if_pos rfl]))
  · intro honly d d' ch slot slot' hd hd'
    rw [hlk] at hd hd'
    split at hd <;> split at hd'
    · next he he' => exact he.trans he'.symm
    · next he he' => cases hd; exact absurd (honly d' slot' hd') he'
    · next he he' => cases hd'; exact absurd (honly d slot hd) he
    · exact h d d' ch slot slot' hd hd'

/-- While every grant is alone on its channel, the picker refuses only because of the TSCC on slot 2. -/
theorem available_eq_zero {s : DMRAffiliationLookup} {ch : UInt32} (h : Consistent s) (hal : Alone s)
    (hav : s.getAvailableSlotForChannel ch = 0) : ch = 0 ∨ (ch = s.tsccChNo ∧ s.tsccSlot = 2) := by
  by_cases hch : ch = 0
  · exact Or.inl hch
  right
  by_cases hon : ∃ d slot, s.grantChSlotTable.lookup d = some (ch, slot)
  · obtain ⟨d, slot, hd⟩ := hon
    have hslots := slotsOn_eq_singleton hd (fun d' slot' hd' => hal _ _ _ _ _ hd' hd)
    rcases h.slots d ch slot hd with rfl | rfl
    · rw [available_of_flipped hch (by rw [hslots]; decide)] at hav
      by_contra hts
      rw [if_neg hts] at hav
      exact absurd hav (by decide)
    · exact absurd hav (available_of_unscanned hch (by rw [hslots]; decide))
  · have hslots := slotsOn_eq_nil (fun d slot hd => hon ⟨d, slot, hd⟩)
    exact absurd hav (available_of_unscanned hch (by rw [hslots]; decide))

/-- A channel with the TSCC on slot 2 and any grant has nothing to offer. -/
theorem available_tscc_two {s : DMRAffiliationLookup} {d ch : UInt32} {slot : UInt8} (h : Consistent s)
    (hal : Alone s) (hd : s.grantChSlotTable.lookup d = some (ch, slot)) (hch : ch = s.tsccChNo)
    (htwo : s.tsccSlot = 2) : s.getAvailableSlotForChannel ch = 0 := by
  have hslots := slotsOn_eq_singleton hd (fun d' slot' hd' => hal _ _ _ _ _ hd' hd)
  rcases h.slots d ch slot hd with rfl | rfl
  · rw [available_of_flipped (h.channels d ch 1 hd) (by rw [hslots]; decide), if_pos ⟨hch, htwo⟩]
  · exact absurd (by rw [← hch, htwo]; exact hd) (h.offTscc d)

/-- **The step law.** From a state where every grant is alone on its channel, a call keeps that exactly when
    it is one of `Fits`. -/
theorem alone_exec_iff {s : DMRAffiliationLookup} (h : Consistent s) (hal : Alone s) (op : Op) :
    Alone (s.exec op) ↔ Fits s op := by
  have hgrant : ∀ dstId srcId grantTimeout grp netGranted,
      Alone (s.exec (.grantCh dstId srcId grantTimeout grp netGranted)) ↔
        Fits s (.grantCh dstId srcId grantTimeout grp netGranted) := by
    intro dstId srcId grantTimeout grp netGranted
    rcases exec_grantCh_cases s dstId srcId grantTimeout grp netGranted with ⟨hsame, hwhy⟩ | ⟨chNo, hp⟩
    · rw [hsame]
      refine iff_of_true hal (hwhy.imp id fun hnone chNo hfront => ?_)
      rcases available_eq_zero h hal (hnone chNo hfront) with h0 | hts
      · exact Or.inl h0
      · exact Or.inr (Or.inl hts)
    · rw [alone_placed_iff hal hp]
      constructor
      · intro honly
        refine Or.inr fun ch hfront => Or.inr (Or.inr fun d slot hd => ?_)
        have hchNo : ch = chNo := Option.some.inj (hfront.symm.trans hp.front)
        exact honly d slot (hchNo ▸ hd.2)
      · rintro hfits d slot hd
        rcases hfits.resolve_left hp.dst chNo hp.front with h0 | ⟨hch, htwo⟩ | honly
        · exact absurd h0 (h.channels d chNo slot hd)
        · exact absurd (available_tscc_two h hal hd hch htwo) hp.offered
        · exact honly d slot (h.live_iff.mpr hd)
  cases op with
  | addRFCh chNo => exact iff_of_true hal trivial
  | grantCh dstId srcId grantTimeout grp netGranted => exact hgrant ..
  | grantChSlot dstId srcId grantTimeout grp netGranted => rw [exec_grantChSlot]; exact hgrant ..
  | touchGrant dstId =>
      exact iff_of_true (hal.of_fewer (fewer_of_sameGrants (AffiliationLookup.touchGrant_sameGrants _ dstId)))
        trivial
  | releaseGrant dstId releaseAll => exact iff_of_true (hal.of_fewer (fewer_releaseGrant s _ _)) trivial
  | clock ms => exact iff_of_true (hal.of_fewer (fewer_clock s ms)) trivial

/-- Every operation keeps the invariant, whatever it grants. -/
theorem consistent_exec {s : DMRAffiliationLookup} (h : Consistent s) (op : Op) : Consistent (s.exec op) := by
  have hgrant : ∀ dstId srcId grantTimeout grp netGranted,
      Consistent (s.exec (.grantCh dstId srcId grantTimeout grp netGranted)) := by
    intro dstId srcId grantTimeout grp netGranted
    rcases exec_grantCh_cases s dstId srcId grantTimeout grp netGranted with ⟨hsame, -⟩ | ⟨chNo, hp⟩
    · rw [hsame]; exact h
    · exact h.of_placed hp
  cases op with
  | addRFCh chNo => exact h.of_fewer ⟨rfl, rfl, fun _ => Or.inl ⟨rfl, rfl⟩⟩
  | grantCh dstId srcId grantTimeout grp netGranted => exact hgrant ..
  | grantChSlot dstId srcId grantTimeout grp netGranted => rw [exec_grantChSlot]; exact hgrant ..
  | touchGrant dstId =>
      exact h.of_fewer (fewer_of_sameGrants (AffiliationLookup.touchGrant_sameGrants _ dstId))
  | releaseGrant dstId releaseAll => exact h.of_fewer (fewer_releaseGrant s _ _)
  | clock ms => exact h.of_fewer (fewer_clock s ms)

/-! ## The run -/

theorem fits_of_sameTables {s t : DMRAffiliationLookup} (hst : SameTables s t) (op : Op) :
    Fits t op ↔ Fits s op := by
  have hlive : ∀ d ch slot, t.Live d ch slot ↔ s.Live d ch slot := fun d ch slot => by
    unfold Live; rw [hst.base.grantChTable.lookup_eq, hst.grantChSlotTable.lookup_eq]
  cases op <;> simp only [Fits, hlive, hst.base.rfChTable, hst.tsccChNo, hst.tsccSlot]

theorem setUp_tables (chNos : List UInt32) (tsccChNo : UInt32) (tsccSlot : UInt8) :
    (setUp chNos tsccChNo tsccSlot).grantChTable = ∅ ∧
      (setUp chNos tsccChNo tsccSlot).grantChSlotTable = ∅ := by
  have hadd : ∀ s : DMRAffiliationLookup, s.grantChTable = ∅ ∧ s.grantChSlotTable = ∅ →
      (chNos.foldl addRFCh s).grantChTable = ∅ ∧ (chNos.foldl addRFCh s).grantChSlotTable = ∅ := by
    induction chNos with
    | nil => intro s hs; exact hs
    | cons ch chs ih => intro s hs; exact ih _ hs
  have hnew := hadd new ⟨rfl, rfl⟩
  unfold setUp setSlotForChannelTSCC
  split
  · exact hnew
  · exact hnew

theorem setUp_consistent (chNos : List UInt32) (tsccChNo : UInt32) (tsccSlot : UInt8) :
    Consistent (setUp chNos tsccChNo tsccSlot) ∧ Alone (setUp chNos tsccChNo tsccSlot) := by
  obtain ⟨hch, hslot⟩ := setUp_tables chNos tsccChNo tsccSlot
  have hnone : ∀ d, (setUp chNos tsccChNo tsccSlot).grantChSlotTable.lookup d = none := by
    intro d; rw [hslot]; exact AList.lookup_empty d
  refine ⟨⟨fun d => ?_, fun d ch slot hd => ?_, fun d ch slot hd => ?_, fun d hd => ?_⟩,
    fun d d' ch slot slot' hd => ?_⟩
  · rw [hnone, hch]; exact AList.lookup_empty d
  all_goals rw [hnone] at hd; exact absurd hd (by simp)

/-- **Slot exclusivity over runs.** From any set-up, in a run of any operations in any order and with any
    map iteration orders, exclusivity holds in every state if and only if every step is one of `Fits`. -/
theorem exclusive_iff_fits {chNos : List UInt32} {tsccChNo : UInt32} {tsccSlot : UInt8}
    {l : List (Op × DMRAffiliationLookup)} (hrun : Run Step (setUp chNos tsccChNo tsccSlot) l) :
    States Exclusive (setUp chNos tsccChNo tsccSlot) l ↔ Guarded Fits (setUp chNos tsccChNo tsccSlot) l := by
  have hstep : ∀ {s : DMRAffiliationLookup} {op : Op} {s' : DMRAffiliationLookup}, Consistent s →
      Exclusive s → Step s op s' → Consistent s' ∧ (Exclusive s' ↔ Fits s op) := by
    rintro s op s' hc hex ⟨t, hsame, rfl⟩
    have hct : Consistent t := hc.of_fewer (.of_sameTables hsame)
    have halt : Alone t := ((exclusive_iff_alone hc).mp hex).of_fewer (.of_sameTables hsame)
    have hc' := consistent_exec hct op
    refine ⟨hc', ?_⟩
    rw [exclusive_iff_alone hc', alone_exec_iff hct halt, fits_of_sameTables hsame]
  obtain ⟨hc, hal⟩ := setUp_consistent chNos tsccChNo tsccSlot
  exact hrun.states_iff_guarded (I := Consistent) (P := Exclusive) (G := Fits)
    (fun hI hP hG hst => ⟨(hstep hI hP hst).1, (hstep hI hP hst).2.mpr hG⟩)
    (fun hI hP hst hP' => (hstep hI hP hst).2.mp hP') hc ((exclusive_iff_alone hc).mpr hal)

/-- A grant on the channel opposite the TSCC, and its release. -/
theorem exclusive_iff_fits_release :
    States Exclusive (setUp [1] 1 1)
      (trace exec (setUp [1] 1 1) [.grantCh 100 7 10 true false, .releaseGrant 100 false]) := by
  refine (exclusive_iff_fits (run_trace (fun s _ => ⟨s, .refl s, rfl⟩) _ _)).mpr ?_
  refine ⟨Or.inr fun chNo _ => Or.inr (Or.inr fun d slot hd => ?_), trivial, trivial⟩
  have hnone : (setUp [1] 1 1).grantChTable.lookup d = none := AList.lookup_empty d
  rw [hd.1] at hnone
  exact absurd hnone (by simp)

/-- **Two grants on one slot.** Three grants with one free channel: the slot table lists slot 2 before slot
    1, so the third destination is put on slot 2 as well. -/
theorem slot_granted_twice :
    ∃ l, Run Step (setUp [1] 0 0) l ∧ ¬ States Exclusive (setUp [1] 0 0) l := by
  refine ⟨trace exec (setUp [1] 0 0) [.grantCh 100 7 10 true false, .grantCh 200 8 10 true false,
    .grantCh 300 9 10 true false], run_trace (fun s _ => ⟨s, .refl s, rfl⟩) _ _, fun h => ?_⟩
  have hlast := h.2 _ (List.mem_cons_of_mem _ (List.mem_cons_of_mem _ List.mem_cons_self))
  have hsame : (200 : UInt32) = 300 :=
    hlast.distinct 200 300 1 2 ⟨by decide, by decide⟩ ⟨by decide, by decide⟩
  exact absurd hsame (by decide)

end DMRAffiliationLookup

end DvmHost

import DvmHost.Host.Network.Correctness.AclLists
import DvmHost.Lib.FirstMatch
import DvmHost.Common.Correctness.RingFifo
import DvmHost.Host.Network.Network

/-!
# `Host.Network.Correctness.ReceiveFraming` — what the messages of the FNE leave in a peer

`Synced` says that the peer gets through the lists and that its tables then say what the tables of the FNE say. The
peer counts the entries of a list in an octet, reads 24 bits of an id, leaves a talkgroup alone that it knows as
inactive, and takes slot zero for every slot when it searches but not when it erases.

A message is queued as an octet that is its length and then itself, by two calls of `addData`, and read by two calls
of `get`. `Holds` says that a ring buffer is a row of such frames; a message that fits the octet of the length keeps it
so, unless that octet fills the buffer, which then reads as empty.

A session is a run of datagrams, reads and resets, beside what each protocol has received and given out and beside
the stream that each DMR slot has. `Framed` is what holds of it while every datagram is one that `Meets` admits.
-/

namespace DvmHost

open Lib

/-! ## Synchronisation -/

/-- Two tables of a peer **agree** with the FNE: on every radio id that is listed, and on every talkgroup that is sent
    to the peer. -/
structure Agrees (tables : FNETables) (peerId : UInt32) (rid : RadioIdLookup) (tid : TalkgroupRulesLookup) : Prop where
  radioIds : ∀ id ∈ tables.m_ridLookup.m_table.keys,
    (rid.find id).radioEnabled = (tables.m_ridLookup.find id).radioEnabled
  active : tables.m_tidLookup.sendTalkgroups = true → ∀ tg ∈ FNENetwork.talkgroups tables peerId true,
    (tid.find tg.tgId tg.tgSlot).isInvalid = false ∧ (tid.find tg.tgId tg.tgSlot).config.active = true
  deactivated : tables.m_tidLookup.sendTalkgroups = true → ∀ tg ∈ FNENetwork.talkgroups tables peerId false,
    (tid.find tg.tgId tg.tgSlot).isInvalid = true

/-- **The access lists are synchronised**: the FNE sends them, the peer gets through them, and its tables agree. -/
def Synced {Object : Type} (n : FNENetwork Object) (tables : FNETables) (peerId : UInt32) (net : Network)
    (heap : Outbound → Bytes) : Prop :=
  ∃ n' os fuel net', n.writeLists tables peerId = some n' ∧ n'.sent = n.sent ++ os ∧
    net.receiveAll os heap fuel = some net' ∧ Agrees tables peerId net'.m_ridLookup net'.m_tidLookup

/-! ## The tables afterwards -/

/-- The radio ids of a peer after the lists. -/
def RadioIdLookup.afterLists (tables : FNETables) (l : RadioIdLookup) : RadioIdLookup :=
  (l.toggleAll true (FNENetwork.radioIds tables true)).toggleAll false (FNENetwork.radioIds tables false)

/-- The talkgroups of a peer after the lists. -/
def TalkgroupRulesLookup.afterLists (tables : FNETables) (peerId : UInt32) (l : TalkgroupRulesLookup) :
    TalkgroupRulesLookup :=
  (l.activateAll (FNENetwork.talkgroups tables peerId true)).deactivateAll (FNENetwork.talkgroups tables peerId false)

/-- No list has more entries than an octet counts. -/
structure Counted (tables : FNETables) (peerId : UInt32) : Prop where
  radioIds : ∀ enabled, (FNENetwork.radioIds tables enabled).length ≤ 255
  talkgroups : tables.m_tidLookup.sendTalkgroups = true →
    ∀ active, (FNENetwork.talkgroups tables peerId active).length ≤ 255

/-- The lists are synchronised when they can be counted and what they leave of the tables agrees. -/
theorem synced_iff_agrees {Object : Type} {n : FNENetwork Object} {peerId : UInt32} (hpeer : n.HasPeer peerId)
    {net : Network} (htakes : net.Takes peerId) (tables : FNETables) (heap : Outbound → Bytes) :
    Synced n tables peerId net heap ↔
      Counted tables peerId ∧
        Agrees tables peerId (net.m_ridLookup.afterLists tables) (net.m_tidLookup.afterLists tables peerId) := by
  have hwrites := FNENetwork.writes_lists tables peerId heap n hpeer
  have hagrees : ∀ rid tid, Agrees tables peerId rid
      (((if tables.m_tidLookup.sendTalkgroups then
          TalkgroupRulesLookup.deactivateAll (FNENetwork.talkgroups tables peerId false) else id) ∘
        if tables.m_tidLookup.sendTalkgroups then
          TalkgroupRulesLookup.activateAll (FNENetwork.talkgroups tables peerId true) else id) tid) ↔
      Agrees tables peerId rid (tid.afterLists tables peerId) := by
    intro rid tid
    cases hsend : tables.m_tidLookup.sendTalkgroups with
    | true => exact Iff.rfl
    | false =>
        have hoff : ¬ tables.m_tidLookup.sendTalkgroups = true := by rw [hsend]; exact Bool.false_ne_true
        exact ⟨fun h => ⟨h.radioIds, fun hs => absurd hs hoff, fun hs => absurd hs hoff⟩,
          fun h => ⟨h.radioIds, fun hs => absurd hs hoff, fun hs => absurd hs hoff⟩⟩
  constructor
  · rintro ⟨n', os, fuel, net', hwrite, hsent, hreceived, hagree⟩
    obtain ⟨-, os', hsent', heffect⟩ := hwrites.2 n' hwrite
    obtain rfl : os = os' := List.append_cancel_left (hsent.symm.trans hsent')
    obtain ⟨⟨hwl, hbl, hact, hdeact⟩, -, hrid, htid⟩ := (heffect net htakes).2 fuel net' hreceived
    rw [hrid, htid] at hagree
    refine ⟨⟨fun enabled => ?_, fun hsend active => ?_⟩, (hagrees _ _).mp hagree⟩
    · cases enabled with
      | true => exact Nat.le_of_lt_succ hwl
      | false => exact Nat.le_of_lt_succ hbl
    · cases active with
      | true => exact Nat.le_of_lt_succ (hact hsend)
      | false => exact Nat.le_of_lt_succ (hdeact hsend)
  · rintro ⟨hcounted, hagree⟩
    have hr := hcounted.radioIds
    have ht := hcounted.talkgroups
    have hshort : ∀ {k m : Nat}, k ≤ 255 → 255 ≤ m → k ≤ m := fun hk hm => Nat.le_trans hk hm
    obtain ⟨n', hwrite⟩ := Option.isSome_iff_exists.mp (hwrites.1 ⟨hshort (hr true) (by decide),
      hshort (hr false) (by decide), fun hs => hshort (ht hs true) (by decide),
      fun hs => hshort (ht hs false) (by decide)⟩)
    obtain ⟨-, os, hsent, heffect⟩ := hwrites.2 n' hwrite
    obtain ⟨net', hreceived⟩ := Option.isSome_iff_exists.mp ((heffect net htakes).1 ⟨Nat.lt_succ_of_le (hr true),
      Nat.lt_succ_of_le (hr false), fun hs => Nat.lt_succ_of_le (ht hs true),
      fun hs => Nat.lt_succ_of_le (ht hs false)⟩ 256 (Nat.le_refl 256))
    obtain ⟨-, -, hrid, htid⟩ := (heffect net htakes).2 256 net' hreceived
    refine ⟨n', os, 256, net', hwrite, hsent, hreceived, ?_⟩
    rw [hrid, htid]
    exact (hagrees _ _).mpr hagree

/-! ## Radio ids -/

namespace RadioIdLookup

/-- The two ids that are always enabled. -/
def WellKnown (id : UInt32) : Prop := id = P25_WUID_ALL ∨ id = P25_WUID_FNE

instance (id : UInt32) : Decidable (WellKnown id) := inferInstanceAs (Decidable (_ ∨ _))

theorem toNat_lt_of_wellKnown {id : UInt32} (h : WellKnown id) : id.toNat < 2 ^ 24 := by
  rcases h with rfl | rfl <;> decide

theorem find_of_wellKnown (l : RadioIdLookup) {id : UInt32} (h : WellKnown id) : (l.find id).radioEnabled = true :=
  congrArg RadioId.radioEnabled (if_pos h)

theorem find_of_not_wellKnown (l : RadioIdLookup) {id : UInt32} (h : ¬ WellKnown id) :
    l.find id = (l.m_table.lookup id).getD { radioEnabled := false, radioDefault := true } := if_neg h

theorem find_of_lookup {l : RadioIdLookup} {id : UInt32} {entry : RadioId} (hid : ¬ WellKnown id)
    (h : l.m_table.lookup id = some entry) : l.find id = entry := by
  rw [find_of_not_wellKnown l hid, h, Option.getD_some]

theorem lookup_toggleEntry_self (l : RadioIdLookup) {id : UInt32} (h : ¬ WellKnown id) (enabled : Bool) :
    ∃ entry, (l.toggleEntry id enabled).m_table.lookup id = some entry ∧ entry.radioEnabled = enabled := by
  have hnew : l.toggleEntry id enabled = _ := if_neg h
  rw [hnew]
  cases hlookup : l.m_table.lookup id with
  | none => exact ⟨_, AList.lookup_insert _, rfl⟩
  | some entry =>
      dsimp only
      split
      · exact ⟨_, AList.lookup_insert _, rfl⟩
      · next heq => exact ⟨entry, hlookup, not_not.mp heq⟩

theorem lookup_toggleEntry_of_ne (l : RadioIdLookup) {id id' : UInt32} (h : id' ≠ id) (enabled : Bool) :
    (l.toggleEntry id enabled).m_table.lookup id' = l.m_table.lookup id' := by
  unfold toggleEntry addEntry
  dsimp only
  split
  · rfl
  · split
    · split
      · exact AList.lookup_insert_ne h
      · rfl
    · exact AList.lookup_insert_ne h

/-- An entry that is toggled, and every other one. -/
theorem find_toggleEntry (l : RadioIdLookup) (id id' : UInt32) (enabled : Bool) :
    ((l.toggleEntry id enabled).find id').radioEnabled =
      if id' = id ∧ ¬ WellKnown id' then enabled else (l.find id').radioEnabled := by
  by_cases hknown : WellKnown id'
  · rw [find_of_wellKnown _ hknown, if_neg fun h => h.2 hknown, find_of_wellKnown _ hknown]
  · by_cases hid : id' = id
    · subst hid
      obtain ⟨entry, hlookup, hflag⟩ := lookup_toggleEntry_self l hknown enabled
      rw [if_pos ⟨rfl, hknown⟩, find_of_lookup hknown hlookup, hflag]
    · rw [if_neg fun h => hid h.1, find_of_not_wellKnown _ hknown, lookup_toggleEntry_of_ne l hid,
        find_of_not_wellKnown l hknown]

/-- The ids of a list are switched, as far as the peer reads them. -/
theorem find_toggleAll (enabled : Bool) (ids : List UInt32) (l : RadioIdLookup) (id' : UInt32) :
    ((l.toggleAll enabled ids).find id').radioEnabled =
      if (∃ id ∈ ids, low24 id = id') ∧ ¬ WellKnown id' then enabled else (l.find id').radioEnabled := by
  unfold toggleAll
  induction ids generalizing l with
  | nil => simp
  | cons id ids ih =>
      rw [List.foldl_cons, ih, find_toggleEntry]
      by_cases hknown : WellKnown id'
      · simp [hknown]
      · by_cases hrest : ∃ id ∈ ids, low24 id = id'
        · obtain ⟨i, hi, heq⟩ := hrest
          rw [if_pos ⟨⟨i, hi, heq⟩, hknown⟩, if_pos ⟨⟨i, List.mem_cons_of_mem id hi, heq⟩, hknown⟩]
        · rw [if_neg fun h => hrest h.1]
          by_cases hid : low24 id = id'
          · rw [if_pos ⟨hid.symm, hknown⟩, if_pos ⟨⟨id, List.mem_cons_self, hid⟩, hknown⟩]
          · rw [if_neg fun h => hid h.1.symm, if_neg]
            rintro ⟨⟨i, hi, heq⟩, -⟩
            rcases List.mem_cons.mp hi with rfl | hi
            · exact hid heq
            · exact hrest ⟨i, hi, heq⟩

/-- The ids that are sent as enabled, or as disabled. -/
theorem mem_radioIds {tables : FNETables} {enabled : Bool} {id : UInt32} (hknown : ¬ WellKnown id) :
    id ∈ FNENetwork.radioIds tables enabled ↔
      id ∈ tables.m_ridLookup.m_table.keys ∧ (tables.m_ridLookup.find id).radioEnabled = enabled := by
  unfold FNENetwork.radioIds
  rw [List.mem_map, UnorderedMap.mem_keys_iff_lookup]
  constructor
  · rintro ⟨e, he, rfl⟩
    obtain ⟨he, hflag⟩ := List.mem_filter.mp he
    have hlookup : tables.m_ridLookup.m_table.lookup e.1 = some e.2 := AList.mem_lookup_iff.mpr he
    refine ⟨⟨e.2, hlookup⟩, ?_⟩
    rw [find_of_lookup hknown hlookup]
    exact of_decide_eq_true hflag
  · rintro ⟨⟨entry, hlookup⟩, hflag⟩
    rw [find_of_lookup hknown hlookup] at hflag
    exact ⟨⟨id, entry⟩, List.mem_filter.mpr ⟨AList.mem_lookup_iff.mp hlookup, decide_eq_true hflag⟩, rfl⟩

/-- The radio ids of the FNE **can be told apart** by the peer: an enabled id is not also what 24 bits leave of a
    disabled one, and what needs more than 24 bits is as it should be already. -/
structure Legible (tables : FNETables) (l : RadioIdLookup) : Prop where
  narrow : ∀ id ∈ tables.m_ridLookup.m_table.keys, ¬ WellKnown id → id.toNat < 2 ^ 24 →
    (tables.m_ridLookup.find id).radioEnabled = true →
    ∀ id' ∈ tables.m_ridLookup.m_table.keys, low24 id' = id → (tables.m_ridLookup.find id').radioEnabled = true
  wide : ∀ id ∈ tables.m_ridLookup.m_table.keys, 2 ^ 24 ≤ id.toNat →
    (l.find id).radioEnabled = (tables.m_ridLookup.find id).radioEnabled

/-- The flag of an id after the lists. -/
theorem find_afterLists (tables : FNETables) (l : RadioIdLookup) {id : UInt32} (hknown : ¬ WellKnown id) :
    ((l.afterLists tables).find id).radioEnabled =
      if ∃ id' ∈ FNENetwork.radioIds tables false, low24 id' = id then false
      else if ∃ id' ∈ FNENetwork.radioIds tables true, low24 id' = id then true
      else (l.find id).radioEnabled := by
  unfold afterLists
  rw [find_toggleAll, find_toggleAll]
  simp only [hknown, not_false_eq_true, and_true]

/-- What 24 bits leave of an id is no well known id, unless the id is one. -/
theorem mem_radioIds_of_low24 {tables : FNETables} {enabled : Bool} {id id' : UInt32} (hknown : ¬ WellKnown id)
    (hlow : low24 id' = id) :
    id' ∈ FNENetwork.radioIds tables enabled ↔
      id' ∈ tables.m_ridLookup.m_table.keys ∧ (tables.m_ridLookup.find id').radioEnabled = enabled := by
  refine mem_radioIds fun h => hknown ?_
  rw [← hlow, low24_of_lt (toNat_lt_of_wellKnown h)]
  exact h

/-- **The radio ids agree** when they can be told apart. -/
theorem afterLists_agrees_iff (tables : FNETables) (l : RadioIdLookup) :
    (∀ id ∈ tables.m_ridLookup.m_table.keys,
      ((l.afterLists tables).find id).radioEnabled = (tables.m_ridLookup.find id).radioEnabled) ↔
      Legible tables l := by
  have hwide : ∀ id id' : UInt32, 2 ^ 24 ≤ id.toNat → low24 id' ≠ id := by
    intro id id' hid heq
    have := toNat_low24 id'
    rw [heq] at this
    omega
  constructor
  · intro h
    refine ⟨fun id hid hknown hlt hflag id' hid' hlow => ?_, fun id hid hge => ?_⟩
    · have hagree := h id hid
      rw [find_afterLists tables l hknown, hflag] at hagree
      by_contra hoff
      rw [if_pos ⟨id', (mem_radioIds_of_low24 hknown hlow).mpr ⟨hid', Bool.eq_false_iff.mpr hoff⟩, hlow⟩] at hagree
      exact Bool.false_ne_true hagree
    · have hknown : ¬ WellKnown id := fun hk => by have := toNat_lt_of_wellKnown hk; omega
      rw [← h id hid, find_afterLists tables l hknown, if_neg, if_neg]
      · rintro ⟨id', -, hlow⟩
        exact hwide id id' hge hlow
      · rintro ⟨id', -, hlow⟩
        exact hwide id id' hge hlow
  · intro h id hid
    by_cases hknown : WellKnown id
    · rw [find_of_wellKnown _ hknown, find_of_wellKnown _ hknown]
    · rw [find_afterLists tables l hknown]
      by_cases hlt : id.toNat < 2 ^ 24
      · have hself := low24_of_lt hlt
        cases hflag : (tables.m_ridLookup.find id).radioEnabled with
        | false => exact if_pos ⟨id, (mem_radioIds hknown).mpr ⟨hid, hflag⟩, hself⟩
        | true =>
            rw [if_neg, if_pos ⟨id, (mem_radioIds hknown).mpr ⟨hid, hflag⟩, hself⟩]
            rintro ⟨id', hid', hlow⟩
            obtain ⟨hkey, hoff⟩ := (mem_radioIds_of_low24 hknown hlow).mp hid'
            rw [h.narrow id hid hknown hlt hflag id' hkey hlow] at hoff
            exact Bool.noConfusion hoff
      · have hge : 2 ^ 24 ≤ id.toNat := Nat.le_of_not_lt hlt
        rw [if_neg, if_neg]
        · exact h.wide id hid hge
        · rintro ⟨id', -, hlow⟩
          exact hwide id id' hge hlow
        · rintro ⟨id', -, hlow⟩
          exact hwide id id' hge hlow

end RadioIdLookup

/-! ## Talkgroups -/

namespace TalkgroupRulesLookup

/-- The slot of an entry. -/
def slotOf (e : TalkgroupRuleGroupVoice) : UInt8 := e.source.tgSlot

/-- The entry that an activation adds. -/
def newEntry (t : UInt32) (slot : UInt8) : TalkgroupRuleGroupVoice where
  config := { active := true }
  source := { tgId := t, tgSlot := slot }

/-- The entries of a talkgroup, in the order of the table. -/
def own (l : TalkgroupRulesLookup) (t : UInt32) : List TalkgroupRuleGroupVoice :=
  l.groupVoice.filter fun e => e.source.tgId = t

theorem tgId_of_mem_own {l : TalkgroupRulesLookup} {t : UInt32} {e : TalkgroupRuleGroupVoice} (h : e ∈ l.own t) :
    e.source.tgId = t := of_decide_eq_true (List.mem_filter.mp h).2

/-- The entry that `find` finds is the first one of the talkgroup that matches. -/
theorem find_eq (l : TalkgroupRulesLookup) (t : UInt32) (slot : UInt8) :
    l.find t slot = ((l.own t).find? fun e => FirstMatch.Matches slotOf 0 slot e).getD {} := by
  unfold find own
  rw [List.find?_filter]
  congr 2
  funext e
  unfold FirstMatch.Matches slotOf
  by_cases hslot : slot = 0
  · simp [hslot]
  · by_cases hid : e.source.tgId = t
    · simp [hslot, hid]
    · simp [hslot, hid]

/-- Nothing is found when no entry matches. -/
theorem isInvalid_find_iff {l : TalkgroupRulesLookup} {t : UInt32} (ht : t ≠ 0) {slot : UInt8} :
    (l.find t slot).isInvalid = true ↔ ∀ e ∈ l.own t, ¬ FirstMatch.Matches slotOf 0 slot e := by
  rw [find_eq]
  cases hfind : (l.own t).find? fun e => FirstMatch.Matches slotOf 0 slot e with
  | none =>
      refine iff_of_true rfl fun e he hmatch => ?_
      exact List.find?_eq_none.mp hfind e he (decide_eq_true hmatch)
  | some e =>
      have hmatch := List.find?_some hfind
      refine iff_of_false (fun hinvalid => ht ?_) fun h =>
        h e (List.mem_of_find?_eq_some hfind) (of_decide_eq_true hmatch)
      rw [← tgId_of_mem_own (List.mem_of_find?_eq_some hfind)]
      exact of_decide_eq_true hinvalid

/-! ### One talkgroup of a list -/

theorem own_eraseEntry_self (l : TalkgroupRulesLookup) (t : UInt32) (slot : UInt8) :
    (l.eraseEntry t slot).own t = FirstMatch.drop slotOf (l.own t) slot := by
  unfold own eraseEntry FirstMatch.drop slotOf
  rw [List.eraseP_filter]
  refine congrArg (fun q => (l.groupVoice.eraseP q).filter _) (funext fun e => ?_)
  simp [Bool.and_comm]

/-- An entry that is erased or changed is none of another talkgroup. -/
theorem filter_eraseP_of_disjoint {E : Type} {p q : E → Bool} (h : ∀ e, q e = true → p e = false) (l : List E) :
    (l.eraseP q).filter p = l.filter p := by
  induction l with
  | nil => rfl
  | cons e l ih =>
      by_cases hq : q e = true
      · rw [List.eraseP_cons_of_pos hq, List.filter_cons_of_neg (by rw [h e hq]; exact Bool.false_ne_true)]
      · rw [List.eraseP_cons_of_neg hq, List.filter_cons, List.filter_cons, ih]

theorem filter_modify_of_disjoint {E : Type} {p q : E → Bool} {f : E → E} (h : ∀ e, q e = true → p e = false)
    (hf : ∀ e, p (f e) = false) (l : List E) : (l.modify (l.findIdx q) f).filter p = l.filter p := by
  induction l with
  | nil => rfl
  | cons e l ih =>
      by_cases hq : q e = true
      · rw [List.findIdx_cons, hq, cond_true, List.modify_zero_cons,
          List.filter_cons_of_neg (by rw [hf e]; exact Bool.false_ne_true),
          List.filter_cons_of_neg (by rw [h e hq]; exact Bool.false_ne_true)]
      · rw [List.findIdx_cons, Bool.eq_false_iff.mpr hq, cond_false, List.modify_succ_cons, List.filter_cons,
          List.filter_cons, ih]

theorem filter_change_of_disjoint {E : Type} {p q : E → Bool} {f : E → E} {new : E}
    (h : ∀ e, q e = true → p e = false) (hf : ∀ e, p (f e) = false) (hnew : p new = false) (l : List E) :
    (if l.findIdx q < l.length then l.modify (l.findIdx q) f else l ++ [new]).filter p = l.filter p := by
  split
  · exact filter_modify_of_disjoint h hf l
  · rw [List.filter_append, List.filter_cons_of_neg (by rw [hnew]; exact Bool.false_ne_true), List.filter_nil,
      List.append_nil]

theorem own_eraseEntry_of_ne (l : TalkgroupRulesLookup) {t id : UInt32} (h : id ≠ t) (slot : UInt8) :
    (l.eraseEntry id slot).own t = l.own t := by
  refine filter_eraseP_of_disjoint (fun e he => ?_) l.groupVoice
  have heq := of_decide_eq_true he
  exact decide_eq_false fun ht => h (heq.1.symm.trans ht)

theorem own_addEntry_of_ne (l : TalkgroupRulesLookup) {t id : UInt32} (h : id ≠ t) (slot : UInt8) (enabled : Bool) :
    (l.addEntry id slot enabled).own t = l.own t := by
  refine (congrArg (List.filter _) (apply_ite groupVoice _ _ _)).trans
    (filter_change_of_disjoint (E := TalkgroupRuleGroupVoice) (fun e he => ?_) (fun _ => decide_eq_false h)
      (decide_eq_false h) l.groupVoice)
  refine decide_eq_false fun ht => h ?_
  split at he
  · exact (of_decide_eq_true he).1.symm.trans ht
  · exact (of_decide_eq_true he).symm.trans ht

/-- An activation of another talkgroup. -/
theorem own_activate_of_ne (l : TalkgroupRulesLookup) {t id : UInt32} (h : id ≠ t) (slot : UInt8) :
    (Network.activate l id slot).own t = l.own t := by
  unfold Network.activate
  dsimp only
  split
  · rw [own_addEntry_of_ne _ h]
    split
    · exact own_eraseEntry_of_ne l h slot
    · rfl
  · rfl

/-- A deactivation of another talkgroup. -/
theorem own_deactivate_of_ne (l : TalkgroupRulesLookup) {t id : UInt32} (h : id ≠ t) (slot : UInt8) :
    (Network.deactivate l id slot).own t = l.own t := by
  unfold Network.deactivate
  dsimp only
  split
  · exact own_eraseEntry_of_ne l h slot
  · rfl

/-- **An activation is a `put`** on the entries of its talkgroup: the code looks at the inactive entry of a talkgroup
    only when there is none. -/
theorem own_activate_self (l : TalkgroupRulesLookup) {t : UInt32} (ht : t ≠ 0) (slot : UInt8) :
    (Network.activate l t slot).own t = FirstMatch.put slotOf 0 (newEntry t) (l.own t) slot := by
  have hany : (l.own t).any (fun e => FirstMatch.Matches slotOf 0 slot e) = true ↔
      ¬ (l.find t slot).isInvalid = true := by
    rw [isInvalid_find_iff ht, List.any_eq_true]
    simp
  unfold Network.activate FirstMatch.put
  dsimp only
  by_cases hinvalid : (l.find t slot).isInvalid = true
  · have hnone := (isInvalid_find_iff ht).mp hinvalid
    rw [if_pos hinvalid, if_neg fun h => hany.mp h hinvalid]
    have herase : ∀ e ∈ l.groupVoice, ¬ decide (e.source.tgId = t ∧ e.source.tgSlot = slot) = true := by
      intro e he hslot
      have heq := of_decide_eq_true hslot
      exact hnone e (List.mem_filter.mpr ⟨he, decide_eq_true heq.1⟩) (Or.inr heq.2)
    have hsame : (if (!(l.find t slot).config.active) = true then l.eraseEntry t slot else l) = l := by
      unfold eraseEntry
      rw [List.eraseP_of_forall_not herase]
      exact ite_self l
    rw [hsame]
    have hmiss : ¬ l.groupVoice.findIdx (fun x => if slot ≠ 0 then decide (x.source.tgId = t ∧ x.source.tgSlot = slot)
        else decide (x.source.tgId = t)) < l.groupVoice.length := by
      rw [List.findIdx_lt_length]
      rintro ⟨e, he, hmatch⟩
      split at hmatch
      · have heq := of_decide_eq_true hmatch
        exact hnone e (List.mem_filter.mpr ⟨he, decide_eq_true heq.1⟩) (Or.inr heq.2)
      · next hslot => exact hnone e (List.mem_filter.mpr ⟨he, hmatch⟩) (Or.inl (not_not.mp hslot))
    unfold addEntry own
    dsimp only
    rw [if_neg hmiss, List.filter_append]
    refine congrArg (l.own t ++ ·) (List.filter_cons_of_pos ?_)
    exact decide_eq_true rfl
  · rw [if_neg hinvalid, if_pos (hany.mpr hinvalid)]

/-- **A deactivation is a `drop`** on the entries of its talkgroup. -/
theorem own_deactivate_self (l : TalkgroupRulesLookup) {t : UInt32} (ht : t ≠ 0) (slot : UInt8) :
    (Network.deactivate l t slot).own t = FirstMatch.drop slotOf (l.own t) slot := by
  unfold Network.deactivate
  dsimp only
  by_cases hinvalid : (l.find t slot).isInvalid = true
  · have hnone := (isInvalid_find_iff ht).mp hinvalid
    rw [if_neg (by rw [hinvalid]; exact Bool.false_ne_true)]
    refine (List.eraseP_of_forall_not fun e he hslot => ?_).symm
    exact hnone e he (Or.inr (of_decide_eq_true hslot))
  · rw [if_pos (by rw [Bool.eq_false_iff.mpr hinvalid]; rfl), own_eraseEntry_self]

/-! ### The lists -/

/-- The slots of a talkgroup in a list, as the peer reads it. -/
def slotsFor (t : UInt32) (tgs : List TalkgroupRuleGroupVoiceSource) : List UInt8 :=
  (tgs.filter fun tg => low24 tg.tgId = t).map fun tg => tg.tgSlot

/-- What a list does to the entries of one talkgroup. -/
theorem own_foldl {t : UInt32} {act : TalkgroupRulesLookup → UInt32 → UInt8 → TalkgroupRulesLookup}
    {g : List TalkgroupRuleGroupVoice → UInt8 → List TalkgroupRuleGroupVoice}
    (hself : ∀ l slot, (act l t slot).own t = g (l.own t) slot)
    (hne : ∀ l id slot, id ≠ t → (act l id slot).own t = l.own t) (tgs : List TalkgroupRuleGroupVoiceSource)
    (l : TalkgroupRulesLookup) :
    (tgs.foldl (fun l tg => act l (low24 tg.tgId) tg.tgSlot) l).own t = (slotsFor t tgs).foldl g (l.own t) := by
  unfold slotsFor
  induction tgs generalizing l with
  | nil => rfl
  | cons tg tgs ih =>
      rw [List.foldl_cons, ih]
      by_cases hid : low24 tg.tgId = t
      · rw [List.filter_cons_of_pos (by simpa using hid), List.map_cons, List.foldl_cons, hid, hself]
      · rw [List.filter_cons_of_neg (by simpa using hid), hne _ _ _ hid]

/-- The entries of a talkgroup after the lists. -/
theorem own_afterLists (tables : FNETables) (peerId : UInt32) (l : TalkgroupRulesLookup) {t : UInt32} (ht : t ≠ 0) :
    (l.afterLists tables peerId).own t =
      (slotsFor t (FNENetwork.talkgroups tables peerId false)).foldl (FirstMatch.drop slotOf)
        ((slotsFor t (FNENetwork.talkgroups tables peerId true)).foldl (FirstMatch.put slotOf 0 (newEntry t))
          (l.own t)) := by
  unfold afterLists deactivateAll activateAll
  rw [own_foldl (fun l slot => own_deactivate_self l ht slot) fun l _ slot hid => own_deactivate_of_ne l hid slot,
    own_foldl (fun l slot => own_activate_self l ht slot) fun l _ slot hid => own_activate_of_ne l hid slot]

/-! ### What is left and what is new -/

section Standing

variable (tables : FNETables) (peerId : UInt32) (l : TalkgroupRulesLookup) (t : UInt32)

/-- The slots of a talkgroup that the peer is told to activate, or to deactivate. -/
def told (active : Bool) : List UInt8 := slotsFor t (FNENetwork.talkgroups tables peerId active)

/-- What the deactivations leave of the entries that the peer has of a talkgroup: each takes the first of its slot. -/
def left : List TalkgroupRuleGroupVoice := (told tables peerId t false).foldl (FirstMatch.drop slotOf) (l.own t)

/-- A slot of a talkgroup that the peer enters and keeps: one that it is told to activate, not to deactivate, and has
    no entry of. Slot zero is entered when the peer knows no slot of the talkgroup and is told of it first. -/
structure Fresh (slot : UInt8) : Prop where
  told : slot ∈ told tables peerId t true
  kept : slot ∉ TalkgroupRulesLookup.told tables peerId t false
  unknown : ∀ e ∈ l.own t, e.source.tgSlot ≠ slot
  zero : slot = 0 → l.own t = [] ∧ (TalkgroupRulesLookup.told tables peerId t true).head? = some 0

/-- The talkgroup is active on a slot: the first entry left that matches is, or there is none and one is new. -/
def Stands (slot : UInt8) : Prop :=
  (∃ e, (left tables peerId l t).find? (fun e => FirstMatch.Matches slotOf 0 slot e) = some e ∧
    e.config.active = true) ∨
  (∀ e ∈ left tables peerId l t, ¬ FirstMatch.Matches slotOf 0 slot e) ∧
    ∃ s, Fresh tables peerId l t s ∧ (slot = 0 ∨ s = slot)

/-- The talkgroup is gone from a slot: no entry left matches, and none is new. -/
def Gone (slot : UInt8) : Prop :=
  (∀ e ∈ left tables peerId l t, ¬ FirstMatch.Matches slotOf 0 slot e) ∧
    ∀ s, Fresh tables peerId l t s → ¬ (slot = 0 ∨ s = slot)

variable {tables peerId l t}

/-- **The entries of a talkgroup after the lists**: those left, then the fresh ones. -/
theorem own_afterLists_eq (ht : t ≠ 0) :
    ∃ slots : List UInt8, (l.afterLists tables peerId).own t = left tables peerId l t ++ slots.map (newEntry t) ∧
      ∀ s, s ∈ slots ↔ Fresh tables peerId l t s := by
  have hnew : ∀ s, slotOf (newEntry t s) = s := fun s => rfl
  refine ⟨_, (own_afterLists tables peerId l ht).trans (FirstMatch.foldl_drop_foldl_put hnew _ _ _), fun s => ?_⟩
  rw [List.mem_filter, FirstMatch.mem_added_iff hnew, decide_eq_true_eq]
  constructor
  · rintro ⟨⟨htold, hunknown, hzero⟩, hkept⟩
    exact ⟨htold, hkept, hunknown, hzero⟩
  · intro h
    exact ⟨⟨h.told, h.unknown, h.zero⟩, h.kept⟩

/-- A talkgroup is found active exactly when it stands. -/
theorem stands_iff (ht : t ≠ 0) (slot : UInt8) :
    ((l.afterLists tables peerId).find t slot).isInvalid = false ∧
        ((l.afterLists tables peerId).find t slot).config.active = true ↔ Stands tables peerId l t slot := by
  obtain ⟨slots, hown, hslots⟩ : ∃ slots : List UInt8, (l.afterLists tables peerId).own t = _ ∧ _ :=
    own_afterLists_eq ht
  rw [← Bool.not_eq_true, isInvalid_find_iff ht, find_eq, hown, List.find?_append]
  unfold Stands
  cases hleft : (left tables peerId l t).find? fun e => FirstMatch.Matches slotOf 0 slot e with
  | some e =>
      have hmem := List.mem_of_find?_eq_some hleft
      have hmatch := List.find?_some hleft
      have hfound : ¬ ∀ e ∈ left tables peerId l t ++ slots.map (newEntry t), ¬ FirstMatch.Matches slotOf 0 slot e :=
        fun h => h e (List.mem_append_left _ hmem) (of_decide_eq_true hmatch)
      rw [Option.some_or, Option.getD_some]
      constructor
      · rintro ⟨-, hactive⟩
        exact Or.inl ⟨e, rfl, hactive⟩
      · rintro (⟨e', he', hactive⟩ | ⟨hnone, -⟩)
        · rw [Option.some.inj he']
          exact ⟨hfound, hactive⟩
        · exact absurd (of_decide_eq_true hmatch) (hnone e hmem)
  | none =>
      have hnone : ∀ e ∈ left tables peerId l t, ¬ FirstMatch.Matches slotOf 0 slot e := fun e he hmatch =>
        List.find?_eq_none.mp hleft e he (decide_eq_true hmatch)
      rw [Option.none_or]
      constructor
      · rintro ⟨hfound, -⟩
        refine Or.inr ⟨hnone, ?_⟩
        push Not at hfound
        obtain ⟨e, he, hmatch⟩ := hfound
        rcases List.mem_append.mp he with he | he
        · exact absurd hmatch (hnone e he)
        · obtain ⟨s, hs, rfl⟩ := List.mem_map.mp he
          exact ⟨s, (hslots s).mp hs, hmatch⟩
      · rintro (⟨e, he, -⟩ | ⟨-, s, hfresh, hmatch⟩)
        · exact absurd he (by simp)
        · have hmem := List.mem_map_of_mem (f := newEntry t) ((hslots s).mpr hfresh)
          have hmatch : FirstMatch.Matches slotOf 0 slot (newEntry t s) := hmatch
          refine ⟨fun h => h _ (List.mem_append_right _ hmem) hmatch, ?_⟩
          cases hfind : (slots.map (newEntry t)).find? fun e => FirstMatch.Matches slotOf 0 slot e with
          | none => exact absurd (decide_eq_true hmatch) (List.find?_eq_none.mp hfind _ hmem)
          | some e =>
              obtain ⟨s', -, rfl⟩ := List.mem_map.mp (List.mem_of_find?_eq_some hfind)
              rfl

/-- A talkgroup is not found exactly when it is gone. -/
theorem gone_iff (ht : t ≠ 0) (slot : UInt8) :
    ((l.afterLists tables peerId).find t slot).isInvalid = true ↔ Gone tables peerId l t slot := by
  obtain ⟨slots, hown, hslots⟩ : ∃ slots : List UInt8, (l.afterLists tables peerId).own t = _ ∧ _ :=
    own_afterLists_eq ht
  rw [isInvalid_find_iff ht, hown]
  unfold Gone
  constructor
  · intro h
    refine ⟨fun e he => h e (List.mem_append_left _ he), fun s hs hmatch => ?_⟩
    exact h (newEntry t s) (List.mem_append_right _ (List.mem_map_of_mem ((hslots s).mpr hs))) hmatch
  · rintro ⟨hleft, hfresh⟩ e he
    rcases List.mem_append.mp he with he | he
    · exact hleft e he
    · obtain ⟨s, hs, rfl⟩ := List.mem_map.mp he
      exact hfresh s ((hslots s).mp hs)

end Standing

/-- A talkgroup of id zero is never found. -/
theorem isInvalid_find_zero (l : TalkgroupRulesLookup) (slot : UInt8) : (l.find 0 slot).isInvalid = true := by
  rw [find_eq]
  cases hfind : (l.own 0).find? fun e => FirstMatch.Matches slotOf 0 slot e with
  | none => rfl
  | some e => exact decide_eq_true (tgId_of_mem_own (List.mem_of_find?_eq_some hfind))

end TalkgroupRulesLookup

/-! ## When the lists are synchronised -/

/-- What the tables must be like for the lists to be **synchronised**. -/
structure Synchronisable (tables : FNETables) (peerId : UInt32) (net : Network) : Prop where
  counted : Counted tables peerId
  radioIds : net.m_ridLookup.Legible tables
  active : tables.m_tidLookup.sendTalkgroups = true → ∀ tg ∈ FNENetwork.talkgroups tables peerId true,
    tg.tgId ≠ 0 ∧ TalkgroupRulesLookup.Stands tables peerId net.m_tidLookup tg.tgId tg.tgSlot
  deactivated : tables.m_tidLookup.sendTalkgroups = true → ∀ tg ∈ FNENetwork.talkgroups tables peerId false,
    tg.tgId = 0 ∨ TalkgroupRulesLookup.Gone tables peerId net.m_tidLookup tg.tgId tg.tgSlot

/-- **The access lists are synchronised exactly when the tables allow it.** -/
theorem synced_iff {Object : Type} {n : FNENetwork Object} {peerId : UInt32} (hpeer : n.HasPeer peerId)
    {net : Network} (htakes : net.Takes peerId) (tables : FNETables) (heap : Outbound → Bytes) :
    Synced n tables peerId net heap ↔ Synchronisable tables peerId net := by
  rw [synced_iff_agrees hpeer htakes]
  constructor
  · rintro ⟨hcounted, hagrees⟩
    refine ⟨hcounted, (RadioIdLookup.afterLists_agrees_iff tables _).mp hagrees.radioIds, fun hsend tg htg => ?_,
      fun hsend tg htg => ?_⟩
    · have hactive := hagrees.active hsend tg htg
      have hne : tg.tgId ≠ 0 := by
        intro hzero
        rw [hzero, TalkgroupRulesLookup.isInvalid_find_zero] at hactive
        exact Bool.noConfusion hactive.1
      exact ⟨hne, (TalkgroupRulesLookup.stands_iff hne _).mp hactive⟩
    · by_cases hzero : tg.tgId = 0
      · exact Or.inl hzero
      · exact Or.inr ((TalkgroupRulesLookup.gone_iff hzero _).mp (hagrees.deactivated hsend tg htg))
  · intro h
    refine ⟨h.counted, (RadioIdLookup.afterLists_agrees_iff tables _).mpr h.radioIds, fun hsend tg htg => ?_,
      fun hsend tg htg => ?_⟩
    · obtain ⟨hne, hstands⟩ := h.active hsend tg htg
      exact (TalkgroupRulesLookup.stands_iff hne _).mpr hstands
    · by_cases hzero : tg.tgId = 0
      · rw [hzero]
        exact TalkgroupRulesLookup.isInvalid_find_zero _ _
      · exact (TalkgroupRulesLookup.gone_iff hzero _).mpr ((h.deactivated hsend tg htg).resolve_left hzero)

/-- An FNE with the peer 1. -/
def syncFne : FNENetwork Unit :=
  { (FNENetwork.opened 5 5 : FNENetwork Unit) with
    m_peers := AList.singleton 1 { id := 1, socketStorage := { address := "10.0.0.1", port := 62031 } } }

/-- The FNE has talkgroup 1 active on slot 1. -/
def syncTables : FNETables where
  m_ridLookup := { m_table := ∅ }
  m_tidLookup :=
    { sendTalkgroups := true, groupVoice := [{ config := { active := true }, source := { tgId := 1, tgSlot := 1 } }] }
  m_peerNetworks := []

/-- The peer 1, which takes the lists, with a table of talkgroups. -/
def syncPeer (groupVoice : List TalkgroupRuleGroupVoice) : Network where
  m_peerId := 1
  m_enabled := true
  m_dmrEnabled := true
  m_p25Enabled := true
  m_nxdnEnabled := true
  m_updateLookup := true
  m_ridLookup := { m_table := ∅ }
  m_tidLookup := { groupVoice }

theorem syncFne_hasPeer : syncFne.HasPeer 1 := rfl

theorem syncPeer_takes (groupVoice : List TalkgroupRuleGroupVoice) : (syncPeer groupVoice).Takes 1 := ⟨rfl, rfl, rfl⟩

/-- A peer that knows no talkgroup learns of it. -/
theorem synced_iff_unknown : Synced syncFne syncTables 1 (syncPeer []) (fun _ _ => 0) := by
  refine (synced_iff syncFne_hasPeer (syncPeer_takes []) syncTables _).mpr
    ⟨⟨fun enabled => ?_, fun _ active => ?_⟩, ⟨fun id hid => ?_, fun id hid => ?_⟩, fun _ tg htg => ?_, fun _ tg htg => ?_⟩
  · cases enabled <;> decide
  · cases active <;> decide
  · exact absurd hid List.not_mem_nil
  · exact absurd hid List.not_mem_nil
  · obtain rfl : tg = { tgId := 1, tgSlot := 1 } := List.mem_singleton.mp htg
    exact ⟨by decide, Or.inr ⟨by decide, 1, ⟨by decide, by decide, by decide, by decide⟩, Or.inr rfl⟩⟩
  · exact absurd htg (by simp [FNENetwork.talkgroups, syncTables])

/-- A peer that has it as inactive does not. -/
theorem knownInactive_not_synced :
    ¬ Synced syncFne syncTables 1 (syncPeer [{ source := { tgId := 1, tgSlot := 1 } }]) (fun _ _ => 0) := by
  intro h
  have hagrees := ((synced_iff_agrees syncFne_hasPeer (syncPeer_takes _) syncTables _).mp h).2
  have hactive := (hagrees.active rfl { tgId := 1, tgSlot := 1 } (List.mem_singleton.mpr rfl)).2
  exact absurd hactive (by decide)

/-! ## Frames in a ring buffer -/

/-- A frame: a message behind its length. -/
def prefixed (message : List UInt8) : List UInt8 := message.length.toUInt8 :: message

namespace RingBuffer

/-- The buffer **holds** a row of frames. -/
structure Holds (b : RingBuffer UInt8 4000) (frames : List (List UInt8)) : Prop where
  short : ∀ m ∈ frames, m.length < 256
  room : (frames.flatMap prefixed).length < 4000
  stored : Stored ⟨b, frames.flatMap prefixed⟩

variable {b : RingBuffer UInt8 4000} {frames : List (List UInt8)}

theorem Holds.dataSize (h : Holds b frames) : b.dataSize = (frames.flatMap prefixed).length :=
  ((faithful_iff h.stored).mpr h.room).dataSize

theorem holds_clear (b : RingBuffer UInt8 4000) : Holds b.clear [] :=
  ⟨fun _ hm => absurd hm List.not_mem_nil, by simp, stored_clear b⟩

/-- A full buffer is an empty one. -/
theorem stored_nil_of_full {q : List UInt8} (h : Stored ⟨b, q⟩) (hfull : q.length = 4000) : Stored ⟨b, []⟩ := by
  refine ⟨Nat.zero_le _, ?_, rfl⟩
  have hptr : b.iPtr = Ring.ahead b.oPtr q.length := h.iPtr
  show b.iPtr = b.oPtr
  apply Fin.ext
  rw [hptr, Ring.val_ahead, hfull, Nat.add_mod_right, Nat.mod_eq_of_lt b.oPtr.isLt]

/-- `addData` into a buffer that is not full. -/
theorem addData_stored {q : List UInt8} (h : Stored ⟨b, q⟩) (hroom : q.length < 4000) (xs : List UInt8) :
    Stored ⟨(b.addData xs).2, if q.length + xs.length < 4000 then q ++ xs else []⟩ := by
  have hsize : b.dataSize = q.length := ((faithful_iff h).mpr hroom).dataSize
  have hfree : b.dataSize = 4000 - b.freeSpace := rfl
  have hle := b.freeSpace_le
  by_cases hfits : q.length + xs.length < 4000
  · rw [if_pos hfits, addData_of_le (by omega)]
    exact stored_pushes xs h (by omega)
  · rw [if_neg hfits]
    by_cases hfull : q.length + xs.length = 4000
    · rw [addData_of_le (by omega)]
      exact stored_nil_of_full (stored_pushes xs h (by omega)) (by rw [List.length_append]; exact hfull)
    · rw [addData_of_gt (by omega)]
      exact stored_clear b

/-- `get` from a buffer that is not full. -/
theorem get_stored {q : List UInt8} (h : Stored ⟨b, q⟩) (hroom : q.length < 4000) {n : Nat} (hn : n ≤ q.length) :
    (b.get n).1 = some (q.take n) ∧ Stored ⟨(b.get n).2, q.drop n⟩ := by
  obtain ⟨hallowed, hstored⟩ := exec_stored h hroom (.get n)
  have hanswer : (b.exec (.get n)).1 = .yielded (b.get n).1 := rfl
  rw [hanswer] at hallowed hstored
  cases hyield : (b.get n).1 with
  | none =>
      rw [hyield] at hallowed
      cases hallowed with
      | getUnderflow hlt => omega
  | some xs =>
      rw [hyield] at hallowed hstored
      cases hallowed with
      | get _ => exact ⟨rfl, hstored⟩

/-- What is left of a message in its frame. -/
def carried (message : List UInt8) : List UInt8 := message.take (message.length % 256)

theorem length_carried (message : List UInt8) : (carried message).length = message.length % 256 := by
  unfold carried
  rw [List.length_take]
  exact Nat.min_eq_left (Nat.mod_le _ _)

theorem carried_of_lt {message : List UInt8} (h : message.length < 256) : carried message = message := by
  unfold carried
  rw [Nat.mod_eq_of_lt h, List.take_length]

/-- **A message is queued**: behind the frames when there is room for it, and else all frames are gone. A buffer that
    the length fills takes no message with octets. -/
theorem holds_queueFrame (h : Holds b frames) {message : List UInt8}
    (hone : b.dataSize < 3999 ∨ message.length % 256 = 0) :
    Holds (Network.queueFrame b message)
      (if b.dataSize + 1 + message.length % 256 < 4000 then frames ++ [carried message] else []) := by
  have hroom := h.room
  have hlen : message.length.toUInt8.toNat = message.length % 256 := by simp
  have hbody : message.take message.length.toUInt8.toNat = carried message := by rw [hlen, carried]
  have hhead := addData_stored h.stored hroom [message.length.toUInt8]
  rw [List.length_singleton] at hhead
  unfold Network.queueFrame
  dsimp only
  rw [hbody]
  rw [h.dataSize] at hone ⊢
  by_cases hfull : (frames.flatMap prefixed).length + 1 < 4000
  · rw [if_pos hfull] at hhead
    have hframe := addData_stored hhead (by rw [List.length_append, List.length_singleton]; exact hfull) (carried message)
    rw [List.length_append, List.length_singleton, length_carried] at hframe
    by_cases hfits : (frames.flatMap prefixed).length + 1 + message.length % 256 < 4000
    · rw [if_pos hfits] at hframe ⊢
      have hflat : (frames ++ [carried message]).flatMap prefixed =
          frames.flatMap prefixed ++ [message.length.toUInt8] ++ carried message := by
        have hhd : (carried message).length.toUInt8 = message.length.toUInt8 := by
          apply UInt8.toNat_inj.mp
          rw [length_carried, hlen]
          simp
        rw [List.flatMap_append, List.flatMap_singleton, prefixed, hhd, List.append_assoc]
        rfl
      refine ⟨fun m hm => ?_, ?_, ?_⟩
      · rcases List.mem_append.mp hm with hm | hm
        · exact h.short m hm
        · rw [List.mem_singleton.mp hm, length_carried]
          exact Nat.mod_lt _ (by decide)
      · rw [hflat, List.length_append, List.length_append, List.length_singleton, length_carried]
        exact hfits
      · rw [hflat]
        exact hframe
    · rw [if_neg hfits] at hframe ⊢
      exact ⟨fun _ hm => absurd hm List.not_mem_nil, by simp, hframe⟩
  · -- the octet of the length fills the buffer, and nothing follows it
    have hzero : message.length % 256 = 0 := by omega
    have hnil : carried message = [] := List.length_eq_zero_iff.mp (by rw [length_carried, hzero])
    rw [if_neg hfull] at hhead
    have hframe := addData_stored hhead (by simp) (carried message)
    rw [hnil] at hframe ⊢
    rw [if_neg (by omega)]
    exact ⟨fun _ hm => absurd hm List.not_mem_nil, by simp, hframe⟩

/-- **A frame is read**: nothing when there is none or it is empty, and else the message. -/
theorem holds_readFrame (h : Holds b frames) :
    (BaseNetwork.readFrame b).1 = frames.head?.filter (fun m => m ≠ []) ∧
      Holds (BaseNetwork.readFrame b).2 frames.tail := by
  have hempty : b.isEmpty = true ↔ frames.flatMap prefixed = [] := ((faithful_iff h.stored).mpr h.room).isEmpty
  cases frames with
  | nil =>
      unfold BaseNetwork.readFrame
      rw [if_pos (hempty.mpr rfl)]
      exact ⟨rfl, h⟩
  | cons m frames =>
      have hcons : (m :: frames).flatMap prefixed = m.length.toUInt8 :: (m ++ frames.flatMap prefixed) := rfl
      have hroom := h.room
      rw [hcons, List.length_cons, List.length_append] at hroom
      have htail : (frames.flatMap prefixed).length < 4000 := by omega
      have hshort := h.short m List.mem_cons_self
      have hframes : ∀ x ∈ frames, x.length < 256 := fun x hx => h.short x (List.mem_cons_of_mem m hx)
      have hstored := h.stored
      rw [hcons] at hstored hempty
      have hcount : (m.length.toUInt8 :: (m ++ frames.flatMap prefixed)).length < 4000 := by
        rw [List.length_cons, List.length_append]
        omega
      obtain ⟨hhead, hrest⟩ := get_stored hstored hcount (Nat.le_add_left 1 _)
      have hlen : m.length.toUInt8.toNat = m.length := by simpa using hshort
      have htake : (m.length.toUInt8 :: (m ++ frames.flatMap prefixed)).take 1 = [m.length.toUInt8] := rfl
      have hdrop : (m.length.toUInt8 :: (m ++ frames.flatMap prefixed)).drop 1 = m ++ frames.flatMap prefixed := rfl
      rw [htake] at hhead
      rw [hdrop] at hrest
      have hread : BaseNetwork.readFrame b =
          if m.length.toUInt8 = 0 then (none, (b.get 1).2)
          else
            (some (((b.get 1).2.get m.length.toUInt8.toNat).1.getD (List.replicate m.length.toUInt8.toNat 0)),
              ((b.get 1).2.get m.length.toUInt8.toNat).2) := by
        unfold BaseNetwork.readFrame
        rw [if_neg fun he => List.cons_ne_nil _ _ (hempty.mp he)]
        dsimp only
        rw [hhead]
        rfl
      rw [hread]
      by_cases hzero : m.length.toUInt8 = 0
      · -- the length of an empty frame is all there is of it
        rw [hzero] at hlen
        have hnil : m = [] := List.length_eq_zero_iff.mp hlen.symm
        rw [if_pos hzero, hnil]
        rw [hnil, List.nil_append] at hrest
        exact ⟨rfl, hframes, htail, hrest⟩
      · have hne : m ≠ [] := fun hnil => hzero (by rw [hnil]; rfl)
        have hleft : (m ++ frames.flatMap prefixed).length < 4000 := by
          rw [List.length_append]
          omega
        obtain ⟨hbody, hnext⟩ := get_stored hrest hleft (n := m.length) (by rw [List.length_append]; omega)
        rw [List.take_left] at hbody
        rw [List.drop_left] at hnext
        rw [if_neg hzero, hlen, hbody]
        refine ⟨?_, hframes, htail, hnext⟩
        rw [List.head?_cons, Option.filter_some, if_pos (decide_eq_true hne), Option.getD_some]

end RingBuffer

/-! ## A datagram -/

namespace Network

/-- The three protocols. -/
inductive Mode where
  | dmr
  | p25
  | nxdn
deriving DecidableEq

/-- The ring buffer of a protocol. -/
def rxData (n : Network) : Mode → RingBuffer UInt8 4000
  | .dmr => n.m_rxDMRData
  | .p25 => n.m_rxP25Data
  | .nxdn => n.m_rxNXDNData

/-- The protocol of a subfunction, when it is enabled. -/
def modeOf (n : Network) (subFunc : UInt8) : Option Mode :=
  if subFunc = NET_PROTOCOL_SUBFUNC_DMR then if n.m_enabled && n.m_dmrEnabled then some .dmr else none
  else if subFunc = NET_PROTOCOL_SUBFUNC_P25 then if n.m_enabled && n.m_p25Enabled then some .p25 else none
  else if subFunc = NET_PROTOCOL_SUBFUNC_NXDN then if n.m_enabled && n.m_nxdnEnabled then some .nxdn else none
  else none

/-- The protocol under which a message is queued. -/
def queues (n : Network) (pkt : Packet) : Option Mode :=
  if pkt.fromMaster = true ∧ n.m_peerId = pkt.fneHeader.peerId then n.modeOf pkt.fneHeader.subFunc else none

/-- By name, so that the numerals of `Fin 2` carry no proof of their own. -/
local instance neZero_two : NeZero 2 := ⟨by decide⟩

/-- The slot that a DMR message is for, as an index. -/
def slotOf (message : List UInt8) : Fin 2 := if message.getD 15 0 &&& 0x80 = 0x80 then 1 else 0

/-- The latch of a stream: the first stream is kept. -/
def latch (kept streamId : UInt32) : UInt32 := if kept = 0 then streamId else kept

theorem fst_trackStream (kept streamId : UInt32) (m_pktSeq m_pktLastSeq : UInt16) :
    (trackStream kept streamId m_pktSeq m_pktLastSeq).1 = latch kept streamId := by
  unfold trackStream latch
  split
  · rfl
  · split <;> rfl

/-- What is queued by a message of a protocol: the message under the protocol, nothing elsewhere. -/
structure Queued (n n' : Network) (mode : Mode) (message : List UInt8) : Prop where
  same : n'.rxData mode = queueFrame (n.rxData mode) message
  others : ∀ mode', mode' ≠ mode → n'.rxData mode' = n.rxData mode'

theorem receiveDMR_queued {n : Network} (hon : (n.m_enabled && n.m_dmrEnabled) = true) {message : List UInt8}
    (hlen : 16 ≤ message.length) (hslot : slotOf message = 0) (streamId : UInt32) :
    ∃ n', n.receiveDMR message streamId = some n' ∧ Queued n n' .dmr message ∧
      n'.m_rxDMRStreamId = n.m_rxDMRStreamId.set 1 (latch n.m_rxDMRStreamId[1] streamId) := by
  have hoctet : message[15]? = some (message.getD 15 0) := by
    rw [List.getD_eq_getElem?_getD, List.getElem?_eq_getElem hlen, Option.getD_some]
  have hfirst : ¬ message.getD 15 0 &&& 0x80 = 0x80 := by
    intro hsecond
    unfold slotOf at hslot
    rw [if_pos hsecond] at hslot
    exact absurd hslot (by decide)
  unfold receiveDMR
  rw [if_pos hon, hoctet]
  dsimp only
  simp only [hfirst, if_false]
  refine ⟨_, rfl, ⟨rfl, fun mode' hmode => ?_⟩, ?_⟩
  · cases mode' with
    | dmr => exact absurd rfl hmode
    | p25 => rfl
    | nxdn => rfl
  · simp [fst_trackStream]

theorem receiveP25_queued {n : Network} (hon : (n.m_enabled && n.m_p25Enabled) = true) (message : List UInt8)
    (streamId : UInt32) :
    Queued n (n.receiveP25 message streamId) .p25 message ∧
      (n.receiveP25 message streamId).m_rxDMRStreamId = n.m_rxDMRStreamId := by
  unfold receiveP25
  rw [if_pos hon]
  refine ⟨⟨rfl, fun mode' hmode => ?_⟩, rfl⟩
  cases mode' with
  | dmr => rfl
  | p25 => exact absurd rfl hmode
  | nxdn => rfl

theorem receiveNXDN_queued {n : Network} (hon : (n.m_enabled && n.m_nxdnEnabled) = true) (message : List UInt8)
    (streamId : UInt32) :
    Queued n (n.receiveNXDN message streamId) .nxdn message ∧
      (n.receiveNXDN message streamId).m_rxDMRStreamId = n.m_rxDMRStreamId := by
  unfold receiveNXDN
  rw [if_pos hon]
  refine ⟨⟨rfl, fun mode' hmode => ?_⟩, rfl⟩
  cases mode' with
  | dmr => rfl
  | p25 => rfl
  | nxdn => exact absurd rfl hmode

/-- A message that the peer looks at is handled under its protocol or not at all. -/
theorem protocol_cases (n : Network) (pkt : Packet) :
    n.modeOf pkt.fneHeader.subFunc = none ∧ n.protocol pkt = some n ∨
    (n.m_enabled && n.m_dmrEnabled) = true ∧ n.modeOf pkt.fneHeader.subFunc = some .dmr ∧
      n.protocol pkt = n.receiveDMR pkt.message pkt.fneHeader.streamId ∨
    (n.m_enabled && n.m_p25Enabled) = true ∧ n.modeOf pkt.fneHeader.subFunc = some .p25 ∧
      n.protocol pkt = some (n.receiveP25 pkt.message pkt.fneHeader.streamId) ∨
    (n.m_enabled && n.m_nxdnEnabled) = true ∧ n.modeOf pkt.fneHeader.subFunc = some .nxdn ∧
      n.protocol pkt = some (n.receiveNXDN pkt.message pkt.fneHeader.streamId) := by
  unfold modeOf protocol
  split
  · by_cases hon : (n.m_enabled && n.m_dmrEnabled) = true
    · exact Or.inr (Or.inl ⟨hon, if_pos hon, rfl⟩)
    · exact Or.inl ⟨if_neg hon, if_neg hon⟩
  · split
    · by_cases hon : (n.m_enabled && n.m_p25Enabled) = true
      · exact Or.inr (Or.inr (Or.inl ⟨hon, if_pos hon, rfl⟩))
      · exact Or.inl ⟨if_neg hon, congrArg some (if_neg hon)⟩
    · split
      · by_cases hon : (n.m_enabled && n.m_nxdnEnabled) = true
        · exact Or.inr (Or.inr (Or.inr ⟨hon, if_pos hon, rfl⟩))
        · exact Or.inl ⟨if_neg hon, congrArg some (if_neg hon)⟩
      · exact Or.inl ⟨rfl, rfl⟩

/-- What a datagram does to the queues and the latches: nothing, or a message is queued. Of a DMR message the slot is
    an index of the latches, which has to be one. -/
theorem receive_protocol (n : Network) {pkt : Packet} (hfunc : pkt.fneHeader.func = NET_FUNC_PROTOCOL) (heap : Bytes)
    (fuel : Nat) :
    match n.queues pkt with
    | none => ∃ n', n.receive pkt heap fuel = some n' ∧ n'.rxData = n.rxData ∧ n'.m_rxDMRStreamId = n.m_rxDMRStreamId
    | some .dmr => 16 ≤ pkt.message.length → slotOf pkt.message = 0 →
        ∃ n', n.receive pkt heap fuel = some n' ∧ Queued n n' .dmr pkt.message ∧
          n'.m_rxDMRStreamId = n.m_rxDMRStreamId.set 1
            (latch (getElem n.m_rxDMRStreamId 1 Nat.one_lt_two) pkt.fneHeader.streamId) Nat.one_lt_two
    | some mode => ∃ n', n.receive pkt heap fuel = some n' ∧ Queued n n' mode pkt.message ∧
        n'.m_rxDMRStreamId = n.m_rxDMRStreamId := by
  unfold queues
  by_cases hsender : pkt.fromMaster = true
  · by_cases hpeer : n.m_peerId = pkt.fneHeader.peerId
    · rw [if_pos ⟨hsender, hpeer⟩]
      have hreceive : n.receive pkt heap fuel = (if pkt.rtpHeader.seq = RTP_END_OF_CALL_SEQ then
          { n with m_pktSeq := 0, m_pktLastSeq := 0 } else { n with m_pktSeq := pkt.rtpHeader.seq }).protocol pkt := by
        unfold receive
        dsimp only
        rw [if_neg (by rw [hsender]; exact Bool.false_ne_true), if_neg (not_not.mpr hpeer), if_pos hfunc]
      obtain ⟨n1, hn1, hsame⟩ : ∃ n1 : Network, n.receive pkt heap fuel = n1.protocol pkt ∧
          ∃ m_pktSeq m_pktLastSeq, n1 = { n with m_pktSeq, m_pktLastSeq } := by
        refine ⟨_, hreceive, ?_⟩
        split
        · exact ⟨0, 0, rfl⟩
        · exact ⟨pkt.rtpHeader.seq, n.m_pktLastSeq, rfl⟩
      obtain ⟨m_pktSeq, m_pktLastSeq, rfl⟩ := hsame
      rw [hn1]
      -- the two sequence numbers are read by no check and no queue
      rcases protocol_cases { n with m_pktSeq, m_pktLastSeq } pkt with
        ⟨hmode, heq⟩ | ⟨hon, hmode, heq⟩ | ⟨hon, hmode, heq⟩ | ⟨hon, hmode, heq⟩
      · have hmode : n.modeOf pkt.fneHeader.subFunc = none := hmode
        rw [hmode, heq]
        exact ⟨_, rfl, rfl, rfl⟩
      · have hmode : n.modeOf pkt.fneHeader.subFunc = some .dmr := hmode
        rw [hmode, heq]
        intro hlen hslot
        obtain ⟨n', hn', hqueued, hlatch⟩ := receiveDMR_queued hon hlen hslot pkt.fneHeader.streamId
        exact ⟨n', hn', ⟨hqueued.same, hqueued.others⟩, hlatch⟩
      · have hmode : n.modeOf pkt.fneHeader.subFunc = some .p25 := hmode
        rw [hmode, heq]
        obtain ⟨hqueued, hlatch⟩ := receiveP25_queued hon pkt.message pkt.fneHeader.streamId
        exact ⟨_, rfl, ⟨hqueued.same, hqueued.others⟩, hlatch⟩
      · have hmode : n.modeOf pkt.fneHeader.subFunc = some .nxdn := hmode
        rw [hmode, heq]
        obtain ⟨hqueued, hlatch⟩ := receiveNXDN_queued hon pkt.message pkt.fneHeader.streamId
        exact ⟨_, rfl, ⟨hqueued.same, hqueued.others⟩, hlatch⟩
    · rw [if_neg fun h => hpeer h.2]
      refine ⟨n, ?_, rfl, rfl⟩
      unfold receive
      rw [if_pos hpeer]
      exact ite_self _
  · rw [if_neg fun h => hsender h.1]
    refine ⟨n, ?_, rfl, rfl⟩
    unfold receive
    exact if_pos (by rw [Bool.eq_false_iff.mpr hsender]; rfl)

/-! ## Sessions -/

/-- A call of a session: a datagram of the traffic, a read, or a reset. -/
inductive Call where
  | datagram (pkt : Packet) (hfunc : pkt.fneHeader.func = NET_FUNC_PROTOCOL) (heap : Bytes) (fuel : Nat)
  | read (mode : Mode)
  | resetDMR (slot : Fin 2)
  | resetP25
  | resetNXDN

/-- `readDMR`, `readP25` or `readNXDN`. -/
def readMode (n : Network) : Mode → Option (List UInt8) × Network
  | .dmr => (n.toBaseNetwork.readDMR.1, { n with toBaseNetwork := n.toBaseNetwork.readDMR.2 })
  | .p25 => (n.toBaseNetwork.readP25.1, { n with toBaseNetwork := n.toBaseNetwork.readP25.2 })
  | .nxdn => (n.toBaseNetwork.readNXDN.1, { n with toBaseNetwork := n.toBaseNetwork.readNXDN.2 })

/-- A peer beside the messages that each protocol has received and given out, the stream that each DMR slot has, and
    whether a call had no result. -/
structure Session where
  net : Network
  received : Mode → List (List UInt8) := fun _ => []
  returned : Mode → List (List UInt8) := fun _ => []
  streams : Fin 2 → UInt32 := fun _ => 0
  stuck : Bool := false

namespace Session

/-- A session starts with empty buffers and no streams. -/
def start (n : Network) : Session where
  net := { n with
    m_rxDMRData := .new 4000 (by decide), m_rxP25Data := .new 4000 (by decide),
    m_rxNXDNData := .new 4000 (by decide), m_rxDMRStreamId := #v[0, 0] }

/-- What is received and which stream a slot has, after a datagram. -/
def track (s : Session) (pkt : Packet) : Session :=
  match s.net.queues pkt with
  | none => s
  | some mode =>
      { s with
        received := Function.update s.received mode (s.received mode ++ [pkt.message])
        streams :=
          if mode = .dmr then
            Function.update s.streams (slotOf pkt.message)
              (latch (s.streams (slotOf pkt.message)) pkt.fneHeader.streamId)
          else s.streams }

/-- A call. -/
def exec (s : Session) : Call → Session
  | .datagram pkt _ heap fuel =>
      match s.net.receive pkt heap fuel with
      | some net => { s.track pkt with net }
      | none => { s with stuck := true }
  | .read mode =>
      { s with
        net := (s.net.readMode mode).2
        returned := Function.update s.returned mode (s.returned mode ++ (s.net.readMode mode).1.toList) }
  | .resetDMR slot =>
      match s.net.resetDMR (slot.val + 1) with
      | some net => { s with net, streams := Function.update s.streams slot 0 }
      | none => { s with stuck := true }
  | .resetP25 => { s with net := s.net.resetP25 }
  | .resetNXDN => { s with net := s.net.resetNXDN }

/-- **The framing**: every index was in range, what was given out are whole messages as they were received, in their
    order and none twice, and the latch that `resetDMR` clears for a slot is the stream of the slot. -/
structure Framed (s : Session) : Prop where
  inRange : s.stuck = false
  whole : ∀ mode, (s.returned mode).Sublist (s.received mode)
  latches : ∀ slot : Fin 2, s.net.m_rxDMRStreamId[slot] = s.streams slot

/-- A datagram that the framing survives: a message that is queued has a length that fits an octet, or one of which
    nothing is queued, and meets a buffer with room behind an octet; and a DMR message is for the first slot and has
    no stream, unless every latch is taken. -/
def Meets (s : Session) : Call → Prop
  | .datagram pkt _ _ _ =>
      ∀ mode, s.net.queues pkt = some mode →
        (pkt.message.length < 256 ∨ pkt.message.length % 256 = 0) ∧
        ((s.net.rxData mode).dataSize < 3999 ∨ pkt.message.length % 256 = 0) ∧
        (mode = .dmr → 16 ≤ pkt.message.length ∧ slotOf pkt.message = 0 ∧
          (pkt.fneHeader.streamId = 0 ∨ ∀ slot : Fin 2, s.net.m_rxDMRStreamId[slot] ≠ 0))
  | _ => True

/-- The invariant: every ring buffer holds frames, of messages that are still to come. -/
structure Aligned (s : Session) : Prop where
  inRange : s.stuck = false
  frames : ∀ mode, ∃ frames, RingBuffer.Holds (s.net.rxData mode) frames ∧
    (s.returned mode ++ frames.filter fun m => m ≠ []).Sublist (s.received mode)
  latches : ∀ slot : Fin 2, s.net.m_rxDMRStreamId[slot] = s.streams slot

theorem Aligned.framed {s : Session} (h : s.Aligned) : s.Framed := by
  refine ⟨h.inRange, fun mode => ?_, h.latches⟩
  obtain ⟨frames, -, hsub⟩ := h.frames mode
  exact (List.sublist_append_left _ _).trans hsub

theorem aligned_start (n : Network) : (start n).Aligned := by
  refine ⟨rfl, fun mode => ⟨[], ?_, List.nil_sublist _⟩, fun slot => ?_⟩
  · cases mode <;> exact RingBuffer.holds_clear (.new 4000 (by decide))
  · have hzero : ∀ slot : Fin 2, #v[(0 : UInt32), 0][slot] = 0 := by decide
    exact hzero slot

/-! ### The calls -/

/-- A read takes the first frame of its buffer, or nothing. -/
theorem readMode_spec (n : Network) (mode : Mode) :
    (n.readMode mode).2.m_rxDMRStreamId = n.m_rxDMRStreamId ∧
    (∀ mode', mode' ≠ mode → (n.readMode mode).2.rxData mode' = n.rxData mode') ∧
    ((n.readMode mode).1 = none ∧ (n.readMode mode).2.rxData mode = n.rxData mode ∨
      (n.readMode mode).1 = (BaseNetwork.readFrame (n.rxData mode)).1 ∧
        (n.readMode mode).2.rxData mode = (BaseNetwork.readFrame (n.rxData mode)).2) := by
  have hothers : ∀ base : BaseNetwork, base = n.toBaseNetwork → ∀ mode',
      ({ n with toBaseNetwork := base } : Network).rxData mode' = n.rxData mode' := by
    rintro base rfl mode'
    rfl
  cases mode with
  | dmr =>
      unfold readMode BaseNetwork.readDMR
      dsimp only
      split
      · refine ⟨rfl, fun mode' hmode => ?_, Or.inr ⟨rfl, rfl⟩⟩
        cases mode' with
        | dmr => exact absurd rfl hmode
        | p25 => rfl
        | nxdn => rfl
      · exact ⟨rfl, fun mode' _ => hothers _ rfl mode', Or.inl ⟨rfl, rfl⟩⟩
  | p25 =>
      unfold readMode BaseNetwork.readP25
      dsimp only
      split
      · refine ⟨rfl, fun mode' hmode => ?_, Or.inr ⟨rfl, rfl⟩⟩
        cases mode' with
        | dmr => rfl
        | p25 => exact absurd rfl hmode
        | nxdn => rfl
      · exact ⟨rfl, fun mode' _ => hothers _ rfl mode', Or.inl ⟨rfl, rfl⟩⟩
  | nxdn =>
      unfold readMode BaseNetwork.readNXDN
      dsimp only
      split
      · refine ⟨rfl, fun mode' hmode => ?_, Or.inr ⟨rfl, rfl⟩⟩
        cases mode' with
        | dmr => rfl
        | p25 => rfl
        | nxdn => exact absurd rfl hmode
      · exact ⟨rfl, fun mode' _ => hothers _ rfl mode', Or.inl ⟨rfl, rfl⟩⟩

theorem aligned_read {s : Session} (h : s.Aligned) (mode : Mode) : (s.exec (.read mode)).Aligned := by
  obtain ⟨hlatch, hothers, hread⟩ := readMode_spec s.net mode
  refine ⟨h.inRange, fun mode' => ?_, fun slot => ?_⟩
  · obtain ⟨frames, hholds, hsub⟩ := h.frames mode'
    show ∃ frames, RingBuffer.Holds ((s.net.readMode mode).2.rxData mode') frames ∧
      (Function.update s.returned mode (s.returned mode ++ (s.net.readMode mode).1.toList) mode' ++
        frames.filter fun m => m ≠ []).Sublist (s.received mode')
    by_cases hmode : mode' = mode
    · subst hmode
      rw [Function.update_self]
      rcases hread with ⟨hnone, hsame⟩ | ⟨hframe, hrest⟩
      · refine ⟨frames, ?_, ?_⟩
        · rw [hsame]
          exact hholds
        · rw [hnone, Option.toList_none, List.append_nil]
          exact hsub
      · obtain ⟨hvalue, htail⟩ := RingBuffer.holds_readFrame hholds
        refine ⟨frames.tail, ?_, ?_⟩
        · rw [hrest]
          exact htail
        · rw [hframe, hvalue, List.append_assoc]
          have hsplit : (frames.head?.filter fun m => m ≠ []).toList ++ frames.tail.filter (fun m => m ≠ []) =
              frames.filter fun m => m ≠ [] := by
            cases frames with
            | nil => rfl
            | cons m frames =>
                by_cases hnil : m = []
                · subst hnil
                  rfl
                · rw [List.head?_cons, Option.filter_some, if_pos (decide_eq_true hnil),
                    List.filter_cons_of_pos (by simpa using hnil)]
                  rfl
          rw [hsplit]
          exact hsub
    · rw [Function.update_of_ne hmode, hothers mode' hmode]
      exact ⟨frames, hholds, hsub⟩
  · show (s.net.readMode mode).2.m_rxDMRStreamId[slot] = s.streams slot
    rw [hlatch]
    exact h.latches slot

/-- A reset of the buffer of a protocol loses its frames. -/
theorem aligned_clear {s : Session} (h : s.Aligned) {net : Network} {mode : Mode}
    (hclear : net.rxData mode = (s.net.rxData mode).clear)
    (hothers : ∀ mode', mode' ≠ mode → net.rxData mode' = s.net.rxData mode') {streams : Fin 2 → UInt32}
    (hlatches : ∀ slot : Fin 2, net.m_rxDMRStreamId[slot] = streams slot) : ({ s with net, streams }).Aligned := by
  refine ⟨h.inRange, fun mode' => ?_, hlatches⟩
  obtain ⟨frames, hholds, hsub⟩ := h.frames mode'
  show ∃ frames, RingBuffer.Holds (net.rxData mode') frames ∧ _
  by_cases hmode : mode' = mode
  · subst hmode
    rw [hclear]
    refine ⟨[], RingBuffer.holds_clear _, ?_⟩
    rw [List.filter_nil, List.append_nil]
    exact (List.sublist_append_left _ _).trans hsub
  · rw [hothers mode' hmode]
    exact ⟨frames, hholds, hsub⟩

/-- A message that is queued as `Meets` admits. -/
theorem aligned_queued {s : Session} (h : s.Aligned) {net : Network} {mode : Mode} {message : List UInt8}
    (hqueued : Queued s.net net mode message)
    (hwhole : message.length < 256 ∨ message.length % 256 = 0)
    (hroom : (s.net.rxData mode).dataSize < 3999 ∨ message.length % 256 = 0) (mode' : Mode) :
    ∃ frames, RingBuffer.Holds (net.rxData mode') frames ∧
      (s.returned mode' ++ frames.filter fun m => m ≠ []).Sublist
        (Function.update s.received mode (s.received mode ++ [message]) mode') := by
  obtain ⟨frames, hholds, hsub⟩ := h.frames mode'
  by_cases hmode : mode' = mode
  · subst hmode
    rw [Function.update_self, hqueued.same]
    refine ⟨_, RingBuffer.holds_queueFrame hholds hroom, ?_⟩
    split
    · rw [List.filter_append, ← List.append_assoc]
      refine hsub.append ?_
      by_cases hnil : RingBuffer.carried message = []
      · rw [hnil]
        exact List.nil_sublist _
      · have hlen : ¬ message.length % 256 = 0 := fun hzero =>
          hnil (List.length_eq_zero_iff.mp (by rw [RingBuffer.length_carried, hzero]))
        rw [RingBuffer.carried_of_lt (hwhole.resolve_right hlen)]
        exact List.filter_sublist
    · rw [List.filter_nil, List.append_nil]
      exact ((List.sublist_append_left _ _).trans hsub).trans (List.sublist_append_left _ _)
  · rw [Function.update_of_ne hmode, hqueued.others mode' hmode]
    exact ⟨frames, hholds, hsub⟩

theorem exec_datagram (s : Session) {pkt : Packet} (hfunc : pkt.fneHeader.func = NET_FUNC_PROTOCOL) {heap : Bytes}
    {fuel : Nat} {net : Network} (h : s.net.receive pkt heap fuel = some net) :
    s.exec (.datagram pkt hfunc heap fuel) = { s.track pkt with net } := by
  show (match s.net.receive pkt heap fuel with
    | some net => { s.track pkt with net }
    | none => { s with stuck := true }) = _
  rw [h]

theorem exec_datagram_none (s : Session) {pkt : Packet} (hfunc : pkt.fneHeader.func = NET_FUNC_PROTOCOL) {heap : Bytes}
    {fuel : Nat} (h : s.net.receive pkt heap fuel = none) :
    s.exec (.datagram pkt hfunc heap fuel) = { s with stuck := true } := by
  show (match s.net.receive pkt heap fuel with
    | some net => { s.track pkt with net }
    | none => { s with stuck := true }) = _
  rw [h]

theorem track_of_none {s : Session} {pkt : Packet} (h : s.net.queues pkt = none) : s.track pkt = s := by
  unfold track
  rw [h]

theorem track_of_some {s : Session} {pkt : Packet} {mode : Mode} (h : s.net.queues pkt = some mode) :
    s.track pkt = { s with
      received := Function.update s.received mode (s.received mode ++ [pkt.message])
      streams :=
        if mode = .dmr then
          Function.update s.streams (slotOf pkt.message)
            (latch (s.streams (slotOf pkt.message)) pkt.fneHeader.streamId)
        else s.streams } := by
  unfold track
  rw [h]

theorem latch_eq_self {kept streamId : UInt32} (h : streamId = 0 ∨ kept ≠ 0) : latch kept streamId = kept := by
  unfold latch
  split
  · next hzero =>
    rw [h.resolve_right (not_not.mpr hzero), hzero]
  · rfl

theorem aligned_datagram {s : Session} (h : s.Aligned) {pkt : Packet} (hfunc : pkt.fneHeader.func = NET_FUNC_PROTOCOL)
    (heap : Bytes) (fuel : Nat) (hmeets : s.Meets (.datagram pkt hfunc heap fuel)) :
    (s.exec (.datagram pkt hfunc heap fuel)).Aligned := by
  have hreceive := receive_protocol s.net hfunc heap fuel
  cases hqueues : s.net.queues pkt with
  | none =>
      rw [hqueues] at hreceive
      obtain ⟨net, hnet, hdata, hlatch⟩ := hreceive
      rw [exec_datagram s hfunc hnet, track_of_none hqueues]
      refine ⟨h.inRange, fun mode => ?_, fun slot => ?_⟩
      · show ∃ frames, RingBuffer.Holds (net.rxData mode) frames ∧ _
        rw [hdata]
        exact h.frames mode
      · show net.m_rxDMRStreamId[slot] = s.streams slot
        rw [hlatch]
        exact h.latches slot
  | some mode =>
      obtain ⟨hwhole, hroom, hdmr⟩ := hmeets mode hqueues
      obtain ⟨net, hnet, hqueued, hlatches⟩ : ∃ net, s.net.receive pkt heap fuel = some net ∧
          Queued s.net net mode pkt.message ∧ net.m_rxDMRStreamId = s.net.m_rxDMRStreamId := by
        rw [hqueues] at hreceive
        cases mode with
        | dmr =>
            obtain ⟨hlen, hslot, hstream⟩ := hdmr rfl
            obtain ⟨net, hnet, hqueued, hlatch⟩ := hreceive hlen hslot
            have hkept : latch s.net.m_rxDMRStreamId[1] pkt.fneHeader.streamId = s.net.m_rxDMRStreamId[1] :=
              latch_eq_self (hstream.imp_right fun hall => hall 1)
            refine ⟨net, hnet, hqueued, ?_⟩
            rw [hlatch, hkept, Vector.set_getElem_self]
        | p25 => exact hreceive
        | nxdn => exact hreceive
      rw [exec_datagram s hfunc hnet, track_of_some hqueues]
      refine ⟨h.inRange, aligned_queued h hqueued hwhole hroom, fun slot => ?_⟩
      show net.m_rxDMRStreamId[slot] = (if mode = .dmr then _ else _ : Fin 2 → UInt32) slot
      rw [hlatches, h.latches slot]
      split
      · next hmode =>
        obtain ⟨-, hslot, hstream⟩ := hdmr hmode
        have hkept : latch (s.streams 0) pkt.fneHeader.streamId = s.streams 0 :=
          latch_eq_self (hstream.imp_right fun hall => by rw [← h.latches 0]; exact hall 0)
        rw [hslot, hkept, Function.update_eq_self]
      · rfl

/-- A reset of a slot clears the buffer of both slots, and the latch of the slot. -/
theorem resetDMR_spec (n : Network) (slot : Fin 2) :
    ∃ net, n.resetDMR (slot.val + 1) = some net ∧ net.rxData .dmr = (n.rxData .dmr).clear ∧
      (∀ mode', mode' ≠ .dmr → net.rxData mode' = n.rxData mode') ∧
      net.m_rxDMRStreamId = n.m_rxDMRStreamId.set slot 0 := by
  have hothers : ∀ (net : Network) mode', mode' ≠ .dmr → net.m_rxP25Data = n.m_rxP25Data →
      net.m_rxNXDNData = n.m_rxNXDNData → net.rxData mode' = n.rxData mode' := by
    intro net mode' hmode hp25 hnxdn
    cases mode' with
    | dmr => exact absurd rfl hmode
    | p25 => exact hp25
    | nxdn => exact hnxdn
  match slot with
  | 0 => exact ⟨_, rfl, rfl, fun mode' hmode => hothers _ mode' hmode rfl rfl, rfl⟩
  | 1 => exact ⟨_, rfl, rfl, fun mode' hmode => hothers _ mode' hmode rfl rfl, rfl⟩

/-- **Every call keeps the frames aligned** that the datagrams it may be meet the condition. -/
theorem aligned_exec {s : Session} (h : s.Aligned) {call : Call} (hmeets : s.Meets call) : (s.exec call).Aligned := by
  cases call with
  | datagram pkt hfunc heap fuel => exact aligned_datagram h hfunc heap fuel hmeets
  | read mode => exact aligned_read h mode
  | resetDMR slot =>
      obtain ⟨net, hnet, hclear, hothers, hlatch⟩ := resetDMR_spec s.net slot
      have hexec : s.exec (.resetDMR slot) = { s with net, streams := Function.update s.streams slot 0 } := by
        show (match s.net.resetDMR (slot.val + 1) with
          | some net => { s with net, streams := Function.update s.streams slot 0 }
          | none => { s with stuck := true }) = _
        rw [hnet]
      rw [hexec]
      refine aligned_clear h hclear hothers fun other => ?_
      rw [hlatch]
      by_cases hslot : other = slot
      · rw [hslot, Function.update_self]
        exact Vector.getElem_set_self _
      · rw [Function.update_of_ne hslot]
        exact (Vector.getElem_set_ne _ _ fun heq => hslot (Fin.ext heq.symm)).trans (h.latches other)
  | resetP25 =>
      have hclear : s.net.resetP25.rxData .p25 = (s.net.rxData .p25).clear := rfl
      refine aligned_clear h hclear (fun mode' hmode => ?_) h.latches
      cases mode' with
      | dmr => rfl
      | p25 => exact absurd rfl hmode
      | nxdn => rfl
  | resetNXDN =>
      have hclear : s.net.resetNXDN.rxData .nxdn = (s.net.rxData .nxdn).clear := rfl
      refine aligned_clear h hclear (fun mode' hmode => ?_) h.latches
      cases mode' with
      | dmr => rfl
      | p25 => rfl
      | nxdn => exact absurd rfl hmode

/-- **The framing holds in every session** whose datagrams meet the condition. -/
theorem framed_of_meets (n : Network) (calls : List Call)
    (h : Guarded Meets (start n) (trace exec (start n) calls)) :
    States Framed (start n) (trace exec (start n) calls) := by
  have hrun : Run (fun s call s' => exec s call = s') (start n) (trace exec (start n) calls) :=
    run_trace (fun _ _ => rfl) calls (start n)
  refine (hrun.states_of_guarded (fun haligned hmeets hstep => ?_) (aligned_start n) h).mono fun _ => Aligned.framed
  exact hstep ▸ aligned_exec haligned hmeets

/-- A running peer that takes all three protocols. -/
def runningPeer : Network where
  m_status := .running
  m_peerId := 1
  m_enabled := true
  m_dmrEnabled := true
  m_p25Enabled := true
  m_nxdnEnabled := true
  m_updateLookup := false
  m_ridLookup := { m_table := ∅ }
  m_tidLookup := {}

/-- Traffic of the FNE for it. -/
def trafficOf (subFunc : UInt8) (message : List UInt8) : Packet where
  message
  rtpHeader := {}
  fneHeader := { func := NET_FUNC_PROTOCOL, subFunc, streamId := 7, peerId := 1 }
  fromMaster := true

/-- A P25 message is read as it was received. -/
theorem framed_of_meets_p25 :
    States Framed (start runningPeer) (trace exec (start runningPeer)
      [.datagram (trafficOf NET_PROTOCOL_SUBFUNC_P25 [0x50, 0x32, 0x35, 0x44]) rfl (fun _ => 0) 0, .read .p25]) := by
  refine framed_of_meets runningPeer _ ⟨fun mode hmode => ?_, trivial, trivial⟩
  have hp25 : (start runningPeer).net.queues (trafficOf NET_PROTOCOL_SUBFUNC_P25 [0x50, 0x32, 0x35, 0x44]) =
      some .p25 := by decide
  obtain rfl : Mode.p25 = mode := Option.some.inj (hp25.symm.trans hmode)
  exact ⟨Or.inl (by decide), Or.inl (by decide), fun h => Mode.noConfusion h⟩

/-- A DMR message for the second slot has an index out of range. -/
theorem secondSlot_not_framed :
    ¬ States Framed (start runningPeer) (trace exec (start runningPeer)
      [.datagram (trafficOf NET_PROTOCOL_SUBFUNC_DMR (List.replicate 15 0 ++ [0x80])) rfl (fun _ => 0) 0]) := by
  intro h
  have hframed := (h.2 _ List.mem_cons_self).inRange
  have hstuck := exec_datagram_none (start runningPeer)
    (rfl : (trafficOf NET_PROTOCOL_SUBFUNC_DMR (List.replicate 15 0 ++ [0x80])).fneHeader.func = NET_FUNC_PROTOCOL)
    (rfl : (start runningPeer).net.receive _ (fun _ => 0) 0 = none)
  rw [hstuck] at hframed
  exact Bool.noConfusion hframed

end Session

end Network

end DvmHost

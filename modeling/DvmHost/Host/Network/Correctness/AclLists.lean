import DvmHost.Fne.Network.Correctness.PeerIsolation
import DvmHost.Host.Network.Network

/-!
# `Host.Network.Correctness.AclLists` — the lists of the FNE and what the peer does with them

The FNE sends a peer four lists: the radio ids that are enabled, those that are not, the talkgroups that are active
and those that are not. A list is a count and entries of one width, and the peer reads it in a loop that counts in an
octet (`listLoop_listMessage`). `Effect` says what a row of messages does to the two tables of the peer, and
`Writes` what a function of the FNE has done there; both compose.
-/

namespace DvmHost

open Lib

/-! ## What the FNE sends and the peer receives -/

/-- The lists that a peer is sent when its configuration is taken. -/
def FNENetwork.writeLists {Object : Type} (n : FNENetwork Object) (tables : FNETables) (peerId : UInt32) :
    Option (FNENetwork Object) := do
  let n ← n.writeWhitelistRIDs tables peerId
  let n ← n.writeBlacklistRIDs tables peerId
  let n ← n.writeTGIDs tables peerId
  n.writeDeactiveTGIDs tables peerId

/-- A message of the FNE as the peer reads it. -/
def Network.Packet.ofOutbound (o : Outbound) : Network.Packet where
  message := o.message
  rtpHeader := { seq := o.rtpSeq }
  fneHeader := { func := o.opcode.1, subFunc := o.opcode.2, peerId := o.peerId, streamId := o.streamId }
  fromMaster := true

/-- The peer handles a row of messages. -/
def Network.receiveAll (net : Network) (os : List Outbound) (heap : Outbound → Bytes) (fuel : Nat) : Option Network :=
  os.foldlM (fun net o => net.receive (Network.Packet.ofOutbound o) (heap o) fuel) net

/-! ## The loop over a list -/

namespace Network

variable {S : Type} {stride : Nat} {len : UInt32} {body : Nat → S → S}

/-- A list of 256 entries or more is never left: the counter is an octet. -/
theorem listLoop_of_ge (hlen : 256 ≤ len.toNat) (fuel : Nat) (i : UInt8) (j : Nat) (s : S) :
    listLoop stride len body fuel i j s = none := by
  induction fuel generalizing i j s with
  | zero => rfl
  | succ fuel ih =>
      have hi : i.toUInt32 < len := UInt32.lt_iff_toNat_lt.mpr (by have := i.toNat_lt; simp; omega)
      rw [listLoop, if_pos hi, ih]

/-- A shorter list is gone through. -/
theorem listLoop_of_lt (hlen : len.toNat < 256) (fuel : Nat) {i : UInt8} (hi : i.toNat ≤ len.toNat) (j : Nat) (s : S) :
    listLoop stride len body fuel i j s =
      if len.toNat - i.toNat < fuel then
        some ((List.range (len.toNat - i.toNat)).foldl (fun s k => body (j + stride * k) s) s)
      else none := by
  induction fuel generalizing i j s with
  | zero => rfl
  | succ fuel ih =>
      rw [listLoop]
      by_cases hlt : i.toNat < len.toNat
      · have hcond : i.toUInt32 < len := UInt32.lt_iff_toNat_lt.mpr (by simpa using hlt)
        have hnext : (i + 1).toNat = i.toNat + 1 := by
          rw [UInt8.toNat_add]
          exact Nat.mod_eq_of_lt (by simp; omega)
        have hrest : len.toNat - i.toNat = len.toNat - (i.toNat + 1) + 1 := by omega
        rw [if_pos hcond, ih (by omega), hnext, hrest, List.range_succ_eq_map, List.foldl_cons, List.foldl_map]
        simp only [Nat.add_lt_add_iff_right, Nat.mul_zero, Nat.add_zero, Nat.mul_succ]
        congr 2
        refine congrArg (fun f => List.foldl f _ _) ?_
        funext s k
        rw [Nat.add_assoc, Nat.add_comm stride]
      · have hcond : ¬ i.toUInt32 < len := fun h => hlt (by simpa using UInt32.lt_iff_toNat_lt.mp h)
        have hrest : len.toNat - i.toNat = 0 := by omega
        rw [if_neg hcond, hrest, if_pos (Nat.zero_lt_succ fuel)]
        rfl

end Network

/-! ## The octets of a list -/

/-- What three octets keep of an id. -/
def low24 (v : UInt32) : UInt32 := v % 0x1000000

theorem toNat_low24 (v : UInt32) : (low24 v).toNat = v.toNat % 2 ^ 24 := by
  unfold low24
  rw [UInt32.toNat_mod]
  rfl

theorem low24_of_lt {v : UInt32} (h : v.toNat < 2 ^ 24) : low24 v = v :=
  UInt32.toNat_inj.mp ((toNat_low24 v).trans (Nat.mod_eq_of_lt h))

namespace FNENetwork

theorem octets32_eq (v : UInt32) :
    octets32 v = [(v >>> (24 : UInt32)).toUInt8, (v >>> (16 : UInt32)).toUInt8, (v >>> (8 : UInt32)).toUInt8,
      (v >>> (0 : UInt32)).toUInt8] := by
  simp only [octets32, setUInt32, toUInt8_and_0xFF]
  simp [setByte, List.range, List.range.loop]

/-- The last three octets of a word. -/
theorem word24_octets32 (v : UInt32) :
    word24 ((octets32 v).getD 1 0) ((octets32 v).getD 2 0) ((octets32 v).getD 3 0) = low24 v := by
  apply UInt32.toNat_inj.mp
  rw [octets32_eq, toNat_low24, toNat_word24]
  simp only [List.getD_cons_succ, List.getD_cons_zero]
  rw [toNat_shiftRight_toUInt8 _ _ (by decide), toNat_shiftRight_toUInt8 _ _ (by decide),
    toNat_shiftRight_toUInt8 _ _ (by decide)]
  simp only [UInt32.reduceToNat]
  omega

end FNENetwork

/-- An octet of the entries of a list, each as wide as the others. -/
theorem getD_flatMap {A : Type} {enc : A → List UInt8} {w : Nat} (hw : ∀ a, (enc a).length = w) {r : Nat} (hr : r < w)
    (as : List A) (k : Nat) (hk : k < as.length) : (as.flatMap enc).getD (w * k + r) 0 = (enc as[k]).getD r 0 := by
  induction as generalizing k with
  | nil => exact absurd hk (Nat.not_lt_zero k)
  | cons a as ih =>
      rw [List.flatMap_cons]
      cases k with
      | zero =>
          rw [Nat.mul_zero, Nat.zero_add, List.getD_append _ _ _ _ (by rw [hw]; exact hr)]
          rfl
      | succ k =>
          have hle : (enc a).length ≤ w * (k + 1) + r := by rw [hw, Nat.mul_succ]; omega
          have hsub : w * (k + 1) + r - (enc a).length = w * k + r := by rw [hw, Nat.mul_succ]; omega
          rw [List.getD_append_right _ _ _ _ hle, hsub, ih k (Nat.lt_of_succ_lt_succ hk)]
          rfl

namespace FNENetwork

/-- The message of a list: six zeros, the number of entries, the entries. -/
def listMessage {A : Type} (enc : A → List UInt8) (as : List A) : List UInt8 :=
  List.replicate 6 0x00 ++ (octets32 as.length.toUInt32 ++ as.flatMap enc)

section ListMessage

variable {A : Type} {enc : A → List UInt8} {w : Nat}

theorem length_flatMap_of_width (hw : ∀ a, (enc a).length = w) (as : List A) :
    (as.flatMap enc).length = w * as.length := by
  induction as with
  | nil => rfl
  | cons a as ih =>
      rw [List.flatMap_cons, List.length_append, ih, hw, List.length_cons, Nat.mul_succ, Nat.add_comm]

theorem length_listMessage (hw : ∀ a, (enc a).length = w) (as : List A) :
    (listMessage enc as).length = 10 + w * as.length := by
  unfold listMessage
  rw [List.length_append, List.length_append, length_flatMap_of_width hw, length_octets32, List.length_replicate]
  omega

/-- An octet of an entry, in the memory of the peer. -/
theorem bufferOf_listMessage (hw : ∀ a, (enc a).length = w) (as : List A) (heap : Bytes) {k r : Nat}
    (hk : k < as.length) (hr : r < w) :
    Network.bufferOf (listMessage enc as) heap (10 + (w * k + r)) = (enc as[k]).getD r 0 := by
  have hmul : w * (k + 1) ≤ w * as.length := Nat.mul_le_mul_left w hk
  rw [Nat.mul_succ] at hmul
  have hin : 10 + (w * k + r) < (listMessage enc as).length := by rw [length_listMessage hw]; omega
  unfold Network.bufferOf
  rw [if_pos hin, FrameQueue.octets, listMessage, ← List.append_assoc, List.getD_append_right _ _ _ _ (by simp [length_octets32])]
  have hsub : 10 + (w * k + r) - (List.replicate 6 0x00 ++ octets32 as.length.toUInt32).length = w * k + r := by
    simp [length_octets32]
  rw [hsub, getD_flatMap hw hr as k hk]

/-- The number of entries that the peer reads. -/
theorem getUInt16_listMessage (hw : ∀ a, (enc a).length = w) (as : List A) (heap : Bytes) :
    getUInt16 (Network.bufferOf (listMessage enc as) heap) 7 = low24 as.length.toUInt32 := by
  have hcell : ∀ r, r < 4 → Network.bufferOf (listMessage enc as) heap (6 + r) =
      (octets32 as.length.toUInt32).getD r 0 := by
    intro r hr
    have hin : 6 + r < (listMessage enc as).length := by rw [length_listMessage hw]; omega
    unfold Network.bufferOf
    rw [if_pos hin, FrameQueue.octets, listMessage, List.getD_append_right _ _ _ _ (by simp),
      List.getD_append _ _ _ _ (by simp [length_octets32]; omega)]
    simp
  rw [← word24_octets32, ← hcell 1 (by decide), ← hcell 2 (by decide), ← hcell 3 (by decide)]
  rfl

end ListMessage

end FNENetwork

/-! ## What the peer does with a list -/

/-- The talkgroup of a rule as an entry of a list. -/
def TalkgroupRuleGroupVoiceSource.octets (tg : TalkgroupRuleGroupVoiceSource) : List UInt8 :=
  FNENetwork.octets32 tg.tgId ++ [tg.tgSlot]

/-- The ids of a list, switched. -/
def RadioIdLookup.toggleAll (enabled : Bool) (ids : List UInt32) (l : RadioIdLookup) : RadioIdLookup :=
  ids.foldl (fun l id => l.toggleEntry (low24 id) enabled) l

/-- The talkgroups of a list, activated. -/
def TalkgroupRulesLookup.activateAll (tgs : List TalkgroupRuleGroupVoiceSource) (l : TalkgroupRulesLookup) :
    TalkgroupRulesLookup := tgs.foldl (fun l tg => Network.activate l (low24 tg.tgId) tg.tgSlot) l

/-- The talkgroups of a list, deactivated. -/
def TalkgroupRulesLookup.deactivateAll (tgs : List TalkgroupRuleGroupVoiceSource) (l : TalkgroupRulesLookup) :
    TalkgroupRulesLookup := tgs.foldl (fun l tg => Network.deactivate l (low24 tg.tgId) tg.tgSlot) l

/-- A loop over the places of a list is a loop over the list. -/
theorem foldl_range_getElem {A S : Type} (as : List A) (step : S → A → S) (body : Nat → S → S)
    (hbody : ∀ k (hk : k < as.length) s, body k s = step s as[k]) (s : S) :
    (List.range as.length).foldl (fun s k => body k s) s = as.foldl step s := by
  induction as using List.reverseRecOn generalizing s with
  | nil => rfl
  | append_singleton as a ih =>
      have hinit : ∀ k (hk : k < as.length) s, body k s = step s as[k] := by
        intro k hk s
        rw [hbody k (by rw [List.length_append]; omega), List.getElem_append_left hk]
      have hlast := hbody as.length (by simp)
      rw [List.length_append, List.length_singleton, List.range_succ, List.foldl_append, List.foldl_append,
        ih hinit]
      simp only [List.foldl_cons, List.foldl_nil]
      rw [hlast, List.getElem_append_right (Nat.le_refl _)]
      simp

namespace Network

/-- The loop of the peer over a list that was sent. -/
theorem listLoop_listMessage {A S : Type} {enc : A → List UInt8} {w : Nat} (hw : ∀ a, (enc a).length = w)
    {as : List A} (hfits : as.length < 2 ^ 24) (heap : Bytes) {step : S → A → S} {body : Nat → S → S}
    (hbody : ∀ k (hk : k < as.length) s, body (w * k) s = step s as[k]) (fuel : Nat) (s : S) :
    listLoop w (getUInt16 (bufferOf (FNENetwork.listMessage enc as) heap) 7) body fuel 0 0 s =
      if as.length < 256 ∧ as.length < fuel then some (as.foldl step s) else none := by
  have hcount : (getUInt16 (bufferOf (FNENetwork.listMessage enc as) heap) 7).toNat = as.length := by
    rw [FNENetwork.getUInt16_listMessage hw, toNat_low24]
    have hword : as.length.toUInt32.toNat = as.length := by
      rw [UInt32.toNat_ofNat']
      omega
    rw [hword, Nat.mod_eq_of_lt hfits]
  by_cases hlen : as.length < 256
  · rw [listLoop_of_lt (by rw [hcount]; exact hlen) fuel (Nat.zero_le _), hcount]
    simp only [UInt8.toNat_zero, Nat.sub_zero, Nat.zero_add, hlen, true_and]
    rw [foldl_range_getElem as step (fun k => body (w * k)) hbody]
  · rw [listLoop_of_ge (by rw [hcount]; omega), if_neg fun h => hlen h.1]

/-- A list of radio ids. -/
theorem listLoop_toggleRID {ids : List UInt32} (hfits : ids.length < 2 ^ 24) (heap : Bytes) (enabled : Bool)
    (fuel : Nat) (l : RadioIdLookup) :
    listLoop 4 (getUInt16 (bufferOf (FNENetwork.listMessage FNENetwork.octets32 ids) heap) 7)
        (toggleRID (bufferOf (FNENetwork.listMessage FNENetwork.octets32 ids) heap) enabled) fuel 0 0 l =
      if ids.length < 256 ∧ ids.length < fuel then some (l.toggleAll enabled ids) else none := by
  refine listLoop_listMessage FNENetwork.length_octets32 hfits heap (fun k hk s => ?_) fuel l
  have hcell := fun r => @FNENetwork.bufferOf_listMessage _ _ 4 FNENetwork.length_octets32 ids heap k r hk
  unfold toggleRID getUInt16
  rw [← FNENetwork.word24_octets32, ← hcell 1 (by decide), ← hcell 2 (by decide), ← hcell 3 (by decide)]
  congr 3 <;> omega

theorem length_octets (tg : TalkgroupRuleGroupVoiceSource) : tg.octets.length = 5 := by
  simp [TalkgroupRuleGroupVoiceSource.octets, FNENetwork.length_octets32]

/-- The id and the slot of a talkgroup of a list. -/
theorem octets_read {tgs : List TalkgroupRuleGroupVoiceSource} (heap : Bytes) {k : Nat} (hk : k < tgs.length) :
    let buffer := bufferOf (FNENetwork.listMessage TalkgroupRuleGroupVoiceSource.octets tgs) heap
    getUInt16 buffer (11 + 5 * k) = low24 tgs[k].tgId ∧ buffer (14 + 5 * k) = tgs[k].tgSlot := by
  have hcell := fun r => @FNENetwork.bufferOf_listMessage _ _ 5 length_octets tgs heap k r hk
  have hid : ∀ r, r < 4 → tgs[k].octets.getD r 0 = (FNENetwork.octets32 tgs[k].tgId).getD r 0 := fun r hr =>
    List.getD_append _ _ _ _ (by rw [FNENetwork.length_octets32]; exact hr)
  have hslot : tgs[k].octets.getD 4 0 = tgs[k].tgSlot := by
    rw [TalkgroupRuleGroupVoiceSource.octets, List.getD_append_right _ _ _ _ (by rw [FNENetwork.length_octets32]),
      FNENetwork.length_octets32]
    rfl
  intro buffer
  refine ⟨?_, ?_⟩
  · rw [← FNENetwork.word24_octets32, ← hid 1 (by decide), ← hid 2 (by decide), ← hid 3 (by decide),
      ← hcell 1 (by decide), ← hcell 2 (by decide), ← hcell 3 (by decide)]
    unfold getUInt16
    congr 2 <;> omega
  · rw [← hslot, ← hcell 4 (by decide)]
    congr 1
    omega

/-- A list of talkgroups. -/
theorem listLoop_talkgroups {tgs : List TalkgroupRuleGroupVoiceSource} (hfits : tgs.length < 2 ^ 24) (heap : Bytes)
    (act : TalkgroupRulesLookup → UInt32 → UInt8 → TalkgroupRulesLookup) (fuel : Nat) (l : TalkgroupRulesLookup) :
    let buffer := bufferOf (FNENetwork.listMessage TalkgroupRuleGroupVoiceSource.octets tgs) heap
    listLoop 5 (getUInt16 buffer 7) (fun j l => act l (getUInt16 buffer (11 + j)) (buffer (14 + j))) fuel 0 0 l =
      if tgs.length < 256 ∧ tgs.length < fuel then
        some (tgs.foldl (fun l tg => act l (low24 tg.tgId) tg.tgSlot) l)
      else none := by
  intro buffer
  refine listLoop_listMessage length_octets hfits heap (fun k hk s => ?_) fuel l
  obtain ⟨hid, hslot⟩ := octets_read heap hk
  exact congrArg₂ (act s) hid hslot

/-! ## What the peer does with a message -/

/-- The peer is the one that a message is for, and takes the lists of the FNE. -/
structure Takes (net : Network) (peerId : UInt32) : Prop where
  peerId : net.m_peerId = peerId
  enabled : net.m_enabled = true
  updateLookup : net.m_updateLookup = true

theorem Takes.on {net : Network} {peerId : UInt32} (h : net.Takes peerId) :
    (net.m_enabled && net.m_updateLookup) = true := by rw [h.enabled, h.updateLookup, Bool.and_self]

/-- What a row of messages does to the tables of a peer that takes them: it is got through exactly when it may be,
    and then changes the two tables so. -/
def Effect (peerId : UInt32) (heap : Outbound → Bytes) (os : List Outbound) (may : Prop)
    (rids : RadioIdLookup → RadioIdLookup) (tgs : TalkgroupRulesLookup → TalkgroupRulesLookup) : Prop :=
  ∀ net : Network, net.Takes peerId →
    (may → ∀ fuel, 256 ≤ fuel → (net.receiveAll os heap fuel).isSome = true) ∧
    ∀ fuel net', net.receiveAll os heap fuel = some net' →
      may ∧ net'.Takes peerId ∧ net'.m_ridLookup = rids net.m_ridLookup ∧ net'.m_tidLookup = tgs net.m_tidLookup

section Effect

variable {peerId : UInt32} {heap : Outbound → Bytes} {os os' : List Outbound} {may may' : Prop}
  {rids rids' : RadioIdLookup → RadioIdLookup} {tgs tgs' : TalkgroupRulesLookup → TalkgroupRulesLookup}

theorem effect_nil : Effect peerId heap [] True id id := by
  intro net htakes
  refine ⟨fun _ fuel _ => rfl, fun fuel net' h => ?_⟩
  rw [← Option.some.inj h]
  exact ⟨trivial, htakes, rfl, rfl⟩

/-- The effects of two rows follow each other. -/
theorem Effect.append (h : Effect peerId heap os may rids tgs) (h' : Effect peerId heap os' may' rids' tgs') :
    Effect peerId heap (os ++ os') (may ∧ may') (rids' ∘ rids) (tgs' ∘ tgs) := by
  intro net htakes
  have hsplit : ∀ fuel, net.receiveAll (os ++ os') heap fuel =
      (net.receiveAll os heap fuel).bind fun net1 => net1.receiveAll os' heap fuel := fun fuel => List.foldlM_append
  refine ⟨fun hmay fuel hfuel => ?_, fun fuel net' hreceived => ?_⟩
  · obtain ⟨net1, h1⟩ := Option.isSome_iff_exists.mp ((h net htakes).1 hmay.1 fuel hfuel)
    rw [hsplit, h1]
    exact (h' net1 ((h net htakes).2 fuel net1 h1).2.1).1 hmay.2 fuel hfuel
  · rw [hsplit] at hreceived
    obtain ⟨net1, h1, h2⟩ := Option.bind_eq_some_iff.mp hreceived
    obtain ⟨hmay, htakes1, hrid1, htid1⟩ := (h net htakes).2 fuel net1 h1
    obtain ⟨hmay', htakes2, hrid2, htid2⟩ := (h' net1 htakes1).2 fuel net' h2
    refine ⟨⟨hmay, hmay'⟩, htakes2, ?_, ?_⟩
    · rw [hrid2, hrid1, Function.comp_apply]
    · rw [htid2, htid1, Function.comp_apply]

/-- A message of the FNE gets to the lists. -/
theorem receive_master {net : Network} (htakes : net.Takes peerId) {o : Outbound} (hpeer : o.peerId = peerId)
    (hfunc : o.opcode.1 = NET_FUNC_MASTER) (heap : Bytes) (fuel : Nat) :
    ∃ net1 : Network, net1.Takes peerId ∧ net1.m_ridLookup = net.m_ridLookup ∧ net1.m_tidLookup = net.m_tidLookup ∧
      net.receive (Packet.ofOutbound o) heap fuel = net1.master o.opcode.2 (bufferOf o.message heap) fuel := by
  have hid : ¬ net.m_peerId ≠ (Packet.ofOutbound o).fneHeader.peerId := fun h => h (htakes.peerId.trans hpeer.symm)
  have hmaster : (Packet.ofOutbound o).fneHeader.func = NET_FUNC_MASTER := hfunc
  have hsender : ¬ (!(Packet.ofOutbound o).fromMaster) = true := Bool.false_ne_true
  refine ⟨if o.rtpSeq = RTP_END_OF_CALL_SEQ then { net with m_pktSeq := 0, m_pktLastSeq := 0 }
    else { net with m_pktSeq := o.rtpSeq }, ?_, ?_, ?_, ?_⟩
  · split <;> exact ⟨htakes.peerId, htakes.enabled, htakes.updateLookup⟩
  · split <;> rfl
  · split <;> rfl
  · unfold receive
    dsimp only
    rw [if_neg hsender, if_neg hid, hmaster, if_neg (by decide), if_pos rfl]
    rfl

/-- One message, which changes the two tables. -/
theorem effect_message {o : Outbound} (hpeer : o.peerId = peerId) (hfunc : o.opcode.1 = NET_FUNC_MASTER) {len : Nat}
    (hlen : may ↔ len < 256)
    (hmaster : ∀ (net : Network) fuel, net.Takes peerId →
      net.master o.opcode.2 (bufferOf o.message (heap o)) fuel =
        if len < 256 ∧ len < fuel then
          some { net with m_ridLookup := rids net.m_ridLookup, m_tidLookup := tgs net.m_tidLookup }
        else none) :
    Effect peerId heap [o] may rids tgs := by
  intro net htakes
  have hone : ∀ fuel, ∃ net1 : Network, net1.Takes peerId ∧ net1.m_ridLookup = net.m_ridLookup ∧
      net1.m_tidLookup = net.m_tidLookup ∧ net.receiveAll [o] heap fuel =
        if len < 256 ∧ len < fuel then
          some { net1 with m_ridLookup := rids net1.m_ridLookup, m_tidLookup := tgs net1.m_tidLookup }
        else none := by
    intro fuel
    obtain ⟨net1, htakes1, hrid, htid, heq⟩ := receive_master htakes hpeer hfunc (heap o) fuel
    refine ⟨net1, htakes1, hrid, htid, ?_⟩
    rw [← hmaster net1 fuel htakes1, ← heq]
    exact List.foldlM_cons.trans (bind_pure _)
  refine ⟨fun hmay fuel hfuel => ?_, fun fuel net' hreceived => ?_⟩
  · obtain ⟨net1, -, -, -, heq⟩ := hone fuel
    have hlt := hlen.mp hmay
    rw [heq, if_pos ⟨hlt, by omega⟩]
    rfl
  · obtain ⟨net1, htakes1, hrid, htid, heq⟩ := hone fuel
    rw [heq] at hreceived
    split at hreceived
    · next hlt =>
      rw [← Option.some.inj hreceived]
      exact ⟨hlen.mpr hlt.1, ⟨htakes1.peerId, htakes1.enabled, htakes1.updateLookup⟩, congrArg rids hrid,
        congrArg tgs htid⟩
    · exact absurd hreceived (by simp)

end Effect

/-- A list of radio ids does nothing else. -/
theorem effect_toggle {peerId : UInt32} (heap : Outbound → Bytes) {o : Outbound} {ids : List UInt32} {subFunc : UInt8}
    {enabled : Bool} (hsub : subFunc = NET_MASTER_SUBFUNC_WL_RID ∧ enabled = true ∨
      subFunc = NET_MASTER_SUBFUNC_BL_RID ∧ enabled = false)
    (hpeer : o.peerId = peerId) (hop : o.opcode = (NET_FUNC_MASTER, subFunc))
    (hmessage : o.message = FNENetwork.listMessage FNENetwork.octets32 ids) (hfits : ids.length < 2 ^ 24) :
    Effect peerId heap [o] (ids.length < 256) (RadioIdLookup.toggleAll enabled ids) id := by
  refine effect_message hpeer (by rw [hop]) Iff.rfl fun net fuel htakes => ?_
  have hloop := listLoop_toggleRID hfits (heap o) enabled fuel net.m_ridLookup
  rw [hop, hmessage]
  unfold master
  rw [if_pos htakes.on]
  dsimp only
  rcases hsub with ⟨rfl, rfl⟩ | ⟨rfl, rfl⟩
  · rw [if_pos rfl, hloop]
    split <;> rfl
  · rw [if_neg (by decide), if_pos rfl, hloop]
    split <;> rfl

/-- The list of the active talkgroups does nothing else. -/
theorem effect_activate {peerId : UInt32} (heap : Outbound → Bytes) {o : Outbound}
    {tgs : List TalkgroupRuleGroupVoiceSource} (hpeer : o.peerId = peerId)
    (hop : o.opcode = (NET_FUNC_MASTER, NET_MASTER_SUBFUNC_ACTIVE_TGS))
    (hmessage : o.message = FNENetwork.listMessage TalkgroupRuleGroupVoiceSource.octets tgs)
    (hfits : tgs.length < 2 ^ 24) :
    Effect peerId heap [o] (tgs.length < 256) id (TalkgroupRulesLookup.activateAll tgs) := by
  refine effect_message hpeer (by rw [hop]) Iff.rfl fun net fuel htakes => ?_
  have hloop := listLoop_talkgroups hfits (heap o) activate fuel net.m_tidLookup
  rw [hop, hmessage]
  unfold master
  rw [if_pos htakes.on]
  dsimp only
  rw [if_neg (by decide), if_neg (by decide), if_pos rfl]
  refine (congrArg (Option.map _) hloop).trans ?_
  split <;> rfl

/-- The list of the deactivated talkgroups does nothing else. -/
theorem effect_deactivate {peerId : UInt32} (heap : Outbound → Bytes) {o : Outbound}
    {tgs : List TalkgroupRuleGroupVoiceSource} (hpeer : o.peerId = peerId)
    (hop : o.opcode = (NET_FUNC_MASTER, NET_MASTER_SUBFUNC_DEACTIVE_TGS))
    (hmessage : o.message = FNENetwork.listMessage TalkgroupRuleGroupVoiceSource.octets tgs)
    (hfits : tgs.length < 2 ^ 24) :
    Effect peerId heap [o] (tgs.length < 256) id (TalkgroupRulesLookup.deactivateAll tgs) := by
  refine effect_message hpeer (by rw [hop]) Iff.rfl fun net fuel htakes => ?_
  have hloop := listLoop_talkgroups hfits (heap o) deactivate fuel net.m_tidLookup
  rw [hop, hmessage]
  unfold master
  rw [if_pos htakes.on]
  dsimp only
  rw [if_neg (by decide), if_neg (by decide), if_neg (by decide), if_pos rfl]
  refine (congrArg (Option.map _) hloop).trans ?_
  split <;> rfl

end Network

/-! ## What the FNE sends -/

namespace FNENetwork

variable {Object : Type}

/-- A peer with this id is entered. -/
def HasPeer (n : FNENetwork Object) (peerId : UInt32) : Prop := (n.m_peers.lookup peerId).isSome = true

/-- A command goes to a peer that is entered, as one message. -/
theorem writePeerCommand_sent {n n' : FNENetwork Object} {peerId : UInt32} (hpeer : n.HasPeer peerId)
    {opcode : UInt8 × UInt8} {data : List UInt8} {incPktSeq : Bool}
    (h : n.writePeerCommand peerId opcode data incPktSeq = some n') :
    n'.HasPeer peerId ∧ ∃ o, n'.sent = n.sent ++ [o] ∧ o.peerId = peerId ∧ o.opcode = opcode ∧
      o.message = List.replicate 6 0x00 ++ data := by
  obtain ⟨connection, hlookup⟩ := Option.isSome_iff_exists.mp hpeer
  unfold writePeerCommand at h
  split at h
  · exact absurd h (by simp)
  · unfold writePeerNext writePeer setPeer at h
    rw [hlookup] at h
    simp only [AList.lookup_insert] at h
    rw [← Option.some.inj h]
    refine ⟨?_, _, rfl, rfl, rfl, rfl⟩
    simp [HasPeer]

/-- What a function of the FNE sends to a peer, and what it does there. -/
def Writes (peerId : UInt32) (heap : Outbound → Bytes) (write : FNENetwork Object → Option (FNENetwork Object))
    (fits may : Prop) (rids : RadioIdLookup → RadioIdLookup) (tgs : TalkgroupRulesLookup → TalkgroupRulesLookup) :
    Prop :=
  ∀ n : FNENetwork Object, n.HasPeer peerId →
    (fits → (write n).isSome = true) ∧
    ∀ n', write n = some n' →
      n'.HasPeer peerId ∧ ∃ os, n'.sent = n.sent ++ os ∧ Network.Effect peerId heap os may rids tgs

section Writes

variable {peerId : UInt32} {heap : Outbound → Bytes} {write write' : FNENetwork Object → Option (FNENetwork Object)}
  {fits fits' may may' : Prop} {rids rids' : RadioIdLookup → RadioIdLookup}
  {tgs tgs' : TalkgroupRulesLookup → TalkgroupRulesLookup}

theorem Writes.bind (h : Writes peerId heap write fits may rids tgs)
    (h' : Writes peerId heap write' fits' may' rids' tgs') :
    Writes peerId heap (fun n => (write n).bind write') (fits ∧ fits') (may ∧ may') (rids' ∘ rids) (tgs' ∘ tgs) := by
  intro n hpeer
  refine ⟨fun hfits => ?_, fun n' hwrite => ?_⟩
  · obtain ⟨n1, h1⟩ := Option.isSome_iff_exists.mp ((h n hpeer).1 hfits.1)
    dsimp only
    rw [h1]
    exact (h' n1 ((h n hpeer).2 n1 h1).1).1 hfits.2
  · obtain ⟨n1, h1, h2⟩ := Option.bind_eq_some_iff.mp hwrite
    obtain ⟨hpeer1, os, hos, heffect⟩ := (h n hpeer).2 n1 h1
    obtain ⟨hpeer2, os', hos', heffect'⟩ := (h' n1 hpeer1).2 n' h2
    refine ⟨hpeer2, os ++ os', ?_, heffect.append heffect'⟩
    rw [hos', hos, List.append_assoc]

/-- A list of radio ids. -/
theorem writes_rids (heap : Outbound → Bytes) {subFunc : UInt8} {enabled : Bool}
    (hsub : subFunc = NET_MASTER_SUBFUNC_WL_RID ∧ enabled = true ∨
      subFunc = NET_MASTER_SUBFUNC_BL_RID ∧ enabled = false) (ids : List UInt32) :
    Writes peerId heap (fun n : FNENetwork Object => n.writeRIDs subFunc peerId ids) (ids.length ≤ 2045)
      (ids.length < 256) (RadioIdLookup.toggleAll enabled ids) id := by
  intro n hpeer
  refine ⟨isSome_writeRIDs.mpr, fun n' hwrite => ?_⟩
  have hfits := isSome_writeRIDs.mp (Option.isSome_of_eq_some hwrite)
  dsimp only at hwrite
  unfold writeRIDs at hwrite
  split at hwrite
  · next hlen =>
    -- an empty list is not sent, and would change nothing
    obtain rfl := List.length_eq_zero_iff.mp hlen
    rw [← Option.some.inj hwrite]
    refine ⟨hpeer, [], (List.append_nil _).symm, fun net htakes => ?_⟩
    have hnil := (Network.effect_nil : Network.Effect peerId heap [] True id id) net htakes
    exact ⟨fun _ => hnil.1 trivial, fun fuel net' h => ⟨by simp, (hnil.2 fuel net' h).2⟩⟩
  · obtain ⟨hpeer', o, hsent, hid, hop, hmessage⟩ := writePeerCommand_sent hpeer hwrite
    exact ⟨hpeer', [o], hsent, Network.effect_toggle heap hsub hid hop hmessage (by omega)⟩

/-- A list of talkgroups, whose effect is given. -/
theorem writes_talkgroups (tables : FNETables) {subFunc : UInt8} (list : List TalkgroupRuleGroupVoiceSource)
    (heffect : ∀ o : Outbound, o.peerId = peerId → o.opcode = (NET_FUNC_MASTER, subFunc) →
      o.message = listMessage TalkgroupRuleGroupVoiceSource.octets list → list.length < 2 ^ 24 →
      Network.Effect peerId heap [o] (list.length < 256) id tgs) :
    Writes peerId heap (fun n : FNENetwork Object => n.writeTalkgroups tables subFunc peerId list)
      (tables.m_tidLookup.sendTalkgroups = true → list.length ≤ 1636)
      (tables.m_tidLookup.sendTalkgroups = true → list.length < 256) id
      (if tables.m_tidLookup.sendTalkgroups then tgs else id) := by
  intro n hpeer
  refine ⟨isSome_writeTalkgroups.mpr, fun n' hwrite => ?_⟩
  have hfits := isSome_writeTalkgroups.mp (Option.isSome_of_eq_some hwrite)
  dsimp only at hwrite
  unfold writeTalkgroups at hwrite
  cases hsend : tables.m_tidLookup.sendTalkgroups with
  | false =>
      rw [hsend] at hwrite
      rw [← Option.some.inj hwrite]
      refine ⟨hpeer, [], (List.append_nil _).symm, fun net htakes => ?_⟩
      have hnil := (Network.effect_nil : Network.Effect peerId heap [] True id id) net htakes
      refine ⟨fun _ => hnil.1 trivial, fun fuel net' h => ⟨fun hf => absurd hf Bool.false_ne_true, ?_⟩⟩
      rw [if_neg Bool.false_ne_true]
      exact (hnil.2 fuel net' h).2
  | true =>
      rw [hsend] at hwrite
      obtain ⟨hpeer', o, hsent, hid, hop, hmessage⟩ := writePeerCommand_sent hpeer hwrite
      have hlen := hfits hsend
      refine ⟨hpeer', [o], hsent, fun net htakes => ?_⟩
      have ho := heffect o hid hop hmessage (by omega) net htakes
      rw [if_pos rfl]
      exact ⟨fun hmay => ho.1 (hmay rfl), fun fuel net' h => ⟨fun _ => (ho.2 fuel net' h).1, (ho.2 fuel net' h).2⟩⟩

/-- The four lists. -/
theorem writes_lists (tables : FNETables) (peerId : UInt32) (heap : Outbound → Bytes) :
    Writes peerId heap (fun n : FNENetwork Object => n.writeLists tables peerId)
      ((radioIds tables true).length ≤ 2045 ∧ (radioIds tables false).length ≤ 2045 ∧
        (tables.m_tidLookup.sendTalkgroups = true → (talkgroups tables peerId true).length ≤ 1636) ∧
        (tables.m_tidLookup.sendTalkgroups = true → (talkgroups tables peerId false).length ≤ 1636))
      ((radioIds tables true).length < 256 ∧ (radioIds tables false).length < 256 ∧
        (tables.m_tidLookup.sendTalkgroups = true → (talkgroups tables peerId true).length < 256) ∧
        (tables.m_tidLookup.sendTalkgroups = true → (talkgroups tables peerId false).length < 256))
      (RadioIdLookup.toggleAll false (radioIds tables false) ∘ RadioIdLookup.toggleAll true (radioIds tables true))
      ((if tables.m_tidLookup.sendTalkgroups then
          TalkgroupRulesLookup.deactivateAll (talkgroups tables peerId false) else id) ∘
        if tables.m_tidLookup.sendTalkgroups then
          TalkgroupRulesLookup.activateAll (talkgroups tables peerId true) else id) :=
  (writes_rids heap (Or.inl ⟨rfl, rfl⟩) _).bind <| (writes_rids heap (Or.inr ⟨rfl, rfl⟩) _).bind <|
    (writes_talkgroups tables _ fun _ => Network.effect_activate heap).bind <|
      writes_talkgroups tables _ fun _ => Network.effect_deactivate heap

end Writes

end FNENetwork

end DvmHost

import DvmHost.Fne.Network.FNENetwork

/-!
# `Fne.Network.Correctness.PeerEntries` — what each function of the FNE does to the table of peers

One lemma for each function: what it leaves of the entry of the peer it is about, and that it leaves the others
alone (`receive_others`). The messages to a peer count in its `pktLastSeq` and change nothing else (`WritesTo`).
-/

namespace DvmHost

open Lib

/-- The connection after `k` more messages to the peer that count. -/
def FNEPeerConnection.addSeq {Object : Type} (k : UInt16) (c : FNEPeerConnection Object) :
    FNEPeerConnection Object :=
  { c with pktLastSeq := c.pktLastSeq + k }

namespace FNENetwork

variable {Object : Type}

@[simp] theorem lookup_setPeer (n : FNENetwork Object) (p q : UInt32) (c : FNEPeerConnection Object) :
    (n.setPeer p c).m_peers.lookup q = if q = p then some c else n.m_peers.lookup q :=
  UnorderedMap.lookup_insert_ite n.m_peers p q c

@[simp] theorem lookup_erasePeer (n : FNENetwork Object) (p q : UInt32) :
    (n.erasePeer p).m_peers.lookup q = if q = p then none else n.m_peers.lookup q :=
  UnorderedMap.lookup_erase_ite n.m_peers p q

theorem findPeer_of_pos {n : FNENetwork Object} {p : UInt32} (hp : 0 < p) :
    n.findPeer p = n.m_peers.lookup p := if_pos hp

/-! ## Messages to a peer -/

@[simp] theorem peers_writePeer (n : FNENetwork Object) (p : UInt32) (opcode : UInt8 × UInt8)
    (message : List UInt8) (pktSeq : UInt16) (streamId : UInt32) :
    (n.writePeer p opcode message pktSeq streamId).m_peers = n.m_peers := by
  unfold writePeer
  split
  · rfl
  · rfl

@[simp] theorem peers_writePeerNAKTo (n : FNENetwork Object) (p streamId : UInt32) (address : SockAddr) :
    (n.writePeerNAKTo p streamId address).m_peers = n.m_peers := rfl

/-- Nothing but the packet sequence of `p` changes. -/
structure WritesTo (p : UInt32) (n n' : FNENetwork Object) : Prop where
  others : ∀ q, q ≠ p → n'.m_peers.lookup q = n.m_peers.lookup q
  own : ∃ k, n'.m_peers.lookup p = (n.m_peers.lookup p).map (FNEPeerConnection.addSeq k)

theorem map_addSeq_zero (o : Option (FNEPeerConnection Object)) :
    o.map (FNEPeerConnection.addSeq 0) = o := by
  cases o with
  | none => rfl
  | some c => simp [FNEPeerConnection.addSeq]

theorem map_addSeq_add (o : Option (FNEPeerConnection Object)) (j k : UInt16) :
    (o.map (FNEPeerConnection.addSeq j)).map (FNEPeerConnection.addSeq k) =
      o.map (FNEPeerConnection.addSeq (j + k)) := by
  cases o with
  | none => rfl
  | some c => simp [FNEPeerConnection.addSeq, UInt16.add_assoc]

theorem WritesTo.refl (p : UInt32) (n : FNENetwork Object) : WritesTo p n n :=
  ⟨fun _ _ => rfl, 0, (map_addSeq_zero _).symm⟩

theorem WritesTo.trans {p : UInt32} {n m l : FNENetwork Object} (h : WritesTo p n m) (h' : WritesTo p m l) :
    WritesTo p n l := by
  obtain ⟨j, hj⟩ := h.own
  obtain ⟨k, hk⟩ := h'.own
  refine ⟨fun q hq => (h'.others q hq).trans (h.others q hq), j + k, ?_⟩
  rw [hk, hj, map_addSeq_add]

/-- A message under the sequence of the connection. -/
theorem lookup_writePeerNext (n : FNENetwork Object) (p q : UInt32) (opcode : UInt8 × UInt8)
    (message : List UInt8) (streamId : UInt32) (incPktSeq : Bool) :
    (n.writePeerNext p opcode message streamId incPktSeq).m_peers.lookup q =
      if q = p then (n.m_peers.lookup p).map (FNEPeerConnection.addSeq (if incPktSeq then 1 else 0))
      else n.m_peers.lookup q := by
  unfold writePeerNext
  cases hc : n.m_peers.lookup p with
  | none =>
      dsimp only
      by_cases hq : q = p
      · rw [if_pos hq, hq, hc, Option.map_none]
      · rw [if_neg hq]
  | some c =>
      dsimp only
      rw [peers_writePeer, lookup_setPeer]
      cases incPktSeq with
      | false => simp [FNEPeerConnection.addSeq]
      | true => simp [FNEPeerConnection.addSeq]

theorem writesTo_writePeerNext (n : FNENetwork Object) (p : UInt32) (opcode : UInt8 × UInt8)
    (message : List UInt8) (streamId : UInt32) (incPktSeq : Bool) :
    WritesTo p n (n.writePeerNext p opcode message streamId incPktSeq) := by
  refine ⟨fun q hq => ?_, if incPktSeq then 1 else 0, ?_⟩
  · rw [lookup_writePeerNext, if_neg hq]
  · rw [lookup_writePeerNext, if_pos rfl]

theorem lookup_writePeerACK (n : FNENetwork Object) (p q : UInt32) (data : List UInt8) :
    (n.writePeerACK p data).m_peers.lookup q =
      if q = p then (n.m_peers.lookup p).map (FNEPeerConnection.addSeq 1) else n.m_peers.lookup q :=
  lookup_writePeerNext n p q _ _ _ true

theorem lookup_writePeerNAK (n : FNENetwork Object) (p q : UInt32) :
    (n.writePeerNAK p).m_peers.lookup q =
      if q = p then (n.m_peers.lookup p).map (FNEPeerConnection.addSeq 1) else n.m_peers.lookup q :=
  lookup_writePeerNext n p q _ _ _ true

theorem writesTo_writePeerCommand {n n' : FNENetwork Object} {p : UInt32} {opcode : UInt8 × UInt8}
    {data : List UInt8} {incPktSeq : Bool} (h : n.writePeerCommand p opcode data incPktSeq = some n') :
    WritesTo p n n' := by
  unfold writePeerCommand at h
  split at h
  · exact absurd h (by simp)
  · rw [← Option.some.inj h]
    exact writesTo_writePeerNext n p opcode _ 0 incPktSeq

theorem writesTo_writeRIDs {n n' : FNENetwork Object} {subFunc : UInt8} {p : UInt32} {ids : List UInt32}
    (h : n.writeRIDs subFunc p ids = some n') : WritesTo p n n' := by
  unfold writeRIDs at h
  split at h
  · rw [← Option.some.inj h]
    exact WritesTo.refl p n
  · exact writesTo_writePeerCommand h

theorem writesTo_writeTalkgroups {n n' : FNENetwork Object} {tables : FNETables} {subFunc : UInt8} {p : UInt32}
    {tgs : List TalkgroupRuleGroupVoiceSource} (h : n.writeTalkgroups tables subFunc p tgs = some n') :
    WritesTo p n n' := by
  unfold writeTalkgroups at h
  split at h
  · rw [← Option.some.inj h]
    exact WritesTo.refl p n
  · exact writesTo_writePeerCommand h

/-! ## Maintenance -/

/-- An entry is gone, or nothing but its packet sequence has changed. -/
def GoneOrWritten (n n' : FNENetwork Object) : Prop :=
  ∀ q, n'.m_peers.lookup q = none ∨
    ∃ k, n'.m_peers.lookup q = (n.m_peers.lookup q).map (FNEPeerConnection.addSeq k)

theorem GoneOrWritten.refl (n : FNENetwork Object) : GoneOrWritten n n :=
  fun _ => Or.inr ⟨0, (map_addSeq_zero _).symm⟩

theorem GoneOrWritten.trans {n m l : FNENetwork Object} (h : GoneOrWritten n m) (h' : GoneOrWritten m l) :
    GoneOrWritten n l := by
  intro q
  rcases h' q with hgone | ⟨k, hk⟩
  · exact Or.inl hgone
  · rcases h q with hgone | ⟨j, hj⟩
    · left
      rw [hk, hgone, Option.map_none]
    · right
      exact ⟨j + k, by rw [hk, hj, map_addSeq_add]⟩

theorem WritesTo.goneOrWritten {p : UInt32} {n n' : FNENetwork Object} (h : WritesTo p n n') :
    GoneOrWritten n n' := by
  intro q
  right
  by_cases hq : q = p
  · rw [hq]
    exact h.own
  · exact ⟨0, by rw [h.others q hq, map_addSeq_zero]⟩

theorem goneOrWritten_erasePeer (n : FNENetwork Object) (p : UInt32) : GoneOrWritten n (n.erasePeer p) := by
  intro q
  rw [lookup_erasePeer]
  split
  · exact Or.inl rfl
  · exact Or.inr ⟨0, (map_addSeq_zero _).symm⟩

theorem goneOrWritten_foldl (ids : List UInt32) (n : FNENetwork Object) :
    GoneOrWritten n (ids.foldl erasePeer n) := by
  induction ids generalizing n with
  | nil => exact GoneOrWritten.refl n
  | cons p ids ih => exact (goneOrWritten_erasePeer n p).trans (ih _)

theorem goneOrWritten_foldlM {write : FNENetwork Object → UInt32 → Option (FNENetwork Object)}
    (hwrite : ∀ {n p n'}, write n p = some n' → WritesTo p n n') (ids : List UInt32)
    {n n' : FNENetwork Object} (h : ids.foldlM write n = some n') : GoneOrWritten n n' := by
  induction ids generalizing n with
  | nil =>
      rw [← Option.some.inj h]
      exact GoneOrWritten.refl n
  | cons p ids ih =>
      rw [List.foldlM_cons] at h
      obtain ⟨m, hm, hrest⟩ := Option.bind_eq_some_iff.mp h
      exact (hwrite hm).goneOrWritten.trans (ih hrest)

theorem goneOrWritten_writeAllRIDs {n n' : FNENetwork Object} {tables : FNETables}
    (h : n.writeAllRIDs tables = some n') : GoneOrWritten n n' := by
  unfold writeAllRIDs at h
  split at h
  · rw [← Option.some.inj h]
    exact GoneOrWritten.refl n
  · obtain ⟨m, hm, hrest⟩ := Option.bind_eq_some_iff.mp h
    exact (goneOrWritten_foldlM writesTo_writeRIDs _ hm).trans (goneOrWritten_foldlM writesTo_writeRIDs _ hrest)

theorem goneOrWritten_writeAllTGIDs {n n' : FNENetwork Object} {tables : FNETables}
    (h : n.writeAllTGIDs tables = some n') : GoneOrWritten n n' := by
  unfold writeAllTGIDs at h
  obtain ⟨m, hm, hrest⟩ := Option.bind_eq_some_iff.mp h
  exact (goneOrWritten_foldlM writesTo_writeTalkgroups _ hm).trans
    (goneOrWritten_foldlM writesTo_writeTalkgroups _ hrest)

theorem goneOrWritten_maintainPeers (cfg : FNESettings Object) (n : FNENetwork Object) (ms : UInt32)
    (now : UInt64) : GoneOrWritten n (n.maintainPeers cfg ms now) := by
  unfold maintainPeers
  dsimp only
  split
  · exact goneOrWritten_foldl _ n
  · exact GoneOrWritten.refl n

theorem goneOrWritten_updateLookups {tables : FNETables} {n n' : FNENetwork Object} {ms : UInt32}
    (h : n.updateLookups tables ms = some n') : GoneOrWritten n n' := by
  unfold updateLookups at h
  dsimp only at h
  split at h
  · obtain ⟨m, hm, h⟩ := Option.bind_eq_some_iff.mp h
    obtain ⟨l, hl, h⟩ := Option.bind_eq_some_iff.mp h
    rw [← Option.some.inj h]
    have hwritten : GoneOrWritten n l := (goneOrWritten_writeAllRIDs hm).trans (goneOrWritten_writeAllTGIDs hl)
    exact hwritten
  · rw [← Option.some.inj h]
    exact GoneOrWritten.refl n

/-- **What the maintenance does to the entries.** -/
theorem goneOrWritten_maintain {cfg : FNESettings Object} {tables : FNETables} {n n' : FNENetwork Object}
    {ms : UInt32} {now : UInt64} (h : n.maintain cfg tables ms now = some n') : GoneOrWritten n n' :=
  (goneOrWritten_maintainPeers cfg n ms now).trans (goneOrWritten_updateLookups h)

/-! ## The functions of a message -/

section Receive

variable {cfg : FNESettings Object} {tables : FNETables} {n n' : FNENetwork Object} {pkt : Packet} {draws : Draws}

theorem peers_repeatFrame (n : FNENetwork Object) (pkt : Packet) (subFunc : UInt8) (peers : List UInt32) :
    (n.repeatFrame pkt subFunc peers).m_peers = n.m_peers := by
  unfold repeatFrame
  induction peers generalizing n with
  | nil => rfl
  | cons p peers ih => rw [List.foldl_cons, ih, peers_writePeer]

/-- Traffic does not touch the table of peers. -/
theorem peers_protocol (cfg : FNESettings Object) (tables : FNETables) (n : FNENetwork Object) (pkt : Packet)
    (draws : Draws) : (n.protocol cfg tables pkt draws).m_peers = n.m_peers := by
  unfold protocol
  dsimp only
  split
  · split
    · split
      · split
        · exact peers_repeatFrame _ pkt _ _
        · rfl
      · split
        · split
          · exact peers_repeatFrame _ pkt _ _
          · rfl
        · split
          · split
            · exact peers_repeatFrame _ pkt _ _
            · rfl
          · rfl
    · rfl
  · rfl

/-! ### The other peers -/

section Others

variable {q : UInt32}

theorem lookup_trackSequence_others (hq : q ≠ pkt.fneHeader.peerId) :
    (n.trackSequence pkt).m_peers.lookup q = n.m_peers.lookup q := by
  unfold trackSequence
  split
  · split
    · rw [lookup_setPeer, if_neg hq]
    · rfl
  · rfl

theorem repeaterLogin_others (hq : q ≠ pkt.fneHeader.peerId) :
    (n.repeaterLogin pkt draws).m_peers.lookup q = n.m_peers.lookup q := by
  unfold repeaterLogin
  dsimp only
  split
  · rw [lookup_writePeerACK, if_neg hq, lookup_setPeer, if_neg hq]
  · split
    · split
      · rw [lookup_erasePeer, if_neg hq, lookup_setPeer, if_neg hq, peers_writePeerNAKTo]
      · rw [lookup_setPeer, if_neg hq, peers_writePeerNAKTo]
    · rfl

theorem repeaterAuth_others (hq : q ≠ pkt.fneHeader.peerId) (h : n.repeaterAuth cfg pkt draws = some n') :
    n'.m_peers.lookup q = n.m_peers.lookup q := by
  unfold repeaterAuth at h
  dsimp only at h
  split at h
  · split at h
    · split at h
      · exact absurd h (by simp)
      · rw [← Option.some.inj h, lookup_setPeer, if_neg hq]
        cases hashValid cfg pkt.message _ with
        | true =>
            simp only [if_true]
            rw [lookup_writePeerACK, if_neg hq, lookup_setPeer, if_neg hq, lookup_setPeer, if_neg hq]
        | false =>
            simp only [Bool.false_eq_true, if_false]
            rw [lookup_erasePeer, if_neg hq, lookup_writePeerNAK, if_neg hq, lookup_setPeer, if_neg hq,
              lookup_setPeer, if_neg hq]
    · rw [← Option.some.inj h, lookup_erasePeer, if_neg hq, lookup_writePeerNAK, if_neg hq, lookup_setPeer,
        if_neg hq]
  · rw [← Option.some.inj h, peers_writePeerNAKTo]

/-- The lists that a configured peer is sent. -/
theorem writesTo_lists {n n' : FNENetwork Object} {tables : FNETables} {p : UInt32}
    (h : (do
      let n ← n.writeWhitelistRIDs tables p
      let n ← n.writeBlacklistRIDs tables p
      let n ← n.writeTGIDs tables p
      n.writeDeactiveTGIDs tables p) = some n') : WritesTo p n n' := by
  obtain ⟨n₁, h₁, h⟩ := Option.bind_eq_some_iff.mp h
  obtain ⟨n₂, h₂, h⟩ := Option.bind_eq_some_iff.mp h
  obtain ⟨n₃, h₃, h⟩ := Option.bind_eq_some_iff.mp h
  exact (writesTo_writeRIDs h₁).trans
    ((writesTo_writeRIDs h₂).trans ((writesTo_writeTalkgroups h₃).trans (writesTo_writeTalkgroups h)))

theorem repeaterConfig_others (hq : q ≠ pkt.fneHeader.peerId)
    (h : n.repeaterConfig cfg tables pkt draws = some n') : n'.m_peers.lookup q = n.m_peers.lookup q := by
  unfold repeaterConfig at h
  dsimp only at h
  split at h
  · split at h
    · split at h
      · exact absurd h (by simp)
      · split at h
        · rw [(writesTo_lists h).others q hq, lookup_writePeerACK, if_neg hq, lookup_setPeer, if_neg hq,
            lookup_setPeer, if_neg hq]
        · rw [← Option.some.inj h, lookup_erasePeer, if_neg hq, lookup_writePeerNAK, if_neg hq, lookup_setPeer,
            if_neg hq]
    · rw [← Option.some.inj h, lookup_erasePeer, if_neg hq, lookup_writePeerNAK, if_neg hq, lookup_setPeer,
        if_neg hq]
  · rw [← Option.some.inj h, peers_writePeerNAKTo]

theorem repeaterClosing_others (hq : q ≠ pkt.fneHeader.peerId) :
    (n.repeaterClosing pkt).m_peers.lookup q = n.m_peers.lookup q := by
  unfold repeaterClosing
  split
  · split
    · rw [lookup_erasePeer, if_neg hq]
    · rfl
  · rfl

theorem ping_others (hq : q ≠ pkt.fneHeader.peerId) (h : n.ping pkt draws = some n') :
    n'.m_peers.lookup q = n.m_peers.lookup q := by
  unfold ping at h
  dsimp only at h
  split at h
  · split at h
    · rw [(writesTo_writePeerCommand h).others q hq, lookup_setPeer, if_neg hq]
    · rw [← Option.some.inj h, lookup_writePeerNAK, if_neg hq]
  · rw [← Option.some.inj h]

theorem grantRequest_others (hq : q ≠ pkt.fneHeader.peerId) :
    (n.grantRequest pkt).m_peers.lookup q = n.m_peers.lookup q := by
  unfold grantRequest
  split
  · split
    · rfl
    · rw [lookup_writePeerNAK, if_neg hq]
  · rfl

theorem transfer_others (hq : q ≠ pkt.fneHeader.peerId) (h : n.transfer cfg pkt = some n') :
    n'.m_peers.lookup q = n.m_peers.lookup q := by
  unfold transfer transferLog at h
  split at h
  · split at h
    · split at h
      · split at h
        · exact absurd h (by simp)
        · rw [← Option.some.inj h]
      · rw [← Option.some.inj h, lookup_writePeerNAK, if_neg hq]
    · rw [← Option.some.inj h]
  · rw [← Option.some.inj h]

/-- **A message is about the peer it names**: the entries of the others stay. -/
theorem receive_others (hq : q ≠ pkt.fneHeader.peerId) (h : n.receive cfg tables pkt draws = some n') :
    n'.m_peers.lookup q = n.m_peers.lookup q := by
  have htrack := lookup_trackSequence_others (n := n) hq
  unfold receive at h
  dsimp only at h
  split at h
  · rw [← Option.some.inj h, htrack]
  · rw [← htrack]
    unfold dispatch at h
    dsimp only at h
    split at h
    · rw [← Option.some.inj h, peers_protocol]
    split at h
    · rw [← Option.some.inj h, repeaterLogin_others hq]
    split at h
    · exact repeaterAuth_others hq h
    split at h
    · exact repeaterConfig_others hq h
    split at h
    · rw [← Option.some.inj h, repeaterClosing_others hq]
    split at h
    · exact ping_others hq h
    split at h
    · rw [← Option.some.inj h, grantRequest_others hq]
    split at h
    · exact transfer_others hq h
    · rw [← Option.some.inj h]

end Others

/-! ### The peer itself, when it is entered -/

section Own

variable {c : FNEPeerConnection Object}

/-- The connection after the update of its sequence and stream id. -/
def tracked (c : FNEPeerConnection Object) (pkt : Packet) : FNEPeerConnection Object :=
  if pkt.fneHeader.streamId ≠ 0 then c.track pkt.fneHeader.streamId pkt.rtpHeader.seq else c

/-- The connection that a login enters. -/
def newcomer (pkt : Packet) (draws : Draws) : FNEPeerConnection Object :=
  { id := pkt.fneHeader.peerId, socketStorage := pkt.address, lastPing := draws.now,
    currStreamId := pkt.fneHeader.streamId, salt := draws.salt, connectionState := .waitingAuthorisation }

theorem lookup_trackSequence_own (hp : 0 < pkt.fneHeader.peerId)
    (hc : n.m_peers.lookup pkt.fneHeader.peerId = some c) :
    (n.trackSequence pkt).m_peers.lookup pkt.fneHeader.peerId = some (tracked c pkt) := by
  unfold trackSequence tracked
  rw [findPeer_of_pos hp, hc]
  dsimp only
  split
  · rw [lookup_setPeer, if_pos rfl]
  · exact hc

theorem repeaterLogin_own (hp : 0 < pkt.fneHeader.peerId)
    (hc : n.m_peers.lookup pkt.fneHeader.peerId = some c) :
    (n.repeaterLogin pkt draws).m_peers.lookup pkt.fneHeader.peerId =
      if c.connectionState = .running then some { c with lastPing := draws.now } else none := by
  unfold repeaterLogin
  have hknown : ¬ (pkt.fneHeader.peerId > 0 ∧ n.m_peers.lookup pkt.fneHeader.peerId = none) := by
    rw [hc]
    simp
  dsimp only
  rw [if_neg hknown, findPeer_of_pos hp, peers_writePeerNAKTo, hc]
  dsimp only
  by_cases hrun : c.connectionState = .running
  · rw [if_neg (not_not_intro hrun), if_pos hrun, lookup_setPeer, if_pos rfl]
  · rw [if_pos hrun, if_neg hrun, lookup_erasePeer, if_pos rfl]

/-- What the authentication leaves of a peer. -/
def afterAuth (cfg : FNESettings Object) (c : FNEPeerConnection Object) (pkt : Packet) (draws : Draws) :
    Option (FNEPeerConnection Object) :=
  if c.connectionState = .waitingAuthorisation then
    if hashValid cfg pkt.message c.salt then
      some ({ c with lastPing := draws.now, connectionState := .waitingConfig }.addSeq 1)
    else some ({ c with lastPing := draws.now }.addSeq 1)
  else none

theorem repeaterAuth_own (hp : 0 < pkt.fneHeader.peerId)
    (hc : n.m_peers.lookup pkt.fneHeader.peerId = some c) (h : n.repeaterAuth cfg pkt draws = some n') :
    n'.m_peers.lookup pkt.fneHeader.peerId = afterAuth cfg c pkt draws := by
  unfold repeaterAuth at h
  unfold afterAuth
  dsimp only at h
  rw [findPeer_of_pos hp, hc] at h
  dsimp only at h
  by_cases hstate : c.connectionState = .waitingAuthorisation
  · rw [if_pos hstate] at h
    rw [if_pos hstate]
    split at h
    · exact absurd h (by simp)
    · rw [← Option.some.inj h, lookup_setPeer, if_pos rfl]
      cases hashValid cfg pkt.message c.salt with
      | true =>
          simp only [if_true]
          rw [lookup_writePeerACK, if_pos rfl, lookup_setPeer, if_pos rfl]
          rfl
      | false =>
          simp only [Bool.false_eq_true, if_false]
          rw [lookup_writePeerNAK, if_pos rfl, lookup_setPeer, if_pos rfl]
          rfl
  · rw [if_neg hstate] at h
    rw [if_neg hstate, ← Option.some.inj h, lookup_erasePeer, if_pos rfl]

/-- The connection after a valid configuration, before the lists are sent. -/
def configured (c : FNEPeerConnection Object) (draws : Draws) (object : Object) : FNEPeerConnection Object :=
  { c with lastPing := draws.now, config := some object, connectionState := .running, connected := true,
           pingsReceived := 0 }

theorem repeaterConfig_own (hp : 0 < pkt.fneHeader.peerId)
    (hc : n.m_peers.lookup pkt.fneHeader.peerId = some c)
    (h : n.repeaterConfig cfg tables pkt draws = some n') :
    (n'.m_peers.lookup pkt.fneHeader.peerId = none ∧
      ¬ (c.connectionState = .waitingConfig ∧ ∃ object, cfg.parse (pkt.message.drop 8) = some (some object))) ∨
    ∃ object k, c.connectionState = .waitingConfig ∧ cfg.parse (pkt.message.drop 8) = some (some object) ∧
      n'.m_peers.lookup pkt.fneHeader.peerId = some ((configured c draws object).addSeq k) := by
  unfold repeaterConfig at h
  dsimp only at h
  rw [findPeer_of_pos hp, hc] at h
  dsimp only at h
  by_cases hstate : c.connectionState = .waitingConfig
  · rw [if_pos hstate] at h
    split at h
    · exact absurd h (by simp)
    split at h
    · next object hobject =>
      right
      obtain ⟨k, hk⟩ := (writesTo_lists h).own
      refine ⟨object, 1 + k, hstate, hobject, ?_⟩
      rw [hk, lookup_writePeerACK, if_pos rfl, map_addSeq_add, lookup_setPeer, if_pos rfl]
      rfl
    · next hnone =>
      left
      refine ⟨?_, fun hvalid => ?_⟩
      · rw [← Option.some.inj h, lookup_erasePeer, if_pos rfl]
      · obtain ⟨-, object, hobject⟩ := hvalid
        exact hnone object hobject
  · left
    rw [if_neg hstate] at h
    refine ⟨?_, fun hvalid => hstate hvalid.1⟩
    rw [← Option.some.inj h, lookup_erasePeer, if_pos rfl]

theorem repeaterClosing_own (hp : 0 < pkt.fneHeader.peerId)
    (hc : n.m_peers.lookup pkt.fneHeader.peerId = some c) :
    (n.repeaterClosing pkt).m_peers.lookup pkt.fneHeader.peerId =
      if c.isAt pkt.address.address then none else some c := by
  unfold repeaterClosing
  rw [findPeer_of_pos hp, hc]
  dsimp only
  split
  · rw [lookup_erasePeer, if_pos rfl]
  · exact hc

theorem ping_own (hp : 0 < pkt.fneHeader.peerId) (hc : n.m_peers.lookup pkt.fneHeader.peerId = some c)
    (h : n.ping pkt draws = some n') :
    n'.m_peers.lookup pkt.fneHeader.peerId =
      if c.isAt pkt.address.address then
        some { c with pingsReceived := c.pingsReceived + 1, lastPing := draws.now,
                      pktLastSeq := c.pktLastSeq + 1 }
      else some (c.addSeq 1) := by
  unfold ping writePeerCommand at h
  dsimp only at h
  rw [findPeer_of_pos hp, hc] at h
  dsimp only at h
  split at h
  · next hat =>
    rw [if_neg (by decide)] at h
    rw [if_pos hat, ← Option.some.inj h, lookup_writePeerNext, if_pos rfl, lookup_setPeer, if_pos rfl]
    simp [FNEPeerConnection.addSeq]
  · next hat =>
    rw [if_neg hat, ← Option.some.inj h, lookup_writePeerNAK, if_pos rfl, hc]
    rfl

theorem grantRequest_own (hp : 0 < pkt.fneHeader.peerId)
    (hc : n.m_peers.lookup pkt.fneHeader.peerId = some c) :
    (n.grantRequest pkt).m_peers.lookup pkt.fneHeader.peerId =
      if c.isAt pkt.address.address then some c else some (c.addSeq 1) := by
  unfold grantRequest
  rw [findPeer_of_pos hp, hc]
  dsimp only
  split
  · exact hc
  · rw [lookup_writePeerNAK, if_pos rfl, hc]
    rfl

theorem transfer_own (hp : 0 < pkt.fneHeader.peerId) (hc : n.m_peers.lookup pkt.fneHeader.peerId = some c)
    (h : n.transfer cfg pkt = some n') :
    n'.m_peers.lookup pkt.fneHeader.peerId =
      if takesTransfer cfg pkt ∧ ¬ c.isAt pkt.address.address then some (c.addSeq 1) else some c := by
  unfold transfer transferLog at h
  split at h
  · next htakes =>
    rw [findPeer_of_pos hp, hc] at h
    dsimp only at h
    split at h
    · next hat =>
      rw [if_neg (fun hno => hno.2 hat)]
      split at h
      · exact absurd h (by simp)
      · rw [← Option.some.inj h, hc]
    · next hat =>
      rw [if_pos ⟨htakes, hat⟩, ← Option.some.inj h, lookup_writePeerNAK, if_pos rfl, hc]
      rfl
  · next htakes =>
    rw [if_neg (fun hyes => htakes hyes.1), ← Option.some.inj h, hc]

end Own

/-! ### The peer itself, when it is not entered -/

theorem repeaterLogin_new (hp : 0 < pkt.fneHeader.peerId)
    (hc : n.m_peers.lookup pkt.fneHeader.peerId = none) :
    (n.repeaterLogin pkt draws).m_peers.lookup pkt.fneHeader.peerId =
      some ((newcomer pkt draws).addSeq 1) := by
  unfold repeaterLogin
  dsimp only
  rw [if_pos ⟨hp, hc⟩, lookup_writePeerACK, if_pos rfl, lookup_setPeer, if_pos rfl]
  rfl

/-- **A message of a peer that is not entered** enters it when it is a login, and does nothing otherwise. -/
theorem receive_notFound (hf : n.findPeer pkt.fneHeader.peerId = none)
    (h : n.receive cfg tables pkt draws = some n') :
    (pkt.fneHeader.func = NET_FUNC_RPTL ∧ 0 < pkt.fneHeader.peerId ∧
      n'.m_peers.lookup pkt.fneHeader.peerId = some ((newcomer pkt draws).addSeq 1)) ∨
    n'.m_peers = n.m_peers := by
  have htrack : n.trackSequence pkt = n := by
    unfold trackSequence
    rw [hf]
  unfold receive at h
  dsimp only at h
  rw [htrack] at h
  split at h
  · exact Or.inr (by rw [← Option.some.inj h])
  unfold dispatch at h
  dsimp only at h
  split at h
  · exact Or.inr (by rw [← Option.some.inj h, peers_protocol])
  split at h
  · next hfunc =>
    obtain rfl := Option.some.inj h
    by_cases hp : 0 < pkt.fneHeader.peerId
    · rw [findPeer_of_pos hp] at hf
      exact Or.inl ⟨hfunc, hp, repeaterLogin_new hp hf⟩
    · right
      have hno : ¬ (pkt.fneHeader.peerId > 0 ∧ n.m_peers.lookup pkt.fneHeader.peerId = none) := fun h => hp h.1
      have hf' : (n.writePeerNAKTo pkt.fneHeader.peerId draws.streamId pkt.address).findPeer
          pkt.fneHeader.peerId = none := if_neg hp
      unfold repeaterLogin
      dsimp only
      rw [if_neg hno, hf']
      rfl
  right
  split at h
  · unfold repeaterAuth at h
    dsimp only at h
    rw [hf] at h
    rw [← Option.some.inj h, peers_writePeerNAKTo]
  split at h
  · unfold repeaterConfig at h
    dsimp only at h
    rw [hf] at h
    rw [← Option.some.inj h, peers_writePeerNAKTo]
  split at h
  · unfold repeaterClosing at h
    rw [hf] at h
    rw [← Option.some.inj h]
  split at h
  · unfold ping at h
    dsimp only at h
    rw [hf] at h
    rw [← Option.some.inj h]
  split at h
  · unfold grantRequest at h
    rw [hf] at h
    rw [← Option.some.inj h]
  split at h
  · unfold transfer transferLog at h
    rw [hf] at h
    split at h
    · rw [← Option.some.inj h]
    · rw [← Option.some.inj h]
  · rw [← Option.some.inj h]

end Receive

end FNENetwork

end DvmHost

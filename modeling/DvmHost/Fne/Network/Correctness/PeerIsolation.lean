import DvmHost.Fne.Network.Correctness.LoginProtocol

/-!
# `Fne.Network.Correctness.PeerIsolation` — what a datagram of another host does to a connected peer

A message is about the peer whose id it names, and the id is part of the message. The handlers that look at the
address of the sender leave a connected peer alone when it is another one. Before they look, the packet sequence and
the stream id are updated; after they have looked, the answer counts in the sequence; and the three messages of the
login look at no address. `Harmless` says which datagrams are left.

A message about another peer is harmless unless the source has no result for it: `Survives`.
-/

namespace DvmHost

open Lib

namespace FNENetwork

variable {Object : Type}

/-! ## Messages about another peer -/

/-- The lists for a peer fit the buffer they are sent from. -/
def ListsFit (tables : FNETables) (p : UInt32) : Prop :=
  (radioIds tables true).length ≤ 2045 ∧ (radioIds tables false).length ≤ 2045 ∧
    (tables.m_tidLookup.sendTalkgroups = true →
      (talkgroups tables p true).length ≤ 1636 ∧ (talkgroups tables p false).length ≤ 1636)

/-- The message is long enough for the part that the state of its peer has the FNE read, and the lists that answer a
    configuration fit. -/
def Survives (cfg : FNESettings Object) (tables : FNETables) (n : FNENetwork Object) (pkt : Packet) : Prop :=
  ∀ c, n.findPeer pkt.fneHeader.peerId = some c →
    (pkt.fneHeader.func = NET_FUNC_RPTK → c.connectionState = .waitingAuthorisation → 8 ≤ pkt.message.length) ∧
    (pkt.fneHeader.func = NET_FUNC_RPTC → c.connectionState = .waitingConfig → 8 ≤ pkt.message.length ∧
      ((∃ object, cfg.parse (pkt.message.drop 8) = some (some object)) →
        ListsFit tables pkt.fneHeader.peerId)) ∧
    (pkt.fneHeader.func = NET_FUNC_TRANSFER → takesTransfer cfg pkt → c.isAt pkt.address.address →
      11 ≤ pkt.message.length)

section Survives

variable {cfg : FNESettings Object} {tables : FNETables} {n : FNENetwork Object} {pkt : Packet} {draws : Draws}

theorem length_octets32 (val : UInt32) : (octets32 val).length = 4 := by simp [octets32]

theorem length_flatMap_octets32 (ids : List UInt32) : (ids.flatMap octets32).length = 4 * ids.length := by
  induction ids with
  | nil => rfl
  | cons id ids ih =>
      rw [List.flatMap_cons, List.length_append, ih, length_octets32, List.length_cons]
      omega

theorem length_flatMap_talkgroups (tgs : List TalkgroupRuleGroupVoiceSource) :
    (tgs.flatMap fun tg => octets32 tg.tgId ++ [tg.tgSlot]).length = 5 * tgs.length := by
  induction tgs with
  | nil => rfl
  | cons tg tgs ih =>
      have htg : (octets32 tg.tgId ++ [tg.tgSlot]).length = 5 := by simp [length_octets32]
      rw [List.flatMap_cons, List.length_append, ih, htg, List.length_cons]
      omega

theorem isSome_writePeerCommand {p : UInt32} {opcode : UInt8 × UInt8} {data : List UInt8} {incPktSeq : Bool} :
    (n.writePeerCommand p opcode data incPktSeq).isSome = true ↔ data.length + 6 ≤ DATA_PACKET_LENGTH := by
  unfold writePeerCommand
  split
  · next h => exact iff_of_false (by simp) (by omega)
  · next h => exact iff_of_true (by simp) (by omega)

theorem isSome_writeRIDs {subFunc : UInt8} {p : UInt32} {ids : List UInt32} :
    (n.writeRIDs subFunc p ids).isSome = true ↔ ids.length ≤ 2045 := by
  have hcap : DATA_PACKET_LENGTH = 8192 := rfl
  unfold writeRIDs
  split
  · next h => exact iff_of_true rfl (by omega)
  · rw [isSome_writePeerCommand, List.length_append, length_octets32, length_flatMap_octets32]
    omega

theorem isSome_writeTalkgroups {subFunc : UInt8} {p : UInt32} {tgs : List TalkgroupRuleGroupVoiceSource} :
    (n.writeTalkgroups tables subFunc p tgs).isSome = true ↔
      (tables.m_tidLookup.sendTalkgroups = true → tgs.length ≤ 1636) := by
  have hcap : DATA_PACKET_LENGTH = 8192 := rfl
  unfold writeTalkgroups
  cases tables.m_tidLookup.sendTalkgroups with
  | false => simp
  | true =>
      simp only [Bool.not_true, Bool.false_eq_true, if_false, true_implies]
      rw [isSome_writePeerCommand, List.length_append, length_octets32, length_flatMap_talkgroups]
      omega

/-- An option that is followed by another is there when both are. -/
theorem isSome_bind_iff {α β : Type} {o : Option α} {f : α → Option β} {P Q : Prop} (ho : o.isSome = true ↔ P)
    (hf : ∀ a, (f a).isSome = true ↔ Q) : (o.bind f).isSome = true ↔ P ∧ Q := by
  cases o with
  | none =>
      refine iff_of_false (by simp) fun h => ?_
      exact absurd (ho.mpr h.1) (by simp)
  | some a =>
      rw [Option.bind_some, hf]
      exact (and_iff_right (ho.mp rfl)).symm

/-- The lists are sent when they fit. -/
theorem isSome_lists {p : UInt32} :
    (do
      let n ← n.writeWhitelistRIDs tables p
      let n ← n.writeBlacklistRIDs tables p
      let n ← n.writeTGIDs tables p
      n.writeDeactiveTGIDs tables p).isSome = true ↔ ListsFit tables p := by
  refine (isSome_bind_iff isSome_writeRIDs fun n => isSome_bind_iff isSome_writeRIDs fun n =>
    isSome_bind_iff isSome_writeTalkgroups fun n => isSome_writeTalkgroups).trans ?_
  unfold ListsFit
  exact and_congr_right fun _ => and_congr_right fun _ => forall_and.symm

theorem isSome_repeaterAuth :
    (n.repeaterAuth cfg pkt draws).isSome = true ↔
      ∀ c, n.findPeer pkt.fneHeader.peerId = some c → c.connectionState = .waitingAuthorisation →
        8 ≤ pkt.message.length := by
  unfold repeaterAuth
  dsimp only
  cases n.findPeer pkt.fneHeader.peerId with
  | none => simp
  | some c =>
      dsimp only
      by_cases hstate : c.connectionState = .waitingAuthorisation
      · rw [if_pos hstate]
        by_cases hlen : pkt.message.length < 8
        · rw [if_pos hlen]
          refine iff_of_false (by simp) fun h => ?_
          have := h c rfl hstate
          omega
        · rw [if_neg hlen]
          exact iff_of_true rfl fun _ _ _ => by omega
      · rw [if_neg hstate]
        refine iff_of_true rfl fun c' hc' hwaiting => ?_
        rw [← Option.some.inj hc'] at hwaiting
        exact absurd hwaiting hstate

theorem isSome_repeaterConfig :
    (n.repeaterConfig cfg tables pkt draws).isSome = true ↔
      ∀ c, n.findPeer pkt.fneHeader.peerId = some c → c.connectionState = .waitingConfig →
        8 ≤ pkt.message.length ∧ ((∃ object, cfg.parse (pkt.message.drop 8) = some (some object)) →
          ListsFit tables pkt.fneHeader.peerId) := by
  unfold repeaterConfig
  dsimp only
  cases n.findPeer pkt.fneHeader.peerId with
  | none => simp
  | some c =>
      dsimp only
      by_cases hstate : c.connectionState = .waitingConfig
      · rw [if_pos hstate]
        have hone : (∀ c', some c = some c' → c'.connectionState = .waitingConfig →
            8 ≤ pkt.message.length ∧ ((∃ object, cfg.parse (pkt.message.drop 8) = some (some object)) →
              ListsFit tables pkt.fneHeader.peerId)) ↔
            8 ≤ pkt.message.length ∧ ((∃ object, cfg.parse (pkt.message.drop 8) = some (some object)) →
              ListsFit tables pkt.fneHeader.peerId) := by
          refine ⟨fun h => h c rfl hstate, fun h c' hc' _ => h⟩
        rw [hone]
        by_cases hlen : pkt.message.length < 8
        · rw [if_pos hlen]
          exact iff_of_false (by simp) fun h => absurd h.1 (by omega)
        · rw [if_neg hlen]
          split
          · next object hobject =>
            rw [isSome_lists]
            exact ⟨fun h => ⟨by omega, fun _ => h⟩, fun h => h.2 ⟨object, hobject⟩⟩
          · next hnone =>
            refine iff_of_true rfl ⟨by omega, fun hobject => ?_⟩
            obtain ⟨object, hobject⟩ := hobject
            exact absurd hobject (hnone object)
      · rw [if_neg hstate]
        refine iff_of_true rfl fun c' hc' hwaiting => ?_
        rw [← Option.some.inj hc'] at hwaiting
        exact absurd hwaiting hstate

theorem isSome_ping : (n.ping pkt draws).isSome = true := by
  unfold ping
  dsimp only
  cases n.findPeer pkt.fneHeader.peerId with
  | none => rfl
  | some c =>
      dsimp only
      split
      · exact isSome_writePeerCommand.mpr (by decide)
      · rfl

theorem isSome_transfer :
    (n.transfer cfg pkt).isSome = true ↔
      ∀ c, n.findPeer pkt.fneHeader.peerId = some c → takesTransfer cfg pkt → c.isAt pkt.address.address →
        11 ≤ pkt.message.length := by
  unfold transfer transferLog
  by_cases htakes : takesTransfer cfg pkt = true
  · rw [if_pos htakes]
    cases n.findPeer pkt.fneHeader.peerId with
    | none => simp
    | some c =>
        dsimp only
        by_cases hat : c.isAt pkt.address.address = true
        · rw [if_pos hat]
          by_cases hlen : pkt.message.length < 11
          · rw [if_pos hlen]
            refine iff_of_false (by simp) fun h => ?_
            have := h c rfl htakes hat
            omega
          · rw [if_neg hlen]
            exact iff_of_true rfl fun _ _ _ _ => by omega
        · rw [if_neg hat]
          refine iff_of_true rfl fun c' hc' _ hat' => ?_
          rw [← Option.some.inj hc'] at hat'
          exact absurd hat' hat
  · rw [if_neg htakes]
    exact iff_of_true rfl fun _ _ h => absurd h htakes

/-- The update of the sequence changes neither the state of a peer nor its address. -/
theorem track_keeps (c : FNEPeerConnection Object) (pkt : Packet) (ip : String) :
    (tracked c pkt).connectionState = c.connectionState ∧ (tracked c pkt).isAt ip = c.isAt ip := by
  unfold tracked FNEPeerConnection.track
  split
  · split
    · exact ⟨rfl, rfl⟩
    · exact ⟨rfl, rfl⟩
  · exact ⟨rfl, rfl⟩

theorem findPeer_trackSequence :
    (n.trackSequence pkt).findPeer pkt.fneHeader.peerId =
      (n.findPeer pkt.fneHeader.peerId).map fun c => tracked c pkt := by
  unfold findPeer
  split
  · next hp =>
    cases hc : n.m_peers.lookup pkt.fneHeader.peerId with
    | none =>
        have htrack : n.trackSequence pkt = n := by
          unfold trackSequence
          rw [findPeer_of_pos hp, hc]
        rw [htrack, hc, Option.map_none]
    | some c => rw [lookup_trackSequence_own hp hc, Option.map_some]
  · rfl

/-- A peer after the update of the sequence is a peer before it, in its state and at its address. -/
theorem forall_findPeer_trackSequence {P : NetConnStatus → Bool → Prop} :
    (∀ c, (n.trackSequence pkt).findPeer pkt.fneHeader.peerId = some c →
      P c.connectionState (c.isAt pkt.address.address)) ↔
    ∀ c, n.findPeer pkt.fneHeader.peerId = some c → P c.connectionState (c.isAt pkt.address.address) := by
  rw [findPeer_trackSequence]
  cases n.findPeer pkt.fneHeader.peerId with
  | none => simp
  | some c =>
      obtain ⟨hstate, hat⟩ := track_keeps c pkt pkt.address.address
      rw [Option.map_some]
      refine ⟨fun h c' hc' => ?_, fun h c' hc' => ?_⟩
      · rw [← Option.some.inj hc', ← hstate, ← hat]
        exact h _ rfl
      · rw [← Option.some.inj hc', hstate, hat]
        exact h c rfl

theorem receive_transfer (hfunc : pkt.fneHeader.func = NET_FUNC_TRANSFER) :
    n.receive cfg tables pkt draws = (n.trackSequence pkt).transfer cfg pkt := by
  unfold receive dispatch
  rw [hfunc]
  simp only [show ¬ NET_FUNC_TRANSFER = NET_FUNC_PROTOCOL by decide,
    show ¬ NET_FUNC_TRANSFER = NET_FUNC_RPTL by decide, show ¬ NET_FUNC_TRANSFER = NET_FUNC_RPTK by decide,
    show ¬ NET_FUNC_TRANSFER = NET_FUNC_RPTC by decide, show ¬ NET_FUNC_TRANSFER = NET_FUNC_RPT_CLOSING by decide,
    show ¬ NET_FUNC_TRANSFER = NET_FUNC_PING by decide, show ¬ NET_FUNC_TRANSFER = NET_FUNC_GRANT_REQ by decide,
    and_false, if_false, if_true]

/-- The messages but for the two of the login and a transfer have a result. -/
theorem isSome_receive_others (hauth : pkt.fneHeader.func ≠ NET_FUNC_RPTK)
    (hconfig : pkt.fneHeader.func ≠ NET_FUNC_RPTC) (htransfer : pkt.fneHeader.func ≠ NET_FUNC_TRANSFER) :
    (n.receive cfg tables pkt draws).isSome = true := by
  unfold receive
  dsimp only
  split
  · rfl
  unfold dispatch
  dsimp only
  rw [if_neg hauth, if_neg hconfig, if_neg htransfer]
  split
  · rfl
  split
  · rfl
  split
  · rfl
  split
  · exact isSome_ping
  split
  · rfl
  · rfl

/-- **A message has a result exactly when `Survives` says so.** -/
theorem receive_isSome_iff : (n.receive cfg tables pkt draws).isSome = true ↔ Survives cfg tables n pkt := by
  unfold Survives
  by_cases hauth : pkt.fneHeader.func = NET_FUNC_RPTK
  · rw [receive_auth hauth, isSome_repeaterAuth,
      forall_findPeer_trackSequence (P := fun state _ => state = .waitingAuthorisation → 8 ≤ pkt.message.length)]
    simp [hauth, show ¬ NET_FUNC_RPTK = NET_FUNC_RPTC by decide, show ¬ NET_FUNC_RPTK = NET_FUNC_TRANSFER by decide]
  by_cases hconfig : pkt.fneHeader.func = NET_FUNC_RPTC
  · rw [receive_config hconfig, isSome_repeaterConfig,
      forall_findPeer_trackSequence (P := fun state _ => state = .waitingConfig → 8 ≤ pkt.message.length ∧
        ((∃ object, cfg.parse (pkt.message.drop 8) = some (some object)) →
          ListsFit tables pkt.fneHeader.peerId))]
    simp [hconfig, show ¬ NET_FUNC_RPTC = NET_FUNC_RPTK by decide,
      show ¬ NET_FUNC_RPTC = NET_FUNC_TRANSFER by decide]
  by_cases htransfer : pkt.fneHeader.func = NET_FUNC_TRANSFER
  · rw [receive_transfer htransfer, isSome_transfer,
      forall_findPeer_trackSequence (P := fun _ at' => takesTransfer cfg pkt → at' → 11 ≤ pkt.message.length)]
    simp [htransfer, show ¬ NET_FUNC_TRANSFER = NET_FUNC_RPTK by decide,
      show ¬ NET_FUNC_TRANSFER = NET_FUNC_RPTC by decide]
  · refine iff_of_true (isSome_receive_others hauth hconfig htransfer) fun c _ => ?_
    exact ⟨fun h => absurd h hauth, fun h => absurd h hconfig, fun h => absurd h htransfer⟩

end Survives

/-! ## Messages about the peer itself -/

/-- The message leaves the sequence and the stream id of the connection as they are. -/
def SeqKept (c : FNEPeerConnection Object) (pkt : Packet) : Prop :=
  pkt.fneHeader.streamId ≠ 0 →
    if pkt.rtpHeader.seq = RTP_END_OF_CALL_SEQ then c.pktLastSeq = pkt.rtpHeader.seq ∧ c.pktNextSeq = 0
    else c.currStreamId = pkt.fneHeader.streamId ∧ c.pktLastSeq = pkt.rtpHeader.seq ∧
      c.pktNextSeq = pkt.rtpHeader.seq + 1

/-- The sequence of the message is one behind, so that the answer makes up for the update. -/
def SeqAnticipated (c : FNEPeerConnection Object) (pkt : Packet) : Prop :=
  pkt.fneHeader.streamId ≠ 0 ∧
    if pkt.rtpHeader.seq = RTP_END_OF_CALL_SEQ then c.pktLastSeq = pkt.rtpHeader.seq + 1 ∧ c.pktNextSeq = 0
    else c.currStreamId = pkt.fneHeader.streamId ∧ c.pktLastSeq = pkt.rtpHeader.seq + 1 ∧
      c.pktNextSeq = pkt.rtpHeader.seq + 1

/-- The messages that a peer at another address is answered with a rejection. -/
def answered (cfg : FNESettings Object) (pkt : Packet) : Bool :=
  pkt.fneHeader.func = NET_FUNC_PING || pkt.fneHeader.func = NET_FUNC_GRANT_REQ ||
    pkt.fneHeader.func = NET_FUNC_TRANSFER && takesTransfer cfg pkt

theorem lastPing_tracked (c : FNEPeerConnection Object) (pkt : Packet) : (tracked c pkt).lastPing = c.lastPing := by
  unfold tracked FNEPeerConnection.track
  split
  · split
    · rfl
    · rfl
  · rfl

theorem tracked_eq_iff {c : FNEPeerConnection Object} {pkt : Packet} : tracked c pkt = c ↔ SeqKept c pkt := by
  unfold tracked SeqKept FNEPeerConnection.track
  cases c with
  | mk id socketStorage currStreamId salt connected connectionState pingsReceived lastPing config last next =>
      by_cases hstream : pkt.fneHeader.streamId = 0
      · simp [hstream]
      · by_cases hseq : pkt.rtpHeader.seq = RTP_END_OF_CALL_SEQ
        · simp [hstream, hseq, eq_comm]
        · simp [hstream, hseq, eq_comm]

theorem addSeq_tracked_eq_iff {c : FNEPeerConnection Object} {pkt : Packet} :
    (tracked c pkt).addSeq 1 = c ↔ SeqAnticipated c pkt := by
  unfold tracked SeqAnticipated FNEPeerConnection.track FNEPeerConnection.addSeq
  cases c with
  | mk id socketStorage currStreamId salt connected connectionState pingsReceived lastPing config last next =>
      by_cases hstream : pkt.fneHeader.streamId = 0
      · simp [hstream]
      · by_cases hseq : pkt.rtpHeader.seq = RTP_END_OF_CALL_SEQ
        · simp [hstream, hseq, eq_comm]
        · simp [hstream, hseq, eq_comm]

section Foreign

variable {cfg : FNESettings Object} {tables : FNETables} {n n' : FNENetwork Object} {pkt : Packet} {draws : Draws}
  {c : FNEPeerConnection Object}

/-- What a message of a running peer leaves of it when it comes from another address. -/
def afterForeign (cfg : FNESettings Object) (c : FNEPeerConnection Object) (pkt : Packet) (draws : Draws) :
    Option (FNEPeerConnection Object) :=
  if pkt.fneHeader.func = NET_FUNC_RPTK ∨ pkt.fneHeader.func = NET_FUNC_RPTC then none
  else if pkt.fneHeader.func = NET_FUNC_RPTL then some { tracked c pkt with lastPing := draws.now }
  else if answered cfg pkt then some ((tracked c pkt).addSeq 1)
  else some (tracked c pkt)

theorem receive_foreign (hp : 0 < pkt.fneHeader.peerId) (hc : n.m_peers.lookup pkt.fneHeader.peerId = some c)
    (hrunning : c.connectionState = .running) (haddress : pkt.address.address ≠ c.address)
    (h : n.receive cfg tables pkt draws = some n') :
    n'.m_peers.lookup pkt.fneHeader.peerId = afterForeign cfg c pkt draws := by
  obtain ⟨hstate, hat⟩ := track_keeps c pkt pkt.address.address
  have hrunning' : (tracked c pkt).connectionState = .running := hstate.trans hrunning
  have haway : ¬ (tracked c pkt).isAt pkt.address.address = true := by
    rw [hat, FNEPeerConnection.isAt, Bool.and_eq_true, decide_eq_true_eq]
    exact fun h => haddress h.2.symm
  have hc' := lookup_trackSequence_own hp hc
  unfold afterForeign answered
  unfold receive at h
  dsimp only at h
  generalize n.trackSequence pkt = m at h hc'
  split at h
  · next hdiscarded =>
    rw [← Option.some.inj h, hc', hdiscarded.2]
    rfl
  unfold dispatch at h
  dsimp only at h
  split at h
  · next hfunc =>
    rw [← Option.some.inj h, peers_protocol, hc', hfunc]
    rfl
  split at h
  · next hfunc =>
    rw [← Option.some.inj h, repeaterLogin_own hp hc', if_pos hrunning', hfunc]
    rfl
  split at h
  · next hfunc =>
    rw [repeaterAuth_own hp hc' h, if_pos (Or.inl hfunc)]
    exact if_neg (by rw [hrunning']; decide)
  split at h
  · next hfunc =>
    rw [if_pos (Or.inr hfunc)]
    rcases repeaterConfig_own hp hc' h with ⟨hgone, -⟩ | ⟨-, -, hwaiting, -⟩
    · exact hgone
    · exact absurd (hwaiting.symm.trans hrunning') (by decide)
  split at h
  · next hfunc =>
    rw [← Option.some.inj h, repeaterClosing_own hp hc', if_neg haway, hfunc]
    rfl
  split at h
  · next hfunc =>
    rw [ping_own hp hc' h, if_neg haway, hfunc]
    rfl
  split at h
  · next hfunc =>
    rw [← Option.some.inj h, grantRequest_own hp hc', if_neg haway, hfunc]
    rfl
  split at h
  · next hfunc =>
    rw [transfer_own hp hc' h, hfunc]
    by_cases htakes : takesTransfer cfg pkt = true
    · rw [if_pos ⟨htakes, haway⟩, htakes]
      rfl
    · rw [if_neg (fun hno => htakes hno.1), Bool.eq_false_iff.mpr htakes]
      rfl
  · next hping hgrant htransfer =>
    rw [← Option.some.inj h, hc']
    simp [*]

/-- The conditions on a message of the peer under which its connection stays. -/
def HarmlessOwn (cfg : FNESettings Object) (pkt : Packet) (draws : Draws) (c : FNEPeerConnection Object) : Prop :=
  (pkt.fneHeader.func ≠ NET_FUNC_RPTK ∧ pkt.fneHeader.func ≠ NET_FUNC_RPTC) ∧
    (pkt.fneHeader.func = NET_FUNC_RPTL → c.lastPing = draws.now) ∧
    if answered cfg pkt then SeqAnticipated c pkt else SeqKept c pkt

theorem afterForeign_eq_iff : afterForeign cfg c pkt draws = some c ↔ HarmlessOwn cfg pkt draws c := by
  unfold afterForeign HarmlessOwn
  by_cases herases : pkt.fneHeader.func = NET_FUNC_RPTK ∨ pkt.fneHeader.func = NET_FUNC_RPTC
  · rw [if_pos herases]
    refine iff_of_false (by simp) fun h => ?_
    rcases herases with hauth | hconfig
    · exact h.1.1 hauth
    · exact h.1.2 hconfig
  · rw [if_neg herases, and_iff_right (not_or.mp herases)]
    by_cases hlogin : pkt.fneHeader.func = NET_FUNC_RPTL
    · have hanswered : ¬ answered cfg pkt = true := by
        unfold answered
        rw [hlogin]
        exact Bool.false_ne_true
      rw [if_pos hlogin, if_neg hanswered, ← tracked_eq_iff, Option.some.injEq]
      constructor
      · intro h
        -- the time of the message is the one field of the connection that the update does not write
        have hping : draws.now = c.lastPing := congrArg FNEPeerConnection.lastPing h
        refine ⟨fun _ => hping.symm, ?_⟩
        rw [hping, ← lastPing_tracked c pkt] at h
        exact h
      · rintro ⟨hping, hkept⟩
        rw [hkept, ← hping hlogin]
    · rw [if_neg hlogin, and_iff_right fun h => absurd h hlogin]
      split
      · rw [Option.some.injEq, addSeq_tracked_eq_iff]
      · rw [Option.some.injEq, tracked_eq_iff]

end Foreign

/-! ## Main result -/

/-- The message has a result, and the entry of `p` is the same in it. -/
def Isolated (cfg : FNESettings Object) (tables : FNETables) (n : FNENetwork Object) (pkt : Packet) (draws : Draws)
    (p : UInt32) : Prop :=
  ∃ n', n.receive cfg tables pkt draws = some n' ∧ n'.m_peers.lookup p = n.m_peers.lookup p

/-- **The conditions on a message** under which the connection of `p` stays. -/
def Harmless (cfg : FNESettings Object) (tables : FNETables) (n : FNENetwork Object) (pkt : Packet) (draws : Draws)
    (p : UInt32) (c : FNEPeerConnection Object) : Prop :=
  Survives cfg tables n pkt ∧ (pkt.fneHeader.peerId = p → HarmlessOwn cfg pkt draws c)

/-- A step that is the receipt of a message from another address. -/
def ForeignStep (cfg : FNESettings Object) (address : String) (n : FNENetwork Object) (e : Event)
    (n' : FNENetwork Object) : Prop :=
  Step cfg n e n' ∧ ∃ tables pkt draws, e = .receive tables pkt draws ∧ pkt.address.address ≠ address

/-- The message of an event is harmless. -/
def HarmlessEvent (cfg : FNESettings Object) (p : UInt32) (c : FNEPeerConnection Object) (n : FNENetwork Object) :
    Event → Prop
  | .receive tables pkt draws => Harmless cfg tables n pkt draws p c
  | _ => True

section Main

variable {cfg : FNESettings Object} {n : FNENetwork Object} {p : UInt32} {c : FNEPeerConnection Object}

/-- One message: the entry of a running peer stays exactly when the message is harmless. -/
theorem isolated_iff_harmless (hp : 0 < p) (hc : n.m_peers.lookup p = some c) (hrunning : c.connectionState = .running)
    (tables : FNETables) {pkt : Packet} (draws : Draws) (haddress : pkt.address.address ≠ c.address) :
    Isolated cfg tables n pkt draws p ↔ Harmless cfg tables n pkt draws p c := by
  have hsome : (n.receive cfg tables pkt draws).isSome = true ↔ Survives cfg tables n pkt := receive_isSome_iff
  unfold Isolated Harmless
  rw [hc, ← hsome, Option.isSome_iff_exists]
  constructor
  · rintro ⟨n', hn', hkept⟩
    refine ⟨⟨n', hn'⟩, fun hown => ?_⟩
    subst hown
    rw [receive_foreign hp hc hrunning haddress hn'] at hkept
    exact afterForeign_eq_iff.mp hkept
  · rintro ⟨⟨n', hn'⟩, hharmless⟩
    refine ⟨n', hn', ?_⟩
    by_cases hown : pkt.fneHeader.peerId = p
    · have hkept := afterForeign_eq_iff.mpr (hharmless hown)
      subst hown
      rw [receive_foreign hp hc hrunning haddress hn', hkept]
    · rw [receive_others (fun heq => hown heq.symm) hn', hc]

/-- A run of messages of other hosts: the entry stays exactly when all of them are harmless. -/
theorem states_iff_harmless (hp : 0 < p) (hrunning : c.connectionState = .running)
    (hc : n.m_peers.lookup p = some c) {l : List (Event × FNENetwork Object)}
    (hrun : Run (ForeignStep cfg c.address) n l) :
    States (fun n => n.m_peers.lookup p = some c) n l ↔ Guarded (HarmlessEvent cfg p c) n l := by
  refine hrun.states_iff_guarded (I := fun _ => True) (fun {m e m'} _ hm hharmless hstep => ⟨trivial, ?_⟩)
    (fun {m e m'} _ hm hstep hm' => ?_) trivial hc
  · obtain ⟨hstep, tables, pkt, draws, rfl, haddress⟩ := hstep
    obtain ⟨m'', hm'', hkept⟩ := (isolated_iff_harmless hp hm hrunning tables draws haddress).mpr hharmless
    rw [← Option.some.inj (hm''.symm.trans hstep)]
    exact hkept.trans hm
  · obtain ⟨hstep, tables, pkt, draws, rfl, haddress⟩ := hstep
    exact (isolated_iff_harmless hp hm hrunning tables draws haddress).mp ⟨m', hstep, hm'.trans hm.symm⟩

/-- **A connected peer is isolated from another host exactly by harmless messages.** In a reachable state, for a
    message of any function and any length, and over any run of such messages from there. -/
theorem isolated_iff {pingTime updateLookupTime : UInt32} {l : List (Event × FNENetwork Object)}
    (hrun : Run (Step cfg) (opened pingTime updateLookupTime) l)
    (hc : (endOf (opened pingTime updateLookupTime) l).m_peers.lookup p = some c) (hconnected : c.connected = true) :
    (∀ tables pkt draws, pkt.address.address ≠ c.address →
      (Isolated cfg tables (endOf (opened pingTime updateLookupTime) l) pkt draws p ↔
        Harmless cfg tables (endOf (opened pingTime updateLookupTime) l) pkt draws p c)) ∧
    ∀ m, Run (ForeignStep cfg c.address) (endOf (opened pingTime updateLookupTime) l) m →
      (States (fun n => n.m_peers.lookup p = some c) (endOf (opened pingTime updateLookupTime) l) m ↔
        Guarded (HarmlessEvent cfg p c) (endOf (opened pingTime updateLookupTime) l) m) := by
  have hsound : Sound (endOf (opened pingTime updateLookupTime) l) :=
    (sound_opened pingTime updateLookupTime).endOf hrun
  have hp : 0 < p := hsound.pos_of_lookup hc
  have hlogin : loginOf p (endOf (opened pingTime updateLookupTime) l) = some c.login := by
    rw [loginOf, hc, Option.map_some]
  have hrunning : c.connectionState = .running := (hsound.connected_iff p _ hlogin).mp hconnected
  exact ⟨fun tables pkt draws => isolated_iff_harmless hp hc hrunning tables draws,
    fun m => states_iff_harmless hp hrunning hc⟩

end Main

/-! ## A host that knows the id of a peer -/

/-- The network after the login of the peer 9 from 10.0.0.1. -/
def demoNetwork : FNENetwork Unit := endOf (opened 5 10) demoRun

/-- The tables of the login. -/
def demoTables : FNETables := { m_ridLookup := ⟨∅⟩, m_tidLookup := {}, m_peerNetworks := [] }

/-- A message of another host about the peer 9, without a stream id. -/
def spoofed (func : UInt8) : Packet where
  message := List.replicate 8 0x00
  rtpHeader := {}
  fneHeader := { func, streamId := 0, peerId := 9 }
  address := ⟨"10.0.0.2", 62031⟩

/-- What the FNE draws at its receipt. -/
def spoofedDraws : Draws where
  now := 101
  salt := 43
  streamId := 8
  heap := fun _ => 0x00

theorem demoNetwork_connected :
    ∃ c, demoNetwork.m_peers.lookup 9 = some c ∧ c.connected = true ∧ c.address = "10.0.0.1" := by
  have hentry : (demoNetwork.m_peers.lookup 9).map (fun c => (c.connected, c.address)) = some (true, "10.0.0.1") := by
    decide
  obtain ⟨c, hc, hfields⟩ := Option.map_eq_some_iff.mp hentry
  obtain ⟨hconnected, haddress⟩ := Prod.mk.inj hfields
  exact ⟨c, hc, hconnected, haddress⟩

/-- A closing of another host does nothing to the peer. -/
theorem isolated_iff_closing :
    Isolated demoSettings demoTables demoNetwork (spoofed NET_FUNC_RPT_CLOSING) spoofedDraws 9 := by
  obtain ⟨c, hc, hconnected, haddress⟩ := demoNetwork_connected
  have haway : (spoofed NET_FUNC_RPT_CLOSING).address.address ≠ c.address := by
    rw [haddress]
    decide
  refine ((isolated_iff demoRun_run hc hconnected).1 demoTables _ spoofedDraws haway).mpr ⟨fun c' _ => ?_, fun _ => ?_⟩
  · exact ⟨fun h => absurd h (by decide), fun h => absurd h (by decide), fun h => absurd h (by decide)⟩
  · exact ⟨by decide, fun h => absurd h (by decide), fun h => absurd rfl h⟩

/-- **Any host can disconnect a peer**: an authentication that names it erases its entry. -/
theorem spoofed_auth_not_isolated :
    ¬ ∀ l, Run (Step demoSettings) (opened 5 10) l → ∀ p c, (endOf (opened 5 10) l).m_peers.lookup p = some c →
      c.connected = true → ∀ tables pkt draws, pkt.address.address ≠ c.address →
        Isolated demoSettings tables (endOf (opened 5 10) l) pkt draws p := by
  intro hall
  obtain ⟨c, hc, hconnected, haddress⟩ := demoNetwork_connected
  obtain ⟨n', hn', hkept⟩ := hall demoRun demoRun_run 9 c hc hconnected demoTables (spoofed NET_FUNC_RPTK)
    spoofedDraws (by rw [haddress]; decide)
  have hgone : (demoNetwork.receive demoSettings demoTables (spoofed NET_FUNC_RPTK) spoofedDraws).map
      (fun n => (n.m_peers.lookup 9).isSome) = some false := by
    decide
  have hsame : n'.m_peers.lookup 9 = some c := hkept.trans hc
  have hreceived : demoNetwork.receive demoSettings demoTables (spoofed NET_FUNC_RPTK) spoofedDraws = some n' := hn'
  rw [hreceived, Option.map_some, hsame] at hgone
  exact absurd hgone (by simp)

end FNENetwork

end DvmHost

import DvmHost.Host.P25.Packet.Correctness.SiteSteps

/-!
# `Host.P25.Packet.Correctness.GrantSignaling` — grants on the air and grants in the table

The grants that a site announces are those of its table: a grant names the channel that the table holds for its
destination, a permit that is denied leaves none, and a radio is not let in on the grant of another. A request that the
site decides is answered once. What it does not decide is left to others: a call to everybody needs no grant, a site
that is no authority asks the network, and a private call may first be put to the unit that is called.
-/

namespace DvmHost

open Lib

namespace P25

namespace ControlSignaling

/-! ## Answers -/

/-- The opcodes of answers to a channel request: a grant, a denial, a place in the queue. -/
def answerOpcodes : List UInt8 := grantOpcodes ++ [TSBK_OSP_SNDCP_CH_GNT, TSBK_OSP_DENY_RSP, TSBK_OSP_QUE_RSP]

/-- **Exactly one answer**: copies of one message, and next to it commands that answer nothing. -/
def Answered (s s' : ControlSignaling) : Prop :=
  ∃ n answer rest, 0 < n ∧ answer.pdu.lco ∈ answerOpcodes ∧ (∀ x ∈ rest, x.pdu.lco ∉ answerOpcodes) ∧
    s'.sent = s.sent ++ List.replicate n answer ++ rest

theorem not_mem_grantOpcodes {o : UInt8} (h : o ∉ answerOpcodes) : o ∉ grantOpcodes := fun hgrant =>
  h (List.mem_append_left _ hgrant)

/-- Only the log matters. -/
theorem Answered.of_sent {s s' t t' : ControlSignaling} (h : Answered s s') (hs : t.sent = s.sent)
    (hs' : t'.sent = s'.sent) : Answered t t' := by
  unfold Answered
  rw [hs, hs']
  exact h

section Writers

variable {c : Settings}

theorem frames_replicate (hcontrol : c.enableControl = true) (hduplex : c.duplex = true) (s : ControlSignaling)
    (tsbk : TSBKObject) (imm : Bool) :
    ∃ n, 0 < n ∧ frames c s tsbk imm = List.replicate n ⟨{ tsbk with lastBlock := true }, s.affiliations⟩ := by
  unfold frames
  rw [hcontrol, hduplex, if_pos (by rfl)]
  refine ⟨_, ?_, rfl⟩
  split
  · exact Nat.succ_pos 1
  · exact Nat.succ_pos 0

theorem answered_sbf (hcontrol : c.enableControl = true) (hduplex : c.duplex = true) (s : ControlSignaling)
    {tsbk : TSBKObject} (imm : Bool) (h : tsbk.lco ∈ answerOpcodes) : Answered s (s.writeRfTsduSbf c tsbk imm) := by
  obtain ⟨n, hn, hframes⟩ := frames_replicate hcontrol hduplex s tsbk imm
  refine ⟨n, ⟨{ tsbk with lastBlock := true }, s.affiliations⟩, [], hn, h,
    fun _ hx => absurd hx List.not_mem_nil, ?_⟩
  rw [writeRfTsduSbf_eq, emit, hframes, List.append_nil]

/-- `s'` is `s` with copies of the message `x` written. -/
def Copies (x : Sent) (s s' : ControlSignaling) : Prop :=
  s'.affiliations = s.affiliations ∧ ∃ n, 0 < n ∧ s'.sent = s.sent ++ List.replicate n x

theorem copies_sbf (hcontrol : c.enableControl = true) (hduplex : c.duplex = true) (s : ControlSignaling)
    (tsbk : TSBKObject) (imm : Bool) :
    Copies ⟨{ tsbk with lastBlock := true }, s.affiliations⟩ s (s.writeRfTsduSbf c tsbk imm) := by
  obtain ⟨n, hn, hframes⟩ := frames_replicate hcontrol hduplex s tsbk imm
  rw [writeRfTsduSbf_eq, emit, hframes]
  exact ⟨rfl, n, hn, rfl⟩

theorem Copies.trans {x : Sent} {s s' s'' : ControlSignaling} (h : Copies x s s') (h' : Copies x s' s'') :
    Copies x s s'' := by
  obtain ⟨haff, n, hn, hsent⟩ := h
  obtain ⟨haff', m, -, hsent'⟩ := h'
  refine ⟨haff'.trans haff, n + m, Nat.add_pos_left hn m, ?_⟩
  rw [hsent', hsent, List.append_assoc, List.replicate_append_replicate]

theorem Copies.answered {x : Sent} {s s' : ControlSignaling} (h : Copies x s s') (hx : x.pdu.lco ∈ answerOpcodes) :
    Answered s s' := by
  obtain ⟨-, n, hn, hsent⟩ := h
  refine ⟨n, x, [], hn, hx, fun _ hx => absurd hx List.not_mem_nil, ?_⟩
  rw [hsent, List.append_nil]

/-- A command after the answer. -/
theorem Answered.command {s s' : ControlSignaling} (h : Answered s s') {tsbk : TSBKObject} (imm : Bool)
    (ho : tsbk.lco ∉ answerOpcodes) : Answered s (s'.writeRfTsduSbf c tsbk imm) := by
  obtain ⟨n, answer, rest, hn, hanswer, hrest, hsent⟩ := h
  refine ⟨n, answer, rest ++ frames c s' tsbk imm, hn, hanswer, fun x hx => ?_, ?_⟩
  · rcases List.mem_append.mp hx with hx | hx
    · exact hrest x hx
    · rw [mem_frames hx]
      exact ho
  · rw [writeRfTsduSbf_eq]
    show s'.sent ++ frames c s' tsbk imm = s.sent ++ List.replicate n answer ++ (rest ++ frames c s' tsbk imm)
    rw [hsent, List.append_assoc]

end Writers

/-! ## Refusals -/

/-- What a request leaves that is turned away: the tables as they were, no grant, and one answer where the site can
    send one. -/
structure Refused (c : Settings) (s s' : ControlSignaling) : Prop where
  affiliations : s'.affiliations = s.affiliations
  sent : Logs (fun x => x.pdu.lco ∉ grantOpcodes) s.sent s'.sent
  answered : c.enableControl = true → c.duplex = true → Answered s s'

variable (c : Settings) (s : ControlSignaling)

/-- A message that is no grant. -/
theorem logs_sbf {tsbk : TSBKObject} (imm : Bool) (ho : tsbk.lco ∉ grantOpcodes) :
    Logs (fun x => x.pdu.lco ∉ grantOpcodes) s.sent (s.writeRfTsduSbf c tsbk imm).sent := by
  rw [writeRfTsduSbf_eq]
  refine ⟨_, rfl, fun x hx => ?_⟩
  rw [mem_frames hx]
  exact ho

theorem refused_sbf {tsbk : TSBKObject} (imm : Bool) (hanswer : tsbk.lco ∈ answerOpcodes)
    (hgrant : tsbk.lco ∉ grantOpcodes) : Refused c s (s.writeRfTsduSbf c tsbk imm) := by
  refine ⟨?_, logs_sbf c s imm hgrant, fun hcontrol hduplex => answered_sbf hcontrol hduplex s imm hanswer⟩
  rw [writeRfTsduSbf_eq]
  rfl

theorem refused_deny (srcId dstId : UInt32) (reason service : UInt8) :
    Refused c s (s.writeRfTsduDeny c srcId dstId reason service) := by
  refine refused_sbf c s true ?_ ?_
  · show TSBK_OSP_DENY_RSP ∈ answerOpcodes
    decide
  · show TSBK_OSP_DENY_RSP ∉ grantOpcodes
    decide

theorem refused_queue (srcId dstId : UInt32) (reason service : UInt8) (grp : Bool) :
    Refused c s (s.writeRfTsduQueue c srcId dstId reason service grp) := by
  refine refused_sbf c s true ?_ ?_
  · show TSBK_OSP_QUE_RSP ∈ answerOpcodes
    decide
  · show TSBK_OSP_QUE_RSP ∉ grantOpcodes
    decide

variable {c s}

theorem Refused.rfState {s' : ControlSignaling} (h : Refused c s s') (rfState : RPT_RF_STATE) :
    Refused c s { s' with rfState := rfState } :=
  ⟨h.affiliations, h.sent, fun hcontrol hduplex => (h.answered hcontrol hduplex).of_sent rfl rfl⟩

/-- A refusal, and a command to the unit. -/
theorem Refused.command {s' : ControlSignaling} (h : Refused c s s') {tsbk : TSBKObject} (imm : Bool)
    (ho : tsbk.lco ∉ answerOpcodes) : Refused c s (s'.writeRfTsduSbf c tsbk imm) := by
  refine ⟨?_, h.sent.trans (logs_sbf c s' imm (not_mem_grantOpcodes ho)),
    fun hcontrol hduplex => (h.answered hcontrol hduplex).command imm ho⟩
  rw [writeRfTsduSbf_eq]
  exact h.affiliations

theorem Refused.denialInhibit {s' : ControlSignaling} (h : Refused c s s') (srcId : UInt32) :
    Refused c s (s'.denialInhibit c srcId) := by
  unfold ControlSignaling.denialInhibit
  split
  · exact h
  split
  · refine h.command false ?_
    show TSBK_IOSP_EXT_FNCT ∉ answerOpcodes
    decide
  · exact h

theorem Refused.uRegCmd {s' : ControlSignaling} (h : Refused c s s') (dstId : UInt32) :
    Refused c s (s'.writeRfTsduURegCmd c dstId) := by
  refine h.command false ?_
  show TSBK_OSP_U_REG_CMD ∉ answerOpcodes
  decide

/-- A check that a request has to pass: it leaves the state alone, or turns the request away. -/
def Check (c : Settings) (s : ControlSignaling) (r : Except ControlSignaling ControlSignaling) : Prop :=
  r = .ok s ∨ ∃ s', r = .error s' ∧ Refused c s s'

theorem check_ite {p : Prop} [Decidable p] {s' : ControlSignaling} (h : Refused c s s') :
    Check c s (if p then .error s' else .ok s) := by
  split
  · exact .inr ⟨s', rfl, h⟩
  · exact .inl rfl

/-- A request that a check turns away is refused; one that passes goes on from the same state. -/
theorem Check.bind {P : ControlSignaling → ControlSignaling → Prop} {r : Except ControlSignaling ControlSignaling}
    {f : ControlSignaling → Except ControlSignaling ControlSignaling} (h : Check c s r)
    (hrefused : ∀ s', Refused c s s' → P s s') (hf : P s (left (f s))) : P s (left (r >>= f)) := by
  rcases h with rfl | ⟨s', rfl, hs'⟩
  · exact hf
  · exact hrefused s' hs'

variable (c s)

theorem check_isSupportControlCheck (service : UInt8) (srcId : UInt32) :
    Check c s (s.isSupportControlCheck c service srcId) :=
  check_ite ((refused_deny c s _ _ _ _).rfState _)

theorem check_validSrcId (service : UInt8) (srcId : UInt32) : Check c s (s.validSrcId c service srcId) :=
  check_ite (((refused_deny c s _ _ _ _).denialInhibit _).rfState _)

theorem check_validDstId (service : UInt8) (srcId dstId : UInt32) : Check c s (s.validDstId c service srcId dstId) :=
  check_ite ((refused_deny c s _ _ _ _).rfState _)

theorem check_validTgId (service : UInt8) (srcId dstId : UInt32) : Check c s (s.validTgId c service srcId dstId) :=
  check_ite ((refused_deny c s _ _ _ _).rfState _)

theorem check_verifySrcIdReg (service : UInt8) (srcId : UInt32) : Check c s (s.verifySrcIdReg c service srcId) :=
  check_ite (((refused_deny c s _ _ _ _).uRegCmd _).rfState _)

theorem check_verifySrcIdAff (service : UInt8) (srcId dstId : UInt32) :
    Check c s (s.verifySrcIdAff c service srcId dstId) :=
  check_ite (((refused_deny c s _ _ _ _).uRegCmd _).rfState _)

/-! ## A request that the site decides -/

theorem refused_refuseGrant (srcId dstId : UInt32) (grp : Bool) (reason : UInt8) :
    Refused c s (s.refuseGrant c srcId dstId grp false reason) :=
  (refused_deny c s _ _ _ _).rfState _

theorem refused_queueGrant (srcId dstId : UInt32) (grp : Bool) : Refused c s (s.queueGrant c srcId dstId grp false) :=
  (refused_queue c s _ _ _ _ _).rfState _

/-- A request was turned away, or has a channel and was not answered yet. -/
def Channelled : Except ControlSignaling (UInt32 × ControlSignaling) → Prop
  | .error s' => Refused c s s'
  | .ok (chNo, s') => chNo > 0 ∧ s'.sent = s.sent

/-- **The request of a radio** is turned away, or has a channel. -/
theorem grantChannel_radio {dstId : UInt32} (hd : dstId ≠ 0) (hnumbered : s.affiliations.Numbered) (srcId : UInt32)
    (grp : Bool) : Channelled c s (s.grantChannel c srcId dstId grp false false 0) := by
  unfold grantChannel
  rw [if_pos (by rfl)]
  split
  · exact refused_refuseGrant c s _ _ _ _
  split
  · exact refused_refuseGrant c s _ _ _ _
  split
  · exact refused_refuseGrant c s _ _ _ _
  split
  · next hfree =>
      split
      · exact refused_queueGrant c s _ _ _
      · next havailable =>
          obtain ⟨hok, hgranted⟩ := hnumbered.grantCh_granted hd (by simpa using havailable) srcId
            GRANT_TIMER_TIMEOUT grp false
          generalize s.affiliations.grantCh dstId srcId GRANT_TIMER_TIMEOUT grp false = answer at hok hgranted ⊢
          obtain ⟨granted, affiliations⟩ := answer
          refine ⟨?_, rfl⟩
          rw [show granted = true from hok, if_pos rfl]
          exact AffiliationLookup.getGrantedCh_pos_of_isGranted hgranted
  · next hgranted =>
      split
      · exact refused_refuseGrant c s _ _ _ _
      · exact ⟨AffiliationLookup.getGrantedCh_pos_of_isGranted (by simpa using hgranted), rfl⟩

theorem answered_writeGrant (hcontrol : c.enableControl = true) (hduplex : c.duplex = true) (srcId dstId : UInt32)
    (serviceOptions : UInt8) (grp : Bool) (chNo : UInt32) :
    Answered s (s.writeGrant c srcId dstId serviceOptions grp chNo) := by
  unfold writeGrant
  dsimp only
  generalize hiosp : ({ (if grp then TSBKClass.IOSP_GRP_VCH else TSBKClass.IOSP_UU_VCH).new with
    mfId := s.lastMFID, srcId := srcId, dstId := dstId
    grpVchId := (c.getRFChData chNo).chId, grpVchNo := chNo
    emergency := decide (serviceOptions &&& 0x80 = 0x80)
    encrypted := decide (serviceOptions &&& 0x40 = 0x40)
    priority := serviceOptions &&& 0x07 } : TSBKObject) = iosp
  have hlco : iosp.lco ∈ answerOpcodes := by
    rw [← hiosp]
    cases grp with
    | false =>
        show TSBK_IOSP_UU_VCH ∈ answerOpcodes
        decide
    | true =>
        show TSBK_IOSP_GRP_VCH ∈ answerOpcodes
        decide
  have hfirst := copies_sbf hcontrol hduplex s iosp true
  have hagain : ∀ t : ControlSignaling, Copies ⟨{ iosp with lastBlock := true }, s.affiliations⟩ s t →
      Copies ⟨{ iosp with lastBlock := true }, s.affiliations⟩ s (t.writeRfTsduSbf c iosp false) := by
    intro t ht
    refine ht.trans ?_
    rw [← ht.1]
    exact copies_sbf hcontrol hduplex t iosp false
  split
  · exact (hagain _ (hagain _ (hagain _ hfirst))).answered hlco
  · exact hfirst.answered hlco

/-- A request that has a channel is granted, unless the channel denies the permit. -/
theorem answered_confirmGrant (hcontrol : c.enableControl = true) (hduplex : c.duplex = true) (permitted : Bool)
    (srcId dstId : UInt32) (serviceOptions : UInt8) (grp : Bool) {chNo : UInt32} (hpos : chNo > 0) :
    Answered s (s.confirmGrant c permitted srcId dstId serviceOptions grp false chNo).2 := by
  unfold confirmGrant
  rw [if_pos hpos]
  split
  · dsimp only
    generalize hasked : ({ s with
      affiliations := if !permitted then (s.affiliations.releaseGrant dstId false).2 else s.affiliations
      permitReqs := s.permitReqs ++ [PermitReq.mk chNo dstId permitted
        (if !permitted then (s.affiliations.releaseGrant dstId false).2 else s.affiliations)] } :
      ControlSignaling) = t
    have hsent : s.sent = t.sent := by
      rw [← hasked]
    split
    · exact ((refused_refuseGrant c t srcId dstId grp _).answered hcontrol hduplex).of_sent hsent rfl
    · exact (answered_writeGrant c t hcontrol hduplex srcId dstId serviceOptions grp chNo).of_sent hsent rfl
  · exact answered_writeGrant c s hcontrol hduplex srcId dstId serviceOptions grp chNo

/-- The watchdog of the network is all that a request may stop before it is looked at. -/
theorem watchdog_stopped : ∃ t : ControlSignaling, t.sent = s.sent ∧ t.affiliations = s.affiliations ∧
    (if c.disableNetworkGrant ∧ s.networkWatchdog.isRunning then
      { s with networkWatchdog := s.networkWatchdog.stop } else s) = t := by
  refine ⟨_, ?_, ?_, rfl⟩
  · split <;> rfl
  · split <;> rfl

/-- **A grant that is asked for by a radio is answered.** -/
theorem answered_grant (hcontrol : c.enableControl = true) (hduplex : c.duplex = true) (permitted : Bool)
    (srcId : UInt32) {dstId : UInt32} (serviceOptions : UInt8) (grp : Bool) (hall : dstId ≠ P25_TGID_ALL)
    (hd : dstId ≠ 0) (hnumbered : s.affiliations.Numbered) :
    Answered s (s.writeRfTsduGrant c permitted srcId dstId serviceOptions grp false false).2 := by
  unfold writeRfTsduGrant
  rw [if_neg hall]
  split
  · exact (refused_refuseGrant c s srcId dstId grp _).answered hcontrol hduplex
  obtain ⟨t, hsent, haff, ht⟩ := watchdog_stopped c s
  dsimp only
  rw [ht]
  have hspec := grantChannel_radio c t hd (haff ▸ hnumbered) srcId grp
  cases hchannel : t.grantChannel c srcId dstId grp false false 0 with
  | error s' =>
      rw [hchannel] at hspec
      exact (hspec.answered hcontrol hduplex).of_sent hsent.symm rfl
  | ok found =>
      obtain ⟨chNo, s'⟩ := found
      rw [hchannel] at hspec
      obtain ⟨hpos, hsame⟩ := hspec
      exact (answered_confirmGrant c s' hcontrol hduplex permitted srcId dstId serviceOptions grp hpos).of_sent
        (hsent.symm.trans hsame.symm) rfl

/-- A data channel that nobody is named for is answered too. -/
theorem answered_sndcpGrant (hcontrol : c.enableControl = true) (hduplex : c.duplex = true) :
    Answered s (s.writeRfTsduSndcpGrant c 0 0 false false).2 := by
  have hqueued : Answered s (s.queueSndcpGrant c 0 0 false) :=
    ((refused_queue c s _ _ _ _ _).answered hcontrol hduplex).of_sent rfl rfl
  unfold writeRfTsduSndcpGrant
  dsimp only
  rw [if_neg (by decide), if_neg (by decide)]
  split
  · exact hqueued
  split
  · split
    · exact hqueued
    · generalize s.affiliations.grantCh 0 0 GRANT_TIMER_TIMEOUT false false = answer
      obtain ⟨granted, affiliations⟩ := answer
      refine (answered_sbf hcontrol hduplex { s with affiliations := affiliations } false ?_).of_sent rfl rfl
      cases granted with
      | false =>
          show TSBK_OSP_SNDCP_CH_GNT ∈ answerOpcodes
          decide
      | true =>
          show TSBK_OSP_SNDCP_CH_GNT ∈ answerOpcodes
          decide
  · refine (answered_sbf hcontrol hduplex { s with affiliations := s.affiliations.touchGrant 0 } false ?_).of_sent
      rfl rfl
    show TSBK_OSP_SNDCP_CH_GNT ∈ answerOpcodes
    decide

/-- The channel requests that the site decides: of a site that is the authority, a group request for one group, a
    private request that is not first put to the unit that is called, and the consent of that unit; its refusal or
    delay; and a data request. -/
def Decides (tsbk : TSBKObject) : Prop :=
  (tsbk.lco = TSBK_IOSP_GRP_VCH ∧ c.authoritative = true ∧ tsbk.dstId ≠ P25_TGID_ALL) ∨
  (tsbk.lco = TSBK_IOSP_UU_VCH ∧ c.authoritative = true ∧ c.unitToUnitAvailCheck = false ∧ tsbk.dstId ≠ 0 ∧
    tsbk.dstId ≠ P25_TGID_ALL) ∨
  (tsbk.lco = TSBK_IOSP_UU_ANS ∧ tsbk.response = P25_ANS_RSP_PROCEED ∧ c.authoritative = true ∧ tsbk.dstId ≠ 0 ∧
    tsbk.dstId ≠ P25_TGID_ALL) ∨
  (tsbk.lco = TSBK_IOSP_UU_ANS ∧ (tsbk.response = P25_ANS_RSP_DENY ∨ tsbk.response = P25_ANS_RSP_WAIT)) ∨
  tsbk.lco = TSBK_ISP_SNDCP_CH_REQ

variable {c s} {tsbk : TSBKObject}

theorem answered_requestGrant (hcontrol : c.enableControl = true) (hduplex : c.duplex = true)
    (hauthority : c.authoritative = true) (permitted : Bool) (grp : Bool) (hall : tsbk.dstId ≠ P25_TGID_ALL)
    (hd : tsbk.dstId ≠ 0) (hnumbered : s.affiliations.Numbered) :
    Answered s (s.requestGrant c permitted tsbk grp) := by
  unfold requestGrant
  rw [if_pos hauthority]
  exact answered_grant c s hcontrol hduplex permitted _ _ grp hall hd hnumbered

theorem answered_grpVch (hcontrol : c.enableControl = true) (hduplex : c.duplex = true)
    (hauthority : c.authoritative = true) (permitted : Bool) (hall : tsbk.dstId ≠ P25_TGID_ALL)
    (hnumbered : s.affiliations.Numbered) : Answered s (left (s.processGrpVch c permitted tsbk)) := by
  have hrefused : ∀ s', Refused c s s' → Answered s s' := fun _ h => h.answered hcontrol hduplex
  unfold processGrpVch
  refine (check_isSupportControlCheck c s _ _).bind hrefused ?_
  refine (check_validSrcId c s _ _).bind hrefused ?_
  by_cases hd : tsbk.dstId = 0
  · -- the group `0` is no group, and so the next check turns it away
    have hinvalid : (!s.acl.validateTGId tsbk.dstId) = true := by
      unfold AccessControl.validateTGId
      rw [if_pos hd]
      rfl
    unfold validTgId
    rw [if_pos hinvalid]
    exact ((refused_deny c s _ _ _ _).rfState _).answered hcontrol hduplex
  · refine (check_validTgId c s _ _ _).bind hrefused ?_
    refine (check_verifySrcIdAff c s _ _ _).bind hrefused ?_
    exact answered_requestGrant hcontrol hduplex hauthority permitted true hall hd hnumbered

theorem answered_uuVch (hcontrol : c.enableControl = true) (hduplex : c.duplex = true)
    (hauthority : c.authoritative = true) (havail : c.unitToUnitAvailCheck = false) (permitted : Bool)
    (hd : tsbk.dstId ≠ 0) (hall : tsbk.dstId ≠ P25_TGID_ALL) (hnumbered : s.affiliations.Numbered) :
    Answered s (left (s.processUuVch c permitted tsbk)) := by
  have hrefused : ∀ s', Refused c s s' → Answered s s' := fun _ h => h.answered hcontrol hduplex
  unfold processUuVch
  refine (check_isSupportControlCheck c s _ _).bind hrefused ?_
  refine (check_validSrcId c s _ _).bind hrefused ?_
  refine (check_validDstId c s _ _ _).bind hrefused ?_
  refine (check_verifySrcIdReg c s _ _).bind hrefused ?_
  rw [if_neg (by rw [havail]; exact Bool.false_ne_true)]
  exact answered_requestGrant hcontrol hduplex hauthority permitted false hall hd hnumbered

theorem answered_uuAns (hcontrol : c.enableControl = true) (hduplex : c.duplex = true) (permitted : Bool)
    (h : (tsbk.response = P25_ANS_RSP_PROCEED ∧ c.authoritative = true ∧ tsbk.dstId ≠ 0 ∧
      tsbk.dstId ≠ P25_TGID_ALL) ∨ tsbk.response = P25_ANS_RSP_DENY ∨ tsbk.response = P25_ANS_RSP_WAIT)
    (hnumbered : s.affiliations.Numbered) : Answered s (left (s.processUuAns c permitted tsbk)) := by
  have hrefused : ∀ s', Refused c s s' → Answered s s' := fun _ h => h.answered hcontrol hduplex
  unfold processUuAns
  refine (check_isSupportControlCheck c s _ _).bind hrefused ?_
  refine (check_validSrcId c s _ _).bind hrefused ?_
  refine (check_validDstId c s _ _ _).bind hrefused ?_
  rcases h with ⟨hproceed, hauthority, hd, hall⟩ | hdeny | hwait
  · rw [if_pos hproceed]
    exact answered_requestGrant hcontrol hduplex hauthority permitted false hall hd hnumbered
  · rw [hdeny, if_neg (by decide), if_pos rfl]
    exact hrefused _ (refused_deny c s _ _ _ _)
  · rw [hwait, if_neg (by decide), if_neg (by decide), if_pos rfl]
    exact hrefused _ (refused_queue c s _ _ _ _ _)

theorem answered_sndcpChReq (hcontrol : c.enableControl = true) (hduplex : c.duplex = true) :
    Answered s (left (s.processSndcpChReq c tsbk)) := by
  have hrefused : ∀ s', Refused c s s' → Answered s s' := fun _ h => h.answered hcontrol hduplex
  unfold processSndcpChReq
  refine (check_isSupportControlCheck c s _ _).bind hrefused ?_
  refine (check_validSrcId c s _ _).bind hrefused ?_
  split
  · exact answered_sndcpGrant c s hcontrol hduplex
  · exact hrefused _ (refused_deny c s _ _ _ _)

/-- **A request that the site decides is answered once.** -/
theorem answered_process (hcontrol : c.enableControl = true) (hduplex : c.duplex = true) (hdecides : Decides c tsbk)
    (hnumbered : s.affiliations.Numbered) (rnd rnd' : UInt32) (permitted : Bool) :
    Answered s (s.process c rnd rnd' permitted tsbk) := by
  obtain ⟨rfState, heq⟩ := process_eq c s rnd rnd' permitted tsbk hcontrol
  have hdispatch : Answered (s.begun tsbk) (left ((s.begun tsbk).dispatch c rnd rnd' permitted tsbk)) := by
    unfold dispatch
    rcases hdecides with ⟨hlco, hauthority, hall⟩ | ⟨hlco, hauthority, havail, hd, hall⟩ | ⟨hlco, hproceed⟩ |
      ⟨hlco, hreply⟩ | hlco
    · rw [if_pos hlco]
      exact answered_grpVch hcontrol hduplex hauthority permitted hall hnumbered
    · rw [hlco]
      exact answered_uuVch hcontrol hduplex hauthority havail permitted hd hall hnumbered
    · rw [hlco]
      exact answered_uuAns hcontrol hduplex permitted (.inl hproceed) hnumbered
    · rw [hlco]
      exact answered_uuAns hcontrol hduplex permitted (.inr hreply) hnumbered
    · rw [hlco]
      exact answered_sndcpChReq hcontrol hduplex
  rw [heq]
  exact hdispatch.of_sent rfl rfl

/-! ## A request for the grant of another -/

/-- Nothing is granted: the tables are as they were, and no grant is written. -/
structure Ungranted (s s' : ControlSignaling) : Prop where
  affiliations : s'.affiliations = s.affiliations
  sent : Logs (fun x => x.pdu.lco ∉ grantOpcodes) s.sent s'.sent

theorem Ungranted.refl (s : ControlSignaling) : Ungranted s s := ⟨rfl, .refl _⟩

theorem Refused.ungranted {s' : ControlSignaling} (h : Refused c s s') : Ungranted s s' := ⟨h.affiliations, h.sent⟩

theorem ungranted_sbf (c : Settings) (s : ControlSignaling) {tsbk : TSBKObject} (imm : Bool)
    (ho : tsbk.lco ∉ grantOpcodes) : Ungranted s (s.writeRfTsduSbf c tsbk imm) := by
  refine ⟨?_, logs_sbf c s imm ho⟩
  rw [writeRfTsduSbf_eq]
  rfl

/-- **A radio is not let in on the grant of another.** -/
theorem ungranted_grant (hcheck : c.disableGrantSrcIdCheck = false) (permitted : Bool) {srcId dstId : UInt32}
    (serviceOptions : UInt8) (grp : Bool) (hgranted : s.affiliations.isGranted dstId = true)
    (hother : srcId ≠ s.affiliations.getGrantedSrcId dstId) :
    Ungranted s (s.writeRfTsduGrant c permitted srcId dstId serviceOptions grp false false).2 := by
  have hchannel : ∀ t : ControlSignaling, t.affiliations = s.affiliations →
      ∃ s', t.grantChannel c srcId dstId grp false false 0 = .error s' ∧ Refused c t s' := by
    intro t ht
    unfold grantChannel
    rw [if_pos (by rfl)]
    split
    · exact ⟨_, rfl, refused_refuseGrant c t _ _ _ _⟩
    split
    · exact ⟨_, rfl, refused_refuseGrant c t _ _ _ _⟩
    split
    · exact ⟨_, rfl, refused_refuseGrant c t _ _ _ _⟩
    rw [ht, if_neg (by rw [hgranted]; exact Bool.false_ne_true), if_pos ⟨by rw [hcheck]; rfl, rfl, hother⟩]
    exact ⟨_, rfl, refused_refuseGrant c t _ _ _ _⟩
  unfold writeRfTsduGrant
  split
  · exact .refl s
  split
  · exact (refused_refuseGrant c s srcId dstId grp _).ungranted
  obtain ⟨t, hsent, haff, ht⟩ := watchdog_stopped c s
  obtain ⟨s', heq, hs'⟩ := hchannel t haff
  dsimp only
  rw [ht, heq]
  refine ⟨hs'.affiliations.trans haff, ?_⟩
  rw [← hsent]
  exact hs'.sent

theorem ungranted_requestGrant (hcheck : c.disableGrantSrcIdCheck = false) (permitted : Bool) (grp : Bool)
    (hgranted : s.affiliations.isGranted tsbk.dstId = true)
    (hother : tsbk.srcId ≠ s.affiliations.getGrantedSrcId tsbk.dstId) :
    Ungranted s (s.requestGrant c permitted tsbk grp) := by
  unfold requestGrant
  split
  · exact ungranted_grant hcheck permitted _ grp hgranted hother
  · exact ⟨rfl, .refl _⟩

/-- The source and the destination of a voice request of a radio. -/
def Op.radioAsks : Op → Option (UInt32 × UInt32)
  | .rf tsbk _ _ _ =>
      if tsbk.lco = TSBK_IOSP_GRP_VCH ∨ tsbk.lco = TSBK_IOSP_UU_VCH ∨ tsbk.lco = TSBK_IOSP_UU_ANS then
        some (tsbk.srcId, tsbk.dstId)
      else none
  | .grant srcId dstId _ _ false false _ => some (srcId, dstId)
  | _ => none

theorem ungranted_dispatch (hcheck : c.disableGrantSrcIdCheck = false) (rnd rnd' : UInt32) (permitted : Bool)
    (hlco : tsbk.lco = TSBK_IOSP_GRP_VCH ∨ tsbk.lco = TSBK_IOSP_UU_VCH ∨ tsbk.lco = TSBK_IOSP_UU_ANS)
    (hgranted : s.affiliations.isGranted tsbk.dstId = true)
    (hother : tsbk.srcId ≠ s.affiliations.getGrantedSrcId tsbk.dstId) :
    Ungranted s (left (s.dispatch c rnd rnd' permitted tsbk)) := by
  have hrefused : ∀ s', Refused c s s' → Ungranted s s' := fun _ h => h.ungranted
  unfold dispatch
  rcases hlco with hlco | hlco | hlco
  · rw [if_pos hlco]
    unfold processGrpVch
    refine (check_isSupportControlCheck c s _ _).bind hrefused ?_
    refine (check_validSrcId c s _ _).bind hrefused ?_
    refine (check_validTgId c s _ _ _).bind hrefused ?_
    refine (check_verifySrcIdAff c s _ _ _).bind hrefused ?_
    exact ungranted_requestGrant hcheck permitted true hgranted hother
  · rw [if_neg (by rw [hlco]; decide), if_pos hlco]
    unfold processUuVch
    refine (check_isSupportControlCheck c s _ _).bind hrefused ?_
    refine (check_validSrcId c s _ _).bind hrefused ?_
    refine (check_validDstId c s _ _ _).bind hrefused ?_
    refine (check_verifySrcIdReg c s _ _).bind hrefused ?_
    split
    · refine ungranted_sbf c s true ?_
      show TSBK_IOSP_UU_ANS ∉ grantOpcodes
      decide
    · exact ungranted_requestGrant hcheck permitted false hgranted hother
  · rw [if_neg (by rw [hlco]; decide), if_neg (by rw [hlco]; decide), if_pos hlco]
    unfold processUuAns
    refine (check_isSupportControlCheck c s _ _).bind hrefused ?_
    refine (check_validSrcId c s _ _).bind hrefused ?_
    refine (check_validDstId c s _ _ _).bind hrefused ?_
    split
    · exact ungranted_requestGrant hcheck permitted false hgranted hother
    split
    · exact hrefused _ (refused_deny c s _ _ _ _)
    split
    · exact hrefused _ (refused_queue c s _ _ _ _ _)
    · exact .refl s

/-- A call that asks for the grant of another. -/
theorem ungranted_exec (hcheck : c.disableGrantSrcIdCheck = false) {op : Op} {srcId dstId : UInt32}
    (hasks : op.radioAsks = some (srcId, dstId)) (hgranted : s.affiliations.isGranted dstId = true)
    (hother : srcId ≠ s.affiliations.getGrantedSrcId dstId) : Ungranted s (s.exec c op) := by
  cases op with
  | rf tsbk rnd rnd' permitted =>
      unfold Op.radioAsks at hasks
      dsimp only at hasks
      split at hasks
      · next hlco =>
          obtain ⟨rfl, rfl⟩ := Prod.mk.inj (Option.some.inj hasks)
          unfold exec
          dsimp only
          cases hcontrol : c.enableControl with
          | false =>
              unfold process
              rw [if_pos (by simp [hcontrol])]
              exact .refl s
          | true =>
              obtain ⟨rfState, heq⟩ := process_eq c s rnd rnd' permitted tsbk hcontrol
              have hdispatch := ungranted_dispatch (s := s.begun tsbk) hcheck rnd rnd' permitted hlco hgranted hother
              rw [heq]
              exact ⟨hdispatch.affiliations, hdispatch.sent⟩
      · exact nomatch hasks
  | grant srcId' dstId' serviceOptions grp net skip permitted =>
      cases net with
      | true => exact nomatch hasks
      | false =>
          cases skip with
          | true => exact nomatch hasks
          | false =>
              obtain ⟨rfl, rfl⟩ := Prod.mk.inj (Option.some.inj hasks)
              exact ungranted_grant hcheck permitted serviceOptions grp hgranted hother
  | net | grantUpdate | callTerm | releaseGrant | touchGrant | clock | traffic | lookups => exact nomatch hasks

/-! ## Runs -/

/-- A site with its lists and its channels, which have numbers. -/
def start (acl : AccessControl) (channels : List { chNo : UInt32 // chNo ≠ 0 }) : ControlSignaling where
  acl
  affiliations := channels.foldl (fun affiliations chNo => affiliations.addRFCh chNo.val) .new

/-- **What is asked of a state**: the grants on the air were those of the table, and a permit that was denied has left
    no grant. -/
structure Announced (s : ControlSignaling) : Prop where
  sent : ∀ x ∈ s.sent, Sound x
  permits : ∀ r ∈ s.permitReqs, Settled r

/-- **What is asked of a step**: a request that the site decides is answered once, and a radio that asks for the grant
    of another gets none. -/
structure Agrees (c : Settings) (s : ControlSignaling) (op : Op) : Prop where
  answered : c.enableControl = true → c.duplex = true → ∀ tsbk rnd rnd' permitted,
    op = .rf tsbk rnd rnd' permitted → Decides c tsbk → ∀ s', step c s op s' → Answered s s'
  collision : c.disableGrantSrcIdCheck = false → ∀ srcId dstId, op.radioAsks = some (srcId, dstId) →
    s.affiliations.isGranted dstId = true → srcId ≠ s.affiliations.getGrantedSrcId dstId → ∀ s', step c s op s' →
      Logs (fun x => x.pdu.lco ∉ grantOpcodes) s.sent s'.sent ∧ s.affiliations.SameTables s'.affiliations

theorem numbered_start (acl : AccessControl) (channels : List { chNo : UInt32 // chNo ≠ 0 }) :
    (start acl channels).affiliations.Numbered := by
  have hfold : ∀ (chs : List { chNo : UInt32 // chNo ≠ 0 }) (t : AffiliationLookup), t.Numbered →
      (chs.foldl (fun affiliations chNo => affiliations.addRFCh chNo.val) t).Numbered := by
    intro chs
    induction chs with
    | nil => exact fun t ht => ht
    | cons ch chs ih =>
        intro t ht
        refine ih _ ⟨fun hzero => ?_, ht.granted⟩
        rcases List.mem_append.mp hzero with hzero | hzero
        · exact ht.free hzero
        · exact ch.2 (List.mem_singleton.mp hzero).symm
  have hnew : AffiliationLookup.new.Numbered := by
    refine ⟨List.not_mem_nil, fun d hd => ?_⟩
    exact nomatch (AList.lookup_empty d).symm.trans hd
  exact hfold channels .new hnew

/-- The invariant of runs. -/
def Trusted (s : ControlSignaling) : Prop := Announced s ∧ s.affiliations.Numbered

theorem trusted_start (acl : AccessControl) (channels : List { chNo : UInt32 // chNo ≠ 0 }) :
    Trusted (start acl channels) :=
  ⟨⟨fun _ hx => absurd hx List.not_mem_nil, fun _ hr => absurd hr List.not_mem_nil⟩, numbered_start acl channels⟩

theorem Trusted.step {s s' : ControlSignaling} {op : Op} (h : Trusted s) (hstep : step c s op s') : Trusted s' := by
  obtain ⟨affiliations, hsame, rfl⟩ := hstep
  have hfair := fair_exec c { s with affiliations } op
  exact ⟨⟨hfair.sent.forall_mem h.1.sent, hfair.settled.forall_mem h.1.permits⟩,
    hfair.numbered (h.2.of_sameTables hsame)⟩

/-- **One step** from a trusted state. -/
theorem Trusted.agrees {s : ControlSignaling} (h : Trusted s) (op : Op) : Agrees c s op := by
  constructor
  · rintro hcontrol hduplex tsbk rnd rnd' permitted rfl hdecides s' ⟨affiliations, hsame, rfl⟩
    exact (answered_process (s := { s with affiliations }) hcontrol hduplex hdecides (h.2.of_sameTables hsame)
      rnd rnd' permitted).of_sent rfl rfl
  · rintro hcheck srcId dstId hasks hgranted hother s' ⟨affiliations, hsame, rfl⟩
    have hgranted' : affiliations.isGranted dstId = s.affiliations.isGranted dstId :=
      AffiliationLookup.isGranted_congr (hsame.grantChTable.lookup_eq dstId).symm
    have hsrc : affiliations.getGrantedSrcId dstId = s.affiliations.getGrantedSrcId dstId := by
      unfold AffiliationLookup.getGrantedSrcId
      rw [hgranted', hsame.grantSrcIdTable.lookup_eq]
    have hungranted := ungranted_exec (s := { s with affiliations }) hcheck hasks (hgranted'.trans hgranted)
      (fun heq => hother (heq.trans hsrc))
    refine ⟨hungranted.sent, ?_⟩
    rw [hungranted.affiliations]
    exact hsame

/-- **Grants agree with the table.** -/
theorem grants_agree (acl : AccessControl) (channels : List { chNo : UInt32 // chNo ≠ 0 })
    {l : List (Op × ControlSignaling)} (hrun : Run (step c) (start acl channels) l) :
    States Announced (start acl channels) l ∧ Guarded (Agrees c) (start acl channels) l := by
  constructor
  · have htrusted := hrun.states_of_invariant (I := Trusted) (fun h hstep => h.step hstep) (trusted_start acl channels)
    exact htrusted.mono fun _ h => h.1
  · exact hrun.guarded_of_invariant (I := Trusted) (fun h hstep => h.step hstep) (fun h op => h.agrees op)
      (trusted_start acl channels)

/-- A group request of a unit. -/
def groupRequest (srcId dstId : UInt32) : TSBKObject := { TSBKClass.IOSP_GRP_VCH.new with srcId, dstId }

/-- Two units ask for one group. -/
theorem grants_agree_group :
    States Announced (start openAccess [⟨5, by decide⟩])
        (trace (exec trunkingSite) (start openAccess [⟨5, by decide⟩])
          [.rf (groupRequest 7 9) 0 0 true, .grantUpdate, .rf (groupRequest 8 9) 0 0 true]) ∧
      Guarded (Agrees trunkingSite) (start openAccess [⟨5, by decide⟩])
        (trace (exec trunkingSite) (start openAccess [⟨5, by decide⟩])
          [.rf (groupRequest 7 9) 0 0 true, .grantUpdate, .rf (groupRequest 8 9) 0 0 true]) :=
  grants_agree openAccess [⟨5, by decide⟩] (run_trace (fun s _ => ⟨s.affiliations, .refl _, rfl⟩) _ _)

/-- **A request for everybody is not answered.** -/
theorem allCall_not_answered :
    ¬ Answered (start openAccess [⟨5, by decide⟩])
      ((start openAccess [⟨5, by decide⟩]).exec trunkingSite (.rf (groupRequest 7 P25_TGID_ALL) 0 0 true)) := by
  rintro ⟨n, answer, rest, hn, -, -, hsent⟩
  have hnone : ((start openAccess [⟨5, by decide⟩]).exec trunkingSite
      (.rf (groupRequest 7 P25_TGID_ALL) 0 0 true)).sent = [] := rfl
  rw [hnone] at hsent
  have hlength := congrArg List.length hsent
  rw [List.length_append, List.length_append, List.length_replicate, List.length_nil] at hlength
  omega

end ControlSignaling

end P25

end DvmHost

import DvmHost.Host.P25.Packet.ControlSignaling
import DvmHost.Lib.Run

/-!
# `Host.P25.Packet.Correctness.SiteSteps` — what one call does to a trunking site

Every call is `Fair`: a grant that is written names the channel that the table holds at that moment, a permit that was
denied leaves its destination without a grant, and every channel keeps a number. Nearly every call is `Calm` too: nobody
new is registered and no demand is made. The calls that are not are two: the demand that a registration request is
answered with, and the registration that a response leads to.
-/

namespace DvmHost

open Lib

namespace P25

namespace ControlSignaling

/-! ## Messages that are written -/

/-- `s` with the messages `l` written. -/
def emit (s : ControlSignaling) (l : List Sent) : ControlSignaling := { s with sent := s.sent ++ l }

/-- What `writeRF_TSDU_SBF` writes: the message, once or twice. -/
def frames (c : Settings) (s : ControlSignaling) (tsbk : TSBKObject) (imm : Bool) : List Sent :=
  if c.enableControl && c.duplex then
    List.replicate (if imm && c.redundantImmediate then 2 else 1) ⟨{ tsbk with lastBlock := true }, s.affiliations⟩
  else []

theorem writeRfTsduSbf_eq (c : Settings) (s : ControlSignaling) (tsbk : TSBKObject) (imm : Bool) :
    s.writeRfTsduSbf c tsbk imm = s.emit (frames c s tsbk imm) := by
  unfold writeRfTsduSbf frames emit
  cases c.enableControl <;> cases c.duplex <;> simp
  split <;> rfl

theorem mem_frames {c : Settings} {s : ControlSignaling} {tsbk : TSBKObject} {imm : Bool} {x : Sent}
    (h : x ∈ frames c s tsbk imm) : x = ⟨{ tsbk with lastBlock := true }, s.affiliations⟩ := by
  unfold frames at h
  split at h
  · exact List.eq_of_mem_replicate h
  · exact absurd h List.not_mem_nil

/-! ## Grants -/

/-- The opcodes of grants and of their updates. -/
def grantOpcodes : List UInt8 :=
  [TSBK_IOSP_GRP_VCH, TSBK_OSP_GRP_VCH_GRANT_UPD, TSBK_IOSP_UU_VCH, TSBK_OSP_UU_VCH_GRANT_UPD]

/-- The table holds, for the destination of the message, the channel that the message names. -/
def Backed (x : Sent) : Prop :=
  x.pdu.grpVchNo ≠ 0 ∧ x.affiliations.grantChTable.lookup x.pdu.dstId = some x.pdu.grpVchNo

/-- A message is sound if it is no voice grant, or a backed one. -/
def Sound (x : Sent) : Prop := x.pdu.lco ∈ grantOpcodes → Backed x

/-- A permit that was denied has left its destination without a grant. -/
def Settled (r : PermitReq) : Prop := r.permitted = false → r.affiliations.isGranted r.dstId = false

/-- The entries that a call adds to a log have `P`. -/
def Logs {α : Type} (P : α → Prop) (before after : List α) : Prop := ∃ l, after = before ++ l ∧ ∀ x ∈ l, P x

theorem Logs.refl {α : Type} {P : α → Prop} (l : List α) : Logs P l l :=
  ⟨[], (List.append_nil l).symm, fun _ hx => absurd hx List.not_mem_nil⟩

theorem Logs.trans {α : Type} {P : α → Prop} {l l' l'' : List α} (h : Logs P l l') (h' : Logs P l' l'') :
    Logs P l l'' := by
  obtain ⟨a, rfl, ha⟩ := h
  obtain ⟨b, rfl, hb⟩ := h'
  refine ⟨a ++ b, List.append_assoc _ _ _, fun x hx => ?_⟩
  rcases List.mem_append.mp hx with hx | hx
  · exact ha x hx
  · exact hb x hx

/-- What is true of a whole log stays true of it. -/
theorem Logs.forall_mem {α : Type} {P : α → Prop} {l l' : List α} (h : Logs P l l') (hl : ∀ x ∈ l, P x) :
    ∀ x ∈ l', P x := by
  obtain ⟨a, rfl, ha⟩ := h
  intro x hx
  rcases List.mem_append.mp hx with hx | hx
  · exact hl x hx
  · exact ha x hx

/-- What a call does to its logs and to the channels: grants only what the table holds, leaves no grant where a permit
    was denied, and takes its channels from those that have a number. -/
structure Fair (s s' : ControlSignaling) : Prop where
  sent : Logs Sound s.sent s'.sent
  settled : Logs Settled s.permitReqs s'.permitReqs
  numbered : s.affiliations.Numbered → s'.affiliations.Numbered

theorem Fair.trans {s s' s'' : ControlSignaling} (h : Fair s s') (h' : Fair s' s'') : Fair s s'' :=
  ⟨h.sent.trans h'.sent, h.settled.trans h'.settled, h'.numbered ∘ h.numbered⟩

/-- What a fair call does that registers nobody and demands nothing. -/
structure Calm (s s' : ControlSignaling) : Prop extends Fair s s' where
  demands : s'.llaDemandTable = s.llaDemandTable
  registered : ∀ u, s'.affiliations.isUnitReg u = true → s.affiliations.isUnitReg u = true

theorem Calm.refl (s : ControlSignaling) : Calm s s := ⟨⟨.refl _, .refl _, fun h => h⟩, rfl, fun _ h => h⟩

theorem Calm.trans {s s' s'' : ControlSignaling} (h : Calm s s') (h' : Calm s' s'') : Calm s s'' :=
  ⟨h.toFair.trans h'.toFair, h'.demands.trans h.demands, fun u hu => h.registered u (h'.registered u hu)⟩

/-- Sound messages, and any change of what the other parts of the site keep. -/
theorem Calm.of_emit {s s' : ControlSignaling} {l : List Sent} (hsound : ∀ x ∈ l, Sound x)
    (hdemands : s'.llaDemandTable = s.llaDemandTable) (haff : s'.affiliations = s.affiliations)
    (hasked : s'.permitReqs = s.permitReqs) (hsent : s'.sent = s.sent ++ l) : Calm s s' := by
  refine ⟨⟨⟨l, hsent, hsound⟩, ?_, fun h => ?_⟩, hdemands, fun u hu => ?_⟩
  · rw [hasked]
    exact .refl _
  · rwa [haff]
  · rwa [← haff]

theorem Calm.of_quiet {s s' : ControlSignaling} (hdemands : s'.llaDemandTable = s.llaDemandTable)
    (haff : s'.affiliations = s.affiliations) (hasked : s'.permitReqs = s.permitReqs) (hsent : s'.sent = s.sent) :
    Calm s s' := by
  refine Calm.of_emit (l := []) ?_ hdemands haff hasked (hsent.trans (List.append_nil _).symm)
  intro x hx
  exact absurd hx List.not_mem_nil

/-- A message of an opcode that is no grant. -/
theorem calm_sbf (c : Settings) (s : ControlSignaling) {tsbk : TSBKObject} (imm : Bool) (o : UInt8)
    (ho : tsbk.lco = o) (hgrants : o ∉ grantOpcodes) : Calm s (s.writeRfTsduSbf c tsbk imm) := by
  rw [writeRfTsduSbf_eq]
  refine Calm.of_emit ?_ rfl rfl rfl rfl
  intro x hx hgrant
  rw [mem_frames hx, show ({ tsbk with lastBlock := true } : TSBKObject).lco = o from ho] at hgrant
  exact absurd hgrant hgrants

/-! ## The writers -/

variable (c : Settings) (s : ControlSignaling)

theorem calm_ackFne (srcId : UInt32) (service : UInt8) (extended : Bool) :
    Calm s (s.writeRfTsduAckFne c srcId service extended) := by
  unfold writeRfTsduAckFne
  refine calm_sbf c s true TSBK_IOSP_ACK_RSP ?_ (by decide)
  cases extended <;> rfl

theorem calm_deny (srcId dstId : UInt32) (reason service : UInt8) :
    Calm s (s.writeRfTsduDeny c srcId dstId reason service) :=
  calm_sbf c s true TSBK_OSP_DENY_RSP rfl (by decide)

theorem calm_queue (srcId dstId : UInt32) (reason service : UInt8) (grp : Bool) :
    Calm s (s.writeRfTsduQueue c srcId dstId reason service grp) :=
  calm_sbf c s true TSBK_OSP_QUE_RSP rfl (by decide)

theorem calm_uRegCmd (dstId : UInt32) : Calm s (s.writeRfTsduURegCmd c dstId) :=
  calm_sbf c s false TSBK_OSP_U_REG_CMD rfl (by decide)

theorem calm_denialInhibit (srcId : UInt32) : Calm s (s.denialInhibit c srcId) := by
  unfold denialInhibit
  split
  · exact .refl s
  · split
    · exact calm_sbf c s false TSBK_IOSP_EXT_FNCT rfl (by decide)
    · exact .refl s

/-- A change of the RF state. -/
theorem Calm.rfState {s s' : ControlSignaling} (h : Calm s s') (rfState : RPT_RF_STATE) :
    Calm s { s' with rfState := rfState } :=
  h.trans (.of_quiet rfl rfl rfl rfl)

/-! ## Sequences of checks

A handler is a sequence of checks and of what follows them; a check that fails leaves its own state behind. -/

/-- The state that a handler leaves, whether or not a check failed. -/
def left (r : Except ControlSignaling ControlSignaling) : ControlSignaling :=
  match r with
  | .ok s => s
  | .error s => s

theorem calm_bind {s : ControlSignaling} {r : Except ControlSignaling ControlSignaling}
    {f : ControlSignaling → Except ControlSignaling ControlSignaling} (h : Calm s (left r))
    (hf : ∀ s', Calm s' (left (f s'))) : Calm s (left (r >>= f)) := by
  cases r with
  | error s' => exact h
  | ok s' => exact h.trans (hf s')

theorem calm_ite {s : ControlSignaling} {p : Prop} [Decidable p] {r r' : Except ControlSignaling ControlSignaling}
    (h : p → Calm s (left r)) (h' : Calm s (left r')) : Calm s (left (if p then r else r')) := by
  split
  · next hp => exact h hp
  · exact h'

theorem calm_isSupportControlCheck (service : UInt8) (srcId : UInt32) :
    Calm s (left (s.isSupportControlCheck c service srcId)) := by
  unfold isSupportControlCheck
  split
  · exact (calm_deny c s _ _ _ _).rfState _
  · exact .refl s

theorem calm_validSrcId (service : UInt8) (srcId : UInt32) : Calm s (left (s.validSrcId c service srcId)) := by
  unfold validSrcId
  split
  · exact ((calm_deny c s _ _ _ _).trans (calm_denialInhibit c _ _)).rfState _
  · exact .refl s

theorem calm_validDstId (service : UInt8) (srcId dstId : UInt32) :
    Calm s (left (s.validDstId c service srcId dstId)) := by
  unfold validDstId
  split
  · exact (calm_deny c s _ _ _ _).rfState _
  · exact .refl s

theorem calm_validTgId (service : UInt8) (srcId dstId : UInt32) :
    Calm s (left (s.validTgId c service srcId dstId)) := by
  unfold validTgId
  split
  · exact (calm_deny c s _ _ _ _).rfState _
  · exact .refl s

theorem calm_verifySrcIdReg (service : UInt8) (srcId : UInt32) :
    Calm s (left (s.verifySrcIdReg c service srcId)) := by
  unfold verifySrcIdReg
  split
  · exact ((calm_deny c s _ _ _ _).trans (calm_uRegCmd c _ _)).rfState _
  · exact .refl s

theorem calm_verifySrcIdAff (service : UInt8) (srcId dstId : UInt32) :
    Calm s (left (s.verifySrcIdAff c service srcId dstId)) := by
  unfold verifySrcIdAff
  split
  · exact ((calm_deny c s _ _ _ _).trans (calm_uRegCmd c _ _)).rfState _
  · exact .refl s

/-! ## Grants -/

theorem calm_refuseGrant (srcId dstId : UInt32) (grp net : Bool) (reason : UInt8) :
    Calm s (s.refuseGrant c srcId dstId grp net reason) := by
  unfold refuseGrant
  split
  · exact (calm_deny c s _ _ _ _).rfState _
  · exact .refl s

theorem calm_queueGrant (srcId dstId : UInt32) (grp net : Bool) : Calm s (s.queueGrant c srcId dstId grp net) := by
  unfold queueGrant
  split
  · exact (calm_queue c s _ _ _ _ _).rfState _
  · exact .refl s

/-- A change of the tables that registers nobody. -/
theorem calm_affiliations {affiliations : AffiliationLookup}
    (hunits : affiliations.unitRegTable = s.affiliations.unitRegTable)
    (hnumbered : s.affiliations.Numbered → affiliations.Numbered) :
    Calm s { s with affiliations := affiliations } := by
  refine ⟨⟨.refl _, .refl _, hnumbered⟩, rfl, fun u hu => ?_⟩
  unfold AffiliationLookup.isUnitReg at hu ⊢
  rwa [← hunits]

theorem calm_touchGrant (dstId : UInt32) : Calm s { s with affiliations := s.affiliations.touchGrant dstId } :=
  calm_affiliations s (AffiliationLookup.touchGrant_units _ _)
    fun h => h.of_sameGrants (AffiliationLookup.touchGrant_sameGrants _ _)

theorem calm_releaseGrant (dstId : UInt32) :
    Calm s { s with affiliations := (s.affiliations.releaseGrant dstId false).2 } :=
  calm_affiliations s (AffiliationLookup.releaseGrant_units _ _ _) fun h => h.releaseGrant _ _

theorem calm_grantCh (dstId srcId : UInt32) (grp net : Bool) :
    Calm s { s with affiliations := (s.affiliations.grantCh dstId srcId GRANT_TIMER_TIMEOUT grp net).2 } :=
  calm_affiliations s (AffiliationLookup.grantCh_units _ _ _ _ _ _) fun h => h.grantCh _ _ _ _ _

/-- **The channel of a grant.** A state without a channel is calm, and a channel that is found is held by the table. -/
theorem grantChannel_spec (srcId dstId : UInt32) (grp net skip : Bool) :
    match s.grantChannel c srcId dstId grp net skip 0 with
    | .error s' => Calm s s'
    | .ok (chNo, s') => Calm s s' ∧ (chNo > 0 → s'.affiliations.grantChTable.lookup dstId = some chNo) := by
  have htouch : Calm s { s with affiliations := s.affiliations.touchGrant dstId } ∧
      (s.affiliations.getGrantedCh dstId > 0 → (s.affiliations.touchGrant dstId).grantChTable.lookup dstId =
        some (s.affiliations.getGrantedCh dstId)) := by
    refine ⟨calm_touchGrant s dstId, fun hpos => ?_⟩
    rw [(AffiliationLookup.touchGrant_sameGrants s.affiliations dstId).grantChTable]
    exact (AffiliationLookup.getGrantedCh_pos hpos).2
  unfold grantChannel
  split_ifs
  · exact calm_refuseGrant c s _ _ _ _ _
  · exact calm_refuseGrant c s _ _ _ _ _
  · exact calm_refuseGrant c s _ _ _ _ _
  · exact calm_queueGrant c s _ _ _ _
  · have hcalm := calm_grantCh s dstId srcId grp net
    generalize s.affiliations.grantCh dstId srcId GRANT_TIMER_TIMEOUT grp net = answer at hcalm ⊢
    obtain ⟨granted, affiliations⟩ := answer
    refine ⟨hcalm, fun hpos => ?_⟩
    cases granted with
    | false => exact absurd (show (0 : UInt32) > 0 from hpos) (by decide)
    | true => exact (AffiliationLookup.getGrantedCh_pos hpos).2
  · exact calm_refuseGrant c s _ _ _ _ _
  · exact htouch
  · exact htouch
  · exact .refl s

/-- A grant message of a channel that the table holds. -/
theorem calm_backed {tsbk : TSBKObject} (imm : Bool) (hch : tsbk.grpVchNo ≠ 0)
    (hheld : s.affiliations.grantChTable.lookup tsbk.dstId = some tsbk.grpVchNo) :
    Calm s (s.writeRfTsduSbf c tsbk imm) := by
  rw [writeRfTsduSbf_eq]
  refine Calm.of_emit ?_ rfl rfl rfl rfl
  intro x hx _
  rw [mem_frames hx]
  exact ⟨hch, hheld⟩

theorem calm_writeGrant {dstId : UInt32} {chNo : UInt32} (srcId : UInt32) (serviceOptions : UInt8) (grp : Bool)
    (hpos : chNo > 0) (hheld : s.affiliations.grantChTable.lookup dstId = some chNo) :
    Calm s (s.writeGrant c srcId dstId serviceOptions grp chNo) := by
  have hne : chNo ≠ 0 := by
    rintro rfl
    exact absurd hpos (by decide)
  unfold writeGrant
  dsimp only
  generalize hiosp : ({ (if grp then TSBKClass.IOSP_GRP_VCH else TSBKClass.IOSP_UU_VCH).new with
    mfId := s.lastMFID, srcId := srcId, dstId := dstId
    grpVchId := (c.getRFChData chNo).chId, grpVchNo := chNo
    emergency := decide (serviceOptions &&& 0x80 = 0x80)
    encrypted := decide (serviceOptions &&& 0x40 = 0x40)
    priority := serviceOptions &&& 0x07 } : TSBKObject) = iosp
  have hsend : ∀ (t : ControlSignaling) (imm : Bool), t.affiliations = s.affiliations →
      Calm t (t.writeRfTsduSbf c iosp imm) ∧ (t.writeRfTsduSbf c iosp imm).affiliations = s.affiliations := by
    intro t imm haff
    refine ⟨calm_backed c t imm ?_ ?_, by rw [writeRfTsduSbf_eq]; exact haff⟩
    · rw [← hiosp]
      exact hne
    · rw [← hiosp, haff]
      exact hheld
  obtain ⟨hfirst, haff⟩ := hsend s true rfl
  split
  · obtain ⟨hsecond, haff⟩ := hsend _ false haff
    obtain ⟨hthird, haff⟩ := hsend _ false haff
    obtain ⟨hfourth, -⟩ := hsend _ false haff
    exact ((hfirst.trans hsecond).trans hthird).trans hfourth
  · exact hfirst

theorem calm_confirmGrant {dstId : UInt32} {chNo : UInt32} (permitted : Bool) (srcId : UInt32)
    (serviceOptions : UInt8) (grp net : Bool)
    (hheld : chNo > 0 → s.affiliations.grantChTable.lookup dstId = some chNo) :
    Calm s (s.confirmGrant c permitted srcId dstId serviceOptions grp net chNo).2 := by
  unfold confirmGrant
  split
  · next hpos =>
      split
      · have hasked : ∀ r : PermitReq, Settled r → ∀ t : ControlSignaling,
            Calm t { t with permitReqs := t.permitReqs ++ [r] } := by
          intro r hr t
          refine ⟨⟨.refl _, ⟨[r], rfl, fun x hx => ?_⟩, fun h => h⟩, rfl, fun _ h => h⟩
          rw [List.mem_singleton.mp hx]
          exact hr
        dsimp only
        cases permitted with
        | false =>
            refine ((calm_releaseGrant s dstId).trans (hasked _ (fun _ => ?_) _)).trans
              (calm_refuseGrant c _ _ _ _ _ _)
            exact AffiliationLookup.isGranted_releaseGrant s.affiliations dstId
        | true =>
            refine (hasked _ (fun h => ?_) s).trans (calm_writeGrant c _ srcId serviceOptions grp hpos (hheld hpos))
            exact absurd h.symm Bool.false_ne_true
      · exact calm_writeGrant c s srcId serviceOptions grp hpos (hheld hpos)
  · exact .refl s

theorem calm_grant (permitted : Bool) (srcId dstId : UInt32) (serviceOptions : UInt8) (grp net skip : Bool) :
    Calm s (s.writeRfTsduGrant c permitted srcId dstId serviceOptions grp net skip).2 := by
  unfold writeRfTsduGrant
  split
  · exact .refl s
  · split
    · exact calm_refuseGrant c s srcId dstId grp false _
    · have hwatchdog : Calm s (if c.disableNetworkGrant ∧ s.networkWatchdog.isRunning then
          { s with networkWatchdog := s.networkWatchdog.stop } else s) := by
        split
        · exact .of_quiet rfl rfl rfl rfl
        · exact .refl s
      dsimp only
      generalize (if c.disableNetworkGrant ∧ s.networkWatchdog.isRunning then
          { s with networkWatchdog := s.networkWatchdog.stop } else s) = t at hwatchdog ⊢
      have hspec := grantChannel_spec c t srcId dstId grp net skip
      cases hchannel : t.grantChannel c srcId dstId grp net skip 0 with
      | error s' =>
          rw [hchannel] at hspec
          exact hwatchdog.trans hspec
      | ok found =>
          obtain ⟨chNo, s'⟩ := found
          rw [hchannel] at hspec
          exact (hwatchdog.trans hspec.1).trans (calm_confirmGrant c s' permitted srcId serviceOptions grp net hspec.2)

/-- **The update of a grant.** The entry that is announced is one of the table. -/
theorem calm_grantUpdate : Calm s (s.writeRfTsduGrantUpdate c) := by
  unfold writeRfTsduGrantUpdate
  split
  · exact .refl s
  split
  case isFalse => exact .refl s
  have hstart : Calm s (if s.mbfGrpGrntCnt ≥ s.affiliations.grantSize then { s with mbfGrpGrntCnt := 0 } else s) := by
    split
    · exact .of_quiet rfl rfl rfl rfl
    · exact .refl s
  dsimp only
  generalize (if s.mbfGrpGrntCnt ≥ s.affiliations.grantSize then { s with mbfGrpGrntCnt := 0 } else s) = t at hstart ⊢
  split
  · exact hstart
  · next dstId chNo hentry =>
      have hlookup : t.affiliations.grantChTable.lookup dstId = some chNo :=
        AList.mem_lookup_iff.mpr (List.mem_of_getElem? hentry)
      have hcount : Calm s { t with mbfGrpGrntCnt := t.mbfGrpGrntCnt + 1 } :=
        hstart.trans (.of_quiet rfl rfl rfl rfl)
      split
      · exact hcount
      · next hzero =>
          split
          · exact hcount.trans (calm_backed c _ true hzero hlookup)
          · exact hcount.trans (calm_backed c _ true hzero hlookup)

theorem calm_sndcpGrant (srcId dstId : UInt32) (skip net : Bool) :
    Calm s (s.writeRfTsduSndcpGrant c srcId dstId skip net).2 := by
  have hqueued : Calm s (s.queueSndcpGrant c srcId dstId net) := by
    unfold queueSndcpGrant
    split
    · exact (calm_queue c s _ _ _ _ _).rfState _
    · exact .refl s
  unfold writeRfTsduSndcpGrant
  dsimp only
  split
  · exact .refl s
  split
  · exact calm_sbf c s false TSBK_OSP_SNDCP_CH_GNT rfl (by decide)
  split
  · exact hqueued
  split
  · split
    · exact hqueued
    · have hcalm := calm_grantCh s srcId srcId false net
      generalize s.affiliations.grantCh srcId srcId GRANT_TIMER_TIMEOUT false net = answer at hcalm ⊢
      obtain ⟨granted, affiliations⟩ := answer
      exact hcalm.trans (calm_sbf c _ false TSBK_OSP_SNDCP_CH_GNT (by cases granted <;> rfl) (by decide))
  · exact (calm_touchGrant s srcId).trans
      (calm_sbf c _ false TSBK_OSP_SNDCP_CH_GNT rfl (by decide))

theorem calm_callTerm (srcId dstId : UInt32) : Calm s (s.writeNetTsduCallTerm c srcId dstId) := by
  have hrelease : Calm s (if s.affiliations.isGranted dstId then
      { s with affiliations := (s.affiliations.releaseGrant dstId false).2 } else s) := by
    split
    · exact calm_releaseGrant s dstId
    · exact .refl s
  exact hrelease.trans (calm_sbf c _ false LC_CALL_TERM rfl (by decide))

/-! ## Messages from a radio -/

theorem calm_requestGrant (permitted : Bool) (tsbk : TSBKObject) (grp : Bool) :
    Calm s (s.requestGrant c permitted tsbk grp) := by
  unfold requestGrant
  split
  · exact calm_grant c s _ _ _ _ _ _ _
  · exact .of_quiet rfl rfl rfl rfl

theorem calm_grpAffRsp (srcId dstId : UInt32) : Calm s (s.writeRfTsduGrpAffRsp c srcId dstId).2 := by
  unfold writeRfTsduGrpAffRsp
  dsimp only
  generalize (if dstId ≠ 0 ∧ !s.acl.validateTGId dstId then P25_RSP_DENY
    else if !s.affiliations.isUnitReg srcId && c.verifyReg then P25_RSP_REFUSED
    else if !s.acl.validateSrcId srcId then P25_RSP_REFUSED else P25_RSP_ACCEPT) = response
  split
  · exact (calm_affiliations s (AffiliationLookup.groupAff_units _ _ _)
        fun h => h.of_sameGrants (AffiliationLookup.groupAff_sameGrants _ _ _)).trans
      (calm_sbf c _ true TSBK_IOSP_GRP_AFF rfl (by decide))
  · exact calm_sbf c s true TSBK_IOSP_GRP_AFF rfl (by decide)

/-- A de-registration takes a unit out. -/
theorem calm_uDeregAck (srcId : UInt32) : Calm s (s.writeRfTsduUDeregAck c srcId) := by
  have hdereg : Calm s { s with affiliations := (s.affiliations.unitDereg srcId).2 } := by
    refine ⟨⟨.refl _, .refl _, fun h => ?_⟩, rfl, fun u hu => AffiliationLookup.isUnitReg_unitDereg hu⟩
    exact h.of_sameGrants (AffiliationLookup.unitDereg_sameGrants _ _)
  unfold writeRfTsduUDeregAck
  dsimp only
  split
  · exact hdereg.trans (calm_sbf c _ true TSBK_OSP_U_DEREG_ACK rfl (by decide))
  · exact hdereg

theorem calm_locRegRsp (srcId dstId : UInt32) (grp : Bool) :
    Calm s (s.writeRfTsduLocRegRsp c srcId dstId grp) := by
  unfold writeRfTsduLocRegRsp
  dsimp only
  split
  · exact calm_uRegCmd c s srcId
  · exact calm_sbf c s true TSBK_OSP_LOC_REG_RSP rfl (by decide)

/-- An acknowledgement that is only sent where acknowledgements are on. -/
theorem calm_acked (srcId : UInt32) (service : UInt8) :
    Calm s (if c.ackTSBKRequests then s.writeRfTsduAckFne c srcId service true else s) := by
  split
  · exact calm_ackFne c s srcId service true
  · exact .refl s

theorem calm_processGrpVch (permitted : Bool) (tsbk : TSBKObject) :
    Calm s (left (s.processGrpVch c permitted tsbk)) := by
  unfold processGrpVch
  refine calm_bind (calm_isSupportControlCheck c s _ _) fun s => ?_
  refine calm_bind (calm_validSrcId c s _ _) fun s => ?_
  refine calm_bind (calm_validTgId c s _ _ _) fun s => ?_
  refine calm_bind (calm_verifySrcIdAff c s _ _ _) fun s => ?_
  exact calm_requestGrant c s permitted tsbk true

theorem calm_processUuVch (permitted : Bool) (tsbk : TSBKObject) :
    Calm s (left (s.processUuVch c permitted tsbk)) := by
  unfold processUuVch
  refine calm_bind (calm_isSupportControlCheck c s _ _) fun s => ?_
  refine calm_bind (calm_validSrcId c s _ _) fun s => ?_
  refine calm_bind (calm_validDstId c s _ _ _) fun s => ?_
  refine calm_bind (calm_verifySrcIdReg c s _ _) fun s => ?_
  split
  · exact calm_sbf c s true TSBK_IOSP_UU_ANS rfl (by decide)
  · exact calm_requestGrant c s permitted tsbk false

theorem calm_processUuAns (permitted : Bool) (tsbk : TSBKObject) :
    Calm s (left (s.processUuAns c permitted tsbk)) := by
  unfold processUuAns
  refine calm_bind (calm_isSupportControlCheck c s _ _) fun s => ?_
  refine calm_bind (calm_validSrcId c s _ _) fun s => ?_
  refine calm_bind (calm_validDstId c s _ _ _) fun s => ?_
  split
  · exact calm_requestGrant c s permitted tsbk false
  split
  · exact calm_deny c s _ _ _ _
  split
  · exact calm_queue c s _ _ _ _ _
  · exact .refl s

theorem calm_processTeleIntAns (tsbk : TSBKObject) : Calm s (left (s.processTeleIntAns c tsbk)) := by
  unfold processTeleIntAns
  refine calm_bind (calm_isSupportControlCheck c s _ _) fun s => ?_
  refine calm_bind (calm_validSrcId c s _ _) fun s => ?_
  exact calm_deny c s _ _ _ _

theorem calm_processSndcpChReq (tsbk : TSBKObject) : Calm s (left (s.processSndcpChReq c tsbk)) := by
  unfold processSndcpChReq
  refine calm_bind (calm_isSupportControlCheck c s _ _) fun s => ?_
  refine calm_bind (calm_validSrcId c s _ _) fun s => ?_
  split
  · exact calm_sndcpGrant c s 0 0 false false
  · exact calm_deny c s _ _ _ _

theorem calm_processStsUpdt (tsbk : TSBKObject) : Calm s (left (s.processStsUpdt c tsbk)) := by
  unfold processStsUpdt
  refine calm_bind (calm_validSrcId c s _ _) fun s => ?_
  split
  · exact calm_ackFne c s _ _ _
  · exact .refl s

theorem calm_processMsgUpdt (tsbk : TSBKObject) : Calm s (left (s.processMsgUpdt c tsbk)) := by
  unfold processMsgUpdt
  refine calm_bind (calm_validSrcId c s _ _) fun s => ?_
  split
  · exact calm_ackFne c s _ _ _
  · exact .refl s

theorem calm_processRadMon (tsbk : TSBKObject) : Calm s (left (s.processRadMon c tsbk)) := by
  unfold processRadMon
  refine calm_bind (calm_validSrcId c s _ _) fun s => ?_
  refine calm_bind (calm_validDstId c s _ _ _) fun s => ?_
  exact calm_sbf c s false TSBK_IOSP_RAD_MON rfl (by decide)

theorem calm_processCallAlrt (tsbk : TSBKObject) : Calm s (left (s.processCallAlrt c tsbk)) := by
  unfold processCallAlrt
  refine calm_bind (calm_validSrcId c s _ _) fun s => ?_
  refine calm_bind (calm_validDstId c s _ _ _) fun s => ?_
  exact calm_sbf c s false TSBK_IOSP_CALL_ALRT rfl (by decide)

theorem calm_processAckRsp {tsbk : TSBKObject} (hlco : tsbk.lco = TSBK_IOSP_ACK_RSP) :
    Calm s (left (s.processAckRsp c tsbk)) := by
  unfold processAckRsp
  refine calm_bind (calm_validSrcId c s _ _) fun s => ?_
  refine calm_bind (calm_validDstId c s _ _ _) fun s => ?_
  refine calm_sbf c s false TSBK_IOSP_ACK_RSP ?_ (by decide)
  split
  · exact hlco
  · exact hlco

theorem calm_processGrpAff (tsbk : TSBKObject) : Calm s (left (s.processGrpAff c tsbk)) := by
  unfold processGrpAff
  refine calm_bind (calm_isSupportControlCheck c s _ _) fun s => ?_
  exact (calm_acked c s tsbk.srcId TSBK_IOSP_GRP_AFF).trans (calm_grpAffRsp c _ _ _)

theorem calm_processUDeregReq (tsbk : TSBKObject) : Calm s (left (s.processUDeregReq c tsbk)) := by
  unfold processUDeregReq
  refine calm_bind (calm_isSupportControlCheck c s _ _) fun s => ?_
  refine calm_bind (calm_validSrcId c s _ _) fun s => ?_
  exact (calm_acked c s tsbk.srcId TSBK_ISP_U_DEREG_REQ).trans (calm_uDeregAck c _ _)

/-- **Every opcode but two is calm.** -/
theorem calm_dispatch {tsbk : TSBKObject} (rnd rnd' : UInt32) (permitted : Bool)
    (hreg : tsbk.lco ≠ TSBK_IOSP_U_REG) (hauth : tsbk.lco ≠ TSBK_ISP_AUTH_RESP) :
    Calm s (left (s.dispatch c rnd rnd' permitted tsbk)) := by
  unfold dispatch
  refine calm_ite (fun _ => calm_processGrpVch c s permitted tsbk) ?_
  refine calm_ite (fun _ => calm_processUuVch c s permitted tsbk) ?_
  refine calm_ite (fun _ => calm_processUuAns c s permitted tsbk) ?_
  refine calm_ite (fun _ => calm_processTeleIntAns c s tsbk) ?_
  refine calm_ite (fun _ => calm_processSndcpChReq c s tsbk) ?_
  refine calm_ite (fun _ => calm_processStsUpdt c s tsbk) ?_
  refine calm_ite (fun _ => calm_processMsgUpdt c s tsbk) ?_
  refine calm_ite (fun _ => calm_processRadMon c s tsbk) ?_
  refine calm_ite (fun _ => calm_processCallAlrt c s tsbk) ?_
  refine calm_ite (fun hlco => calm_processAckRsp c s hlco) ?_
  refine calm_ite (fun _ => calm_ackFne c s _ _ _) ?_
  refine calm_ite (fun hlco => calm_sbf c s false _ hlco (by decide)) ?_
  refine calm_ite (fun _ => calm_ite (fun _ => calm_ackFne c s _ _ _) (.refl s)) ?_
  refine calm_ite (fun _ => calm_processGrpAff c s tsbk) ?_
  refine calm_ite (fun _ => calm_isSupportControlCheck c s _ _) ?_
  refine calm_ite (fun _ => calm_processUDeregReq c s tsbk) ?_
  refine calm_ite (fun hlco => absurd hlco hreg) ?_
  refine calm_ite (fun _ => ?_) ?_
  · exact calm_bind (calm_isSupportControlCheck c s _ _) fun s => calm_locRegRsp c s _ _ _
  · exact calm_ite (fun hlco => absurd hlco hauth) (.refl s)

/-- The state that `process` begins with. -/
def begun (tsbk : TSBKObject) : ControlSignaling := { s with rfState := .RS_RF_DATA, lastMFID := tsbk.mfId }

theorem calm_begun (tsbk : TSBKObject) : Calm s (s.begun tsbk) := .of_quiet rfl rfl rfl rfl

/-- `process` is the switch, between two changes of the RF state. -/
theorem process_eq (rnd rnd' : UInt32) (permitted : Bool) (tsbk : TSBKObject) (hcontrol : c.enableControl = true) :
    ∃ rfState, s.process c rnd rnd' permitted tsbk =
      { left ((s.begun tsbk).dispatch c rnd rnd' permitted tsbk) with rfState := rfState } := by
  unfold process
  rw [if_neg (by simp [hcontrol])]
  dsimp only
  cases hdispatch : (s.begun tsbk).dispatch c rnd rnd' permitted tsbk with
  | ok s' =>
      refine ⟨s.rfState, ?_⟩
      rw [show ({ s with rfState := .RS_RF_DATA, lastMFID := tsbk.mfId } : ControlSignaling) = s.begun tsbk from rfl,
        hdispatch]
      rfl
  | error s' =>
      refine ⟨s'.rfState, ?_⟩
      rw [show ({ s with rfState := .RS_RF_DATA, lastMFID := tsbk.mfId } : ControlSignaling) = s.begun tsbk from rfl,
        hdispatch]
      rfl

theorem calm_process {tsbk : TSBKObject} (rnd rnd' : UInt32) (permitted : Bool)
    (hreg : tsbk.lco ≠ TSBK_IOSP_U_REG) (hauth : tsbk.lco ≠ TSBK_ISP_AUTH_RESP) :
    Calm s (s.process c rnd rnd' permitted tsbk) := by
  cases hcontrol : c.enableControl with
  | false =>
      unfold process
      rw [if_pos (by simp [hcontrol])]
      exact .refl s
  | true =>
      obtain ⟨rfState, heq⟩ := process_eq c s rnd rnd' permitted tsbk hcontrol
      rw [heq]
      exact ((calm_begun s tsbk).trans (calm_dispatch c _ rnd rnd' permitted hreg hauth)).rfState rfState

/-! ## The other calls -/

/-- A message of the network that is repeated: no grant is. -/
theorem calm_writeNetTsdu {tsbk : TSBKObject} (hgrants : tsbk.lco ∉ grantOpcodes) : Calm s (s.writeNetTsdu tsbk) := by
  refine Calm.of_emit (l := [⟨{ tsbk with lastBlock := true }, s.affiliations⟩]) ?_ rfl rfl rfl rfl
  intro x hx hgrant
  rw [List.mem_singleton.mp hx] at hgrant
  exact absurd hgrant hgrants

theorem calm_netCallTerm (tsbk : TSBKObject) : Calm s (s.processNetCallTerm c tsbk) := by
  unfold processNetCallTerm
  split
  · exact calm_releaseGrant s tsbk.dstId
  · exact .refl s

/-- What the network sends is calm, and a message that goes to the air is no grant. -/
theorem dispatchNetwork_spec (permitted : Bool) (tsbk : TSBKObject) :
    Calm s (s.dispatchNetwork c permitted tsbk).2 ∧
      ((s.dispatchNetwork c permitted tsbk).1 = true → tsbk.lco ∉ grantOpcodes) := by
  have hkeep : ∀ {o : UInt8} {b : Bool}, tsbk.lco = o → o ∉ grantOpcodes →
      Calm s (b, s).2 ∧ ((b, s).1 = true → tsbk.lco ∉ grantOpcodes) := by
    intro o b ho hgrants
    exact ⟨.refl s, fun _ => ho ▸ hgrants⟩
  unfold dispatchNetwork
  split
  · split
    · exact ⟨calm_grant c s _ _ _ _ _ _ _, fun h => absurd h Bool.false_ne_true⟩
    · exact ⟨.refl s, fun h => absurd h Bool.false_ne_true⟩
  split
  · next hlco => exact hkeep hlco (by decide)
  split
  · next hlco => exact hkeep hlco (by decide)
  split
  · next hlco => exact hkeep hlco (by decide)
  split
  · next hlco =>
      have hcalm := calm_processRadMon c s tsbk
      cases hmon : s.processRadMon c tsbk with
      | ok s' =>
          rw [hmon] at hcalm
          refine ⟨hcalm, fun _ => ?_⟩
          rw [hlco]
          decide
      | error s' =>
          rw [hmon] at hcalm
          exact ⟨hcalm, fun h => absurd h Bool.false_ne_true⟩
  split
  · next hlco => exact hkeep hlco (by decide)
  split
  · next hlco => exact hkeep hlco (by decide)
  split
  · next hlco => exact hkeep hlco (by decide)
  · exact ⟨.refl s, fun h => absurd h Bool.false_ne_true⟩

theorem calm_processNetwork (permitted : Bool) (tsbk : TSBKObject) :
    Calm s (s.processNetwork c permitted tsbk) := by
  unfold processNetwork
  split
  · exact .refl s
  split
  · exact .refl s
  split
  · exact .refl s
  split
  · exact .refl s
  split
  · split
    · next hlco =>
        refine (calm_netCallTerm c s tsbk).trans (calm_writeNetTsdu _ ?_)
        rw [hlco]
        decide
    · exact .refl s
  · obtain ⟨hcalm, hair⟩ := dispatchNetwork_spec c s permitted tsbk
    dsimp only
    split
    · next htoAir => exact hcalm.trans (calm_writeNetTsdu _ (hair htoAir))
    · exact hcalm

/-- **Every call is calm but for the two opcodes** of registration. -/
theorem calm_exec {op : Op} (h : ∀ tsbk rnd rnd' permitted, op = .rf tsbk rnd rnd' permitted →
    tsbk.lco ≠ TSBK_IOSP_U_REG ∧ tsbk.lco ≠ TSBK_ISP_AUTH_RESP) :
    Calm s (s.exec c op) := by
  cases op with
  | rf tsbk rnd rnd' permitted =>
      obtain ⟨hreg, hauth⟩ := h tsbk rnd rnd' permitted rfl
      exact calm_process c s rnd rnd' permitted hreg hauth
  | net tsbk permitted => exact calm_processNetwork c s permitted tsbk
  | grant srcId dstId serviceOptions grp net skip permitted => exact calm_grant c s _ _ _ _ _ _ _
  | grantUpdate => exact calm_grantUpdate c s
  | callTerm srcId dstId => exact calm_callTerm c s srcId dstId
  | releaseGrant dstId => exact calm_releaseGrant s dstId
  | touchGrant dstId => exact calm_touchGrant s dstId
  | clock ms => exact calm_affiliations s (AffiliationLookup.clock_units _ _) fun h => h.clock ms
  | traffic rfState netState rfLastDstId netLastDstId rfTGHang networkWatchdog => exact .of_quiet rfl rfl rfl rfl
  | lookups acl => exact .of_quiet rfl rfl rfl rfl

/-! ## The two opcodes that are not calm -/

theorem isSupportControlCheck_eq {c : Settings} (hcontrol : c.enableControl = true) (s : ControlSignaling)
    (service : UInt8) (srcId : UInt32) : s.isSupportControlCheck c service srcId = .ok s := by
  unfold isSupportControlCheck
  rw [if_neg (by simp [hcontrol])]

/-- The registration that an accepted request leads to. -/
def registering (srcId sysId : UInt32) : ControlSignaling :=
  if s.uRegResponse c srcId sysId = P25_RSP_ACCEPT then { s with affiliations := s.affiliations.unitReg srcId } else s

/-- **The response to a registration** registers, and writes. -/
theorem uRegRsp_spec (srcId sysId : UInt32) :
    Calm (s.registering c srcId sysId) (s.writeRfTsduURegRsp c srcId sysId) ∧
      (s.writeRfTsduURegRsp c srcId sysId).affiliations = (s.registering c srcId sysId).affiliations := by
  have hreg : (if s.uRegResponse c srcId sysId = P25_RSP_ACCEPT then
      if !s.affiliations.isUnitReg srcId then { s with affiliations := s.affiliations.unitReg srcId } else s
      else s) = s.registering c srcId sysId := by
    unfold registering AffiliationLookup.unitReg
    cases s.affiliations.isUnitReg srcId <;> rfl
  have hinhibit : ∀ t : ControlSignaling, (t.denialInhibit c srcId).affiliations = t.affiliations := by
    intro t
    unfold denialInhibit
    split
    · rfl
    · split
      · rw [writeRfTsduExtFunc, writeRfTsduSbf_eq]
        rfl
      · rfl
  unfold writeRfTsduURegRsp
  dsimp only
  rw [hreg]
  have hsent : ∀ tsbk : TSBKObject, tsbk.lco = TSBK_IOSP_U_REG → Calm (s.registering c srcId sysId)
      ((s.registering c srcId sysId).writeRfTsduSbf c tsbk true) := fun _ ho =>
    calm_sbf c (s.registering c srcId sysId) true TSBK_IOSP_U_REG ho (by decide)
  split
  · refine ⟨(hsent _ rfl).trans (calm_denialInhibit c _ srcId), (hinhibit _).trans ?_⟩
    rw [writeRfTsduSbf_eq]
    rfl
  · refine ⟨hsent _ rfl, ?_⟩
    rw [writeRfTsduSbf_eq]
    rfl

/-- Who is registered once a request was answered. -/
theorem isUnitReg_registering (srcId sysId u : UInt32) :
    (s.registering c srcId sysId).affiliations.isUnitReg u = true ↔
      s.affiliations.isUnitReg u = true ∨ (u = srcId ∧ s.uRegResponse c srcId sysId = P25_RSP_ACCEPT) := by
  unfold registering
  split
  · next h =>
      rw [AffiliationLookup.isUnitReg_unitReg]
      constructor
      · rintro (hu | hu)
        · exact .inr ⟨hu, h⟩
        · exact .inl hu
      · rintro (hu | ⟨hu, -⟩)
        · exact .inr hu
        · exact .inl hu
  · next h =>
      refine ⟨Or.inl, ?_⟩
      rintro (hu | ⟨-, hu⟩)
      · exact hu
      · exact absurd hu h

/-- The two opcodes in the switch. -/
theorem dispatch_authResp {c : Settings} {tsbk : TSBKObject} (hlco : tsbk.lco = TSBK_ISP_AUTH_RESP) (rnd rnd' : UInt32)
    (permitted : Bool) : s.dispatch c rnd rnd' permitted tsbk = s.processAuthResp c tsbk := by
  unfold dispatch
  rw [hlco]
  rfl

theorem dispatch_uReg {c : Settings} {tsbk : TSBKObject} (hlco : tsbk.lco = TSBK_IOSP_U_REG) (rnd rnd' : UInt32)
    (permitted : Bool) : s.dispatch c rnd rnd' permitted tsbk = s.processUReg c rnd rnd' tsbk := by
  unfold dispatch
  rw [hlco]
  rfl

theorem processAuthResp_eq {c : Settings} (hcontrol : c.enableControl = true) (tsbk : TSBKObject) :
    s.processAuthResp c tsbk = .ok (if s.authFailed c tsbk.srcId tsbk.authRes then
      s.writeRfTsduDeny c P25_WUID_FNE tsbk.srcId P25_DENY_RSN_SU_FAILED_AUTH TSBK_IOSP_U_REG
      else s.writeRfTsduURegRsp c tsbk.srcId tsbk.sysId) := by
  unfold processAuthResp
  rw [isSupportControlCheck_eq hcontrol]
  cases hres : s.authFailed c tsbk.srcId tsbk.authRes <;> simp [bind, Except.bind, hres]

theorem processUReg_eq {c : Settings} (hcontrol : c.enableControl = true) (hlla : c.requireLLAForReg = true)
    (rnd rnd' : UInt32) (tsbk : TSBKObject) :
    s.processUReg c rnd rnd' tsbk = .ok ((if c.ackTSBKRequests then s.writeRfTsduAckFne c tsbk.srcId TSBK_IOSP_U_REG true
      else s).writeRfTsduAuthDmd c rnd rnd' tsbk.srcId) := by
  unfold processUReg
  rw [isSupportControlCheck_eq hcontrol]
  simp [bind, Except.bind, hlla]

/-- A refusal leaves the tables alone. -/
theorem affiliations_deny (srcId dstId : UInt32) (reason service : UInt8) :
    (s.writeRfTsduDeny c srcId dstId reason service).affiliations = s.affiliations := by
  rw [writeRfTsduDeny, writeRfTsduSbf_eq]
  rfl

/-- **A response to a demand.** The unit that sent it is registered, if its octets are the expected ones and the unit
    is accepted, and nobody else is. -/
theorem process_authResp {c : Settings} {tsbk : TSBKObject} (hcontrol : c.enableControl = true)
    (hlco : tsbk.lco = TSBK_ISP_AUTH_RESP) (rnd rnd' : UInt32) (permitted : Bool) :
    (s.process c rnd rnd' permitted tsbk).llaDemandTable = s.llaDemandTable ∧
      ∀ u, (s.process c rnd rnd' permitted tsbk).affiliations.isUnitReg u = true ↔
        s.affiliations.isUnitReg u = true ∨ (u = tsbk.srcId ∧ s.authFailed c tsbk.srcId tsbk.authRes = false ∧
          s.uRegResponse c tsbk.srcId tsbk.sysId = P25_RSP_ACCEPT) := by
  obtain ⟨rfState, heq⟩ := process_eq c s rnd rnd' permitted tsbk hcontrol
  have hfailed : (s.begun tsbk).authFailed c tsbk.srcId tsbk.authRes = s.authFailed c tsbk.srcId tsbk.authRes := rfl
  rw [heq, dispatch_authResp _ hlco, processAuthResp_eq _ hcontrol, hfailed]
  unfold left
  dsimp only
  cases hres : s.authFailed c tsbk.srcId tsbk.authRes with
  | true =>
      rw [if_pos rfl, affiliations_deny]
      refine ⟨(calm_deny c _ _ _ _ _).demands, fun u => ⟨Or.inl, ?_⟩⟩
      rintro (hu | ⟨-, hu, -⟩)
      · exact hu
      · exact absurd hu (by decide)
  | false =>
      rw [if_neg (by decide)]
      obtain ⟨hcalm, haff⟩ := uRegRsp_spec c (s.begun tsbk) tsbk.srcId tsbk.sysId
      have hdemands : ((s.begun tsbk).registering c tsbk.srcId tsbk.sysId).llaDemandTable = s.llaDemandTable := by
        unfold registering
        split <;> rfl
      refine ⟨hcalm.demands.trans hdemands, fun u => ?_⟩
      rw [haff, isUnitReg_registering]
      exact or_congr_right (and_congr_right fun _ => (and_iff_right rfl).symm)

/-- **A registration request** is answered with a demand, and registers nobody. -/
theorem process_uReg {c : Settings} {tsbk : TSBKObject} (hcontrol : c.enableControl = true)
    (hlla : c.requireLLAForReg = true) (hlco : tsbk.lco = TSBK_IOSP_U_REG) (rnd rnd' : UInt32) (permitted : Bool) :
    (s.process c rnd rnd' permitted tsbk).llaDemandTable =
        s.llaDemandTable.insert tsbk.srcId (challengeOf (demandOctets rnd rnd')) ∧
      ∀ u, (s.process c rnd rnd' permitted tsbk).affiliations.isUnitReg u = true →
        s.affiliations.isUnitReg u = true := by
  obtain ⟨rfState, heq⟩ := process_eq c s rnd rnd' permitted tsbk hcontrol
  rw [heq, dispatch_uReg _ hlco, processUReg_eq _ hcontrol hlla]
  have hack : Calm (s.begun tsbk) (if c.ackTSBKRequests then
      (s.begun tsbk).writeRfTsduAckFne c tsbk.srcId TSBK_IOSP_U_REG true else s.begun tsbk) :=
    calm_acked c _ tsbk.srcId TSBK_IOSP_U_REG
  generalize (if c.ackTSBKRequests then
      (s.begun tsbk).writeRfTsduAckFne c tsbk.srcId TSBK_IOSP_U_REG true else s.begun tsbk) = t at hack ⊢
  have hdmd : (t.writeRfTsduAuthDmd c rnd rnd' tsbk.srcId).llaDemandTable =
        t.llaDemandTable.insert tsbk.srcId (challengeOf (demandOctets rnd rnd')) ∧
      (t.writeRfTsduAuthDmd c rnd rnd' tsbk.srcId).affiliations = t.affiliations := by
    unfold writeRfTsduAuthDmd writeRfTsduAmbt
    split
    · exact ⟨rfl, rfl⟩
    · split <;> exact ⟨rfl, rfl⟩
  refine ⟨?_, fun u hu => hack.registered u ?_⟩
  · refine hdmd.1.trans ?_
    rw [hack.demands]
    rfl
  · rw [← hdmd.2]
    exact hu

/-! ## Every call is fair -/

theorem fair_bind {s : ControlSignaling} {r : Except ControlSignaling ControlSignaling}
    {f : ControlSignaling → Except ControlSignaling ControlSignaling} (h : Calm s (left r))
    (hf : ∀ s', Fair s' (left (f s'))) : Fair s (left (r >>= f)) := by
  cases r with
  | error s' => exact h.toFair
  | ok s' => exact h.toFair.trans (hf s')

theorem fair_registering (srcId sysId : UInt32) : Fair s (s.registering c srcId sysId) := by
  unfold registering
  split
  · exact ⟨.refl _, .refl _, fun h => h.of_sameGrants (AffiliationLookup.unitReg_sameGrants _ _)⟩
  · exact (Calm.refl s).toFair

theorem fair_uRegRsp (srcId sysId : UInt32) : Fair s (s.writeRfTsduURegRsp c srcId sysId) :=
  (fair_registering c s srcId sysId).trans (uRegRsp_spec c s srcId sysId).1.toFair

theorem fair_authDmd (rnd rnd' srcId : UInt32) : Fair s (s.writeRfTsduAuthDmd c rnd rnd' srcId) := by
  unfold writeRfTsduAuthDmd writeRfTsduAmbt
  split
  · exact ⟨.refl _, .refl _, fun h => h⟩
  split
  · exact ⟨.refl _, .refl _, fun h => h⟩
  · refine ⟨⟨_, rfl, fun x hx hgrant => ?_⟩, .refl _, fun h => h⟩
    rw [List.mem_singleton.mp hx] at hgrant
    exact absurd (show TSBKClass.MBT_OSP_AUTH_DMD.lco ∈ grantOpcodes from hgrant) (by decide)

theorem fair_dispatch (rnd rnd' : UInt32) (permitted : Bool) (tsbk : TSBKObject) :
    Fair s (left (s.dispatch c rnd rnd' permitted tsbk)) := by
  by_cases hreg : tsbk.lco = TSBK_IOSP_U_REG
  · rw [dispatch_uReg s hreg]
    refine fair_bind (calm_isSupportControlCheck c s _ _) fun s => ?_
    have hacked := (calm_acked c s tsbk.srcId TSBK_IOSP_U_REG).toFair
    dsimp only
    generalize (if c.ackTSBKRequests then s.writeRfTsduAckFne c tsbk.srcId TSBK_IOSP_U_REG true else s) = t
      at hacked ⊢
    refine hacked.trans ?_
    split
    · exact fair_authDmd c t rnd rnd' tsbk.srcId
    · exact fair_uRegRsp c t tsbk.srcId tsbk.sysId
  by_cases hauth : tsbk.lco = TSBK_ISP_AUTH_RESP
  · rw [dispatch_authResp s hauth]
    refine fair_bind (calm_isSupportControlCheck c s _ _) fun s => ?_
    split
    · exact fair_uRegRsp c s tsbk.srcId tsbk.sysId
    · exact (calm_deny c s _ _ _ _).toFair
  · exact (calm_dispatch c s rnd rnd' permitted hreg hauth).toFair

/-- **Every call is fair.** -/
theorem fair_exec (op : Op) : Fair s (s.exec c op) := by
  cases op with
  | rf tsbk rnd rnd' permitted =>
      unfold exec
      dsimp only
      cases hcontrol : c.enableControl with
      | false =>
          unfold process
          rw [if_pos (by simp [hcontrol])]
          exact (Calm.refl s).toFair
      | true =>
          obtain ⟨rfState, heq⟩ := process_eq c s rnd rnd' permitted tsbk hcontrol
          rw [heq]
          have h := (calm_begun s tsbk).toFair.trans (fair_dispatch c _ rnd rnd' permitted tsbk)
          exact ⟨h.sent, h.settled, h.numbered⟩
  | net | grant | grantUpdate | callTerm | releaseGrant | touchGrant | clock | traffic | lookups =>
      exact (calm_exec c s fun _ _ _ _ h => by cases h).toFair

/-! ## A site for examples -/

/-- A trunked site that is its own authority, with a cipher that leaves the block as it is. -/
def trunkingSite : Settings where
  enableControl := true
  duplex := true
  authoritative := true
  supervisor := false
  dedicatedControl := true
  voiceOnControl := false
  disableNetworkGrant := false
  ackTSBKRequests := true
  inhibitUnauth := false
  verifyReg := true
  verifyAff := false
  requireLLAForReg := false
  unitToUnitAvailCheck := true
  sndcpChGrant := false
  noStatusAck := false
  noMessageAck := false
  disableGrantSrcIdCheck := false
  redundantGrant := false
  redundantImmediate := true
  announcementGroup := 0xFFFE
  siteData := SiteData.default
  rfChData := ∅
  llaKS := fun _ => 0x00
  encryptECB := fun block _ => block

/-- Lists that refuse nobody. -/
def openAccess : AccessControl where
  ridLookup := { m_table := ∅ }
  ridACL := false
  tidLookup := {}
  tidACL := false

end ControlSignaling

end P25

end DvmHost

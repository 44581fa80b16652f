import DvmHost.Common.Defines
import DvmHost.Common.Lookups.AffiliationLookup
import DvmHost.Common.Acl.AccessControl
import DvmHost.Common.P25.Lc.Tsbk.TSBKClasses

/-!
# `Host.P25.Packet.ControlSignaling` — the trunking signalling of a P25 site

`src/host/p25/packet/ControlSignaling.{h,cpp}`, with the members of `p25::Control` that it works on: what the site does
with a trunking message from a radio (`process`) or from the network (`processNetwork`), the grants of channels and
their updates.

A message that is written for the air is entered in `sent` together with the affiliation tables as they stand there.
Whether it goes out in a block of its own or as one of three is left out, as are the copies for the network, the
tables of neighbouring sites that `processNetwork` keeps, and the log. The callbacks over REST are one answer each,
random numbers are arguments, and AES is a parameter.
-/

namespace DvmHost

open Lib

namespace P25

/-! ## Constants -/

/-- `P25_TGID_ALL`. -/
def P25_TGID_ALL : UInt32 := 0xFFFF

/-- `P25_RSP_ACCEPT`. -/
def P25_RSP_ACCEPT : UInt8 := 0x00

/-- `P25_RSP_DENY`. -/
def P25_RSP_DENY : UInt8 := 0x02

/-- `P25_RSP_REFUSED`. -/
def P25_RSP_REFUSED : UInt8 := 0x03

/-- `P25_ANS_RSP_PROCEED`. -/
def P25_ANS_RSP_PROCEED : UInt8 := 0x20

/-- `P25_ANS_RSP_DENY`. -/
def P25_ANS_RSP_DENY : UInt8 := 0x21

/-- `P25_ANS_RSP_WAIT`. -/
def P25_ANS_RSP_WAIT : UInt8 := 0x22

/-- `P25_DENY_RSN_REQ_UNIT_NOT_VALID`. -/
def P25_DENY_RSN_REQ_UNIT_NOT_VALID : UInt8 := 0x10

/-- `P25_DENY_RSN_REQ_UNIT_NOT_AUTH`. -/
def P25_DENY_RSN_REQ_UNIT_NOT_AUTH : UInt8 := 0x11

/-- `P25_DENY_RSN_TGT_UNIT_NOT_VALID`. -/
def P25_DENY_RSN_TGT_UNIT_NOT_VALID : UInt8 := 0x20

/-- `P25_DENY_RSN_SU_FAILED_AUTH`. -/
def P25_DENY_RSN_SU_FAILED_AUTH : UInt8 := 0x22

/-- `P25_DENY_RSN_TGT_UNIT_REFUSED`. -/
def P25_DENY_RSN_TGT_UNIT_REFUSED : UInt8 := 0x2F

/-- `P25_DENY_RSN_TGT_GROUP_NOT_VALID`. -/
def P25_DENY_RSN_TGT_GROUP_NOT_VALID : UInt8 := 0x30

/-- `P25_DENY_RSN_PTT_COLLIDE`. -/
def P25_DENY_RSN_PTT_COLLIDE : UInt8 := 0x67

/-- `P25_DENY_RSN_PTT_BONK`. -/
def P25_DENY_RSN_PTT_BONK : UInt8 := 0x77

/-- `P25_DENY_RSN_SYS_UNSUPPORTED_SVC`. -/
def P25_DENY_RSN_SYS_UNSUPPORTED_SVC : UInt8 := 0xFF

/-- `P25_QUE_RSN_TGT_UNIT_QUEUED`. -/
def P25_QUE_RSN_TGT_UNIT_QUEUED : UInt8 := 0x2F

/-- `P25_QUE_RSN_CHN_RESOURCE_NOT_AVAIL`. -/
def P25_QUE_RSN_CHN_RESOURCE_NOT_AVAIL : UInt8 := 0x40

/-- `P25_EXT_FNCT_INHIBIT`. -/
def P25_EXT_FNCT_INHIBIT : UInt32 := 0x007F

/-- `P25_AUTH_RES_LENGTH_BYTES`. -/
abbrev P25_AUTH_RES_LENGTH_BYTES : Nat := 4

/-- `P25_AUTH_RAND_CHLNG_LENGTH_BYTES`. -/
abbrev P25_AUTH_RAND_CHLNG_LENGTH_BYTES : Nat := 5

/-- `GRANT_TIMER_TIMEOUT`. -/
def GRANT_TIMER_TIMEOUT : UInt32 := 15

/-! ## The state -/

/-- `class VoiceChData`, with the address for the two tests that are made of it. -/
structure VoiceChData where
  chId : UInt8 := 0
  chNo : UInt32 := 0
  addressEmpty : Bool := true
  port : UInt16 := 0

/-- The options of a site that signalling reads, and its parameters: the data of the channels, the key, and the
    block function of AES-128. -/
structure Settings where
  enableControl : Bool
  duplex : Bool
  authoritative : Bool
  supervisor : Bool
  dedicatedControl : Bool
  voiceOnControl : Bool
  disableNetworkGrant : Bool
  ackTSBKRequests : Bool
  inhibitUnauth : Bool
  verifyReg : Bool
  verifyAff : Bool
  requireLLAForReg : Bool
  unitToUnitAvailCheck : Bool
  sndcpChGrant : Bool
  noStatusAck : Bool
  noMessageAck : Bool
  disableGrantSrcIdCheck : Bool
  redundantGrant : Bool
  redundantImmediate : Bool
  announcementGroup : UInt32
  siteData : SiteData
  rfChData : UnorderedMap UInt32 VoiceChData
  llaKS : Bytes
  encryptECB : Bytes → Bytes → Bytes

/-- A message on its way to the air, and the tables when it was written. -/
structure Sent where
  pdu : TSBKObject
  affiliations : AffiliationLookup

/-- A channel request that is left to the network. -/
structure GrantReq where
  srcId : UInt32
  dstId : UInt32
  unitToUnit : Bool

/-- A permit that was asked of the channel it is for, the answer, and the tables once it was dealt with. -/
structure PermitReq where
  chNo : UInt32
  dstId : UInt32
  permitted : Bool
  affiliations : AffiliationLookup

/-- The members of `ControlSignaling` and of `Control` that change. -/
structure ControlSignaling where
  acl : AccessControl
  rfState : RPT_RF_STATE := .RS_RF_LISTENING
  netState : RPT_NET_STATE := .RS_NET_IDLE
  rfLastDstId : UInt32 := 0
  netLastDstId : UInt32 := 0
  rfTGHang : Timer := default
  networkWatchdog : Timer := default
  affiliations : AffiliationLookup := .new
  llaDemandTable : UnorderedMap UInt32 UInt64 := ∅
  lastMFID : UInt8 := P25_MFG_STANDARD
  mbfGrpGrntCnt : UInt8 := 0
  sent : List Sent := []
  grantReqs : List GrantReq := []
  permitReqs : List PermitReq := []

/-- `getRFChData`. -/
def Settings.getRFChData (c : Settings) (chNo : UInt32) : VoiceChData :=
  if chNo = 0 then {} else (c.rfChData.lookup chNo).getD {}

namespace ControlSignaling

variable (c : Settings)

/-! ## Writing messages -/

/-- `writeRF_TSDU_SBF`: every way out of it needs a duplex site. An immediate message may be queued twice. -/
def writeRfTsduSbf (s : ControlSignaling) (tsbk : TSBKObject) (imm : Bool) : ControlSignaling :=
  if !c.enableControl then s
  else if !c.duplex then s
  else
    let frame : Sent := ⟨{ tsbk with lastBlock := true }, s.affiliations⟩
    { s with sent := s.sent ++ if imm && c.redundantImmediate then [frame, frame] else [frame] }

/-- `writeRF_TSDU_AMBT`. -/
def writeRfTsduAmbt (s : ControlSignaling) (ambt : TSBKObject) : ControlSignaling :=
  if !c.enableControl then s
  else if !c.duplex then s
  else { s with sent := s.sent ++ [⟨{ ambt with lastBlock := true }, s.affiliations⟩] }

/-- `writeNet_TSDU`. -/
def writeNetTsdu (s : ControlSignaling) (tsbk : TSBKObject) : ControlSignaling :=
  { s with sent := s.sent ++ [⟨{ tsbk with lastBlock := true }, s.affiliations⟩] }

/-- `writeRF_TSDU_ACK_FNE`. -/
def writeRfTsduAckFne (s : ControlSignaling) (srcId : UInt32) (service : UInt8) (extended : Bool) :
    ControlSignaling :=
  let iosp := { TSBKClass.IOSP_ACK_RSP.new with srcId := srcId, service := service }
  let iosp := if extended then { iosp with aivFlag := true, extendedAddrFlag := true } else iosp
  s.writeRfTsduSbf c iosp true

/-- `writeRF_TSDU_Deny`, without additional information, as everywhere. -/
def writeRfTsduDeny (s : ControlSignaling) (srcId dstId : UInt32) (reason service : UInt8) : ControlSignaling :=
  s.writeRfTsduSbf c { TSBKClass.OSP_DENY_RSP.new with
    aivFlag := false, srcId := srcId, dstId := dstId, service := service, response := reason } true

/-- `writeRF_TSDU_Queue`. -/
def writeRfTsduQueue (s : ControlSignaling) (srcId dstId : UInt32) (reason service : UInt8) (grp : Bool) :
    ControlSignaling :=
  s.writeRfTsduSbf c { TSBKClass.OSP_QUE_RSP.new with
    aivFlag := false, srcId := srcId, dstId := dstId, service := service, response := reason, group := grp } true

/-- `writeRF_TSDU_UU_Ans_Req`. -/
def writeRfTsduUuAnsReq (s : ControlSignaling) (srcId dstId : UInt32) : ControlSignaling :=
  s.writeRfTsduSbf c { TSBKClass.IOSP_UU_ANS.new with mfId := s.lastMFID, srcId := srcId, dstId := dstId } true

/-- `writeRF_TSDU_Radio_Mon`. -/
def writeRfTsduRadioMon (s : ControlSignaling) (srcId dstId : UInt32) (txMult : UInt8) : ControlSignaling :=
  s.writeRfTsduSbf c { TSBKClass.IOSP_RAD_MON.new with srcId := srcId, dstId := dstId, txMult := txMult } false

/-- `writeRF_TSDU_Call_Alrt`. -/
def writeRfTsduCallAlrt (s : ControlSignaling) (srcId dstId : UInt32) : ControlSignaling :=
  s.writeRfTsduSbf c { TSBKClass.IOSP_CALL_ALRT.new with srcId := srcId, dstId := dstId } false

/-- `writeRF_TSDU_Ext_Func`. -/
def writeRfTsduExtFunc (s : ControlSignaling) (func arg dstId : UInt32) : ControlSignaling :=
  s.writeRfTsduSbf c { TSBKClass.IOSP_EXT_FNCT.new with
    extendedFunction := func, srcId := arg, dstId := dstId } false

/-- `writeRF_TSDU_U_Reg_Cmd`. -/
def writeRfTsduURegCmd (s : ControlSignaling) (dstId : UInt32) : ControlSignaling :=
  s.writeRfTsduSbf c { TSBKClass.OSP_U_REG_CMD.new with srcId := P25_WUID_FNE, dstId := dstId } false

/-- `denialInhibit`. -/
def denialInhibit (s : ControlSignaling) (srcId : UInt32) : ControlSignaling :=
  if !c.inhibitUnauth then s
  else if !s.acl.validateSrcId srcId then s.writeRfTsduExtFunc c P25_EXT_FNCT_INHIBIT P25_WUID_FNE srcId
  else s

/-! ## Registration and affiliation -/

/-- `writeRF_TSDU_Grp_Aff_Rsp`: a later refusal replaces an earlier one. -/
def writeRfTsduGrpAffRsp (s : ControlSignaling) (srcId dstId : UInt32) : Bool × ControlSignaling :=
  let response := P25_RSP_ACCEPT
  let response := if !s.acl.validateSrcId srcId then P25_RSP_REFUSED else response
  let response := if !s.affiliations.isUnitReg srcId && c.verifyReg then P25_RSP_REFUSED else response
  let response := if dstId ≠ 0 ∧ !s.acl.validateTGId dstId then P25_RSP_DENY else response
  let iosp := { TSBKClass.IOSP_GRP_AFF.new with
    mfId := s.lastMFID, announceGroup := c.announcementGroup, srcId := srcId, dstId := dstId, response := response }
  if response = P25_RSP_ACCEPT then
    (true, { s with affiliations := s.affiliations.groupAff srcId dstId }.writeRfTsduSbf c iosp true)
  else (false, s.writeRfTsduSbf c iosp true)

/-- The answer of `writeRF_TSDU_U_Reg_Rsp`. -/
def uRegResponse (s : ControlSignaling) (srcId sysId : UInt32) : UInt8 :=
  let response := P25_RSP_ACCEPT
  let response := if sysId ≠ c.siteData.sysId then P25_RSP_DENY else response
  if !s.acl.validateSrcId srcId then P25_RSP_REFUSED else response

/-- `writeRF_TSDU_U_Reg_Rsp`: the one place where a unit is registered. -/
def writeRfTsduURegRsp (s : ControlSignaling) (srcId sysId : UInt32) : ControlSignaling :=
  let response := s.uRegResponse c srcId sysId
  let iosp := { TSBKClass.IOSP_U_REG.new with
    mfId := s.lastMFID, response := response, srcId := srcId, dstId := srcId }
  let s :=
    if response = P25_RSP_ACCEPT then
      if !s.affiliations.isUnitReg srcId then { s with affiliations := s.affiliations.unitReg srcId } else s
    else s
  let s := s.writeRfTsduSbf c iosp true
  if !s.acl.validateSrcId srcId then s.denialInhibit c srcId else s

/-- `writeRF_TSDU_U_Dereg_Ack`. -/
def writeRfTsduUDeregAck (s : ControlSignaling) (srcId : UInt32) : ControlSignaling :=
  let (dereged, affiliations) := s.affiliations.unitDereg srcId
  let s := { s with affiliations := affiliations }
  if dereged then
    s.writeRfTsduSbf c { TSBKClass.OSP_U_DEREG_ACK.new with
      mfId := s.lastMFID, srcId := P25_WUID_FNE, dstId := srcId } true
  else s

/-- `writeRF_TSDU_Loc_Reg_Rsp`. -/
def writeRfTsduLocRegRsp (s : ControlSignaling) (srcId dstId : UInt32) (grp : Bool) : ControlSignaling :=
  let response := P25_RSP_ACCEPT
  let response := if !s.acl.validateSrcId srcId then P25_RSP_REFUSED else response
  if !s.affiliations.isUnitReg srcId then s.writeRfTsduURegCmd c srcId
  else
    let response := if grp ∧ dstId ≠ 0 ∧ !s.acl.validateTGId dstId then P25_RSP_DENY else response
    s.writeRfTsduSbf c { TSBKClass.OSP_LOC_REG_RSP.new with
      mfId := s.lastMFID, response := response, dstId := dstId, srcId := srcId } true

/-! ## Link layer authentication -/

/-- The octets `RC` of a demand, from two random numbers. -/
def demandOctets (rnd rnd' : UInt32) : Bytes :=
  setByte (setUInt32 rnd (fun _ => 0x00) 0) 4 (rnd' &&& 0xFF).toUInt8

/-- The number that the table keeps of `RC`: the word of its first four octets is an `int`, and so its sign is
    extended before the shift. -/
def challengeOf (RC : Bytes) : UInt64 :=
  let challenge := UInt64.ofBitVec (((getUInt32 0).value RC).toBitVec.signExtend 64)
  challenge <<< (8 : UInt64) + (RC 4).toUInt64

/-- The octets `RC` that a response is checked against. -/
def challengeOctets (challenge : UInt64) : Bytes :=
  setByte (setUInt32 (challenge >>> (8 : UInt64)).toUInt32 (fun _ => 0x00) 0) 4 (challenge &&& 0xFF).toUInt8

/-- `expandedRAND1`. -/
def expandedRAND1 (RC : Bytes) : Bytes := fun i => if i < P25_AUTH_RAND_CHLNG_LENGTH_BYTES then RC i else 0x00

/-- `writeRF_TSDU_Auth_Dmd`. -/
def writeRfTsduAuthDmd (s : ControlSignaling) (rnd rnd' srcId : UInt32) : ControlSignaling :=
  let RC := demandOctets rnd rnd'
  let osp := { TSBKClass.MBT_OSP_AUTH_DMD.new with
    srcId := P25_WUID_FNE, dstId := srcId, authRC := (List.range P25_AUTH_RAND_CHLNG_LENGTH_BYTES).map RC }
  { s with llaDemandTable := s.llaDemandTable.insert srcId (challengeOf RC) }.writeRfTsduAmbt c osp

/-- The challenge of a unit: `0` for a unit that has none. -/
def challengeFor (s : ControlSignaling) (srcId : UInt32) : UInt64 := (s.llaDemandTable.lookup srcId).getD 0

/-- `XRES1`. -/
def expectedRes (RC : Bytes) : Bytes := c.encryptECB (expandedRAND1 RC) c.llaKS

/-- The comparison of `RES1` with `XRES1`: `authFailed`. -/
def authFailed (s : ControlSignaling) (srcId : UInt32) (RES1 : List UInt8) : Bool :=
  let XRES1 := expectedRes c (challengeOctets (s.challengeFor srcId))
  (List.range P25_AUTH_RES_LENGTH_BYTES).any fun i => XRES1 i ≠ RES1.getD i 0

/-! ## Grants -/

/-- The opcode that a denied or queued voice request is answered with. -/
def voiceService (grp : Bool) : UInt8 := if grp then TSBK_IOSP_GRP_VCH else TSBK_IOSP_UU_VCH

/-- A voice request that is not granted: a radio is told so. -/
def refuseGrant (s : ControlSignaling) (srcId dstId : UInt32) (grp net : Bool) (reason : UInt8) : ControlSignaling :=
  if !net then
    { s.writeRfTsduDeny c srcId dstId reason (voiceService grp) with rfState := .RS_RF_REJECTED }
  else s

/-- A voice request without a free channel: a radio is told to wait. -/
def queueGrant (s : ControlSignaling) (srcId dstId : UInt32) (grp net : Bool) : ControlSignaling :=
  if !net then
    { s.writeRfTsduQueue c srcId dstId P25_QUE_RSN_CHN_RESOURCE_NOT_AVAIL (voiceService grp) true with
      rfState := .RS_RF_REJECTED }
  else s

/-- The first part of `writeRF_TSDU_Grant`: the channel, or the state in which it returns false. -/
def grantChannel (s : ControlSignaling) (srcId dstId : UInt32) (grp net skip : Bool) (chNo : UInt32) :
    Except ControlSignaling (UInt32 × ControlSignaling) :=
  if !skip then
    if s.rfState ≠ .RS_RF_LISTENING ∧ s.rfState ≠ .RS_RF_DATA then
      .error (s.refuseGrant c srcId dstId grp net P25_DENY_RSN_PTT_COLLIDE)
    else if !c.dedicatedControl ∧ s.netState ≠ .RS_NET_IDLE ∧ dstId = s.netLastDstId then
      .error (s.refuseGrant c srcId dstId grp net P25_DENY_RSN_PTT_COLLIDE)
    else if !c.dedicatedControl ∧ s.rfLastDstId ≠ 0 ∧ s.rfLastDstId ≠ dstId ∧
        s.rfTGHang.isRunning ∧ !s.rfTGHang.hasExpired then
      .error (s.refuseGrant c srcId dstId grp net P25_DENY_RSN_PTT_BONK)
    else if !s.affiliations.isGranted dstId then
      if !s.affiliations.isRFChAvailable then .error (s.queueGrant c srcId dstId grp net)
      else
        let (granted, affiliations) := s.affiliations.grantCh dstId srcId GRANT_TIMER_TIMEOUT grp net
        .ok (if granted then affiliations.getGrantedCh dstId else chNo, { s with affiliations := affiliations })
    else if !c.disableGrantSrcIdCheck ∧ !net ∧ srcId ≠ s.affiliations.getGrantedSrcId dstId then
      .error (s.refuseGrant c srcId dstId grp net P25_DENY_RSN_PTT_COLLIDE)
    else
      .ok (s.affiliations.getGrantedCh dstId, { s with affiliations := s.affiliations.touchGrant dstId })
  else if s.affiliations.isGranted dstId then
    .ok (s.affiliations.getGrantedCh dstId, { s with affiliations := s.affiliations.touchGrant dstId })
  else .error s

/-- Whether the channel is one that has to permit the talkgroup first. -/
def permitNeeded (chNo : UInt32) : Bool :=
  let voiceChData := c.getRFChData chNo
  c.authoritative && c.supervisor &&
    decide (voiceChData.chNo ≠ 0 ∧ !voiceChData.addressEmpty ∧ voiceChData.port > 0 ∧ chNo ≠ c.siteData.channelNo)

/-- The grant of a channel, which is written once more three times where redundant grants are on. -/
def writeGrant (s : ControlSignaling) (srcId dstId : UInt32) (serviceOptions : UInt8) (grp : Bool) (chNo : UInt32) :
    ControlSignaling :=
  let cls := if grp then TSBKClass.IOSP_GRP_VCH else TSBKClass.IOSP_UU_VCH
  let iosp := { cls.new with
    mfId := s.lastMFID, srcId := srcId, dstId := dstId
    grpVchId := (c.getRFChData chNo).chId, grpVchNo := chNo
    emergency := decide (serviceOptions &&& 0x80 = 0x80)
    encrypted := decide (serviceOptions &&& 0x40 = 0x40)
    priority := serviceOptions &&& 0x07 }
  let s := s.writeRfTsduSbf c iosp true
  if c.redundantGrant then
    ((s.writeRfTsduSbf c iosp false).writeRfTsduSbf c iosp false).writeRfTsduSbf c iosp false
  else s

/-- The second part of `writeRF_TSDU_Grant`, once it has a channel; `permitted` is the answer of that channel. -/
def confirmGrant (s : ControlSignaling) (permitted : Bool) (srcId dstId : UInt32) (serviceOptions : UInt8)
    (grp net : Bool) (chNo : UInt32) : Bool × ControlSignaling :=
  if chNo > 0 then
    if permitNeeded c chNo then
      let affiliations := if !permitted then (s.affiliations.releaseGrant dstId false).2 else s.affiliations
      let s := { s with
        affiliations := affiliations
        permitReqs := s.permitReqs ++ [PermitReq.mk chNo dstId permitted affiliations] }
      if !permitted then (false, s.refuseGrant c srcId dstId grp net P25_DENY_RSN_PTT_BONK)
      else (true, s.writeGrant c srcId dstId serviceOptions grp chNo)
    else (true, s.writeGrant c srcId dstId serviceOptions grp chNo)
  else (true, s)

/-- `writeRF_TSDU_Grant`. No caller passes a channel, and the default is `0`. -/
def writeRfTsduGrant (s : ControlSignaling) (permitted : Bool) (srcId dstId : UInt32) (serviceOptions : UInt8)
    (grp net skip : Bool) : Bool × ControlSignaling :=
  if dstId = P25_TGID_ALL then (true, s)
  else if c.disableNetworkGrant ∧ s.netState ≠ .RS_NET_IDLE ∧ dstId = s.netLastDstId then
    (false, s.refuseGrant c srcId dstId grp false P25_DENY_RSN_PTT_COLLIDE)
  else
    let s :=
      if c.disableNetworkGrant ∧ s.networkWatchdog.isRunning then
        { s with networkWatchdog := s.networkWatchdog.stop }
      else s
    match s.grantChannel c srcId dstId grp net skip 0 with
    | .error s => (false, s)
    | .ok (chNo, s) => s.confirmGrant c permitted srcId dstId serviceOptions grp net chNo

/-- `writeRF_TSDU_Grant_Update`: the entry of the table that the counter is at. -/
def writeRfTsduGrantUpdate (s : ControlSignaling) : ControlSignaling :=
  if c.voiceOnControl then s
  else if s.affiliations.grantSize > 0 then
    let s := if s.mbfGrpGrntCnt ≥ s.affiliations.grantSize then { s with mbfGrpGrntCnt := 0 } else s
    match s.affiliations.grantChTable.entries[s.mbfGrpGrntCnt.toNat]? with
    | none => s
    | some ⟨dstId, chNo⟩ =>
        let s := { s with mbfGrpGrntCnt := s.mbfGrpGrntCnt + 1 }
        let chId := (c.getRFChData chNo).chId
        if chNo = 0 then s
        else if s.affiliations.isGroup dstId then
          s.writeRfTsduSbf c { TSBKClass.OSP_GRP_VCH_GRANT_UPD.new with
            dstId := dstId, grpVchId := chId, grpVchNo := chNo } true
        else
          s.writeRfTsduSbf c { TSBKClass.OSP_UU_VCH_GRANT_UPD.new with
            srcId := s.affiliations.getGrantedSrcId dstId, dstId := dstId, grpVchId := chId, grpVchNo := chNo } true
  else s

/-- A data channel request without a free channel, or during traffic. -/
def queueSndcpGrant (s : ControlSignaling) (srcId dstId : UInt32) (net : Bool) : ControlSignaling :=
  if !net then
    { s.writeRfTsduQueue c srcId dstId P25_QUE_RSN_CHN_RESOURCE_NOT_AVAIL TSBK_ISP_SNDCP_CH_REQ true with
      rfState := .RS_RF_REJECTED }
  else s

/-- `writeRF_TSDU_SNDCP_Grant`: the destination of the channel is the source of the request. -/
def writeRfTsduSndcpGrant (s : ControlSignaling) (srcId dstId : UInt32) (skip net : Bool) : Bool × ControlSignaling :=
  let osp := { TSBKClass.OSP_SNDCP_CH_GNT.new with mfId := s.lastMFID, srcId := srcId, dstId := dstId }
  let withChannel (chNo : UInt32) : TSBKObject :=
    { osp with grpVchId := (c.getRFChData chNo).chId, grpVchNo := chNo, dataChannelNo := chNo }
  if dstId = P25_TGID_ALL then (true, s)
  else if skip then (true, s.writeRfTsduSbf c osp false)
  else if s.rfState ≠ .RS_RF_LISTENING ∧ s.rfState ≠ .RS_RF_DATA then (false, s.queueSndcpGrant c srcId dstId net)
  else if !s.affiliations.isGranted srcId then
    if !s.affiliations.isRFChAvailable then (false, s.queueSndcpGrant c srcId dstId net)
    else
      let (granted, affiliations) := s.affiliations.grantCh srcId srcId GRANT_TIMER_TIMEOUT false net
      let osp := if granted then withChannel (affiliations.getGrantedCh srcId) else osp
      (true, { s with affiliations := affiliations }.writeRfTsduSbf c osp false)
  else
    (true, { s with affiliations := s.affiliations.touchGrant srcId }.writeRfTsduSbf c
      (withChannel (s.affiliations.getGrantedCh srcId)) false)

/-- `writeNet_TSDU_Call_Term`. -/
def writeNetTsduCallTerm (s : ControlSignaling) (srcId dstId : UInt32) : ControlSignaling :=
  let s :=
    if s.affiliations.isGranted dstId then
      { s with affiliations := (s.affiliations.releaseGrant dstId false).2 }
    else s
  s.writeRfTsduSbf c { TSBKClass.OSP_DVM_LC_CALL_TERM.new with
    grpVchId := c.siteData.channelId, grpVchNo := c.siteData.channelNo, dstId := dstId, srcId := srcId } false

/-! ## Messages from a radio

A check that fails leaves `process` at once, with the RF state rejected: an `error` is the state then. -/

/-- `IS_SUPPORT_CONTROL_CHECK`. -/
def isSupportControlCheck (s : ControlSignaling) (service : UInt8) (srcId : UInt32) :
    Except ControlSignaling ControlSignaling :=
  if !c.enableControl then
    .error { s.writeRfTsduDeny c P25_WUID_FNE srcId P25_DENY_RSN_SYS_UNSUPPORTED_SVC service with
      rfState := .RS_RF_REJECTED }
  else .ok s

/-- `VALID_SRCID`. -/
def validSrcId (s : ControlSignaling) (service : UInt8) (srcId : UInt32) : Except ControlSignaling ControlSignaling :=
  if !s.acl.validateSrcId srcId then
    .error { (s.writeRfTsduDeny c P25_WUID_FNE srcId P25_DENY_RSN_REQ_UNIT_NOT_VALID service).denialInhibit c srcId
      with rfState := .RS_RF_REJECTED }
  else .ok s

/-- `VALID_DSTID`. -/
def validDstId (s : ControlSignaling) (service : UInt8) (srcId dstId : UInt32) :
    Except ControlSignaling ControlSignaling :=
  if !s.acl.validateSrcId dstId then
    .error { s.writeRfTsduDeny c srcId dstId P25_DENY_RSN_TGT_UNIT_NOT_VALID service with
      rfState := .RS_RF_REJECTED }
  else .ok s

/-- `VALID_TGID`. -/
def validTgId (s : ControlSignaling) (service : UInt8) (srcId dstId : UInt32) :
    Except ControlSignaling ControlSignaling :=
  if !s.acl.validateTGId dstId then
    .error { s.writeRfTsduDeny c srcId dstId P25_DENY_RSN_TGT_GROUP_NOT_VALID service with
      rfState := .RS_RF_REJECTED }
  else .ok s

/-- `VERIFY_SRCID_REG`. -/
def verifySrcIdReg (s : ControlSignaling) (service : UInt8) (srcId : UInt32) :
    Except ControlSignaling ControlSignaling :=
  if !s.affiliations.isUnitReg srcId && c.verifyReg then
    .error { (s.writeRfTsduDeny c P25_WUID_FNE srcId P25_DENY_RSN_REQ_UNIT_NOT_AUTH service).writeRfTsduURegCmd c
      srcId with rfState := .RS_RF_REJECTED }
  else .ok s

/-- `VERIFY_SRCID_AFF`. -/
def verifySrcIdAff (s : ControlSignaling) (service : UInt8) (srcId dstId : UInt32) :
    Except ControlSignaling ControlSignaling :=
  if !s.affiliations.isGroupAff srcId dstId && c.verifyAff then
    .error { (s.writeRfTsduDeny c srcId dstId P25_DENY_RSN_REQ_UNIT_NOT_AUTH service).writeRfTsduURegCmd c srcId
      with rfState := .RS_RF_REJECTED }
  else .ok s

/-- The service options of a voice request. -/
def serviceOptionsOf (tsbk : TSBKObject) : UInt8 :=
  (if tsbk.emergency then 0x80 else 0x00) + (if tsbk.encrypted then 0x40 else 0x00) + (tsbk.priority &&& 0x07)

/-- A voice request that passed its checks: granted here, or asked of the network. -/
def requestGrant (s : ControlSignaling) (permitted : Bool) (tsbk : TSBKObject) (grp : Bool) : ControlSignaling :=
  if c.authoritative then
    (s.writeRfTsduGrant c permitted tsbk.srcId tsbk.dstId (serviceOptionsOf tsbk) grp false false).2
  else { s with grantReqs := s.grantReqs ++ [⟨tsbk.srcId, tsbk.dstId, !grp⟩] }

/-- `TSBK_IOSP_GRP_VCH` in `process`. -/
def processGrpVch (s : ControlSignaling) (permitted : Bool) (tsbk : TSBKObject) :
    Except ControlSignaling ControlSignaling := do
  let s ← s.isSupportControlCheck c TSBK_IOSP_GRP_VCH tsbk.srcId
  let s ← s.validSrcId c TSBK_IOSP_GRP_VCH tsbk.srcId
  let s ← s.validTgId c TSBK_IOSP_GRP_VCH tsbk.srcId tsbk.dstId
  let s ← s.verifySrcIdAff c TSBK_IOSP_GRP_VCH tsbk.srcId tsbk.dstId
  .ok (s.requestGrant c permitted tsbk true)

/-- `TSBK_IOSP_UU_VCH` in `process`. -/
def processUuVch (s : ControlSignaling) (permitted : Bool) (tsbk : TSBKObject) :
    Except ControlSignaling ControlSignaling := do
  let s ← s.isSupportControlCheck c TSBK_IOSP_UU_VCH tsbk.srcId
  let s ← s.validSrcId c TSBK_IOSP_UU_VCH tsbk.srcId
  let s ← s.validDstId c TSBK_IOSP_UU_VCH tsbk.srcId tsbk.dstId
  let s ← s.verifySrcIdReg c TSBK_IOSP_UU_VCH tsbk.srcId
  if c.unitToUnitAvailCheck then .ok (s.writeRfTsduUuAnsReq c tsbk.srcId tsbk.dstId)
  else .ok (s.requestGrant c permitted tsbk false)

/-- `TSBK_IOSP_UU_ANS` in `process`. -/
def processUuAns (s : ControlSignaling) (permitted : Bool) (tsbk : TSBKObject) :
    Except ControlSignaling ControlSignaling := do
  let s ← s.isSupportControlCheck c TSBK_IOSP_UU_ANS tsbk.srcId
  let s ← s.validSrcId c TSBK_IOSP_UU_ANS tsbk.srcId
  let s ← s.validDstId c TSBK_IOSP_UU_ANS tsbk.srcId tsbk.dstId
  if tsbk.response = P25_ANS_RSP_PROCEED then .ok (s.requestGrant c permitted tsbk false)
  else if tsbk.response = P25_ANS_RSP_DENY then
    .ok (s.writeRfTsduDeny c P25_WUID_FNE tsbk.dstId P25_DENY_RSN_TGT_UNIT_REFUSED TSBK_IOSP_UU_ANS)
  else if tsbk.response = P25_ANS_RSP_WAIT then
    .ok (s.writeRfTsduQueue c P25_WUID_FNE tsbk.dstId P25_QUE_RSN_TGT_UNIT_QUEUED TSBK_IOSP_UU_ANS false)
  else .ok s

/-- `TSBK_IOSP_TELE_INT_ANS` in `process`. -/
def processTeleIntAns (s : ControlSignaling) (tsbk : TSBKObject) : Except ControlSignaling ControlSignaling := do
  let s ← s.isSupportControlCheck c TSBK_IOSP_TELE_INT_ANS tsbk.srcId
  let s ← s.validSrcId c TSBK_IOSP_TELE_INT_ANS tsbk.srcId
  .ok (s.writeRfTsduDeny c P25_WUID_FNE tsbk.srcId P25_DENY_RSN_SYS_UNSUPPORTED_SVC TSBK_IOSP_TELE_INT_ANS)

/-- `TSBK_ISP_SNDCP_CH_REQ` in `process`, whose call passes `false` for the source and for the destination. -/
def processSndcpChReq (s : ControlSignaling) (tsbk : TSBKObject) : Except ControlSignaling ControlSignaling := do
  let s ← s.isSupportControlCheck c TSBK_ISP_SNDCP_CH_REQ tsbk.srcId
  let s ← s.validSrcId c TSBK_ISP_SNDCP_CH_REQ tsbk.srcId
  if c.sndcpChGrant then .ok (s.writeRfTsduSndcpGrant c 0 0 false false).2
  else .ok (s.writeRfTsduDeny c P25_WUID_FNE tsbk.srcId P25_DENY_RSN_SYS_UNSUPPORTED_SVC TSBK_ISP_SNDCP_CH_REQ)

/-- `TSBK_IOSP_STS_UPDT` in `process`. -/
def processStsUpdt (s : ControlSignaling) (tsbk : TSBKObject) : Except ControlSignaling ControlSignaling := do
  let s ← s.validSrcId c TSBK_IOSP_STS_UPDT tsbk.srcId
  if !c.noStatusAck then .ok (s.writeRfTsduAckFne c tsbk.srcId TSBK_IOSP_STS_UPDT false) else .ok s

/-- `TSBK_IOSP_MSG_UPDT` in `process`. -/
def processMsgUpdt (s : ControlSignaling) (tsbk : TSBKObject) : Except ControlSignaling ControlSignaling := do
  let s ← s.validSrcId c TSBK_IOSP_MSG_UPDT tsbk.srcId
  if !c.noMessageAck then .ok (s.writeRfTsduAckFne c tsbk.srcId TSBK_IOSP_MSG_UPDT false) else .ok s

/-- `TSBK_IOSP_RAD_MON`, in `process` and in `processNetwork`. -/
def processRadMon (s : ControlSignaling) (tsbk : TSBKObject) : Except ControlSignaling ControlSignaling := do
  let s ← s.validSrcId c TSBK_IOSP_RAD_MON tsbk.srcId
  let s ← s.validDstId c TSBK_IOSP_RAD_MON tsbk.srcId tsbk.dstId
  .ok (s.writeRfTsduRadioMon c tsbk.srcId tsbk.dstId tsbk.txMult)

/-- `TSBK_IOSP_CALL_ALRT` in `process`. -/
def processCallAlrt (s : ControlSignaling) (tsbk : TSBKObject) : Except ControlSignaling ControlSignaling := do
  let s ← s.validSrcId c TSBK_IOSP_CALL_ALRT tsbk.srcId
  let s ← s.validDstId c TSBK_IOSP_CALL_ALRT tsbk.srcId tsbk.dstId
  .ok (s.writeRfTsduCallAlrt c tsbk.srcId tsbk.dstId)

/-- `TSBK_IOSP_ACK_RSP` in `process`: without additional information the two addresses change places. -/
def processAckRsp (s : ControlSignaling) (tsbk : TSBKObject) : Except ControlSignaling ControlSignaling := do
  let s ← s.validSrcId c TSBK_IOSP_ACK_RSP tsbk.srcId
  let s ← s.validDstId c TSBK_IOSP_ACK_RSP tsbk.srcId tsbk.dstId
  let iosp :=
    if !tsbk.aivFlag && tsbk.dstId ≠ 0 then { tsbk with aivFlag := true, srcId := tsbk.dstId, dstId := tsbk.srcId }
    else tsbk
  .ok (s.writeRfTsduSbf c iosp false)

/-- `TSBK_IOSP_GRP_AFF` in `process`. -/
def processGrpAff (s : ControlSignaling) (tsbk : TSBKObject) : Except ControlSignaling ControlSignaling := do
  let s ← s.isSupportControlCheck c TSBK_IOSP_GRP_AFF tsbk.srcId
  let s := if c.ackTSBKRequests then s.writeRfTsduAckFne c tsbk.srcId TSBK_IOSP_GRP_AFF true else s
  .ok (s.writeRfTsduGrpAffRsp c tsbk.srcId tsbk.dstId).2

/-- `TSBK_ISP_U_DEREG_REQ` in `process`. -/
def processUDeregReq (s : ControlSignaling) (tsbk : TSBKObject) : Except ControlSignaling ControlSignaling := do
  let s ← s.isSupportControlCheck c TSBK_ISP_U_DEREG_REQ tsbk.srcId
  let s ← s.validSrcId c TSBK_ISP_U_DEREG_REQ tsbk.srcId
  let s := if c.ackTSBKRequests then s.writeRfTsduAckFne c tsbk.srcId TSBK_ISP_U_DEREG_REQ true else s
  .ok (s.writeRfTsduUDeregAck c tsbk.srcId)

/-- `TSBK_IOSP_U_REG` in `process`. -/
def processUReg (s : ControlSignaling) (rnd rnd' : UInt32) (tsbk : TSBKObject) :
    Except ControlSignaling ControlSignaling := do
  let s ← s.isSupportControlCheck c TSBK_IOSP_U_REG tsbk.srcId
  let s := if c.ackTSBKRequests then s.writeRfTsduAckFne c tsbk.srcId TSBK_IOSP_U_REG true else s
  if c.requireLLAForReg then .ok (s.writeRfTsduAuthDmd c rnd rnd' tsbk.srcId)
  else .ok (s.writeRfTsduURegRsp c tsbk.srcId tsbk.sysId)

/-- `TSBK_ISP_AUTH_RESP` in `process`; the log line of the `default` that it falls into is all that follows. -/
def processAuthResp (s : ControlSignaling) (tsbk : TSBKObject) : Except ControlSignaling ControlSignaling := do
  let s ← s.isSupportControlCheck c TSBK_ISP_AUTH_RESP tsbk.srcId
  if !s.authFailed c tsbk.srcId tsbk.authRes then .ok (s.writeRfTsduURegRsp c tsbk.srcId tsbk.sysId)
  else .ok (s.writeRfTsduDeny c P25_WUID_FNE tsbk.srcId P25_DENY_RSN_SU_FAILED_AUTH TSBK_IOSP_U_REG)

/-- The `switch` of `process` over the opcode. -/
def dispatch (s : ControlSignaling) (rnd rnd' : UInt32) (permitted : Bool) (tsbk : TSBKObject) :
    Except ControlSignaling ControlSignaling :=
  if tsbk.lco = TSBK_IOSP_GRP_VCH then s.processGrpVch c permitted tsbk
  else if tsbk.lco = TSBK_IOSP_UU_VCH then s.processUuVch c permitted tsbk
  else if tsbk.lco = TSBK_IOSP_UU_ANS then s.processUuAns c permitted tsbk
  else if tsbk.lco = TSBK_IOSP_TELE_INT_ANS then s.processTeleIntAns c tsbk
  else if tsbk.lco = TSBK_ISP_SNDCP_CH_REQ then s.processSndcpChReq c tsbk
  else if tsbk.lco = TSBK_IOSP_STS_UPDT then s.processStsUpdt c tsbk
  else if tsbk.lco = TSBK_IOSP_MSG_UPDT then s.processMsgUpdt c tsbk
  else if tsbk.lco = TSBK_IOSP_RAD_MON then s.processRadMon c tsbk
  else if tsbk.lco = TSBK_IOSP_CALL_ALRT then s.processCallAlrt c tsbk
  else if tsbk.lco = TSBK_IOSP_ACK_RSP then s.processAckRsp c tsbk
  else if tsbk.lco = TSBK_ISP_CAN_SRV_REQ then .ok (s.writeRfTsduAckFne c tsbk.srcId TSBK_ISP_CAN_SRV_REQ false)
  else if tsbk.lco = TSBK_IOSP_EXT_FNCT then .ok (s.writeRfTsduSbf c tsbk false)
  else if tsbk.lco = TSBK_ISP_EMERG_ALRM_REQ then
    if tsbk.emergency then .ok (s.writeRfTsduAckFne c tsbk.srcId TSBK_ISP_EMERG_ALRM_REQ false) else .ok s
  else if tsbk.lco = TSBK_IOSP_GRP_AFF then s.processGrpAff c tsbk
  else if tsbk.lco = TSBK_ISP_GRP_AFF_Q_RSP then s.isSupportControlCheck c TSBK_ISP_GRP_AFF_Q_RSP tsbk.srcId
  else if tsbk.lco = TSBK_ISP_U_DEREG_REQ then s.processUDeregReq c tsbk
  else if tsbk.lco = TSBK_IOSP_U_REG then s.processUReg c rnd rnd' tsbk
  else if tsbk.lco = TSBK_ISP_LOC_REG_REQ then do
    let s ← s.isSupportControlCheck c TSBK_ISP_LOC_REG_REQ tsbk.srcId
    .ok (s.writeRfTsduLocRegRsp c tsbk.srcId tsbk.dstId tsbk.group)
  else if tsbk.lco = TSBK_ISP_AUTH_RESP then s.processAuthResp c tsbk
  else .ok s

/-- `process` of a message that could be decoded, from a TSDU or from the blocks of `processMBT`: the RF state is data
    meanwhile, and comes back unless a check failed. -/
def process (s : ControlSignaling) (rnd rnd' : UInt32) (permitted : Bool) (tsbk : TSBKObject) : ControlSignaling :=
  if !c.enableControl then s
  else
    let prevRfState := s.rfState
    match { s with rfState := .RS_RF_DATA, lastMFID := tsbk.mfId }.dispatch c rnd rnd' permitted tsbk with
    | .ok s => { s with rfState := prevRfState }
    | .error s => s

/-! ## Messages from the network -/

/-- `LC_CALL_TERM` in `processNetwork`. -/
def processNetCallTerm (s : ControlSignaling) (tsbk : TSBKObject) : ControlSignaling :=
  if c.dedicatedControl ∧ s.affiliations.isGranted tsbk.dstId then
    { s with affiliations := (s.affiliations.releaseGrant tsbk.dstId false).2 }
  else s

/-- The `switch` of `processNetwork` over the opcode: whether the message is written to the air, and the state. -/
def dispatchNetwork (s : ControlSignaling) (permitted : Bool) (tsbk : TSBKObject) : Bool × ControlSignaling :=
  if tsbk.lco = TSBK_IOSP_GRP_VCH ∨ tsbk.lco = TSBK_IOSP_UU_VCH then
    if !s.affiliations.isGranted tsbk.dstId then
      (false, (s.writeRfTsduGrant c permitted tsbk.srcId tsbk.dstId (serviceOptionsOf tsbk)
        (decide (tsbk.lco = TSBK_IOSP_GRP_VCH)) true false).2)
    else (false, s)
  else if tsbk.lco = TSBK_IOSP_UU_ANS then (true, s)
  else if tsbk.lco = TSBK_IOSP_STS_UPDT then (s.acl.validateSrcId tsbk.srcId, s)
  else if tsbk.lco = TSBK_IOSP_MSG_UPDT then (s.acl.validateSrcId tsbk.srcId, s)
  else if tsbk.lco = TSBK_IOSP_RAD_MON then
    -- the checks are those of a message from a radio here
    match s.processRadMon c tsbk with
    | .ok s => (true, s)
    | .error s => (false, s)
  else if tsbk.lco = TSBK_IOSP_CALL_ALRT then
    (s.acl.validateSrcId tsbk.srcId && s.acl.validateSrcId tsbk.dstId, s)
  else if tsbk.lco = TSBK_IOSP_ACK_RSP then
    (s.acl.validateSrcId tsbk.srcId && s.acl.validateSrcId tsbk.dstId, s)
  else if tsbk.lco = TSBK_IOSP_EXT_FNCT then (s.acl.validateSrcId tsbk.dstId, s)
  else (false, s)

/-- `processNetwork` of a TSDU that could be decoded. -/
def processNetwork (s : ControlSignaling) (permitted : Bool) (tsbk : TSBKObject) : ControlSignaling :=
  if !c.enableControl then s
  else if s.rfState ≠ .RS_RF_LISTENING ∧ s.netState = .RS_NET_IDLE then s
  else if s.netState ≠ .RS_NET_IDLE then s
  else if tsbk.lco = TSBK_OSP_ADJ_STS_BCAST then s
  else if tsbk.mfId = P25_MFG_DVM_OCS then
    if tsbk.lco = LC_CALL_TERM then (s.processNetCallTerm c tsbk).writeNetTsdu tsbk else s
  else
    let (toAir, s) := s.dispatchNetwork c permitted tsbk
    if toAir then s.writeNetTsdu tsbk else s

/-! ## Calls -/

/-- What can happen to the signalling of a site: a message from a radio or from the network, a grant that the voice
    side or the network asks for, the update of the grants, the end of a call, a release, the clock, and what voice
    and the lookups do to the rest of the state. -/
inductive Op where
  | rf (tsbk : TSBKObject) (rnd rnd' : UInt32) (permitted : Bool)
  | net (tsbk : TSBKObject) (permitted : Bool)
  | grant (srcId dstId : UInt32) (serviceOptions : UInt8) (grp net skip permitted : Bool)
  | grantUpdate
  | callTerm (srcId dstId : UInt32)
  | releaseGrant (dstId : UInt32)
  | touchGrant (dstId : UInt32)
  | clock (ms : UInt32)
  | traffic (rfState : RPT_RF_STATE) (netState : RPT_NET_STATE) (rfLastDstId netLastDstId : UInt32)
      (rfTGHang networkWatchdog : Timer)
  | lookups (acl : AccessControl)

/-- The call of an operation. -/
def exec (s : ControlSignaling) : Op → ControlSignaling
  | .rf tsbk rnd rnd' permitted => s.process c rnd rnd' permitted tsbk
  | .net tsbk permitted => s.processNetwork c permitted tsbk
  | .grant srcId dstId serviceOptions grp net skip permitted =>
      (s.writeRfTsduGrant c permitted srcId dstId serviceOptions grp net skip).2
  | .grantUpdate => s.writeRfTsduGrantUpdate c
  | .callTerm srcId dstId => s.writeNetTsduCallTerm c srcId dstId
  | .releaseGrant dstId => { s with affiliations := (s.affiliations.releaseGrant dstId false).2 }
  | .touchGrant dstId => { s with affiliations := s.affiliations.touchGrant dstId }
  | .clock ms => { s with affiliations := s.affiliations.clock ms }
  | .traffic rfState netState rfLastDstId netLastDstId rfTGHang networkWatchdog =>
      { s with rfState, netState, rfLastDstId, netLastDstId, rfTGHang, networkWatchdog }
  | .lookups acl => { s with acl }

/-- A step: the call, from tables that iterate in any order. -/
def step (s : ControlSignaling) (op : Op) (s' : ControlSignaling) : Prop :=
  ∃ affiliations, AffiliationLookup.SameTables s.affiliations affiliations ∧ s' = { s with affiliations }.exec c op

end ControlSignaling

end P25

end DvmHost

import DvmHost.Common.P25.Dfsi.LC
import DvmHost.Common.P25.NID
import DvmHost.Host.P25.Packet.ControlSignaling

/-!
# `Host.P25.Packet.Voice` — voice calls of a P25 host

`src/host/p25/packet/Voice.{h,cpp}`, with the members of `p25::Control` that it works on: what the host does with a
voice frame from a radio (`process`) or from the network (`processNetwork`).

The link control of a call and its copies are kept whole, and the voice frames of the network with their nine
codewords. A data unit that is queued for the air or written to the network is entered in the log as what it is built
from: its link control, and for the network's the codewords and the low speed data. Left out are the audio of the
frames of radios, terminators and preambles, the trunking messages that voice on the control channel repeats, the
counters of frames and errors, and whether the transmit queue has room for a frame.
-/

namespace DvmHost

open RPT_RF_STATE RPT_NET_STATE

namespace P25

/-! ## Constants -/

/-- `P25_FT_DATA_UNIT`. -/
def P25_FT_DATA_UNIT : UInt8 := 0x00

/-- `P25_FT_HDU_VALID`. -/
def P25_FT_HDU_VALID : UInt8 := 0x01

/-- `P25_FT_HDU_LATE_ENTRY`. -/
def P25_FT_HDU_LATE_ENTRY : UInt8 := 0x02

/-- `VOC_LDU1_COUNT`. -/
def VOC_LDU1_COUNT : UInt8 := 3

/-- `ROAM_LDU1_COUNT`. -/
def ROAM_LDU1_COUNT : UInt8 := 1

/-- Where the nine codewords of `m_netLDU1` and `m_netLDU2` are. -/
def IMBE_POSITION (n : Fin 9) : Nat := [10, 26, 55, 80, 105, 130, 155, 180, 204].get n

/-! ## The state -/

/-- The options of a host that voice reads. -/
structure VoiceSettings extends Settings where
  legacyGroupGrnt : Bool
  legacyGroupReg : Bool
  allowExplicitSourceId : Bool
  disableNetworkHDU : Bool
  hasNetwork : Bool

/-- What is entered in the log. -/
inductive VoiceEvent where
  /-- A data unit of a radio is put into the transmit queue. -/
  | repeated (duid : UInt8) (lc : LC)
  /-- A data unit of a radio is written to the network. -/
  | written (duid : UInt8) (lc : LC)
  /-- A header of the network's call is put into the transmit queue. -/
  | header (lc : LC)
  /-- A data unit of the network is put into the transmit queue. -/
  | queued (duid : UInt8) (lc : LC) (ldu : Bytes) (lsd : LowSpeedData)
  /-- The grant of a radio's destination is released at the end of its call. -/
  | released (dstId : UInt32)

/-- The members of `Voice`, and those of `Control` besides the ones that signalling has. -/
structure Voice where
  site : ControlSignaling
  permittedDstId : UInt32
  netTGHang : Timer
  rfTimedOut : Bool
  netTimedOut : Bool
  rfLC : LC
  rfLastHDU : LC
  rfLastLDU1 : LC
  rfLastLDU2 : LC
  netLC : LC
  netLastLDU1 : LC
  netLastFrameType : UInt8
  dfsiLC : Dfsi.LC
  netLDU1 : Bytes
  netLDU2 : Bytes
  lastDUID : UInt8
  lastIMBE : Bytes
  lastMI : Fin P25_MI_LENGTH_BYTES → UInt8
  hadVoice : Bool
  lastRejectId : UInt32
  vocLDU1Count : UInt8
  roamLDU1Count : UInt8
  log : List VoiceEvent

/-- What a frame of a radio meets: the octets that Reed-Solomon decoding leaves to chance, and the answers of the channel
    to the two permits that a grant may ask for. -/
structure Answers where
  errata : RS.Errata
  permitted : Bool
  repermitted : Bool

/-- A frame of the network, as `Control::processNetwork` reads it. -/
structure NetMessage where
  duid : UInt8
  control : LC
  lsd : LowSpeedData
  data : Bytes
  frameType : UInt8
  permitted : Bool

namespace Voice

variable (c : VoiceSettings)

/-! ## Resetting -/

/-- `resetRF`. The last header stays. -/
def resetRF (s : Voice) : Voice :=
  { s with
    rfLC := s.rfLC.copy .default
    rfLastLDU1 := s.rfLastLDU1.copy .default
    rfLastLDU2 := s.rfLastLDU2.copy .default
    vocLDU1Count := 0
    roamLDU1Count := 0 }

/-- `resetNet`. -/
def resetNet (s : Voice) : Voice :=
  { s with
    netLC := s.netLC.copy .default
    netLastLDU1 := s.netLastLDU1.copy .default
    vocLDU1Count := 0
    roamLDU1Count := 0
    site := { s.site with networkWatchdog := s.site.networkWatchdog.stop } }

/-- `m_p25->m_rfState = rfState;` -/
def setRFState (s : Voice) (rfState : RPT_RF_STATE) : Voice := { s with site := { s.site with rfState := rfState } }

/-- `resetRF(); m_p25->m_rfState = RS_RF_LISTENING;` -/
def refuseRF (s : Voice) : Voice := s.resetRF.setRFState RS_RF_LISTENING

/-- The test whether the site may take this destination. -/
def isUnpermitted (s : Voice) (dstId : UInt32) : Bool := !c.authoritative && s.permittedDstId ≠ dstId

/-- A hang timer that runs. -/
def isHanging (hang : Timer) : Bool := hang.isRunning && !hang.hasExpired

/-- The lines with which a radio takes the channel from the network's call. -/
def preemptNet (s : Voice) : Voice :=
  if s.site.netState ≠ RS_NET_IDLE then
    let s :=
      if !c.dedicatedControl then
        { s with site := { s.site with affiliations := (s.site.affiliations.releaseGrant s.site.netLastDstId false).2 } }
      else s
    s.resetNet
  else s

/-! ## The message indicator -/

/-- By name, so that the numerals of `Fin 9` carry no proof of their own. -/
local instance neZero_nine : NeZero 9 := ⟨by decide⟩

/-- A cycle of `getNextMI`. -/
def shiftMI (mi : Fin P25_MI_LENGTH_BYTES → UInt8) : Fin P25_MI_LENGTH_BYTES → UInt8 := fun i =>
  let carry := (mi 0 >>> 7 ^^^ mi 0 >>> 5 ^^^ mi 2 >>> 5 ^^^ mi 3 >>> 5 ^^^ mi 4 >>> 2 ^^^ mi 6 >>> 6) &&& 0x01
  if i.val < 7 then (mi i &&& 0x7F) <<< 1 ||| mi (i + 1) >>> 7
  else if i.val = 7 then (mi i &&& 0x7F) <<< 1 ||| carry
  else mi i

/-- `getNextMI`. -/
def getNextMI (mi : Fin P25_MI_LENGTH_BYTES → UInt8) : Fin P25_MI_LENGTH_BYTES → UInt8 := shiftMI^[64] mi

/-! ## Calls of radios -/

/-- `writeNetwork` and `addFrame` of a data unit of a radio. -/
def relay (s : Voice) (duid : UInt8) : Voice :=
  let s := if c.hasNetwork && !s.rfTimedOut then { s with log := s.log ++ [.written duid s.rfLC] } else s
  if c.duplex && !s.rfTimedOut then { s with log := s.log ++ [.repeated duid s.rfLC] } else s

/-- The header of a radio's call that is accepted. -/
def keepHeader (s : Voice) (lc : LC) : Voice :=
  { s with
    site := { s.site with rfTGHang := s.site.rfTGHang.start, rfLastDstId := lc.dstId }
    netTGHang := s.netTGHang.stop
    rfLastHDU := s.rfLastHDU.copy lc }

/-- `process` of a header. The Golay decoder always comes to an end. -/
def processHDU (s : Voice) (errata : RS.Errata) (data : Bytes) : Bool × Voice :=
  let s := { s with lastDUID := P25_DUID_HDU }
  if s.site.rfState = RS_RF_LISTENING ∨ s.site.rfState = RS_RF_AUDIO then
    let s := s.resetRF
    match LC.decodeHDU errata .default data with
    | some (true, lc) =>
        if s.isUnpermitted c lc.dstId then (false, s.refuseRF)
        else if s.site.netState ≠ RS_NET_IDLE ∧ lc.dstId = s.site.netLastDstId then (false, s.refuseRF)
        else (true, (s.preemptNet c).keepHeader lc)
    | _ => (false, s)
  else (true, s)

/-- The end of every denial. -/
def reject (s : Voice) : Voice :=
  { s with site := { s.site with
    rfLastDstId := 0
    rfTGHang := s.site.rfTGHang.stop
    rfState := RS_RF_REJECTED } }

/-- A denial: the radio is told once. -/
def denyCall (s : Voice) (id : UInt32) (tell : ControlSignaling → ControlSignaling) : Voice :=
  (if s.lastRejectId = 0 ∨ s.lastRejectId ≠ id then { s with site := tell s.site, lastRejectId := id } else s).reject

/-- The checks of a radio's call: the state in which it is denied, if it is. -/
def denial (s : Voice) (lc : LC) : Option Voice :=
  let service := ControlSignaling.voiceService lc.group
  if !s.site.acl.validateSrcId lc.srcId then
    some (s.denyCall lc.srcId fun site =>
      if c.enableControl then
        (site.writeRfTsduDeny c.toSettings lc.srcId lc.dstId P25_DENY_RSN_REQ_UNIT_NOT_VALID service).denialInhibit
          c.toSettings lc.srcId
      else site)
  else if !lc.group && !s.site.acl.validateSrcId lc.dstId then
    some (s.denyCall lc.dstId fun site =>
      if c.enableControl then
        site.writeRfTsduDeny c.toSettings lc.srcId lc.dstId P25_DENY_RSN_TGT_UNIT_NOT_VALID TSBK_IOSP_UU_VCH
      else site)
  else if lc.group && !s.site.acl.validateTGId lc.dstId then
    some (s.denyCall lc.dstId fun site =>
      if c.enableControl then
        site.writeRfTsduDeny c.toSettings lc.srcId lc.dstId P25_DENY_RSN_TGT_GROUP_NOT_VALID TSBK_IOSP_GRP_VCH
      else site)
  else if lc.group && c.enableControl && !s.site.affiliations.isGroupAff lc.srcId lc.dstId && c.verifyAff then
    some (s.denyCall lc.srcId fun site =>
      (site.writeRfTsduDeny c.toSettings lc.srcId lc.dstId P25_DENY_RSN_REQ_UNIT_NOT_AUTH
        TSBK_IOSP_GRP_VCH).writeRfTsduURegCmd c.toSettings lc.srcId)
  else none

/-- The service options of a grant. -/
def serviceOptions (lc : LC) : UInt8 :=
  (if lc.emergency then 0x80 else 0x00) + (if lc.encrypted then 0x40 else 0x00) + (lc.priority &&& 0x07)

/-- Conventional registration or voice on the control channel. -/
def isConventional : Bool := (c.enableControl && !c.dedicatedControl) || c.voiceOnControl

/-- The grant of a call that was not granted out: whether the call goes on, and the site. -/
def grantCall (site : ControlSignaling) (answers : Answers) (lc : LC) : Bool × ControlSignaling :=
  if c.enableControl ∧ !site.affiliations.isGranted lc.dstId then
    if c.legacyGroupGrnt then
      let registered :=
        if c.legacyGroupReg ∧ lc.group ∧ !site.affiliations.isGroupAff lc.srcId lc.dstId then
          site.writeRfTsduGrpAffRsp c.toSettings lc.srcId lc.dstId
        else (true, site)
      if registered.1 then
        registered.2.writeRfTsduGrant c.toSettings answers.permitted lc.srcId lc.dstId (serviceOptions lc) lc.group false
          false
      else (false, registered.2)
    else (false, site)
  else (true, site)

/-- The grant that a conventional call gets in any case. -/
def regrantCall (site : ControlSignaling) (answers : Answers) (lc : LC) : ControlSignaling :=
  if isConventional c then
    (site.writeRfTsduGrant c.toSettings answers.repermitted lc.srcId lc.dstId (serviceOptions lc) lc.group true true).2
  else site

/-- The lines with which a call starts: the state, the timers and the last IDs. -/
def startCall (s : Voice) (lc : LC) : Voice :=
  { s with
    hadVoice := true
    site := { s.site with
      rfState := RS_RF_AUDIO
      rfTGHang := if lc.group then s.site.rfTGHang.start else s.site.rfTGHang.stop
      rfLastDstId := lc.dstId }
    netTGHang := s.netTGHang.stop }

/-- The header of a call, if one was received: it gives the destination and the encryption. -/
def sendHeader (s : Voice) : Voice :=
  if s.rfLastHDU.dstId ≠ 0 then
    let s := { s with rfLC := { s.rfLC with
      dstId := s.rfLastHDU.dstId
      algId := s.rfLastHDU.algId
      kId := s.rfLastHDU.kId
      mi := s.rfLastHDU.mi } }
    if c.duplex && !s.rfTimedOut then { s with log := s.log ++ [.repeated P25_DUID_HDU s.rfLC] } else s
  else s

/-- The lines behind the header of a call. -/
def openCall (s : Voice) : Voice :=
  { s with
    vocLDU1Count := 0
    roamLDU1Count := 0
    rfTimedOut := false
    lastDUID := P25_DUID_HDU
    rfLastHDU := s.rfLastHDU.copy .default }

/-- The part of a first LDU1 in which a call starts: whether it does, and the state. The tests for the network's
    destination within `preemptNet` cannot succeed any more. -/
def enterCall (s : Voice) (answers : Answers) (lc : LC) : Bool × Voice :=
  if s.isUnpermitted c lc.dstId then (false, s.refuseRF)
  else if s.site.netState ≠ RS_NET_IDLE ∧ lc.dstId = s.site.netLastDstId then (false, s.refuseRF)
  else
    let s := if s.site.netState ≠ RS_NET_IDLE then { s.preemptNet c with netTGHang := s.netTGHang.stop } else s
    let s := if s.rfLastHDU.dstId = 0 then s.resetRF else s
    match s.denial c lc with
    | some s => (false, s)
    | none =>
        let rfLC := s.rfLC.copy lc
        let s := { s with rfLC := rfLC, rfLastLDU1 := s.rfLastLDU1.copy rfLC, lastRejectId := 0 }
        let granted := grantCall c s.site answers rfLC
        let s := { s with site := granted.2 }
        if !granted.1 then (false, s)
        else (true, (({ s with site := regrantCall c s.site answers rfLC }.startCall rfLC).sendHeader c).openCall)

/-- The tests that end a call for one of the network. -/
def collides (s : Voice) : Bool :=
  s.site.netState ≠ RS_NET_IDLE &&
    ((s.netLC.srcId = s.rfLC.srcId && s.site.netLastDstId = s.rfLC.dstId) ||
      (c.enableControl && s.rfLC.dstId = s.site.netLastDstId &&
        s.site.affiliations.netGrantedTable.lookup s.rfLC.dstId = some true && s.rfLC.dstId ≠ 0))

/-- The link control of an LDU1 in a call, or of the last one. The tests for the IDs behind the copy find nothing to
    change. -/
def takeLDU1 (s : Voice) (errata : RS.Errata) (data : Bytes) : Voice :=
  let decoded := s.rfLC.decodeLDU1 errata data
  if decoded.1 then { s with rfLC := decoded.2, rfLastLDU1 := s.rfLastLDU1.copy decoded.2 }
  else { s with rfLC := decoded.2.copy s.rfLastLDU1 }

/-- `m_affiliations.touchGrant(dstId)`. -/
def touchGrant (s : Voice) (dstId : UInt32) : Voice :=
  if c.enableControl then
    { s with site := { s.site with affiliations := s.site.affiliations.touchGrant dstId } }
  else s

/-- Every fourth LDU1 of a conventional call broadcasts the status of the site. -/
def countLDU1 (s : Voice) : Voice :=
  if isConventional c then
    let s := { s with vocLDU1Count := s.vocLDU1Count + 1 }
    if s.vocLDU1Count > VOC_LDU1_COUNT then
      { s with vocLDU1Count := 0, rfLC := { s.rfLC with lco := LC_RFSS_STS_BCAST } }
    else s
  else s

/-- `process` of an LDU1 in a call. `first` is the frame the call started with, whose link control is there. -/
def relayLDU1 (s : Voice) (first : Bool) (errata : RS.Errata) (data : Bytes) : Bool × Voice :=
  if s.isUnpermitted c s.rfLC.dstId then (false, s.refuseRF)
  else if s.collides c then (false, s.refuseRF)
  else
    let s := if first then s else s.takeLDU1 errata data
    let s := (s.touchGrant c s.rfLC.dstId).countLDU1 c
    (true, s.relay c P25_DUID_LDU1)

/-- `process` of an LDU1. -/
def processLDU1 (s : Voice) (answers : Answers) (data : Bytes) : Bool × Voice :=
  if s.lastDUID = P25_DUID_LDU1 then (false, s)
  else
    let s := { s with lastDUID := P25_DUID_LDU1 }
    if s.site.rfState = RS_RF_LISTENING then
      let decoded := LC.decodeLDU1 answers.errata .default data
      if !decoded.1 then (false, s)
      else
        let entered := s.enterCall c answers decoded.2
        if entered.1 then entered.2.relayLDU1 c true answers.errata data else (false, entered.2)
    else if s.site.rfState = RS_RF_AUDIO then s.relayLDU1 c false answers.errata data
    else (false, s)

/-- The link control of an LDU2 in a call, or of the last one, with the next message indicator. -/
def takeLDU2 (s : Voice) (errata : RS.Errata) (data : Bytes) : Voice :=
  let decoded := s.rfLC.decodeLDU2 errata data
  if decoded.1 then { s with rfLC := decoded.2, rfLastLDU2 := s.rfLastLDU2.copy decoded.2 }
  else
    let nextMI := getNextMI s.rfLastLDU2.mi
    { s with
      rfLC := { decoded.2.copy s.rfLastLDU2 with mi := nextMI }
      rfLastLDU2 := { s.rfLastLDU2 with mi := nextMI } }

/-- `process` of an LDU2. -/
def processLDU2 (s : Voice) (errata : RS.Errata) (data : Bytes) : Bool × Voice :=
  if s.lastDUID = P25_DUID_LDU2 then (false, s)
  else
    let s := { s with lastDUID := P25_DUID_LDU2 }
    if s.site.rfState = RS_RF_AUDIO then (true, (s.takeLDU2 errata data).relay c P25_DUID_LDU2) else (false, s)

/-- `writeRF_EndOfVoice`. -/
def endOfVoice (s : Voice) : Voice := if s.hadVoice then s.resetRF.resetNet else s

/-- `process` of a terminator. -/
def processTDU (s : Voice) (duid : UInt8) : Bool × Voice :=
  let s :=
    if !c.enableControl then
      { s with
        site := { s.site with affiliations := (s.site.affiliations.releaseGrant s.rfLC.dstId false).2 }
        log := s.log ++ [.released s.rfLC.dstId] }
    else s
  let s := if duid = P25_DUID_TDU then { s with lastDUID := duid, rfTimedOut := false } else s
  let s :=
    if s.site.rfState = RS_RF_AUDIO then
      if c.dedicatedControl then s.endOfVoice
      else { s with site := s.site.writeNetTsduCallTerm c.toSettings s.rfLC.srcId s.rfLC.dstId }
    else s
  (true, s.setRFState RS_RF_LISTENING)

/-- `process`, of a frame and its data unit ID. A header behind a header is taken for an LDU1. -/
def process (s : Voice) (answers : Answers) (duid : UInt8) (data : Bytes) : Bool × Voice :=
  let s :=
    if s.site.rfState ≠ RS_RF_LISTENING then
      { s with site := { s.site with rfTGHang := s.site.rfTGHang.start } }
    else s
  let duid := if duid = P25_DUID_HDU ∧ s.lastDUID = P25_DUID_HDU then P25_DUID_LDU1 else duid
  if duid = P25_DUID_HDU then s.processHDU c answers.errata data
  else if duid = P25_DUID_LDU1 then s.processLDU1 c answers data
  else if duid = P25_DUID_LDU2 then s.processLDU2 c answers.errata data
  else if duid = P25_DUID_TDU ∨ duid = P25_DUID_TDULC then s.processTDU c duid
  else (false, s)

/-! ## Calls of the network -/

/-- `insertMissingAudio`, of a codeword: one whose first octet is zero is replaced by the last one. -/
def insertMissing (data : Bytes × Bytes) (n : Fin 9) : Bytes × Bytes :=
  let pos := IMBE_POSITION n
  if data.1 pos = 0x00 then (memcpy data.1 pos data.2 P25_RAW_IMBE_LENGTH_BYTES, data.2)
  else (data.1, memcpy data.2 0 (fromByte pos data.1) P25_RAW_IMBE_LENGTH_BYTES)

/-- `insertMissingAudio`, on the data and `m_lastIMBE`. -/
def insertMissingAudio (data lastIMBE : Bytes) : Bytes × Bytes := (List.finRange 9).foldl insertMissing (data, lastIMBE)

/-- The link control of the network, as it stands in the DFSI frames, with the flag that copying loses. -/
def dfsiControl (s : Voice) : LC := { LC.copyConstruct s.dfsiLC.control with encrypted := s.dfsiLC.control.encrypted }

/-- The ID of the last LDU1, if there is one. -/
def saneId (last id : UInt32) : UInt32 := if last ≠ 0 then last else id

/-- The members that `m_netLC` and `m_rfLC` are set to. -/
def setCall (lc control : LC) (srcId dstId : UInt32) : LC :=
  { lc.copy .default with
    lco := control.lco
    mfId := control.mfId
    srcId := srcId
    dstId := dstId
    group := decide (control.lco = LC_GROUP)
    emergency := control.emergency
    encrypted := control.encrypted
    priority := control.priority }

/-- The encryption of the header, in the control and in the two. -/
def setKeys (s : Voice) (control : LC) : LC × LC :=
  let control :=
    if s.netLastLDU1.algId ≠ P25_ALGO_UNENCRYPT ∧ s.netLastLDU1.kId ≠ 0 then
      { control with algId := s.netLastLDU1.algId, kId := s.netLastLDU1.kId }
    else control
  ({ s.netLC with mi := s.lastMI, algId := control.algId, kId := control.kId },
    { s.rfLC with mi := s.lastMI, algId := control.algId, kId := control.kId })

/-- The checks of a call of the network: whether it is accepted. -/
def accepts (s : Voice) (lc : LC) : Bool :=
  s.site.acl.validateSrcId lc.srcId &&
    (if lc.group then s.site.acl.validateTGId lc.dstId else s.site.acl.validateSrcId lc.dstId)

/-- The state behind a grant that failed, if the call ends there. -/
def ungrantedCall (s : Voice) : Option Voice :=
  if (!s.site.networkWatchdog.isRunning ∨ s.site.networkWatchdog.hasExpired) ∧ s.site.netLastDstId ≠ 0 then
    some { s with
      netLDU1 := fun _ => 0x00
      netLDU2 := fun _ => 0x00
      netTimedOut := false
      netLC := s.netLC.copy .default
      netLastLDU1 := s.netLastLDU1.copy .default
      netLastFrameType := P25_FT_DATA_UNIT
      site := { s.site with
        networkWatchdog := s.site.networkWatchdog.stop
        netState := RS_NET_IDLE
        netLastDstId := 0
        rfState := if s.site.rfState = RS_RF_REJECTED then RS_RF_LISTENING else s.site.rfState } }
  else none

/-- The grant of a call of the network: `none` if the call ends there. -/
def grantNet (s : Voice) (permitted : Bool) : Bool × Voice :=
  if isConventional c ∧ !c.disableNetworkGrant then
    let lc := s.netLC
    let granted := s.site.writeRfTsduGrant c.toSettings permitted lc.srcId lc.dstId (serviceOptions lc) lc.group true
      false
    let s := { s with site := granted.2 }
    if granted.1 then (true, s)
    else match s.ungrantedCall with
      | some s => (false, s)
      | none => (true, s)
  else (true, s)

/-- The state of a call of the network that starts, and its header. -/
def startNet (s : Voice) : Voice :=
  let s := { s with
    hadVoice := true
    site := { s.site with netState := RS_NET_AUDIO, netLastDstId := s.netLC.dstId }
    netTGHang := s.netTGHang.start
    netTimedOut := false
    vocLDU1Count := 0
    roamLDU1Count := 0 }
  if !c.disableNetworkHDU && s.netLastFrameType ≠ P25_FT_HDU_LATE_ENTRY then
    { s with log := s.log ++ [.header s.netLC] }
  else s

/-- The lines of `writeNet_LDU1` in which a call starts: whether it does. -/
def openNet (s : Voice) (permitted : Bool) (control : LC) : Bool × Voice :=
  let keys := s.setKeys control
  let s := { s with netLC := keys.1, rfLC := keys.2 }
  if !s.accepts s.netLC then (false, s)
  else
    let granted := s.grantNet c permitted
    if granted.1 then (true, granted.2.startNet c) else granted

/-- The lines of `writeNet_LDU1` in a call. -/
def continueNet (s : Voice) (dstId : UInt32) : Voice :=
  if s.netTGHang.isRunning then
    let s := if s.site.netLastDstId = 0 then { s with site := { s.site with netLastDstId := dstId } } else s
    { s with netTGHang := s.netTGHang.start }
  else s

/-- A call from another system: every other LDU1 says so. -/
def markExplicit (s : Voice) (control : LC) : Voice :=
  if c.enableControl && c.allowExplicitSourceId then
    if control.sysId ≠ c.siteData.sysId then
      let s := { s with roamLDU1Count := s.roamLDU1Count + 1 }
      if s.roamLDU1Count > ROAM_LDU1_COUNT then
        { s with
          roamLDU1Count := 0
          netLC := { s.netLC with netId := control.netId, sysId := control.sysId, lco := LC_EXPLICIT_SOURCE_ID } }
      else if s.netLC.lco = LC_GROUP then { s with netLC := { s.netLC with explicitId := true } }
      else s
    else s
  else s

/-- Every fourth LDU1 of a conventional call broadcasts the status of the site. -/
def countNetLDU1 (s : Voice) : Voice :=
  if isConventional c then
    let s := { s with vocLDU1Count := s.vocLDU1Count + 1 }
    if s.vocLDU1Count > VOC_LDU1_COUNT then
      { s with vocLDU1Count := 0, netLC := { s.netLC with lco := LC_RFSS_STS_BCAST } }
    else s
  else s

/-- The audio of an LDU1, and the frame. -/
def queueLDU1 (s : Voice) (lsd : LowSpeedData) : Voice :=
  let audio := insertMissingAudio s.netLDU1 s.lastIMBE
  let s := { s with lastIMBE := audio.2 }
  let s := if !s.netTimedOut then { s with log := s.log ++ [.queued P25_DUID_LDU1 s.netLC audio.1 lsd] } else s
  { s with netLDU1 := fun _ => 0x00 }

/-- The link control of an LDU1. -/
def setNetCall (s : Voice) : Voice :=
  let control := s.dfsiControl
  let srcId := saneId s.netLastLDU1.srcId control.srcId
  let dstId := saneId s.netLastLDU1.dstId control.dstId
  { s with netLC := setCall s.netLC control srcId dstId, rfLC := setCall s.rfLC control srcId dstId }

/-- `writeNet_LDU1`. -/
def writeNetLDU1 (s : Voice) (permitted : Bool) : Voice :=
  let control := s.dfsiControl
  let s := s.setNetCall
  let opened :=
    if s.site.netState = RS_NET_IDLE then s.openNet c permitted control else (true, s.continueNet s.netLC.dstId)
  if opened.1 then ((opened.2.markExplicit c control).countNetLDU1 c).queueLDU1 s.dfsiLC.lsd else opened.2

/-- `writeNet_LDU2`. -/
def writeNetLDU2 (s : Voice) : Voice :=
  let control := LC.copyConstruct s.dfsiLC.control
  if s.isUnpermitted c control.dstId then s.resetNet
  else
    let s := { s with netLC := { s.netLC with mi := control.mi, algId := control.algId, kId := control.kId } }
    let audio := insertMissingAudio s.netLDU2 s.lastIMBE
    let s := { s with lastIMBE := audio.2 }
    let s :=
      if !s.netTimedOut then { s with log := s.log ++ [.queued P25_DUID_LDU2 s.netLC audio.1 s.dfsiLC.lsd] } else s
    { s with netLDU2 := fun _ => 0x00 }

/-- The test whether a data unit was not flushed. -/
def isUnflushed (ldu : Bytes) : Bool := (List.finRange 9).any fun n => ldu (IMBE_POSITION n) ≠ 0x00

/-- `checkNet_LDU1`. -/
def checkNetLDU1 (s : Voice) (permitted : Bool) : Voice :=
  if s.site.netState ≠ RS_NET_IDLE ∧ isUnflushed s.netLDU1 then s.writeNetLDU1 c permitted else s

/-- `checkNet_LDU2`. -/
def checkNetLDU2 (s : Voice) : Voice :=
  if s.site.netState ≠ RS_NET_IDLE ∧ isUnflushed s.netLDU2 then s.writeNetLDU2 c else s

/-- `writeNet_TDU`. -/
def writeNetTDU (s : Voice) : Voice :=
  let s := { s with netLDU1 := fun _ => 0x00, netLDU2 := fun _ => 0x00, netTimedOut := false }.resetNet
  { s with site := { s.site with netState := RS_NET_IDLE } }

/-- The hang timer of the radios: whether the frame goes on. -/
def hangRF (s : Voice) (dstId : UInt32) : Bool × Voice :=
  if s.site.rfLastDstId ≠ 0 ∧ dstId ≠ 0 ∧ isHanging s.site.rfTGHang then
    if s.site.rfLastDstId ≠ dstId then (false, s.resetNet)
    else (true, { s with site := { s.site with rfTGHang := s.site.rfTGHang.start } })
  else (true, s)

/-- The hang timer of the network: whether the frame goes on. -/
def hangNet (s : Voice) (duid : UInt8) (dstId : UInt32) : Bool × Voice :=
  if s.site.netLastDstId ≠ 0 ∧ dstId ≠ 0 ∧ (duid = P25_DUID_LDU1 ∨ duid = P25_DUID_LDU2) ∧ isHanging s.netTGHang then
    if s.site.netLastDstId ≠ dstId then (false, s)
    else (true, { s with netTGHang := s.netTGHang.start })
  else (true, s)

/-- The checks of `processNetwork`: whether the frame goes on. -/
def gateNet (s : Voice) (duid : UInt8) (dstId : UInt32) : Bool × Voice :=
  let hung := s.hangRF dstId
  if !hung.1 then hung
  else if c.authoritative then
    let held := hung.2.hangNet duid dstId
    if !held.1 then held
    else if held.2.site.rfState ≠ RS_RF_LISTENING then (false, held.2.resetNet)
    else (true, held.2)
  else if hung.2.permittedDstId ≠ dstId then (false, hung.2.resetNet)
  else (true, hung.2)

/-- The first octets of the nine voice frames. -/
def isVoiceFrames (types : Fin 9 → UInt8) (data : Bytes) : Bool :=
  (List.finRange 9).all fun n => data ([0, 22, 36, 53, 70, 87, 104, 121, 138].get n) = types n

/-- The nine voice frames, one after the other: the link control, the codewords and the place in the data. -/
def decodeFrames (decode : Dfsi.LC → Bytes → Bytes → Bool × Dfsi.LC × Bytes) (data : Bytes) (dfsiLC : Dfsi.LC)
    (ldu : Bytes) : Dfsi.LC × Bytes × Nat :=
  (List.finRange 9).foldl (fun (dfsiLC, ldu, count) n =>
    let decoded := decode dfsiLC (fromByte count data) (fromByte (IMBE_POSITION n) ldu)
    (decoded.2.1, onTail (IMBE_POSITION n) (fun _ => decoded.2.2) ldu, count + VOICE_FRAME_LENGTH_BYTES n))
    (dfsiLC, ldu, 0)

/-- What an LDU1 of the network leaves: its link control and codewords, and the copies of the header's. -/
def takeNetLDU1 (s : Voice) (m : NetMessage) : Voice :=
  let decoded := decodeFrames Dfsi.LC.decodeLDU1 m.data (.new m.control m.lsd) s.netLDU1
  { s with
    dfsiLC := { decoded.1 with control := { decoded.1.control with
      netId := m.control.netId, sysId := m.control.sysId, dstId := m.control.dstId } }
    netLDU1 := decoded.2.1
    netLastLDU1 := s.netLastLDU1.copy m.control
    netLastFrameType := m.frameType
    lastMI := m.control.mi }

/-- `processNetwork` of an LDU1. -/
def processNetLDU1 (s : Voice) (m : NetMessage) : Voice :=
  if isVoiceFrames P25_DFSI_LDU1_VOICE m.data then
    let s := s.takeNetLDU1 m
    let s := s.touchGrant c s.dfsiLC.control.dstId
    if c.dedicatedControl && !c.voiceOnControl then s
    else
      let s := s.checkNetLDU2 c
      if s.site.netState ≠ RS_NET_IDLE then { s with netTGHang := s.netTGHang.start }.writeNetLDU1 c m.permitted else s
  else s

/-- What an LDU2 of the network leaves: its encryption and codewords. -/
def takeNetLDU2 (s : Voice) (m : NetMessage) : Voice :=
  let decoded := decodeFrames Dfsi.LC.decodeLDU2 m.data s.dfsiLC s.netLDU2
  { s with dfsiLC := decoded.1, netLDU2 := decoded.2.1 }

/-- `processNetwork` of an LDU2: a call may start with it. -/
def processNetLDU2 (s : Voice) (m : NetMessage) : Voice :=
  if isVoiceFrames P25_DFSI_LDU2_VOICE m.data then
    let s := s.takeNetLDU2 m
    let s := s.touchGrant c s.dfsiLC.control.dstId
    if c.dedicatedControl && !c.voiceOnControl then s
    else
      let s :=
        if s.site.netState = RS_NET_IDLE then s.resetRF.resetNet.writeNetLDU1 c m.permitted
        else s.checkNetLDU1 c m.permitted
      if s.site.netState ≠ RS_NET_IDLE then { s with netTGHang := s.netTGHang.start }.writeNetLDU2 c else s
  else s

/-- `processNetwork` of a terminator. -/
def processNetTDU (s : Voice) (m : NetMessage) : Voice :=
  if m.control.dstId ≠ s.site.netLastDstId then s
  else if s.site.rfState ≠ RS_RF_LISTENING then s.resetNet
  else
    let s :=
      if !c.enableControl then
        { s with site := { s.site with affiliations := (s.site.affiliations.releaseGrant s.netLC.dstId false).2 } }
      else s
    if s.site.netState ≠ RS_NET_IDLE then (if m.duid = P25_DUID_TDU then s.writeNetTDU else s).resetNet else s

/-- `processNetwork`. -/
def processNetwork (s : Voice) (m : NetMessage) : Voice :=
  let gated := s.gateNet c m.duid m.control.dstId
  if !gated.1 then gated.2
  else if m.duid = P25_DUID_LDU1 then gated.2.processNetLDU1 c m
  else if m.duid = P25_DUID_LDU2 then gated.2.processNetLDU2 c m
  else if m.duid = P25_DUID_TDU ∨ m.duid = P25_DUID_TDULC then gated.2.processNetTDU c m
  else gated.2

/-- The lines of `Control::processNetwork` around it, for a frame that voice gets. -/
def receiveNetwork (s : Voice) (m : NetMessage) : Voice :=
  if s.site.rfState ≠ RS_RF_LISTENING ∧ s.site.netState = RS_NET_IDLE then s
  else { s with site := { s.site with networkWatchdog := s.site.networkWatchdog.start } }.processNetwork c m

end Voice

end P25

end DvmHost

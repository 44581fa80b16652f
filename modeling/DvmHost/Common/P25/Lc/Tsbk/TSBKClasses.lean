import DvmHost.Common.P25.Lc.LC
import DvmHost.Common.P25.Lc.TSBK

/-!
# `Common.P25.Lc.Tsbk.TSBKClasses` — the trunking messages

`src/common/p25/lc/tsbk/*.{h,cpp}`: one class for each opcode, with its own `decode` and `encode` of the payload, which
both of them see as one 64-bit value. An object here has the members of all classes, and those that its class does not
have keep the value they begin with.

`encode` of a class whose body is a stub writes nothing; the classes that are only sent, and whose `encode` no
theorem of the development reads, have their constructor here and no codec.

`src/common/p25/lc/tsbk/TSBKFactory.cpp`: `createTSBK` reads opcode and manufacturer from the block, makes an object of
the class of the opcode, and lets that decode the block once more.
-/

namespace DvmHost

namespace P25

/-! ## Constants -/

/-- `P25_MFG_DVM_OCS`. -/
def P25_MFG_DVM_OCS : UInt8 := 0x9C

/-- `LC_CALL_TERM`. -/
def LC_CALL_TERM : UInt8 := 0x0F

/-- `TSBK_IOSP_GRP_VCH`. -/
def TSBK_IOSP_GRP_VCH : UInt8 := 0x00

/-- `TSBK_IOSP_UU_VCH`. -/
def TSBK_IOSP_UU_VCH : UInt8 := 0x04

/-- `TSBK_IOSP_UU_ANS`. -/
def TSBK_IOSP_UU_ANS : UInt8 := 0x05

/-- `TSBK_IOSP_TELE_INT_ANS`. -/
def TSBK_IOSP_TELE_INT_ANS : UInt8 := 0x0A

/-- `TSBK_IOSP_STS_UPDT`. -/
def TSBK_IOSP_STS_UPDT : UInt8 := 0x18

/-- `TSBK_IOSP_STS_Q`. -/
def TSBK_IOSP_STS_Q : UInt8 := 0x1A

/-- `TSBK_IOSP_MSG_UPDT`. -/
def TSBK_IOSP_MSG_UPDT : UInt8 := 0x1C

/-- `TSBK_IOSP_RAD_MON`. -/
def TSBK_IOSP_RAD_MON : UInt8 := 0x1D

/-- `TSBK_IOSP_CALL_ALRT`. -/
def TSBK_IOSP_CALL_ALRT : UInt8 := 0x1F

/-- `TSBK_IOSP_ACK_RSP`. -/
def TSBK_IOSP_ACK_RSP : UInt8 := 0x20

/-- `TSBK_IOSP_EXT_FNCT`. -/
def TSBK_IOSP_EXT_FNCT : UInt8 := 0x24

/-- `TSBK_IOSP_GRP_AFF`. -/
def TSBK_IOSP_GRP_AFF : UInt8 := 0x28

/-- `TSBK_IOSP_U_REG`. -/
def TSBK_IOSP_U_REG : UInt8 := 0x2C

/-- `TSBK_ISP_SNDCP_CH_REQ`. -/
def TSBK_ISP_SNDCP_CH_REQ : UInt8 := 0x12

/-- `TSBK_ISP_CAN_SRV_REQ`. -/
def TSBK_ISP_CAN_SRV_REQ : UInt8 := 0x23

/-- `TSBK_ISP_EMERG_ALRM_REQ`, the opcode of `TSBK_OSP_DENY_RSP` too. -/
def TSBK_ISP_EMERG_ALRM_REQ : UInt8 := 0x27

/-- `TSBK_ISP_GRP_AFF_Q_RSP`. -/
def TSBK_ISP_GRP_AFF_Q_RSP : UInt8 := 0x29

/-- `TSBK_ISP_U_DEREG_REQ`. -/
def TSBK_ISP_U_DEREG_REQ : UInt8 := 0x2B

/-- `TSBK_ISP_LOC_REG_REQ`. -/
def TSBK_ISP_LOC_REG_REQ : UInt8 := 0x2D

/-- `TSBK_ISP_AUTH_RESP`. -/
def TSBK_ISP_AUTH_RESP : UInt8 := 0x38

/-- `TSBK_ISP_AUTH_FNE_RST`. -/
def TSBK_ISP_AUTH_FNE_RST : UInt8 := 0x3A

/-- `TSBK_ISP_AUTH_SU_DMD`. -/
def TSBK_ISP_AUTH_SU_DMD : UInt8 := 0x3B

/-- `TSBK_OSP_GRP_VCH_GRANT_UPD`. -/
def TSBK_OSP_GRP_VCH_GRANT_UPD : UInt8 := 0x02

/-- `TSBK_OSP_UU_VCH_GRANT_UPD`. -/
def TSBK_OSP_UU_VCH_GRANT_UPD : UInt8 := 0x06

/-- `TSBK_OSP_SNDCP_CH_GNT`. -/
def TSBK_OSP_SNDCP_CH_GNT : UInt8 := 0x14

/-- `TSBK_OSP_DENY_RSP`. -/
def TSBK_OSP_DENY_RSP : UInt8 := 0x27

/-- `TSBK_OSP_LOC_REG_RSP`. -/
def TSBK_OSP_LOC_REG_RSP : UInt8 := 0x2B

/-- `TSBK_OSP_U_REG_CMD`. -/
def TSBK_OSP_U_REG_CMD : UInt8 := 0x2D

/-- `TSBK_OSP_U_DEREG_ACK`. -/
def TSBK_OSP_U_DEREG_ACK : UInt8 := 0x2F

/-- `TSBK_OSP_AUTH_DMD`. -/
def TSBK_OSP_AUTH_DMD : UInt8 := 0x31

/-- `TSBK_OSP_QUE_RSP`. -/
def TSBK_OSP_QUE_RSP : UInt8 := 0x33

/-- `TSBK_OSP_ADJ_STS_BCAST`. -/
def TSBK_OSP_ADJ_STS_BCAST : UInt8 := 0x3C

/-- `P25_CFVA_FAILURE`. -/
def P25_CFVA_FAILURE : UInt8 := 0x04

/-! ## Objects -/

/-- The classes that `TSBKFactory::createTSBK` makes objects of, and those that a control channel sends. -/
inductive TSBKClass where
  | IOSP_GRP_VCH
  | IOSP_UU_VCH
  | IOSP_UU_ANS
  | ISP_SNDCP_CH_REQ
  | IOSP_STS_UPDT
  | IOSP_MSG_UPDT
  | IOSP_RAD_MON
  | IOSP_CALL_ALRT
  | IOSP_ACK_RSP
  | ISP_EMERG_ALRM_REQ
  | IOSP_EXT_FNCT
  | IOSP_GRP_AFF
  | IOSP_U_REG
  | ISP_CAN_SRV_REQ
  | ISP_GRP_AFF_Q_RSP
  | OSP_QUE_RSP
  | ISP_U_DEREG_REQ
  | OSP_U_DEREG_ACK
  | ISP_LOC_REG_REQ
  | ISP_AUTH_RESP
  | ISP_AUTH_FNE_RST
  | ISP_AUTH_SU_DMD
  | OSP_ADJ_STS_BCAST
  | OSP_DVM_LC_CALL_TERM
  | OSP_DENY_RSP
  | OSP_LOC_REG_RSP
  | OSP_U_REG_CMD
  | OSP_GRP_VCH_GRANT_UPD
  | OSP_UU_VCH_GRANT_UPD
  | OSP_SNDCP_CH_GNT
  | MBT_OSP_AUTH_DMD
deriving DecidableEq

/-- An object of a class derived from `TSBK`: the members of `TSBK`, then those of the derived classes. -/
structure TSBKObject extends TSBK where
  cls : TSBKClass
  dstId : UInt32 := 0
  aivFlag : Bool := true
  extendedAddrFlag : Bool := false
  service : UInt8 := 0
  response : UInt8 := 0
  netId : UInt32 := P25_WACN_STD_DEFAULT
  sysId : UInt32 := P25_SID_STD_DEFAULT
  grpVchId : UInt8 := 0
  grpVchNo : UInt32 := 0
  emergency : Bool := false
  encrypted : Bool := false
  priority : UInt8 := 4
  group : Bool := true
  forceChannelId : Bool := false
  statusValue : UInt8 := 0
  messageValue : UInt8 := 0
  txMult : UInt8 := 0
  extendedFunction : UInt32 := 0
  announceGroup : UInt32 := 0xFFFFFF
  dataServiceOptions : UInt8 := 0
  dataAccessControl : UInt32 := 0
  dataChannelNo : UInt32 := 0
  lra : UInt8 := 0
  authSuccess : Bool := false
  authStandalone : Bool := false
  authRes : List UInt8 := [0, 0, 0, 0]
  authRC : List UInt8 := []
  adjCFVA : UInt8 := P25_CFVA_FAILURE
  -- the constructor of `OSP_ADJ_STS_BCAST` leaves this member uninitialised, and `decode` sets it
  adjSysId : UInt32 := 0
  adjRfssId : UInt8 := 0
  adjSiteId : UInt8 := 0
  adjChannelId : UInt8 := 0
  adjChannelNo : UInt32 := 0
  adjServiceClass : UInt8 := 0

/-- The opcode that the constructor of a class sets. -/
def TSBKClass.lco : TSBKClass → UInt8
  | IOSP_GRP_VCH => TSBK_IOSP_GRP_VCH
  | IOSP_UU_VCH => TSBK_IOSP_UU_VCH
  | IOSP_UU_ANS => TSBK_IOSP_UU_ANS
  | ISP_SNDCP_CH_REQ => TSBK_ISP_SNDCP_CH_REQ
  | IOSP_STS_UPDT => TSBK_IOSP_STS_UPDT
  | IOSP_MSG_UPDT => TSBK_IOSP_MSG_UPDT
  | IOSP_RAD_MON => TSBK_IOSP_RAD_MON
  | IOSP_CALL_ALRT => TSBK_IOSP_CALL_ALRT
  | IOSP_ACK_RSP => TSBK_IOSP_ACK_RSP
  | ISP_EMERG_ALRM_REQ => TSBK_ISP_EMERG_ALRM_REQ
  | IOSP_EXT_FNCT => TSBK_IOSP_EXT_FNCT
  | IOSP_GRP_AFF => TSBK_IOSP_GRP_AFF
  | IOSP_U_REG => TSBK_IOSP_U_REG
  | ISP_CAN_SRV_REQ => TSBK_ISP_CAN_SRV_REQ
  | ISP_GRP_AFF_Q_RSP => TSBK_ISP_GRP_AFF_Q_RSP
  | OSP_QUE_RSP => TSBK_OSP_QUE_RSP
  | ISP_U_DEREG_REQ => TSBK_ISP_U_DEREG_REQ
  | OSP_U_DEREG_ACK => TSBK_OSP_U_DEREG_ACK
  | ISP_LOC_REG_REQ => TSBK_ISP_LOC_REG_REQ
  | ISP_AUTH_RESP => TSBK_ISP_AUTH_RESP
  | ISP_AUTH_FNE_RST => TSBK_ISP_AUTH_FNE_RST
  | ISP_AUTH_SU_DMD => TSBK_ISP_AUTH_SU_DMD
  | OSP_ADJ_STS_BCAST => TSBK_OSP_ADJ_STS_BCAST
  | OSP_DVM_LC_CALL_TERM => LC_CALL_TERM
  | OSP_DENY_RSP => TSBK_OSP_DENY_RSP
  | OSP_LOC_REG_RSP => TSBK_OSP_LOC_REG_RSP
  | OSP_U_REG_CMD => TSBK_OSP_U_REG_CMD
  | OSP_GRP_VCH_GRANT_UPD => TSBK_OSP_GRP_VCH_GRANT_UPD
  | OSP_UU_VCH_GRANT_UPD => TSBK_OSP_UU_VCH_GRANT_UPD
  | OSP_SNDCP_CH_GNT => TSBK_OSP_SNDCP_CH_GNT
  | MBT_OSP_AUTH_DMD => TSBK_OSP_AUTH_DMD

/-- The constructor of a class. -/
def TSBKClass.new (cls : TSBKClass) : TSBKObject where
  lco := cls.lco
  mfId := if cls = OSP_DVM_LC_CALL_TERM then P25_MFG_DVM_OCS else P25_MFG_STANDARD
  lastBlock := false
  srcId := 0
  cls := cls

namespace TSBK

/-- `toValue`. -/
def toValue (payload : Bytes) : UInt64 :=
  let value := (payload 0).toUInt64
  let value := value <<< (8 : UInt64) + (payload 1).toUInt64
  let value := value <<< (8 : UInt64) + (payload 2).toUInt64
  let value := value <<< (8 : UInt64) + (payload 3).toUInt64
  let value := value <<< (8 : UInt64) + (payload 4).toUInt64
  let value := value <<< (8 : UInt64) + (payload 5).toUInt64
  let value := value <<< (8 : UInt64) + (payload 6).toUInt64
  value <<< (8 : UInt64) + (payload 7).toUInt64

/-- `fromValue`, whose array has eight octets. -/
def fromValue (value : UInt64) : Bytes := fun i => match i with
  | 0 => (value >>> (56 : UInt64) &&& 0xFF).toUInt8
  | 1 => (value >>> (48 : UInt64) &&& 0xFF).toUInt8
  | 2 => (value >>> (40 : UInt64) &&& 0xFF).toUInt8
  | 3 => (value >>> (32 : UInt64) &&& 0xFF).toUInt8
  | 4 => (value >>> (24 : UInt64) &&& 0xFF).toUInt8
  | 5 => (value >>> (16 : UInt64) &&& 0xFF).toUInt8
  | 6 => (value >>> (8 : UInt64) &&& 0xFF).toUInt8
  | 7 => (value >>> (0 : UInt64) &&& 0xFF).toUInt8
  | _ => 0x00

end TSBK

/-! ## Reading a payload

Behind `TSBK::decode` every class reads its members from the payload, most of them from its value. -/

/-- A bit of the first octet. -/
def flagOf (tsbkValue : UInt64) (mask : UInt64) : Bool :=
  decide ((tsbkValue >>> (56 : UInt64) &&& 0xFF) &&& mask = mask)

/-- A field of up to 32 bits. -/
def fieldOf (tsbkValue shift mask : UInt64) : UInt32 := (tsbkValue >>> shift &&& mask).toUInt32

/-- A field of up to 8 bits. -/
def octetOf (tsbkValue shift mask : UInt64) : UInt8 := (tsbkValue >>> shift &&& mask).toUInt8

namespace TSBKObject

/-- The emergency and encryption flags and the priority, which the three voice requests begin with. -/
def readServiceOptions (t : TSBKObject) (tsbkValue : UInt64) : TSBKObject :=
  { t with
    emergency := flagOf tsbkValue 0x80
    encrypted := flagOf tsbkValue 0x40
    priority := ((tsbkValue >>> (56 : UInt64) &&& 0xFF) &&& 0x07).toUInt8 }

/-- The source address, at the low end of all but one payload. -/
def readSrcId (t : TSBKObject) (tsbkValue : UInt64) : TSBKObject :=
  { t with srcId := (tsbkValue &&& 0xFFFFFF).toUInt32 }

/-- A destination of 24 bits above the source. -/
def readAddresses (t : TSBKObject) (tsbkValue : UInt64) : TSBKObject :=
  { t with dstId := fieldOf tsbkValue 24 0xFFFFFF }.readSrcId tsbkValue

/-- A destination of 16 bits above the source. -/
def readGroupAddresses (t : TSBKObject) (tsbkValue : UInt64) : TSBKObject :=
  { t with dstId := fieldOf tsbkValue 24 0xFFFF }.readSrcId tsbkValue

/-- The network and the system above the source. -/
def readSystem (t : TSBKObject) (tsbkValue : UInt64) : TSBKObject :=
  { t with netId := fieldOf tsbkValue 36 0xFFFFF, sysId := fieldOf tsbkValue 24 0xFFF }.readSrcId tsbkValue

/-- The additional information flag, the service and the reason of a response. -/
def readResponse (t : TSBKObject) (tsbkValue : UInt64) : TSBKObject :=
  { t with
    aivFlag := flagOf tsbkValue 0x80
    service := octetOf tsbkValue 56 0x3F
    response := octetOf tsbkValue 48 0xFF }

/-- `IOSP_GRP_VCH::decode`. -/
def decodeGrpVch (t : TSBKObject) (tsbkValue : UInt64) : TSBKObject :=
  let t := t.readServiceOptions tsbkValue
  let t := { t with grpVchId := octetOf tsbkValue 52 0x0F, grpVchNo := fieldOf tsbkValue 40 0xFFF }
  t.readGroupAddresses tsbkValue

/-- `IOSP_UU_VCH::decode`. -/
def decodeUuVch (t : TSBKObject) (tsbkValue : UInt64) : TSBKObject :=
  let t := t.readServiceOptions tsbkValue
  let t := { t with grpVchId := octetOf tsbkValue 52 0x0F, grpVchNo := fieldOf tsbkValue 40 0xFFF }
  t.readAddresses tsbkValue

/-- `IOSP_UU_ANS::decode`. -/
def decodeUuAns (t : TSBKObject) (tsbkValue : UInt64) : TSBKObject :=
  let t := t.readServiceOptions tsbkValue
  { t with response := octetOf tsbkValue 48 0xFF }.readAddresses tsbkValue

/-- `ISP_SNDCP_CH_REQ::decode`. -/
def decodeSndcpChReq (t : TSBKObject) (tsbkValue : UInt64) : TSBKObject :=
  { t with
    dataServiceOptions := octetOf tsbkValue 56 0xFF
    dataAccessControl := fieldOf tsbkValue 40 0xFFFFFFFF }.readSrcId tsbkValue

/-- `IOSP_STS_UPDT::decode`. -/
def decodeStsUpdt (t : TSBKObject) (tsbkValue : UInt64) : TSBKObject :=
  { t with statusValue := octetOf tsbkValue 56 0xFF }.readAddresses tsbkValue

/-- `IOSP_MSG_UPDT::decode`. -/
def decodeMsgUpdt (t : TSBKObject) (tsbkValue : UInt64) : TSBKObject :=
  { t with messageValue := octetOf tsbkValue 56 0xFF }.readAddresses tsbkValue

/-- `IOSP_RAD_MON::decode`. -/
def decodeRadMon (t : TSBKObject) (tsbkValue : UInt64) : TSBKObject :=
  { t with txMult := octetOf tsbkValue 48 0x3 }.readAddresses tsbkValue

/-- `IOSP_CALL_ALRT::decode`. -/
def decodeCallAlrt (t : TSBKObject) (tsbkValue : UInt64) : TSBKObject := t.readAddresses tsbkValue

/-- `IOSP_ACK_RSP::decode`. -/
def decodeAckRsp (t : TSBKObject) (tsbkValue : UInt64) : TSBKObject :=
  { t with aivFlag := flagOf tsbkValue 0x80, service := octetOf tsbkValue 56 0x3F }.readAddresses tsbkValue

/-- `ISP_EMERG_ALRM_REQ::decode`, of a deny response too: that has a reason. -/
def decodeEmergAlrmReq (t : TSBKObject) (tsbkValue : UInt64) : TSBKObject :=
  let t := t.readResponse tsbkValue
  { t with emergency := decide (t.response = 0) }.readGroupAddresses tsbkValue

/-- `IOSP_EXT_FNCT::decode`. -/
def decodeExtFnct (t : TSBKObject) (tsbkValue : UInt64) : TSBKObject :=
  { t with extendedFunction := fieldOf tsbkValue 48 0xFFFF }.readAddresses tsbkValue

/-- `IOSP_GRP_AFF::decode`. -/
def decodeGrpAff (t : TSBKObject) (tsbkValue : UInt64) : TSBKObject :=
  { t with sysId := fieldOf tsbkValue 40 0xFFF }.readGroupAddresses tsbkValue

/-- `IOSP_U_REG::decode`. -/
def decodeUReg (t : TSBKObject) (tsbkValue : UInt64) : TSBKObject := t.readSystem tsbkValue

/-- `ISP_CAN_SRV_REQ::decode`. -/
def decodeCanSrvReq (t : TSBKObject) (tsbkValue : UInt64) : TSBKObject :=
  (t.readResponse tsbkValue).readAddresses tsbkValue

/-- `ISP_GRP_AFF_Q_RSP::decode`. -/
def decodeGrpAffQRsp (t : TSBKObject) (tsbkValue : UInt64) : TSBKObject :=
  { t with announceGroup := fieldOf tsbkValue 40 0xFFFF }.readGroupAddresses tsbkValue

/-- `OSP_QUE_RSP::decode`. -/
def decodeQueRsp (t : TSBKObject) (tsbkValue : UInt64) : TSBKObject :=
  (t.readResponse tsbkValue).readAddresses tsbkValue

/-- `ISP_U_DEREG_REQ::decode`. -/
def decodeUDeregReq (t : TSBKObject) (tsbkValue : UInt64) : TSBKObject := t.readSystem tsbkValue

/-- `OSP_U_DEREG_ACK::decode`. -/
def decodeUDeregAck (t : TSBKObject) (tsbkValue : UInt64) : TSBKObject := t.readSystem tsbkValue

/-- `ISP_LOC_REG_REQ::decode`. -/
def decodeLocRegReq (t : TSBKObject) (tsbkValue : UInt64) : TSBKObject :=
  { t with lra := octetOf tsbkValue 40 0xFF }.readGroupAddresses tsbkValue

/-- `ISP_AUTH_RESP::decode`. -/
def decodeAuthResp (t : TSBKObject) (payload : Bytes) (tsbkValue : UInt64) : TSBKObject :=
  { t with
    authStandalone := flagOf tsbkValue 0x01
    authRes := [payload 3, payload 4, payload 5, payload 6] }.readSrcId tsbkValue

/-- `ISP_AUTH_FNE_RST::decode`. -/
def decodeAuthFneRst (t : TSBKObject) (tsbkValue : UInt64) : TSBKObject :=
  { t with authSuccess := flagOf tsbkValue 0x80, authStandalone := flagOf tsbkValue 0x01 }.readSrcId tsbkValue

/-- `ISP_AUTH_SU_DMD::decode`. -/
def decodeAuthSuDmd (t : TSBKObject) (tsbkValue : UInt64) : TSBKObject := t.readSrcId tsbkValue

/-- `OSP_ADJ_STS_BCAST::decode`. -/
def decodeAdjStsBcast (t : TSBKObject) (tsbkValue : UInt64) : TSBKObject :=
  { t with
    adjSysId := fieldOf tsbkValue 40 0xFFF
    adjRfssId := octetOf tsbkValue 32 0xFF
    adjSiteId := octetOf tsbkValue 24 0xFF
    adjChannelId := octetOf tsbkValue 20 0xF
    adjChannelNo := fieldOf tsbkValue 8 0xFFF
    adjServiceClass := (tsbkValue &&& 0xFF).toUInt8 }

/-- `OSP_DVM_LC_CALL_TERM::decode`. -/
def decodeCallTerm (t : TSBKObject) (tsbkValue : UInt64) : TSBKObject :=
  { t with grpVchId := octetOf tsbkValue 52 0x0F, grpVchNo := fieldOf tsbkValue 40 0xFFF }.readGroupAddresses
    tsbkValue

/-- The virtual `decode` behind `TSBK::decode`: the classes that are only sent are never asked. -/
def decodePayload (t : TSBKObject) (payload : Bytes) : TSBKObject :=
  let tsbkValue := TSBK.toValue payload
  match t.cls with
  | .IOSP_GRP_VCH => t.decodeGrpVch tsbkValue
  | .IOSP_UU_VCH => t.decodeUuVch tsbkValue
  | .IOSP_UU_ANS => t.decodeUuAns tsbkValue
  | .ISP_SNDCP_CH_REQ => t.decodeSndcpChReq tsbkValue
  | .IOSP_STS_UPDT => t.decodeStsUpdt tsbkValue
  | .IOSP_MSG_UPDT => t.decodeMsgUpdt tsbkValue
  | .IOSP_RAD_MON => t.decodeRadMon tsbkValue
  | .IOSP_CALL_ALRT => t.decodeCallAlrt tsbkValue
  | .IOSP_ACK_RSP => t.decodeAckRsp tsbkValue
  | .ISP_EMERG_ALRM_REQ => t.decodeEmergAlrmReq tsbkValue
  | .IOSP_EXT_FNCT => t.decodeExtFnct tsbkValue
  | .IOSP_GRP_AFF => t.decodeGrpAff tsbkValue
  | .IOSP_U_REG => t.decodeUReg tsbkValue
  | .ISP_CAN_SRV_REQ => t.decodeCanSrvReq tsbkValue
  | .ISP_GRP_AFF_Q_RSP => t.decodeGrpAffQRsp tsbkValue
  | .OSP_QUE_RSP => t.decodeQueRsp tsbkValue
  | .ISP_U_DEREG_REQ => t.decodeUDeregReq tsbkValue
  | .OSP_U_DEREG_ACK => t.decodeUDeregAck tsbkValue
  | .ISP_LOC_REG_REQ => t.decodeLocRegReq tsbkValue
  | .ISP_AUTH_RESP => t.decodeAuthResp payload tsbkValue
  | .ISP_AUTH_FNE_RST => t.decodeAuthFneRst tsbkValue
  | .ISP_AUTH_SU_DMD => t.decodeAuthSuDmd tsbkValue
  | .OSP_ADJ_STS_BCAST => t.decodeAdjStsBcast tsbkValue
  | .OSP_DVM_LC_CALL_TERM => t.decodeCallTerm tsbkValue
  | _ => t

/-! ## Writing a payload

`encode` builds the value from the high end by shifts and sums, without a mask where none is shown. -/

/-- The first octet of the three voice messages. -/
def serviceOptions (t : TSBKObject) : UInt64 :=
  (if t.emergency then 0x80 else 0x00) + (if t.encrypted then 0x40 else 0x00) + (t.priority &&& 0x07).toUInt64

/-- `IOSP_GRP_VCH::encode`. -/
def encodeGrpVch (siteData : SiteData) (t : TSBKObject) : UInt64 :=
  let tsbkValue := t.serviceOptions
  let tsbkValue :=
    if t.grpVchId ≠ 0 ∨ t.forceChannelId then tsbkValue <<< (4 : UInt64) + t.grpVchId.toUInt64
    else tsbkValue <<< (4 : UInt64) + siteData.channelId.toUInt64
  let tsbkValue := tsbkValue <<< (12 : UInt64) + t.grpVchNo.toUInt64
  let tsbkValue := tsbkValue <<< (16 : UInt64) + t.dstId.toUInt64
  tsbkValue <<< (24 : UInt64) + t.srcId.toUInt64

/-- `IOSP_UU_VCH::encode`. -/
def encodeUuVch (siteData : SiteData) (t : TSBKObject) : UInt64 :=
  let tsbkValue := t.serviceOptions
  let tsbkValue :=
    if t.grpVchId ≠ 0 then tsbkValue <<< (4 : UInt64) + t.grpVchId.toUInt64
    else tsbkValue <<< (4 : UInt64) + siteData.channelId.toUInt64
  let tsbkValue := tsbkValue <<< (12 : UInt64) + t.grpVchNo.toUInt64
  let tsbkValue := tsbkValue <<< (24 : UInt64) + t.dstId.toUInt64
  tsbkValue <<< (24 : UInt64) + t.srcId.toUInt64

/-- `IOSP_UU_ANS::encode`. -/
def encodeUuAns (t : TSBKObject) : UInt64 :=
  let tsbkValue := t.serviceOptions
  let tsbkValue := tsbkValue <<< (32 : UInt64) + t.dstId.toUInt64
  tsbkValue <<< (24 : UInt64) + t.srcId.toUInt64

/-- `IOSP_STS_UPDT::encode`. -/
def encodeStsUpdt (t : TSBKObject) : UInt64 :=
  let tsbkValue := (0 : UInt64) <<< (16 : UInt64) + t.statusValue.toUInt64
  let tsbkValue := tsbkValue <<< (24 : UInt64) + t.dstId.toUInt64
  tsbkValue <<< (24 : UInt64) + t.srcId.toUInt64

/-- `IOSP_MSG_UPDT::encode`. -/
def encodeMsgUpdt (t : TSBKObject) : UInt64 :=
  let tsbkValue := (0 : UInt64) <<< (16 : UInt64) + t.messageValue.toUInt64
  let tsbkValue := tsbkValue <<< (24 : UInt64) + t.dstId.toUInt64
  tsbkValue <<< (24 : UInt64) + t.srcId.toUInt64

/-- `IOSP_RAD_MON::encode`: the last sum does not shift. -/
def encodeRadMon (t : TSBKObject) : UInt64 :=
  let tsbkValue := (0 : UInt64) <<< (48 : UInt64) + (t.txMult &&& 0x3).toUInt64
  let tsbkValue := tsbkValue <<< (24 : UInt64) + (t.srcId &&& 0xFFFFFF).toUInt64
  tsbkValue + (t.dstId &&& 0xFFFFFF).toUInt64

/-- `IOSP_CALL_ALRT::encode`. -/
def encodeCallAlrt (t : TSBKObject) : UInt64 :=
  let tsbkValue := (0 : UInt64) <<< (40 : UInt64) + t.dstId.toUInt64
  tsbkValue <<< (24 : UInt64) + t.srcId.toUInt64

/-- `IOSP_ACK_RSP::encode`. -/
def encodeAckRsp (siteData : SiteData) (t : TSBKObject) : UInt64 :=
  let tsbkValue := (t.service &&& 0x3F).toUInt64
  let tsbkValue := tsbkValue ||| if t.aivFlag then 0x80 else 0x00
  let tsbkValue := tsbkValue ||| if t.extendedAddrFlag then 0x40 else 0x00
  let tsbkValue :=
    if t.aivFlag && t.extendedAddrFlag then
      (tsbkValue <<< (20 : UInt64) + siteData.netId.toUInt64) <<< (12 : UInt64) + siteData.sysId.toUInt64
    else tsbkValue <<< (32 : UInt64) + t.dstId.toUInt64
  tsbkValue <<< (24 : UInt64) + t.srcId.toUInt64

/-- `IOSP_EXT_FNCT::encode`: the argument is the source here, and the destination in `decode`. -/
def encodeExtFnct (t : TSBKObject) : UInt64 :=
  let tsbkValue := (0 : UInt64) <<< (16 : UInt64) + t.extendedFunction.toUInt64
  let tsbkValue := tsbkValue <<< (24 : UInt64) + t.srcId.toUInt64
  tsbkValue <<< (24 : UInt64) + t.dstId.toUInt64

/-- `IOSP_GRP_AFF::encode`, of the response; `decode` reads the request. -/
def encodeGrpAff (t : TSBKObject) : UInt64 :=
  let tsbkValue := (1 : UInt64) <<< (7 : UInt64) + (t.response &&& 0x3).toUInt64
  let tsbkValue := tsbkValue <<< (16 : UInt64) + (t.announceGroup &&& 0xFFFF).toUInt64
  let tsbkValue := tsbkValue <<< (16 : UInt64) + (t.dstId &&& 0xFFFF).toUInt64
  tsbkValue <<< (24 : UInt64) + t.srcId.toUInt64

/-- `IOSP_U_REG::encode`, of the response; `decode` reads the request. -/
def encodeUReg (siteData : SiteData) (t : TSBKObject) : UInt64 :=
  let tsbkValue := (0 : UInt64) <<< (2 : UInt64) + (t.response &&& 0x3).toUInt64
  let tsbkValue := tsbkValue <<< (12 : UInt64) + siteData.sysId.toUInt64
  let tsbkValue := tsbkValue <<< (24 : UInt64) + t.dstId.toUInt64
  tsbkValue <<< (24 : UInt64) + t.srcId.toUInt64

/-- `OSP_QUE_RSP::encode`: nothing is written without a reason. -/
def encodeQueRsp (t : TSBKObject) : Option UInt64 :=
  if t.response = 0 then none
  else
    let tsbkValue : UInt64 := if t.aivFlag then 0x80 else 0x00
    let tsbkValue := tsbkValue <<< (6 : UInt64) + (t.service &&& 0x3F).toUInt64
    let tsbkValue := tsbkValue <<< (8 : UInt64) + t.response.toUInt64
    if t.group then
      let tsbkValue := tsbkValue <<< (8 : UInt64) + 0
      let tsbkValue := tsbkValue <<< (16 : UInt64) + t.dstId.toUInt64
      some (tsbkValue <<< (24 : UInt64) + t.srcId.toUInt64)
    else
      let tsbkValue := tsbkValue <<< (24 : UInt64) + t.dstId.toUInt64
      some (tsbkValue <<< (24 : UInt64) + t.srcId.toUInt64)

/-- `OSP_U_DEREG_ACK::encode`. -/
def encodeUDeregAck (siteData : SiteData) (t : TSBKObject) : UInt64 :=
  let tsbkValue := (0 : UInt64) <<< (8 : UInt64) + siteData.netId.toUInt64
  let tsbkValue := tsbkValue <<< (12 : UInt64) + siteData.sysId.toUInt64
  tsbkValue <<< (24 : UInt64) + t.srcId.toUInt64

/-- `OSP_ADJ_STS_BCAST::encode`: the system is the local one. -/
def encodeAdjStsBcast (siteData : SiteData) (t : TSBKObject) : UInt64 :=
  let tsbkValue := siteData.lra.toUInt64
  let tsbkValue := tsbkValue <<< (4 : UInt64) + t.adjCFVA.toUInt64
  let tsbkValue := tsbkValue <<< (12 : UInt64) + siteData.sysId.toUInt64
  let tsbkValue := tsbkValue <<< (8 : UInt64) + t.adjRfssId.toUInt64
  let tsbkValue := tsbkValue <<< (8 : UInt64) + t.adjSiteId.toUInt64
  let tsbkValue := tsbkValue <<< (4 : UInt64) + t.adjChannelId.toUInt64
  let tsbkValue := tsbkValue <<< (12 : UInt64) + t.adjChannelNo.toUInt64
  tsbkValue <<< (8 : UInt64) + t.adjServiceClass.toUInt64

/-- `OSP_DVM_LC_CALL_TERM::encode`. -/
def encodeCallTerm (siteData : SiteData) (t : TSBKObject) : UInt64 :=
  let tsbkValue := (0 : UInt64) <<< (4 : UInt64) + siteData.channelId.toUInt64
  let tsbkValue := tsbkValue <<< (12 : UInt64) + t.grpVchNo.toUInt64
  let tsbkValue := tsbkValue <<< (16 : UInt64) + t.dstId.toUInt64
  tsbkValue <<< (24 : UInt64) + t.srcId.toUInt64

/-- The value that the virtual `encode` of a received class writes, if it writes one: the inbound classes do not. -/
def encodeValue (siteData : SiteData) (t : TSBKObject) : Option UInt64 :=
  match t.cls with
  | .IOSP_GRP_VCH => some (t.encodeGrpVch siteData)
  | .IOSP_UU_VCH => some (t.encodeUuVch siteData)
  | .IOSP_UU_ANS => some t.encodeUuAns
  | .IOSP_STS_UPDT => some t.encodeStsUpdt
  | .IOSP_MSG_UPDT => some t.encodeMsgUpdt
  | .IOSP_RAD_MON => some t.encodeRadMon
  | .IOSP_CALL_ALRT => some t.encodeCallAlrt
  | .IOSP_ACK_RSP => some (t.encodeAckRsp siteData)
  | .IOSP_EXT_FNCT => some t.encodeExtFnct
  | .IOSP_GRP_AFF => some t.encodeGrpAff
  | .IOSP_U_REG => some (t.encodeUReg siteData)
  | .OSP_QUE_RSP => t.encodeQueRsp
  | .OSP_U_DEREG_ACK => some (t.encodeUDeregAck siteData)
  | .OSP_ADJ_STS_BCAST => some (t.encodeAdjStsBcast siteData)
  | .OSP_DVM_LC_CALL_TERM => some (t.encodeCallTerm siteData)
  | _ => none

end TSBKObject

/-! ## The factory -/

/-- The virtual `decode` of an object: `TSBK::decode`, then the payload. -/
def TSBKObject.decode (t : TSBKObject) (warnCRC : Bool) (data : Bytes) (rawTSBK : Bool) : Option TSBKObject :=
  let (ret, base, payload) := t.toTSBK.decode warnCRC data (fun _ => 0x00) rawTSBK
  if !ret then none else some ({ t with toTSBK := base }.decodePayload payload)

/-- The virtual `encode` of an object into a buffer, which a class without a payload leaves alone. -/
def TSBKObject.encode (siteData : SiteData) (t : TSBKObject) (data : Bytes) (rawTSBK noTrellis : Bool) : Bytes :=
  match t.encodeValue siteData with
  | some tsbkValue => t.toTSBK.encode data (TSBK.fromValue tsbkValue) rawTSBK noTrellis
  | none => data

namespace TSBKFactory

/-- The opcodes that are read alike for Motorola units. -/
def motorolaOpcodes : List UInt8 :=
  [TSBK_IOSP_GRP_VCH, TSBK_IOSP_UU_VCH, TSBK_IOSP_UU_ANS, TSBK_IOSP_TELE_INT_ANS, TSBK_IOSP_STS_UPDT,
    TSBK_IOSP_STS_Q, TSBK_IOSP_MSG_UPDT, TSBK_IOSP_CALL_ALRT, TSBK_IOSP_ACK_RSP, TSBK_IOSP_GRP_AFF, TSBK_IOSP_U_REG,
    TSBK_ISP_CAN_SRV_REQ, TSBK_ISP_GRP_AFF_Q_RSP, TSBK_OSP_DENY_RSP, TSBK_OSP_QUE_RSP, TSBK_ISP_U_DEREG_REQ,
    TSBK_OSP_U_DEREG_ACK, TSBK_ISP_LOC_REG_REQ]

/-- The `switch` over the standard opcodes. -/
def standardClass (lco : UInt8) : Option TSBKClass :=
  if lco = TSBK_IOSP_GRP_VCH then some .IOSP_GRP_VCH
  else if lco = TSBK_IOSP_UU_VCH then some .IOSP_UU_VCH
  else if lco = TSBK_IOSP_UU_ANS then some .IOSP_UU_ANS
  else if lco = TSBK_ISP_SNDCP_CH_REQ then some .ISP_SNDCP_CH_REQ
  else if lco = TSBK_IOSP_STS_UPDT then some .IOSP_STS_UPDT
  else if lco = TSBK_IOSP_MSG_UPDT then some .IOSP_MSG_UPDT
  else if lco = TSBK_IOSP_RAD_MON then some .IOSP_RAD_MON
  else if lco = TSBK_IOSP_CALL_ALRT then some .IOSP_CALL_ALRT
  else if lco = TSBK_IOSP_ACK_RSP then some .IOSP_ACK_RSP
  else if lco = TSBK_ISP_EMERG_ALRM_REQ then some .ISP_EMERG_ALRM_REQ
  else if lco = TSBK_IOSP_EXT_FNCT then some .IOSP_EXT_FNCT
  else if lco = TSBK_IOSP_GRP_AFF then some .IOSP_GRP_AFF
  else if lco = TSBK_IOSP_U_REG then some .IOSP_U_REG
  else if lco = TSBK_ISP_CAN_SRV_REQ then some .ISP_CAN_SRV_REQ
  else if lco = TSBK_ISP_GRP_AFF_Q_RSP then some .ISP_GRP_AFF_Q_RSP
  else if lco = TSBK_OSP_QUE_RSP then some .OSP_QUE_RSP
  else if lco = TSBK_ISP_U_DEREG_REQ then some .ISP_U_DEREG_REQ
  else if lco = TSBK_OSP_U_DEREG_ACK then some .OSP_U_DEREG_ACK
  else if lco = TSBK_ISP_LOC_REG_REQ then some .ISP_LOC_REG_REQ
  else if lco = TSBK_ISP_AUTH_RESP then some .ISP_AUTH_RESP
  else if lco = TSBK_ISP_AUTH_FNE_RST then some .ISP_AUTH_FNE_RST
  else if lco = TSBK_ISP_AUTH_SU_DMD then some .ISP_AUTH_SU_DMD
  else if lco = TSBK_OSP_ADJ_STS_BCAST then some .OSP_ADJ_STS_BCAST
  else none

/-- The class of an opcode and a manufacturer, if there is one. -/
def classOf (lco mfId : UInt8) : Option TSBKClass :=
  if mfId = P25_MFG_MOT ∧ ¬lco ∈ motorolaOpcodes then none
  else if mfId = P25_MFG_DVM_OCS ∧ lco = LC_CALL_TERM then some .OSP_DVM_LC_CALL_TERM
  else standardClass lco

/-- The block whose opcode `createTSBK` reads. The check of a raw block is only logged; `m_warnCRC` is a static member
    of the factory. -/
def readBlock (warnCRC : Bool) (data : Bytes) (rawTSBK : Bool) : Option Bytes :=
  let tsbk : Bytes := fun _ => 0x00
  if rawTSBK then some (memcpy tsbk 0 data P25_TSBK_LENGTH_BYTES)
  else
    let raw := (P25Utils.decode data (fun _ => 0x00) 114 318).2
    match Trellis.decode12 raw tsbk with
    | none => none
    | some tsbk => if !CRC.checkCCITT162 tsbk P25_TSBK_LENGTH_BYTES && !warnCRC then none else some tsbk

/-- `createTSBK`, with the static members of the factory and of `TSBK` that make a failed check a warning. -/
def createTSBK (factoryWarnCRC warnCRC : Bool) (data : Bytes) (rawTSBK : Bool) : Option TSBKObject := do
  let tsbk ← readBlock factoryWarnCRC data rawTSBK
  let cls ← classOf (tsbk 0 &&& 0x3F) (tsbk 1)
  cls.new.decode warnCRC data rawTSBK

end TSBKFactory

end P25

end DvmHost

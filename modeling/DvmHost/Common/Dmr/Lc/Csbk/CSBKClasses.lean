import DvmHost.Common.Dmr.Lc.CSBK

/-!
# `Common.Dmr.Lc.Csbk.CSBKClasses` — the control signalling blocks that are received

`src/common/dmr/lc/csbk/*.{h,cpp}`, the classes that `CSBKFactory` makes: each has its own `decode` and `encode` of the
payload, which both of them see as one 64-bit value. An object here has the members of all of them, and those that its
class does not have keep the value they begin with. `encode` of a class whose body is a stub writes nothing.

`src/common/dmr/lc/csbk/CSBKFactory.cpp`: `createCSBK` checks the burst under the mask of its data type, makes an object
of the class of the opcode, and lets that decode the burst once more.
-/

namespace DvmHost

namespace Dmr

/-! ## Constants -/

/-- `DMR_EXT_FNCT_CHECK`. -/
def DMR_EXT_FNCT_CHECK : UInt8 := 0x00

/-- `TS_ACK_RSN_REG`. -/
def TS_ACK_RSN_REG : UInt8 := 0x62

/-- `CSBKO_UU_V_REQ`. -/
def CSBKO_UU_V_REQ : UInt8 := 0x04

/-- `CSBKO_UU_ANS_RSP`. -/
def CSBKO_UU_ANS_RSP : UInt8 := 0x05

/-- `CSBKO_RAND`, the opcode of `CSBK_CALL_ALRT` too. -/
def CSBKO_RAND : UInt8 := 0x1F

/-- `CSBKO_ACK_RSP`. -/
def CSBKO_ACK_RSP : UInt8 := 0x20

/-- `CSBKO_EXT_FNCT`. -/
def CSBKO_EXT_FNCT : UInt8 := 0x24

/-- `CSBKO_NACK_RSP`. -/
def CSBKO_NACK_RSP : UInt8 := 0x26

/-- `CSBKO_MAINT`. -/
def CSBKO_MAINT : UInt8 := 0x2A

/-- `CSBKO_BSDWNACT`. -/
def CSBKO_BSDWNACT : UInt8 := 0x38

/-- `CSBKO_PRECCSBK`. -/
def CSBKO_PRECCSBK : UInt8 := 0x3D

/-! ## Objects -/

/-- The classes that the factory makes. -/
inductive CSBKClass where
  | BSDWNACT
  | UU_V_REQ
  | UU_ANS_RSP
  | PRECCSBK
  | CALL_ALRT
  | RAND
  | EXT_FNCT
  | NACK_RSP
  | ACK_RSP
  | MAINT
deriving DecidableEq, Repr

/-- An object of one of the classes. -/
structure CSBKObject extends CSBK where
  cls : CSBKClass
  serviceOptions : UInt8 := 0
  serviceExtra : UInt8 := 0
  serviceKind : UInt8 := 0
  extendedFunction : UInt8 := DMR_EXT_FNCT_CHECK
  maintKind : UInt8 := 0
  bsId : UInt32 := 0
deriving DecidableEq, Repr

namespace CSBKClass

/-- The opcode that the constructor of the class sets. -/
def opcode : CSBKClass → UInt8
  | .BSDWNACT => CSBKO_BSDWNACT
  | .UU_V_REQ => CSBKO_UU_V_REQ
  | .UU_ANS_RSP => CSBKO_UU_ANS_RSP
  | .PRECCSBK => CSBKO_PRECCSBK
  | .CALL_ALRT => CSBKO_RAND
  | .RAND => CSBKO_RAND
  | .EXT_FNCT => CSBKO_EXT_FNCT
  | .NACK_RSP => CSBKO_NACK_RSP
  | .ACK_RSP => CSBKO_ACK_RSP
  | .MAINT => CSBKO_MAINT

/-- The feature id that the constructor of the class leaves. -/
def featureId : CSBKClass → UInt8
  | .CALL_ALRT => FID_DMRA
  | .EXT_FNCT => FID_DMRA
  | _ => CSBK.new.FID

/-- The constructor of the class. -/
def new (cls : CSBKClass) : CSBKObject :=
  { CSBK.new with CSBKO := cls.opcode, FID := cls.featureId, cls }

end CSBKClass

/-! ## The codecs -/

/-- `CSBK::toValue`. -/
def CSBK.toValue (payload : Bytes) : UInt64 :=
  let value := (payload 0).toUInt64
  let value := value <<< (8 : UInt64) + (payload 1).toUInt64
  let value := value <<< (8 : UInt64) + (payload 2).toUInt64
  let value := value <<< (8 : UInt64) + (payload 3).toUInt64
  let value := value <<< (8 : UInt64) + (payload 4).toUInt64
  let value := value <<< (8 : UInt64) + (payload 5).toUInt64
  let value := value <<< (8 : UInt64) + (payload 6).toUInt64
  value <<< (8 : UInt64) + (payload 7).toUInt64

/-- `CSBK::fromValue`. -/
def CSBK.fromValue (value : UInt64) : Bytes := fun i =>
  match i with
  | 0 => (value >>> (56 : UInt64) &&& 0xFF).toUInt8
  | 1 => (value >>> (48 : UInt64) &&& 0xFF).toUInt8
  | 2 => (value >>> (40 : UInt64) &&& 0xFF).toUInt8
  | 3 => (value >>> (32 : UInt64) &&& 0xFF).toUInt8
  | 4 => (value >>> (24 : UInt64) &&& 0xFF).toUInt8
  | 5 => (value >>> (16 : UInt64) &&& 0xFF).toUInt8
  | 6 => (value >>> (8 : UInt64) &&& 0xFF).toUInt8
  | 7 => (value >>> (0 : UInt64) &&& 0xFF).toUInt8
  | _ => 0x00

namespace CSBKObject

/-- The source radio address, where it is the lowest field. -/
def readSrcId (c : CSBKObject) (csbkValue : UInt64) : CSBKObject :=
  { c with srcId := (csbkValue &&& 0xFFFFFF).toUInt32 }

/-- The target above the source. -/
def readAddresses (c : CSBKObject) (csbkValue : UInt64) : CSBKObject :=
  { c with dstId := (csbkValue >>> (24 : UInt64) &&& 0xFFFFFF).toUInt32 }.readSrcId csbkValue

/-- A target of 16 bits above the source. -/
def readShortAddresses (c : CSBKObject) (csbkValue : UInt64) : CSBKObject :=
  { c with dstId := (csbkValue >>> (24 : UInt64) &&& 0xFFFF).toUInt32 }.readSrcId csbkValue

/-- The flag of the first octet that tells a group. -/
def readGI (c : CSBKObject) (csbkValue : UInt64) : CSBKObject :=
  { c with GI := decide ((csbkValue >>> (56 : UInt64) &&& 0xFF) &&& 0x40 = 0x40) }

/-- The flag of the first octet above it. -/
def readDataContent (c : CSBKObject) (csbkValue : UInt64) : CSBKObject :=
  { c with dataContent := decide ((csbkValue >>> (56 : UInt64) &&& 0xFF) &&& 0x80 = 0x80) }

/-- `CSBK_BSDWNACT::decode`. -/
def decodeBsdwnact (c : CSBKObject) (csbkValue : UInt64) : CSBKObject :=
  { c with bsId := (csbkValue >>> (24 : UInt64) &&& 0xFFFFFF).toUInt32 }.readSrcId csbkValue

/-- `CSBK_UU_V_REQ::decode`. -/
def decodeUuVReq (c : CSBKObject) (csbkValue : UInt64) : CSBKObject := c.readAddresses csbkValue

/-- `CSBK_UU_ANS_RSP::decode`. -/
def decodeUuAnsRsp (c : CSBKObject) (csbkValue : UInt64) : CSBKObject := c.readAddresses csbkValue

/-- `CSBK_PRECCSBK::decode`. -/
def decodePreccsbk (c : CSBKObject) (csbkValue : UInt64) : CSBKObject :=
  let c := (c.readGI csbkValue).readDataContent csbkValue
  { c with CBF := (csbkValue >>> (48 : UInt64) &&& 0xFF).toUInt8 }.readAddresses csbkValue

/-- `CSBK_CALL_ALRT::decode`. -/
def decodeCallAlrt (c : CSBKObject) (csbkValue : UInt64) : CSBKObject := (c.readGI csbkValue).readAddresses csbkValue

/-- `CSBK_RAND::decode`. -/
def decodeRand (c : CSBKObject) (csbkValue : UInt64) : CSBKObject :=
  { c with
    serviceOptions := (csbkValue >>> (57 : UInt64) &&& 0x7F).toUInt8
    proxy := decide ((csbkValue >>> (56 : UInt64) &&& 0xFF) &&& 0x01 = 0x01)
    serviceExtra := (csbkValue >>> (52 : UInt64) &&& 0x0F).toUInt8
    serviceKind := (csbkValue >>> (48 : UInt64) &&& 0x0F).toUInt8 }.readAddresses csbkValue

/-- `CSBK_EXT_FNCT::decode`. -/
def decodeExtFnct (c : CSBKObject) (csbkValue : UInt64) : CSBKObject :=
  let c := c.readDataContent csbkValue
  { c with extendedFunction := (csbkValue >>> (48 : UInt64) &&& 0xFF).toUInt8 }.readAddresses csbkValue

/-- `CSBK_NACK_RSP::decode`: the source stands above the target. -/
def decodeNackRsp (c : CSBKObject) (csbkValue : UInt64) : CSBKObject :=
  { c.readGI csbkValue with
    serviceKind := ((csbkValue >>> (56 : UInt64) &&& 0xFF) &&& 0x3F).toUInt8
    reason := (csbkValue >>> (48 : UInt64) &&& 0xFF).toUInt8
    srcId := (csbkValue >>> (24 : UInt64) &&& 0xFFFFFF).toUInt32
    dstId := (csbkValue &&& 0xFFFFFF).toUInt32 }

/-- `CSBK_ACK_RSP::decode`. -/
def decodeAckRsp (c : CSBKObject) (csbkValue : UInt64) : CSBKObject :=
  { c.readGI csbkValue with
    reason := (csbkValue >>> (33 : UInt64) &&& 0xFF).toUInt8 }.readShortAddresses csbkValue

/-- `CSBK_MAINT::decode`. -/
def decodeMaint (c : CSBKObject) (csbkValue : UInt64) : CSBKObject :=
  { c with maintKind := ((csbkValue >>> (48 : UInt64) &&& 0xFF) >>> (1 : UInt64)).toUInt8 }.readShortAddresses csbkValue

/-- What the `decode` of the class makes of the payload. -/
def decodePayload (c : CSBKObject) (payload : Bytes) : CSBKObject :=
  let csbkValue := CSBK.toValue payload
  match c.cls with
  | .BSDWNACT => c.decodeBsdwnact csbkValue
  | .UU_V_REQ => c.decodeUuVReq csbkValue
  | .UU_ANS_RSP => c.decodeUuAnsRsp csbkValue
  | .PRECCSBK => c.decodePreccsbk csbkValue
  | .CALL_ALRT => c.decodeCallAlrt csbkValue
  | .RAND => c.decodeRand csbkValue
  | .EXT_FNCT => c.decodeExtFnct csbkValue
  | .NACK_RSP => c.decodeNackRsp csbkValue
  | .ACK_RSP => c.decodeAckRsp csbkValue
  | .MAINT => c.decodeMaint csbkValue

/-- `CSBK_CALL_ALRT::encode`. -/
def encodeCallAlrt (c : CSBKObject) : UInt64 :=
  let csbkValue : UInt64 := if c.GI then 0x40 else 0x00
  let csbkValue := csbkValue <<< (32 : UInt64) + c.dstId.toUInt64
  csbkValue <<< (24 : UInt64) + c.srcId.toUInt64

/-- `CSBK_RAND::encode`. -/
def encodeRand (c : CSBKObject) : UInt64 :=
  let csbkValue := (c.serviceOptions &&& 0x7F).toUInt64
  let csbkValue := csbkValue <<< (1 : UInt64) + if c.proxy then 0x01 else 0x00
  let csbkValue := csbkValue <<< (4 : UInt64) + (c.serviceExtra &&& 0x0F).toUInt64
  let csbkValue := csbkValue <<< (4 : UInt64) + (c.serviceKind &&& 0x0F).toUInt64
  let csbkValue := csbkValue <<< (24 : UInt64) + c.dstId.toUInt64
  csbkValue <<< (24 : UInt64) + c.srcId.toUInt64

/-- `CSBK_EXT_FNCT::encode`. -/
def encodeExtFnct (c : CSBKObject) : UInt64 :=
  let csbkValue : UInt64 := (if c.GI then 0x40 else 0x00) + if c.dataContent then 0x80 else 0x00
  let csbkValue := csbkValue <<< (8 : UInt64) + c.extendedFunction.toUInt64
  let csbkValue := csbkValue <<< (24 : UInt64) + c.srcId.toUInt64
  csbkValue <<< (24 : UInt64) + c.dstId.toUInt64

/-- `CSBK_NACK_RSP::encode`. -/
def encodeNackRsp (c : CSBKObject) : UInt64 :=
  let csbkValue : UInt64 := 0x80 + (if c.GI then 0x40 else 0x00) + (c.serviceKind &&& 0x3F).toUInt64
  let csbkValue := csbkValue <<< (8 : UInt64) + c.reason.toUInt64
  let csbkValue := csbkValue <<< (24 : UInt64) + c.srcId.toUInt64
  csbkValue <<< (24 : UInt64) + c.dstId.toUInt64

/-- `CSBK_ACK_RSP::encode`; `siteId` is that of the site data, a static member. -/
def encodeAckRsp (siteId : UInt16) (c : CSBKObject) : UInt64 :=
  let csbkValue : UInt64 :=
    if c.reason = TS_ACK_RSN_REG then 0
    else (if c.GI then 0x40 else 0x00) + (siteId &&& 0x3F).toUInt64
  let csbkValue := csbkValue <<< (7 : UInt64) + (c.response &&& 0x7F).toUInt64
  let csbkValue := csbkValue <<< (8 : UInt64) + (c.reason &&& 0xFF).toUInt64
  let csbkValue := csbkValue <<< (25 : UInt64) + c.dstId.toUInt64
  csbkValue <<< (24 : UInt64) + c.srcId.toUInt64

/-- `CSBK_MAINT::encode`. -/
def encodeMaint (c : CSBKObject) : UInt64 :=
  let csbkValue := (0 : UInt64) <<< (3 : UInt64) + (c.maintKind &&& 0x07).toUInt64
  let csbkValue := csbkValue <<< (25 : UInt64) + c.dstId.toUInt64
  csbkValue <<< (24 : UInt64) + c.srcId.toUInt64

/-- The value that the `encode` of the class writes, if it is no stub. -/
def encodeValue (siteId : UInt16) (c : CSBKObject) : Option UInt64 :=
  match c.cls with
  | .CALL_ALRT => some c.encodeCallAlrt
  | .RAND => some c.encodeRand
  | .EXT_FNCT => some c.encodeExtFnct
  | .NACK_RSP => some c.encodeNackRsp
  | .ACK_RSP => some (c.encodeAckRsp siteId)
  | .MAINT => some c.encodeMaint
  | _ => none

/-! ## The factory -/

/-- The virtual `decode` of an object: `CSBK::decode`, then the payload. -/
def decodeBurst (c : CSBKObject) (data : Bytes) : Option CSBKObject :=
  let (ret, base, csbk) := c.toCSBK.decode data fun _ => 0x00
  if !ret then none else some ({ c with toCSBK := base }.decodePayload csbk)

/-- The virtual `encode` of an object into a buffer, which a stub leaves alone. -/
def encodeBurst (siteId : UInt16) (c : CSBKObject) (data : Bytes) : Bytes :=
  match c.encodeValue siteId with
  | some csbkValue => c.toCSBK.encode data (CSBK.fromValue csbkValue)
  | none => data

end CSBKObject

namespace CSBKFactory

/-- The class of an opcode and a feature id, if there is one. -/
def classOf (csbko fid : UInt8) : Option CSBKClass :=
  if csbko = CSBKO_BSDWNACT then some .BSDWNACT
  else if csbko = CSBKO_UU_V_REQ then some .UU_V_REQ
  else if csbko = CSBKO_UU_ANS_RSP then some .UU_ANS_RSP
  else if csbko = CSBKO_PRECCSBK then some .PRECCSBK
  else if csbko = CSBKO_RAND then if fid = FID_DMRA then some .CALL_ALRT else some .RAND
  else if csbko = CSBKO_EXT_FNCT then some .EXT_FNCT
  else if csbko = CSBKO_NACK_RSP then some .NACK_RSP
  else if csbko = CSBKO_ACK_RSP then some .ACK_RSP
  else if csbko = CSBKO_MAINT then some .MAINT
  else none

/-- `createCSBK`. -/
def createCSBK (data : Bytes) (dataType : UInt8) : Option CSBKObject :=
  let csbk := CSBK.maskCRC dataType (BPTC19696.decode data fun _ => 0x00)
  if !CRC.checkCCITT162 csbk DMR_CSBK_LENGTH_BYTES then none
  else
    let csbk := CSBK.maskCRC dataType csbk
    match classOf (csbk 0 &&& 0x3F) (csbk 1) with
    | some cls => cls.new.decodeBurst data
    | none => none

end CSBKFactory

end Dmr

end DvmHost

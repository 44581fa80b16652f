import DvmHost.Common.Nxdn.Lc.RCCH

/-!
# `Common.Nxdn.Lc.Rcch.RCCHFactory` — the control channel messages that are received

`src/common/nxdn/lc/rcch/RCCHFactory.cpp` and the classes that it makes, `MESSAGE_TYPE_VCALL_CONN`,
`MESSAGE_TYPE_DCALL_HDR`, `MESSAGE_TYPE_IDLE`, `MESSAGE_TYPE_REG`, `MESSAGE_TYPE_REG_C` and `MESSAGE_TYPE_GRP_REG` of the
same directory.
-/

namespace DvmHost

namespace Nxdn

/-- The classes that the factory makes. -/
inductive RCCHClass where
  | VCALL_CONN
  | DCALL_HDR
  | IDLE
  | REG
  | REG_C
  | GRP_REG
deriving DecidableEq

/-- An object of one of the classes. -/
structure RCCHObject extends RCCH where
  cls : RCCHClass
deriving DecidableEq

namespace RCCHClass

/-- The message type that the constructor of the class sets. -/
def messageType : RCCHClass → UInt8
  | .VCALL_CONN => RCCH_MESSAGE_TYPE_VCALL_CONN
  | .DCALL_HDR => RTCH_MESSAGE_TYPE_DCALL_HDR
  | .IDLE => MESSAGE_TYPE_IDLE
  | .REG => RCCH_MESSAGE_TYPE_REG
  | .REG_C => RCCH_MESSAGE_TYPE_REG_C
  | .GRP_REG => RCCH_MESSAGE_TYPE_GRP_REG

/-- The constructor of the class. -/
def new (cls : RCCHClass) : RCCHObject := { RCCH.new with messageType := cls.messageType, cls }

end RCCHClass

namespace RCCHObject

/-! ## Decoding -/

/-- A request for a call: its type, flags and mode, and the two addresses. -/
def decodeCall (r : RCCHObject) (rcch : Bytes) : RCCHObject :=
  { r with
    callType := rcch 2 >>> (5 : UInt8) &&& 0x07
    emergency := decide (rcch 1 &&& 0x80 = 0x80)
    priority := decide (rcch 1 &&& 0x20 = 0x20)
    duplex := decide (rcch 2 &&& 0x10 = 0x10)
    transmissionMode := rcch 2 &&& 0x07
    srcId := word16 (rcch 3) (rcch 4)
    dstId := word16 (rcch 5) (rcch 6) }

/-- What `MESSAGE_TYPE_VCALL_CONN::decode` reads. -/
def decodeVcallConn (r : RCCHObject) (rcch : Bytes) : RCCHObject := r.decodeCall rcch

/-- What `MESSAGE_TYPE_DCALL_HDR::decode` reads. -/
def decodeDcallHdr (r : RCCHObject) (rcch : Bytes) : RCCHObject := r.decodeCall rcch

/-- What `MESSAGE_TYPE_REG::decode` reads. -/
def decodeReg (r : RCCHObject) (rcch : Bytes) : RCCHObject :=
  { r with
    regOption := rcch 1 >>> (3 : UInt8)
    locId := (word16 (rcch 2) (rcch 3)).toUInt32
    srcId := word16 (rcch 4) (rcch 5)
    dstId := word16 (rcch 6) (rcch 7)
    version := rcch 10 }

/-- What `MESSAGE_TYPE_REG_C::decode` reads. -/
def decodeRegC (r : RCCHObject) (rcch : Bytes) : RCCHObject :=
  { r with
    regOption := rcch 1 >>> (3 : UInt8)
    locId := (word16 (rcch 2) (rcch 3)).toUInt32
    srcId := word16 (rcch 4) (rcch 5) }

/-- What `MESSAGE_TYPE_GRP_REG::decode` reads. -/
def decodeGrpReg (r : RCCHObject) (rcch : Bytes) : RCCHObject :=
  { r with regOption := rcch 1, srcId := word16 (rcch 2) (rcch 3), dstId := word16 (rcch 4) (rcch 5) }

/-- What the class reads of its octets. -/
def decodeFields (r : RCCHObject) (rcch : Bytes) : RCCHObject :=
  match r.cls with
  | .VCALL_CONN => r.decodeVcallConn rcch
  | .DCALL_HDR => r.decodeDcallHdr rcch
  | .IDLE => r
  | .REG => r.decodeReg rcch
  | .REG_C => r.decodeRegC rcch
  | .GRP_REG => r.decodeGrpReg rcch

/-- The virtual `decode` of an object. -/
def decode (r : RCCHObject) (data : Bytes) (length offset : Nat) : RCCHObject :=
  let (base, rcch) := r.toRCCH.decode data (fun _ => 0x00) length offset
  { r with toRCCH := base }.decodeFields rcch

/-! ## Encoding -/

/-- An identity of two octets. -/
def setWord16 (rcch : Bytes) (i : Nat) (v : UInt16) : Bytes :=
  setByte (setByte rcch i (v >>> (8 : UInt16) &&& 0xFF).toUInt8) (i + 1) (v >>> (0 : UInt16) &&& 0xFF).toUInt8

/-- The location of the site, a static member. -/
def setLocId (rcch : Bytes) (i : Nat) (locId : UInt32) : Bytes :=
  setByte (setByte rcch i (locId >>> (8 : UInt32) &&& 0xFF).toUInt8) (i + 1) (locId >>> (0 : UInt32) &&& 0xFF).toUInt8

/-- The response to a request for a call. -/
def encodeCall (locId : UInt32) (r : RCCHObject) : Bytes :=
  let rcch : Bytes := fun _ => 0x00
  let rcch := setByte rcch 1 ((if r.emergency then 0x80 else 0x00) + (if r.priority then 0x20 else 0x00))
  let rcch := setByte rcch 2 ((r.callType &&& 0x07) <<< (5 : UInt8) + (if r.duplex then 0x10 else 0x00) +
    (r.transmissionMode &&& 0x07))
  let rcch := setWord16 rcch 3 r.srcId
  let rcch := setWord16 rcch 5 r.dstId
  let rcch := setByte rcch 7 r.causeRsp
  setLocId rcch 9 locId

/-- What `MESSAGE_TYPE_VCALL_CONN::encode` writes. -/
def encodeVcallConn (locId : UInt32) (r : RCCHObject) : Bytes := r.encodeCall locId

/-- What `MESSAGE_TYPE_DCALL_HDR::encode` writes. -/
def encodeDcallHdr (locId : UInt32) (r : RCCHObject) : Bytes := r.encodeCall locId

/-- What `MESSAGE_TYPE_REG::encode` writes. -/
def encodeReg (locId : UInt32) (r : RCCHObject) : Bytes :=
  let rcch := setLocId (fun _ => 0x00) 2 locId
  let rcch := setWord16 rcch 4 r.srcId
  let rcch := setWord16 rcch 6 r.dstId
  setByte rcch 8 r.causeRsp

/-- What `MESSAGE_TYPE_REG_C::encode` writes. -/
def encodeRegC (locId : UInt32) (r : RCCHObject) : Bytes :=
  let rcch := setLocId (fun _ => 0x00) 2 locId
  let rcch := setWord16 rcch 4 r.dstId
  setByte rcch 6 r.causeRsp

/-- What `MESSAGE_TYPE_GRP_REG::encode` writes. -/
def encodeGrpReg (locId : UInt32) (r : RCCHObject) : Bytes :=
  let rcch := setWord16 (fun _ => 0x00) 2 r.srcId
  let rcch := setWord16 rcch 4 r.dstId
  let rcch := setByte rcch 6 r.causeRsp
  setLocId rcch 8 locId

/-- What the class writes into its octets. -/
def encodeFields (locId : UInt32) (r : RCCHObject) : Bytes :=
  match r.cls with
  | .VCALL_CONN => r.encodeVcallConn locId
  | .DCALL_HDR => r.encodeDcallHdr locId
  | .IDLE => fun _ => 0x00
  | .REG => r.encodeReg locId
  | .REG_C => r.encodeRegC locId
  | .GRP_REG => r.encodeGrpReg locId

/-- The virtual `encode` of an object. -/
def encode (locId : UInt32) (r : RCCHObject) (data : Bytes) (length offset : Nat) : Bytes :=
  r.toRCCH.encode data (r.encodeFields locId) length offset

end RCCHObject

namespace RCCHFactory

/-- The class of a message type, if there is one. -/
def classOf (messageType : UInt8) : Option RCCHClass :=
  if messageType = RTCH_MESSAGE_TYPE_VCALL ∨ messageType = RCCH_MESSAGE_TYPE_VCALL_CONN then some .VCALL_CONN
  else if messageType = RTCH_MESSAGE_TYPE_DCALL_HDR then some .DCALL_HDR
  else if messageType = MESSAGE_TYPE_IDLE then some .IDLE
  else if messageType = RCCH_MESSAGE_TYPE_REG then some .REG
  else if messageType = RCCH_MESSAGE_TYPE_REG_C then some .REG_C
  else if messageType = RCCH_MESSAGE_TYPE_GRP_REG then some .GRP_REG
  else none

/-- `createRCCH`. The loop that copies the bits into octets that nothing reads advances the offset, which the object is
    then given. -/
def createRCCH (data : Bytes) (length offset : Nat) : Option RCCHObject :=
  let offset := offset + length
  match classOf (data 0 &&& 0x3F) with
  | some cls => some (cls.new.decode data length offset)
  | none => none

end RCCHFactory

end Nxdn

end DvmHost

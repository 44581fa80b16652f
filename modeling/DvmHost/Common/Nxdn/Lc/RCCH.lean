import DvmHost.Common.Nxdn.Lc.RTCH

/-!
# `Common.Nxdn.Lc.RCCH` — NXDN layer 3 messages of the control channel

`src/common/nxdn/lc/RCCH.cpp`, the base class of the messages of `src/common/nxdn/lc/rcch`: it copies the bits of a
message into the 22 octets that the derived class reads, and those that the derived class has filled into the message.
-/

namespace DvmHost

namespace Nxdn

/-- `NXDN_RCCH_LC_LENGTH_BYTES`. -/
abbrev NXDN_RCCH_LC_LENGTH_BYTES : Nat := 18

/-- `NXDN_RCCH_CAC_LC_LONG_LENGTH_BITS`. -/
abbrev NXDN_RCCH_CAC_LC_LONG_LENGTH_BITS : Nat := 128

/-- `NXDN_RCCH_CAC_LC_SHORT_LENGTH_BITS`. -/
abbrev NXDN_RCCH_CAC_LC_SHORT_LENGTH_BITS : Nat := 96

/-- `RCCH_MESSAGE_TYPE_VCALL_CONN`. -/
def RCCH_MESSAGE_TYPE_VCALL_CONN : UInt8 := 0x03

/-- `RCCH_MESSAGE_TYPE_REG`. -/
def RCCH_MESSAGE_TYPE_REG : UInt8 := 0x20

/-- `RCCH_MESSAGE_TYPE_REG_C`. -/
def RCCH_MESSAGE_TYPE_REG_C : UInt8 := 0x22

/-- `RCCH_MESSAGE_TYPE_GRP_REG`. -/
def RCCH_MESSAGE_TYPE_GRP_REG : UInt8 := 0x24

/-- `NXDN_CAUSE_MM_REG_ACCEPTED`. -/
def NXDN_CAUSE_MM_REG_ACCEPTED : UInt8 := 0x01

/-- `CALL_TYPE_UNSPECIFIED`. -/
def CALL_TYPE_UNSPECIFIED : UInt8 := 0x02

/-- `TRANSMISSION_MODE_4800`. -/
def TRANSMISSION_MODE_4800 : UInt8 := 0x00

/-- The members of `RCCH`. -/
structure RCCH where
  messageType : UInt8
  srcId : UInt16
  dstId : UInt16
  locId : UInt32
  regOption : UInt8
  version : UInt8
  causeRsp : UInt8
  grpVchNo : UInt32
  callType : UInt8
  emergency : Bool
  encrypted : Bool
  priority : Bool
  group : Bool
  duplex : Bool
  transmissionMode : UInt8
deriving DecidableEq

namespace RCCH

/-- `RCCH()`. -/
def new : RCCH where
  messageType := MESSAGE_TYPE_IDLE
  srcId := 0
  dstId := 0
  locId := 0
  regOption := 0
  version := 0
  causeRsp := NXDN_CAUSE_MM_REG_ACCEPTED
  grpVchNo := 0
  callType := CALL_TYPE_UNSPECIFIED
  emergency := false
  encrypted := false
  priority := false
  group := true
  duplex := false
  transmissionMode := TRANSMISSION_MODE_4800

/-- `decode`: the object, and the octets for the derived class. The message type is that of the buffer, not that of the
    bits that are copied. -/
def decode (r : RCCH) (data rcch : Bytes) (length offset : Nat) : RCCH × Bytes :=
  ({ r with messageType := data 0 &&& 0x3F }, copyBits rcch 0 data offset length)

/-- `encode`, of the octets of the derived class. -/
def encode (r : RCCH) (data rcch : Bytes) (length offset : Nat) : Bytes :=
  let data := copyBits data offset rcch 0 length
  if data 0 = 0x00 then setByte data 0 (r.messageType &&& 0x3F) else data

end RCCH

end Nxdn

end DvmHost

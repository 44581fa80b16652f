import DvmHost.Common.Utils

/-!
# `Common.Nxdn.Lc.PacketInformation` — packet information of NXDN data calls

`src/common/nxdn/lc/PacketInformation.cpp`: three octets of a data call header, or two of its acknowledgement.
-/

namespace DvmHost

namespace Nxdn

/-- `RTCH_MESSAGE_TYPE_DCALL_HDR`. -/
def RTCH_MESSAGE_TYPE_DCALL_HDR : UInt8 := 0x09

/-- `RTCH_MESSAGE_TYPE_DCALL_ACK`. -/
def RTCH_MESSAGE_TYPE_DCALL_ACK : UInt8 := 0x0C

/-- `RTCH_MESSAGE_TYPE_SDCALL_REQ_HDR`. -/
def RTCH_MESSAGE_TYPE_SDCALL_REQ_HDR : UInt8 := 0x38

/-- `NXDN_PCKT_INFO_LENGTH_BYTES`. -/
abbrev NXDN_PCKT_INFO_LENGTH_BYTES : Nat := 3

/-- The members of `PacketInformation`. -/
structure PacketInformation where
  delivery : Bool
  selectiveRetry : Bool
  blockCount : UInt8
  padCount : UInt8
  start : Bool
  circular : Bool
  fragmentCount : UInt16
  rspClass : UInt8
  rspType : UInt8
  rspErrorBlock : UInt16

namespace PacketInformation

/-- `PacketInformation()`. -/
def new : PacketInformation :=
  { delivery := false, selectiveRetry := false, blockCount := 0, padCount := 0, start := true, circular := false,
    fragmentCount := 0, rspClass := 0x00, rspType := 1, rspErrorBlock := 0 }

/-- The lines of `decode` that the two headers share. -/
def decodeHeader (p : PacketInformation) (data : Bytes) : PacketInformation :=
  { p with
    delivery := decide (data 0 &&& 0x80 = 0x80), selectiveRetry := decide (data 0 &&& 0x20 = 0x20),
    blockCount := data 0 &&& 0x0F, padCount := data 1 >>> (3 : UInt8) &&& 0x1F,
    start := decide (data 1 &&& 0x08 = 0x08), circular := decide (data 1 &&& 0x04 = 0x04) }

/-- The nine bits of a fragment count. -/
def fragments (high low : UInt8) : UInt16 := (high &&& 0x01).toUInt16 <<< (8 : UInt16) + low.toUInt16

/-- `decode`. -/
def decode (p : PacketInformation) (messageType : UInt8) (data : Bytes) : Bool × PacketInformation :=
  if messageType = RTCH_MESSAGE_TYPE_DCALL_HDR then
    (true, { decodeHeader p data with fragmentCount := fragments (data 1) (data 2) })
  else if messageType = RTCH_MESSAGE_TYPE_DCALL_ACK then
    (true, { p with
      rspClass := data 0 >>> (4 : UInt8) &&& 0x03, rspType := data 0 >>> (1 : UInt8) &&& 0x07,
      fragmentCount := fragments (data 0) (data 1) })
  else if messageType = RTCH_MESSAGE_TYPE_SDCALL_REQ_HDR then (true, decodeHeader p data)
  else (false, p)

/-- The lines of `encode` that the two headers share. Neither count is masked. -/
def encodeHeader (p : PacketInformation) (data : Bytes) : Bytes :=
  let data : Bytes := fun k => if k < NXDN_PCKT_INFO_LENGTH_BYTES then 0x00 else data k
  let data := setByte data 0 ((if p.delivery then 0x80 else 0x00) + (if p.selectiveRetry then 0x20 else 0x00) +
    p.blockCount)
  setByte data 1 (p.padCount <<< (3 : UInt8) + (if p.start then 0x08 else 0x00) + (if p.circular then 0x04 else 0x00))

/-- `highFragCount`, as the bit it adds. -/
def highFragCount (p : PacketInformation) : UInt8 := if p.fragmentCount &&& 0x100 = 0x100 then 0x01 else 0x00

/-- `encode`. In `m_rspClass & 0x03U << 4` and `m_rspType & 0x07U << 1` the shift binds closer than the mask. -/
def encode (p : PacketInformation) (messageType : UInt8) (data : Bytes) : Bytes :=
  if messageType = RTCH_MESSAGE_TYPE_DCALL_HDR then
    let data := encodeHeader p data
    let data := setByte data 1 (data 1 + p.highFragCount)
    setByte data 2 (p.fragmentCount &&& 0xFF).toUInt8
  else if messageType = RTCH_MESSAGE_TYPE_DCALL_ACK then
    let data := setByte data 0 ((p.rspClass &&& (0x03 : UInt8) <<< (4 : UInt8)) +
      (p.rspType &&& (0x07 : UInt8) <<< (1 : UInt8)))
    let data := setByte data 0 (data 0 + p.highFragCount)
    setByte data 1 (p.fragmentCount &&& 0xFF).toUInt8
  else if messageType = RTCH_MESSAGE_TYPE_SDCALL_REQ_HDR then encodeHeader p data
  else data

end PacketInformation

end Nxdn

end DvmHost

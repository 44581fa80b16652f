import DvmHost.Common.Edac.CRC
import DvmHost.Common.Edac.Trellis
import DvmHost.Common.P25.Lc.LC

/-!
# `Common.P25.Data.DataHeader` — headers of P25 packet data

`src/common/p25/data/DataHeader.cpp`: twelve octets that four packet formats share, with a CRC and a rate 1/2
trellis. Which octets carry what depends on the format, in two `switch`es that are kept apart here as they are in
the source.
-/

namespace DvmHost

namespace P25

/-- `P25_PDU_HEADER_LENGTH_BYTES`. -/
abbrev P25_PDU_HEADER_LENGTH_BYTES : Nat := 12

/-- `PDU_FMT_RSP`. -/
def PDU_FMT_RSP : UInt8 := 0x03

/-- `PDU_FMT_UNCONFIRMED`. -/
def PDU_FMT_UNCONFIRMED : UInt8 := 0x15

/-- `PDU_FMT_CONFIRMED`. -/
def PDU_FMT_CONFIRMED : UInt8 := 0x16

/-- `PDU_FMT_AMBT`. -/
def PDU_FMT_AMBT : UInt8 := 0x17

/-- `PDU_SAP_USER_DATA`. -/
def PDU_SAP_USER_DATA : UInt8 := 0x00

/-- `PDU_ACK_CLASS_NACK`. -/
def PDU_ACK_CLASS_NACK : UInt8 := 0x01

/-- `PDU_ACK_TYPE_NACK_ILLEGAL`. -/
def PDU_ACK_TYPE_NACK_ILLEGAL : UInt8 := 0x00

/-- The members of `DataHeader`. -/
structure DataHeader where
  ackNeeded : Bool
  outbound : Bool
  fmt : UInt8
  sap : UInt8
  mfId : UInt8
  llId : UInt32
  F : Bool
  S : Bool
  fsn : UInt8
  Ns : UInt8
  lastFragment : Bool
  headerOffset : UInt8
  srcLlId : UInt32
  rspClass : UInt8
  rspType : UInt8
  rspStatus : UInt8
  ambtOpcode : UInt8
  ambtField8 : UInt8
  ambtField9 : UInt8
  blocksToFollow : UInt8
  padCount : UInt8
  dataOctets : UInt32
  data : Bytes

namespace DataHeader

/-- `DataHeader()`. -/
def new : DataHeader :=
  { ackNeeded := false, outbound := false, fmt := PDU_FMT_CONFIRMED, sap := 0, mfId := P25_MFG_STANDARD, llId := 0,
    F := true, S := false, fsn := 0, Ns := 0, lastFragment := true, headerOffset := 0, srcLlId := 0,
    rspClass := PDU_ACK_CLASS_NACK, rspType := PDU_ACK_TYPE_NACK_ILLEGAL, rspStatus := 0, ambtOpcode := 0,
    ambtField8 := 0, ambtField9 := 0, blocksToFollow := 0, padCount := 0, dataOctets := 0, data := fun _ => 0x00 }

/-- `setBlocksToFollow`. -/
def setBlocksToFollow (h : DataHeader) (blocksToFollow : UInt8) : DataHeader :=
  { h with
    blocksToFollow := blocksToFollow
    dataOctets :=
      if h.fmt = PDU_FMT_CONFIRMED then 16 * blocksToFollow.toUInt32 - 4 - h.padCount.toUInt32
      else 12 * blocksToFollow.toUInt32 - 4 - h.padCount.toUInt32 }

/-- `setPadCount`. -/
def setPadCount (h : DataHeader) (padCount : UInt8) : DataHeader :=
  { h with
    padCount := padCount
    dataOctets :=
      if h.fmt = PDU_FMT_CONFIRMED then 16 * h.blocksToFollow.toUInt32 - 4 - padCount.toUInt32
      else 12 * h.blocksToFollow.toUInt32 - 4 - padCount.toUInt32 }

/-! ## Decoding -/

/-- The fields that `decode` reads before its `switch`. -/
def decodeCommon (h : DataHeader) : DataHeader :=
  let fmt := h.data 0 &&& 0x1F
  let blocksToFollow := h.data 6 &&& 0x7F
  let padCount := h.data 7 &&& 0x1F
  let padCount := if fmt = PDU_FMT_RSP ∨ fmt = PDU_FMT_AMBT then 0 else padCount
  { h with
    ackNeeded := decide (h.data 0 &&& 0x40 = 0x40), outbound := decide (h.data 0 &&& 0x20 = 0x20), fmt := fmt,
    sap := h.data 1 &&& 0x3F, mfId := h.data 2, llId := sum24 (h.data 3) (h.data 4) (h.data 5),
    F := decide (h.data 6 &&& 0x80 = 0x80), blocksToFollow := blocksToFollow, padCount := padCount,
    dataOctets :=
      if fmt = PDU_FMT_CONFIRMED then 16 * blocksToFollow.toUInt32 - 4 - padCount.toUInt32
      else 12 * blocksToFollow.toUInt32 - 4 - padCount.toUInt32 }

/-- The last lines of the `switch`, which the formats without a case of their own share. -/
def decodeDefault (h : DataHeader) : DataHeader :=
  { h with ackNeeded := false, S := false, Ns := 0, fsn := 0, headerOffset := 0 }

/-- The `switch` of `decode`. -/
def decodeFormat (h : DataHeader) : DataHeader :=
  if h.fmt = PDU_FMT_CONFIRMED then
    { h with
      S := decide (h.data 8 &&& 0x80 = 0x80), Ns := h.data 8 >>> (4 : UInt8) &&& 0x07, fsn := h.data 8 &&& 0x07,
      lastFragment := decide (h.data 8 &&& 0x08 = 0x08), headerOffset := h.data 9 &&& 0x3F }
  else if h.fmt = PDU_FMT_RSP then
    let h := { h with
      ackNeeded := false, sap := PDU_SAP_USER_DATA, rspClass := h.data 1 >>> (6 : UInt8) &&& 0x03,
      rspType := h.data 1 >>> (3 : UInt8) &&& 0x07, rspStatus := h.data 1 &&& 0x07 }
    if !h.F then { h with srcLlId := sum24 (h.data 7) (h.data 8) (h.data 9) } else h
  else if h.fmt = PDU_FMT_AMBT then
    -- falls through
    decodeDefault { h with ambtOpcode := h.data 7 &&& 0x3F, ambtField8 := h.data 8, ambtField9 := h.data 9 }
  else decodeDefault h

/-- `decode`, whose static member `m_warnCRC` is an argument. -/
def decode (h : DataHeader) (warnCRC : Bool) (data : Bytes) (noTrellis : Bool) : Bool × DataHeader :=
  let payload : Option Bytes :=
    if noTrellis then some fun k => if k < P25_PDU_HEADER_LENGTH_BYTES then data k else h.data k
    else Trellis.decode12 data h.data
  match payload with
  | none => (false, h)
  | some m_data =>
      let h := { h with data := m_data }
      if !CRC.checkCCITT162 h.data P25_PDU_HEADER_LENGTH_BYTES && !warnCRC then (false, h)
      else (true, decodeFormat (decodeCommon h))

/-! ## Encoding -/

/-- The changes that `encode` makes to the header itself. -/
def normalize (h : DataHeader) : DataHeader :=
  let h := if h.fmt = PDU_FMT_UNCONFIRMED ∨ h.fmt = PDU_FMT_RSP then { h with ackNeeded := false } else h
  if h.fmt = PDU_FMT_CONFIRMED ∧ !h.ackNeeded then { h with ackNeeded := true } else h

/-- The octets that `encode` writes before its `switch`. -/
def encodeCommon (h : DataHeader) : Bytes :=
  let header : Bytes := fun _ => 0x00
  let header := setByte header 0 ((if h.ackNeeded then 0x40 else 0x00) + (if h.outbound then 0x20 else 0x00) +
    (h.fmt &&& 0x1F))
  let header := setByte header 1 (h.sap &&& 0x3F)
  let header := setByte header 1 (header 1 ||| 0xC0)
  let header := setByte header 2 h.mfId
  let header := setByte header 3 (h.llId >>> (16 : UInt32) &&& 0xFF).toUInt8
  let header := setByte header 4 (h.llId >>> (8 : UInt32) &&& 0xFF).toUInt8
  let header := setByte header 5 (h.llId >>> (0 : UInt32) &&& 0xFF).toUInt8
  setByte header 6 ((if h.F then 0x80 else 0x00) + (h.blocksToFollow &&& 0x7F))

/-- The `switch` of `encode`. -/
def encodeFormat (h : DataHeader) (header : Bytes) : Bytes :=
  if h.fmt = PDU_FMT_CONFIRMED then
    let header := setByte header 7 (h.padCount &&& 0x1F)
    let header := setByte header 8 ((if h.S then 0x80 else 0x00) + (h.Ns &&& 0x07) <<< (4 : UInt8) +
      (if h.lastFragment then 0x08 else 0x00) + (h.fsn &&& 0x07))
    setByte header 9 (h.headerOffset &&& 0x3F)
  else if h.fmt = PDU_FMT_RSP then
    let header := setByte header 1 ((h.rspClass &&& 0x03) <<< (6 : UInt8) + (h.rspType &&& 0x07) <<< (3 : UInt8) +
      (h.rspStatus &&& 0x07))
    if !h.F then
      let header := setByte header 7 (h.srcLlId >>> (16 : UInt32) &&& 0xFF).toUInt8
      let header := setByte header 8 (h.srcLlId >>> (8 : UInt32) &&& 0xFF).toUInt8
      setByte header 9 (h.srcLlId >>> (0 : UInt32) &&& 0xFF).toUInt8
    else header
  else if h.fmt = PDU_FMT_AMBT then
    let header := setByte header 7 (h.ambtOpcode &&& 0x3F)
    let header := setByte header 8 h.ambtField8
    setByte header 9 h.ambtField9
  else
    let header := setByte header 7 (h.padCount &&& 0x1F)
    let header := setByte header 8 0x00
    setByte header 9 (h.headerOffset &&& 0x3F)

/-- `encode`: the header and the buffer. -/
def encode (h : DataHeader) (data : Bytes) (noTrellis : Bool) : DataHeader × Bytes :=
  let h := normalize h
  let header := encodeFormat h (encodeCommon h)
  let header := CRC.addCCITT162 header P25_PDU_HEADER_LENGTH_BYTES
  (h, if !noTrellis then Trellis.encode12 header data
    else fun k => if k < P25_PDU_HEADER_LENGTH_BYTES then header k else data k)

end DataHeader

end P25

end DvmHost

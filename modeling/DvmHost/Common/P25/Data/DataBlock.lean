import DvmHost.Common.P25.Data.DataHeader

/-!
# `Common.P25.Data.DataBlock` — blocks of P25 packet data

`src/common/p25/data/DataBlock.cpp`. A confirmed block has a serial number, a 9-bit CRC and sixteen octets under the
rate 3/4 trellis; a block of any other format is twelve octets under the rate 1/2 trellis. The first confirmed block
behind a header with extended addressing begins with an address.
-/

namespace DvmHost

namespace P25

/-- `P25_PDU_CONFIRMED_LENGTH_BYTES`. -/
abbrev P25_PDU_CONFIRMED_LENGTH_BYTES : Nat := 18

/-- `P25_PDU_CONFIRMED_DATA_LENGTH_BYTES`. -/
abbrev P25_PDU_CONFIRMED_DATA_LENGTH_BYTES : Nat := 16

/-- `P25_PDU_UNCONFIRMED_LENGTH_BYTES`. -/
abbrev P25_PDU_UNCONFIRMED_LENGTH_BYTES : Nat := 12

/-- `PDU_SAP_EXT_ADDR`. -/
def PDU_SAP_EXT_ADDR : UInt8 := 0x1F

/-- The members of `DataBlock`. -/
structure DataBlock where
  serialNo : UInt8
  lastBlock : Bool
  llId : UInt32
  sap : UInt8
  fmt : UInt8
  headerSap : UInt8
  data : Bytes

namespace DataBlock

/-- `DataBlock()`. The buffer is allocated and not cleared. -/
def new (data : Bytes) : DataBlock :=
  { serialNo := 0, lastBlock := false, llId := 0, sap := 0, fmt := PDU_FMT_CONFIRMED, headerSap := 0, data := data }

/-! ## Decoding -/

/-- What a confirmed block is read from its eighteen octets. The CRC is compared for a warning in the log only. -/
def decodeConfirmed (b : DataBlock) (buffer : Bytes) : DataBlock :=
  let b := { b with serialNo := (buffer 0 &&& 0xFE) >>> (1 : UInt8), data := fun _ => 0x00 }
  if b.headerSap = PDU_SAP_EXT_ADDR ∧ b.serialNo = 0 then
    { b with
      sap := buffer 5 &&& 0x3F, llId := sum24 (buffer 2) (buffer 3) (buffer 4),
      data := memcpy b.data 0 (fromByte 2 buffer) P25_PDU_CONFIRMED_DATA_LENGTH_BYTES }
  else { b with data := memcpy b.data 0 (fromByte 2 buffer) P25_PDU_CONFIRMED_DATA_LENGTH_BYTES }

/-- `decode`. -/
def decode (b : DataBlock) (data : Bytes) (header : DataHeader) : Bool × DataBlock :=
  let buffer : Bytes := fun _ => 0x00
  let b := { b with fmt := header.fmt, headerSap := header.sap, serialNo := 0, lastBlock := false, llId := 0 }
  if b.fmt = PDU_FMT_CONFIRMED then
    match Trellis.decode34 data buffer with
    | none => (false, b)
    | some buffer => (true, decodeConfirmed b buffer)
  else if b.fmt = PDU_FMT_UNCONFIRMED ∨ b.fmt = PDU_FMT_RSP ∨ b.fmt = PDU_FMT_AMBT then
    match Trellis.decode12 data buffer with
    | none => (false, b)
    | some buffer => (true, { b with data := memcpy (fun _ => 0x00) 0 buffer P25_PDU_UNCONFIRMED_LENGTH_BYTES })
  else (true, b)

/-! ## Encoding -/

/-- The octets of a confirmed block before the CRC. -/
def confirmedOctets (b : DataBlock) : Bytes :=
  let buffer : Bytes := fun _ => 0x00
  let buffer := setByte buffer 0 (b.serialNo <<< (1 : UInt8) &&& 0xFE)
  if b.headerSap = PDU_SAP_EXT_ADDR ∧ b.serialNo = 0 then
    let buffer := setByte buffer 5 (b.sap &&& 0x3F)
    let buffer := setByte buffer 2 (b.llId >>> (16 : UInt32) &&& 0xFF).toUInt8
    let buffer := setByte buffer 3 (b.llId >>> (8 : UInt32) &&& 0xFF).toUInt8
    let buffer := setByte buffer 4 (b.llId >>> (0 : UInt32) &&& 0xFF).toUInt8
    memcpy buffer 6 b.data (P25_PDU_CONFIRMED_DATA_LENGTH_BYTES - 4)
  else memcpy buffer 2 b.data P25_PDU_CONFIRMED_DATA_LENGTH_BYTES

/-- The lines of `encode` that add the CRC. -/
def addCRC9 (buffer : Bytes) : Bytes :=
  let crc := CRC.crc9 buffer 144
  let buffer := setByte buffer 0 (buffer 0 + (crc >>> (8 : UInt16) &&& 0x01).toUInt8)
  setByte buffer 1 (crc &&& 0xFF).toUInt8

/-- `encode`. -/
def encode (b : DataBlock) (data : Bytes) : Bytes :=
  if b.fmt = PDU_FMT_CONFIRMED then Trellis.encode34 (addCRC9 (confirmedOctets b)) data
  else if b.fmt = PDU_FMT_UNCONFIRMED ∨ b.fmt = PDU_FMT_RSP ∨ b.fmt = PDU_FMT_AMBT then
    Trellis.encode12 (memcpy (fun _ => 0x00) 0 b.data P25_PDU_UNCONFIRMED_LENGTH_BYTES) data
  else data

/-- `getData`, to the octets from `offset` on: how many, and the buffer. -/
def getData (b : DataBlock) (buffer : Bytes) (offset : Nat) : Nat × Bytes :=
  if b.fmt = PDU_FMT_CONFIRMED then
    (P25_PDU_CONFIRMED_DATA_LENGTH_BYTES, memcpy buffer offset b.data P25_PDU_CONFIRMED_DATA_LENGTH_BYTES)
  else if b.fmt = PDU_FMT_UNCONFIRMED ∨ b.fmt = PDU_FMT_RSP ∨ b.fmt = PDU_FMT_AMBT then
    (P25_PDU_UNCONFIRMED_LENGTH_BYTES, memcpy buffer offset b.data P25_PDU_UNCONFIRMED_LENGTH_BYTES)
  else (0, buffer)

end DataBlock

end P25

end DvmHost

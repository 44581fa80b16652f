import DvmHost.Common.Edac.BPTC19696
import DvmHost.Common.Edac.CRC

/-!
# `Common.Dmr.Data.DataHeader` — headers of DMR data packets

`src/common/dmr/data/DataHeader.cpp`: ten octets and a masked CRC under the block product turbo code. Seven packet
formats share the octets; each `switch` of the source is one definition.
-/

namespace DvmHost

namespace Dmr

/-- `DMR_LC_HEADER_LENGTH_BYTES`. -/
abbrev DMR_LC_HEADER_LENGTH_BYTES : Nat := 12

/-- `DPF_UDT`. -/
def DPF_UDT : UInt8 := 0x00

/-- `DPF_RESPONSE`. -/
def DPF_RESPONSE : UInt8 := 0x01

/-- `DPF_UNCONFIRMED_DATA`. -/
def DPF_UNCONFIRMED_DATA : UInt8 := 0x02

/-- `DPF_CONFIRMED_DATA`. -/
def DPF_CONFIRMED_DATA : UInt8 := 0x03

/-- `DPF_DEFINED_SHORT`. -/
def DPF_DEFINED_SHORT : UInt8 := 0x0D

/-- `DPF_DEFINED_RAW`. -/
def DPF_DEFINED_RAW : UInt8 := 0x0E

/-- `DPF_PROPRIETARY`. -/
def DPF_PROPRIETARY : UInt8 := 0x0F

/-- `DATA_HEADER_CRC_MASK`, whose two octets are the same. -/
def DATA_HEADER_CRC_MASK : UInt8 := 0xCC

/-- The members of `DataHeader`. -/
structure DataHeader where
  GI : Bool
  DPF : UInt8
  sap : UInt8
  fsn : UInt8
  Ns : UInt8
  padCount : UInt8
  F : Bool
  S : Bool
  dataFormat : UInt8
  srcId : UInt32
  dstId : UInt32
  blocks : UInt32
  rspClass : UInt8
  rspType : UInt8
  rspStatus : UInt8
  srcPort : UInt8
  dstPort : UInt8
  data : Bytes
  A : Bool
  SF : Bool
  PF : Bool
  UDTO : UInt8

namespace DataHeader

/-- `DataHeader()`. The buffer is allocated and not cleared. -/
def new (data : Bytes) : DataHeader :=
  { GI := false, DPF := DPF_UDT, sap := 0, fsn := 0, Ns := 0, padCount := 0, F := false, S := false, dataFormat := 0,
    srcId := 0, dstId := 0, blocks := 0, rspClass := 0x01, rspType := 0x00, rspStatus := 0, srcPort := 0, dstPort := 0,
    data := data, A := false, SF := false, PF := false, UDTO := 0 }

/-- The lines `m_data[10U] ^= DATA_HEADER_CRC_MASK[0U]; m_data[11U] ^= DATA_HEADER_CRC_MASK[1U];`. -/
def maskCRC (m_data : Bytes) : Bytes :=
  let m_data := setByte m_data 10 (m_data 10 ^^^ DATA_HEADER_CRC_MASK)
  setByte m_data 11 (m_data 11 ^^^ DATA_HEADER_CRC_MASK)

/-! ## Decoding -/

/-- The `switch` of `decode`. -/
def decodeFormat (h : DataHeader) : DataHeader :=
  if h.DPF = DPF_UDT then
    { h with
      sap := (h.data 1 &&& 0xF0) >>> (4 : UInt8), dataFormat := h.data 1 &&& 0x0F,
      blocks := (h.data 8 &&& 0x03).toUInt32 + 1, padCount := (h.data 8 &&& 0xF8) >>> (3 : UInt8),
      SF := decide (h.data 9 &&& 0x80 = 0x80), PF := decide (h.data 9 &&& 0x40 = 0x40), UDTO := h.data 9 &&& 0x3F }
  else if h.DPF = DPF_UNCONFIRMED_DATA then
    { h with
      sap := (h.data 1 &&& 0xF0) >>> (4 : UInt8), padCount := (h.data 0 &&& 0x10) + (h.data 1 &&& 0x0F),
      F := decide (h.data 8 &&& 0x80 = 0x80), blocks := (h.data 8 &&& 0x7F).toUInt32, fsn := h.data 9 &&& 0x0F }
  else if h.DPF = DPF_CONFIRMED_DATA then
    { h with
      sap := (h.data 1 &&& 0xF0) >>> (4 : UInt8), padCount := (h.data 0 &&& 0x10) + (h.data 1 &&& 0x0F),
      F := decide (h.data 8 &&& 0x80 = 0x80), blocks := (h.data 8 &&& 0x7F).toUInt32,
      S := decide (h.data 9 &&& 0x80 = 0x80), Ns := h.data 9 >>> (4 : UInt8) &&& 0x07, fsn := h.data 9 &&& 0x0F }
  else if h.DPF = DPF_RESPONSE then
    { h with
      sap := (h.data 1 &&& 0xF0) >>> (4 : UInt8), blocks := (h.data 8 &&& 0x7F).toUInt32,
      rspClass := h.data 9 >>> (6 : UInt8) &&& 0x03, rspType := h.data 9 >>> (3 : UInt8) &&& 0x07,
      rspStatus := h.data 9 &&& 0x07 }
  else if h.DPF = DPF_DEFINED_SHORT then
    { h with
      sap := (h.data 1 &&& 0xF0) >>> (4 : UInt8), blocks := ((h.data 0 &&& 0x30) + (h.data 1 &&& 0x0F)).toUInt32,
      F := decide (h.data 8 &&& 0x01 = 0x01), S := decide (h.data 8 &&& 0x02 = 0x02),
      dataFormat := (h.data 8 &&& 0xFC) >>> (2 : UInt8), padCount := h.data 9 }
  else if h.DPF = DPF_DEFINED_RAW then
    { h with
      sap := (h.data 1 &&& 0xF0) >>> (4 : UInt8), blocks := ((h.data 0 &&& 0x30) + (h.data 1 &&& 0x0F)).toUInt32,
      F := decide (h.data 8 &&& 0x01 = 0x01), S := decide (h.data 8 &&& 0x02 = 0x02),
      dstPort := (h.data 8 &&& 0x1C) >>> (2 : UInt8), srcPort := (h.data 8 &&& 0xE0) >>> (5 : UInt8) }
  else h

/-- The fields of the stored octets. -/
def decodeFields (h : DataHeader) : DataHeader :=
  let h := { h with
    GI := decide (h.data 0 &&& 0x80 = 0x80), A := decide (h.data 0 &&& 0x40 = 0x40), DPF := h.data 0 &&& 0x0F }
  if h.DPF = DPF_PROPRIETARY then h
  else decodeFormat { h with
    dstId := word24 (h.data 2) (h.data 3) (h.data 4), srcId := word24 (h.data 5) (h.data 6) (h.data 7) }

/-- `decode`: a CRC with a zero octet is not checked. -/
def decode (h : DataHeader) (data : Bytes) : Bool × DataHeader :=
  let m_data := BPTC19696.decode data h.data
  if m_data 10 ≠ 0x00 ∧ m_data 11 ≠ 0x00 then
    let m_data := maskCRC m_data
    if !CRC.checkCCITT162 m_data DMR_LC_HEADER_LENGTH_BYTES then (false, { h with data := m_data })
    else (true, decodeFields { h with data := maskCRC m_data })
  else (true, decodeFields { h with data := m_data })

/-! ## Encoding -/

/-- The octets that `encode` writes before its `switch`. -/
def encodeCommon (h : DataHeader) : Bytes :=
  let m_data : Bytes := fun _ => 0x00
  let m_data := setByte m_data 0 ((if h.GI then 0x80 else 0x00) + (if h.A then 0x40 else 0x00) + (h.DPF &&& 0x0F))
  let m_data := setByte m_data 2 (h.dstId >>> (16 : UInt32) &&& 0xFF).toUInt8
  let m_data := setByte m_data 3 (h.dstId >>> (8 : UInt32) &&& 0xFF).toUInt8
  let m_data := setByte m_data 4 (h.dstId >>> (0 : UInt32) &&& 0xFF).toUInt8
  let m_data := setByte m_data 5 (h.srcId >>> (16 : UInt32) &&& 0xFF).toUInt8
  let m_data := setByte m_data 6 (h.srcId >>> (8 : UInt32) &&& 0xFF).toUInt8
  setByte m_data 7 (h.srcId >>> (0 : UInt32) &&& 0xFF).toUInt8

/-- The `switch` of `encode`. `m_blocks` is a word, and so are the sums it is a part of until they are stored. -/
def encodeFormat (h : DataHeader) (m_data : Bytes) : Bytes :=
  if h.DPF = DPF_UDT then
    let m_data := setByte m_data 1 ((h.sap &&& 0x0F) <<< (4 : UInt8) + (h.dataFormat &&& 0x0F))
    let m_data := setByte m_data 8 ((h.padCount &&& 0x1F).toUInt32 <<< (3 : UInt32) + (h.blocks - 1)).toUInt8
    setByte m_data 9 ((if h.SF then 0x80 else 0x00) + (if h.PF then 0x40 else 0x00) + (h.UDTO &&& 0x3F))
  else if h.DPF = DPF_UNCONFIRMED_DATA then
    let m_data := setByte m_data 0 (m_data 0 + (h.padCount &&& 0x10))
    let m_data := setByte m_data 1 ((h.sap &&& 0x0F) <<< (4 : UInt8) + (h.padCount &&& 0x0F))
    let m_data := setByte m_data 8 ((if h.F then 0x80 else 0x00) + (h.blocks &&& 0x7F)).toUInt8
    setByte m_data 9 h.fsn
  else if h.DPF = DPF_CONFIRMED_DATA then
    let m_data := setByte m_data 0 (m_data 0 + (h.padCount &&& 0x10))
    let m_data := setByte m_data 1 ((h.sap &&& 0x0F) <<< (4 : UInt8) + (h.padCount &&& 0x0F))
    let m_data := setByte m_data 8 ((if h.F then 0x80 else 0x00) + (h.blocks &&& 0x7F)).toUInt8
    setByte m_data 9 ((if h.S then 0x80 else 0x00) + (h.Ns &&& 0x07) <<< (4 : UInt8) + (h.fsn &&& 0x0F))
  else if h.DPF = DPF_RESPONSE then
    let m_data := setByte m_data 1 ((h.sap &&& 0x0F) <<< (4 : UInt8))
    let m_data := setByte m_data 8 (h.blocks &&& 0x7F).toUInt8
    setByte m_data 9 ((h.rspClass &&& 0x03) <<< (6 : UInt8) + (h.rspType &&& 0x07) <<< (3 : UInt8) +
      (h.rspStatus &&& 0x07))
  else if h.DPF = DPF_DEFINED_SHORT then
    let m_data := setByte m_data 0 ((m_data 0).toUInt32 + (h.blocks &&& 0x30)).toUInt8
    let m_data := setByte m_data 1 ((h.sap &&& 0x0F).toUInt32 <<< (4 : UInt32) + (h.blocks &&& 0x0F)).toUInt8
    let m_data := setByte m_data 8 ((if h.F then 0x01 else 0x00) + (if h.S then 0x02 else 0x00) +
      (h.dataFormat &&& 0xFC) <<< (2 : UInt8))
    setByte m_data 9 h.padCount
  else if h.DPF = DPF_DEFINED_RAW then
    let m_data := setByte m_data 0 ((m_data 0).toUInt32 + (h.blocks &&& 0x30)).toUInt8
    let m_data := setByte m_data 1 ((h.sap &&& 0x0F).toUInt32 <<< (4 : UInt32) + (h.blocks &&& 0x0F)).toUInt8
    setByte m_data 8 ((if h.F then 0x01 else 0x00) + (if h.S then 0x02 else 0x00) +
      (h.dstPort &&& 0x07) <<< (2 : UInt8) + (h.srcPort &&& 0x07) <<< (5 : UInt8))
  else m_data

/-- The stored octets with their CRC. -/
def encodeData (h : DataHeader) : Bytes :=
  if h.DPF = DPF_PROPRIETARY then
    let m_data := setByte (setByte h.data 10 0x00) 11 0x00
    maskCRC (CRC.addCCITT162 (maskCRC m_data) DMR_LC_HEADER_LENGTH_BYTES)
  else
    let m_data := encodeFormat h (encodeCommon h)
    if h.DPF = DPF_UDT then
      let m_data := setByte m_data 9 (m_data 9 &&& 0xFE)
      maskCRC (CRC.addCCITT162 m_data DMR_LC_HEADER_LENGTH_BYTES)
    else maskCRC (CRC.addCCITT162 (maskCRC m_data) DMR_LC_HEADER_LENGTH_BYTES)

/-- `encode`: the header, whose octets are `mutable` behind their pointer, and the burst. -/
def encode (h : DataHeader) (data : Bytes) : DataHeader × Bytes :=
  let m_data := encodeData h
  ({ h with data := m_data }, BPTC19696.encode m_data data)

end DataHeader

end Dmr

end DvmHost

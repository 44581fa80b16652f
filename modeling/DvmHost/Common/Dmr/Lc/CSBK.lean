import DvmHost.Common.Edac.BPTC19696
import DvmHost.Common.Edac.CRC

/-!
# `Common.Dmr.Lc.CSBK` — DMR control signalling blocks

`src/common/dmr/lc/CSBK.cpp`, the base class of the blocks of `src/common/dmr/lc/csbk`: the twelve octets under the
product code, of which two are a masked CRC-CCITT and eight the `payload` of the derived class.
-/

namespace DvmHost

/-- `lookups::IdenTable`, with its floats as their bits. -/
structure IdenTable where
  channelId : UInt8
  baseFrequency : UInt32
  chSpaceKhz : UInt32
  txOffsetMhz : UInt32
  chBandwidthKhz : UInt32
deriving DecidableEq, Repr

namespace Dmr

/-- `DT_CSBK`. -/
def DT_CSBK : UInt8 := 0x03

/-- `DT_MBC_HEADER`. -/
def DT_MBC_HEADER : UInt8 := 0x04

/-- `FID_DMRA`. -/
def FID_DMRA : UInt8 := 0x10

/-- `CSBKO_NONE`. -/
def CSBKO_NONE : UInt8 := 0x00

/-- `DMR_CHNULL`. -/
def DMR_CHNULL : UInt16 := 0x00

/-- `DMR_CSBK_LENGTH_BYTES`. -/
abbrev DMR_CSBK_LENGTH_BYTES : Nat := 12

/-- `CSBK_CRC_MASK`, whose two octets are the same. -/
def CSBK_CRC_MASK : UInt8 := 0xA5

/-- `CSBK_MBC_CRC_MASK`, whose two octets are the same. -/
def CSBK_MBC_CRC_MASK : UInt8 := 0xAA

/-- The members of `CSBK`. -/
structure CSBK where
  colorCode : UInt8
  lastBlock : Bool
  Cdef : Bool
  CSBKO : UInt8
  FID : UInt8
  GI : Bool
  srcId : UInt32
  dstId : UInt32
  dataContent : Bool
  CBF : UInt8
  dataType : UInt8
  emergency : Bool
  privacy : Bool
  supplementData : Bool
  priority : UInt8
  broadcast : Bool
  proxy : Bool
  response : UInt8
  reason : UInt8
  siteOffsetTiming : Bool
  logicalCh1 : UInt16
  logicalCh2 : UInt16
  slotNo : UInt8
  siteIdenEntry : IdenTable
deriving DecidableEq, Repr

namespace CSBK

/-- `CSBK()`. -/
def new : CSBK where
  colorCode := 0
  lastBlock := true
  Cdef := false
  CSBKO := CSBKO_NONE
  FID := 0x00
  GI := false
  srcId := 0
  dstId := 0
  dataContent := false
  CBF := 0
  dataType := DT_CSBK
  emergency := false
  privacy := false
  supplementData := false
  priority := 0
  broadcast := false
  proxy := false
  response := 0
  reason := 0
  siteOffsetTiming := false
  logicalCh1 := DMR_CHNULL
  logicalCh2 := DMR_CHNULL
  slotNo := 0
  siteIdenEntry := ⟨0, 0, 0, 0, 0⟩

/-- The `switch` over `m_dataType` that adds a mask to the CRC. -/
def maskCRC (dataType : UInt8) (csbk : Bytes) : Bytes :=
  if dataType = DT_CSBK then
    let csbk := setByte csbk 10 (csbk 10 ^^^ CSBK_CRC_MASK)
    setByte csbk 11 (csbk 11 ^^^ CSBK_CRC_MASK)
  else if dataType = DT_MBC_HEADER then
    let csbk := setByte csbk 10 (csbk 10 ^^^ CSBK_MBC_CRC_MASK)
    setByte csbk 11 (csbk 11 ^^^ CSBK_MBC_CRC_MASK)
  else csbk

/-- `decode`: the object, and the payload for the derived class. -/
def decode (c : CSBK) (data payload : Bytes) : Bool × CSBK × Bytes :=
  let csbk := maskCRC c.dataType (BPTC19696.decode data fun _ => 0x00)
  if !CRC.checkCCITT162 csbk DMR_CSBK_LENGTH_BYTES then (false, c, payload)
  else
    let csbk := maskCRC c.dataType csbk
    (true,
      { c with
        CSBKO := csbk 0 &&& 0x3F, lastBlock := decide (csbk 0 &&& 0x80 = 0x80), FID := csbk 1,
        dataContent := false, CBF := 0 },
      memcpy payload 0 (fun i => csbk (2 + i)) (DMR_CSBK_LENGTH_BYTES - 4))

/-- `encode`, of the payload of the derived class. -/
def encode (c : CSBK) (data payload : Bytes) : Bytes :=
  let csbk := memcpy (fun _ => 0x00) 2 payload (DMR_CSBK_LENGTH_BYTES - 4)
  let csbk := setByte csbk 0 c.CSBKO
  let csbk := setByte csbk 0 (csbk 0 ||| if c.lastBlock then 0x80 else 0x00)
  let csbk := setByte csbk 1 (if !c.Cdef then c.FID else c.colorCode &&& 0x0F)
  let csbk := maskCRC c.dataType csbk
  let csbk := CRC.addCCITT162 csbk 12
  BPTC19696.encode (maskCRC c.dataType csbk) data

/-- `regenerate`: whether the burst passed the check, and the burst. -/
def regenerate (data : Bytes) (dataType : UInt8) : Bool × Bytes :=
  let csbk := BPTC19696.decode data fun _ => 0x00
  -- validate the CRC-CCITT 16
  let csbk := maskCRC dataType csbk
  if !CRC.checkCCITT162 csbk DMR_CSBK_LENGTH_BYTES then (false, data)
  else
    -- restore the checksum
    let csbk := maskCRC dataType csbk
    -- calculate checksum
    let csbk := maskCRC dataType csbk
    let csbk := CRC.addCCITT162 csbk 12
    let csbk := maskCRC dataType csbk
    (true, BPTC19696.encode csbk data)

/-- The `encode` of a derived class: nothing is written where it has no `payload` for these members. -/
def encodePayload (payload : CSBK → Option Bytes) (c : CSBK) (data : Bytes) : Bytes :=
  match payload c with
  | some csbk => c.encode data csbk
  | none => data

/-- `copy`. -/
def copy (c data : CSBK) : CSBK :=
  { c with
    colorCode := data.colorCode
    lastBlock := data.lastBlock
    Cdef := data.Cdef
    CSBKO := data.CSBKO
    FID := data.FID
    GI := data.GI
    srcId := data.srcId
    dstId := data.dstId
    dataContent := data.dataContent
    CBF := data.CBF
    emergency := data.emergency
    privacy := data.privacy
    supplementData := data.supplementData
    priority := data.priority
    broadcast := data.broadcast
    proxy := data.proxy
    -- both assignments go to `m_response`
    response := data.reason
    siteOffsetTiming := data.siteOffsetTiming
    logicalCh1 := data.logicalCh1
    logicalCh2 := data.logicalCh2
    slotNo := data.slotNo
    siteIdenEntry := data.siteIdenEntry }

/-- `CSBK(const CSBK&)`. -/
def copyConstruct (data : CSBK) : CSBK := copy new data

end CSBK

end Dmr

end DvmHost

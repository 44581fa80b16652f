import DvmHost.Common.Dmr.Data.DataHeader
import DvmHost.Common.Edac.Trellis
import DvmHost.Common.Network.NetworkWriter
import DvmHost.Host.Dmr.Packet.Voice

/-!
# `Host.Dmr.Packet.Data` — data packets on a slot of a DMR host

`src/host/dmr/packet/Data.{h,cpp}`, with `writeEndRF` and `writeEndNet` of `src/host/dmr/Slot.cpp`: what a slot does with a
data header, the blocks behind it and the terminator of a call, from a radio (`process`) or from the network
(`processNetwork`). The user data of both directions are collected in one buffer of `Data`.

Of a frame that is sent on, its tag and its data type are kept; the slot type and the sync that are written into it, the
hang frames' own octets, the short link control of the slot, the log and the grants that a terminator releases on the
control channel are left out. `copies` is a ghost: the places and lengths of what was written to the user data.
-/

namespace DvmHost

open RPT_RF_STATE RPT_NET_STATE

namespace Dmr

/-! ## Constants -/

/-- `modem::TAG_DATA`. -/
def TAG_DATA : UInt8 := 0x01

/-- `modem::TAG_EOT`. -/
def TAG_EOT : UInt8 := 0x03

/-- `DT_RATE_12_DATA`. -/
def DT_RATE_12_DATA : UInt8 := 0x07

/-- `DT_RATE_34_DATA`. -/
def DT_RATE_34_DATA : UInt8 := 0x08

/-- `DT_RATE_1_DATA`. -/
def DT_RATE_1_DATA : UInt8 := 0x0A

/-- `DMR_MAX_PDU_COUNT`. -/
def DMR_MAX_PDU_COUNT : Nat := 32

/-- `DMR_MAX_PDU_LENGTH`. -/
def DMR_MAX_PDU_LENGTH : Nat := 512

/-- The length of `m_pduUserData`. -/
def PDU_USER_DATA_LENGTH : Nat := DMR_MAX_PDU_COUNT * DMR_MAX_PDU_LENGTH + 2

/-! ## The state -/

/-- What is entered in the log. -/
inductive DataEvent where
  /-- A frame is put into the transmit queue. -/
  | queued (tag dataType : UInt8)
  /-- A frame is written to the network. -/
  | written (dataType : UInt8)
deriving DecidableEq, Repr

/-- The members of `dmr::Slot` and of its `Data` that data packets work on. -/
structure DataSlot extends Slot where
  hangCount : Nat
  rfFrames : UInt32
  rfDataHeader : Option DataHeader
  netDataHeader : Option DataHeader
  tsccPayloadDstId : UInt32
  tsccPayloadActRetry : Timer
  repeatDataPacket : Bool
  pduUserData : Bytes
  pduDataOffset : UInt32
  copies : List (Nat × Nat)
  dataLog : List DataEvent

namespace DataSlot

/-! ## Frames that are sent on -/

/-- `addFrame` of a frame. -/
def addData (s : DataSlot) (net : Bool) (tag dataType : UInt8) : DataSlot :=
  let added := s.toSlot.addFrame net
  { s with
    toSlot := added.2
    dataLog := if added.1 then s.dataLog ++ [.queued tag dataType] else s.dataLog }

/-- `addFrame` of the same frame `count` times. -/
def addDataTimes (s : DataSlot) (net : Bool) (tag dataType : UInt8) (count : Nat) : DataSlot :=
  (List.range count).foldl (fun s _ => s.addData net tag dataType) s

/-- `writeNetwork`. -/
def writeData (s : DataSlot) (dataType : UInt8) : DataSlot :=
  if s.netState ≠ RS_NET_IDLE ∨ !s.hasNetwork then s else { s with dataLog := s.dataLog ++ [.written dataType] }

/-- `data[0U]` of a frame with this many to follow. -/
def tagOf (frames : UInt32) : UInt8 := if frames = 0 then TAG_EOT else TAG_DATA

/-- `Slot::writeEndRF()`. -/
def writeEndRF (s : DataSlot) : DataSlot :=
  { s with
    rfState := RS_RF_LISTENING
    pduDataOffset := 0
    rfTimeout := false
    rfFrames := 0
    rfLC := none
    rfDataHeader := none }

/-- `Slot::writeEndNet()`. -/
def writeEndNet (s : DataSlot) : DataSlot :=
  { s with
    netState := RS_NET_IDLE
    lastFrameValid := false
    pduDataOffset := 0
    netTimeout := false
    netFrames := 0
    netLost := 0
    netLC := none
    netDataHeader := none }

/-! ## The user data -/

/-- `memset(m_pduUserData, 0x00U, ..); m_pduDataOffset = 0U;` -/
def clearUserData (s : DataSlot) : DataSlot :=
  { s with pduUserData := fun _ => 0x00, pduDataOffset := 0, copies := s.copies ++ [(0, PDU_USER_DATA_LENGTH)] }

/-- `memcpy(m_pduUserData, payload, length)`. -/
def storePayload (s : DataSlot) (payload : Bytes) (length : Nat) : DataSlot :=
  { s with pduUserData := memcpy s.pduUserData 0 payload length, copies := s.copies ++ [(0, length)] }

/-- The lines that decode and store the payload of a block. A block of rate 3/4 that cannot be decoded takes its place,
    and one of rate 1 is not looked at. -/
def storeBlock (s : DataSlot) (dataType : UInt8) (data : Bytes) : DataSlot :=
  if dataType = DT_RATE_12_DATA then
    let s := s.storePayload (BPTC19696.decode data fun _ => 0x00) 12
    { s with pduDataOffset := s.pduDataOffset + 12 }
  else if dataType = DT_RATE_34_DATA then
    let s :=
      match Trellis.decode34 data fun _ => 0x00 with
      | some payload => s.storePayload payload 18
      | none => s
    { s with pduDataOffset := s.pduDataOffset + 18 }
  else s

/-- Whether the data type is one of a block. -/
def isBlock (dataType : UInt8) : Bool :=
  dataType = DT_RATE_12_DATA || dataType = DT_RATE_34_DATA || dataType = DT_RATE_1_DATA

/-- `if (m_tsccPayloadDstId != 0U && m_tsccPayloadActRetry.isRunning()) m_tsccPayloadActRetry.stop();` -/
def stopPayloadRetry (s : DataSlot) : DataSlot :=
  if s.tsccPayloadDstId ≠ 0 ∧ s.tsccPayloadActRetry.isRunning then
    { s with tsccPayloadActRetry := s.tsccPayloadActRetry.stop }
  else s

/-- The link control of a header. -/
def headerLC (h : DataHeader) : LC := LC.new (if h.GI then FLCO_GROUP else FLCO_PRIVATE) h.srcId h.dstId

/-! ## Packets of radios -/

/-- `process` of `DT_TERMINATOR_WITH_LC`. -/
def processTerminator (s : DataSlot) : Bool × DataSlot :=
  if s.rfState ≠ RS_RF_AUDIO then (false, s)
  else
    let timeout := s.rfTimeout
    let s :=
      if !timeout then
        let s := s.writeData DT_TERMINATOR_WITH_LC
        if s.duplex then s.addDataTimes false TAG_EOT DT_TERMINATOR_WITH_LC s.hangCount else s
      else s
    (!timeout, s.writeEndRF)

/-- `process` of `DT_DATA_HEADER`, from the header on. -/
def startDataRF (s : DataSlot) (h : DataHeader) : DataSlot :=
  let s := { s with rfFrames := h.blocks, rfLC := some (headerLC h) }
  let s := if s.duplex ∧ s.repeatDataPacket then s.addData false (tagOf s.rfFrames) DT_DATA_HEADER else s
  let s := s.writeData DT_DATA_HEADER
  let s := { s with rfState := RS_RF_DATA, rfLastDstId := h.dstId, rfLastSrcId := h.srcId }
  let s := s.clearUserData
  if s.rfFrames = 0 then s.writeEndRF else s

/-- `process` of `DT_DATA_HEADER`. The buffer of the new header is not cleared: `heap` is what it holds. -/
def processHeader (s : DataSlot) (heap data : Bytes) : Bool × DataSlot :=
  if s.rfState = RS_RF_DATA then (true, s)
  else
    let decoded := DataHeader.decode (DataHeader.new heap) data
    if !decoded.1 then (false, s)
    else
      let h := decoded.2
      let s := { s with rfDataHeader := some h }
      if s.isRFRefused h.dstId then (false, { s with rfState := RS_RF_LISTENING })
      else
        let s := s.stopPayloadRetry
        if s.isRejected (headerLC h) then (false, { s with rfState := RS_RF_REJECTED })
        else (true, s.startDataRF h)

/-- `process` of a block. -/
def processBlock (s : DataSlot) (dataType : UInt8) (data : Bytes) : Bool × DataSlot :=
  if s.rfState ≠ RS_RF_DATA ∨ s.rfFrames = 0 then (false, s)
  else
    let s := s.storeBlock dataType data
    let s := { s with rfFrames := s.rfFrames - 1 }
    let s := s.writeData dataType
    let s := if s.duplex ∧ s.repeatDataPacket then s.addData false (tagOf s.rfFrames) dataType else s
    (true, if s.rfFrames = 0 then s.writeEndRF else s)

/-- `Data::process`, of a frame and the octet of the modem in front of it. -/
def process (s : DataSlot) (heap : Bytes) (control : UInt8) (data : Bytes) : Bool × DataSlot :=
  let dataType := control &&& 0x0F
  if dataType = DT_TERMINATOR_WITH_LC then s.processTerminator
  else if dataType = DT_DATA_HEADER then s.processHeader heap data
  else if isBlock dataType then s.processBlock dataType data
  else (false, s)

/-! ## Packets of the network -/

/-- `processNetwork` of `DT_TERMINATOR_WITH_LC`. -/
def netTerminator (s : DataSlot) : DataSlot :=
  if s.netState ≠ RS_NET_AUDIO then s
  else
    let s :=
      if !s.netTimeout then
        s.addDataTimes true TAG_EOT DT_TERMINATOR_WITH_LC (if s.duplex then s.hangCount else 3)
      else s
    s.writeEndNet

/-- `processNetwork` of `DT_DATA_HEADER`, from the header on. -/
def startDataNet (s : DataSlot) (h : DataHeader) : DataSlot :=
  let s := { s with netFrames := h.blocks, netLC := some (headerLC h) }
  -- the idle frames in front of the header
  let s := { s with toSlot := s.toSlot.addFrames true 2 }
  let s := s.addData true (tagOf s.netFrames) DT_DATA_HEADER
  let s := { s with netState := RS_NET_DATA, netLastDstId := h.dstId, netLastSrcId := h.srcId }
  let s := s.clearUserData
  if s.netFrames = 0 then s.writeEndNet else s

/-- `processNetwork` of `DT_DATA_HEADER`. -/
def netHeader (s : DataSlot) (heap data : Bytes) : DataSlot :=
  if s.netState = RS_NET_DATA then s
  else
    let decoded := DataHeader.decode (DataHeader.new heap) data
    if !decoded.1 then s
    else
      let h := decoded.2
      let s := { s with netDataHeader := some h }
      if s.isNetUnpermitted h.dstId then s
      else if Slot.isHanging s.rfLastDstId s.rfTGHang h.dstId then s
      else s.stopPayloadRetry.startDataNet h

/-- `processNetwork` of a block. -/
def netBlock (s : DataSlot) (dataType : UInt8) (data : Bytes) : DataSlot :=
  if s.netState ≠ RS_NET_DATA ∨ s.netFrames = 0 then s.writeEndNet
  else
    let s := s.storeBlock dataType data
    let s := { s with netFrames := s.netFrames - 1 }
    let s := if s.repeatDataPacket then s.addData true (tagOf s.netFrames) dataType else s
    if s.netFrames = 0 then s.writeEndNet else s

/-- `Data::processNetwork`. -/
def processNetwork (s : DataSlot) (heap : Bytes) (dataType : UInt8) (data : Bytes) : DataSlot :=
  if dataType = DT_TERMINATOR_WITH_LC then s.netTerminator
  else if dataType = DT_DATA_HEADER then s.netHeader heap data
  else if isBlock dataType then s.netBlock dataType data
  else s

end DataSlot

end Dmr

end DvmHost

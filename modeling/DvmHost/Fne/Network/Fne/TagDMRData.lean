import DvmHost.Common.Dmr.Lc.FullLC
import DvmHost.Fne.Network.Fne.Traffic

/-!
# `Fne.Network.Fne.TagDMRData` — the DMR traffic of the FNE

`TagDMRData::processFrame` of `src/fne/network/fne/TagDMRData.cpp`, with `validate` and `isPeerPermitted`. The
table of calls has one entry a destination; the entry has the slot of the call.
-/

namespace DvmHost

open Lib Dmr

namespace TagDMRData

/-- `DT_VOICE_SYNC`. -/
def DT_VOICE_SYNC : UInt8 := 0xF0

/-- `DT_VOICE`. -/
def DT_VOICE : UInt8 := 0xF1

/-- `TagDMRData::RxStatus`; the start time is for the logs. -/
structure RxStatus where
  srcId : UInt32
  dstId : UInt32
  slotNo : UInt8
  streamId : UInt32
deriving DecidableEq

/-- What `processFrame` reads from a frame. -/
structure Frame where
  srcId : UInt32
  dstId : UInt32
  slotNo : UInt8
  dataType : UInt8
  dataSync : Bool
  voiceSync : Bool

/-- The head of `processFrame`. -/
def Frame.read (data : Bytes) : Frame where
  srcId := getUInt16 data 5
  dstId := getUInt16 data 8
  slotNo := if data 15 &&& 0x80 = 0x80 then 2 else 1
  dataType := data 15 &&& 0x0F
  dataSync := data 15 &&& 0x20 = 0x20
  voiceSync := data 15 &&& 0x10 = 0x10

namespace Frame

/-- `dmrData.getDataType()`. -/
def getDataType (f : Frame) : UInt8 :=
  if f.dataSync then f.dataType else if f.voiceSync then DT_VOICE_SYNC else DT_VOICE

/-- `dataSync && (dataType == DT_TERMINATOR_WITH_LC)`. -/
def isTerminator (f : Frame) : Bool := f.dataSync && f.dataType = DT_TERMINATOR_WITH_LC

/-- `dataSync && (dataType == DT_VOICE_LC_HEADER)`. -/
def isHeader (f : Frame) : Bool := f.dataSync && f.dataType = DT_VOICE_LC_HEADER

end Frame

/-- `isPeerPermitted`. The data type is compared with the two link control opcodes. -/
def isPeerPermitted (ctx : TrafficContext) (f : Frame) (peerId : UInt32) : Bool :=
  if f.getDataType = FLCO_PRIVATE then true
  else if f.getDataType = FLCO_GROUP then (ctx.m_tidLookup.find f.dstId f.slotNo).permits peerId
  else true

/-- `validate`. -/
def validate (ctx : TrafficContext) (f : Frame) : Bool :=
  if !ctx.m_ridLookup.isAllowed f.srcId then false
  -- always validate a terminator if the source is valid
  else if f.getDataType = DT_TERMINATOR_WITH_LC then true
  else if f.getDataType = FLCO_PRIVATE ∧ !ctx.m_ridLookup.isAllowed f.dstId then false
  else if f.getDataType = FLCO_GROUP then
    let tg := ctx.m_tidLookup.find f.dstId 0
    if tg.source.tgSlot ≠ f.slotNo then false
    else if !tg.config.active then false
    else true
  else true

/-- `std::find_if` over the table: the first entry whose value has the destination and the slot. -/
def findStatus (m_status : UnorderedMap UInt32 RxStatus) (f : Frame) : Option RxStatus :=
  (m_status.entries.find? fun x => x.2.dstId = f.dstId ∧ x.2.slotNo = f.slotNo).map fun x => x.2

/-- The end of a call stream. -/
def endCall (m_status : UnorderedMap UInt32 RxStatus) (f : Frame) : UnorderedMap UInt32 RxStatus :=
  if (findStatus m_status f).isSome then m_status.erase f.dstId else m_status

/-- A header: the table, and whether it collides with the call that is entered. -/
def startCall (m_status : UnorderedMap UInt32 RxStatus) (f : Frame) (streamId : UInt32) :
    UnorderedMap UInt32 RxStatus × Bool :=
  match findStatus m_status f with
  | some status => (m_status, streamId ≠ status.streamId ∧ status.srcId ≠ 0 ∧ status.srcId ≠ f.srcId)
  | none =>
      (m_status.insert f.dstId { srcId := f.srcId, dstId := f.dstId, slotNo := f.slotNo, streamId }, false)

/-- `processFrame`. -/
def processFrame (ctx : TrafficContext) (m_status : UnorderedMap UInt32 RxStatus) (data : Bytes)
    (peerId streamId : UInt32) : Processed RxStatus :=
  let f := Frame.read data
  if !validate ctx f then { m_status }
  else if !isPeerPermitted ctx f peerId then { m_status }
  else
    let m_status := if f.isTerminator then endCall m_status f else m_status
    let (m_status, collision) := if f.isHeader then startCall m_status f streamId else (m_status, false)
    if collision then { m_status }
    else
      let (repeated, upstream) := ctx.repeatTo peerId f.dstId (isPeerPermitted ctx f)
      { m_status, accepted := true, repeated, upstream }

end TagDMRData

end DvmHost

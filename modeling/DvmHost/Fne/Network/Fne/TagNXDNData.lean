import DvmHost.Common.Nxdn.Lc.PacketInformation
import DvmHost.Common.Nxdn.Lc.RTCH
import DvmHost.Fne.Network.Fne.Traffic

/-!
# `Fne.Network.Fne.TagNXDNData` — the NXDN traffic of the FNE

`TagNXDNData::processFrame` of `src/fne/network/fne/TagNXDNData.cpp`, with `validate` and `isPeerPermitted`. The
table of calls goes by the id of the frame, the lookups by the sixteen bits of it that the link control holds.
-/

namespace DvmHost

open Lib Nxdn

namespace TagNXDNData

/-- What `processFrame` reads from a frame. -/
structure Frame where
  messageType : UInt8
  srcId : UInt32
  dstId : UInt32
  group : Bool

/-- The head of `processFrame`. -/
def Frame.read (data : Bytes) : Frame where
  messageType := data 4
  srcId := getUInt16 data 5
  dstId := getUInt16 data 8
  group := if data 15 &&& 0x40 = 0x40 then false else true

namespace Frame

/-- A terminator. -/
def isTerminator (f : Frame) : Bool :=
  f.messageType = RTCH_MESSAGE_TYPE_TX_REL || f.messageType = RTCH_MESSAGE_TYPE_TX_REL_EX

/-- A frame of a voice or data call. -/
def isCall (f : Frame) : Bool :=
  f.messageType = RTCH_MESSAGE_TYPE_VCALL || f.messageType = RTCH_MESSAGE_TYPE_DCALL_HDR ||
    f.messageType = RTCH_MESSAGE_TYPE_DCALL_DATA

/-- `lc.getSrcId()`. -/
def lcSrcId (f : Frame) : UInt32 := f.srcId.toUInt16.toUInt32

/-- `lc.getDstId()`. -/
def lcDstId (f : Frame) : UInt32 := f.dstId.toUInt16.toUInt32

end Frame

/-- `isPeerPermitted`. -/
def isPeerPermitted (ctx : TrafficContext) (f : Frame) (peerId : UInt32) : Bool :=
  if !f.group then true else (ctx.m_tidLookup.find f.lcDstId 0).permits peerId

/-- `validate`. -/
def validate (ctx : TrafficContext) (f : Frame) : Bool :=
  if !ctx.m_ridLookup.isAllowed f.lcSrcId then false
  -- always validate a terminator if the source is valid
  else if f.isTerminator then true
  else if !f.group then ctx.m_ridLookup.isAllowed f.lcDstId
  else (ctx.m_tidLookup.find f.lcDstId 0).config.active

/-- `processFrame`. -/
def processFrame (ctx : TrafficContext) (m_status : UnorderedMap UInt32 RxStatus) (data : Bytes)
    (peerId streamId : UInt32) : Processed RxStatus :=
  let f := Frame.read data
  if !validate ctx f then { m_status }
  else if !isPeerPermitted ctx f peerId then { m_status }
  else
    -- only end of call, voice and data frames touch the table
    let (m_status, collision) :=
      if f.isTerminator then (RxStatus.endCall m_status f.dstId, false)
      else if f.isCall then RxStatus.startCall m_status f.srcId f.dstId streamId
      else (m_status, false)
    if collision then { m_status }
    else
      let (repeated, upstream) := ctx.repeatTo peerId f.dstId (isPeerPermitted ctx f)
      { m_status, accepted := true, repeated, upstream }

end TagNXDNData

end DvmHost

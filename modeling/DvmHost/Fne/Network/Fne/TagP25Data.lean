import DvmHost.Common.P25.Lc.LC
import DvmHost.Common.P25.NID
import DvmHost.Fne.Network.Fne.Traffic

/-!
# `Fne.Network.Fne.TagP25Data` — the P25 traffic of the FNE

`TagP25Data::processFrame` of `src/fne/network/fne/TagP25Data.cpp`, with `validate` and `isPeerPermitted`.
-/

namespace DvmHost

open Lib

namespace TagP25Data

/-- What `processFrame` reads from a frame. -/
structure Frame where
  lco : UInt8
  srcId : UInt32
  dstId : UInt32
  duid : UInt8

/-- The head of `processFrame`. -/
def Frame.read (data : Bytes) : Frame where
  lco := data 4
  srcId := getUInt16 data 5
  dstId := getUInt16 data 8
  duid := data 22

namespace Frame

/-- A TSDU or PDU, which is no part of a call. -/
def isControl (f : Frame) : Bool := f.duid = P25_DUID_TSDU || f.duid = P25_DUID_PDU

/-- A terminator. -/
def isTerminator (f : Frame) : Bool := f.duid = P25_DUID_TDU || f.duid = P25_DUID_TDULC

end Frame

/-- `isPeerPermitted`. -/
def isPeerPermitted (ctx : TrafficContext) (f : Frame) (peerId : UInt32) : Bool :=
  if f.lco = LC_PRIVATE then true
  else if f.isControl then true
  else if f.isTerminator then true
  else (ctx.m_tidLookup.find f.dstId 0).permits peerId

/-- `validate`. -/
def validate (ctx : TrafficContext) (f : Frame) : Bool :=
  if !ctx.m_ridLookup.isAllowed f.srcId then false
  -- always validate a TSDU, a PDU or a terminator if the source is valid
  else if f.isControl then true
  else if f.isTerminator then true
  else if f.lco = LC_PRIVATE then ctx.m_ridLookup.isAllowed f.dstId
  else (ctx.m_tidLookup.find f.dstId 0).config.active

/-- `processFrame`. -/
def processFrame (ctx : TrafficContext) (m_status : UnorderedMap UInt32 RxStatus) (data : Bytes)
    (peerId streamId : UInt32) : Processed RxStatus :=
  let f := Frame.read data
  if !validate ctx f then { m_status }
  else if !isPeerPermitted ctx f peerId then { m_status }
  else
    -- only end of call and voice frames touch the table
    let (m_status, collision) :=
      if f.isControl then (m_status, false)
      else if f.isTerminator then (RxStatus.endCall m_status f.dstId, false)
      else RxStatus.startCall m_status f.srcId f.dstId streamId
    if collision then { m_status }
    else
      let (repeated, upstream) := ctx.repeatTo peerId f.dstId (isPeerPermitted ctx f)
      { m_status, accepted := true, repeated, upstream }

end TagP25Data

end DvmHost

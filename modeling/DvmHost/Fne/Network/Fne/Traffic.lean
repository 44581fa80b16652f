import DvmHost.Common.Lookups.RadioIdLookup
import DvmHost.Common.Lookups.TalkgroupRulesLookup
import DvmHost.Common.Utils

/-!
# `Fne.Network.Fne.Traffic` — what the three traffic handlers have in common

`TagDMRData`, `TagP25Data` and `TagNXDNData` of `src/fne/network/fne/` read the same tables of the network, give
the same kind of result, and P25 and NXDN handle the table of calls alike, one copy of the code each. The parts
they share are here under the names of the source.

The rewriting of the frame's own octets, the parrot recording and the logs are left out: none of them touches the
table of calls or decides whether a frame is repeated. A frame is read from `data` on, at fixed offsets and
without a look at its length, so `data` goes on behind the end of the message.
-/

namespace DvmHost

open Lib

/-- What a handler reads of the network during a call: the two lookups, the ids of `m_network->m_peers` and those of
    the upstream peers. -/
structure TrafficContext where
  m_ridLookup : RadioIdLookup
  m_tidLookup : TalkgroupRulesLookup
  m_peers : List UInt32
  m_peerNetworks : List UInt32

/-- What `processFrame` leaves: the table of calls, its return value, and the peers that the frame is repeated to,
    connected ones and upstream ones. -/
structure Processed (S : Type) where
  m_status : UnorderedMap UInt32 S
  accepted : Bool := false
  repeated : List UInt32 := []
  upstream : List UInt32 := []

/-- The frame goes to no peer. -/
def Processed.Dropped {S : Type} (p : Processed S) : Prop := p.repeated = [] ∧ p.upstream = []

namespace TrafficContext

/-- The two loops that repeat a frame: over the peers but the sender, and over the upstream peers unless the
    talkgroup is a parrot. -/
def repeatTo (ctx : TrafficContext) (peerId dstId : UInt32) (isPeerPermitted : UInt32 → Bool) :
    List UInt32 × List UInt32 :=
  let tg := ctx.m_tidLookup.find dstId 0
  (ctx.m_peers.filter fun peer => peerId ≠ peer && isPeerPermitted peer,
   if ctx.m_peerNetworks.length > 0 ∧ !tg.config.parrot then ctx.m_peerNetworks.filter isPeerPermitted else [])

end TrafficContext

/-- `class RxStatus` of the P25 and the NXDN handler; the start time is for the logs. -/
structure RxStatus where
  srcId : UInt32 := 0
  dstId : UInt32 := 0
  streamId : UInt32 := 0
deriving DecidableEq

instance : Inhabited RxStatus := ⟨{}⟩

namespace RxStatus

/-- `std::find_if` over the table: the first entry whose value has the destination. -/
def find (m_status : UnorderedMap UInt32 RxStatus) (dstId : UInt32) : Option RxStatus :=
  (m_status.entries.find? fun x => x.2.dstId = dstId).map fun x => x.2

/-- The table after `m_status[dstId]` is read: a missing entry is created. -/
def touch (m_status : UnorderedMap UInt32 RxStatus) (dstId : UInt32) : UnorderedMap UInt32 RxStatus :=
  match m_status.lookup dstId with
  | some _ => m_status
  | none => m_status.insert dstId default

/-- The end of a call stream. -/
def endCall (m_status : UnorderedMap UInt32 RxStatus) (dstId : UInt32) : UnorderedMap UInt32 RxStatus :=
  let m_status := touch m_status dstId
  if (find m_status dstId).isSome then m_status.erase dstId else m_status

/-- A frame of a call: the table, and whether it collides with the call that is entered. -/
def startCall (m_status : UnorderedMap UInt32 RxStatus) (srcId dstId streamId : UInt32) :
    UnorderedMap UInt32 RxStatus × Bool :=
  match find m_status dstId with
  | some _ =>
      let status := (m_status.lookup dstId).getD default
      (touch m_status dstId, streamId ≠ status.streamId ∧ status.srcId ≠ 0 ∧ status.srcId ≠ srcId)
  | none => (m_status.insert dstId { srcId, dstId, streamId }, false)

end RxStatus

end DvmHost

import DvmHost.Common.Lookups.RadioIdLookup
import DvmHost.Common.Lookups.TalkgroupRulesLookup
import DvmHost.Common.Network.BaseNetwork
import DvmHost.Common.Network.FrameQueue

/-!
# `Host.Network.Network` — what a peer does with the messages of the FNE

The cases `NET_FUNC_PROTOCOL` and `NET_FUNC_MASTER` of `Network::clock` in `src/host/network/Network.cpp`, with the
checks in front of them, and `resetDMR`, `resetP25` and `resetNXDN`. A result of `none` is an index out of range or a
failed assertion. The login, the timers and the warnings about the sequence are left out.

The lists of the FNE are read by loops with a counter of eight bits, of which not all end; they take a number of
turns and give `none` when it is used up. The octets behind a list are what lies there.
-/

namespace DvmHost

/-- The state of `class Network`. -/
structure Network extends BaseNetwork where
  m_peerId : UInt32
  m_pktSeq : UInt16 := 0
  m_pktLastSeq : UInt16 := 0
  m_enabled : Bool := false
  m_dmrEnabled : Bool
  m_p25Enabled : Bool
  m_nxdnEnabled : Bool
  m_updateLookup : Bool
  m_ridLookup : RadioIdLookup
  m_tidLookup : TalkgroupRulesLookup
  m_rxDMRStreamId : Vector UInt32 2 := #v[0, 0]
  m_rxP25StreamId : UInt32 := 0
  m_rxNXDNStreamId : UInt32 := 0

namespace Network

/-- A message that was read, and whether it came from the address of the master. -/
structure Packet where
  message : List UInt8
  rtpHeader : RTPHeader
  fneHeader : RTPFNEHeader
  fromMaster : Bool

/-! ## Traffic -/

/-- The stream id and the last sequence after a message of a stream: the first stream is kept. -/
def trackStream (rxStreamId streamId : UInt32) (m_pktSeq m_pktLastSeq : UInt16) : UInt32 × UInt16 :=
  if rxStreamId = 0 then (streamId, m_pktSeq)
  else if rxStreamId = streamId then (rxStreamId, m_pktSeq)
  else (rxStreamId, m_pktLastSeq)

/-- A message is queued behind its length, an octet. -/
def queueFrame (m_rxData : RingBuffer UInt8 4000) (message : List UInt8) : RingBuffer UInt8 4000 :=
  let len := message.length.toUInt8
  let m_rxData := (m_rxData.addData [len]).2
  (m_rxData.addData (message.take len.toNat)).2

/-- `NET_PROTOCOL_SUBFUNC_DMR`. The slot, which is one or two, is the index of its stream id. -/
def receiveDMR (n : Network) (message : List UInt8) (streamId : UInt32) : Option Network :=
  if n.m_enabled && n.m_dmrEnabled then
    match message[15]? with
    | none => none
    | some octet =>
        let slotNo := if octet &&& 0x80 = 0x80 then 2 else 1
        if h : slotNo < 2 then
          let (rxStreamId, m_pktLastSeq) :=
            trackStream n.m_rxDMRStreamId[slotNo] streamId n.m_pktSeq n.m_pktLastSeq
          some { n with
            m_rxDMRStreamId := n.m_rxDMRStreamId.set slotNo rxStreamId, m_pktLastSeq,
            m_rxDMRData := queueFrame n.m_rxDMRData message }
        else none
  else some n

/-- `NET_PROTOCOL_SUBFUNC_P25`. -/
def receiveP25 (n : Network) (message : List UInt8) (streamId : UInt32) : Network :=
  if n.m_enabled && n.m_p25Enabled then
    let (m_rxP25StreamId, m_pktLastSeq) := trackStream n.m_rxP25StreamId streamId n.m_pktSeq n.m_pktLastSeq
    { n with m_rxP25StreamId, m_pktLastSeq, m_rxP25Data := queueFrame n.m_rxP25Data message }
  else n

/-- `NET_PROTOCOL_SUBFUNC_NXDN`. -/
def receiveNXDN (n : Network) (message : List UInt8) (streamId : UInt32) : Network :=
  if n.m_enabled && n.m_nxdnEnabled then
    let (m_rxNXDNStreamId, m_pktLastSeq) := trackStream n.m_rxNXDNStreamId streamId n.m_pktSeq n.m_pktLastSeq
    { n with m_rxNXDNStreamId, m_pktLastSeq, m_rxNXDNData := queueFrame n.m_rxNXDNData message }
  else n

/-- `NET_FUNC_PROTOCOL`. -/
def protocol (n : Network) (pkt : Packet) : Option Network :=
  if pkt.fneHeader.subFunc = NET_PROTOCOL_SUBFUNC_DMR then n.receiveDMR pkt.message pkt.fneHeader.streamId
  else if pkt.fneHeader.subFunc = NET_PROTOCOL_SUBFUNC_P25 then
    some (n.receiveP25 pkt.message pkt.fneHeader.streamId)
  else if pkt.fneHeader.subFunc = NET_PROTOCOL_SUBFUNC_NXDN then
    some (n.receiveNXDN pkt.message pkt.fneHeader.streamId)
  else some n

/-! ## The lists of the FNE -/

/-- `for (uint8_t i = 0; i < len; i++) { .. j += stride; }`, in at most `fuel` tests of the condition. -/
def listLoop {S : Type} (stride : Nat) (len : UInt32) (body : Nat → S → S) : Nat → UInt8 → Nat → S → Option S
  | 0, _, _, _ => none
  | fuel + 1, i, j, s =>
      if i.toUInt32 < len then listLoop stride len body fuel (i + 1) (j + stride) (body j s) else some s

/-- One id of a list of radio ids. -/
def toggleRID (buffer : Bytes) (enabled : Bool) (j : Nat) (l : RadioIdLookup) : RadioIdLookup :=
  l.toggleEntry (getUInt16 buffer (11 + j)) enabled

/-- One talkgroup of the active ones, as it was read. -/
def activate (l : TalkgroupRulesLookup) (id : UInt32) (slot : UInt8) : TalkgroupRulesLookup :=
  let tid := l.find id slot
  if tid.isInvalid then
    let l := if !tid.config.active then l.eraseEntry id slot else l
    l.addEntry id slot true
  else l

/-- One talkgroup of the deactivated ones, as it was read. -/
def deactivate (l : TalkgroupRulesLookup) (id : UInt32) (slot : UInt8) : TalkgroupRulesLookup :=
  let tid := l.find id slot
  if !tid.isInvalid then l.eraseEntry id slot else l

/-- One talkgroup of the active ones. -/
def activateTG (buffer : Bytes) (j : Nat) (l : TalkgroupRulesLookup) : TalkgroupRulesLookup :=
  activate l (getUInt16 buffer (11 + j)) (buffer (14 + j))

/-- One talkgroup of the deactivated ones. -/
def deactivateTG (buffer : Bytes) (j : Nat) (l : TalkgroupRulesLookup) : TalkgroupRulesLookup :=
  deactivate l (getUInt16 buffer (11 + j)) (buffer (14 + j))

/-- `NET_FUNC_MASTER`. -/
def master (n : Network) (subFunc : UInt8) (buffer : Bytes) (fuel : Nat) : Option Network :=
  if n.m_enabled && n.m_updateLookup then
    let len := getUInt16 buffer 7
    if subFunc = NET_MASTER_SUBFUNC_WL_RID then
      (listLoop 4 len (toggleRID buffer true) fuel 0 0 n.m_ridLookup).map fun m_ridLookup => { n with m_ridLookup }
    else if subFunc = NET_MASTER_SUBFUNC_BL_RID then
      (listLoop 4 len (toggleRID buffer false) fuel 0 0 n.m_ridLookup).map fun m_ridLookup => { n with m_ridLookup }
    else if subFunc = NET_MASTER_SUBFUNC_ACTIVE_TGS then
      (listLoop 5 len (activateTG buffer) fuel 0 0 n.m_tidLookup).map fun m_tidLookup => { n with m_tidLookup }
    else if subFunc = NET_MASTER_SUBFUNC_DEACTIVE_TGS then
      (listLoop 5 len (deactivateTG buffer) fuel 0 0 n.m_tidLookup).map fun m_tidLookup => { n with m_tidLookup }
    else some n
  else some n

/-! ## Messages -/

/-- The message in memory: its octets, and what lies behind them. -/
def bufferOf (message : List UInt8) (heap : Bytes) : Bytes := fun i =>
  if i < message.length then FrameQueue.octets message i else heap i

/-- The part of `clock` behind the read of a message, for the two functions. -/
def receive (n : Network) (pkt : Packet) (heap : Bytes) (fuel : Nat) : Option Network :=
  if !pkt.fromMaster then some n
  else if n.m_peerId ≠ pkt.fneHeader.peerId then some n
  else
    let m_pktSeq := pkt.rtpHeader.seq
    let n :=
      if m_pktSeq = RTP_END_OF_CALL_SEQ then { n with m_pktSeq := 0, m_pktLastSeq := 0 } else { n with m_pktSeq }
    if pkt.fneHeader.func = NET_FUNC_PROTOCOL then n.protocol pkt
    else if pkt.fneHeader.func = NET_FUNC_MASTER then
      n.master pkt.fneHeader.subFunc (bufferOf pkt.message heap) fuel
    else some n

/-! ## Resets -/

/-- `resetDMR`, which asserts that the slot is one or two. -/
def resetDMR (n : Network) (slotNo : Nat) : Option Network :=
  if slotNo = 1 then
    some { n with m_rxDMRData := n.m_rxDMRData.clear, m_rxDMRStreamId := n.m_rxDMRStreamId.set 0 0 }
  else if slotNo = 2 then
    some { n with m_rxDMRData := n.m_rxDMRData.clear, m_rxDMRStreamId := n.m_rxDMRStreamId.set 1 0 }
  else none

/-- `resetP25`. -/
def resetP25 (n : Network) : Network := { n with m_rxP25Data := n.m_rxP25Data.clear, m_rxP25StreamId := 0 }

/-- `resetNXDN`. -/
def resetNXDN (n : Network) : Network := { n with m_rxNXDNData := n.m_rxNXDNData.clear, m_rxNXDNStreamId := 0 }

end Network

end DvmHost

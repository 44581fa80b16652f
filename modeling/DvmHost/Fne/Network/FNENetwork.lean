import DvmHost.Common.Network.BaseNetwork
import DvmHost.Common.Network.FrameQueue
import DvmHost.Common.Timer
import DvmHost.Fne.Network.Fne.TagDMRData
import DvmHost.Fne.Network.Fne.TagNXDNData
import DvmHost.Fne.Network.Fne.TagP25Data
import DvmHost.Lib.Run

/-!
# `Fne.Network.FNENetwork` — the peers of the FNE and the datagrams they send

`FNENetwork::clock` of `src/fne/network/FNENetwork.cpp` with what it calls, and `FNEPeerConnection` of the header.
A call of `clock` is `maintain`, the part before the socket is read, and `receive`, the switch over the function of
the message that was read. Both give `none` where the source has no result: an array of negative length on the
stack, or a list of ids that does not fit the buffer it is copied to.

`m_peers` maps to pointers, none of them null; the model maps to the connection itself, so a change through the
pointer is a change of the entry. SHA-256 and the JSON parser are parameters. Messages are recorded in `sent` with
the arguments `enqueueMessage` gets. Logs, the playback of parrot frames, the media clock of the queue and what goes
to the upstream peers are left out.
-/

namespace DvmHost

open Lib

/-- `sockaddr_storage`: what `UDPSocket::address` and `UDPSocket::port` give of it. -/
structure SockAddr where
  address : String
  port : UInt16
deriving DecidableEq

/-! ## The peer -/

/-- `class FNEPeerConnection`; `Object` is `json::object`, and `config` is `none` while it is empty. -/
structure FNEPeerConnection (Object : Type) where
  id : UInt32
  socketStorage : SockAddr
  currStreamId : UInt32 := 0
  salt : UInt32 := 0
  connected : Bool := false
  connectionState : NetConnStatus := .invalid
  pingsReceived : UInt32 := 0
  lastPing : UInt64 := 0
  config : Option Object := none
  pktLastSeq : UInt16 := 0
  pktNextSeq : UInt16 := 1

namespace FNEPeerConnection

variable {Object : Type}

/-- `address()`: the address that the peer logged in from. -/
def address (c : FNEPeerConnection Object) : String := c.socketStorage.address

/-- The warning at the head of `clock`: a message of the current stream has another number than the next one. -/
def outOfSequence (c : FNEPeerConnection Object) (streamId : UInt32) (pktSeq : UInt16) : Bool :=
  pktSeq ≠ RTP_END_OF_CALL_SEQ && (c.currStreamId = streamId && pktSeq ≠ c.pktNextSeq)

/-- The update of the packet sequence and the stream id at the head of `clock`. -/
def track (c : FNEPeerConnection Object) (streamId : UInt32) (pktSeq : UInt16) : FNEPeerConnection Object :=
  if pktSeq = RTP_END_OF_CALL_SEQ then { c with pktLastSeq := pktSeq, pktNextSeq := 0 }
  else { c with currStreamId := streamId, pktLastSeq := pktSeq, pktNextSeq := pktSeq + 1 }

/-- The simple validation of a peer: it is connected, and from this address. -/
def isAt (c : FNEPeerConnection Object) (ip : String) : Bool := c.connected && c.address = ip

/-- Whether the peer has been quiet longer than allowed. -/
def isQuiet (c : FNEPeerConnection Object) (pingTime maxMissedPings : UInt32) (now : UInt64) : Bool :=
  c.connected && c.lastPing + (pingTime * maxMissedPings).toUInt64 < now

end FNEPeerConnection

/-! ## The network -/

/-- A message handed to `enqueueMessage`. -/
structure Outbound where
  message : List UInt8
  streamId : UInt32
  peerId : UInt32
  opcode : UInt8 × UInt8
  rtpSeq : UInt16
  address : SockAddr

/-- The settings of the FNE, and the two functions it calls that are not its own: the octets SHA-256 writes to
    `out`, and the JSON parser (`none` for an error, `some none` for a value that is no object). -/
structure FNESettings (Object : Type) where
  m_password : List UInt8
  m_dmrEnabled : Bool := true
  m_p25Enabled : Bool := true
  m_nxdnEnabled : Bool := true
  m_allowActivityTransfer : Bool := true
  m_allowDiagnosticTransfer : Bool := true
  m_pingTime : UInt32 := 5
  m_maxMissedPings : UInt32 := 5
  sha256 : List UInt8 → Bytes
  parse : List UInt8 → Option (Option Object)

/-- The tables that others change: the two lookups and the ids of the upstream peers. -/
structure FNETables where
  m_ridLookup : RadioIdLookup
  m_tidLookup : TalkgroupRulesLookup
  m_peerNetworks : List UInt32

/-- A message that was read: its octets, its headers, where it came from. -/
structure Packet where
  message : List UInt8
  rtpHeader : RTPHeader
  fneHeader : RTPFNEHeader
  address : SockAddr

/-- What a call of `clock` draws from outside: the time in seconds, the salt and the stream id of the random
    generator, and the memory behind the message. -/
structure Draws where
  now : UInt64
  salt : UInt32
  streamId : UInt32
  heap : Bytes

/-- The state of `class FNENetwork`. -/
structure FNENetwork (Object : Type) where
  m_status : NetConnStatus
  m_peers : UnorderedMap UInt32 (FNEPeerConnection Object)
  m_maintainenceTimer : Timer
  m_updateLookupTimer : Timer
  m_forceListUpdate : Bool
  m_tagDMR : UnorderedMap UInt32 TagDMRData.RxStatus
  m_tagP25 : UnorderedMap UInt32 RxStatus
  m_tagNXDN : UnorderedMap UInt32 RxStatus
  sent : List Outbound

namespace FNENetwork

variable {Object : Type}

/-- The network after `open`. -/
def opened (pingTime updateLookupTime : UInt32) : FNENetwork Object where
  m_status := .mstRunning
  m_peers := ∅
  m_maintainenceTimer := (Timer.new 1000 pingTime 0).start
  m_updateLookupTimer := Timer.new 1000 (updateLookupTime * 60) 0
  m_forceListUpdate := false
  m_tagDMR := ∅
  m_tagP25 := ∅
  m_tagNXDN := ∅
  sent := []

/-- A change through the pointer `m_peers[peerId]`, or `m_peers[peerId] = connection`. -/
def setPeer (n : FNENetwork Object) (peerId : UInt32) (connection : FNEPeerConnection Object) :
    FNENetwork Object :=
  { n with m_peers := n.m_peers.insert peerId connection }

/-- `m_peers.erase(peerId)`. -/
def erasePeer (n : FNENetwork Object) (peerId : UInt32) : FNENetwork Object :=
  { n with m_peers := n.m_peers.erase peerId }

/-- `peerId > 0 && (m_peers.find(peerId) != m_peers.end())`, with the entry. -/
def findPeer (n : FNENetwork Object) (peerId : UInt32) : Option (FNEPeerConnection Object) :=
  if peerId > 0 then n.m_peers.lookup peerId else none

/-! ## Messages to a peer -/

/-- The four octets of a word. -/
def octets32 (val : UInt32) : List UInt8 := (List.range 4).map (setUInt32 val (fun _ => 0x00) 0)

/-- `writePeer` with a packet sequence. -/
def writePeer (n : FNENetwork Object) (peerId : UInt32) (opcode : UInt8 × UInt8) (message : List UInt8)
    (pktSeq : UInt16) (streamId : UInt32) : FNENetwork Object :=
  match n.m_peers.lookup peerId with
  | some connection =>
      let streamId := if streamId = 0 then connection.currStreamId else streamId
      { n with sent := n.sent ++
          [{ message, streamId, peerId, opcode, rtpSeq := pktSeq, address := connection.socketStorage }] }
  | none => n

/-- `writePeer` with the packet sequence of the connection. -/
def writePeerNext (n : FNENetwork Object) (peerId : UInt32) (opcode : UInt8 × UInt8) (message : List UInt8)
    (streamId : UInt32) (incPktSeq : Bool) : FNENetwork Object :=
  match n.m_peers.lookup peerId with
  | some connection =>
      let connection :=
        if incPktSeq then { connection with pktLastSeq := connection.pktLastSeq + 1 } else connection
      (n.setPeer peerId connection).writePeer peerId opcode message connection.pktLastSeq streamId
  | none => n

/-- `writePeerCommand`, from a buffer of `DATA_PACKET_LENGTH`. -/
def writePeerCommand (n : FNENetwork Object) (peerId : UInt32) (opcode : UInt8 × UInt8) (data : List UInt8)
    (incPktSeq : Bool) : Option (FNENetwork Object) :=
  if data.length + 6 > DATA_PACKET_LENGTH then none
  else some (n.writePeerNext peerId opcode (List.replicate 6 0x00 ++ data) 0 incPktSeq)

/-- `writePeerACK`. The end-of-call sequence is taken for the stream id. -/
def writePeerACK (n : FNENetwork Object) (peerId : UInt32) (data : List UInt8) : FNENetwork Object :=
  n.writePeerNext peerId (NET_FUNC_ACK, NET_SUBFUNC_NOP) (List.replicate 6 0x00 ++ data ++ List.replicate 4 0x00)
    RTP_END_OF_CALL_SEQ.toUInt32 true

/-- `writePeerNAK` to a peer. -/
def writePeerNAK (n : FNENetwork Object) (peerId : UInt32) : FNENetwork Object :=
  n.writePeerNext peerId (NET_FUNC_NAK, NET_SUBFUNC_NOP) (List.replicate 6 0x00 ++ octets32 peerId)
    RTP_END_OF_CALL_SEQ.toUInt32 true

/-- `writePeerNAK` to an address, under the stream id `createStreamId` gave. -/
def writePeerNAKTo (n : FNENetwork Object) (peerId streamId : UInt32) (address : SockAddr) :
    FNENetwork Object :=
  { n with sent := n.sent ++
      [{ message := List.replicate 6 0x00 ++ octets32 peerId, streamId, peerId,
         opcode := (NET_FUNC_NAK, NET_SUBFUNC_NOP), rtpSeq := 0, address }] }

/-! ## The lists that a peer is sent -/

/-- The ids of the table whose entry is enabled, or is not. -/
def radioIds (tables : FNETables) (enabled : Bool) : List UInt32 :=
  (tables.m_ridLookup.m_table.entries.filter fun e => e.2.radioEnabled = enabled).map fun e => e.1

/-- A list of radio ids; an empty one is not sent. -/
def writeRIDs (n : FNENetwork Object) (subFunc : UInt8) (peerId : UInt32) (ids : List UInt32) :
    Option (FNENetwork Object) :=
  if ids.length = 0 then some n
  else n.writePeerCommand peerId (NET_FUNC_MASTER, subFunc)
    (octets32 ids.length.toUInt32 ++ ids.flatMap octets32) true

/-- `writeWhitelistRIDs`. -/
def writeWhitelistRIDs (n : FNENetwork Object) (tables : FNETables) (peerId : UInt32) :
    Option (FNENetwork Object) :=
  n.writeRIDs NET_MASTER_SUBFUNC_WL_RID peerId (radioIds tables true)

/-- `writeBlacklistRIDs`. -/
def writeBlacklistRIDs (n : FNENetwork Object) (tables : FNETables) (peerId : UInt32) :
    Option (FNENetwork Object) :=
  n.writeRIDs NET_MASTER_SUBFUNC_BL_RID peerId (radioIds tables false)

/-- The talkgroups of a peer whose rule is active, or is not. -/
def talkgroups (tables : FNETables) (peerId : UInt32) (active : Bool) : List TalkgroupRuleGroupVoiceSource :=
  (tables.m_tidLookup.groupVoice.filter fun tg => tg.permits peerId && tg.config.active = active).map
    fun tg => tg.source

/-- A list of talkgroups. -/
def writeTalkgroups (n : FNENetwork Object) (tables : FNETables) (subFunc : UInt8) (peerId : UInt32)
    (tgs : List TalkgroupRuleGroupVoiceSource) : Option (FNENetwork Object) :=
  if !tables.m_tidLookup.sendTalkgroups then some n
  else n.writePeerCommand peerId (NET_FUNC_MASTER, subFunc)
    (octets32 tgs.length.toUInt32 ++ tgs.flatMap fun tg => octets32 tg.tgId ++ [tg.tgSlot]) true

/-- `writeTGIDs`. -/
def writeTGIDs (n : FNENetwork Object) (tables : FNETables) (peerId : UInt32) : Option (FNENetwork Object) :=
  n.writeTalkgroups tables NET_MASTER_SUBFUNC_ACTIVE_TGS peerId (talkgroups tables peerId true)

/-- `writeDeactiveTGIDs`. -/
def writeDeactiveTGIDs (n : FNENetwork Object) (tables : FNETables) (peerId : UInt32) :
    Option (FNENetwork Object) :=
  n.writeTalkgroups tables NET_MASTER_SUBFUNC_DEACTIVE_TGS peerId (talkgroups tables peerId false)

/-! ## Maintenance -/

/-- The ids of the peers that have been quiet longer than allowed. -/
def peersToRemove (n : FNENetwork Object) (cfg : FNESettings Object) (now : UInt64) : List UInt32 :=
  (n.m_peers.entries.filter fun e => e.2.isQuiet cfg.m_pingTime cfg.m_maxMissedPings now).map fun e => e.1

/-- The two lists of radio ids to all peers; none is sent from an empty table. -/
def writeAllRIDs (n : FNENetwork Object) (tables : FNETables) : Option (FNENetwork Object) :=
  if tables.m_ridLookup.m_table.keys.length = 0 then some n
  else do
    let n ← n.m_peers.keys.foldlM (fun n peerId => writeWhitelistRIDs n tables peerId) n
    n.m_peers.keys.foldlM (fun n peerId => writeBlacklistRIDs n tables peerId) n

/-- The two lists of talkgroups to all peers. -/
def writeAllTGIDs (n : FNENetwork Object) (tables : FNETables) : Option (FNENetwork Object) := do
  let n ← n.m_peers.keys.foldlM (fun n peerId => writeTGIDs n tables peerId) n
  n.m_peers.keys.foldlM (fun n peerId => writeDeactiveTGIDs n tables peerId) n

/-- The maintenance timer: when it has expired, the peers that have been quiet are removed. -/
def maintainPeers (cfg : FNESettings Object) (n : FNENetwork Object) (ms : UInt32) (now : UInt64) :
    FNENetwork Object :=
  let timer := n.m_maintainenceTimer.clock ms
  if timer.isRunning && timer.hasExpired then
    { (n.peersToRemove cfg now).foldl erasePeer n with m_maintainenceTimer := timer.start }
  else { n with m_maintainenceTimer := timer }

/-- The lookup timer: when it has expired, or an update is forced, all peers are sent the lists. -/
def updateLookups (tables : FNETables) (n : FNENetwork Object) (ms : UInt32) : Option (FNENetwork Object) :=
  let timer := n.m_updateLookupTimer.clock ms
  if timer.isRunning && timer.hasExpired || n.m_forceListUpdate then do
    let n ← n.writeAllRIDs tables
    let n ← n.writeAllTGIDs tables
    some { n with m_updateLookupTimer := timer.start, m_forceListUpdate := false }
  else some { n with m_updateLookupTimer := timer }

/-- The part of `clock` before the socket is read. -/
def maintain (cfg : FNESettings Object) (tables : FNETables) (n : FNENetwork Object) (ms : UInt32)
    (now : UInt64) : Option (FNENetwork Object) :=
  (n.maintainPeers cfg ms now).updateLookups tables ms

/-! ## The functions of a message -/

section Receive

variable (cfg : FNESettings Object) (tables : FNETables) (n : FNENetwork Object) (pkt : Packet) (draws : Draws)

/-- The update of the packet sequence and the stream id. -/
def trackSequence : FNENetwork Object :=
  match n.findPeer pkt.fneHeader.peerId with
  | some connection =>
      if pkt.fneHeader.streamId ≠ 0 then
        n.setPeer pkt.fneHeader.peerId (connection.track pkt.fneHeader.streamId pkt.rtpHeader.seq)
      else n
  | none => n

/-- What the traffic handlers read of the network. -/
def trafficContext : TrafficContext where
  m_ridLookup := tables.m_ridLookup
  m_tidLookup := tables.m_tidLookup
  m_peers := n.m_peers.keys
  m_peerNetworks := tables.m_peerNetworks

/-- The message in memory: its octets, and what lies behind them. -/
def messageData : Bytes := fun i =>
  if i < pkt.message.length then FrameQueue.octets pkt.message i else draws.heap i

/-- A frame is written to the peers it is repeated to. -/
def repeatFrame (subFunc : UInt8) (peers : List UInt32) : FNENetwork Object :=
  peers.foldl (fun n peer => n.writePeer peer (NET_FUNC_PROTOCOL, subFunc) pkt.message pkt.rtpHeader.seq
    pkt.fneHeader.streamId) n

/-- `NET_FUNC_PROTOCOL`. -/
def protocol : FNENetwork Object :=
  match n.findPeer pkt.fneHeader.peerId with
  | some connection =>
      if connection.isAt pkt.address.address then
        if pkt.fneHeader.subFunc = NET_PROTOCOL_SUBFUNC_DMR then
          if cfg.m_dmrEnabled then
            let p := TagDMRData.processFrame (n.trafficContext tables) n.m_tagDMR (messageData pkt draws)
              pkt.fneHeader.peerId pkt.fneHeader.streamId
            { n with m_tagDMR := p.m_status }.repeatFrame pkt NET_PROTOCOL_SUBFUNC_DMR p.repeated
          else n
        else if pkt.fneHeader.subFunc = NET_PROTOCOL_SUBFUNC_P25 then
          if cfg.m_p25Enabled then
            let p := TagP25Data.processFrame (n.trafficContext tables) n.m_tagP25 (messageData pkt draws)
              pkt.fneHeader.peerId pkt.fneHeader.streamId
            { n with m_tagP25 := p.m_status }.repeatFrame pkt NET_PROTOCOL_SUBFUNC_P25 p.repeated
          else n
        else if pkt.fneHeader.subFunc = NET_PROTOCOL_SUBFUNC_NXDN then
          if cfg.m_nxdnEnabled then
            let p := TagNXDNData.processFrame (n.trafficContext tables) n.m_tagNXDN (messageData pkt draws)
              pkt.fneHeader.peerId pkt.fneHeader.streamId
            { n with m_tagNXDN := p.m_status }.repeatFrame pkt NET_PROTOCOL_SUBFUNC_NXDN p.repeated
          else n
        else n
      else n
  | none => n

/-- `NET_FUNC_RPTL`: a new peer is entered and challenged; a known one that is not running starts over. -/
def repeaterLogin : FNENetwork Object :=
  let peerId := pkt.fneHeader.peerId
  if peerId > 0 ∧ n.m_peers.lookup peerId = none then
    let connection : FNEPeerConnection Object :=
      { id := peerId, socketStorage := pkt.address, lastPing := draws.now, currStreamId := pkt.fneHeader.streamId,
        salt := draws.salt, connectionState := .waitingAuthorisation }
    (n.setPeer peerId connection).writePeerACK peerId (octets32 draws.salt)
  else
    let n := n.writePeerNAKTo peerId draws.streamId pkt.address
    match n.findPeer peerId with
    | some connection =>
        let n := n.setPeer peerId { connection with lastPing := draws.now }
        if connection.connectionState ≠ .running then n.erasePeer peerId else n
    | none => n

/-- The hash that the password has under the salt of a peer. -/
def expectedHash (salt : UInt32) : Bytes := cfg.sha256 (octets32 salt ++ cfg.m_password)

/-- The validation of the hash in the message, which starts at the ninth octet. -/
def hashValid (message : List UInt8) (salt : UInt32) : Bool :=
  let hash := message.drop 8
  if message.length - 8 = 32 then (List.range 32).all fun i => hash.getD i 0x00 = expectedHash cfg salt i
  else false

/-- `NET_FUNC_RPTK`. Whatever the outcome of the validation, `m_peers[peerId] = connection` comes last. -/
def repeaterAuth : Option (FNENetwork Object) :=
  let peerId := pkt.fneHeader.peerId
  match n.findPeer peerId with
  | some connection =>
      let connection := { connection with lastPing := draws.now }
      let n := n.setPeer peerId connection
      if connection.connectionState = .waitingAuthorisation then
        if pkt.message.length < 8 then none
        else
          let valid := hashValid cfg pkt.message connection.salt
          let connection := if valid then { connection with connectionState := .waitingConfig } else connection
          let n := n.setPeer peerId connection
          let n := if valid then n.writePeerACK peerId [] else n.writePeerNAK peerId
          -- the pointer still names the object, with the sequence the message to the peer left
          let connection := (n.m_peers.lookup peerId).getD connection
          let n := if valid then n else n.erasePeer peerId
          some (n.setPeer peerId connection)
      else some ((n.writePeerNAK peerId).erasePeer peerId)
  | none => some (n.writePeerNAKTo peerId draws.streamId pkt.address)

/-- `NET_FUNC_RPTC`. -/
def repeaterConfig : Option (FNENetwork Object) :=
  let peerId := pkt.fneHeader.peerId
  match n.findPeer peerId with
  | some connection =>
      let connection := { connection with lastPing := draws.now }
      let n := n.setPeer peerId connection
      if connection.connectionState = .waitingConfig then
        if pkt.message.length < 8 then none
        else
          match cfg.parse (pkt.message.drop 8) with
          | some (some object) => do
              let connection := { connection with
                config := some object, connectionState := .running, connected := true, pingsReceived := 0 }
              let n := (n.setPeer peerId connection).writePeerACK peerId []
              let n ← n.writeWhitelistRIDs tables peerId
              let n ← n.writeBlacklistRIDs tables peerId
              let n ← n.writeTGIDs tables peerId
              n.writeDeactiveTGIDs tables peerId
          | _ => some ((n.writePeerNAK peerId).erasePeer peerId)
      else some ((n.writePeerNAK peerId).erasePeer peerId)
  | none => some (n.writePeerNAKTo peerId draws.streamId pkt.address)

/-- `NET_FUNC_RPT_CLOSING`. -/
def repeaterClosing : FNENetwork Object :=
  match n.findPeer pkt.fneHeader.peerId with
  | some connection => if connection.isAt pkt.address.address then n.erasePeer pkt.fneHeader.peerId else n
  | none => n

/-- `NET_FUNC_PING`. -/
def ping : Option (FNENetwork Object) :=
  let peerId := pkt.fneHeader.peerId
  match n.findPeer peerId with
  | some connection =>
      if connection.isAt pkt.address.address then
        let connection := { connection with
          pingsReceived := connection.pingsReceived + 1, lastPing := draws.now,
          pktLastSeq := connection.pktLastSeq + 1 }
        (n.setPeer peerId connection).writePeerCommand peerId (NET_FUNC_PONG, NET_SUBFUNC_NOP) [] false
      else some (n.writePeerNAK peerId)
  | none => some n

/-- `NET_FUNC_GRANT_REQ`. -/
def grantRequest : FNENetwork Object :=
  match n.findPeer pkt.fneHeader.peerId with
  | some connection =>
      if connection.isAt pkt.address.address then n else n.writePeerNAK pkt.fneHeader.peerId
  | none => n

/-- A transfer of a log; the message begins at the twelfth octet. -/
def transferLog : Option (FNENetwork Object) :=
  match n.findPeer pkt.fneHeader.peerId with
  | some connection =>
      if connection.isAt pkt.address.address then
        if pkt.message.length < 11 then none else some n
      else some (n.writePeerNAK pkt.fneHeader.peerId)
  | none => some n

/-- Whether the transfer of a message is one the FNE takes. -/
def takesTransfer : Bool :=
  pkt.fneHeader.subFunc = NET_TRANSFER_SUBFUNC_ACTIVITY && cfg.m_allowActivityTransfer ||
    pkt.fneHeader.subFunc = NET_TRANSFER_SUBFUNC_DIAG && cfg.m_allowDiagnosticTransfer

/-- `NET_FUNC_TRANSFER`. -/
def transfer : Option (FNENetwork Object) :=
  if takesTransfer cfg pkt then n.transferLog pkt else some n

/-- The switch over the function of the message. -/
def dispatch : Option (FNENetwork Object) :=
  let func := pkt.fneHeader.func
  if func = NET_FUNC_PROTOCOL then some (n.protocol cfg tables pkt draws)
  else if func = NET_FUNC_RPTL then some (n.repeaterLogin pkt draws)
  else if func = NET_FUNC_RPTK then n.repeaterAuth cfg pkt draws
  else if func = NET_FUNC_RPTC then n.repeaterConfig cfg tables pkt draws
  else if func = NET_FUNC_RPT_CLOSING then some (n.repeaterClosing pkt)
  else if func = NET_FUNC_PING then n.ping pkt draws
  else if func = NET_FUNC_GRANT_REQ then some (n.grantRequest pkt)
  else if func = NET_FUNC_TRANSFER then n.transfer cfg pkt
  else some n

/-- The part of `clock` behind the read of a message. -/
def receive : Option (FNENetwork Object) :=
  let n := n.trackSequence pkt
  -- call data without a stream id is discarded
  if pkt.fneHeader.streamId = 0 ∧ pkt.fneHeader.func = NET_FUNC_PROTOCOL then some n
  else n.dispatch cfg tables pkt draws

end Receive

/-- `clock`. An exception that `read` throws is not caught. -/
def clock (cfg : FNESettings Object) (tables : FNETables) (n : FNENetwork Object) (ms : UInt32)
    (received : Option (UDPDatagram × SockAddr)) (stack : Bytes) (draws : Draws) : Option (FNENetwork Object) :=
  if n.m_status ≠ .mstRunning then some n
  else do
    let n ← n.maintain cfg tables ms draws.now
    match received with
    | none => some n
    | some (d, address) =>
        let res := FrameQueue.readDatagram d stack
        if res.thrown then none
        else if res.messageLength > 0 then
          n.receive cfg tables
            { message := res.message.getD [], rtpHeader := res.rtpHeader.getD {},
              fneHeader := res.fneHeader.getD {}, address } draws
        else some n

/-! ## Runs

The events of a run are the two parts of `clock` and the flag that the REST interface sets. -/

/-- What can happen to the network. -/
inductive Event where
  | forceListUpdate
  | maintain (tables : FNETables) (ms : UInt32) (now : UInt64)
  | receive (tables : FNETables) (pkt : Packet) (draws : Draws)

/-- The state an event leaves. -/
def next (cfg : FNESettings Object) (n : FNENetwork Object) : Event → Option (FNENetwork Object)
  | .forceListUpdate => some { n with m_forceListUpdate := true }
  | .maintain tables ms now => n.maintain cfg tables ms now
  | .receive tables pkt draws => n.receive cfg tables pkt draws

/-- The step relation of the network. -/
def Step (cfg : FNESettings Object) (n : FNENetwork Object) (e : Event) (n' : FNENetwork Object) : Prop :=
  n.next cfg e = some n'

/-- **A call of `clock` is a run** of at most two events. -/
theorem clock_run {cfg : FNESettings Object} {tables : FNETables} {n n' : FNENetwork Object} {ms : UInt32}
    {received : Option (UDPDatagram × SockAddr)} {stack : Bytes} {draws : Draws}
    (h : n.clock cfg tables ms received stack draws = some n') :
    ∃ l, Run (Step cfg) n l ∧ endOf n l = n' := by
  unfold clock at h
  split at h
  · exact ⟨[], .nil, Option.some.inj h⟩
  · obtain ⟨m, hm, h⟩ := Option.bind_eq_some_iff.mp h
    have hfirst : Step cfg n (.maintain tables ms draws.now) m := hm
    split at h
    · exact ⟨_, .cons hfirst .nil, Option.some.inj h⟩
    · dsimp only at h
      split at h
      · exact absurd h (by simp)
      · split at h
        · exact ⟨_, .cons hfirst (.cons (show Step cfg m (.receive tables _ draws) n' from h) .nil), rfl⟩
        · exact ⟨_, .cons hfirst .nil, Option.some.inj h⟩

end FNENetwork

end DvmHost

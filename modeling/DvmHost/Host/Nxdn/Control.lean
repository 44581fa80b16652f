import DvmHost.Common.Defines
import DvmHost.Common.Lookups.AffiliationLookup
import DvmHost.Common.Acl.AccessControl
import DvmHost.Common.Nxdn.Channel.FACCH1
import DvmHost.Common.Nxdn.Channel.LICH
import DvmHost.Common.Nxdn.Channel.SACCH
import DvmHost.Common.Nxdn.Lc.RTCH
import DvmHost.Common.Nxdn.NXDNUtils

/-!
# `Host.Nxdn.Control` — an NXDN site and its frames

`src/host/nxdn/Control.{h,cpp}`: the members of `nxdn::Control`, with those of its `Voice`, that calls work on, the
transmit queues (`addFrame`), the ends of calls, and the frames that the site builds itself.

A frame is the tag of the modem and the 48 octets behind its two. What is written to the network is entered in
`written` with the link control of its header. The link control classes copy their octets bit by bit between the
caller's buffer and one of their own; every such loop is entered in `copies`. The counters of signal strength and the
control channel are left out.
-/

namespace DvmHost

open Lib

open RPT_RF_STATE RPT_NET_STATE

namespace Nxdn

/-! ## Constants -/

/-- `TAG_DATA`. -/
def TAG_DATA : UInt8 := 0x01

/-- `TAG_LOST`. -/
def TAG_LOST : UInt8 := 0x02

/-- `TAG_EOT`. -/
def TAG_EOT : UInt8 := 0x03

/-- `NXDN_FACCH1_FEC_LENGTH_BITS`. -/
def NXDN_FACCH1_FEC_LENGTH_BITS : Nat := 144

/-- `NXDN_SACCH_FEC_LENGTH_BITS`. -/
def NXDN_SACCH_FEC_LENGTH_BITS : Nat := 60

/-- `NXDN_FSW_LENGTH_BITS + NXDN_LICH_LENGTH_BITS + NXDN_SACCH_FEC_LENGTH_BITS`. -/
def FACCH1_1_OFFSET : Nat := LICH.NXDN_FSW_LENGTH_BITS + LICH.NXDN_LICH_LENGTH_BITS + NXDN_SACCH_FEC_LENGTH_BITS

/-- `FACCH1_1_OFFSET + NXDN_FACCH1_FEC_LENGTH_BITS`. -/
def FACCH1_2_OFFSET : Nat := FACCH1_1_OFFSET + NXDN_FACCH1_FEC_LENGTH_BITS

/-! ## Frames -/

/-- A frame: `data[0U]`, and the octets from `data + 2U` on. -/
structure Frame where
  tag : UInt8
  data : Bytes

/-- A ring buffer of frames: its length, and the frames in it, each behind an octet with its length. -/
structure TxQueue where
  length : Nat
  frames : List Frame

namespace TxQueue

/-- `NXDN_FRAME_LENGTH_BYTES + 2U`. -/
def len : Nat := NXDN_FRAME_LENGTH_BYTES + 2

/-- `clear`. -/
def clear (q : TxQueue) : TxQueue := { q with frames := [] }

/-- `freeSpace`. -/
def freeSpace (q : TxQueue) : Nat := q.length - (len + 1) * q.frames.length

/-- The lines of `addFrame` for either queue. With just as many cells as it needs the ring overflows and is empty. -/
def add (q : TxQueue) (frame : Frame) (net : Bool) : TxQueue :=
  if q.freeSpace < len + 1 then
    if !net then { length := q.length + len, frames := [] } else q
  else if q.freeSpace = len + 1 then q.clear
  else { q with frames := q.frames ++ [frame] }

end TxQueue

/-- A loop that copies `length` bits between the caller's buffer, from `offset` on, and the one of the link control
    class, from its start on; the two have these lengths in octets. -/
structure BitCopy where
  caller : Nat
  callee : Nat
  length : Nat
  offset : Nat
deriving DecidableEq

/-! ## The state -/

/-- The options of a site. -/
structure Settings where
  authoritative : Bool
  supervisor : Bool
  ran : UInt32
  duplex : Bool
  enableControl : Bool
  dedicatedControl : Bool
  hasNetwork : Bool
  silenceThreshold : UInt32
  frameLossThreshold : UInt8
  PRNG_TABLE : Nat → Nat

/-- What a call of the handlers finds on the stack: the arrays of the channel decoders that are read before they are
    written, and what `message` and `buffer` are among. -/
structure Stack where
  mem : Channel.Memory
  message : Bytes
  buffer : Bytes

/-- The members of `nxdn::Control` and of its `Voice`. -/
structure Control where
  acl : AccessControl
  affiliations : AffiliationLookup
  rfLastLICH : LICH
  rfLC : RTCH
  netLC : RTCH
  permittedDstId : UInt32
  rfMask : UInt8
  netMask : UInt8
  txImmQueue : TxQueue
  txQueue : TxQueue
  rfState : RPT_RF_STATE
  rfLastDstId : UInt32
  rfLastSrcId : UInt32
  netState : RPT_NET_STATE
  netLastDstId : UInt32
  netLastSrcId : UInt32
  rfTimeout : Timer
  rfTGHang : Timer
  rfLossWatchdog : Timer
  netTimeout : Timer
  netTGHang : Timer
  networkWatchdog : Timer
  frameLossCnt : UInt8
  rfFrames : UInt32
  rfBits : UInt32
  rfErrs : UInt32
  rfUndecodableLC : UInt32
  netFrames : UInt32
  netLost : UInt32
  lastRejectId : UInt32
  written : List (RTCH × Frame)
  copies : List BitCopy

namespace Control

/-- A hang timer that runs. -/
def isHanging (hang : Timer) : Bool := hang.isRunning && !hang.hasExpired

/-- A timeout after which frames are dropped. -/
def isTimedOut (timeout : Timer) : Bool := timeout.isRunning && timeout.hasExpired

/-- `lc.decode(data, length, offset)`, of a buffer with this many octets. -/
def decodeRTCH (s : Control) (lc : RTCH) (octets : Nat) (data : Bytes) (length offset : Nat) : RTCH × Control :=
  (lc.decode data length offset, { s with copies := s.copies ++ [⟨octets, 22, length, offset⟩] })

/-- `lc.encode(data, length)`, into a buffer with this many octets. -/
def encodeRTCH (s : Control) (lc : RTCH) (octets : Nat) (data : Bytes) (length : Nat) : Bytes × Control :=
  (lc.encode data length 0, { s with copies := s.copies ++ [⟨octets, 22, length, 0⟩] })

/-! ## The queues and the network -/

/-- `addFrame`. -/
def addFrame (s : Control) (frame : Frame) (net imm : Bool) : Control :=
  if isTimedOut (if net then s.netTimeout else s.rfTimeout) then s
  else if imm then { s with txImmQueue := s.txImmQueue.add frame net }
  else { s with txQueue := s.txQueue.add frame net }

/-- `Voice::writeNetwork` and `Data::writeNetwork`. -/
def writeNetwork (c : Settings) (s : Control) (frame : Frame) : Control :=
  if !c.hasNetwork then s
  else if isTimedOut s.rfTimeout then s
  else { s with written := s.written ++ [(s.rfLC, frame)] }

/-! ## The ends of calls -/

/-- `Voice::resetRF`. -/
def resetRF (s : Control) : Control := { s with rfFrames := 0, rfErrs := 0, rfBits := 1, rfUndecodableLC := 0 }

/-- `Voice::resetNet`. -/
def resetNet (s : Control) : Control := { s with netFrames := 0, netLost := 0 }

/-- `writeEndRF`. -/
def writeEndRF (s : Control) : Control :=
  { s with rfState := RS_RF_LISTENING, rfMask := 0x00, rfLC := s.rfLC.reset, rfTimeout := s.rfTimeout.stop }

/-- `writeEndNet`. -/
def writeEndNet (s : Control) : Control :=
  { s with
    netState := RS_NET_IDLE
    netMask := 0x00
    netLC := s.netLC.reset
    netTimeout := s.netTimeout.stop
    networkWatchdog := s.networkWatchdog.stop }

/-- `processFrameLoss`, without the callback over REST. -/
def processFrameLoss (s : Control) : Control :=
  let s :=
    if s.rfState = RS_RF_AUDIO then
      { s with affiliations := (s.affiliations.releaseGrant s.rfLC.dstId.toUInt32 false).2 }.writeEndRF
    else s
  let s := if s.rfState = RS_RF_DATA then s.writeEndRF else s
  { s with rfState := RS_RF_LISTENING, rfMask := 0x00, rfLC := s.rfLC.reset }

/-! ## The frames of the site -/

/-- The SACCH of a frame outside of superframes. -/
def idleSACCH (c : Settings) : SACCH :=
  { SACCH.new.setData SACCH.SACCH_IDLE with m_ran := c.ran.toUInt8, m_structure := SACCH.NXDN_SR_SINGLE }

/-- The lines that build the frame of a header, to the scrambler: the sync, the LICH, the SACCH and the FACCH1 twice. -/
def headerFrame (c : Settings) (mem : Channel.Memory) (outbound : Bool) (facch : FACCH1) (data : Bytes) : Bytes :=
  let data := addNXDNSync data
  let lich : LICH := { LICH.new with
    m_rfct := NXDN_LICH_RFCT_RDCH
    m_fct := NXDN_LICH_USC_SACCH_NS
    m_option := NXDN_LICH_STEAL_FACCH
    m_outbound := outbound }
  let data := lich.encode data
  let data := ((idleSACCH c).encode mem data).2
  let data := facch.encode mem data FACCH1_1_OFFSET
  let data := facch.encode mem data FACCH1_2_OFFSET
  scrambler data

/-- `writeRF_Message_Tx_Rel`: its frame, and the state. The link control is asked for 184 bits, and the offsets of the
    FACCH1 are those of the contents and not of what is sent. -/
def txRelFrame (c : Settings) (s : Control) (mem : Channel.Memory) : Frame × Control :=
  let data := addNXDNSync fun _ => 0x00
  let lich : LICH := { LICH.new with
    m_rfct := NXDN_LICH_RFCT_RTCH
    m_fct := NXDN_LICH_USC_SACCH_NS
    m_option := NXDN_LICH_STEAL_FACCH
    m_outbound := true }
  let data := lich.encode data
  let s := { s with rfLC := { s.rfLC with messageType := RTCH_MESSAGE_TYPE_TX_REL } }
  let encoded := s.encodeRTCH s.rfLC 22 (fun _ => 0x00) 184
  let data := ((idleSACCH c).encode mem data).2
  let facch := FACCH1.new.setData encoded.1
  let base := LICH.NXDN_FSW_LENGTH_BITS + LICH.NXDN_LICH_LENGTH_BITS + SACCH.NXDN_SACCH_LENGTH_BITS
  let data := facch.encode mem data base
  let data := facch.encode mem data (base + FACCH1.NXDN_FACCH1_LENGTH_BITS)
  ({ tag := TAG_DATA, data := scrambler data }, encoded.2)

/-- `writeRF_Message_Tx_Rel`. -/
def writeRFMessageTxRel (c : Settings) (s : Control) (mem : Channel.Memory) (noNetwork : Bool) : Control :=
  let built := txRelFrame c s mem
  let s := if !noNetwork then writeNetwork c built.2 built.1 else built.2
  if c.duplex then s.addFrame built.1 true false else s

end Control

end Nxdn

end DvmHost

import DvmHost.Common.Dmr.Lc.CSBK
import DvmHost.Common.Dmr.Lc.FullLC
import DvmHost.Common.Network.BaseNetwork
import DvmHost.Common.Network.FrameQueue
import DvmHost.Common.Nxdn.Lc.RTCH

/-!
# `Common.Network.NetworkWriter` — the streams of a network and the numbers of their messages

`writeDMR`, `writeP25LDU1` to `writeP25PDU` and `writeNXDN` of `src/common/network/BaseNetwork.cpp`, with `pktSeq`
and the resets: under which stream id and with which RTP sequence number a message is handed to `writeMaster`. What
the message holds is the matter of `createDMR_Message` and its siblings and is left out. Each function takes the
stream id that `createStreamId` gives should it be called.
-/

namespace DvmHost

/-- `DVM_RAND_MIN`. -/
def DVM_RAND_MIN : UInt32 := 0x00000001

/-- `DVM_RAND_MAX`. -/
def DVM_RAND_MAX : UInt32 := 0xfffffffe

/-- What `createStreamId` draws. -/
structure StreamId where
  val : UInt32
  minimal : DVM_RAND_MIN ≤ val
  maximal : val ≤ DVM_RAND_MAX
deriving DecidableEq

/-- A stream id is never the zero that stands for none. -/
theorem StreamId.ne_zero (s : StreamId) : s.val ≠ 0 := fun h => absurd (h ▸ s.minimal) (by decide)

/-! ## The counter -/

/-- `m_pktSeq`, kept below the last value before the reserved one. -/
structure PacketSequence where
  next : UInt16
  bounded : next < RTP_END_OF_CALL_SEQ - 1

namespace PacketSequence

/-- `m_pktSeq = 0U`. -/
def zero : PacketSequence := ⟨0, by decide⟩

/-- `++m_pktSeq`, and back to zero behind the last value. -/
def advance (seq : UInt16) : PacketSequence :=
  if h : seq + 1 ≥ RTP_END_OF_CALL_SEQ - 1 then zero else ⟨seq + 1, UInt16.not_le.mp h⟩

/-- `pktSeq`: the number for a message, and the counter behind it. -/
def pktSeq (m_pktSeq : PacketSequence) (reset : Bool) : UInt16 × PacketSequence :=
  let curr := if reset then 0 else m_pktSeq.next
  (curr, advance curr)

end PacketSequence

/-- `DT_DATA_HEADER`. -/
def Dmr.DT_DATA_HEADER : UInt8 := 0x06

/-! ## The writer -/

/-- A message handed to `writeMaster`. -/
structure WrittenMessage where
  opcode : UInt8 × UInt8
  pktSeq : UInt16
  streamId : StreamId

/-- The part of `class BaseNetwork` that messages are written from. -/
structure NetworkWriter where
  m_status : NetConnStatus
  m_slot1 : Bool
  m_slot2 : Bool
  m_dmrStreamId : Fin 2 → StreamId
  m_p25StreamId : StreamId
  m_nxdnStreamId : StreamId
  m_pktSeq : PacketSequence

namespace NetworkWriter

open Dmr Nxdn

/-- The status lets messages be written. -/
def isRunning (w : NetworkWriter) : Bool := w.m_status = .running || w.m_status = .mstRunning

/-- Individual slot disabling. -/
def slotEnabled (w : NetworkWriter) (slotIndex : Fin 2) : Bool := if slotIndex = 0 then w.m_slot1 else w.m_slot2

/-- The data types that a stream of DMR begins with. -/
def beginsStream (dataType : UInt8) : Bool :=
  dataType = DT_VOICE_LC_HEADER || (dataType = DT_CSBK || dataType = DT_DATA_HEADER)

/-- `writeDMR`. -/
def writeDMR (w : NetworkWriter) (newId : StreamId) (slotIndex : Fin 2) (dataType : UInt8) (noSequence : Bool) :
    Option WrittenMessage × NetworkWriter :=
  if !w.isRunning then (none, w)
  else if !w.slotEnabled slotIndex then (none, w)
  else
    let resetSeq := beginsStream dataType
    let m_dmrStreamId := if resetSeq then Function.update w.m_dmrStreamId slotIndex newId else w.m_dmrStreamId
    let (seq, m_pktSeq) := w.m_pktSeq.pktSeq resetSeq
    let seq := if dataType = DT_TERMINATOR_WITH_LC then RTP_END_OF_CALL_SEQ else seq
    let seq := if noSequence then RTP_END_OF_CALL_SEQ else seq
    (some
      { opcode := (NET_FUNC_PROTOCOL, NET_PROTOCOL_SUBFUNC_DMR), pktSeq := seq, streamId := m_dmrStreamId slotIndex },
      { w with m_dmrStreamId, m_pktSeq })

/-- What the five functions of P25 begin with: a stream without an id begins. -/
def p25Stream (w : NetworkWriter) (newId : StreamId) : Bool × StreamId :=
  if w.m_p25StreamId.val = 0 then (true, newId) else (false, w.m_p25StreamId)

/-- The functions of P25 that number their message; `last` is the test for the end of the call. -/
def writeP25 (w : NetworkWriter) (newId : StreamId) (last : Bool) : Option WrittenMessage × NetworkWriter :=
  if !w.isRunning then (none, w)
  else
    let (resetSeq, m_p25StreamId) := w.p25Stream newId
    let (seq, m_pktSeq) := w.m_pktSeq.pktSeq resetSeq
    let seq := if last then RTP_END_OF_CALL_SEQ else seq
    (some { opcode := (NET_FUNC_PROTOCOL, NET_PROTOCOL_SUBFUNC_P25), pktSeq := seq, streamId := m_p25StreamId },
      { w with m_p25StreamId, m_pktSeq })

/-- `writeP25LDU1`. -/
def writeP25LDU1 (w : NetworkWriter) (newId : StreamId) : Option WrittenMessage × NetworkWriter :=
  w.writeP25 newId false

/-- `writeP25LDU2`. -/
def writeP25LDU2 (w : NetworkWriter) (newId : StreamId) : Option WrittenMessage × NetworkWriter :=
  w.writeP25 newId false

/-- `writeP25TDU`. -/
def writeP25TDU (w : NetworkWriter) (newId : StreamId) (controlByte : UInt8) :
    Option WrittenMessage × NetworkWriter :=
  w.writeP25 newId (controlByte = 0x00)

/-- `writeP25TSDU`: no number is drawn. -/
def writeP25TSDU (w : NetworkWriter) (newId : StreamId) : Option WrittenMessage × NetworkWriter :=
  if !w.isRunning then (none, w)
  else
    let (_, m_p25StreamId) := w.p25Stream newId
    (some
      { opcode := (NET_FUNC_PROTOCOL, NET_PROTOCOL_SUBFUNC_P25), pktSeq := RTP_END_OF_CALL_SEQ,
        streamId := m_p25StreamId },
      { w with m_p25StreamId })

/-- `writeP25PDU`. -/
def writeP25PDU (w : NetworkWriter) (newId : StreamId) (lastBlock : Bool) : Option WrittenMessage × NetworkWriter :=
  w.writeP25 newId lastBlock

/-- `writeNXDN`. -/
def writeNXDN (w : NetworkWriter) (newId : StreamId) (messageType : UInt8) (noSequence : Bool) :
    Option WrittenMessage × NetworkWriter :=
  if !w.isRunning then (none, w)
  else
    let resetSeq : Bool := w.m_nxdnStreamId.val = 0
    let m_nxdnStreamId := if resetSeq then newId else w.m_nxdnStreamId
    let (seq, m_pktSeq) := w.m_pktSeq.pktSeq resetSeq
    let seq :=
      if messageType = RTCH_MESSAGE_TYPE_TX_REL ∨ messageType = RTCH_MESSAGE_TYPE_TX_REL_EX then RTP_END_OF_CALL_SEQ
      else seq
    let seq := if noSequence then RTP_END_OF_CALL_SEQ else seq
    (some { opcode := (NET_FUNC_PROTOCOL, NET_PROTOCOL_SUBFUNC_NXDN), pktSeq := seq, streamId := m_nxdnStreamId },
      { w with m_nxdnStreamId, m_pktSeq })

/-- `resetDMR`. -/
def resetDMR (w : NetworkWriter) (newId : StreamId) (slotIndex : Fin 2) : NetworkWriter :=
  { w with m_dmrStreamId := Function.update w.m_dmrStreamId slotIndex newId, m_pktSeq := .zero }

/-- `resetP25`. -/
def resetP25 (w : NetworkWriter) (newId : StreamId) : NetworkWriter :=
  { w with m_p25StreamId := newId, m_pktSeq := .zero }

/-- `resetNXDN`. -/
def resetNXDN (w : NetworkWriter) (newId : StreamId) : NetworkWriter :=
  { w with m_nxdnStreamId := newId, m_pktSeq := .zero }

end NetworkWriter

end DvmHost

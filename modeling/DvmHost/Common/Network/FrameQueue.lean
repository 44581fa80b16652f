import DvmHost.Common.Edac.CRC
import DvmHost.Common.Network.RTPHeader
import DvmHost.Lib.UnorderedMap

/-!
# `Common.Network.FrameQueue` — framing and unframing of network messages

`FrameQueue::read` and `FrameQueue::enqueueMessage` of `src/common/network/FrameQueue.cpp`. `read` parses the
local receive buffer: the octets of the datagram, then the zeros it was filled with, and from its end on
whatever lies behind it on the stack. The parse is an `Access`, so that the octets it looks at are part of its
result. Addresses, log messages and debug dumps are left out; allocations of a non-negative size succeed.
-/

namespace DvmHost

open Lib

/-- `DATA_PACKET_LENGTH`. -/
def DATA_PACKET_LENGTH : Nat := 8192

/-- `DVM_RTP_PAYLOAD_TYPE`. -/
def DVM_RTP_PAYLOAD_TYPE : UInt8 := 0x56

/-- `DVM_CTRL_RTP_PAYLOAD_TYPE`. -/
def DVM_CTRL_RTP_PAYLOAD_TYPE : UInt8 := 0x57

/-- `NET_FUNC_GRANT_REQ`. -/
def NET_FUNC_GRANT_REQ : UInt8 := 0x7A

/-- `NET_FUNC_TRANSFER`. -/
def NET_FUNC_TRANSFER : UInt8 := 0x90

/-- `RTP_END_OF_CALL_SEQ`. -/
def RTP_END_OF_CALL_SEQ : UInt16 := 65535

/-- The length of the three headers. -/
abbrev HEADERS_LENGTH_BYTES : Nat :=
  RTP_HEADER_LENGTH_BYTES + RTP_EXTENSION_HEADER_LENGTH_BYTES + RTP_FNE_HEADER_LENGTH_BYTES

/-- `struct UDPDatagram`. -/
structure UDPDatagram where
  buffer : Bytes
  length : Nat

namespace UDPDatagram

/-- How many octets `m_socket->read(buffer, DATA_PACKET_LENGTH, ..)` delivers: the rest is cut off. -/
def received (d : UDPDatagram) : Nat := min d.length DATA_PACKET_LENGTH

/-- The receive buffer, and what lies behind it. -/
def receiveBuffer (d : UDPDatagram) (stack : Bytes) : Bytes := fun i =>
  if i < d.received then d.buffer i else if i < DATA_PACKET_LENGTH then 0x00 else stack i

/-- The return value of the socket's `read`; `recvfrom` giving nothing is an error. -/
def socketRead (d : UDPDatagram) : Int := if d.received = 0 then -1 else d.received

end UDPDatagram

/-- What `read` leaves: its return value (`none` for `nullptr`), `messageLength`, the headers written through
    the out parameters, and whether `new uint8_t[messageLength]` threw `std::bad_array_new_length`. -/
structure ReadResult where
  message : Option (List UInt8) := none
  messageLength : Int := -1
  rtpHeader : Option RTPHeader := none
  fneHeader : Option RTPFNEHeader := none
  thrown : Bool := false
deriving DecidableEq

/-- The state of `class FrameQueue`: the queued datagrams and the timestamp of each stream. -/
structure FrameQueue where
  m_buffers : List UDPDatagram
  m_streamTimestamps : UnorderedMap UInt32 UInt32

namespace FrameQueue

/-- A buffer of `message`'s octets, with zeros behind them. -/
def octets (message : List UInt8) : Bytes := fun i => message.getD i 0

/-- `createCRC16(message, length * 8U)`, the bit length a `uint32_t`. -/
def messageCRC (message : List UInt8) (length : Nat) : UInt16 :=
  CRC.createCRC16 (octets message) (length * 8 % 2 ^ 32)

/-- The tail of `read`: the message is copied and its CRC checked. -/
def readMessage (rtpHeader : RTPHeader) (fneHeader : RTPFNEHeader) : Access UInt8 ReadResult :=
  let messageLength := fneHeader.messageLength.toInt32.toInt
  if messageLength < 0 then
    pure {
      messageLength := messageLength, rtpHeader := some rtpHeader, fneHeader := some fneHeader, thrown := true }
  else do
    let message ← Access.cells HEADERS_LENGTH_BYTES messageLength.toNat
    let calculated := messageCRC message messageLength.toNat
    if calculated ≠ fneHeader.crc16 then
      pure { messageLength := -1, rtpHeader := some rtpHeader, fneHeader := some fneHeader }
    else
      pure { message := some message, messageLength := messageLength, rtpHeader := some rtpHeader,
             fneHeader := some fneHeader }

/-- `read`, on the receive buffer and the length that the socket returned. -/
def read (length : Int) : Access UInt8 ReadResult :=
  if length < 0 then pure {}
  else if length > 0 then
    if length < RTP_HEADER_LENGTH_BYTES + RTP_EXTENSION_HEADER_LENGTH_BYTES then pure {}
    else do
      match ← RTPHeader.decode 0 with
      | none => pure {}
      | some rtpHeader =>
          if !rtpHeader.extension then pure {}
          else if rtpHeader.payloadType ≠ DVM_RTP_PAYLOAD_TYPE ∧
              rtpHeader.payloadType ≠ DVM_CTRL_RTP_PAYLOAD_TYPE then pure {}
          else do
            match ← RTPFNEHeader.decode RTP_HEADER_LENGTH_BYTES with
            | none => pure { rtpHeader := some rtpHeader }
            | some fneHeader => readMessage rtpHeader fneHeader
  else pure {}

/-- `read` of the next datagram. -/
def readDatagram (d : UDPDatagram) (stack : Bytes) : ReadResult :=
  (read d.socketRead).value (d.receiveBuffer stack)

/-- The timestamp handling at the start of `enqueueMessage`: the timestamp to send and the table. -/
def nextTimestamp (q : FrameQueue) (streamId : UInt32) : UInt32 × UnorderedMap UInt32 UInt32 :=
  if streamId ≠ 0 then
    let timestamp := (q.m_streamTimestamps.lookup streamId).getD INVALID_TS
    if timestamp ≠ INVALID_TS then
      let timestamp := timestamp + (RTP_GENERIC_CLOCK_RATE / 133).toUInt32
      (timestamp, q.m_streamTimestamps.insert streamId timestamp)
    else (timestamp, q.m_streamTimestamps)
  else (INVALID_TS, q.m_streamTimestamps)

/-- The RTP header of a message. Control opcodes carry their own payload type and no sequence. -/
def rtpHeaderFor (opcode : UInt8 × UInt8) (timestamp : UInt32) (rtpSeq : UInt16) (ssrc : UInt32) : RTPHeader :=
  let header : RTPHeader :=
    { extension := true, payloadType := DVM_RTP_PAYLOAD_TYPE, timestamp, seq := rtpSeq, ssrc }
  -- properly flag control opcodes
  if opcode.1 = NET_FUNC_TRANSFER ∨ opcode.1 = NET_FUNC_GRANT_REQ then
    { header with payloadType := DVM_CTRL_RTP_PAYLOAD_TYPE, seq := 0 }
  else header

/-- The FNE header of a message. -/
def fneHeaderFor (message : List UInt8) (streamId peerId : UInt32) (opcode : UInt8 × UInt8) : RTPFNEHeader :=
  { crc16 := messageCRC message message.length, streamId := streamId, peerId := peerId,
    messageLength := message.length.toUInt32, func := opcode.1, subFunc := opcode.2 }

/-- `memcpy(buffer + start, message, length)`. -/
def copyTo (buffer : Bytes) (start : Nat) (message : List UInt8) : Bytes := fun i =>
  if start ≤ i ∧ i < start + message.length then octets message (i - start) else buffer i

/-- The stream table after the message: the first message of a stream enters it, the last one leaves it. -/
def recordTimestamp (table : UnorderedMap UInt32 UInt32) (streamId timestamp sent : UInt32) (rtpSeq : UInt16) :
    UnorderedMap UInt32 UInt32 :=
  let table :=
    if streamId ≠ 0 ∧ timestamp = INVALID_TS ∧ rtpSeq ≠ RTP_END_OF_CALL_SEQ then table.insert streamId sent
    else table
  if streamId ≠ 0 ∧ rtpSeq = RTP_END_OF_CALL_SEQ then table.erase streamId else table

/-- `enqueueMessage`; `diffNow` is the age of the media clock. -/
def enqueueMessage (q : FrameQueue) (message : List UInt8) (streamId peerId ssrc : UInt32)
    (opcode : UInt8 × UInt8) (rtpSeq : UInt16) (diffNow : UInt64) : FrameQueue :=
  let timestamp := (q.nextTimestamp streamId).1
  let header := rtpHeaderFor opcode timestamp rtpSeq ssrc
  let buffer := header.encode diffNow (fun _ => 0x00)
  let table := recordTimestamp (q.nextTimestamp streamId).2 streamId timestamp buffer.1.timestamp rtpSeq
  let fneHeader := fneHeaderFor message streamId peerId opcode
  let framed := (fneHeader.encode buffer.2 RTP_HEADER_LENGTH_BYTES).2
  { m_buffers := q.m_buffers ++
      [{ buffer := copyTo framed HEADERS_LENGTH_BYTES message
         length := HEADERS_LENGTH_BYTES + message.length }]
    m_streamTimestamps := table }

end FrameQueue

end DvmHost

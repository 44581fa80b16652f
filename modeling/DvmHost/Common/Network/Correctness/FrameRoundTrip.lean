import DvmHost.Common.Network.Correctness.FrameBounds

/-!
# `Common.Network.Correctness.FrameRoundTrip` — a queued frame reads back, and a burst is caught

`enqueueMessage` writes the two headers and the message one behind the other; each header is a round trip by
itself, and none reaches into the octets of the next. What `read` makes of a datagram whose length is the one
it declares is `readDatagram_of_accepted`; both the frame as queued and the frame as altered are cases of it,
and differ in the outcome of the CRC only.
-/

namespace DvmHost

open Lib

namespace FrameQueue

/-- The `n` octets of a datagram behind its headers. -/
def payload (d : UDPDatagram) (n : Nat) : List UInt8 :=
  (List.range n).map fun i => d.buffer (HEADERS_LENGTH_BYTES + i)

theorem octets_payload (d : UDPDatagram) {n i : Nat} (h : i < n) :
    octets (payload d n) i = d.buffer (HEADERS_LENGTH_BYTES + i) := by
  simp [octets, payload, List.getD_eq_getElem?_getD, h]

theorem map_octets (message : List UInt8) : (List.range message.length).map (octets message) = message := by
  apply List.ext_getElem (by simp)
  intro i _ hi
  simp [octets, hi]

/-- **What `read` makes of a datagram of the length it declares**: the octets behind the headers, when they
    have the CRC of the header. -/
theorem readDatagram_of_accepted {d : UDPDatagram} {n : Nat} (hacc : HeadersAccepted d.buffer)
    (hdecl : declaredLength d.buffer = n) (hn : n < 2 ^ 31) (hrec : d.received = HEADERS_LENGTH_BYTES + n)
    (stack : Bytes) :
    readDatagram d stack =
      if messageCRC (payload d n) n ≠ (RTPFNEHeader.fields d.buffer RTP_HEADER_LENGTH_BYTES).crc16 then
        { messageLength := -1, rtpHeader := some (RTPHeader.fields d.buffer 0),
          fneHeader := some (RTPFNEHeader.fields d.buffer RTP_HEADER_LENGTH_BYTES) }
      else
        { message := some (payload d n), messageLength := n, rtpHeader := some (RTPHeader.fields d.buffer 0),
          fneHeader := some (RTPFNEHeader.fields d.buffer RTP_HEADER_LENGTH_BYTES) } := by
  have h12 : RTP_HEADER_LENGTH_BYTES = 12 := rfl
  have h32 : HEADERS_LENGTH_BYTES = 32 := rfl
  have hin : ∀ i < 32 + n, d.receiveBuffer stack i = d.buffer i := fun i hi =>
    receiveBuffer_of_lt stack (by omega)
  have hrtp : RTPHeader.fields (d.receiveBuffer stack) 0 = RTPHeader.fields d.buffer 0 :=
    RTPHeader.fields_congr fun i _ hi => hin i (by omega)
  have hfne : RTPFNEHeader.fields (d.receiveBuffer stack) RTP_HEADER_LENGTH_BYTES =
      RTPFNEHeader.fields d.buffer RTP_HEADER_LENGTH_BYTES :=
    RTPFNEHeader.fields_congr _ fun i _ hi => hin i (by omega)
  have hacc' : HeadersAccepted (d.receiveBuffer stack) :=
    (headersAccepted_congr fun i hi => hin i (by omega)).mpr hacc
  have hlen : (RTPFNEHeader.fields d.buffer RTP_HEADER_LENGTH_BYTES).messageLength.toNat = n := hdecl
  have hcopy : (List.range n).map (fun i => d.receiveBuffer stack (HEADERS_LENGTH_BYTES + i)) = payload d n :=
    List.map_congr_left fun i hi => hin _ (by have := List.mem_range.mp hi; omega)
  have hsock : d.socketRead = (d.received : Int) := if_neg (by omega)
  unfold readDatagram
  rw [hsock, value_read_of_accepted (by omega) hacc', hrtp, hfne]
  unfold readMessage
  dsimp only
  have hint := toInt32_of_lt (v := (RTPFNEHeader.fields d.buffer RTP_HEADER_LENGTH_BYTES).messageLength)
    (by omega)
  rw [hint, hlen, if_neg (by omega), Access.value_bind, Access.value_cells, Int.toNat_natCast, hcopy]
  split
  · rfl
  · rfl

/-! ## The frame as queued -/

/-- The frame that `enqueueMessage` builds. -/
def frame (message : List UInt8) (streamId peerId : UInt32) (opcode : UInt8 × UInt8) (header : RTPHeader)
    (diffNow : UInt64) : UDPDatagram where
  buffer := copyTo
    ((fneHeaderFor message streamId peerId opcode).encode (header.encode diffNow fun _ => 0x00).2
      RTP_HEADER_LENGTH_BYTES).2 HEADERS_LENGTH_BYTES message
  length := HEADERS_LENGTH_BYTES + message.length

theorem enqueueMessage_buffers (q : FrameQueue) (message : List UInt8) (streamId peerId ssrc : UInt32)
    (opcode : UInt8 × UInt8) (rtpSeq : UInt16) (diffNow : UInt64) :
    (q.enqueueMessage message streamId peerId ssrc opcode rtpSeq diffNow).m_buffers =
      q.m_buffers ++ [frame message streamId peerId opcode
        (rtpHeaderFor opcode (q.nextTimestamp streamId).1 rtpSeq ssrc) diffNow] := rfl

section Frame

variable {message : List UInt8} {streamId peerId : UInt32} {opcode : UInt8 × UInt8} {header : RTPHeader}
  {diffNow : UInt64}

/-- The octets before the message. -/
theorem frame_buffer_of_lt {i : Nat} (hi : i < HEADERS_LENGTH_BYTES) :
    (frame message streamId peerId opcode header diffNow).buffer i =
      ((fneHeaderFor message streamId peerId opcode).encode (header.encode diffNow fun _ => 0x00).2
        RTP_HEADER_LENGTH_BYTES).2 i := by
  unfold frame copyTo
  exact if_neg (by omega)

/-- The octets of the message. -/
theorem frame_buffer_of_ge {i : Nat} (hi : i < message.length) :
    (frame message streamId peerId opcode header diffNow).buffer (HEADERS_LENGTH_BYTES + i) =
    octets message i := by
  unfold frame copyTo
  dsimp only
  rw [if_pos (by omega), Nat.add_sub_cancel_left]

/-- The FNE header of the frame. -/
theorem fields_fne_frame :
    RTPFNEHeader.fields (frame message streamId peerId opcode header diffNow).buffer RTP_HEADER_LENGTH_BYTES =
      ((fneHeaderFor message streamId peerId opcode).encode (header.encode diffNow fun _ => 0x00).2
        RTP_HEADER_LENGTH_BYTES).1 := by
  have h12 : RTP_HEADER_LENGTH_BYTES = 12 := rfl
  have h32 : HEADERS_LENGTH_BYTES = 32 := rfl
  rw [← RTPFNEHeader.fields_encode]
  exact RTPFNEHeader.fields_congr _ fun i _ hi => frame_buffer_of_lt (by omega)

theorem crc16_frame :
    (RTPFNEHeader.fields (frame message streamId peerId opcode header diffNow).buffer
    RTP_HEADER_LENGTH_BYTES).crc16 =
      messageCRC message message.length := by
  rw [fields_fne_frame]
  rfl

/-- The RTP header of the frame, which the FNE header is written behind. -/
theorem fields_rtp_frame (hv : header.version = 2) (hcc : header.cc < 16) (hpt : header.payloadType < 128) :
    RTPHeader.fields (frame message streamId peerId opcode header diffNow).buffer 0 =
      (header.encode diffNow fun _ => 0x00).1 := by
  have h12 : RTP_HEADER_LENGTH_BYTES = 12 := rfl
  have h32 : HEADERS_LENGTH_BYTES = 32 := rfl
  rw [← RTPHeader.fields_encode hv hcc hpt]
  refine RTPHeader.fields_congr fun i _ hi => ?_
  rw [frame_buffer_of_lt (by omega)]
  exact RTPFNEHeader.encode_of_notMem _ _ (Or.inl (by omega))

/-- The message of the frame. -/
theorem payload_frame : payload (frame message streamId peerId opcode header diffNow) message.length =
    message := by
  refine Eq.trans (List.map_congr_left fun i hi => ?_) (map_octets message)
  exact frame_buffer_of_ge (List.mem_range.mp hi)

end Frame

/-- The RTP headers that are sent pass every check. -/
theorem rtpHeaderFor_valid (opcode : UInt8 × UInt8) (timestamp : UInt32) (rtpSeq : UInt16) (ssrc : UInt32) :
    (rtpHeaderFor opcode timestamp rtpSeq ssrc).version = 2 ∧
    (rtpHeaderFor opcode timestamp rtpSeq ssrc).cc < 16 ∧
      (rtpHeaderFor opcode timestamp rtpSeq ssrc).extension = true ∧
      ((rtpHeaderFor opcode timestamp rtpSeq ssrc).payloadType = DVM_RTP_PAYLOAD_TYPE ∨
        (rtpHeaderFor opcode timestamp rtpSeq ssrc).payloadType = DVM_CTRL_RTP_PAYLOAD_TYPE) := by
  unfold rtpHeaderFor
  dsimp only
  split
  · exact ⟨rfl, (by decide : (0 : UInt8) < 16), rfl, Or.inr rfl⟩
  · exact ⟨rfl, (by decide : (0 : UInt8) < 16), rfl, Or.inl rfl⟩

section Frame

variable {message : List UInt8} {streamId peerId : UInt32} {opcode : UInt8 × UInt8} {header : RTPHeader}
  {diffNow : UInt64}

/-- A header that passes every check is accepted in its frame. -/
theorem headersAccepted_frame (hv : header.version = 2) (hcc : header.cc < 16) (hext : header.extension = true)
    (hpt : header.payloadType = DVM_RTP_PAYLOAD_TYPE ∨ header.payloadType = DVM_CTRL_RTP_PAYLOAD_TYPE) :
    HeadersAccepted (frame message streamId peerId opcode header diffNow).buffer := by
  have hsmall : header.payloadType < 128 := by
    rcases hpt with h | h
    · rw [h]
      decide
    · rw [h]
      decide
  unfold HeadersAccepted
  rw [RTPFNEHeader.announced_iff, fields_fne_frame, fields_rtp_frame hv hcc hsmall]
  exact ⟨hv, hext, hpt, rfl, rfl⟩

theorem declaredLength_frame (hlen : message.length < 2 ^ 31) :
    declaredLength (frame message streamId peerId opcode header diffNow).buffer = message.length := by
  unfold declaredLength
  rw [fields_fne_frame]
  have hword : (message.length.toUInt32).toNat = message.length % 2 ^ 32 :=
    UInt32.toNat_ofNat'
  exact hword.trans (Nat.mod_eq_of_lt (by omega))

end Frame

/-! ## The round trip -/

/-- What `read` gives reproduces a message and its header fields. -/
structure Reproduces (res : ReadResult) (message : List UInt8) (streamId peerId ssrc : UInt32)
    (opcode : UInt8 × UInt8) (seq : UInt16) : Prop where
  message_eq : res.message = some message
  messageLength_eq : res.messageLength = message.length
  rtpHeader_eq : ∃ r, res.rtpHeader = some r ∧ r.seq = seq ∧ r.ssrc = ssrc
  fneHeader_eq : ∃ f, res.fneHeader = some f ∧ f.func = opcode.1 ∧ f.subFunc = opcode.2 ∧
    f.streamId = streamId ∧ f.peerId = peerId

/-- The sequence number that is sent: control opcodes carry none. -/
def sentSeq (opcode : UInt8 × UInt8) (rtpSeq : UInt16) : UInt16 :=
  if opcode.1 = NET_FUNC_TRANSFER ∨ opcode.1 = NET_FUNC_GRANT_REQ then 0 else rtpSeq

theorem rtpHeaderFor_seq (opcode : UInt8 × UInt8) (timestamp : UInt32) (rtpSeq : UInt16) (ssrc : UInt32) :
    (rtpHeaderFor opcode timestamp rtpSeq ssrc).seq = sentSeq opcode rtpSeq ∧
      (rtpHeaderFor opcode timestamp rtpSeq ssrc).ssrc = ssrc := by
  unfold rtpHeaderFor sentSeq
  dsimp only
  split
  · exact ⟨rfl, rfl⟩
  · exact ⟨rfl, rfl⟩

/-- A frame that fits the receive buffer reads back. -/
theorem reproduces_frame {message : List UInt8}
    (hlen : message.length ≤ DATA_PACKET_LENGTH - HEADERS_LENGTH_BYTES)
    (streamId peerId ssrc timestamp : UInt32) (opcode : UInt8 × UInt8) (rtpSeq : UInt16) (diffNow : UInt64)
    (stack : Bytes) :
    Reproduces (readDatagram
      (frame message streamId peerId opcode (rtpHeaderFor opcode timestamp rtpSeq ssrc) diffNow) stack)
      message streamId peerId ssrc opcode (sentSeq opcode rtpSeq) := by
  obtain ⟨hv, hcc, hext, hpt⟩ := rtpHeaderFor_valid opcode timestamp rtpSeq ssrc
  obtain ⟨hseq, hssrc⟩ := rtpHeaderFor_seq opcode timestamp rtpSeq ssrc
  have hsmall : (rtpHeaderFor opcode timestamp rtpSeq ssrc).payloadType < 128 := by
    rcases hpt with h | h
    · rw [h]
      decide
    · rw [h]
      decide
  have hcap : DATA_PACKET_LENGTH = 8192 := rfl
  have h32 : HEADERS_LENGTH_BYTES = 32 := rfl
  have hrec : (frame message streamId peerId opcode
      (rtpHeaderFor opcode timestamp rtpSeq ssrc) diffNow).received =
      HEADERS_LENGTH_BYTES + message.length := Nat.min_eq_left (by unfold frame; dsimp only; omega)
  rw [readDatagram_of_accepted (headersAccepted_frame hv hcc hext hpt) (declaredLength_frame (by omega))
    (by omega)
    hrec, payload_frame, crc16_frame, if_neg (not_not_intro rfl), fields_fne_frame,
    fields_rtp_frame hv hcc hsmall]
  exact ⟨rfl, rfl, ⟨_, rfl, hseq, hssrc⟩, ⟨_, rfl, rfl, rfl, rfl, rfl⟩⟩

/-! ## Bursts -/

/-- `d'` is `d` with its message altered by a burst: the headers are intact, some bit is altered, and all
    altered bits lie within a stretch of sixteen. -/
structure Burst (d d' : UDPDatagram) : Prop where
  length_eq : d'.length = d.length
  headers_intact : ∀ i < HEADERS_LENGTH_BYTES, d'.buffer i = d.buffer i
  altered : ∃ j < 8 * d.length, readBit d'.buffer j ≠ readBit d.buffer j
  within : ∃ start, ∀ j < 8 * d.length, j < start ∨ start + 16 ≤ j → readBit d'.buffer j = readBit d.buffer j

/-- A bit of the message is a bit of the datagram. -/
theorem readBit_payload (d : UDPDatagram) {n j : Nat} (h : j < 8 * n) :
    readBit (octets (payload d n)) j = readBit d.buffer (8 * HEADERS_LENGTH_BYTES + j) := by
  have h32 : HEADERS_LENGTH_BYTES = 32 := rfl
  have hbyte : (8 * HEADERS_LENGTH_BYTES + j) / 8 = HEADERS_LENGTH_BYTES + j / 8 := by omega
  have hbit : (8 * HEADERS_LENGTH_BYTES + j) % 8 = j % 8 := by omega
  rw [readBit_eq, readBit_eq, octets_payload d (by omega), hbyte, hbit]

/-- A burst changes the CRC of the message. -/
theorem messageCRC_burst {d d' : UDPDatagram} {n : Nat} (h : Burst d d')
    (hd : d.length = HEADERS_LENGTH_BYTES + n)
    (hn : n * 8 < 2 ^ 32) : messageCRC (payload d' n) n ≠ messageCRC (payload d n) n := by
  obtain ⟨j, hj, hdiff⟩ := h.altered
  obtain ⟨start, hout⟩ := h.within
  have h32 : HEADERS_LENGTH_BYTES = 32 := rfl
  -- the altered bit lies behind the headers
  have hbehind : 8 * HEADERS_LENGTH_BYTES ≤ j := by
    by_contra hlt
    apply hdiff
    rw [readBit_eq, readBit_eq, h.headers_intact _ (by omega)]
  unfold messageCRC
  rw [Nat.mod_eq_of_lt hn]
  apply CRC.createCRC16_ne_of_burst (start - 8 * HEADERS_LENGTH_BYTES)
    (i := j - 8 * HEADERS_LENGTH_BYTES) (by omega)
  · rw [readBit_payload d' (by omega), readBit_payload d (by omega), Nat.add_sub_cancel' hbehind]
    exact hdiff
  · intro k hk hfar
    rw [readBit_payload d' (by omega), readBit_payload d (by omega)]
    exact hout _ (by omega) (by omega)

/-- An altered frame is rejected. -/
theorem burst_rejected {message : List UInt8}
    (hlen : message.length ≤ DATA_PACKET_LENGTH - HEADERS_LENGTH_BYTES)
    (streamId peerId ssrc timestamp : UInt32) (opcode : UInt8 × UInt8) (rtpSeq : UInt16) (diffNow : UInt64)
    {d' : UDPDatagram} (stack : Bytes)
    (h : Burst (frame message streamId peerId opcode (rtpHeaderFor opcode timestamp rtpSeq ssrc) diffNow) d') :
    (readDatagram d' stack).message = none := by
  obtain ⟨hv, hcc, hext, hpt⟩ := rtpHeaderFor_valid opcode timestamp rtpSeq ssrc
  have hcap : DATA_PACKET_LENGTH = 8192 := rfl
  have h12 : RTP_HEADER_LENGTH_BYTES = 12 := rfl
  have h32 : HEADERS_LENGTH_BYTES = 32 := rfl
  have hlength : d'.length = HEADERS_LENGTH_BYTES + message.length := h.length_eq
  have hrec : d'.received = HEADERS_LENGTH_BYTES + message.length := by
    unfold UDPDatagram.received
    omega
  -- the headers are those of the frame
  have hacc : HeadersAccepted d'.buffer :=
    (headersAccepted_congr fun i hi => h.headers_intact i (by omega)).mpr
    (headersAccepted_frame hv hcc hext hpt)
  have hdecl : declaredLength d'.buffer = message.length :=
    (declaredLength_congr fun i hi => h.headers_intact i (by omega)).trans (declaredLength_frame (by omega))
  have hfne := RTPFNEHeader.fields_congr RTP_HEADER_LENGTH_BYTES
    fun i _ hi => h.headers_intact i (by omega)
  have hcrc := messageCRC_burst h (n := message.length) rfl (by omega)
  rw [payload_frame] at hcrc
  rw [readDatagram_of_accepted hacc hdecl (by omega) hrec, hfne, crc16_frame, if_pos hcrc]

/-! ## Main results -/

/-- **A queued frame reads back and a burst is caught.** For every message that fits, the datagram that
    `enqueueMessage` queues is read back with its message, opcode, stream, peer and the sequence number sent;
    after a burst of at most sixteen bits in its message it is rejected. -/
theorem enqueueMessage_read (q : FrameQueue) (message : List UInt8) (streamId peerId ssrc : UInt32)
    (opcode : UInt8 × UInt8) (rtpSeq : UInt16) (diffNow : UInt64) (_ : 1 ≤ message.length)
    (hlen : message.length ≤ DATA_PACKET_LENGTH - HEADERS_LENGTH_BYTES) :
    ∃ d, (q.enqueueMessage message streamId peerId ssrc opcode rtpSeq diffNow).m_buffers = q.m_buffers ++ [d] ∧
      (∀ stack, Reproduces (readDatagram d stack) message streamId peerId ssrc opcode (sentSeq opcode rtpSeq)) ∧
      ∀ d' stack, Burst d d' → (readDatagram d' stack).message = none := by
  refine ⟨_, enqueueMessage_buffers q message streamId peerId ssrc opcode rtpSeq diffNow, ?_, ?_⟩
  · intro stack
    exact reproduces_frame hlen streamId peerId ssrc _ opcode rtpSeq diffNow stack
  · intro d' stack h
    exact burst_rejected hlen streamId peerId ssrc _ opcode rtpSeq diffNow stack h

/-- A queue with nothing in it. -/
def emptyQueue : FrameQueue := { m_buffers := [], m_streamTimestamps := ∅ }

/-- A voice frame of three octets, sent and read back. -/
theorem enqueueMessage_read_voice :
    ∃ d, (emptyQueue.enqueueMessage [0x01, 0x02, 0x03] 7 9 9 (0x00, 0x01) 5 0).m_buffers =
        emptyQueue.m_buffers ++ [d] ∧
      (∀ stack, Reproduces (readDatagram d stack) [0x01, 0x02, 0x03] 7 9 9 (0x00, 0x01)
        (sentSeq (0x00, 0x01) 5)) ∧
      ∀ d' stack, Burst d d' → (readDatagram d' stack).message = none :=
  enqueueMessage_read emptyQueue [0x01, 0x02, 0x03] 7 9 9 (0x00, 0x01) 5 0 (by decide) (by decide)

/-- The sequence number of a transfer is not reproduced. -/
theorem transfer_sequence_lost :
    ¬ ∀ (q : FrameQueue) (message : List UInt8) (streamId peerId ssrc : UInt32) (opcode : UInt8 × UInt8)
      (rtpSeq : UInt16) (diffNow : UInt64), 1 ≤ message.length →
      message.length ≤ DATA_PACKET_LENGTH - HEADERS_LENGTH_BYTES →
      ∃ d, (q.enqueueMessage message streamId peerId ssrc opcode rtpSeq diffNow).m_buffers =
      q.m_buffers ++ [d] ∧
        ∀ stack, Reproduces (readDatagram d stack) message streamId peerId ssrc opcode rtpSeq := by
  intro h
  obtain ⟨d, hd, hrep⟩ := h emptyQueue [0x01] 7 9 9 (NET_FUNC_TRANSFER, 0x00) 5 0 (by decide) (by decide)
  rw [enqueueMessage_buffers] at hd
  have hframe := List.singleton_inj.mp (List.append_cancel_left hd)
  have hfits : [(0x01 : UInt8)].length ≤ DATA_PACKET_LENGTH - HEADERS_LENGTH_BYTES := by decide
  have hsent := reproduces_frame hfits 7 9 9 (emptyQueue.nextTimestamp 7).1 (NET_FUNC_TRANSFER, 0x00) 5 0
    fun _ => 0x00
  rw [hframe] at hsent
  obtain ⟨r, hr, hseq, -⟩ := (hrep fun _ => 0x00).rtpHeader_eq
  obtain ⟨r', hr', hseq', -⟩ := hsent.rtpHeader_eq
  have heq : r = r' := Option.some.inj (hr.symm.trans hr')
  rw [← heq, hseq] at hseq'
  exact absurd hseq' (by decide)

end FrameQueue

end DvmHost

import DvmHost.Common.Network.NetworkWriter
import DvmHost.Fne.Network.FNENetwork
import DvmHost.Lib.Run

/-!
# `Fne.Network.Correctness.StreamSequence` — the RTP sequence numbers of a stream

A peer writes messages of DMR, P25 and NXDN in any order (`NetworkWriter`); the FNE reads them, less those that the
network loses, and warns of a message that is out of sequence. Within one call of a stream, up to its end-of-call
message, the numbers should be 0, 1, 2, … and the warning should come only where a message of the stream was lost.

All streams draw from the one counter `m_pktSeq`, and every stream that begins sets it back. So the numbers of a
stream are right exactly as long as the counter happens to stand where a counter of its own would
(`sequenced_iff_undisturbed`), which a second stream, or a second call, ends.
-/

namespace DvmHost

open Lib

/-- How many numbers `pktSeq` gives. -/
def sequenceLength : Nat := 65534

/-! ## The counter -/

namespace PacketSequence

theorem number_lt (n : PacketSequence) (reset : Bool) : (n.pktSeq reset).1 < RTP_END_OF_CALL_SEQ - 1 := by
  cases reset with
  | false => exact n.bounded
  | true => exact show (0 : UInt16) < RTP_END_OF_CALL_SEQ - 1 by decide

/-- A number is not the reserved one. -/
theorem number_ne_end (n : PacketSequence) (reset : Bool) : (n.pktSeq reset).1 ≠ RTP_END_OF_CALL_SEQ := fun h =>
  absurd (h ▸ n.number_lt reset) (by decide)

theorem next_lt (n : PacketSequence) : n.next.toNat < sequenceLength := UInt16.lt_iff_toNat_lt.mp n.bounded

/-- The counter is advanced by one, in rounds of `sequenceLength`. -/
theorem advance_next {seq : UInt16} (h : seq < RTP_END_OF_CALL_SEQ - 1) :
    (advance seq).next.toNat = (seq.toNat + 1) % sequenceLength := by
  have hlt : seq.toNat < 65534 := UInt16.lt_iff_toNat_lt.mp h
  have hadd : (seq + 1).toNat = seq.toNat + 1 := by
    rw [UInt16.toNat_add]
    exact Nat.mod_eq_of_lt (by show seq.toNat + 1 < 65536; omega)
  unfold advance sequenceLength
  split
  · next hfull =>
      have hge : 65534 ≤ (seq + 1).toNat := UInt16.le_iff_toNat_le.mp hfull
      show 0 = _
      omega
  · next hmore =>
      have hless : (seq + 1).toNat < 65534 := UInt16.lt_iff_toNat_lt.mp (UInt16.not_le.mp hmore)
      show (seq + 1).toNat = _
      omega

/-- A counter that has given `drawn` numbers gives the next. -/
theorem pktSeq_number {n : PacketSequence} {drawn : Nat} (h : n.next.toNat = drawn % sequenceLength) (reset : Bool) :
    (n.pktSeq reset).1.toNat = (if reset then 0 else drawn) % sequenceLength := by
  cases reset with
  | false => exact h
  | true => rfl

theorem pktSeq_next {n : PacketSequence} {drawn : Nat} (h : n.next.toNat = drawn % sequenceLength) (reset : Bool) :
    (n.pktSeq reset).2.next.toNat = ((if reset then 0 else drawn) + 1) % sequenceLength := by
  have hnumber := pktSeq_number h reset
  show (advance (n.pktSeq reset).1).next.toNat = _
  rw [advance_next (n.number_lt reset), hnumber, Nat.mod_add_mod]

end PacketSequence

/-! ## The writing functions -/

namespace NetworkWriter

open Dmr Nxdn

/-- A call of one of the functions, with the arguments that it decides by. -/
inductive Call where
  | dmr (slotIndex : Fin 2) (dataType : UInt8) (noSequence : Bool)
  | p25LDU1
  | p25LDU2
  | p25TDU (controlByte : UInt8)
  | p25TSDU
  | p25PDU (lastBlock : Bool)
  | nxdn (messageType : UInt8) (noSequence : Bool)
  | resetDMR (slotIndex : Fin 2)
  | resetP25
  | resetNXDN

/-- The call, with the stream id that `createStreamId` gives. -/
def call (w : NetworkWriter) (newId : StreamId) : Call → Option WrittenMessage × NetworkWriter
  | .dmr slotIndex dataType noSequence => w.writeDMR newId slotIndex dataType noSequence
  | .p25LDU1 => w.writeP25LDU1 newId
  | .p25LDU2 => w.writeP25LDU2 newId
  | .p25TDU controlByte => w.writeP25TDU newId controlByte
  | .p25TSDU => w.writeP25TSDU newId
  | .p25PDU lastBlock => w.writeP25PDU newId lastBlock
  | .nxdn messageType noSequence => w.writeNXDN newId messageType noSequence
  | .resetDMR slotIndex => (none, w.resetDMR newId slotIndex)
  | .resetP25 => (none, w.resetP25 newId)
  | .resetNXDN => (none, w.resetNXDN newId)

/-- The call writes a message. -/
def writes (w : NetworkWriter) : Call → Bool
  | .dmr slotIndex _ _ => w.isRunning && w.slotEnabled slotIndex
  | .resetDMR _ | .resetP25 | .resetNXDN => false
  | _ => w.isRunning

/-- The stream of the message. -/
def streamOf (w : NetworkWriter) (newId : StreamId) : Call → StreamId
  | .dmr slotIndex dataType _ => if beginsStream dataType then newId else w.m_dmrStreamId slotIndex
  | .nxdn _ _ => w.m_nxdnStreamId
  | _ => w.m_p25StreamId

namespace Call

/-- The call is a reset. -/
def isReset : Call → Bool
  | .resetDMR _ | .resetP25 | .resetNXDN => true
  | _ => false

/-- The message begins its stream. -/
def begins : Call → Bool
  | .dmr _ dataType _ => beginsStream dataType
  | _ => false

/-- The message is an end-of-call message. -/
def ends : Call → Bool
  | .dmr _ dataType noSequence => dataType = DT_TERMINATOR_WITH_LC || noSequence
  | .p25TDU controlByte => controlByte = 0x00
  | .p25TSDU => true
  | .p25PDU lastBlock => lastBlock
  | .nxdn messageType noSequence =>
      (messageType = RTCH_MESSAGE_TYPE_TX_REL || messageType = RTCH_MESSAGE_TYPE_TX_REL_EX) || noSequence
  | _ => false

/-- A number is drawn for the message. -/
def draws : Call → Bool
  | .p25TSDU => false
  | _ => true

end Call

/-! ## What a call does -/

/-- P25 always has a stream id. -/
theorem p25Stream_eq (w : NetworkWriter) (newId : StreamId) : w.p25Stream newId = (false, w.m_p25StreamId) :=
  if_neg w.m_p25StreamId.ne_zero

theorem writeP25_cases (w : NetworkWriter) (newId : StreamId) (last : Bool) :
    (w.isRunning = false ∧ w.writeP25 newId last = (none, w)) ∨
    (w.isRunning = true ∧ w.writeP25 newId last =
      (some
        { opcode := (NET_FUNC_PROTOCOL, NET_PROTOCOL_SUBFUNC_P25),
          pktSeq := if last then RTP_END_OF_CALL_SEQ else (w.m_pktSeq.pktSeq false).1,
          streamId := w.m_p25StreamId },
        { w with m_pktSeq := (w.m_pktSeq.pktSeq false).2 })) := by
  unfold writeP25
  rw [p25Stream_eq]
  cases w.isRunning with
  | false => exact .inl ⟨rfl, rfl⟩
  | true => exact .inr ⟨rfl, rfl⟩

theorem writeDMR_off (w : NetworkWriter) (newId : StreamId) {slotIndex : Fin 2} (dataType : UInt8) (noSequence : Bool)
    (hoff : (w.isRunning && w.slotEnabled slotIndex) = false) :
    w.writeDMR newId slotIndex dataType noSequence = (none, w) := by
  unfold writeDMR
  rcases Bool.and_eq_false_iff.mp hoff with h | h
  · rw [h]
    rfl
  · rw [h]
    exact ite_self _

theorem writeDMR_on (w : NetworkWriter) (newId : StreamId) {slotIndex : Fin 2} (dataType : UInt8) (noSequence : Bool)
    (hon : (w.isRunning && w.slotEnabled slotIndex) = true) :
    w.writeDMR newId slotIndex dataType noSequence =
      (some
        { opcode := (NET_FUNC_PROTOCOL, NET_PROTOCOL_SUBFUNC_DMR),
          pktSeq := if (Call.dmr slotIndex dataType noSequence).ends then RTP_END_OF_CALL_SEQ
            else (w.m_pktSeq.pktSeq (beginsStream dataType)).1,
          streamId := if beginsStream dataType then newId else w.m_dmrStreamId slotIndex },
        { w with
          m_dmrStreamId := if beginsStream dataType then Function.update w.m_dmrStreamId slotIndex newId
            else w.m_dmrStreamId
          m_pktSeq := (w.m_pktSeq.pktSeq (beginsStream dataType)).2 }) := by
  obtain ⟨hrunning, hslot⟩ := (Bool.and_eq_true _ _).mp hon
  have hstream : (if beginsStream dataType then Function.update w.m_dmrStreamId slotIndex newId else w.m_dmrStreamId)
      slotIndex = if beginsStream dataType then newId else w.m_dmrStreamId slotIndex := by
    cases beginsStream dataType with
    | false => rfl
    | true => exact Function.update_self slotIndex newId w.m_dmrStreamId
  have hseq : ∀ seq : UInt16, (if noSequence then RTP_END_OF_CALL_SEQ
      else if dataType = DT_TERMINATOR_WITH_LC then RTP_END_OF_CALL_SEQ else seq) =
      if (Call.dmr slotIndex dataType noSequence).ends then RTP_END_OF_CALL_SEQ else seq := fun seq => by
    unfold Call.ends
    cases noSequence <;> simp
  unfold writeDMR
  rw [hrunning, hslot]
  refine (if_neg Bool.false_ne_true).trans ((if_neg Bool.false_ne_true).trans ?_)
  dsimp only
  rw [hstream, hseq]

/-- A call writes no message, and sets the counter back if it is a reset; or its message is of the stream and has the
    number that the counter gives, and the counter is advanced. -/
theorem call_cases (w : NetworkWriter) (newId : StreamId) (c : Call) :
    (w.writes c = false ∧ (w.call newId c).1 = none ∧
      (w.call newId c).2.m_pktSeq = if c.isReset then .zero else w.m_pktSeq) ∨
    (w.writes c = true ∧ c.isReset = false ∧ ∃ m, (w.call newId c).1 = some m ∧
      m.streamId = w.streamOf newId c ∧
      m.pktSeq = (if c.ends then RTP_END_OF_CALL_SEQ else (w.m_pktSeq.pktSeq c.begins).1) ∧
      (w.call newId c).2.m_pktSeq = if c.draws then (w.m_pktSeq.pktSeq c.begins).2 else w.m_pktSeq) := by
  cases c with
  | dmr slotIndex dataType noSequence =>
      cases hwrites : w.isRunning && w.slotEnabled slotIndex with
      | false =>
          have heq := w.writeDMR_off newId dataType noSequence hwrites
          exact .inl ⟨hwrites, congrArg Prod.fst heq, congrArg (fun r => r.2.m_pktSeq) heq⟩
      | true =>
          have heq := w.writeDMR_on newId dataType noSequence hwrites
          exact .inr ⟨hwrites, rfl, _, congrArg Prod.fst heq, rfl, rfl, congrArg (fun r => r.2.m_pktSeq) heq⟩
  | p25LDU1 =>
      rcases w.writeP25_cases newId false with ⟨hrunning, heq⟩ | ⟨hrunning, heq⟩
      · exact .inl ⟨hrunning, congrArg Prod.fst heq, congrArg (fun r => r.2.m_pktSeq) heq⟩
      · exact .inr ⟨hrunning, rfl, _, congrArg Prod.fst heq, rfl, rfl, congrArg (fun r => r.2.m_pktSeq) heq⟩
  | p25LDU2 =>
      rcases w.writeP25_cases newId false with ⟨hrunning, heq⟩ | ⟨hrunning, heq⟩
      · exact .inl ⟨hrunning, congrArg Prod.fst heq, congrArg (fun r => r.2.m_pktSeq) heq⟩
      · exact .inr ⟨hrunning, rfl, _, congrArg Prod.fst heq, rfl, rfl, congrArg (fun r => r.2.m_pktSeq) heq⟩
  | p25TDU controlByte =>
      rcases w.writeP25_cases newId (controlByte = 0x00) with ⟨hrunning, heq⟩ | ⟨hrunning, heq⟩
      · exact .inl ⟨hrunning, congrArg Prod.fst heq, congrArg (fun r => r.2.m_pktSeq) heq⟩
      · exact .inr ⟨hrunning, rfl, _, congrArg Prod.fst heq, rfl, rfl, congrArg (fun r => r.2.m_pktSeq) heq⟩
  | p25TSDU =>
      unfold call writeP25TSDU
      rw [p25Stream_eq]
      cases hrunning : w.isRunning with
      | false => exact .inl ⟨hrunning, rfl, rfl⟩
      | true => exact .inr ⟨hrunning, rfl, _, rfl, rfl, rfl, rfl⟩
  | p25PDU lastBlock =>
      rcases w.writeP25_cases newId lastBlock with ⟨hrunning, heq⟩ | ⟨hrunning, heq⟩
      · exact .inl ⟨hrunning, congrArg Prod.fst heq, congrArg (fun r => r.2.m_pktSeq) heq⟩
      · exact .inr ⟨hrunning, rfl, _, congrArg Prod.fst heq, rfl, rfl, congrArg (fun r => r.2.m_pktSeq) heq⟩
  | nxdn messageType noSequence =>
      have hid : decide (w.m_nxdnStreamId.val = 0) = false := decide_eq_false w.m_nxdnStreamId.ne_zero
      unfold call writeNXDN
      simp only [hid]
      cases hrunning : w.isRunning with
      | false => exact .inl ⟨hrunning, rfl, rfl⟩
      | true =>
          refine .inr ⟨hrunning, rfl, _, rfl, rfl, ?_, rfl⟩
          unfold Call.ends
          cases noSequence <;> simp [Call.begins]
  | resetDMR slotIndex => exact .inl ⟨rfl, rfl, rfl⟩
  | resetP25 => exact .inl ⟨rfl, rfl, rfl⟩
  | resetNXDN => exact .inl ⟨rfl, rfl, rfl⟩

end NetworkWriter

/-! ## The streams -/

/-- A call, the stream id for it, and whether the message that it writes comes to the FNE. -/
structure Transmission where
  call : NetworkWriter.Call
  newId : StreamId
  delivered : Bool

variable {Object : Type}

/-- The writer, the connection of the FNE, and a history: how many numbers were drawn since the counter was last set
    back, how many messages were written in the call of a stream, whether one was lost behind the last that came, and
    whether the last message that came at all was an end-of-call message. -/
structure Traffic (Object : Type) where
  writer : NetworkWriter
  connection : FNEPeerConnection Object
  drawn : Nat
  written : UInt32 → Nat
  lost : UInt32 → Bool
  ended : Bool

namespace Traffic

/-- The traffic behind a login: the last message of it, the configuration, was an end-of-call message. -/
def loggedIn (w : NetworkWriter) (c : FNEPeerConnection Object) (loginStreamId : UInt32) : Traffic Object where
  writer := w
  connection := c.track loginStreamId RTP_END_OF_CALL_SEQ
  drawn := w.m_pktSeq.next.toNat
  written := fun _ => 0
  lost := fun _ => false
  ended := true

/-- How many numbers are drawn behind the call. -/
def drawnAfter (t : Traffic Object) (call : NetworkWriter.Call) : Nat :=
  if call.isReset then 0
  else if t.writer.writes call && call.draws then (if call.begins then 0 else t.drawn) + 1
  else t.drawn

/-- The connection of the FNE behind a message. -/
def connectionAfter (t : Traffic Object) (m : WrittenMessage) (delivered : Bool) : FNEPeerConnection Object :=
  if delivered then t.connection.track m.streamId.val m.pktSeq else t.connection

/-- One call, and the message that it may write. -/
def next (t : Traffic Object) (x : Transmission) : Traffic Object :=
  match t.writer.call x.newId x.call with
  | (none, writer) => { t with writer, drawn := t.drawnAfter x.call }
  | (some m, writer) =>
      { writer
        connection := t.connectionAfter m x.delivered
        drawn := t.drawnAfter x.call
        written := Function.update t.written m.streamId.val
          (if m.pktSeq = RTP_END_OF_CALL_SEQ then 0 else t.written m.streamId.val + 1)
        lost := Function.update t.lost m.streamId.val !x.delivered
        ended := if x.delivered then m.pktSeq = RTP_END_OF_CALL_SEQ else t.ended }

/-- **In sequence**: a message within the call of its stream has the number that is next in the call, and the FNE
    warns of it only where a message of the stream was lost. -/
def Sequenced (t : Traffic Object) (x : Transmission) : Prop :=
  ∀ m, (t.writer.call x.newId x.call).1 = some m → m.pktSeq ≠ RTP_END_OF_CALL_SEQ →
    m.pktSeq.toNat = t.written m.streamId.val % sequenceLength ∧
    (x.delivered = true → t.connection.outOfSequence m.streamId.val m.pktSeq = true →
      t.lost m.streamId.val = true)

/-- **Undisturbed**: as many numbers were drawn since the counter was last set back as messages were written in the
    call of the stream, up to whole rounds of the counter; and where the FNE checks the message and lost none before
    it, no end-of-call message of another stream came between and no round of the counter is just full. -/
def Undisturbed (t : Traffic Object) (x : Transmission) : Prop :=
  t.writer.writes x.call = true → x.call.ends = false →
    let stream := (t.writer.streamOf x.newId x.call).val
    (if x.call.begins then 0 else t.drawn) % sequenceLength = t.written stream % sequenceLength ∧
    (x.delivered = true → t.connection.currStreamId = stream → t.lost stream = false →
      if t.ended then t.written stream % sequenceLength = 0
      else t.written stream % sequenceLength ≠ 0)

/-! ## The runs -/

/-- What the history says of the counter and of the connection. -/
structure Tracked (t : Traffic Object) : Prop where
  counter : t.writer.m_pktSeq.next.toNat = t.drawn % sequenceLength
  ended : t.ended = true → t.connection.pktNextSeq = 0
  heard : t.ended = false → t.lost t.connection.currStreamId = false → ∃ k,
    t.written t.connection.currStreamId = k + 1 ∧ t.connection.pktNextSeq.toNat = k % sequenceLength + 1

theorem tracked_loggedIn (w : NetworkWriter) (c : FNEPeerConnection Object) (loginStreamId : UInt32) :
    Tracked (loggedIn w c loginStreamId) :=
  ⟨(Nat.mod_eq_of_lt w.m_pktSeq.next_lt).symm, fun _ => rfl, fun hended => absurd hended Bool.noConfusion⟩

/-- The FNE warns of the message exactly where it checks it and expects another number. -/
theorem outOfSequence_iff (c : FNEPeerConnection Object) {streamId : UInt32} {pktSeq : UInt16}
    (hnot : pktSeq ≠ RTP_END_OF_CALL_SEQ) :
    c.outOfSequence streamId pktSeq = true ↔ c.currStreamId = streamId ∧ pktSeq ≠ c.pktNextSeq := by
  simp [FNEPeerConnection.outOfSequence, hnot]

/-- Of a rightly numbered message of its current stream, none of which was lost, the FNE warns where an end-of-call
    message came between, or where the counter has come round. -/
theorem expects_iff {t : Traffic Object} (h : Tracked t) {stream : UInt32} {pktSeq : UInt16}
    (hnumber : pktSeq.toNat = t.written stream % sequenceLength) (hcurrent : t.connection.currStreamId = stream)
    (hkept : t.lost stream = false) :
    pktSeq = t.connection.pktNextSeq ↔
      if t.ended then t.written stream % sequenceLength = 0 else t.written stream % sequenceLength ≠ 0 := by
  cases hended : t.ended with
  | true =>
      rw [if_pos rfl, h.ended hended, ← hnumber]
      exact UInt16.toNat_inj.symm
  | false =>
      obtain ⟨k, hk, hnext⟩ := h.heard hended (hcurrent ▸ hkept)
      rw [hcurrent] at hk
      rw [if_neg Bool.false_ne_true, ← UInt16.toNat_inj, hnext, hnumber, hk]
      unfold sequenceLength
      omega

/-- **The step**: under the history a message is in sequence exactly where it is undisturbed. -/
theorem sequenced_step {t : Traffic Object} (h : Tracked t) (x : Transmission) :
    t.Sequenced x ↔ t.Undisturbed x := by
  rcases t.writer.call_cases x.newId x.call with ⟨hwrites, hnone, -⟩ | ⟨hwrites, -, m, hsome, hstream, hseq, -⟩
  · refine ⟨fun _ hyes => ?_, fun _ m hm => ?_⟩
    · exact absurd (hwrites.symm.trans hyes) Bool.noConfusion
    · rw [hnone] at hm
      exact absurd hm (Option.some_ne_none m).symm
  · cases hends : x.call.ends with
    | true =>
        -- an end-of-call message is neither numbered nor checked
        rw [hends, if_pos rfl] at hseq
        refine ⟨fun _ _ hno => absurd (hends.symm.trans hno) Bool.noConfusion, fun _ m' hm' hnot => ?_⟩
        rw [hsome] at hm'
        exact absurd hseq (Option.some.inj hm' ▸ hnot)
    | false =>
        rw [hends, if_neg Bool.false_ne_true] at hseq
        have hnot : m.pktSeq ≠ RTP_END_OF_CALL_SEQ := hseq ▸ t.writer.m_pktSeq.number_ne_end _
        have hdrawn := PacketSequence.pktSeq_number h.counter x.call.begins
        rw [← hseq] at hdrawn
        constructor
        · intro hsequenced _ _
          obtain ⟨hnumber, hwarned⟩ := hsequenced m hsome hnot
          rw [hstream] at hnumber hwarned
          refine ⟨hdrawn.symm.trans hnumber, fun hdelivered hcurrent hkept => ?_⟩
          refine (expects_iff h hnumber hcurrent hkept).mp (Classical.byContradiction fun hother => ?_)
          have hlost := hwarned hdelivered ((outOfSequence_iff _ hnot).mpr ⟨hcurrent, hother⟩)
          exact absurd (hlost.symm.trans hkept) Bool.noConfusion
        · intro hundisturbed m' hm' hnot'
          rw [hsome] at hm'
          obtain rfl := Option.some.inj hm'
          obtain ⟨hdue, hchecked⟩ := hundisturbed hwrites hends
          have hnumber := hdrawn.trans hdue
          rw [hstream]
          refine ⟨hnumber, fun hdelivered hwarned => ?_⟩
          obtain ⟨hcurrent, hother⟩ := (outOfSequence_iff _ hnot).mp hwarned
          refine Bool.of_not_eq_false fun hkept => hother ?_
          exact (expects_iff h hnumber hcurrent hkept).mpr (hchecked hdelivered hcurrent hkept)

theorem next_none {t : Traffic Object} {x : Transmission} (h : (t.writer.call x.newId x.call).1 = none) :
    t.next x = { t with writer := (t.writer.call x.newId x.call).2, drawn := t.drawnAfter x.call } := by
  unfold next
  generalize t.writer.call x.newId x.call = result at h
  obtain ⟨message, writer⟩ := result
  obtain rfl : message = none := h
  rfl

theorem next_some {t : Traffic Object} {x : Transmission} {m : WrittenMessage}
    (h : (t.writer.call x.newId x.call).1 = some m) :
    t.next x =
      { writer := (t.writer.call x.newId x.call).2
        connection := t.connectionAfter m x.delivered
        drawn := t.drawnAfter x.call
        written := Function.update t.written m.streamId.val
          (if m.pktSeq = RTP_END_OF_CALL_SEQ then 0 else t.written m.streamId.val + 1)
        lost := Function.update t.lost m.streamId.val !x.delivered
        ended := if x.delivered then m.pktSeq = RTP_END_OF_CALL_SEQ else t.ended } := by
  unfold next
  generalize t.writer.call x.newId x.call = result at h
  obtain ⟨message, writer⟩ := result
  obtain rfl : message = some m := h
  rfl

/-- The counter is at the number of drawn ones behind every call. -/
theorem counter_next {t : Traffic Object} (h : Tracked t) (x : Transmission) :
    (t.writer.call x.newId x.call).2.m_pktSeq.next.toNat = t.drawnAfter x.call % sequenceLength := by
  unfold drawnAfter
  rcases t.writer.call_cases x.newId x.call with ⟨hwrites, -, hcounter⟩ | ⟨hwrites, hreset, -, -, -, -, hcounter⟩
  · rw [hcounter, hwrites]
    cases x.call.isReset with
    | false => exact h.counter
    | true => rfl
  · rw [hcounter, hwrites, hreset]
    cases x.call.draws with
    | false => exact h.counter
    | true => exact PacketSequence.pktSeq_next h.counter _

/-- What the FNE knows behind a message that comes to it. -/
theorem tracked_delivered {t : Traffic Object} {x : Transmission} {m : WrittenMessage}
    (hsome : (t.writer.call x.newId x.call).1 = some m) (hdelivered : x.delivered = true)
    (hnumber : m.pktSeq ≠ RTP_END_OF_CALL_SEQ → m.pktSeq.toNat = t.written m.streamId.val % sequenceLength)
    (hcounter : (t.next x).writer.m_pktSeq.next.toNat = (t.next x).drawn % sequenceLength) : Tracked (t.next x) := by
  refine ⟨hcounter, ?_, ?_⟩
  · rw [next_some hsome]
    unfold connectionAfter
    rw [hdelivered]
    intro hended
    exact congrArg FNEPeerConnection.pktNextSeq (if_pos (of_decide_eq_true hended))
  · rw [next_some hsome]
    unfold connectionAfter
    rw [hdelivered]
    intro hended _
    have hnot : m.pktSeq ≠ RTP_END_OF_CALL_SEQ := of_decide_eq_false hended
    have htrack : t.connection.track m.streamId.val m.pktSeq =
        { t.connection with
          currStreamId := m.streamId.val
          pktLastSeq := m.pktSeq
          pktNextSeq := m.pktSeq + 1 } := if_neg hnot
    refine ⟨t.written m.streamId.val, ?_, ?_⟩
    · simp only [if_true, htrack, if_neg hnot, Function.update_self]
    · simp only [if_true, htrack]
      rw [← hnumber hnot, UInt16.toNat_add]
      have hlt : m.pktSeq.toNat < 65534 := hnumber hnot ▸ Nat.mod_lt _ (by decide)
      exact Nat.mod_eq_of_lt (show m.pktSeq.toNat + 1 < 65536 by omega)

/-- **The step**: an undisturbed message leaves the history true. -/
theorem tracked_next {t : Traffic Object} (h : Tracked t) {x : Transmission} (hx : t.Undisturbed x) :
    Tracked (t.next x) := by
  have hcounter := counter_next h x
  rcases t.writer.call_cases x.newId x.call with ⟨-, hnone, -⟩ | ⟨-, -, m, hsome, -⟩
  · rw [next_none hnone]
    exact ⟨hcounter, h.ended, h.heard⟩
  · have hcounter' : (t.next x).writer.m_pktSeq.next.toNat = (t.next x).drawn % sequenceLength := by
      rw [next_some hsome]
      exact hcounter
    cases hdelivered : x.delivered with
    | true =>
        refine tracked_delivered hsome hdelivered (fun hnot => ?_) hcounter'
        exact ((sequenced_step h x).mpr hx m hsome hnot).1
    | false =>
        -- the FNE has not seen the message, and its stream has one lost
        refine ⟨hcounter', ?_, ?_⟩
        · rw [next_some hsome]
          unfold connectionAfter
          rw [hdelivered]
          exact h.ended
        · rw [next_some hsome]
          unfold connectionAfter
          rw [hdelivered]
          intro hended hkept
          have hother : t.connection.currStreamId ≠ m.streamId.val := fun heq => by
            have hlost : Function.update t.lost m.streamId.val true t.connection.currStreamId = true := by
              rw [heq, Function.update_self]
            exact absurd (hlost.symm.trans hkept) Bool.noConfusion
          have hkept' : t.lost t.connection.currStreamId = false := by
            rw [← hkept]
            exact (Function.update_of_ne hother _ _).symm
          obtain ⟨k, hk, hnext⟩ := h.heard hended hkept'
          exact ⟨k, (Function.update_of_ne hother _ _).trans hk, hnext⟩

/-- **The sequence of a stream**: in the traffic behind a login the messages of every call are numbered 0, 1, 2, … and
    the FNE warns of lost messages only, exactly where every message is undisturbed. -/
theorem sequenced_iff_undisturbed (w : NetworkWriter) (c : FNEPeerConnection Object) (loginStreamId : UInt32)
    (xs : List Transmission) :
    Guarded Sequenced (loggedIn w c loginStreamId) (trace next (loggedIn w c loginStreamId) xs) ↔
      Guarded Undisturbed (loggedIn w c loginStreamId) (trace next (loggedIn w c loginStreamId) xs) := by
  have hrun : Run (fun (t : Traffic Object) x t' => t.next x = t') (loggedIn w c loginStreamId)
      (trace next (loggedIn w c loginStreamId) xs) := run_trace (fun _ _ => rfl) xs _
  have hiff := Run.states_and_guarded_iff (P := fun _ => True) (I := Tracked) (G := Undisturbed) (H := Sequenced)
    (fun {t x t'} h _ hx hstep => ⟨⟨(show t.next x = t' from hstep) ▸ tracked_next h hx, trivial⟩, (sequenced_step h x).mpr hx⟩)
    (fun {t x t'} h _ _ _ hsequenced => (sequenced_step h x).mp hsequenced)
    hrun (tracked_loggedIn w c loginStreamId) trivial
  rw [← hiff]
  exact ⟨fun h => ⟨⟨trivial, fun _ _ => trivial⟩, h⟩, fun h => h.2⟩

/-- A peer with both slots, before its first message. -/
def freshWriter : NetworkWriter where
  m_status := .running
  m_slot1 := true
  m_slot2 := true
  m_dmrStreamId := fun _ => ⟨1, by decide, by decide⟩
  m_p25StreamId := ⟨2, by decide, by decide⟩
  m_nxdnStreamId := ⟨3, by decide, by decide⟩
  m_pktSeq := .zero

/-- By name, so that the numerals of `Fin 2` carry no proof of their own. -/
local instance neZero_two : NeZero 2 := ⟨by decide⟩

/-- A call on the first slot: its header, a voice burst, a control block of the second slot, and the next burst. -/
def interleavedCalls : List Transmission :=
  [⟨.dmr 0 Dmr.DT_VOICE_LC_HEADER false, ⟨10, by decide, by decide⟩, true⟩,
    ⟨.dmr 0 0xF0 false, ⟨11, by decide, by decide⟩, true⟩,
    ⟨.dmr 1 Dmr.DT_CSBK false, ⟨20, by decide, by decide⟩, true⟩,
    ⟨.dmr 0 0xF1 false, ⟨21, by decide, by decide⟩, true⟩]

/-- **A call that a second slot disturbs**: the burst behind the control block has number 1 again, where 2 is next. -/
theorem interleavedCalls_not_sequenced :
    let c : FNEPeerConnection Unit := { id := 1, socketStorage := ⟨"", 62031⟩ }
    ¬ Guarded Sequenced (loggedIn freshWriter c 4) (trace next (loggedIn freshWriter c 4) interleavedCalls) := by
  intro c h
  obtain ⟨-, -, -, hburst, -⟩ := h
  have hnumber := (hburst _ rfl (by decide)).1
  exact absurd hnumber (by decide)

end Traffic

end DvmHost

import DvmHost.Common.Network.Correctness.FrameRoundTrip
import DvmHost.Lib.Run
import Mathlib.Data.List.Induction

/-!
# `Common.Network.Correctness.StreamTiming` — the RTP timestamps of a stream

`enqueueMessage` keeps one timestamp a stream in `m_streamTimestamps`: the first message of a call takes the
media clock and enters the table, every further one takes the entry and a fixed step, the end of the call
erases the entry. What one message does to the table is `lookup_enqueue`; the timestamps of a call
(`lookup_call`) are an induction on it.

The table has no other mark of a missing entry than `INVALID_TS`, which is a timestamp like any other. A stream
that is due `INVALID_TS` is taken for a new one: its message gets the media clock instead.
-/

namespace DvmHost

open Lib

namespace FrameQueue

/-- The arguments of a call of `enqueueMessage`, and the age of the media clock at the call. -/
structure Message where
  message : List UInt8
  streamId : UInt32
  peerId : UInt32
  ssrc : UInt32
  opcode : UInt8 × UInt8
  rtpSeq : UInt16
  diffNow : UInt64

/-- The message is the last one of its call. -/
abbrev Message.EndsCall (m : Message) : Prop := m.rtpSeq = RTP_END_OF_CALL_SEQ

/-- `enqueueMessage` of a message. -/
def enqueue (q : FrameQueue) (m : Message) : FrameQueue :=
  q.enqueueMessage m.message m.streamId m.peerId m.ssrc m.opcode m.rtpSeq m.diffNow

/-- The queue after a sequence of messages. -/
def queueAfter (msgs : List Message) : FrameQueue := msgs.foldl enqueue emptyQueue

/-- The datagram that is queued for a message. -/
def datagram (q : FrameQueue) (m : Message) : UDPDatagram :=
  frame m.message m.streamId m.peerId m.opcode
    (rtpHeaderFor m.opcode (q.nextTimestamp m.streamId).1 m.rtpSeq m.ssrc) m.diffNow

/-- The timestamp issued for a message: the one in the RTP header of its datagram. -/
def issued (q : FrameQueue) (m : Message) : UInt32 := (RTPHeader.fields (q.datagram m).buffer 0).timestamp

/-- What the media clock reads `diffNow` microseconds after its start. -/
def mediaClock (diffNow : UInt64) : UInt32 := (diffNow * RTP_GENERIC_CLOCK_RATE.toUInt64 / 1000000).toUInt32

/-- The step between two frames of a call. -/
def frameStep : UInt32 := (RTP_GENERIC_CLOCK_RATE / 133).toUInt32

theorem queueAfter_append (msgs : List Message) (m : Message) :
    queueAfter (msgs ++ [m]) = (queueAfter msgs).enqueue m := by
  unfold queueAfter
  rw [List.foldl_append, List.foldl_cons, List.foldl_nil]

/-! ## One message -/

theorem rtpHeaderFor_timestamp (opcode : UInt8 × UInt8) (timestamp : UInt32) (rtpSeq : UInt16) (ssrc : UInt32) :
    (rtpHeaderFor opcode timestamp rtpSeq ssrc).timestamp = timestamp := by
  unfold rtpHeaderFor
  dsimp only
  split
  · rfl
  · rfl

/-- The header that is encoded has the timestamp of the datagram. -/
theorem issued_eq_encode (q : FrameQueue) (m : Message) :
    q.issued m = ((rtpHeaderFor m.opcode (q.nextTimestamp m.streamId).1 m.rtpSeq m.ssrc).encode m.diffNow
      fun _ => 0x00).1.timestamp := by
  obtain ⟨hv, hcc, -, hpt⟩ := rtpHeaderFor_valid m.opcode (q.nextTimestamp m.streamId).1 m.rtpSeq m.ssrc
  have hsmall : (rtpHeaderFor m.opcode (q.nextTimestamp m.streamId).1 m.rtpSeq m.ssrc).payloadType < 128 := by
    rcases hpt with h | h
    · rw [h]
      decide
    · rw [h]
      decide
  exact congrArg RTPHeader.timestamp (fields_rtp_frame hv hcc hsmall)

/-- The timestamp is the one looked up, or the media clock where that is no timestamp. -/
theorem issued_eq (q : FrameQueue) (m : Message) :
    q.issued m = if (q.nextTimestamp m.streamId).1 = INVALID_TS then mediaClock m.diffNow
      else (q.nextTimestamp m.streamId).1 := by
  rw [issued_eq_encode]
  show (if (rtpHeaderFor _ _ _ _).timestamp = INVALID_TS then mediaClock m.diffNow
    else (rtpHeaderFor _ _ _ _).timestamp) = _
  rw [rtpHeaderFor_timestamp]

theorem enqueue_table (q : FrameQueue) (m : Message) :
    (q.enqueue m).m_streamTimestamps =
      recordTimestamp (q.nextTimestamp m.streamId).2 m.streamId (q.nextTimestamp m.streamId).1 (q.issued m)
        m.rtpSeq := by
  rw [issued_eq_encode]
  rfl

/-- The lookup advances the entry of its stream, when it has a timestamp, and no other. -/
theorem lookup_nextTimestamp (q : FrameQueue) (s k : UInt32) :
    (k ≠ s → (q.nextTimestamp s).2.lookup k = q.m_streamTimestamps.lookup k) ∧
    ((q.nextTimestamp s).1 ≠ INVALID_TS → (q.nextTimestamp s).2.lookup s = some (q.nextTimestamp s).1) := by
  unfold nextTimestamp
  split
  · dsimp only
    split
    · refine ⟨fun hk => ?_, fun _ => ?_⟩
      · exact AList.lookup_insert_ne hk
      · exact AList.lookup_insert _
    · next h => exact ⟨fun _ => rfl, fun hne => absurd hne h⟩
  · exact ⟨fun _ => rfl, fun hne => absurd rfl hne⟩

/-- What the record does to the entries. -/
theorem lookup_recordTimestamp (table : UnorderedMap UInt32 UInt32) (s timestamp sent : UInt32)
    (rtpSeq : UInt16) (k : UInt32) :
    (recordTimestamp table s timestamp sent rtpSeq).lookup k =
      if s = k ∧ k ≠ 0 then
        if rtpSeq = RTP_END_OF_CALL_SEQ then none
        else if timestamp = INVALID_TS then some sent else table.lookup k
      else table.lookup k := by
  unfold recordTimestamp
  by_cases hk : s = k
  · subst hk
    by_cases hzero : s = 0
    · simp [hzero]
    · by_cases hend : rtpSeq = RTP_END_OF_CALL_SEQ
      · simp [hzero, hend]
      · by_cases hts : timestamp = INVALID_TS
        · simp [hzero, hend, hts]
        · simp [hzero, hend, hts]
  · have hne : k ≠ s := fun h => hk h.symm
    have hno : ¬ (s = k ∧ k ≠ 0) := fun h => hk h.1
    simp only [if_neg hno]
    split
    · rw [AList.lookup_erase_ne hne]
      split
      · exact AList.lookup_insert_ne hne
      · rfl
    · split
      · exact AList.lookup_insert_ne hne
      · rfl

/-- **What a message does to the table**: its stream has the issued timestamp, or no entry after the end of the
    call; stream zero is never entered, and no other stream is touched. -/
theorem lookup_enqueue (q : FrameQueue) (m : Message) (s : UInt32) :
    (q.enqueue m).m_streamTimestamps.lookup s =
      if m.streamId = s ∧ s ≠ 0 then (if m.EndsCall then none else some (q.issued m))
      else q.m_streamTimestamps.lookup s := by
  obtain ⟨hother, hself⟩ := lookup_nextTimestamp q m.streamId s
  rw [enqueue_table, lookup_recordTimestamp]
  by_cases hs : m.streamId = s ∧ s ≠ 0
  · have hissued : (if (q.nextTimestamp m.streamId).1 = INVALID_TS then some (q.issued m)
        else (q.nextTimestamp m.streamId).2.lookup s) = some (q.issued m) := by
      split
      · rfl
      · next hts => rw [← hs.1, hself hts, issued_eq, if_neg hts]
    rw [if_pos hs, if_pos hs, hissued]
  · rw [if_neg hs, if_neg hs]
    by_cases hk : s = m.streamId
    · -- stream zero is not looked up
      have hzero : m.streamId = 0 := by
        by_contra h
        exact hs ⟨hk.symm, hk ▸ h⟩
      have hnext : q.nextTimestamp m.streamId = (INVALID_TS, q.m_streamTimestamps) :=
        if_neg (not_not_intro hzero)
      rw [hnext]
    · exact hother hk

/-- The message is issued the timestamp that its stream is due. -/
def Due (q : FrameQueue) (m : Message) : Prop :=
  m.streamId ≠ 0 → ∀ ts, q.m_streamTimestamps.lookup m.streamId = some ts → q.issued m = ts + frameStep

/-- The last timestamp of the stream and the due one are not `INVALID_TS`, or else the media clock happens to
    read the due one. -/
def SentinelAvoided (q : FrameQueue) (m : Message) : Prop :=
  m.streamId ≠ 0 → ∀ ts, q.m_streamTimestamps.lookup m.streamId = some ts →
    ts = INVALID_TS ∨ ts + frameStep = INVALID_TS → mediaClock m.diffNow = ts + frameStep

/-- What is issued in a call that is under way. -/
theorem issued_of_lookup {q : FrameQueue} {m : Message} {ts : UInt32} (hs : m.streamId ≠ 0)
    (h : q.m_streamTimestamps.lookup m.streamId = some ts) :
    q.issued m = if ts = INVALID_TS ∨ ts + frameStep = INVALID_TS then mediaClock m.diffNow
      else ts + frameStep := by
  have hnext : (q.nextTimestamp m.streamId).1 = if ts = INVALID_TS then INVALID_TS else ts + frameStep := by
    unfold nextTimestamp
    rw [if_pos hs, h]
    dsimp only [Option.getD_some]
    by_cases hts : ts = INVALID_TS
    · rw [if_neg (not_not_intro hts), if_pos hts]
      exact hts
    · rw [if_pos hts, if_neg hts]
      rfl
  rw [issued_eq, hnext]
  by_cases hts : ts = INVALID_TS
  · rw [if_pos hts, if_pos rfl, if_pos (Or.inl hts)]
  · rw [if_neg hts]
    by_cases hdue : ts + frameStep = INVALID_TS
    · rw [if_pos hdue, if_pos (Or.inr hdue)]
    · rw [if_neg hdue, if_neg (not_or.mpr ⟨hts, hdue⟩)]

/-- A message misses its due timestamp exactly at the sentinel. -/
theorem due_iff (q : FrameQueue) (m : Message) : Due q m ↔ SentinelAvoided q m := by
  refine forall_congr' fun hs => forall_congr' fun ts => forall_congr' fun h => ?_
  rw [issued_of_lookup hs h]
  by_cases hinv : ts = INVALID_TS ∨ ts + frameStep = INVALID_TS
  · rw [if_pos hinv]
    exact ⟨fun hclock _ => hclock, fun hclock => hclock hinv⟩
  · rw [if_neg hinv]
    exact iff_of_true rfl fun h => absurd h hinv

/-! ## The messages of a call -/

/-- `m'` follows `m` in one call of a stream: none of the messages from `m` on to the one before `m'` ends it. -/
structure SameCall (m : Message) (mid : List Message) (m' : Message) : Prop where
  stream_ne : m.streamId ≠ 0
  stream_eq : m'.streamId = m.streamId
  head_open : ¬ m.EndsCall
  mid_open : ∀ x ∈ mid, x.streamId = m.streamId → ¬ x.EndsCall

/-- How many of the messages are of the stream. -/
def framesOf (s : UInt32) (msgs : List Message) : Nat := msgs.countP fun x => x.streamId = s

/-- The steps of one more frame. -/
theorem frameStep_succ (ts : UInt32) (n : Nat) :
    ts + frameStep * n.toUInt32 + frameStep = ts + frameStep * (n + 1).toUInt32 := by
  have hsucc : (n + 1).toUInt32 = n.toUInt32 + 1 := UInt32.ofNat_add n 1
  rw [hsucc, UInt32.mul_add, UInt32.mul_one, UInt32.add_assoc]

/-- The timestamps of a call come round after 2³⁰ frames. -/
theorem frameStep_mul_eq_iff (ts : UInt32) (n : Nat) :
    ts + frameStep * n.toUInt32 = ts ↔ 2 ^ 30 ∣ n := by
  have hstep : frameStep.toNat = 60 := rfl
  have hn : n.toUInt32.toNat = n % 2 ^ 32 := UInt32.toNat_ofNat'
  rw [← UInt32.toNat_inj, UInt32.toNat_add, UInt32.toNat_mul, hstep, hn]
  have hlt := ts.toNat_lt
  omega

/-- **The entry of a call**: when every message is issued its due timestamp, the entry counts the frames of the
    call from the first timestamp on. -/
theorem lookup_call (pre : List Message) {m : Message} {mid : List Message} (hs : m.streamId ≠ 0)
    (hopen : ¬ m.EndsCall) (hmid : ∀ x ∈ mid, x.streamId = m.streamId → ¬ x.EndsCall)
    (hdue : ∀ l x r, mid = l ++ x :: r → Due (queueAfter (pre ++ m :: l)) x) :
    (queueAfter (pre ++ m :: mid)).m_streamTimestamps.lookup m.streamId =
      some ((queueAfter pre).issued m + frameStep * (framesOf m.streamId mid).toUInt32) := by
  induction mid using List.reverseRecOn with
  | nil =>
      rw [queueAfter_append, lookup_enqueue, if_pos ⟨rfl, hs⟩, if_neg hopen]
      show _ = some (_ + frameStep * 0)
      rw [UInt32.mul_zero, UInt32.add_zero]
  | append_singleton mid x ih =>
      have hentry := ih (fun y hy => hmid y (List.mem_append_left _ hy))
        fun l y r heq => hdue l y (r ++ [x]) (by rw [heq, List.append_assoc, List.cons_append])
      have hx := hdue mid x [] rfl
      rw [← List.cons_append, ← List.append_assoc, queueAfter_append, lookup_enqueue]
      by_cases hstream : x.streamId = m.streamId
      · have hcount : framesOf m.streamId (mid ++ [x]) = framesOf m.streamId mid + 1 := by
          simp [framesOf, hstream]
        rw [if_pos ⟨hstream, hs⟩, if_neg (hmid x (by simp) hstream), hcount, ← frameStep_succ]
        exact congrArg some (hx (hstream ▸ hs) _ (hstream ▸ hentry))
      · have hcount : framesOf m.streamId (mid ++ [x]) = framesOf m.streamId mid := by
          simp [framesOf, hstream]
        rw [if_neg (fun h => hstream h.1), hcount, hentry]

/-! ## The timing of a run -/

/-- The timing of the streams in a run of messages from an empty queue. Between the ends of two calls the
    timestamps of a stream go up by `frameStep` and are distinct; no other stream has a part in them; and an
    ended call leaves no entry until the stream is used again. -/
structure Timed (msgs : List Message) : Prop where
  stepped : ∀ pre m mid m' post, msgs = pre ++ m :: (mid ++ m' :: post) → SameCall m mid m' →
    (queueAfter (pre ++ m :: mid)).issued m' =
      (queueAfter pre).issued m + frameStep * (framesOf m.streamId mid + 1).toUInt32
  distinct : ∀ pre m mid m' post, msgs = pre ++ m :: (mid ++ m' :: post) → SameCall m mid m' →
    (queueAfter (pre ++ m :: mid)).issued m' ≠ (queueAfter pre).issued m
  isolated : ∀ pre m post, msgs = pre ++ m :: post →
    (queueAfter pre).issued m = (queueAfter (pre.filter fun x => x.streamId = m.streamId)).issued m
  cleared : ∀ pre m mid post, msgs = pre ++ m :: (mid ++ post) → m.EndsCall →
    (∀ x ∈ mid, x.streamId ≠ m.streamId) →
    (queueAfter (pre ++ m :: mid)).m_streamTimestamps.lookup m.streamId = none

/-- Every message of a run avoids the sentinel. -/
def RunAvoids (msgs : List Message) : Prop :=
  ∀ pre m post, msgs = pre ++ m :: post → SentinelAvoided (queueAfter pre) m

/-- No call of a run has more than 2³⁰ messages. -/
def CallsBounded (msgs : List Message) : Prop :=
  ∀ pre m mid m' post, msgs = pre ++ m :: (mid ++ m' :: post) → SameCall m mid m' →
    framesOf m.streamId mid + 2 ≤ 2 ^ 30

section Run

variable {msgs : List Message}

/-- Every message of a run that avoids the sentinel is issued its due timestamp. -/
theorem RunAvoids.due (h : RunAvoids msgs) {pre : List Message} {m : Message} (post : List Message)
    (heq : msgs = pre ++ m :: post) : Due (queueAfter pre) m := (due_iff _ _).mpr (h pre m post heq)

/-- The timestamps of a call in such a run. -/
theorem RunAvoids.stepped (h : RunAvoids msgs) {pre : List Message} {m : Message} {mid : List Message}
    {m' : Message} {post : List Message} (heq : msgs = pre ++ m :: (mid ++ m' :: post))
    (hcall : SameCall m mid m') :
    (queueAfter (pre ++ m :: mid)).issued m' =
      (queueAfter pre).issued m + frameStep * (framesOf m.streamId mid + 1).toUInt32 := by
  have hentry := lookup_call pre hcall.stream_ne hcall.head_open hcall.mid_open fun l x r hmid =>
    h.due (r ++ m' :: post) (by rw [heq, hmid]; simp)
  have hdue : Due (queueAfter (pre ++ m :: mid)) m' := h.due post (by rw [heq]; simp)
  rw [← frameStep_succ]
  refine hdue (hcall.stream_eq ▸ hcall.stream_ne) _ ?_
  rw [hcall.stream_eq]
  exact hentry

/-- A call of more than 2³⁰ messages repeats a timestamp. -/
theorem Timed.bounded (h : Timed msgs) : CallsBounded msgs := by
  intro pre m mid m' post heq hcall
  by_contra hlong
  -- the message 2³⁰ frames behind `m` has its timestamp
  have hmany : 2 ^ 30 - 1 < (mid ++ [m']).countP fun x => x.streamId = m.streamId := by
    have hsum : (mid ++ [m']).countP (fun x => x.streamId = m.streamId) = framesOf m.streamId mid + 1 := by
      simp [framesOf, hcall.stream_eq]
    omega
  obtain ⟨l, x, r, hsplit, hx, hcount⟩ := exists_marked hmany
  have hmid : mid = l ++ (x :: r).dropLast := by
    have := congrArg List.dropLast hsplit
    rwa [List.dropLast_concat, List.dropLast_append_of_ne_nil (List.cons_ne_nil x r)] at this
  have hrun : msgs = pre ++ m :: (l ++ x :: (r ++ post)) := by
    have hjoin := congrArg (fun xs => pre ++ m :: (xs ++ post)) hsplit
    simpa [heq] using hjoin
  have hcall' : SameCall m l x :=
    ⟨hcall.stream_ne, of_decide_eq_true hx, hcall.head_open, fun y hy =>
      hcall.mid_open y (hmid ▸ List.mem_append_left _ hy)⟩
  have hframes : framesOf m.streamId l + 1 = 2 ^ 30 := by
    unfold framesOf
    omega
  refine h.distinct pre m l x (r ++ post) hrun hcall' ?_
  rw [h.stepped pre m l x (r ++ post) hrun hcall', hframes]
  exact (frameStep_mul_eq_iff _ _).mpr (Nat.dvd_refl _)

end Run

end FrameQueue

end DvmHost

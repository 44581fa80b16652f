import DvmHost.Common.Correctness.RingFifo
import DvmHost.Host.Modem.Modem

/-!
# `Host.Modem.Correctness.QueueAlignment` — records in the receive queues

A receive queue holds records, each behind an octet that says how long it is. Writers put a record down in parts, and
the one reader trusts the octet at the head. The queue stays a list of records while every writer counts what it
writes and finds room for all of it (`queue_step`); the four queues of a modem then do so together (`call_step`).
-/

namespace DvmHost

open Lib

namespace Modem

/-! ## One queue -/

/-- The octets of a list of records. -/
def encode (records : List (List UInt8)) : List UInt8 :=
  records.flatMap fun record => UInt8.ofNat record.length :: record

theorem encode_concat (records : List (List UInt8)) (record : List UInt8) :
    encode (records ++ [record]) = encode records ++ (UInt8.ofNat record.length :: record) := by
  unfold encode
  rw [List.flatMap_append, List.flatMap_singleton]

/-- **A queue is aligned** with the records that it should hold: these are its octets, and each length fits its octet. -/
def Aligned (queue : List UInt8) (records : List (List UInt8)) : Prop :=
  queue = encode records ∧ ∀ record ∈ records, record.length < 256

/-- What is done to a queue. -/
inductive QueueCall where
  | frame (buffer : Bytes) (length : Nat) (tag : UInt8)
  | lost
  | inject (sync : UInt8) (data : List UInt8)
  | read

section Queue

variable {size : Nat}

/-- A call on a queue. -/
def apply (q : RingBuffer UInt8 size) : QueueCall → RingBuffer UInt8 size
  | .frame buffer length tag => queueFrame q buffer length tag
  | .lost => queueLost q
  | .inject sync data => inject q sync data
  | .read => (readFrame q).2

/-- The record that a writer writes: the tag and the octets behind it. -/
def QueueCall.record? : QueueCall → Option (List UInt8)
  | .frame buffer length tag => some (tag :: octetsAt buffer 3 (length - 3))
  | .lost => some [TAG_LOST]
  | .inject sync data => some (TAG_DATA :: sync :: data)
  | .read => none

/-- The records behind a call. -/
def after (records : List (List UInt8)) (call : QueueCall) : List (List UInt8) :=
  match call.record? with
  | some record => records ++ [record]
  | none => records.tail

/-- **The calls that keep a queue aligned.** A frame has a length that leaves room for its type and fits the octet, and
    finds room in the queue, with a cell to spare; nothing is injected. -/
def MeetsQueue (q : RingBuffer UInt8 size) : QueueCall → Prop
  | .frame _ length _ => 3 ≤ length ∧ length ≤ 257 ∧ q.dataSize + (length - 1) < size
  | .lost => q.dataSize + 2 < size
  | .inject _ _ => False
  | .read => True

/-- Parts added one after the other. -/
def addParts (q : RingBuffer UInt8 size) (parts : List (List UInt8)) : RingBuffer UInt8 size :=
  parts.foldl (fun q part => (q.addData part).2) q

/-- Parts that are added one after the other are all there, if there is room for all of them; else some are lost. -/
theorem contents_addParts (parts : List (List UInt8)) : ∀ q : RingBuffer UInt8 size,
    (q.contents.length + parts.flatten.length < size → (addParts q parts).contents = q.contents ++ parts.flatten) ∧
      (size ≤ q.contents.length + parts.flatten.length →
        (addParts q parts).contents.length < q.contents.length + parts.flatten.length) := by
  induction parts with
  | nil =>
      intro q
      have hlt := q.dataSize_lt
      rw [← q.length_contents] at hlt
      rw [List.flatten_nil, List.length_nil, Nat.add_zero, List.append_nil]
      exact ⟨fun _ => rfl, fun hover => absurd hlt (Nat.not_lt.mpr hover)⟩
  | cons part parts ih =>
      intro q
      obtain ⟨hfits, hover⟩ := ih (q.addData part).2
      have hlt := q.dataSize_lt
      rw [← q.length_contents] at hlt
      have hfirst := RingBuffer.contents_addData q part
      rw [List.flatten_cons, List.length_append]
      show (_ → (addParts (q.addData part).2 parts).contents = _) ∧
        (_ → (addParts (q.addData part).2 parts).contents.length < _)
      by_cases hroom : q.contents.length + part.length < size
      · rw [if_pos hroom] at hfirst
        rw [hfirst, List.length_append, List.append_assoc] at hfits
        rw [hfirst, List.length_append] at hover
        exact ⟨fun h => hfits (by omega), fun h => by have hless := hover (by omega); omega⟩
      · -- the queue is empty after this part, and what follows is at most what it says
        rw [if_neg hroom] at hfirst
        rw [hfirst, List.length_nil, Nat.zero_add, List.nil_append] at hfits
        rw [hfirst, List.length_nil, Nat.zero_add] at hover
        refine ⟨fun h => absurd h (by omega), fun _ => ?_⟩
        rcases Nat.lt_or_ge parts.flatten.length size with hsmall | hlarge
        · rw [hfits hsmall]
          omega
        · have hless := hover hlarge
          omega

/-- A record that is put down in parts leaves the queue aligned, if the first part counts it, its length fits the octet
    and the queue has room for it, with a cell to spare. -/
theorem aligned_addParts {q : RingBuffer UInt8 size} {records : List (List UInt8)} (h : Aligned q.contents records)
    (prefixOctet : UInt8) (record : List UInt8) (parts : List (List UInt8)) (hparts : parts.flatten = record) :
    Aligned (addParts q ([prefixOctet] :: parts)).contents (records ++ [record]) ↔
      prefixOctet.toNat = record.length ∧ q.dataSize + (record.length + 1) < size := by
  obtain ⟨hfits, hover⟩ := contents_addParts ([prefixOctet] :: parts) q
  have hflat : ([prefixOctet] :: parts).flatten = prefixOctet :: record := by rw [List.flatten_cons, hparts]; rfl
  rw [hflat, List.length_cons] at hfits hover
  rw [← q.length_contents]
  constructor
  · rintro ⟨heq, hshort⟩
    rw [encode_concat, ← h.1] at heq
    have hrecord := hshort record (List.mem_append_right _ List.mem_cons_self)
    have hlen := congrArg List.length heq
    rw [List.length_append, List.length_cons] at hlen
    have hroom : q.contents.length + (record.length + 1) < size := by
      by_contra hfull
      have hless := hover (Nat.le_of_not_lt hfull)
      omega
    rw [hfits hroom] at heq
    have hhead := (List.cons.inj (List.append_cancel_left heq)).1
    refine ⟨?_, hroom⟩
    rw [hhead, UInt8.toNat_ofNat', Nat.mod_eq_of_lt hrecord]
  · rintro ⟨hcount, hroom⟩
    refine ⟨?_, ?_⟩
    · rw [hfits hroom, encode_concat, ← h.1, ← hcount, UInt8.ofNat_toNat]
    · intro r hr
      rcases List.mem_append.mp hr with hold | hnew
      · exact h.2 r hold
      · rw [List.mem_singleton.mp hnew, ← hcount]
        exact prefixOctet.toNat_lt

/-- What is left of the records, without the first. -/
theorem aligned_tail {queue : List UInt8} {records : List (List UInt8)} (h : Aligned queue records) :
    Aligned (encode records.tail) records.tail :=
  ⟨rfl, fun record hmem => h.2 record (List.mem_of_mem_tail hmem)⟩

/-- **A read of an aligned queue** yields the first record and its length, or a length of zero, and leaves the others. -/
theorem readFrame_aligned {q : RingBuffer UInt8 size} {records : List (List UInt8)} (h : Aligned q.contents records) :
    (readFrame q).1 = (UInt8.ofNat (records.headD []).length, records.headD []) ∧
      (readFrame q).2.contents = encode records.tail := by
  obtain ⟨hcontents, hshort⟩ := h
  unfold readFrame
  cases records with
  | nil =>
      have hempty : q.contents = [] := hcontents
      rw [if_pos (q.isEmpty_iff_contents.mpr hempty)]
      exact ⟨rfl, hempty⟩
  | cons record records =>
      have hcons : q.contents = UInt8.ofNat record.length :: (record ++ encode records) := by
        rw [hcontents]
        rfl
      have hsize := q.length_contents
      rw [hcons, List.length_cons, List.length_append] at hsize
      have hnonempty : ¬q.isEmpty = true := by
        rw [q.isEmpty_iff_contents, hcons]
        nofun
      have hcount : (UInt8.ofNat record.length).toNat = record.length := by
        rw [UInt8.toNat_ofNat', Nat.mod_eq_of_lt (hshort record List.mem_cons_self)]
      have hone : 1 ≤ q.contents.length := by rw [hcons]; exact Nat.succ_le_succ (Nat.zero_le _)
      have hpeek := q.contents_peek hone
      obtain ⟨-, hpopped⟩ := q.contents_get hone
      rw [hcons] at hpeek hpopped
      have hrest : (q.get 1).2.contents = record ++ encode records := hpopped
      obtain ⟨hdata, hleft⟩ := (q.get 1).2.contents_get (n := record.length) (by
        rw [hrest, List.length_append]
        exact Nat.le_add_right _ _)
      rw [hrest, List.take_left] at hdata
      rw [hrest, List.drop_left] at hleft
      rw [if_neg hnonempty]
      dsimp only
      rw [hpeek]
      simp only [Option.getD_some, List.take_succ_cons, List.headD_cons, hcount, List.tail_cons]
      rw [if_pos (by omega), hdata]
      exact ⟨rfl, hleft⟩

/-- A frame that has no type is queued with a length that wraps, and never leaves the one octet that it has. -/
theorem not_aligned_short {q : RingBuffer UInt8 size} {records : List (List UInt8)} (h : Aligned q.contents records)
    (buffer : Bytes) {length : Nat} (hshort : length < 3) (tag : UInt8) :
    ¬Aligned (queueFrame q buffer length tag).contents (records ++ [[tag]]) := by
  rintro ⟨heq, -⟩
  have hlen := congrArg List.length heq
  rw [encode_concat, ← h.1, List.length_append] at hlen
  have hhuge : (octetsAt buffer 3 (sub32 length 3)).length = 2 ^ 32 + length - 3 := by
    rw [octetsAt, List.length_map, List.length_range, sub32, if_neg (by omega)]
  have h1 := congrArg List.length (RingBuffer.contents_addData q [UInt8.ofNat (sub32 length 2)])
  have h2 := congrArg List.length
    (RingBuffer.contents_addData (q.addData [UInt8.ofNat (sub32 length 2)]).2 [tag])
  have h3 := congrArg List.length
    (RingBuffer.contents_addData ((q.addData [UInt8.ofNat (sub32 length 2)]).2.addData [tag]).2
      (octetsAt buffer 3 (sub32 length 3)))
  rw [apply_ite List.length, List.length_append, List.length_singleton, List.length_nil] at h1 h2
  rw [apply_ite List.length, List.length_append, hhuge, List.length_nil] at h3
  have hactual : (queueFrame q buffer length tag).contents.length = q.contents.length + 2 := hlen
  unfold queueFrame at hactual
  dsimp only at hactual
  rw [h3] at hactual
  split at hactual
  · split at h2 <;> split at h1 <;> omega
  · omega

/-- **One call on a queue** keeps it aligned, exactly if it meets the condition. -/
theorem queue_step {q : RingBuffer UInt8 size} {records : List (List UInt8)} (h : Aligned q.contents records)
    (call : QueueCall) : Aligned (apply q call).contents (after records call) ↔ MeetsQueue q call := by
  cases call with
  | frame buffer length tag =>
      show Aligned (queueFrame q buffer length tag).contents (records ++ [tag :: octetsAt buffer 3 (length - 3)]) ↔
        3 ≤ length ∧ length ≤ 257 ∧ q.dataSize + (length - 1) < size
      rcases Nat.lt_or_ge length 3 with hshort | hlong
      · have hnone : length - 3 = 0 := by omega
        rw [hnone]
        exact iff_of_false (not_aligned_short h buffer hshort tag) fun hmeets => by omega
      · have hparts : sub32 length 3 = length - 3 := if_pos hlong
        have hcount : sub32 length 2 = length - 2 := if_pos (by omega)
        show Aligned (addParts q ([UInt8.ofNat (sub32 length 2)] :: [[tag], octetsAt buffer 3 (sub32 length 3)])).contents
          _ ↔ _
        rw [hparts, hcount, aligned_addParts h _ (tag :: octetsAt buffer 3 (length - 3))
          [[tag], octetsAt buffer 3 (length - 3)] (by simp), UInt8.toNat_ofNat', List.length_cons, octetsAt,
          List.length_map, List.length_range]
        omega
  | lost =>
      show Aligned (addParts q ([1] :: [[TAG_LOST]])).contents (records ++ [[TAG_LOST]]) ↔ _
      rw [aligned_addParts h 1 [TAG_LOST] [[TAG_LOST]] rfl]
      exact and_iff_right rfl
  | inject sync data =>
      show Aligned (addParts q ([UInt8.ofNat data.length] :: [[TAG_DATA], [sync], data])).contents
        (records ++ [TAG_DATA :: sync :: data]) ↔ False
      rw [aligned_addParts h _ (TAG_DATA :: sync :: data) [[TAG_DATA], [sync], data] (by simp)]
      refine iff_of_false ?_ id
      rintro ⟨hcount, -⟩
      -- the prefix counts the data, and neither the tag nor the sync octet
      rw [UInt8.toNat_ofNat', List.length_cons, List.length_cons] at hcount
      have hle := Nat.mod_le data.length (2 ^ 8)
      omega
  | read =>
      refine iff_of_true ?_ trivial
      rw [show apply q .read = (readFrame q).2 from rfl, (readFrame_aligned h).2]
      exact aligned_tail h

end Queue

/-! ## The four queues -/

/-- The receive queues of a modem. -/
inductive ReceiveQueue where
  | rxDMRQueue1
  | rxDMRQueue2
  | rxP25Queue
  | rxNXDNQueue
deriving DecidableEq

variable {dmrQueueSize p25QueueSize nxdnQueueSize : Nat}

/-- The cells of a receive queue. -/
def cells (dmrQueueSize p25QueueSize nxdnQueueSize : Nat) : ReceiveQueue → Nat
  | .rxDMRQueue1 => dmrQueueSize
  | .rxDMRQueue2 => dmrQueueSize
  | .rxP25Queue => p25QueueSize
  | .rxNXDNQueue => nxdnQueueSize

/-- A receive queue. -/
def queue (m : Modem dmrQueueSize p25QueueSize nxdnQueueSize) :
    (i : ReceiveQueue) → RingBuffer UInt8 (cells dmrQueueSize p25QueueSize nxdnQueueSize i)
  | .rxDMRQueue1 => m.rxDMRQueue1
  | .rxDMRQueue2 => m.rxDMRQueue2
  | .rxP25Queue => m.rxP25Queue
  | .rxNXDNQueue => m.rxNXDNQueue

/-- A mode that a queue is for is enabled. -/
def enabled (m : Modem dmrQueueSize p25QueueSize nxdnQueueSize) : ReceiveQueue → Bool
  | .rxDMRQueue1 => m.dmrEnabled
  | .rxDMRQueue2 => m.dmrEnabled
  | .rxP25Queue => m.p25Enabled
  | .rxNXDNQueue => m.nxdnEnabled

/-- What is called: `clock` with a response of the serial port, an injection, or a read. -/
inductive ModemCall where
  | clock (r : Receiver)
  | inject (i : ReceiveQueue) (data : List UInt8)
  | read (i : ReceiveQueue)

/-- A call. -/
def exec (m : Modem dmrQueueSize p25QueueSize nxdnQueueSize) : ModemCall →
    Modem dmrQueueSize p25QueueSize nxdnQueueSize
  | .clock r => m.queueResponse r
  | .inject .rxDMRQueue1 data => m.injectDMRFrame1 data
  | .inject .rxDMRQueue2 data => m.injectDMRFrame2 data
  | .inject .rxP25Queue data => m.injectP25Frame data
  | .inject .rxNXDNQueue data => m.injectNXDNFrame data
  | .read .rxDMRQueue1 => m.readDMRFrame1.2
  | .read .rxDMRQueue2 => m.readDMRFrame2.2
  | .read .rxP25Queue => m.readP25Frame.2
  | .read .rxNXDNQueue => m.readNXDNFrame.2

/-- What a read returns. -/
def readAt (m : Modem dmrQueueSize p25QueueSize nxdnQueueSize) : ReceiveQueue → UInt8 × List UInt8
  | .rxDMRQueue1 => m.readDMRFrame1.1
  | .rxDMRQueue2 => m.readDMRFrame2.1
  | .rxP25Queue => m.readP25Frame.1
  | .rxNXDNQueue => m.readNXDNFrame.1

/-- A call on one queue of a modem. -/
def onQueue (m : Modem dmrQueueSize p25QueueSize nxdnQueueSize) (call : QueueCall) : ReceiveQueue →
    Modem dmrQueueSize p25QueueSize nxdnQueueSize
  | .rxDMRQueue1 => { m with rxDMRQueue1 := apply m.rxDMRQueue1 call }
  | .rxDMRQueue2 => { m with rxDMRQueue2 := apply m.rxDMRQueue2 call }
  | .rxP25Queue => { m with rxP25Queue := apply m.rxP25Queue call }
  | .rxNXDNQueue => { m with rxNXDNQueue := apply m.rxNXDNQueue call }

/-- The queue of a command, and what the response is to it: frames and losses of the four kinds. -/
def addressed (r : Receiver) : Option (ReceiveQueue × QueueCall) :=
  if r.buffer 2 = CMD_DMR_DATA1 then some (.rxDMRQueue1, .frame r.buffer r.length (dmrTag r.buffer))
  else if r.buffer 2 = CMD_DMR_DATA2 then some (.rxDMRQueue2, .frame r.buffer r.length (dmrTag r.buffer))
  else if r.buffer 2 = CMD_DMR_LOST1 then some (.rxDMRQueue1, .lost)
  else if r.buffer 2 = CMD_DMR_LOST2 then some (.rxDMRQueue2, .lost)
  else if r.buffer 2 = CMD_P25_DATA then some (.rxP25Queue, .frame r.buffer r.length TAG_DATA)
  else if r.buffer 2 = CMD_P25_LOST then some (.rxP25Queue, .lost)
  else if r.buffer 2 = CMD_NXDN_DATA then some (.rxNXDNQueue, .frame r.buffer r.length TAG_DATA)
  else if r.buffer 2 = CMD_NXDN_LOST then some (.rxNXDNQueue, .lost)
  else none

/-- The sync octet of an injected frame. -/
def syncOctet : ReceiveQueue → UInt8
  | .rxDMRQueue1 => DMR_SYNC_VOICE &&& DMR_SYNC_DATA
  | .rxDMRQueue2 => DMR_SYNC_VOICE &&& DMR_SYNC_DATA
  | .rxP25Queue => 0x01
  | .rxNXDNQueue => 0x01

/-- The queue that a call works on, if it works on one, and what it does to it. -/
def touched (m : Modem dmrQueueSize p25QueueSize nxdnQueueSize) : ModemCall → Option (ReceiveQueue × QueueCall)
  | .clock r => (addressed r).filter fun call => m.enabled call.1 && !r.rspDoubleLength
  | .inject i data => if m.enabled i then some (i, .inject (syncOctet i) data) else none
  | .read i => some (i, .read)

/-- The modem behind a call on one of its queues, or on none. -/
def onTouched (m : Modem dmrQueueSize p25QueueSize nxdnQueueSize) :
    Option (ReceiveQueue × QueueCall) → Modem dmrQueueSize p25QueueSize nxdnQueueSize
  | some (i, call) => m.onQueue call i
  | none => m

/-- A response whose mode is enabled, and that is not of double length, is queued. -/
theorem onTouched_filter (m : Modem dmrQueueSize p25QueueSize nxdnQueueSize) (r : Receiver) (i : ReceiveQueue)
    (call : QueueCall) : (if m.enabled i = true ∧ ¬r.rspDoubleLength = true then m.onQueue call i else m) =
      m.onTouched ((some (i, call)).filter fun call => m.enabled call.1 && !r.rspDoubleLength) := by
  rw [Option.filter_some]
  cases m.enabled i <;> cases r.rspDoubleLength <;> rfl

/-- `clock` queues by what is addressed. -/
theorem queueResponse_eq (m : Modem dmrQueueSize p25QueueSize nxdnQueueSize) (r : Receiver) :
    m.queueResponse r = m.onTouched (m.touched (.clock r)) := by
  show m.queueResponse r = m.onTouched ((addressed r).filter fun call => m.enabled call.1 && !r.rspDoubleLength)
  unfold queueResponse addressed
  by_cases h1 : r.buffer 2 = CMD_DMR_DATA1
  · rw [if_pos h1, if_pos h1]
    exact onTouched_filter m r .rxDMRQueue1 (.frame r.buffer r.length (dmrTag r.buffer))
  rw [if_neg h1, if_neg h1]
  by_cases h2 : r.buffer 2 = CMD_DMR_DATA2
  · rw [if_pos h2, if_pos h2]
    exact onTouched_filter m r .rxDMRQueue2 (.frame r.buffer r.length (dmrTag r.buffer))
  rw [if_neg h2, if_neg h2]
  by_cases h3 : r.buffer 2 = CMD_DMR_LOST1
  · rw [if_pos h3, if_pos h3]
    exact onTouched_filter m r .rxDMRQueue1 .lost
  rw [if_neg h3, if_neg h3]
  by_cases h4 : r.buffer 2 = CMD_DMR_LOST2
  · rw [if_pos h4, if_pos h4]
    exact onTouched_filter m r .rxDMRQueue2 .lost
  rw [if_neg h4, if_neg h4]
  by_cases h5 : r.buffer 2 = CMD_P25_DATA
  · rw [if_pos h5, if_pos h5]
    exact onTouched_filter m r .rxP25Queue (.frame r.buffer r.length TAG_DATA)
  rw [if_neg h5, if_neg h5]
  by_cases h6 : r.buffer 2 = CMD_P25_LOST
  · rw [if_pos h6, if_pos h6]
    exact onTouched_filter m r .rxP25Queue .lost
  rw [if_neg h6, if_neg h6]
  by_cases h7 : r.buffer 2 = CMD_NXDN_DATA
  · rw [if_pos h7, if_pos h7]
    exact onTouched_filter m r .rxNXDNQueue (.frame r.buffer r.length TAG_DATA)
  rw [if_neg h7, if_neg h7]
  by_cases h8 : r.buffer 2 = CMD_NXDN_LOST
  · rw [if_pos h8, if_pos h8]
    exact onTouched_filter m r .rxNXDNQueue .lost
  rw [if_neg h8, if_neg h8]
  rfl

/-- **What a call does to the modem**: it works on the queue that it is about. -/
theorem exec_eq (m : Modem dmrQueueSize p25QueueSize nxdnQueueSize) (call : ModemCall) :
    m.exec call = m.onTouched (m.touched call) := by
  cases call with
  | clock r => exact queueResponse_eq m r
  | inject i data =>
      refine Eq.trans ?_ (apply_ite m.onTouched (m.enabled i = true) (some (i, .inject (syncOctet i) data)) none).symm
      cases i <;> rfl
  | read i => cases i <;> rfl

/-- A call on one queue leaves the others. -/
theorem queue_onQueue (m : Modem dmrQueueSize p25QueueSize nxdnQueueSize) (call : QueueCall) (i j : ReceiveQueue) :
    (m.onQueue call i).queue j = if j = i then apply (m.queue j) call else m.queue j := by
  cases i <;> cases j <;> rfl

/-- A modem, and the records that its queues should hold. -/
structure Tracked (dmrQueueSize p25QueueSize nxdnQueueSize : Nat) where
  modem : Modem dmrQueueSize p25QueueSize nxdnQueueSize
  records : ReceiveQueue → List (List UInt8)

/-- A call as a step: what a writer was given for a queue is the last record of it, and a read takes the first. -/
def Step (s : Tracked dmrQueueSize p25QueueSize nxdnQueueSize) (call : ModemCall)
    (s' : Tracked dmrQueueSize p25QueueSize nxdnQueueSize) : Prop :=
  s'.modem = s.modem.exec call ∧
    s'.records = match s.modem.touched call with
      | some (i, qc) => Function.update s.records i (after (s.records i) qc)
      | none => s.records

/-- Every queue holds the octets of its records. -/
def AllAligned (s : Tracked dmrQueueSize p25QueueSize nxdnQueueSize) : Prop :=
  ∀ i, Aligned (s.modem.queue i).contents (s.records i)

/-- The first record and the number of its octets, or zero when there is none. -/
def firstRecord : List (List UInt8) → UInt8 × List UInt8
  | [] => (0, [])
  | record :: _ => (UInt8.ofNat record.length, record)

/-- A read returns the first record. -/
def Answered (s : Tracked dmrQueueSize p25QueueSize nxdnQueueSize) : ModemCall → Prop
  | .read i => s.modem.readAt i = firstRecord (s.records i)
  | _ => True

/-- **The calls that keep the queues aligned**: the one queue that is worked on is kept so. -/
def Meets (s : Tracked dmrQueueSize p25QueueSize nxdnQueueSize) (call : ModemCall) : Prop :=
  ∀ i qc, s.modem.touched call = some (i, qc) → MeetsQueue (s.modem.queue i) qc

theorem readAt_aligned {m : Modem dmrQueueSize p25QueueSize nxdnQueueSize} {i : ReceiveQueue}
    {records : List (List UInt8)} (h : Aligned (m.queue i).contents records) :
    m.readAt i = firstRecord records := by
  have hread : m.readAt i = (readFrame (m.queue i)).1 := by cases i <;> rfl
  rw [hread, (readFrame_aligned h).1]
  cases records <;> rfl

/-- **One call** keeps all queues aligned, exactly if it meets the condition. -/
theorem call_step {s : Tracked dmrQueueSize p25QueueSize nxdnQueueSize} (h : AllAligned s) {call : ModemCall}
    {s' : Tracked dmrQueueSize p25QueueSize nxdnQueueSize} (hstep : Step s call s') :
    (AllAligned s' ↔ Meets s call) ∧ Answered s call := by
  obtain ⟨hmodem, hrecords⟩ := hstep
  rw [exec_eq] at hmodem
  refine ⟨?_, ?_⟩
  · unfold AllAligned Meets
    rw [hmodem, hrecords]
    cases ht : s.modem.touched call with
    | none => exact iff_of_true h nofun
    | some touched =>
        obtain ⟨i, qc⟩ := touched
        have hothers : ∀ j, j ≠ i → Aligned ((s.modem.onQueue qc i).queue j).contents
            (Function.update s.records i (after (s.records i) qc) j) := by
          intro j hne
          rw [queue_onQueue, if_neg hne, Function.update_of_ne hne]
          exact h j
        have hown : Aligned ((s.modem.onQueue qc i).queue i).contents
            (Function.update s.records i (after (s.records i) qc) i) ↔ MeetsQueue (s.modem.queue i) qc := by
          rw [queue_onQueue, if_pos rfl, Function.update_self]
          exact queue_step (h i) qc
        constructor
        · intro hall j qc' heq
          obtain ⟨rfl, rfl⟩ := Prod.mk.inj (Option.some.inj heq)
          exact hown.mp (hall i)
        · intro hmeets j
          by_cases hj : j = i
          · subst hj
            exact hown.mpr (hmeets j qc rfl)
          · exact hothers j hj
  · cases call with
    | clock r => trivial
    | inject i data => trivial
    | read i => exact readAt_aligned (h i)

/-- A modem with empty queues. -/
def Tracked.start (hdmr : 0 < dmrQueueSize) (hp25 : 0 < p25QueueSize) (hnxdn : 0 < nxdnQueueSize)
    (dmrEnabled p25Enabled nxdnEnabled : Bool) : Tracked dmrQueueSize p25QueueSize nxdnQueueSize :=
  ⟨Modem.new hdmr hp25 hnxdn dmrEnabled p25Enabled nxdnEnabled, fun _ => []⟩

theorem allAligned_start (hdmr : 0 < dmrQueueSize) (hp25 : 0 < p25QueueSize) (hnxdn : 0 < nxdnQueueSize)
    (dmrEnabled p25Enabled nxdnEnabled : Bool) :
    AllAligned (Tracked.start hdmr hp25 hnxdn dmrEnabled p25Enabled nxdnEnabled) := by
  have hempty : ∀ {n : Nat} (hn : 0 < n), (RingBuffer.new n hn : RingBuffer UInt8 n).contents = [] :=
    fun hn => (RingBuffer.stored_start hn).contents_eq hn
  intro i
  refine ⟨?_, nofun⟩
  cases i <;> exact hempty _

/-- **When the receive queues stay aligned.** In any run of responses, injections and reads, on queues of any size, every
    queue is at all times the list of its records and every read returns the first of them, if and only if every frame
    that is queued has a length that its octet can count and finds room, and nothing is injected into a mode that is
    enabled. -/
theorem allAligned_iff {hdmr : 0 < dmrQueueSize} {hp25 : 0 < p25QueueSize} {hnxdn : 0 < nxdnQueueSize}
    {dmrEnabled p25Enabled nxdnEnabled : Bool}
    {l : List (ModemCall × Tracked dmrQueueSize p25QueueSize nxdnQueueSize)}
    (hrun : Run Step (Tracked.start hdmr hp25 hnxdn dmrEnabled p25Enabled nxdnEnabled) l) :
    States AllAligned (Tracked.start hdmr hp25 hnxdn dmrEnabled p25Enabled nxdnEnabled) l ∧
        Guarded Answered (Tracked.start hdmr hp25 hnxdn dmrEnabled p25Enabled nxdnEnabled) l ↔
      Guarded Meets (Tracked.start hdmr hp25 hnxdn dmrEnabled p25Enabled nxdnEnabled) l := by
  refine hrun.states_and_guarded_iff (I := fun _ => True) ?_ ?_ trivial
    (allAligned_start hdmr hp25 hnxdn dmrEnabled p25Enabled nxdnEnabled)
  · intro s call s' _ haligned hmeets hstep
    obtain ⟨hiff, hanswered⟩ := call_step haligned hstep
    exact ⟨⟨trivial, hiff.mpr hmeets⟩, hanswered⟩
  · intro s call s' _ haligned hstep haligned' _
    exact (call_step haligned hstep).1.mp haligned'

/-- A modem for P25, with eight cells for its frames. -/
def small : Tracked 1 8 1 :=
  Tracked.start (show 0 < 1 by decide) (show 0 < 8 by decide) (show 0 < 1 by decide) false true false

/-- The response that says that a frame of P25 is lost. -/
def p25Lost : Receiver :=
  { Receiver.new with buffer := fun i => if i = 2 then CMD_P25_LOST else 0x00, length := 3 }

/-- The modem behind a call, and the records that its queues should then hold. -/
def Tracked.next (s : Tracked dmrQueueSize p25QueueSize nxdnQueueSize) (call : ModemCall) :
    Tracked dmrQueueSize p25QueueSize nxdnQueueSize :=
  ⟨s.modem.exec call, match s.modem.touched call with
    | some (i, qc) => Function.update s.records i (after (s.records i) qc)
    | none => s.records⟩

theorem step_next (s : Tracked dmrQueueSize p25QueueSize nxdnQueueSize) (call : ModemCall) :
    Step s call (s.next call) :=
  ⟨rfl, rfl⟩

theorem small_lost : small.modem.touched (.clock p25Lost) = some (.rxP25Queue, .lost) := rfl

theorem small_injected : small.modem.touched (.inject .rxP25Queue [0x55]) =
    some (.rxP25Queue, .inject 0x01 [0x55]) := rfl

/-- The same for a loss that is reported. -/
theorem allAligned_lost :
    States AllAligned small [(ModemCall.clock p25Lost, small.next (.clock p25Lost))] ∧
      Guarded Answered small [(ModemCall.clock p25Lost, small.next (.clock p25Lost))] := by
  refine (allAligned_iff (.cons (step_next small (.clock p25Lost)) .nil)).mpr ⟨?_, trivial⟩
  intro i qc htouched
  obtain ⟨rfl, rfl⟩ := Prod.mk.inj (Option.some.inj (small_lost.symm.trans htouched))
  show small.modem.rxP25Queue.dataSize + 2 < 8
  decide

/-- An octet that is injected leaves a length behind that does not count the tag and the sync octet. -/
theorem not_allAligned_injected :
    ¬(States AllAligned small [(ModemCall.inject .rxP25Queue [0x55], small.next (.inject .rxP25Queue [0x55]))] ∧
      Guarded Answered small [(ModemCall.inject .rxP25Queue [0x55], small.next (.inject .rxP25Queue [0x55]))]) := by
  rintro ⟨hstates, -⟩
  have hstart : AllAligned small := allAligned_start _ _ _ _ _ _
  exact (call_step hstart (step_next small (.inject .rxP25Queue [0x55]))).1.mp (hstates.2 _ List.mem_cons_self) _ _ small_injected

end Modem

end DvmHost

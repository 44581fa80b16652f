import DvmHost.Common.Dmr.Lc.FullLC
import DvmHost.Common.RingBuffer

/-!
# `Host.Modem.Modem` — the serial port of the air interface modem

`src/host/modem/Modem.{h,cpp}`: `getResponse` reads a response from the port, in as many calls as it takes; `clock`
puts the frames among the responses into one queue for each mode, and the `read…Frame` functions take them out.

The port is what is still to come of its stream, and how many octets each of the next reads may return: the operating
system decides. The status fields that `clock` keeps, and the optional response handler, are left out.
-/

namespace DvmHost

/-! ## Constants -/

/-- `BUFFER_LENGTH`. -/
def BUFFER_LENGTH : Nat := 2000

/-- `modem::DVM_FRAME_START`. -/
def Modem.DVM_FRAME_START : UInt8 := 0xFE

/-- `CMD_DMR_DATA1`. -/
def CMD_DMR_DATA1 : UInt8 := 0x18

/-- `CMD_DMR_LOST1`. -/
def CMD_DMR_LOST1 : UInt8 := 0x19

/-- `CMD_DMR_DATA2`. -/
def CMD_DMR_DATA2 : UInt8 := 0x1A

/-- `CMD_DMR_LOST2`. -/
def CMD_DMR_LOST2 : UInt8 := 0x1B

/-- `CMD_P25_DATA`. -/
def CMD_P25_DATA : UInt8 := 0x31

/-- `CMD_P25_LOST`. -/
def CMD_P25_LOST : UInt8 := 0x32

/-- `CMD_NXDN_DATA`. -/
def CMD_NXDN_DATA : UInt8 := 0x41

/-- `CMD_NXDN_LOST`. -/
def CMD_NXDN_LOST : UInt8 := 0x42

/-- `CMD_DEBUG1`. -/
def CMD_DEBUG1 : UInt8 := 0xF1

/-- `CMD_DEBUG2`. -/
def CMD_DEBUG2 : UInt8 := 0xF2

/-- `CMD_DEBUG3`. -/
def CMD_DEBUG3 : UInt8 := 0xF3

/-- `CMD_DEBUG4`. -/
def CMD_DEBUG4 : UInt8 := 0xF4

/-- `CMD_DEBUG5`. -/
def CMD_DEBUG5 : UInt8 := 0xF5

/-- `TAG_DATA`. -/
def TAG_DATA : UInt8 := 0x01

/-- `TAG_LOST`. -/
def TAG_LOST : UInt8 := 0x02

/-- `TAG_EOT`. -/
def TAG_EOT : UInt8 := 0x03

/-- `DMR_SYNC_DATA`. -/
def DMR_SYNC_DATA : UInt8 := 0x40

/-- `DMR_SYNC_VOICE`. -/
def DMR_SYNC_VOICE : UInt8 := 0x20

/-- `RESP_STATE`. -/
inductive RespState where
  | RESP_START
  | RESP_LENGTH1
  | RESP_LENGTH2
  | RESP_TYPE
  | RESP_DATA
deriving DecidableEq

/-- `RESP_TYPE_DVM`. -/
inductive RespType where
  | RTM_OK
  | RTM_TIMEOUT
  | RTM_ERROR
deriving DecidableEq

/-! ## The port -/

/-- A port. An entry of `reads` is what a read will do: fail, or return that many octets at most; behind the last
    entry there is nothing to read. -/
structure Port where
  stream : List UInt8
  reads : List (Option Nat)

/-- `IModemPort::read`, of up to `length` octets; `none` is a negative result. -/
def Port.read (p : Port) (length : Nat) : Option (List UInt8) × Port :=
  match p.reads with
  | [] => (some [], p)
  | none :: reads => (none, { p with reads := reads })
  | some n :: reads =>
      (some (p.stream.take (min n length)), { stream := p.stream.drop (min n length), reads := reads })

/-! ## `getResponse` -/

/-- The members that `getResponse` keeps. -/
structure Receiver where
  buffer : Bytes
  length : Nat
  rspOffset : Nat
  rspState : RespState
  rspDoubleLength : Bool
  rspType : UInt8

/-- The constructor's values. -/
def Receiver.new : Receiver where
  buffer := fun _ => 0x00
  length := 0
  rspOffset := 0
  rspState := .RESP_START
  rspDoubleLength := false
  rspType := 0x01

/-- What a part of `getResponse` came to: a `return`, the end of that part, or an access outside of `m_buffer`. -/
inductive Outcome where
  | returned (type : RespType) (r : Receiver) (p : Port)
  | reached (r : Receiver) (p : Port)
  | overrun

/-- The next part, if the last one came to its end. -/
def Outcome.andThen (o : Outcome) (next : Receiver → Port → Outcome) : Outcome :=
  match o with
  | .reached r p => next r p
  | o => o

namespace Receiver

/-- Octets that a read put into the buffer. -/
def store (buffer : Bytes) (offset : Nat) (octets : List UInt8) : Bytes :=
  memcpy buffer offset (fun i => octets.getD i 0x00) octets.length

/-- `m_port->read(m_buffer + offset, length)`, with the two returns that always stand behind it. -/
def fill (r : Receiver) (p : Port) (offset length : Nat) : Outcome :=
  if BUFFER_LENGTH < offset + length then .overrun
  else
    match p.read length with
    | (none, p) => .returned .RTM_ERROR { r with rspState := .RESP_START } p
    | (some [], p) => .returned .RTM_TIMEOUT r p
    | (some octets, p) => .reached { r with buffer := store r.buffer offset octets } p

/-- The start of the frame. -/
def getStart (r : Receiver) (p : Port) : Outcome :=
  if r.rspState = .RESP_START then
    (r.fill p 0 1).andThen fun r p =>
      if r.buffer 0 ≠ Modem.DVM_FRAME_START then .returned .RTM_ERROR { r with buffer := fun _ => 0x00 } p
      else .reached { r with rspState := .RESP_LENGTH1 } p
  else .reached r p

/-- The length of the frame, 1/2: an invalid one returns as it is. -/
def getLength1 (r : Receiver) (p : Port) : Outcome :=
  if r.rspState = .RESP_LENGTH1 then
    (r.fill p 1 1).andThen fun r p =>
      if r.buffer 1 ≥ 250 then .returned .RTM_ERROR r p
      else
        let r := { r with length := (r.buffer 1).toNat }
        let r := { r with rspState := if r.length = 0 then .RESP_LENGTH2 else .RESP_TYPE }
        .reached { r with rspDoubleLength := false, rspOffset := 2 } p
  else .reached r p

/-- The length of the frame, 2/2. -/
def getLength2 (r : Receiver) (p : Port) : Outcome :=
  if r.rspState = .RESP_LENGTH2 then
    (r.fill p 2 1).andThen fun r p =>
      let r := { r with length := (r.buffer 2).toNat + 255, rspState := .RESP_TYPE }
      .reached { r with rspDoubleLength := true, rspOffset := 3 } p
  else .reached r p

/-- The frame type. -/
def getType (r : Receiver) (p : Port) : Outcome :=
  if r.rspState = .RESP_TYPE then
    (r.fill p r.rspOffset 1).andThen fun r p =>
      .reached { r with rspType := r.buffer r.rspOffset, rspState := .RESP_DATA, rspOffset := r.rspOffset + 1 } p
  else .reached r p

/-- The loop over the frame data: every turn uses up a read of the port. -/
def getData (r : Receiver) (stream : List UInt8) : List (Option Nat) → Outcome
  | [] =>
      if r.rspOffset < r.length then r.fill ⟨stream, []⟩ r.rspOffset (r.length - r.rspOffset)
      else .reached r ⟨stream, []⟩
  | ret :: reads =>
      if r.rspOffset < r.length then
        if BUFFER_LENGTH < r.rspOffset + (r.length - r.rspOffset) then .overrun
        else
          match ret with
          | none => .returned .RTM_ERROR { r with rspState := .RESP_START } ⟨stream, reads⟩
          | some n =>
              let octets := stream.take (min n (r.length - r.rspOffset))
              let rest := stream.drop (min n (r.length - r.rspOffset))
              if octets = [] then .returned .RTM_TIMEOUT r ⟨rest, reads⟩
              else
                getData { r with
                  buffer := store r.buffer r.rspOffset octets
                  rspOffset := r.rspOffset + octets.length } rest reads
      else .reached r ⟨stream, ret :: reads⟩

/-- The frame data. -/
def getFrameData (r : Receiver) (p : Port) : Outcome :=
  if r.rspState = .RESP_DATA then getData r p.stream p.reads else .reached r p

/-- `getResponse`. -/
def getResponse (r : Receiver) (p : Port) : Outcome :=
  let r := { r with rspDoubleLength := false }
  ((((r.getStart p).andThen getLength1).andThen getLength2).andThen getType).andThen getFrameData |>.andThen fun r p =>
    .returned .RTM_OK { r with rspState := .RESP_START, rspOffset := 0 } p

end Receiver

/-! ## The queues -/

/-- The modem behind its receiver: which modes are enabled, and a queue for each of them. -/
structure Modem (dmrQueueSize p25QueueSize nxdnQueueSize : Nat) where
  dmrEnabled : Bool
  p25Enabled : Bool
  nxdnEnabled : Bool
  rxDMRQueue1 : RingBuffer UInt8 dmrQueueSize
  rxDMRQueue2 : RingBuffer UInt8 dmrQueueSize
  rxP25Queue : RingBuffer UInt8 p25QueueSize
  rxNXDNQueue : RingBuffer UInt8 nxdnQueueSize

namespace Modem

/-- A modem with empty queues, and the modes that `setModeParams` enables. -/
def new {dmrQueueSize p25QueueSize nxdnQueueSize : Nat} (hdmr : 0 < dmrQueueSize) (hp25 : 0 < p25QueueSize)
    (hnxdn : 0 < nxdnQueueSize) (dmrEnabled p25Enabled nxdnEnabled : Bool) :
    Modem dmrQueueSize p25QueueSize nxdnQueueSize where
  dmrEnabled := dmrEnabled
  p25Enabled := p25Enabled
  nxdnEnabled := nxdnEnabled
  rxDMRQueue1 := .new _ hdmr
  rxDMRQueue2 := .new _ hdmr
  rxP25Queue := .new _ hp25
  rxNXDNQueue := .new _ hnxdn

/-- A difference of unsigned 32-bit numbers. -/
def sub32 (a b : Nat) : Nat := if b ≤ a then a - b else 2 ^ 32 + a - b

/-- `m_buffer + offset`, so many octets of it. -/
def octetsAt (buffer : Bytes) (offset n : Nat) : List UInt8 := (List.range n).map fun i => buffer (offset + i)

section Queue

variable {size : Nat}

/-- A received frame is queued in three parts: how many octets follow, the tag, and the octets. -/
def queueFrame (q : RingBuffer UInt8 size) (buffer : Bytes) (length : Nat) (tag : UInt8) : RingBuffer UInt8 size :=
  let q := (q.addData [UInt8.ofNat (sub32 length 2)]).2
  let q := (q.addData [tag]).2
  (q.addData (octetsAt buffer 3 (sub32 length 3))).2

/-- A lost frame is queued as a tag. -/
def queueLost (q : RingBuffer UInt8 size) : RingBuffer UInt8 size :=
  let q := (q.addData [1]).2
  (q.addData [TAG_LOST]).2

/-- An injected frame is queued in four parts: the length of the data, the tag, a sync octet and the data. -/
def inject (q : RingBuffer UInt8 size) (sync : UInt8) (data : List UInt8) : RingBuffer UInt8 size :=
  let q := (q.addData [UInt8.ofNat data.length]).2
  let q := (q.addData [TAG_DATA]).2
  let q := (q.addData [sync]).2
  (q.addData data).2

/-- A frame is read as many octets as the one at the head of the queue says: the length that is returned, and what is
    written to the buffer of the caller. -/
def readFrame (q : RingBuffer UInt8 size) : (UInt8 × List UInt8) × RingBuffer UInt8 size :=
  if q.isEmpty then ((0, []), q)
  else
    let len := ((q.peek 1).getD [0]).headD 0
    if q.dataSize ≥ len.toNat then
      let q := (q.get 1).2
      let (data, q) := q.get len.toNat
      ((len, data.getD []), q)
    else ((0, []), q)

end Queue

variable {dmrQueueSize p25QueueSize nxdnQueueSize : Nat}

/-- The tag of a received DMR frame: the end of a transmission has its own. -/
def dmrTag (buffer : Bytes) : UInt8 :=
  if buffer 3 = DMR_SYNC_DATA ||| Dmr.DT_TERMINATOR_WITH_LC then TAG_EOT else TAG_DATA

/-- The cases of `clock` that queue a response. Those of a frame refuse one of double length. -/
def queueResponse (m : Modem dmrQueueSize p25QueueSize nxdnQueueSize) (r : Receiver) :
    Modem dmrQueueSize p25QueueSize nxdnQueueSize :=
  if r.buffer 2 = CMD_DMR_DATA1 then
    if m.dmrEnabled ∧ ¬r.rspDoubleLength then
      { m with rxDMRQueue1 := queueFrame m.rxDMRQueue1 r.buffer r.length (dmrTag r.buffer) }
    else m
  else if r.buffer 2 = CMD_DMR_DATA2 then
    if m.dmrEnabled ∧ ¬r.rspDoubleLength then
      { m with rxDMRQueue2 := queueFrame m.rxDMRQueue2 r.buffer r.length (dmrTag r.buffer) }
    else m
  else if r.buffer 2 = CMD_DMR_LOST1 then
    if m.dmrEnabled ∧ ¬r.rspDoubleLength then { m with rxDMRQueue1 := queueLost m.rxDMRQueue1 } else m
  else if r.buffer 2 = CMD_DMR_LOST2 then
    if m.dmrEnabled ∧ ¬r.rspDoubleLength then { m with rxDMRQueue2 := queueLost m.rxDMRQueue2 } else m
  else if r.buffer 2 = CMD_P25_DATA then
    if m.p25Enabled ∧ ¬r.rspDoubleLength then
      { m with rxP25Queue := queueFrame m.rxP25Queue r.buffer r.length TAG_DATA }
    else m
  else if r.buffer 2 = CMD_P25_LOST then
    if m.p25Enabled ∧ ¬r.rspDoubleLength then { m with rxP25Queue := queueLost m.rxP25Queue } else m
  else if r.buffer 2 = CMD_NXDN_DATA then
    if m.nxdnEnabled ∧ ¬r.rspDoubleLength then
      { m with rxNXDNQueue := queueFrame m.rxNXDNQueue r.buffer r.length TAG_DATA }
    else m
  else if r.buffer 2 = CMD_NXDN_LOST then
    if m.nxdnEnabled ∧ ¬r.rspDoubleLength then { m with rxNXDNQueue := queueLost m.rxNXDNQueue } else m
  else m

/-- The numbers that `clock` and `printDebug` subtract from the length of a response, whose command is the third octet
    in the buffer. -/
def subtracted (m : Modem dmrQueueSize p25QueueSize nxdnQueueSize) (doubleLength : Bool) (command : UInt8) :
    List Nat :=
  if doubleLength then []
  else if command = CMD_DMR_DATA1 ∨ command = CMD_DMR_DATA2 then if m.dmrEnabled then [2, 3] else []
  else if command = CMD_P25_DATA then if m.p25Enabled then [2, 3] else []
  else if command = CMD_NXDN_DATA then if m.nxdnEnabled then [2, 3] else []
  else if command = CMD_DEBUG1 then [3]
  else if command = CMD_DEBUG2 then [2, 1, 5]
  else if command = CMD_DEBUG3 then [4, 3, 2, 1, 7]
  else if command = CMD_DEBUG4 then [6, 5, 4, 3, 2, 1, 9]
  else if command = CMD_DEBUG5 then [8, 7, 6, 5, 4, 3, 2, 1, 11]
  else []

/-- `injectDMRFrame1`. -/
def injectDMRFrame1 (m : Modem dmrQueueSize p25QueueSize nxdnQueueSize) (data : List UInt8) :
    Modem dmrQueueSize p25QueueSize nxdnQueueSize :=
  if m.dmrEnabled then { m with rxDMRQueue1 := inject m.rxDMRQueue1 (DMR_SYNC_VOICE &&& DMR_SYNC_DATA) data } else m

/-- `injectDMRFrame2`. -/
def injectDMRFrame2 (m : Modem dmrQueueSize p25QueueSize nxdnQueueSize) (data : List UInt8) :
    Modem dmrQueueSize p25QueueSize nxdnQueueSize :=
  if m.dmrEnabled then { m with rxDMRQueue2 := inject m.rxDMRQueue2 (DMR_SYNC_VOICE &&& DMR_SYNC_DATA) data } else m

/-- `injectP25Frame`. -/
def injectP25Frame (m : Modem dmrQueueSize p25QueueSize nxdnQueueSize) (data : List UInt8) :
    Modem dmrQueueSize p25QueueSize nxdnQueueSize :=
  if m.p25Enabled then { m with rxP25Queue := inject m.rxP25Queue 0x01 data } else m

/-- `injectNXDNFrame`. -/
def injectNXDNFrame (m : Modem dmrQueueSize p25QueueSize nxdnQueueSize) (data : List UInt8) :
    Modem dmrQueueSize p25QueueSize nxdnQueueSize :=
  if m.nxdnEnabled then { m with rxNXDNQueue := inject m.rxNXDNQueue 0x01 data } else m

/-- `readDMRFrame1`. -/
def readDMRFrame1 (m : Modem dmrQueueSize p25QueueSize nxdnQueueSize) :
    (UInt8 × List UInt8) × Modem dmrQueueSize p25QueueSize nxdnQueueSize :=
  let (ret, q) := readFrame m.rxDMRQueue1
  (ret, { m with rxDMRQueue1 := q })

/-- `readDMRFrame2`. -/
def readDMRFrame2 (m : Modem dmrQueueSize p25QueueSize nxdnQueueSize) :
    (UInt8 × List UInt8) × Modem dmrQueueSize p25QueueSize nxdnQueueSize :=
  let (ret, q) := readFrame m.rxDMRQueue2
  (ret, { m with rxDMRQueue2 := q })

/-- `readP25Frame`. -/
def readP25Frame (m : Modem dmrQueueSize p25QueueSize nxdnQueueSize) :
    (UInt8 × List UInt8) × Modem dmrQueueSize p25QueueSize nxdnQueueSize :=
  let (ret, q) := readFrame m.rxP25Queue
  (ret, { m with rxP25Queue := q })

/-- `readNXDNFrame`. -/
def readNXDNFrame (m : Modem dmrQueueSize p25QueueSize nxdnQueueSize) :
    (UInt8 × List UInt8) × Modem dmrQueueSize p25QueueSize nxdnQueueSize :=
  let (ret, q) := readFrame m.rxNXDNQueue
  (ret, { m with rxNXDNQueue := q })

end Modem

end DvmHost

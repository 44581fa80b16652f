import DvmHost.Common.Defines
import DvmHost.Common.RingBuffer
import DvmHost.Common.Timer

/-!
# `Host.TxQueues` — the transmit queues

`addFrame`, `getFrame` and `peekFrameLength` of `src/host/dmr/Slot.cpp` and `src/host/p25/Control.cpp`. Both keep two
ring buffers, one for frames that are due at once, and put a frame down behind an octet that is its length. They differ
in what keeps a frame out, in the frames, and in what an overflow adds to the ring (`Transmitter`).

A ring is resized only here, and by less than a frame; that `m_length` wraps is left out.
-/

namespace DvmHost

open RPT_NET_STATE

/-! ## One queue -/

/-- `m_txQueue` or `m_txImmQueue`: a ring of a length that changes. -/
structure TxQueue where
  length : Nat
  ring : RingBuffer UInt8 length

namespace TxQueue

/-- `RingBuffer(length, name)`. -/
def new (length : Nat) (hpos : 0 < length) : TxQueue := ⟨length, RingBuffer.new length hpos⟩

/-- `addData`. -/
def addData (q : TxQueue) (buffer : List UInt8) : TxQueue := ⟨q.length, (q.ring.addData buffer).2⟩

/-- `resize`, to more than the length now. -/
def resize (q : TxQueue) (more : Nat) : TxQueue := new (q.length + more) (Nat.add_pos_left q.ring.iPtr.pos more)

/-- The lines of `addFrame` for either queue: `len` is an octet. -/
def write (grow : Nat) (q : TxQueue) (data : List UInt8) (net : Bool) : TxQueue :=
  let space := q.ring.freeSpace
  if space < data.length + 1 then
    if !net then q.resize grow else q
  else
    let len := UInt8.ofNat data.length
    (q.addData [len]).addData (data.take len.toNat)

/-- The lines of `getFrame` for either queue: the length, and what is written to the buffer of the caller. -/
def read (q : TxQueue) : (UInt8 × List UInt8) × TxQueue :=
  let (head, ring) := q.ring.get 1
  let len := (head.getD [0]).headD 0
  let (data, ring) := ring.get len.toNat
  ((len, data.getD []), ⟨q.length, ring⟩)

/-- The lines of `peekFrameLength` for either queue. -/
def peek (q : TxQueue) : UInt8 := ((q.ring.peek 1).getD [0]).headD 0

end TxQueue

/-! ## Both queues -/

/-- Where `Slot` and `Control` differ: what they look at before they take a frame, the frames, which are never empty,
    and what is added to a ring that is short of space. -/
structure Transmitter where
  Gate : Type
  Frame : Type
  octets : Frame → List UInt8
  octets_ne_nil : ∀ f, octets f ≠ []
  refuses : Gate → Bool → Bool
  grow : Nat

/-- The members that the queues work on. -/
structure TxQueues (t : Transmitter) where
  gate : t.Gate
  txImmQueue : TxQueue
  txQueue : TxQueue

namespace TxQueues

variable {t : Transmitter}

/-- `addFrame`. -/
def addFrame (s : TxQueues t) (f : t.Frame) (net imm : Bool) : TxQueues t :=
  if t.refuses s.gate net then s
  else if imm then { s with txImmQueue := s.txImmQueue.write t.grow (t.octets f) net }
  else { s with txQueue := s.txQueue.write t.grow (t.octets f) net }

/-- `getFrame`: the length that is returned, and the octets that are written. -/
def getFrame (s : TxQueues t) : (UInt8 × List UInt8) × TxQueues t :=
  if s.txQueue.ring.isEmpty && s.txImmQueue.ring.isEmpty then ((0, []), s)
  else if !s.txImmQueue.ring.isEmpty then (s.txImmQueue.read.1, { s with txImmQueue := s.txImmQueue.read.2 })
  else (s.txQueue.read.1, { s with txQueue := s.txQueue.read.2 })

/-- `peekFrameLength`. -/
def peekFrameLength (s : TxQueues t) : UInt8 :=
  if s.txQueue.ring.isEmpty && s.txImmQueue.ring.isEmpty then 0
  else if !s.txImmQueue.ring.isEmpty then s.txImmQueue.peek
  else s.txQueue.peek

end TxQueues

namespace Dmr

/-- `class Slot`, as far as it transmits: a frame is a burst behind its two octets, and one of a radio is kept out while
    the network has the slot. -/
def slotTransmitter : Transmitter where
  Gate := RPT_NET_STATE
  Frame := Vector UInt8 35
  octets := Vector.toList
  octets_ne_nil f h := absurd (congrArg List.length h) (by rw [Vector.length_toList]; decide)
  refuses netState net := !net && decide (netState ≠ RS_NET_IDLE)
  grow := 33 + 2

end Dmr

namespace P25

/-- A frame of any length: its tag, an octet that is 0, and the data. -/
structure TxFrame where
  octets : List UInt8
  tagged : 2 ≤ octets.length

/-- The timers that `Control::addFrame` looks at. -/
structure TxTimeouts where
  rfTimeout : Timer
  netTimeout : Timer

/-- `class Control`, as far as it transmits: a frame is kept out behind the timeout of its side. -/
def controlTransmitter : Transmitter where
  Gate := TxTimeouts
  Frame := TxFrame
  octets := TxFrame.octets
  octets_ne_nil f h := absurd f.tagged (by rw [h]; decide)
  refuses timeouts net :=
    if !net then timeouts.rfTimeout.isRunning && timeouts.rfTimeout.hasExpired
    else timeouts.netTimeout.isRunning && timeouts.netTimeout.hasExpired
  grow := 216

end P25

end DvmHost

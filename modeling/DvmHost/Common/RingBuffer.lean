import DvmHost.Lib.Ring

/-!
# `Common.RingBuffer` — the circular buffer of the modem and network queues

`src/common/RingBuffer.h`. Two indices and no count: `iPtr` is where the next element is written, `oPtr`
where the next is read. The length is fixed at construction and positive (the constructor asserts it), so
the indices are `Fin length`. Log messages are left out.
-/

namespace DvmHost

open Lib

/-- `class RingBuffer<T>` of a given length. -/
structure RingBuffer (T : Type) (length : Nat) where
  buffer : Vector T length
  iPtr : Fin length
  oPtr : Fin length

namespace RingBuffer

variable {T : Type} {length : Nat}

/-- `RingBuffer(length, name)`: `default` is the zero-filled element. -/
def new [Inhabited T] (length : Nat) (hpos : 0 < length) : RingBuffer T length :=
  ⟨Vector.replicate length default, ⟨0, hpos⟩, ⟨0, hpos⟩⟩

/-- `freeSpace`. The source's last test, `len > m_length`, never succeeds and is kept. -/
def freeSpace (b : RingBuffer T length) : Nat :=
  let len :=
    if b.oPtr > b.iPtr then b.oPtr.val - b.iPtr.val
    else if b.iPtr > b.oPtr then length - (b.iPtr.val - b.oPtr.val)
    else length
  if len > length then 0 else len

/-- `dataSize`. -/
def dataSize (b : RingBuffer T length) : Nat := length - b.freeSpace

/-- `hasSpace`. -/
def hasSpace (b : RingBuffer T length) (len : Nat) : Bool := b.freeSpace > len

/-- `hasData`. -/
def hasData (b : RingBuffer T length) : Bool := b.oPtr ≠ b.iPtr

/-- `isEmpty`. -/
def isEmpty (b : RingBuffer T length) : Bool := b.oPtr = b.iPtr

/-- `clear`. -/
def clear [Inhabited T] (b : RingBuffer T length) : RingBuffer T length := new length b.iPtr.pos

/-- `m_buffer[m_iPtr++] = x`, wrapping. -/
def push (b : RingBuffer T length) (x : T) : RingBuffer T length :=
  { b with buffer := b.buffer.set b.iPtr x, iPtr := Ring.next b.iPtr }

/-- `addData`. -/
def addData [Inhabited T] (b : RingBuffer T length) (buffer : List T) : Bool × RingBuffer T length :=
  if buffer.length > b.freeSpace then (false, b.clear) else (true, buffer.foldl push b)

/-- The loop of `get`. -/
def getLoop (b : RingBuffer T length) : Nat → List T × RingBuffer T length
  | 0 => ([], b)
  | n + 1 =>
      let (xs, b') := getLoop { b with oPtr := Ring.next b.oPtr } n
      (b.buffer[b.oPtr] :: xs, b')

/-- `get`: the elements read, or `none` for `false`. -/
def get (b : RingBuffer T length) (len : Nat) : Option (List T) × RingBuffer T length :=
  if b.dataSize < len then (none, b)
  else
    let (xs, b') := b.getLoop len
    (some xs, b')

/-- The loop of `peek`. -/
def peekLoop (b : RingBuffer T length) (ptr : Fin length) : Nat → List T
  | 0 => []
  | n + 1 => b.buffer[ptr] :: peekLoop b (Ring.next ptr) n

/-- `peek`. -/
def peek (b : RingBuffer T length) (len : Nat) : Option (List T) :=
  if b.dataSize < len then none else some (b.peekLoop b.oPtr len)

/-! ## The loops are windows -/

/-- The buffer as a function of the cell. -/
def cell (b : RingBuffer T length) (i : Fin length) : T := b.buffer[i]

theorem cell_push (b : RingBuffer T length) (x : T) :
    (b.push x).cell = Function.update b.cell b.iPtr x := by
  funext i
  by_cases h : i = b.iPtr
  · subst h
    rw [Function.update_self]
    exact Vector.getElem_set_self _
  · rw [Function.update_of_ne h]
    exact Vector.getElem_set_ne b.iPtr.isLt i.isLt (fun he => h (Fin.ext he.symm))

theorem getLoop_eq (b : RingBuffer T length) (n : Nat) :
    b.getLoop n = (Ring.window b.cell b.oPtr n, { b with oPtr := Ring.ahead b.oPtr n }) := by
  induction n generalizing b with
  | zero => rfl
  | succ n ih => rw [getLoop, ih]; rfl

theorem peekLoop_eq (b : RingBuffer T length) (ptr : Fin length) (n : Nat) :
    b.peekLoop ptr n = Ring.window b.cell ptr n := by
  induction n generalizing ptr with
  | zero => rfl
  | succ n ih => rw [peekLoop, ih]; rfl

theorem addData_of_gt [Inhabited T] {b : RingBuffer T length} {xs : List T} (h : b.freeSpace < xs.length) :
    b.addData xs = (false, b.clear) := if_pos h

theorem addData_of_le [Inhabited T] {b : RingBuffer T length} {xs : List T} (h : xs.length ≤ b.freeSpace) :
    b.addData xs = (true, xs.foldl push b) := if_neg (Nat.not_lt.mpr h)

theorem get_of_lt {b : RingBuffer T length} {n : Nat} (h : b.dataSize < n) : b.get n = (none, b) := if_pos h

theorem get_of_le {b : RingBuffer T length} {n : Nat} (h : n ≤ b.dataSize) :
    b.get n = (some (Ring.window b.cell b.oPtr n), { b with oPtr := Ring.ahead b.oPtr n }) := by
  unfold get
  rw [if_neg (Nat.not_lt.mpr h), getLoop_eq]

theorem peek_of_lt {b : RingBuffer T length} {n : Nat} (h : b.dataSize < n) : b.peek n = none := if_pos h

theorem peek_of_le {b : RingBuffer T length} {n : Nat} (h : n ≤ b.dataSize) :
    b.peek n = some (Ring.window b.cell b.oPtr n) := by
  unfold peek
  rw [if_neg (Nat.not_lt.mpr h), peekLoop_eq]

/-- What the two indices can tell: the distance from `oPtr` to `iPtr`, which is 0 both for an empty buffer
    and for a full one. -/
theorem dataSize_of_ahead {b : RingBuffer T length} {n : Nat} (h : b.iPtr = Ring.ahead b.oPtr n)
    (hn : n ≤ length) : b.dataSize = if n = length then 0 else n := by
  have hval : b.iPtr.val = (b.oPtr.val + n) % length := by rw [h, Ring.val_ahead]
  have ho := b.oPtr.isLt
  unfold dataSize freeSpace
  simp only [gt_iff_lt, Fin.lt_def]
  rcases Nat.lt_or_ge (b.oPtr.val + n) length with hlt | hge
  · rw [Nat.mod_eq_of_lt hlt] at hval
    split_ifs <;> omega
  · rw [Nat.mod_eq_sub_mod hge, Nat.mod_eq_of_lt (by omega)] at hval
    split_ifs <;> omega

theorem freeSpace_le (b : RingBuffer T length) : b.freeSpace ≤ length := by
  unfold freeSpace
  simp only [gt_iff_lt, Fin.lt_def]
  split_ifs <;> omega

theorem isEmpty_iff (b : RingBuffer T length) : b.isEmpty = true ↔ b.dataSize = 0 := by
  have hi := b.iPtr.isLt
  have ho := b.oPtr.isLt
  unfold isEmpty dataSize freeSpace
  simp only [decide_eq_true_eq, Fin.ext_iff, gt_iff_lt, Fin.lt_def]
  split_ifs <;> omega

end RingBuffer

end DvmHost

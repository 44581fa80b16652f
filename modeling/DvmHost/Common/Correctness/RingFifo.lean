import DvmHost.Lib.Run
import DvmHost.Lib.Ring
import DvmHost.Common.RingBuffer

/-!
# `Common.Correctness.RingFifo` — the ring buffer against the bounded queue

The buffer is run beside the abstract queue of the elements accepted and not yet read (`Lib.Ring`). It
refines the queue when every answer is one the queue allows and the size and emptiness tests are those of
the queue (`Faithful`).

Two indices cannot tell a full buffer from an empty one, and `addData` accepts up to `freeSpace` elements,
so the buffer can be filled exactly and then reads as empty. That is the only way it departs from the queue:
`refines_iff_not_filled`.
-/

namespace DvmHost

namespace RingBuffer

open Lib

variable {T : Type} [Inhabited T] {length : Nat}

/-- One call and its answer. -/
def exec (b : RingBuffer T length) : Fifo.Op T → Fifo.Answer T × RingBuffer T length
  | .add xs => (.added (b.addData xs).1, (b.addData xs).2)
  | .get n => (.yielded (b.get n).1, (b.get n).2)
  | .peek n => (.yielded (b.peek n), b)
  | .clear => (.done, b.clear)

/-- The buffer beside the elements accepted and not yet read. -/
structure Tracked (T : Type) (length : Nat) where
  buf : RingBuffer T length
  pending : List T

/-- A call, labelled with its answer; the queue moves as the answer says. -/
def TrackedStep (s : Tracked T length) (call : Fifo.Op T × Fifo.Answer T) (s' : Tracked T length) : Prop :=
  s.buf.exec call.1 = (call.2, s'.buf) ∧ s'.pending = Fifo.after s.pending call.1 call.2

/-- A new buffer, nothing pending. -/
def Tracked.start (T : Type) [Inhabited T] (length : Nat) (hpos : 0 < length) : Tracked T length :=
  ⟨new length hpos, []⟩

/-- The run of a sequence of calls. -/
def Tracked.runOf (s : Tracked T length) : List (Fifo.Op T) →
    List ((Fifo.Op T × Fifo.Answer T) × Tracked T length)
  | [] => []
  | op :: ops =>
      let (ans, b) := s.buf.exec op
      let s' := ⟨b, Fifo.after s.pending op ans⟩
      ((op, ans), s') :: runOf s' ops

theorem run_runOf (ops : List (Fifo.Op T)) : ∀ s : Tracked T length, Run TrackedStep s (s.runOf ops) := by
  induction ops with
  | nil => intro s; exact .nil
  | cons op ops ih => intro s; exact .cons ⟨rfl, rfl⟩ (ih _)

/-- The size and the emptiness test are those of the queue. -/
structure Faithful (s : Tracked T length) : Prop where
  dataSize : s.buf.dataSize = s.pending.length
  isEmpty : s.buf.isEmpty = true ↔ s.pending = []

/-- The answer of the call is one the queue allows. -/
def Answered (s : Tracked T length) (call : Fifo.Op T × Fifo.Answer T) : Prop :=
  Fifo.Answers s.pending call.1 call.2

/-- **The steps that keep the refinement.** An `addData` does not have exactly as many elements as the
    buffer has cells free. -/
def NotFilled (s : Tracked T length) : Fifo.Op T × Fifo.Answer T → Prop
  | (.add xs, _) => xs.length ≠ s.buf.freeSpace
  | _ => True

/-! ## The representation -/

/-- **The representation invariant.** The pending elements are the window from `oPtr`, and `iPtr` is the
    cell after it. It survives a buffer filled exactly. -/
structure Stored (s : Tracked T length) : Prop where
  bounded : s.pending.length ≤ length
  iPtr : s.buf.iPtr = Ring.ahead s.buf.oPtr s.pending.length
  window : Ring.window s.buf.cell s.buf.oPtr s.pending.length = s.pending

theorem Stored.dataSize {s : Tracked T length} (h : Stored s) :
    s.buf.dataSize = if s.pending.length = length then 0 else s.pending.length :=
  dataSize_of_ahead h.iPtr h.bounded

/-- The tests are right exactly when the buffer is not full. -/
theorem faithful_iff {s : Tracked T length} (h : Stored s) : Faithful s ↔ s.pending.length < length := by
  have hpos : 0 < length := s.buf.iPtr.pos
  constructor
  · intro hf
    have hsize := hf.dataSize
    rw [h.dataSize] at hsize
    have hle := h.bounded
    split at hsize <;> omega
  · intro hlt
    have hsize : s.buf.dataSize = s.pending.length := by
      rw [h.dataSize, if_neg (Nat.ne_of_lt hlt)]
    exact ⟨hsize, by rw [isEmpty_iff, hsize, List.length_eq_zero_iff]⟩

theorem stored_start (hpos : 0 < length) : Stored (Tracked.start T length hpos) :=
  ⟨Nat.zero_le _, rfl, rfl⟩

theorem stored_clear (b : RingBuffer T length) : Stored ⟨b.clear, []⟩ := stored_start b.iPtr.pos

theorem stored_push {b : RingBuffer T length} {q : List T} (h : Stored ⟨b, q⟩) (hroom : q.length < length)
    (x : T) : Stored ⟨b.push x, q ++ [x]⟩ := by
  have hi : b.iPtr = Ring.ahead b.oPtr q.length := h.iPtr
  refine ⟨?_, ?_, ?_⟩
  · show (q ++ [x]).length ≤ length
    rw [List.length_append]
    exact hroom
  · show Ring.next b.iPtr = Ring.ahead b.oPtr (q ++ [x]).length
    rw [hi, List.length_append, ← Ring.ahead_succ]
    rfl
  · show Ring.window (b.push x).cell b.oPtr (q ++ [x]).length = q ++ [x]
    rw [List.length_append, cell_push, hi]
    show Ring.window _ _ (q.length + 1) = _
    rw [Ring.window_update hroom, h.window]

/-- The writing loop of `addData`. -/
theorem stored_pushes (xs : List T) : ∀ {b : RingBuffer T length} {q : List T}, Stored ⟨b, q⟩ →
    q.length + xs.length ≤ length → Stored ⟨xs.foldl push b, q ++ xs⟩ := by
  induction xs with
  | nil => intro b q h _; rw [List.append_nil]; exact h
  | cons x xs ih =>
      intro b q h hroom
      rw [List.length_cons] at hroom
      have hnext := ih (stored_push h (by omega) x) (by rw [List.length_append, List.length_singleton]; omega)
      rw [List.append_assoc] at hnext
      exact hnext

/-! ## The step -/

/-- While the buffer is not full, every call gives an answer of the queue and stores what the queue holds
    next. -/
theorem exec_stored {b : RingBuffer T length} {q : List T} (h : Stored ⟨b, q⟩) (hroom : q.length < length)
    (op : Fifo.Op T) :
    Fifo.Answers q op (b.exec op).1 ∧ Stored ⟨(b.exec op).2, Fifo.after q op (b.exec op).1⟩ := by
  have hsize : b.dataSize = q.length := ((faithful_iff h).mpr hroom).dataSize
  have hwin : Ring.window b.cell b.oPtr q.length = q := h.window
  cases op with
  | add xs =>
      show Fifo.Answers q (.add xs) (.added (b.addData xs).1) ∧
        Stored ⟨(b.addData xs).2, Fifo.after q (.add xs) (.added (b.addData xs).1)⟩
      rcases Nat.lt_or_ge b.freeSpace xs.length with hover | hfits
      · rw [addData_of_gt hover]
        exact ⟨.add _ _, stored_clear b⟩
      · have hfree : b.dataSize = length - b.freeSpace := rfl
        have hle := b.freeSpace_le
        rw [addData_of_le hfits]
        exact ⟨.add _ _, stored_pushes xs h (by omega)⟩
  | get n =>
      show Fifo.Answers q (.get n) (.yielded (b.get n).1) ∧
        Stored ⟨(b.get n).2, Fifo.after q (.get n) (.yielded (b.get n).1)⟩
      rcases Nat.lt_or_ge b.dataSize n with hunder | hle
      · rw [get_of_lt hunder]
        exact ⟨.getUnderflow (by omega), h⟩
      · have hn : n ≤ q.length := by omega
        rw [get_of_le hle, ← Ring.take_window _ _ hn, hwin]
        refine ⟨.get hn, ?_, ?_, ?_⟩
        · show (q.drop n).length ≤ length
          rw [List.length_drop]
          omega
        · show b.iPtr = Ring.ahead (Ring.ahead b.oPtr n) (q.drop n).length
          rw [List.length_drop, ← Ring.ahead_add, Nat.add_sub_cancel' hn]
          exact h.iPtr
        · show Ring.window b.cell (Ring.ahead b.oPtr n) (q.drop n).length = q.drop n
          rw [List.length_drop, ← Ring.drop_window _ _ hn, hwin]
  | peek n =>
      show Fifo.Answers q (.peek n) (.yielded (b.peek n)) ∧ Stored ⟨b, q⟩
      rcases Nat.lt_or_ge b.dataSize n with hunder | hle
      · rw [peek_of_lt hunder]
        exact ⟨.peekUnderflow (by omega), h⟩
      · have hn : n ≤ q.length := by omega
        rw [peek_of_le hle, ← Ring.take_window _ _ hn, hwin]
        exact ⟨.peek hn, h⟩
  | clear => exact ⟨.clear, stored_clear b⟩

/-- A call leaves the buffer not full exactly when it does not fill it. -/
theorem room_after_iff {b : RingBuffer T length} {q : List T} (h : Stored ⟨b, q⟩) (hroom : q.length < length)
    (op : Fifo.Op T) :
    (Fifo.after q op (b.exec op).1).length < length ↔ NotFilled ⟨b, q⟩ (op, (b.exec op).1) := by
  have hsize : b.dataSize = q.length := ((faithful_iff h).mpr hroom).dataSize
  have hfree : b.dataSize = length - b.freeSpace := rfl
  have hle := b.freeSpace_le
  have hpos : 0 < length := b.iPtr.pos
  cases op with
  | add xs =>
      show (Fifo.after q (.add xs) (.added (b.addData xs).1)).length < length ↔ xs.length ≠ b.freeSpace
      rcases Nat.lt_or_ge b.freeSpace xs.length with hover | hfits
      · rw [addData_of_gt hover]
        exact iff_of_true hpos (by omega)
      · rw [addData_of_le hfits]
        show (q ++ xs).length < length ↔ _
        rw [List.length_append]
        omega
  | get n =>
      refine iff_of_true ?_ trivial
      show (Fifo.after q (.get n) (.yielded (b.get n).1)).length < length
      rcases Nat.lt_or_ge b.dataSize n with hunder | hn
      · rw [get_of_lt hunder]
        exact hroom
      · rw [get_of_le hn]
        show (q.drop n).length < length
        rw [List.length_drop]
        omega
  | peek n => exact iff_of_true hroom trivial
  | clear => exact iff_of_true hpos trivial

/-- **The ring buffer refines the bounded queue.** In a run of any calls on a buffer of any positive length,
    every answer is the queue's and every state has the queue's size and emptiness if and only if no
    `addData` fills the buffer exactly. -/
theorem refines_iff_not_filled {hpos : 0 < length}
    {l : List ((Fifo.Op T × Fifo.Answer T) × Tracked T length)}
    (hrun : Run TrackedStep (Tracked.start T length hpos) l) :
    (States Faithful (Tracked.start T length hpos) l ∧ Guarded Answered (Tracked.start T length hpos) l) ↔
      Guarded NotFilled (Tracked.start T length hpos) l := by
  have hstep : ∀ {s : Tracked T length} {call} {s' : Tracked T length}, Stored s → Faithful s →
      TrackedStep s call s' → Answered s call ∧ Stored s' ∧ (Faithful s' ↔ NotFilled s call) := by
    rintro ⟨b, q⟩ ⟨op, ans⟩ ⟨b', q'⟩ hst hf ⟨hexec, hq⟩
    have hroom : q.length < length := (faithful_iff hst).mp hf
    have hans : (b.exec op).1 = ans := congrArg Prod.fst hexec
    have hbuf : (b.exec op).2 = b' := congrArg Prod.snd hexec
    obtain ⟨hallowed, hstored⟩ := exec_stored hst hroom op
    have hcount := room_after_iff hst hroom op
    rw [hans] at hallowed hstored hcount
    rw [hbuf] at hstored
    dsimp only at hq
    subst hq
    exact ⟨hallowed, hstored, (faithful_iff hstored).trans hcount⟩
  have hstart : Stored (Tracked.start T length hpos) := stored_start hpos
  have hfaith : Faithful (Tracked.start T length hpos) := (faithful_iff hstart).mpr hpos
  have hkeep : ∀ {s : Tracked T length} {call} {s' : Tracked T length}, Stored s → Faithful s →
      NotFilled s call → TrackedStep s call s' → Stored s' ∧ Faithful s' :=
    fun hI hP hG hst => ⟨(hstep hI hP hst).2.1, (hstep hI hP hst).2.2.mpr hG⟩
  have hstates := hrun.states_iff_guarded (I := Stored) (P := Faithful) (G := NotFilled) hkeep
    (fun hI hP hst hP' => (hstep hI hP hst).2.2.mp hP') hstart hfaith
  constructor
  · rintro ⟨hs, -⟩
    exact hstates.mp hs
  · intro hg
    have hanswered := hrun.guarded_of_guarded (I := Stored) (P := Faithful) (G := NotFilled) (H := Answered)
      hkeep (fun hI hP hst => (hstep hI hP hst).1) hstart hfaith hg
    exact ⟨hstates.mpr hg, hanswered⟩

/-- A buffer of three cells, two elements written and one read. -/
theorem refines_iff_not_filled_get :
    States Faithful (Tracked.start Nat 3 (by decide))
      (Tracked.runOf (Tracked.start Nat 3 (by decide)) [.add [5, 6], .get 1]) := by
  refine ((refines_iff_not_filled (run_runOf _ _)).mpr ?_).1
  refine ⟨?_, trivial, trivial⟩
  show 2 ≠ freeSpace _
  decide

/-- **A full buffer reads as empty.** A buffer of one cell accepts one element and then has no data. -/
theorem full_is_empty :
    ∃ l, Run TrackedStep (Tracked.start Nat 1 (by decide)) l ∧
      ¬ States Faithful (Tracked.start Nat 1 (by decide)) l := by
  refine ⟨_, run_runOf [.add [5]] _, fun h => ?_⟩
  have hsize := (h.2 _ List.mem_cons_self).dataSize
  exact absurd hsize (by decide)

/-! ## The buffer as a list

What the two indices tell is a list of its own: a buffer filled exactly is an empty one. -/

/-- The elements that the buffer says it holds. -/
def contents (b : RingBuffer T length) : List T := Ring.window b.cell b.oPtr b.dataSize

omit [Inhabited T] in
theorem dataSize_lt (b : RingBuffer T length) : b.dataSize < length := by
  have hi := b.iPtr.isLt
  have ho := b.oPtr.isLt
  unfold dataSize freeSpace
  simp only [gt_iff_lt, Fin.lt_def]
  split_ifs <;> omega

omit [Inhabited T] in
theorem length_contents (b : RingBuffer T length) : b.contents.length = b.dataSize := Ring.length_window _ _ _

omit [Inhabited T] in
theorem iPtr_eq (b : RingBuffer T length) : b.iPtr = Ring.ahead b.oPtr b.dataSize := by
  have hi := b.iPtr.isLt
  have ho := b.oPtr.isLt
  have hmod : ∀ n < 2 * length, n % length = if n < length then n else n - length := by
    intro n hn
    split
    · next hlt => exact Nat.mod_eq_of_lt hlt
    · next hge => rw [Nat.mod_eq_sub_mod (by omega), Nat.mod_eq_of_lt (by omega)]
  have hlt := b.dataSize_lt
  apply Fin.ext
  rw [Ring.val_ahead, hmod _ (by omega)]
  unfold dataSize freeSpace
  simp only [gt_iff_lt, Fin.lt_def]
  split_ifs <;> omega

theorem stored_contents (b : RingBuffer T length) : Stored ⟨b, b.contents⟩ := by
  refine ⟨?_, ?_, ?_⟩
  · rw [length_contents]
    exact Nat.le_of_lt b.dataSize_lt
  · rw [length_contents]
    exact b.iPtr_eq
  · rw [length_contents]
    rfl

theorem Stored.contents_eq {b : RingBuffer T length} {q : List T} (h : Stored ⟨b, q⟩) (hroom : q.length < length) :
    b.contents = q := by
  have hsize : b.dataSize = q.length := ((faithful_iff h).mpr hroom).dataSize
  unfold contents
  rw [hsize]
  exact h.window

/-- **What `addData` leaves**: everything, or nothing of the buffer if that is then full or was short of space. -/
theorem contents_addData (b : RingBuffer T length) (xs : List T) : (b.addData xs).2.contents =
    if b.contents.length + xs.length < length then b.contents ++ xs else [] := by
  have hlt := b.dataSize_lt
  have hfree : b.dataSize = length - b.freeSpace := rfl
  have hle := b.freeSpace_le
  have hempty : ∀ {b' : RingBuffer T length}, b'.dataSize = 0 → b'.contents = [] :=
    fun h => List.eq_nil_of_length_eq_zero ((length_contents _).trans h)
  rw [length_contents]
  rcases Nat.lt_or_ge b.freeSpace xs.length with hover | hfits
  · rw [addData_of_gt hover, if_neg (by omega)]
    exact (stored_clear b).contents_eq b.iPtr.pos
  · rw [addData_of_le hfits]
    have hstored := stored_pushes xs (stored_contents b) (by rw [length_contents]; omega)
    split
    · next hroom =>
        refine hstored.contents_eq ?_
        rw [List.length_append, length_contents]
        exact hroom
    · next hfull =>
        refine hempty ?_
        rw [hstored.dataSize, if_pos]
        show (b.contents ++ xs).length = length
        rw [List.length_append, length_contents]
        omega

/-- **What `get` reads and leaves.** -/
theorem contents_get (b : RingBuffer T length) {n : Nat} (hn : n ≤ b.contents.length) :
    (b.get n).1 = some (b.contents.take n) ∧ (b.get n).2.contents = b.contents.drop n := by
  have hroom : b.contents.length < length := (length_contents b).symm ▸ b.dataSize_lt
  obtain ⟨-, hstored⟩ := exec_stored (stored_contents b) hroom (.get n)
  have hget := get_of_le (b := b) (n := n) ((length_contents b).symm ▸ hn)
  have hread : (b.get n).1 = some (b.contents.take n) := by
    rw [hget]
    exact congrArg some (Ring.take_window _ _ ((length_contents b).symm ▸ hn)).symm
  refine ⟨hread, ?_⟩
  have hafter : Fifo.after b.contents (.get n) (b.exec (.get n)).1 = b.contents.drop n := by
    show Fifo.after b.contents (.get n) (.yielded (b.get n).1) = _
    rw [hread]
    rfl
  rw [hafter] at hstored
  exact hstored.contents_eq (Nat.lt_of_le_of_lt (by rw [List.length_drop]; exact Nat.sub_le _ _) hroom)

omit [Inhabited T] in
theorem contents_peek (b : RingBuffer T length) {n : Nat} (hn : n ≤ b.contents.length) :
    b.peek n = some (b.contents.take n) := by
  rw [length_contents] at hn
  rw [peek_of_le hn]
  exact congrArg some (Ring.take_window _ _ hn).symm

omit [Inhabited T] in
theorem isEmpty_iff_contents (b : RingBuffer T length) : b.isEmpty = true ↔ b.contents = [] := by
  rw [isEmpty_iff, ← length_contents, List.length_eq_zero_iff]

end RingBuffer

end DvmHost

import DvmHost.Host.Modem.Correctness.QueueAlignment
import DvmHost.Host.TxQueues
import Mathlib.Data.List.GetD

/-!
# `Host.Correctness.QueueDiscipline` — what is transmitted is what was queued

The queues run beside the two lists of frames that were accepted and not yet read (`Queued`). They keep the discipline
when `getFrame`, called as often as one likes, yields these frames and no others, the immediate ones first (`Delivers`).

An overflow of the radio side resizes the ring, which empties it; a frame that fits exactly fills the ring, which then
reads as empty; and a length of 256 or more does not fit its octet. Nothing else goes wrong: `delivers_iff`.
-/

namespace DvmHost

open Lib
open Modem (encode encode_concat Aligned)

/-! ## One queue -/

namespace TxQueue

/-- The octets that the ring says it holds. -/
def contents (q : TxQueue) : List UInt8 := q.ring.contents

theorem contents_addData (q : TxQueue) (buffer : List UInt8) : (q.addData buffer).contents =
    if q.contents.length + buffer.length < q.length then q.contents ++ buffer else [] :=
  q.ring.contents_addData buffer

theorem contents_resize (q : TxQueue) (more : Nat) : (q.resize more).contents = [] :=
  (RingBuffer.stored_start _).contents_eq (Nat.add_pos_left q.ring.iPtr.pos more)

theorem freeSpace_eq (q : TxQueue) : q.ring.freeSpace + q.contents.length = q.length := by
  have hsize : q.ring.dataSize = q.length - q.ring.freeSpace := rfl
  have hle := q.ring.freeSpace_le
  have hlen := q.ring.length_contents
  unfold contents
  omega

theorem isEmpty_iff (q : TxQueue) : q.ring.isEmpty = true ↔ q.contents = [] := q.ring.isEmpty_iff_contents

theorem isEmpty_of_aligned_cons {q : TxQueue} {f : List UInt8} {fs : List (List UInt8)}
    (h : Aligned q.contents (f :: fs)) : q.ring.isEmpty = false := by
  rw [Bool.eq_false_iff]
  intro hempty
  have hcons : q.contents = UInt8.ofNat f.length :: (f ++ encode fs) := h.1
  rw [q.isEmpty_iff.mp hempty] at hcons
  exact absurd hcons (List.cons_ne_nil _ _).symm

/-- **A read** of a queue that holds frames yields the first of them. -/
theorem read_aligned {q : TxQueue} {f : List UInt8} {fs : List (List UInt8)} (h : Aligned q.contents (f :: fs)) :
    q.read.1 = (UInt8.ofNat f.length, f) ∧ Aligned q.read.2.contents fs := by
  obtain ⟨hcontents, hshort⟩ := h
  have hcons : q.ring.contents = UInt8.ofNat f.length :: (f ++ encode fs) := hcontents
  have hcount : (UInt8.ofNat f.length).toNat = f.length := by
    rw [UInt8.toNat_ofNat', Nat.mod_eq_of_lt (hshort f List.mem_cons_self)]
  have hone : 1 ≤ q.ring.contents.length := by
    rw [hcons]
    exact Nat.succ_le_succ (Nat.zero_le _)
  obtain ⟨hhead, hpopped⟩ := q.ring.contents_get hone
  rw [hcons] at hhead hpopped
  have hrest : (q.ring.get 1).2.contents = f ++ encode fs := hpopped
  obtain ⟨hdata, hleft⟩ := (q.ring.get 1).2.contents_get (n := f.length) (by
    rw [hrest, List.length_append]
    exact Nat.le_add_right _ _)
  rw [hrest, List.take_left] at hdata
  rw [hrest, List.drop_left] at hleft
  have hlen : (((q.ring.get 1).1.getD [0]).headD 0) = UInt8.ofNat f.length := by
    rw [hhead]
    rfl
  unfold read
  dsimp only
  rw [hlen, hcount]
  refine ⟨?_, hleft, fun r hr => hshort r (List.mem_cons_of_mem f hr)⟩
  show (UInt8.ofNat f.length, ((q.ring.get 1).2.get f.length).1.getD []) = _
  rw [hdata]
  rfl

/-- A frame that is short of space on the radio side empties the queue. -/
theorem contents_write_overflow (grow : Nat) {q : TxQueue} {data : List UInt8}
    (hspace : q.ring.freeSpace < data.length + 1) : (q.write grow data false).contents = [] := by
  unfold write
  rw [if_pos hspace]
  exact q.contents_resize grow

/-- A frame that is short of space on the network side is dropped alone. -/
theorem write_net_overflow (grow : Nat) {q : TxQueue} {data : List UInt8} (hspace : q.ring.freeSpace < data.length + 1) :
    q.write grow data true = q := by
  unfold write
  rw [if_pos hspace]
  rfl

/-- **A frame that there is space for** is put down behind its length, as far as the octet counts it; unless it fills
    the ring, which is then empty. -/
theorem contents_write (grow : Nat) {q : TxQueue} {data : List UInt8} (hspace : ¬ q.ring.freeSpace < data.length + 1)
    (hdata : data ≠ []) (net : Bool) :
    (q.write grow data net).contents =
      if data.length < 256 ∧ data.length + 1 = q.ring.freeSpace then []
      else q.contents ++ UInt8.ofNat data.length :: data.take (data.length % 256) := by
  have hfree := q.freeSpace_eq
  have hpos := List.length_pos_of_ne_nil hdata
  have hcount : (UInt8.ofNat data.length).toNat = data.length % 256 := UInt8.toNat_ofNat'
  have hmod : data.length % 256 ≤ data.length := Nat.mod_le _ _
  unfold write
  rw [if_neg hspace]
  dsimp only
  have hprefix : (q.addData [UInt8.ofNat data.length]).contents = q.contents ++ [UInt8.ofNat data.length] := by
    rw [contents_addData, List.length_singleton, if_pos (by omega)]
  rw [hcount, contents_addData, hprefix, List.length_append, List.length_singleton, List.length_take,
    Nat.min_eq_left hmod]
  show (if q.contents.length + 1 + data.length % 256 < q.length then _ else _) = _
  by_cases hfilled : data.length < 256 ∧ data.length + 1 = q.ring.freeSpace
  · rw [if_pos hfilled, Nat.mod_eq_of_lt hfilled.1, if_neg (by omega)]
  · rw [if_neg hfilled, if_pos (by omega), List.append_assoc]
    rfl

end TxQueue

/-! ## Both queues -/

namespace TxQueues

variable {t : Transmitter}

/-- The queues hold these frames. -/
structure Holds (s : TxQueues t) (imm normal : List (List UInt8)) : Prop where
  imm : Aligned s.txImmQueue.contents imm
  normal : Aligned s.txQueue.contents normal

/-- What `getFrame` returns for a frame, and what it returns where there is none. -/
def answer (f : List UInt8) : UInt8 × List UInt8 := (UInt8.ofNat f.length, f)

/-- What calls of `getFrame` return, one after the other. -/
def drain (s : TxQueues t) : Nat → List (UInt8 × List UInt8)
  | 0 => []
  | n + 1 => s.getFrame.1 :: drain s.getFrame.2 n

/-- These frames, and then nothing. -/
def expected (frames : List (List UInt8)) (n : Nat) : List (UInt8 × List UInt8) :=
  (List.range n).map fun i => answer (frames.getD i [])

theorem expected_succ (frames : List (List UInt8)) (n : Nat) :
    expected frames (n + 1) = answer (frames.headD []) :: expected frames.tail n := by
  unfold expected
  rw [List.range_succ_eq_map, List.map_cons, List.map_map]
  cases frames <;> rfl

/-- **The peek is the length of the next frame**, whatever the rings hold. -/
theorem peekFrameLength_eq (s : TxQueues t) : s.peekFrameLength = s.getFrame.1.1 := by
  have hqueue : ∀ q : TxQueue, q.ring.isEmpty = false → q.peek = q.read.1.1 := by
    intro q hq
    have hone : 1 ≤ q.ring.contents.length := by
      have hne : q.contents ≠ [] := fun h => by rw [q.isEmpty_iff.mpr h] at hq; exact Bool.noConfusion hq
      exact List.length_pos_of_ne_nil hne
    unfold TxQueue.peek TxQueue.read
    rw [q.ring.contents_peek hone]
    dsimp only
    rw [(q.ring.contents_get hone).1]
  unfold peekFrameLength getFrame
  by_cases himm : s.txImmQueue.ring.isEmpty = true
  · by_cases hnormal : s.txQueue.ring.isEmpty = true
    · simp [himm, hnormal]
    · simp [himm, hnormal, hqueue s.txQueue (Bool.eq_false_iff.mpr hnormal)]
  · simp [himm, hqueue s.txImmQueue (Bool.eq_false_iff.mpr himm)]

/-- **One call** on queues that hold frames yields the first, and they hold the others. -/
theorem getFrame_of_holds {s : TxQueues t} {imm normal : List (List UInt8)} (h : Holds s imm normal) :
    s.getFrame.1 = answer ((imm ++ normal).headD []) ∧
      Holds s.getFrame.2 imm.tail (if imm = [] then normal.tail else normal) := by
  unfold getFrame
  cases imm with
  | cons f imm =>
      obtain ⟨hread, hleft⟩ := TxQueue.read_aligned h.imm
      rw [TxQueue.isEmpty_of_aligned_cons h.imm, Bool.and_false, if_neg Bool.false_ne_true,
        if_pos (show (!false) = true from rfl)]
      exact ⟨hread, hleft, h.normal⟩
  | nil =>
      have himm : s.txImmQueue.ring.isEmpty = true := s.txImmQueue.isEmpty_iff.mpr h.imm.1
      cases normal with
      | cons f normal =>
          obtain ⟨hread, hleft⟩ := TxQueue.read_aligned h.normal
          rw [TxQueue.isEmpty_of_aligned_cons h.normal, himm, Bool.false_and, if_neg Bool.false_ne_true,
            if_neg (show ¬ (!true) = true from Bool.false_ne_true)]
          exact ⟨hread, h.imm, hleft⟩
      | nil =>
          have hnormal : s.txQueue.ring.isEmpty = true := s.txQueue.isEmpty_iff.mpr h.normal.1
          rw [hnormal, himm, if_pos (show (true && true) = true from rfl)]
          exact ⟨rfl, h⟩

theorem drain_of_holds {s : TxQueues t} {imm normal : List (List UInt8)} (h : Holds s imm normal) (n : Nat) :
    s.drain n = expected (imm ++ normal) n := by
  induction n generalizing s imm normal with
  | zero => rfl
  | succ n ih =>
      obtain ⟨hfirst, hrest⟩ := getFrame_of_holds h
      rw [drain, hfirst, ih hrest, expected_succ]
      cases imm <;> rfl

/-! ## Runs -/

/-- A call; `gate` is whatever happens to the timers and to the state of the network. -/
inductive Call (t : Transmitter) where
  | add (f : t.Frame) (net imm : Bool)
  | get
  | peek
  | gate (g : t.Gate)

/-- The queues beside the frames that were accepted and not yet read. -/
structure Queued (t : Transmitter) where
  tx : TxQueues t
  imm : List t.Frame
  normal : List t.Frame

namespace Queued

/-- The queue that a frame goes to. -/
def target (s : Queued t) (imm : Bool) : TxQueue := if imm then s.tx.txImmQueue else s.tx.txQueue

/-- A frame is accepted that is not refused and that there is space for. -/
def accepts (s : Queued t) (f : t.Frame) (net imm : Bool) : Bool :=
  !t.refuses s.tx.gate net && !decide ((s.target imm).ring.freeSpace < (t.octets f).length + 1)

/-- A call. A frame that is read is the first of the immediate ones, or of the others if there are none. -/
def exec (s : Queued t) : Call t → Queued t
  | .add f net imm =>
      { tx := s.tx.addFrame f net imm
        imm := if s.accepts f net imm && imm then s.imm ++ [f] else s.imm
        normal := if s.accepts f net imm && !imm then s.normal ++ [f] else s.normal }
  | .get => { tx := s.tx.getFrame.2, imm := s.imm.tail, normal := if s.imm = [] then s.normal.tail else s.normal }
  | .peek => s
  | .gate g => { s with tx := { s.tx with gate := g } }

/-- **The discipline.** Read as often as one likes, the queues yield the frames that were accepted, whole and in their
    order, the immediate ones first. -/
def Delivers (s : Queued t) : Prop := ∀ n, s.tx.drain n = expected ((s.imm ++ s.normal).map t.octets) n

/-- **The calls that keep the discipline.** A frame that is short of space comes from the network, or finds the queue
    empty; and one that is not has a length that fits an octet, and leaves a cell free. -/
def Spares (s : Queued t) : Call t → Prop
  | .add f net imm =>
      t.refuses s.tx.gate net = true ∨
        if (s.target imm).ring.freeSpace < (t.octets f).length + 1 then
          net = true ∨ (s.target imm).ring.isEmpty = true
        else (t.octets f).length < 256 ∧ (t.octets f).length + 1 ≠ (s.target imm).ring.freeSpace
  | _ => True

/-! ## What the queues hold -/

/-- The queues hold what they should. -/
def Held (s : Queued t) : Prop := Holds s.tx (s.imm.map t.octets) (s.normal.map t.octets)

theorem Held.delivers {s : Queued t} (h : Held s) : Delivers s := by
  intro n
  rw [drain_of_holds h, List.map_append]

/-- What is held and what should be are the same frames, as far as `getFrame` shows. -/
theorem getD_eq_of_delivers {s : Queued t} {imm normal : List (List UInt8)} (h : Holds s.tx imm normal)
    (hdelivers : Delivers s) (i : Nat) :
    (imm ++ normal).getD i [] = ((s.imm ++ s.normal).map t.octets).getD i [] := by
  have hdrain := hdelivers (i + 1)
  rw [drain_of_holds h] at hdrain
  unfold expected at hdrain
  rw [List.map_inj_left] at hdrain
  exact congrArg Prod.snd (hdrain i (List.mem_range.mpr (Nat.lt_succ_self i)))

/-- No frame is missing where the discipline is kept. -/
theorem length_le_of_delivers {s : Queued t} {imm normal : List (List UInt8)} (h : Holds s.tx imm normal)
    (hdelivers : Delivers s) : (s.imm ++ s.normal).length ≤ (imm ++ normal).length := by
  by_contra hless
  have hi : (imm ++ normal).length < ((s.imm ++ s.normal).map t.octets).length := by
    rw [List.length_map]
    omega
  have hsame := getD_eq_of_delivers h hdelivers (imm ++ normal).length
  rw [List.getD_eq_default _ _ (Nat.le_refl _), List.getD_eq_getElem _ _ hi, List.getElem_map] at hsame
  exact t.octets_ne_nil _ hsame.symm

/-- With as many frames on both sides, they are the same. -/
theorem eq_of_delivers {s : Queued t} {imm normal : List (List UInt8)} (h : Holds s.tx imm normal)
    (hdelivers : Delivers s) (hlength : (imm ++ normal).length = (s.imm ++ s.normal).length) :
    imm ++ normal = (s.imm ++ s.normal).map t.octets := by
  refine List.ext_getElem (by rw [List.length_map, hlength]) fun i hi hi' => ?_
  have hsame := getD_eq_of_delivers h hdelivers i
  rwa [List.getD_eq_getElem _ _ hi, List.getD_eq_getElem _ _ hi'] at hsame

/-! ## The step -/

theorem aligned_nil_iff {frames : List (List UInt8)} : Aligned [] frames ↔ frames = [] := by
  constructor
  · rintro ⟨hempty, -⟩
    cases frames with
    | nil => rfl
    | cons f fs => exact absurd hempty (List.cons_ne_nil _ _).symm
  · rintro rfl
    exact ⟨rfl, fun _ hr => nomatch hr⟩

/-- The frames of a queue. -/
def pending (s : Queued t) (imm : Bool) : List (List UInt8) :=
  if imm then s.imm.map t.octets else s.normal.map t.octets

theorem Held.target {s : Queued t} (h : Held s) (imm : Bool) : Aligned (s.target imm).contents (s.pending imm) := by
  cases imm with
  | true => exact h.imm
  | false => exact h.normal

/-- A frame that is not refused is written to its queue, and the other queue is as it was. -/
theorem holds_add {s : Queued t} (h : Held s) {f : t.Frame} {net imm : Bool} (hopen : t.refuses s.tx.gate net = false)
    {frames : List (List UInt8)} (hwritten : Aligned ((s.target imm).write t.grow (t.octets f) net).contents frames) :
    Holds (s.exec (.add f net imm)).tx (if imm then frames else s.imm.map t.octets)
      (if imm then s.normal.map t.octets else frames) := by
  show Holds (s.tx.addFrame f net imm) _ _
  unfold addFrame
  rw [hopen, if_neg Bool.false_ne_true]
  cases imm with
  | true => exact ⟨hwritten, h.normal⟩
  | false => exact ⟨h.imm, hwritten⟩

/-- The frames behind a call of `addFrame`. -/
theorem pending_add (s : Queued t) (f : t.Frame) (net imm : Bool) :
    ((s.exec (.add f net imm)).imm.map t.octets, (s.exec (.add f net imm)).normal.map t.octets) =
      (if imm then s.pending true ++ (if s.accepts f net imm then [t.octets f] else []) else s.imm.map t.octets,
        if imm then s.normal.map t.octets else
          s.pending false ++ (if s.accepts f net imm then [t.octets f] else [])) := by
  unfold exec pending
  cases imm
  · cases haccepts : s.accepts f net false <;> simp [haccepts]
  · cases haccepts : s.accepts f net true <;> simp [haccepts]

/-- **The frame is dropped alone, or kept whole**: then the queues hold what they should. -/
theorem held_add {s : Queued t} (h : Held s) {f : t.Frame} {net imm : Bool} (hopen : t.refuses s.tx.gate net = false)
    (hwritten : Aligned ((s.target imm).write t.grow (t.octets f) net).contents
      (s.pending imm ++ if s.accepts f net imm then [t.octets f] else [])) : Held (s.exec (.add f net imm)) := by
  have hholds := holds_add h hopen hwritten
  obtain ⟨himm, hnormal⟩ := Prod.mk.inj (pending_add s f net imm)
  unfold Held
  rw [himm, hnormal]
  cases imm <;> exact hholds

/-- **The queue is emptied while a frame should be there**: then some frame is never read. -/
theorem not_delivers_of_emptied {s : Queued t} (h : Held s) {f : t.Frame} {net imm : Bool}
    (hopen : t.refuses s.tx.gate net = false)
    (hemptied : ((s.target imm).write t.grow (t.octets f) net).contents = [])
    (hpending : s.pending imm ++ (if s.accepts f net imm then [t.octets f] else []) ≠ []) :
    ¬ Delivers (s.exec (.add f net imm)) := by
  intro hdelivers
  have hholds := holds_add h hopen (hemptied ▸ aligned_nil_iff.mpr rfl)
  have hle := length_le_of_delivers hholds hdelivers
  have hpos := List.length_pos_of_ne_nil hpending
  obtain ⟨himm, hnormal⟩ := Prod.mk.inj (pending_add s f net imm)
  have himm' := congrArg List.length himm
  have hnormal' := congrArg List.length hnormal
  rw [List.length_map] at himm' hnormal'
  rw [List.length_append, List.length_append, himm', hnormal'] at hle
  cases imm
  · rw [if_neg Bool.false_ne_true, if_neg Bool.false_ne_true, if_neg Bool.false_ne_true, if_neg Bool.false_ne_true,
      List.length_nil] at hle
    omega
  · rw [if_pos rfl, if_pos rfl, if_pos rfl, if_pos rfl, List.length_nil] at hle
    omega

/-- **A frame whose length does not fit its octet** is cut short. -/
theorem not_delivers_of_long {s : Queued t} (h : Held s) {f : t.Frame} {net imm : Bool}
    (haccepts : s.accepts f net imm = true) (hopen : t.refuses s.tx.gate net = false)
    (hlong : 256 ≤ (t.octets f).length)
    (hwritten : ((s.target imm).write t.grow (t.octets f) net).contents = (s.target imm).contents ++
      UInt8.ofNat (t.octets f).length :: (t.octets f).take ((t.octets f).length % 256)) :
    ¬ Delivers (s.exec (.add f net imm)) := by
  intro hdelivers
  have hcut : ((t.octets f).take ((t.octets f).length % 256)).length = (t.octets f).length % 256 := by
    rw [List.length_take, Nat.min_eq_left (Nat.mod_le _ _)]
  have hshort : (t.octets f).length % 256 < 256 := Nat.mod_lt _ (by decide)
  have haligned : Aligned ((s.target imm).write t.grow (t.octets f) net).contents
      (s.pending imm ++ [(t.octets f).take ((t.octets f).length % 256)]) := by
    refine ⟨?_, fun r hr => ?_⟩
    · rw [hwritten, encode_concat, (h.target imm).1, hcut]
      congr 2
      exact UInt8.toNat_inj.mp (by rw [UInt8.toNat_ofNat', UInt8.toNat_ofNat', Nat.mod_mod])
    · rcases List.mem_append.mp hr with hold | hnew
      · exact (h.target imm).2 r hold
      · rw [List.mem_singleton.mp hnew, hcut]
        exact hshort
  have hholds := holds_add h hopen haligned
  obtain ⟨himm, hnormal⟩ := Prod.mk.inj (pending_add s f net imm)
  have hsame := eq_of_delivers hholds hdelivers (by
    have himm' := congrArg List.length himm
    have hnormal' := congrArg List.length hnormal
    rw [List.length_map] at himm' hnormal'
    rw [List.length_append, List.length_append, himm', hnormal', haccepts]
    cases imm <;> simp [pending])
  rw [List.map_append, himm, hnormal, haccepts] at hsame
  have hframe : (t.octets f).take ((t.octets f).length % 256) = t.octets f := by
    cases imm <;> simpa [pending] using hsame
  have hlength := congrArg List.length hframe
  omega

/-- **A call that spares the queues** keeps what they hold. -/
theorem held_of_spares {s : Queued t} (h : Held s) {f : t.Frame} {net imm : Bool}
    (hopen : t.refuses s.tx.gate net = false) (hspares : Spares s (.add f net imm)) :
    Held (s.exec (.add f net imm)) := by
  have htarget := h.target imm
  refine held_add h hopen ?_
  rcases hspares with hrefused | hspares
  · rw [hopen] at hrefused
    exact Bool.noConfusion hrefused
  · by_cases hspace : (s.target imm).ring.freeSpace < (t.octets f).length + 1
    · have haccepts : s.accepts f net imm = false := by
        unfold accepts
        rw [decide_eq_true hspace, Bool.not_true, Bool.and_false]
      rw [if_pos hspace] at hspares
      rw [haccepts, if_neg Bool.false_ne_true, List.append_nil]
      cases net with
      | true =>
          rw [TxQueue.write_net_overflow _ hspace]
          exact htarget
      | false =>
          -- an empty queue has nothing to lose
          have hempty := (s.target imm).isEmpty_iff.mp (hspares.resolve_left Bool.false_ne_true)
          rw [TxQueue.contents_write_overflow _ hspace, aligned_nil_iff]
          rwa [hempty, aligned_nil_iff] at htarget
    · have haccepts : s.accepts f net imm = true := by
        unfold accepts
        rw [hopen, decide_eq_false hspace]
        rfl
      rw [if_neg hspace] at hspares
      rw [haccepts, if_pos rfl, TxQueue.contents_write _ hspace (t.octets_ne_nil f), if_neg fun hfilled =>
        hspares.2 hfilled.2, Nat.mod_eq_of_lt hspares.1, List.take_length]
      refine ⟨by rw [encode_concat, htarget.1], fun r hr => ?_⟩
      rcases List.mem_append.mp hr with hold | hnew
      · exact htarget.2 r hold
      · rw [List.mem_singleton.mp hnew]
        exact hspares.1

/-- **A call that does not spare the queues** breaks the discipline. -/
theorem spares_of_delivers {s : Queued t} (h : Held s) {f : t.Frame} {net imm : Bool}
    (hopen : t.refuses s.tx.gate net = false) (hdelivers : Delivers (s.exec (.add f net imm))) :
    Spares s (.add f net imm) := by
  refine .inr ?_
  by_cases hspace : (s.target imm).ring.freeSpace < (t.octets f).length + 1
  · rw [if_pos hspace]
    cases net with
    | true => exact .inl rfl
    | false =>
        refine .inr (by_contra fun hnonempty => ?_)
        refine not_delivers_of_emptied h hopen (TxQueue.contents_write_overflow _ hspace) (fun hnil => hnonempty ?_)
          hdelivers
        have hpending : s.pending imm = [] := (List.append_eq_nil_iff.mp hnil).1
        have htarget := h.target imm
        rw [hpending] at htarget
        exact (s.target imm).isEmpty_iff.mpr htarget.1
  · have haccepts : s.accepts f net imm = true := by
      unfold accepts
      rw [hopen, decide_eq_false hspace]
      rfl
    have hwritten := TxQueue.contents_write t.grow hspace (t.octets_ne_nil f) net
    rw [if_neg hspace]
    have hshort : (t.octets f).length < 256 := by
      by_contra hlong
      rw [if_neg fun hfilled => hlong hfilled.1] at hwritten
      exact not_delivers_of_long h haccepts hopen (Nat.le_of_not_lt hlong) hwritten hdelivers
    refine ⟨hshort, fun hfilled => ?_⟩
    rw [if_pos ⟨hshort, hfilled⟩] at hwritten
    refine not_delivers_of_emptied h hopen hwritten (fun hnil => ?_) hdelivers
    rw [haccepts, if_pos rfl] at hnil
    exact absurd (List.append_eq_nil_iff.mp hnil).2 (List.cons_ne_nil _ _)

/-- What is refused changes nothing. -/
theorem exec_refused {s : Queued t} {f : t.Frame} {net imm : Bool} (hrefused : t.refuses s.tx.gate net = true) :
    s.exec (.add f net imm) = s := by
  unfold exec addFrame accepts
  simp [hrefused]

theorem held_exec {s : Queued t} (h : Held s) {call : Call t} (hspares : Spares s call) : Held (s.exec call) := by
  cases call with
  | get =>
      have hrest := (getFrame_of_holds h).2
      show Holds s.tx.getFrame.2 (s.imm.tail.map t.octets) ((if s.imm = [] then s.normal.tail else s.normal).map t.octets)
      cases himm : s.imm with
      | nil => simpa [himm] using hrest
      | cons f imm => simpa [himm] using hrest
  | peek => exact h
  | gate g => exact ⟨h.imm, h.normal⟩
  | add f net imm =>
      cases hopen : t.refuses s.tx.gate net with
      | true =>
          rw [exec_refused hopen]
          exact h
      | false => exact held_of_spares h hopen hspares

theorem spares_of_delivers_exec {s : Queued t} (h : Held s) {call : Call t} (hdelivers : Delivers (s.exec call)) :
    Spares s call := by
  cases call with
  | add f net imm =>
      cases hopen : t.refuses s.tx.gate net with
      | true => exact .inl hopen
      | false => exact spares_of_delivers h hopen hdelivers
  | _ => trivial

/-- A call as a step. -/
def step (s : Queued t) (call : Call t) (s' : Queued t) : Prop := s' = s.exec call

theorem run_exec (s : Queued t) (calls : List (Call t)) : Run step s (trace exec s calls) :=
  run_trace (fun s call => show step s call (s.exec call) from rfl) calls s

/-- Queues as they are made, of any length. -/
def start (t : Transmitter) (gate : t.Gate) (size : Nat) (hpos : 0 < size) : Queued t :=
  ⟨⟨gate, .new size hpos, .new size hpos⟩, [], []⟩

theorem held_start (gate : t.Gate) {size : Nat} (hpos : 0 < size) : Held (start t gate size hpos) := by
  have hempty : (TxQueue.new size hpos).contents = [] := (RingBuffer.stored_start hpos).contents_eq hpos
  exact ⟨hempty ▸ aligned_nil_iff.mpr rfl, hempty ▸ aligned_nil_iff.mpr rfl⟩

/-- The first frame, where the ring has space for it. -/
theorem spares_start_iff (gate : t.Gate) {size : Nat} (hpos : 0 < size) (f : t.Frame) (net imm : Bool)
    (hfits : ¬ size < (t.octets f).length + 1) :
    Spares (start t gate size hpos) (.add f net imm) ↔
      t.refuses gate net = true ∨ ((t.octets f).length < 256 ∧ (t.octets f).length + 1 ≠ size) := by
  have hfree : ((start t gate size hpos).target imm).ring.freeSpace = size := by
    cases imm <;> exact if_neg (Nat.lt_irrefl size)
  show (_ ∨ if _ then _ else _) ↔ _
  rw [hfree, if_neg hfits]
  rfl

/-- **The discipline over a run**: kept in every state exactly if every call spares the queues. -/
theorem states_delivers_iff (gate : t.Gate) {size : Nat} (hpos : 0 < size) {l : List (Call t × Queued t)}
    (hrun : Run step (start t gate size hpos) l) :
    States Delivers (start t gate size hpos) l ↔ Guarded Spares (start t gate size hpos) l := by
  refine hrun.states_iff_guarded (I := Held) (fun h _ hspares hstep => ?_) (fun h _ hstep hdelivers => ?_)
    (held_start gate hpos) (held_start gate hpos).delivers
  · subst hstep
    exact ⟨held_exec h hspares, (held_exec h hspares).delivers⟩
  · subst hstep
    exact spares_of_delivers_exec h hdelivers

end Queued

open Queued

/-- **Both transmitters keep the discipline exactly while every frame spares the queues**, and the peek of a `Control`
    is always the length of what is read next. -/
theorem discipline_iff {size : Nat} (hpos : 0 < size) :
    (∀ (gate : Dmr.slotTransmitter.Gate) l,
      Run step (start Dmr.slotTransmitter gate size hpos) l →
        (States Delivers (start Dmr.slotTransmitter gate size hpos) l ↔
          Guarded Spares (start Dmr.slotTransmitter gate size hpos) l)) ∧
    (∀ (gate : P25.controlTransmitter.Gate) l,
      Run step (start P25.controlTransmitter gate size hpos) l →
        (States Delivers (start P25.controlTransmitter gate size hpos) l ↔
          Guarded Spares (start P25.controlTransmitter gate size hpos) l)) ∧
    ∀ s : TxQueues P25.controlTransmitter, s.peekFrameLength = s.getFrame.1.1 :=
  ⟨fun gate _ hrun => states_delivers_iff gate hpos hrun,
    fun gate _ hrun => states_delivers_iff gate hpos hrun, peekFrameLength_eq⟩

/-- A burst of a radio, queued on an idle slot and read. -/
theorem discipline_iff_burst :
    States Delivers (start Dmr.slotTransmitter RPT_NET_STATE.RS_NET_IDLE 3960 (by decide))
      (trace exec (start Dmr.slotTransmitter RPT_NET_STATE.RS_NET_IDLE 3960 (by decide))
        [.add (Vector.replicate 35 0x00) false false, .get]) := by
  refine ((discipline_iff (by decide)).1 _ _ (run_exec _ _)).mpr ⟨?_, trivial, trivial⟩
  exact (spares_start_iff (t := Dmr.slotTransmitter) _ _ _ _ _ (show ¬ 3960 < 35 + 1 by decide)).mpr
    (.inr ⟨show 35 < 256 by decide, show 35 + 1 ≠ 3960 by decide⟩)

/-- A packet of ten blocks, which is 294 octets long. -/
def tenBlocks : P25.controlTransmitter.Frame :=
  (⟨List.replicate 294 0x00, by rw [List.length_replicate]; decide⟩ : P25.TxFrame)

/-- No timer runs. -/
def noTimeouts : P25.controlTransmitter.Gate := (⟨default, default⟩ : P25.TxTimeouts)

/-- **A packet of ten blocks is cut short** on the radio side of a site as it is made: 38 octets of it are queued. -/
theorem discipline_broken :
    ¬ States Delivers (start P25.controlTransmitter noTimeouts 2592 (by decide))
      (trace exec (start P25.controlTransmitter noTimeouts 2592 (by decide)) [.add tenBlocks false false]) := by
  intro hstates
  obtain ⟨hspares, -⟩ := (states_delivers_iff _ (by decide) (run_exec _ _)).mp hstates
  have hlength : (P25.controlTransmitter.octets tenBlocks).length = 294 := List.length_replicate
  rw [spares_start_iff _ _ _ _ _ (by rw [hlength]; decide), hlength] at hspares
  rcases hspares with hrefused | ⟨hshort, -⟩
  · exact absurd hrefused (by decide)
  · exact absurd hshort (by decide)

end TxQueues

end DvmHost

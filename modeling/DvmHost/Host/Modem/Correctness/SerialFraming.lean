import Mathlib.Data.List.GetD
import DvmHost.Lib.Framing
import DvmHost.Lib.Run
import DvmHost.Host.Modem.Modem

/-!
# `Host.Modem.Correctness.SerialFraming` — the responses do not depend on how they arrive

`getResponse` is called again and again, and each call goes on where the port left the last one. `Item` says what the
octets of the port are by their lengths alone. Between two calls the members of the receiver are those of the octets
that no item accounts for yet (`Holds`), and a call either waits, or drops an octet, or completes the item that is
open (`Called`).

Three things are lost on the way. An invalid length does not end the frame; the lengths one and two are not noticed;
and the flag of a double length is forgotten by the next call.
-/

namespace DvmHost

open Lib

/-! ## What the stream holds -/

/-- A piece of the stream: an octet that starts no frame, a start with a length that no frame can have, or a
    response. -/
inductive Item where
  | noise (octet : UInt8)
  | invalid (length : UInt8)
  | response (double : Bool) (type : UInt8) (payload : List UInt8)
deriving DecidableEq

namespace Item

/-- A response of so many octets, whose type stands at an offset. -/
def responseAt (xs : List UInt8) (double : Bool) (offset length : Nat) : Option (Item × Nat) :=
  if xs.length < length then none
  else some (.response double (xs.getD offset 0x00) ((xs.take length).drop (offset + 1)), length)

/-- A frame has a start, a length and a type at least, and its one octet of length is below 250. -/
def Invalid (length : UInt8) : Prop := length = 1 ∨ length = 2 ∨ 250 ≤ length

instance (length : UInt8) : Decidable (Invalid length) := inferInstanceAs (Decidable (_ ∨ _ ∨ _))

/-- The item at the head of a stream, if it has come to its end. -/
def next : List UInt8 → Option (Item × Nat)
  | [] => none
  | start :: rest =>
      if start ≠ Modem.DVM_FRAME_START then some (.noise start, 1)
      else
        match rest with
        | [] => none
        | length :: rest' =>
            if length = 0 then
              match rest' with
              | [] => none
              | length2 :: _ => responseAt (start :: rest) true 3 (length2.toNat + 255)
            else if Invalid length then some (.invalid length, 2)
            else responseAt (start :: rest) false 2 length.toNat

theorem responseAt_append {xs : List UInt8} {double : Bool} {offset length : Nat} (hoffset : offset < length)
    {b : Item} {n : Nat} (ys : List UInt8) (h : responseAt xs double offset length = some (b, n)) :
    responseAt (xs ++ ys) double offset length = some (b, n) := by
  unfold responseAt at h ⊢
  split at h
  · exact nomatch h
  · next hlen =>
      have hle : length ≤ xs.length := Nat.le_of_not_lt hlen
      rw [if_neg (by rw [List.length_append]; omega), ← h, List.take_append_of_le_length hle,
        List.getD_append _ _ _ _ (Nat.lt_of_lt_of_le hoffset hle)]

theorem responseAt_bounds {xs : List UInt8} {double : Bool} {offset length : Nat} (hpos : 0 < length) {b : Item}
    {n : Nat} (h : responseAt xs double offset length = some (b, n)) : 0 < n ∧ n ≤ xs.length := by
  unfold responseAt at h
  split at h
  · exact nomatch h
  · next hlen =>
      obtain ⟨-, rfl⟩ := Prod.mk.inj (Option.some.inj h)
      exact ⟨hpos, Nat.le_of_not_lt hlen⟩

/-- A valid length is three or more. -/
theorem three_le_of_valid {length : UInt8} (hzero : length ≠ 0) (hvalid : ¬Invalid length) : 3 ≤ length.toNat := by
  have h0 : length.toNat ≠ 0 := fun h => hzero (UInt8.toNat_inj.mp h)
  have h1 : length.toNat ≠ 1 := fun h => hvalid (.inl (UInt8.toNat_inj.mp h))
  have h2 : length.toNat ≠ 2 := fun h => hvalid (.inr (.inl (UInt8.toNat_inj.mp h)))
  omega

theorem next_bounds {xs : List UInt8} {b : Item} {n : Nat} (h : next xs = some (b, n)) : 0 < n ∧ n ≤ xs.length := by
  unfold next at h
  split at h
  · exact nomatch h
  split at h
  · obtain ⟨-, rfl⟩ := Prod.mk.inj (Option.some.inj h)
    exact ⟨Nat.one_pos, Nat.succ_le_succ (Nat.zero_le _)⟩
  split at h
  · exact nomatch h
  split at h
  · split at h
    · exact nomatch h
    · exact responseAt_bounds (by omega) h
  · next hzero =>
      split at h
      · obtain ⟨-, rfl⟩ := Prod.mk.inj (Option.some.inj h)
        exact ⟨Nat.two_pos, Nat.succ_le_succ (Nat.succ_le_succ (Nat.zero_le _))⟩
      · next hvalid =>
          have h3 := three_le_of_valid hzero hvalid
          exact responseAt_bounds (by omega) h

theorem next_append {xs : List UInt8} {b : Item} {n : Nat} (ys : List UInt8) (h : next xs = some (b, n)) :
    next (xs ++ ys) = some (b, n) := by
  match xs with
  | [] => exact nomatch h
  | [start] =>
      rw [next] at h
      split at h
      · next hnoise =>
          rw [List.singleton_append, next.eq_def]
          exact (if_pos hnoise).trans h
      · exact nomatch h
  | [start, length] =>
      rw [next] at h
      rw [List.cons_append, next.eq_def]
      dsimp only
      split at h
      · next hnoise => rw [if_pos hnoise, h]
      next hstart =>
      rw [if_neg hstart]
      show (if length = 0 then _ else _) = _
      split at h
      · exact nomatch h
      · next hzero =>
          rw [if_neg hzero]
          have h3 := fun hvalid => three_le_of_valid hzero hvalid
          split at h
          · next hinvalid => rw [if_pos hinvalid, h]
          · next hvalid =>
              rw [if_neg hvalid]
              exact responseAt_append (Nat.lt_of_succ_le (h3 hvalid)) ys h
  | start :: length :: length2 :: rest =>
      rw [next] at h
      rw [List.cons_append, next.eq_def]
      dsimp only
      split at h
      · next hnoise => rw [if_pos hnoise, h]
      next hstart =>
      rw [if_neg hstart]
      show (if length = 0 then _ else _) = _
      split at h
      · next hzero =>
          rw [if_pos hzero]
          exact responseAt_append (by omega) ys h
      · next hzero =>
          rw [if_neg hzero]
          split at h
          · next hinvalid => rw [if_pos hinvalid, h]
          · next hvalid =>
              rw [if_neg hvalid]
              exact responseAt_append (Nat.lt_of_succ_le (three_le_of_valid hzero hvalid)) ys h

end Item

/-- The stream of the port is cut into items. -/
def responses : Framing UInt8 Item where
  next := Item.next
  pos h := (Item.next_bounds h).1
  le h := (Item.next_bounds h).2
  stable ys h := Item.next_append ys h

/-! ## The octets of an open frame -/

namespace Item

/-- The octets of a frame whose length is known and valid. -/
inductive Head : List UInt8 → Prop where
  | single {length : UInt8} (rest : List UInt8) : length ≠ 0 → ¬Invalid length →
      Head (Modem.DVM_FRAME_START :: length :: rest)
  | double (length2 : UInt8) (rest : List UInt8) : Head (Modem.DVM_FRAME_START :: 0 :: length2 :: rest)

/-- The length that a frame declares. -/
def lengthOf : List UInt8 → Nat
  | _ :: length :: rest => if length = 0 then (rest.headD 0x00).toNat + 255 else length.toNat
  | _ => 0

/-- Where the type of a frame stands. -/
def typeAt : List UInt8 → Nat
  | _ :: length :: _ => if length = 0 then 3 else 2
  | _ => 0

/-- Both octets of a double length are there. -/
def doubled : List UInt8 → Bool
  | _ :: length :: _ :: _ => decide (length = 0)
  | _ => false

theorem lengthOf_single {length : UInt8} (h : length ≠ 0) (start : UInt8) (rest : List UInt8) :
    lengthOf (start :: length :: rest) = length.toNat := if_neg h

theorem typeAt_single {length : UInt8} (h : length ≠ 0) (start : UInt8) (rest : List UInt8) :
    typeAt (start :: length :: rest) = 2 := if_neg h

theorem doubled_single {length : UInt8} (h : length ≠ 0) (start : UInt8) (rest : List UInt8) :
    doubled (start :: length :: rest) = false := by
  cases rest with
  | nil => rfl
  | cons => exact decide_eq_false h

theorem Head.append {w : List UInt8} (h : Head w) (xs : List UInt8) : Head (w ++ xs) ∧
    lengthOf (w ++ xs) = lengthOf w ∧ typeAt (w ++ xs) = typeAt w := by
  cases h with
  | single rest hzero hvalid =>
      refine ⟨.single (rest ++ xs) hzero hvalid, ?_, rfl⟩
      exact (lengthOf_single hzero _ _).trans (lengthOf_single hzero _ _).symm
  | double length2 rest => exact ⟨.double length2 (rest ++ xs), rfl, rfl⟩

theorem Head.doubled_append {w : List UInt8} (h : Head w) (xs : List UInt8) : doubled (w ++ xs) = doubled w := by
  cases h with
  | single rest hzero hvalid => exact (doubled_single hzero _ _).trans (doubled_single hzero _ _).symm
  | double length2 rest => rfl

theorem Head.bounds {w : List UInt8} (h : Head w) :
    2 ≤ typeAt w ∧ typeAt w ≤ w.length ∧ typeAt w < lengthOf w ∧ lengthOf w ≤ 510 := by
  cases h with
  | @single length rest hzero hvalid =>
      have h3 := three_le_of_valid hzero hvalid
      have hlt := length.toNat_lt
      rw [typeAt_single hzero, lengthOf_single hzero]
      simp only [List.length_cons]
      omega
  | double length2 rest =>
      have hlt := length2.toNat_lt
      show 2 ≤ 3 ∧ 3 ≤ rest.length + 3 ∧ 3 < length2.toNat + 255 ∧ length2.toNat + 255 ≤ 510
      omega

/-- A frame with a valid length is a response, once all of it is there. -/
theorem Head.next_eq {w : List UInt8} (h : Head w) :
    next w = responseAt w (doubled w) (typeAt w) (lengthOf w) := by
  cases h with
  | single rest hzero hvalid =>
      rw [next.eq_def, typeAt_single hzero, lengthOf_single hzero, doubled_single hzero]
      dsimp only
      rw [if_neg (not_not.mpr rfl), if_neg hzero, if_neg hvalid]
  | double length2 rest => rfl

theorem Head.next_eq_none_iff {w : List UInt8} (h : Head w) : next w = none ↔ w.length < lengthOf w := by
  rw [h.next_eq]
  unfold responseAt
  split
  · next hlt => exact iff_of_true rfl hlt
  · next hlt => exact iff_of_false nofun hlt

/-- **What can be open**: nothing, a start, a start with the zero of a double length, or a frame that is not all
    there. -/
theorem open_cases {w : List UInt8} (h : next w = none) : w = [] ∨ w = [Modem.DVM_FRAME_START] ∨
    w = [Modem.DVM_FRAME_START, 0] ∨ Head w ∧ w.length < lengthOf w := by
  match w with
  | [] => exact .inl rfl
  | [start] =>
      rw [next.eq_def] at h
      dsimp only at h
      split at h
      · exact nomatch h
      · next hstart => exact .inr (.inl (by rw [not_not.mp hstart]))
  | start :: length :: rest =>
      have hopen := h
      rw [next.eq_def] at h
      dsimp only at h
      split at h
      · exact nomatch h
      next hstart =>
      obtain rfl := not_not.mp hstart
      split at h
      · next hzero =>
          subst hzero
          cases rest with
          | nil => exact .inr (.inr (.inl rfl))
          | cons length2 rest =>
              have hhead : Head _ := .double length2 rest
              exact .inr (.inr (.inr ⟨hhead, hhead.next_eq_none_iff.mp hopen⟩))
      · next hzero =>
          split at h
          · exact nomatch h
          · next hvalid =>
              have hhead : Head _ := .single rest hzero hvalid
              exact .inr (.inr (.inr ⟨hhead, hhead.next_eq_none_iff.mp hopen⟩))

end Item

/-! ## The members of the receiver -/

namespace Receiver

open Item

/-- The buffer begins with these octets. -/
def Begins (buffer : Bytes) (w : List UInt8) : Prop := ∀ i < w.length, buffer i = w.getD i 0x00

theorem begins_store {buffer : Bytes} {w : List UInt8} (h : Begins buffer w) (xs : List UInt8) :
    Begins (store buffer w.length xs) (w ++ xs) := by
  intro i hi
  rw [List.length_append] at hi
  unfold store memcpy
  rcases Nat.lt_or_ge i w.length with hlt | hge
  · rw [if_neg (by omega), h i hlt, List.getD_append _ _ _ _ hlt]
  · rw [if_pos ⟨hge, hi⟩, List.getD_append_right _ _ _ _ hge]

/-- The members of an open frame with a valid length. -/
structure InFrame (r : Receiver) (w : List UInt8) : Prop where
  head : Head w
  begins : Begins r.buffer w
  length : r.length = lengthOf w
  rspOffset : r.rspOffset = w.length
  rspState : r.rspState = if w.length = typeAt w then .RESP_TYPE else .RESP_DATA
  rspType : typeAt w < w.length → r.rspType = w.getD (typeAt w) 0x00

/-- **The members between two calls** are those of the octets that are open. -/
inductive Holds (r : Receiver) : List UInt8 → Prop where
  | start : r.rspState = .RESP_START → Holds r []
  | length1 : r.rspState = .RESP_LENGTH1 → Begins r.buffer [Modem.DVM_FRAME_START] →
      Holds r [Modem.DVM_FRAME_START]
  | length2 : r.rspState = .RESP_LENGTH2 → Begins r.buffer [Modem.DVM_FRAME_START, 0] →
      Holds r [Modem.DVM_FRAME_START, 0]
  | frame {w} : InFrame r w → w.length < lengthOf w → Holds r w

/-- **What a call comes to**, with `w` open when it is made and `o` when it is over. It waits for more; it drops an
    octet that starts no frame; it completes the frame that is open. Of the invalid lengths it refuses the large ones
    and stays where it was, and overlooks the others. -/
inductive Called (w o : List UInt8) : RespType → Receiver → Prop where
  | waits {r} : next o = none → Holds r o → Called w o .RTM_TIMEOUT r
  | drops {x r} : w = [] → o = [x] → x ≠ Modem.DVM_FRAME_START → Holds r [] → Called w o .RTM_ERROR r
  | completes {r} : Head o → o.length = lengthOf o → Begins r.buffer o → r.length = lengthOf o →
      r.rspState = .RESP_START → r.rspType = o.getD (typeAt o) 0x00 →
      r.rspDoubleLength = (decide (w.length < 3) && doubled o) → Called w o .RTM_OK r
  | refuses {length r} : o = [Modem.DVM_FRAME_START, length] → 250 ≤ length → r.rspState = .RESP_LENGTH1 →
      Called w o .RTM_ERROR r
  | overlooks {length r} : o = [Modem.DVM_FRAME_START, length] → length = 1 ∨ length = 2 → r.rspState = .RESP_TYPE →
      Called w o .RTM_TIMEOUT r
  | invents {length type r} : o = [Modem.DVM_FRAME_START, length, type] → length = 1 ∨ length = 2 →
      Called w o .RTM_OK r

/-! ## The parts of a call -/

/-- What holds of an outcome: one thing at the end of a part, another at a `return`. -/
def Yields (Q : Receiver → Port → Prop) (R : RespType → Receiver → Port → Prop) : Outcome → Prop
  | .returned type r p => R type r p
  | .reached r p => Q r p
  | .overrun => False

theorem Yields.andThen {Q Q' : Receiver → Port → Prop} {R : RespType → Receiver → Port → Prop} {o : Outcome}
    (h : Yields Q R o) {next : Receiver → Port → Outcome} (hnext : ∀ r p, Q r p → Yields Q' R (next r p)) :
    Yields Q' R (o.andThen next) := by
  cases o with
  | returned => exact h
  | reached r p => exact hnext r p h
  | overrun => exact h.elim

theorem eq_singleton {α : Type} {xs : List α} (hne : xs ≠ []) (hlen : xs.length ≤ 1) : ∃ x, xs = [x] := by
  match xs with
  | [] => exact absurd rfl hne
  | [x] => exact ⟨x, rfl⟩

section Call

variable (w stream : List UInt8)

/-- What was open and what has been read of the stream make `o`, and no read to come fails. -/
structure Arrived (o : List UInt8) (p : Port) : Prop where
  split : w ++ stream = o ++ p.stream
  behind : w <+: o
  reads : none ∉ p.reads

/-- A call has returned. -/
def Returned (type : RespType) (r : Receiver) (p : Port) : Prop := ∃ o, Arrived w stream o p ∧ Called w o type r

/-- A call goes on, with the flag of a double length if it has read that itself. -/
structure Going (o : List UInt8) (r : Receiver) (p : Port) : Prop where
  arrived : Arrived w stream o p
  double : r.rspDoubleLength = (decide (w.length < 3) && doubled o)

variable {w stream}

theorem Arrived.more {o : List UInt8} {p : Port} (h : Arrived w stream o p) (p' : Port) {octets : List UInt8}
    (hp : p.stream = octets ++ p'.stream) (hreads : none ∉ p'.reads) : Arrived w stream (o ++ octets) p' where
  split := by rw [h.split, hp, List.append_assoc]
  behind := h.behind.trans (List.prefix_append _ _)
  reads := hreads

/-- A read waits, or stores some octets of the stream. -/
theorem fill_yields {r : Receiver} {p : Port} {offset length : Nat} (hroom : offset + length ≤ BUFFER_LENGTH)
    {o : List UInt8} (hp : Arrived w stream o p) {Q : Receiver → Port → Prop} {R : RespType → Receiver → Port → Prop}
    (hwait : ∀ p', Arrived w stream o p' → R .RTM_TIMEOUT r p')
    (hread : ∀ octets p', octets ≠ [] → octets.length ≤ length → Arrived w stream (o ++ octets) p' →
      Q { r with buffer := store r.buffer offset octets } p') : Yields Q R (r.fill p offset length) := by
  have hreads := hp.reads
  unfold fill Port.read
  rw [if_neg (Nat.not_lt.mpr hroom)]
  cases hr : p.reads with
  | nil => exact hwait p hp
  | cons ret reads =>
      rw [hr] at hreads
      have hrest : none ∉ reads := fun h => hreads (List.mem_cons_of_mem _ h)
      cases ret with
      | none => exact absurd List.mem_cons_self hreads
      | some n =>
          have hsplit : p.stream = p.stream.take (min n length) ++ p.stream.drop (min n length) :=
            (List.take_append_drop _ _).symm
          dsimp only
          cases htake : p.stream.take (min n length) with
          | nil =>
              rw [htake] at hsplit
              have harrived := hp.more ⟨p.stream.drop (min n length), reads⟩ hsplit hrest
              rw [List.append_nil] at harrived
              exact hwait _ harrived
          | cons x octets =>
              rw [htake] at hsplit
              refine hread (x :: octets) _ nofun ?_ (hp.more _ hsplit hrest)
              rw [← htake, List.length_take]
              exact Nat.le_trans (Nat.min_le_left _ _) (Nat.min_le_right _ _)

/-- A read of one octet behind those that are open. -/
theorem fillOctet_yields {r : Receiver} {p : Port} {o : List UInt8} (hroom : o.length + 1 ≤ BUFFER_LENGTH)
    (hp : Arrived w stream o p) (hbegins : Begins r.buffer o) {R : RespType → Receiver → Port → Prop}
    (hwait : ∀ p', Arrived w stream o p' → R .RTM_TIMEOUT r p') :
    Yields (fun r' p' => ∃ x buffer, Arrived w stream (o ++ [x]) p' ∧ Begins buffer (o ++ [x]) ∧
      r' = { r with buffer := buffer }) R (r.fill p o.length 1) := by
  refine fill_yields hroom hp hwait ?_
  intro octets p' hne hlen hp'
  obtain ⟨x, rfl⟩ := eq_singleton hne hlen
  exact ⟨x, _, hp', begins_store hbegins [x], rfl⟩

theorem Begins.last {buffer : Bytes} {o : List UInt8} {x : UInt8} (h : Begins buffer (o ++ [x])) :
    buffer o.length = x := by
  rw [h o.length (by rw [List.length_append]; exact Nat.lt_succ_self _), List.getD_append_right _ _ _ _ (Nat.le_refl _),
    Nat.sub_self]
  rfl

/-- The first part leaves something open. -/
theorem getStart_yields {r : Receiver} {p : Port} (hgoing : Going w stream w r p) (hopen : next w = none)
    (hholds : Holds r w) :
    Yields (fun r p => ∃ o, Going w stream o r p ∧ next o = none ∧ o ≠ [] ∧ Holds r o) (Returned w stream)
      (r.getStart p) := by
  have hdouble := hgoing.double
  unfold getStart
  cases hholds with
  | start hstate =>
      rw [if_pos hstate]
      refine (fillOctet_yields (o := []) (by decide) hgoing.arrived (fun i hi => nomatch hi)
        fun p' hp' => ⟨[], hp', .waits hopen (.start hstate)⟩).andThen ?_
      rintro r' p' ⟨x, buffer, hp', hbegins, rfl⟩
      have hx : buffer 0 = x := hbegins.last
      simp only [hx]
      split
      · next hnoise => exact ⟨[x], hp', .drops rfl rfl hnoise (.start hstate)⟩
      · next hframe =>
          obtain rfl := not_not.mp hframe
          exact ⟨_, ⟨hp', hdouble⟩, rfl, nofun, .length1 rfl hbegins⟩
  | length1 hstate hbegins =>
      rw [if_neg (by rw [hstate]; nofun)]
      exact ⟨_, hgoing, hopen, nofun, .length1 hstate hbegins⟩
  | length2 hstate hbegins =>
      rw [if_neg (by rw [hstate]; nofun)]
      exact ⟨_, hgoing, hopen, nofun, .length2 hstate hbegins⟩
  | frame hframe hlt =>
      rw [if_neg (by rw [hframe.rspState]; split <;> nofun)]
      refine ⟨_, hgoing, hopen, ?_, .frame hframe hlt⟩
      rintro rfl
      exact nomatch hframe.head

/-- A length that no frame can have was taken for one, and the type is read next. -/
def Overlooked (o : List UInt8) (r : Receiver) : Prop :=
  ∃ length, o = [Modem.DVM_FRAME_START, length] ∧ (length = 1 ∨ length = 2) ∧ Begins r.buffer o ∧
    r.rspState = .RESP_TYPE ∧ r.rspOffset = 2 ∧ r.length = length.toNat

theorem getLength1_yields {r : Receiver} {p : Port} {o : List UInt8} (hgoing : Going w stream o r p)
    (hopen : next o = none) (hne : o ≠ []) (hholds : Holds r o) :
    Yields (fun r p => ∃ o, Going w stream o r p ∧ (next o = none ∧ 2 ≤ o.length ∧ Holds r o ∨ Overlooked o r))
      (Returned w stream) (r.getLength1 p) := by
  unfold getLength1
  cases hholds with
  | start => exact absurd rfl hne
  | length1 hstate hbegins =>
      rw [if_pos hstate]
      refine (fillOctet_yields (o := [Modem.DVM_FRAME_START]) (by decide) hgoing.arrived hbegins
        fun p' hp' => ⟨_, hp', .waits hopen (.length1 hstate hbegins)⟩).andThen ?_
      rintro r' p' ⟨length, buffer, hp', hbegins', rfl⟩
      have hlength : buffer 1 = length := hbegins'.last
      simp only [hlength]
      split
      · next hlarge => exact ⟨_, hp', .refuses rfl hlarge hstate⟩
      next hsmall =>
      refine ⟨[Modem.DVM_FRAME_START, length], ⟨hp', (Bool.and_false _).symm⟩, ?_⟩
      by_cases hzero : length = 0
      · subst hzero
        exact .inl ⟨rfl, Nat.le_refl 2, .length2 rfl hbegins'⟩
      · have hnat : length.toNat ≠ 0 := fun h => hzero (UInt8.toNat_inj.mp h)
        by_cases hvalid : Invalid length
        · refine .inr ⟨length, rfl, ?_, hbegins', if_neg hnat, rfl, rfl⟩
          rcases hvalid with h1 | h2 | hge
          · exact .inl h1
          · exact .inr h2
          · exact absurd hge hsmall
        · have hhead : Head [Modem.DVM_FRAME_START, length] := .single [] hzero hvalid
          have htype : typeAt [Modem.DVM_FRAME_START, length] = 2 := typeAt_single hzero _ _
          have hbounds := hhead.bounds
          have hlt : [Modem.DVM_FRAME_START, length].length < lengthOf [Modem.DVM_FRAME_START, length] := by
            rw [htype] at hbounds
            exact hbounds.2.2.1
          refine .inl ⟨hhead.next_eq_none_iff.mpr hlt, Nat.le_refl 2, .frame ⟨hhead, hbegins', ?_, rfl, ?_, ?_⟩ hlt⟩
          · exact (lengthOf_single hzero _ _).symm
          · rw [htype]
            exact if_neg hnat
          · intro h
            rw [htype] at h
            exact absurd h (Nat.lt_irrefl 2)
  | length2 hstate hbegins =>
      rw [if_neg (by rw [hstate]; nofun)]
      exact ⟨_, hgoing, .inl ⟨hopen, Nat.le_refl 2, .length2 hstate hbegins⟩⟩
  | frame hframe hlt =>
      rw [if_neg (by rw [hframe.rspState]; split <;> nofun)]
      have hbounds := hframe.head.bounds
      exact ⟨_, hgoing, .inl ⟨hopen, Nat.le_trans hbounds.1 hbounds.2.1, .frame hframe hlt⟩⟩

theorem getLength2_yields {r : Receiver} {p : Port} {o : List UInt8} (hgoing : Going w stream o r p)
    (h : next o = none ∧ 2 ≤ o.length ∧ Holds r o ∨ Overlooked o r) :
    Yields (fun r p => ∃ o, Going w stream o r p ∧ (InFrame r o ∧ o.length < lengthOf o ∨ Overlooked o r))
      (Returned w stream) (r.getLength2 p) := by
  unfold getLength2
  rcases h with ⟨hopen, hlen, hholds⟩ | hover
  · cases hholds with
    | start => exact absurd hlen (by decide)
    | length1 => exact absurd hlen (by decide)
    | length2 hstate hbegins =>
        rw [if_pos hstate]
        refine (fillOctet_yields (o := [Modem.DVM_FRAME_START, 0]) (by decide) hgoing.arrived hbegins
          fun p' hp' => ⟨_, hp', .waits hopen (.length2 hstate hbegins)⟩).andThen ?_
        rintro r' p' ⟨length2, buffer, hp', hbegins', rfl⟩
        have hlength : buffer 2 = length2 := hbegins'.last
        have hhead : Head [Modem.DVM_FRAME_START, 0, length2] := .double length2 []
        simp only [hlength]
        refine ⟨[Modem.DVM_FRAME_START, 0, length2], ⟨hp', ?_⟩, .inl ⟨⟨hhead, hbegins', rfl, rfl, rfl, nofun⟩, ?_⟩⟩
        · -- a call that reads this octet was made with less open than three octets
          have hopened : w.length ≤ 2 := hgoing.arrived.behind.length_le
          rw [decide_eq_true (Nat.lt_succ_of_le hopened)]
          rfl
        · show 3 < length2.toNat + 255
          omega
    | frame hframe hlt =>
        rw [if_neg (by rw [hframe.rspState]; split <;> nofun)]
        exact ⟨_, hgoing, .inl ⟨hframe, hlt⟩⟩
  · obtain ⟨length, ho, hshort, hbegins, hstate, hrest⟩ := hover
    rw [if_neg (by rw [hstate]; nofun)]
    exact ⟨_, hgoing, .inr ⟨length, ho, hshort, hbegins, hstate, hrest⟩⟩

/-- The type was read of a frame that has none. -/
def Invented (o : List UInt8) (r : Receiver) : Prop :=
  ∃ length type, o = [Modem.DVM_FRAME_START, length, type] ∧ (length = 1 ∨ length = 2) ∧
    r.rspState = .RESP_DATA ∧ r.rspOffset = 3 ∧ r.length = length.toNat

theorem getType_yields {r : Receiver} {p : Port} {o : List UInt8} (hgoing : Going w stream o r p)
    (h : InFrame r o ∧ o.length < lengthOf o ∨ Overlooked o r) :
    Yields (fun r p => ∃ o, Going w stream o r p ∧
        (InFrame r o ∧ typeAt o < o.length ∧ o.length ≤ lengthOf o ∨ Invented o r))
      (Returned w stream) (r.getType p) := by
  unfold getType
  rcases h with ⟨hframe, hlt⟩ | ⟨length, rfl, hshort, hbegins, hstate, hoffset, hlength⟩
  · have hbounds := hframe.head.bounds
    by_cases htype : o.length = typeAt o
    · rw [if_pos (by rw [hframe.rspState, if_pos htype]), hframe.rspOffset]
      refine (fillOctet_yields (by unfold BUFFER_LENGTH; omega) hgoing.arrived hframe.begins fun p' hp' =>
        ⟨o, hp', .waits (hframe.head.next_eq_none_iff.mpr hlt) (.frame hframe hlt)⟩).andThen ?_
      rintro r' p' ⟨x, buffer, hp', hbegins', rfl⟩
      obtain ⟨hhead, hsame, htypeAt⟩ := hframe.head.append [x]
      have hlen : (o ++ [x]).length = o.length + 1 := by rw [List.length_append, List.length_singleton]
      have hdoubled : doubled (o ++ [x]) = doubled o := hframe.head.doubled_append [x]
      refine ⟨o ++ [x], ⟨hp', ?_⟩, .inl ⟨⟨hhead, hbegins', ?_, ?_, ?_, ?_⟩, ?_, ?_⟩⟩
      · rw [hdoubled]
        exact hgoing.double
      · rw [hsame]
        exact hframe.length
      · rw [hlen]
        exact congrArg (· + 1) hframe.rspOffset
      · rw [hlen, htypeAt, ← htype, if_neg (by omega)]
      · intro _
        rw [htypeAt, ← htype, hframe.rspOffset]
        exact hbegins' o.length (by omega)
      · omega
      · omega
    · rw [if_neg (by rw [hframe.rspState, if_neg htype]; nofun)]
      exact ⟨o, hgoing, .inl ⟨hframe, by omega, Nat.le_of_lt hlt⟩⟩
  · rw [if_pos hstate, hoffset]
    refine (fillOctet_yields (o := [Modem.DVM_FRAME_START, length]) (show 3 ≤ BUFFER_LENGTH by decide)
      hgoing.arrived hbegins fun p' hp' => ⟨_, hp', .overlooks rfl hshort hstate⟩).andThen ?_
    rintro r' p' ⟨type, buffer, hp', -, rfl⟩
    refine ⟨[Modem.DVM_FRAME_START, length, type], ⟨hp', ?_⟩, .inr ⟨length, type, rfl, hshort, rfl, ?_, hlength⟩⟩
    · have hzero : length ≠ 0 := by rcases hshort with rfl | rfl <;> decide
      rw [doubled_single hzero, Bool.and_false]
      exact hgoing.double.trans (Bool.and_false _)
    · exact congrArg (· + 1) hoffset

/-- More octets of a frame whose type is known. -/
theorem InFrame.more {r : Receiver} {o octets : List UInt8} (h : InFrame r o) (htype : typeAt o < o.length) :
    InFrame { r with
      buffer := store r.buffer r.rspOffset octets
      rspOffset := r.rspOffset + octets.length } (o ++ octets) := by
  obtain ⟨hhead, hsame, htypeAt⟩ := h.head.append octets
  have hlen : (o ++ octets).length = o.length + octets.length := List.length_append
  refine ⟨hhead, ?_, h.length.trans hsame.symm, ?_, ?_, ?_⟩
  · rw [h.rspOffset]
    exact begins_store h.begins octets
  · rw [hlen]
    exact congrArg (· + octets.length) h.rspOffset
  · rw [hlen, htypeAt, if_neg (by omega)]
    exact h.rspState.trans (if_neg (by omega))
  · intro _
    rw [htypeAt, List.getD_append _ _ _ _ htype]
    exact h.rspType htype

/-- **The loop** reads what is left of the frame, however it comes. -/
theorem getData_yields (reads : List (Option Nat)) : ∀ {r : Receiver} {rest o : List UInt8},
    Going w stream o r ⟨rest, reads⟩ →
    (InFrame r o ∧ typeAt o < o.length ∧ o.length ≤ lengthOf o ∨ Invented o r) →
    Yields (fun r p => ∃ o, Going w stream o r p ∧ (InFrame r o ∧ o.length = lengthOf o ∨ Invented o r))
      (Returned w stream) (r.getData rest reads) := by
  -- nothing is left to read once the frame is complete, and of a frame without a type nothing ever is
  have hdone : ∀ {r : Receiver} {p : Port} {o : List UInt8}, Going w stream o r p →
      (InFrame r o ∧ typeAt o < o.length ∧ o.length ≤ lengthOf o ∨ Invented o r) → ¬r.rspOffset < r.length →
      ∃ o, Going w stream o r p ∧ (InFrame r o ∧ o.length = lengthOf o ∨ Invented o r) := by
    intro r p o hgoing h hend
    refine ⟨o, hgoing, h.imp_left ?_⟩
    rintro ⟨hframe, -, hle⟩
    rw [hframe.rspOffset, hframe.length] at hend
    exact ⟨hframe, Nat.le_antisymm hle (Nat.le_of_not_lt hend)⟩
  have hframed : ∀ {r : Receiver} {o : List UInt8},
      (InFrame r o ∧ typeAt o < o.length ∧ o.length ≤ lengthOf o ∨ Invented o r) → r.rspOffset < r.length →
      InFrame r o ∧ typeAt o < o.length ∧ o.length < lengthOf o := by
    intro r o h hlt
    rcases h with ⟨hframe, htype, -⟩ | ⟨length, type, -, hshort, -, hoffset, hlength⟩
    · rw [hframe.rspOffset, hframe.length] at hlt
      exact ⟨hframe, htype, hlt⟩
    · rw [hoffset, hlength] at hlt
      rcases hshort with rfl | rfl <;> exact absurd hlt (by decide)
  induction reads with
  | nil =>
      intro r rest o hgoing h
      unfold getData
      split
      · next hlt =>
          obtain ⟨hframe, -, hless⟩ := hframed h hlt
          have hbounds := hframe.head.bounds
          unfold fill
          rw [if_neg (by rw [hframe.length, hframe.rspOffset]; unfold BUFFER_LENGTH; omega)]
          exact ⟨o, hgoing.arrived, .waits (hframe.head.next_eq_none_iff.mpr hless) (.frame hframe hless)⟩
      · next hend => exact hdone hgoing h hend
  | cons ret reads ih =>
      intro r rest o hgoing h
      have hreads : none ∉ ret :: reads := hgoing.arrived.reads
      have hrest : none ∉ reads := fun hmem => hreads (List.mem_cons_of_mem _ hmem)
      unfold getData
      split
      · next hlt =>
          obtain ⟨hframe, htype, hless⟩ := hframed h hlt
          have hbounds := hframe.head.bounds
          rw [if_neg (by rw [hframe.length, hframe.rspOffset]; unfold BUFFER_LENGTH; omega)]
          cases ret with
          | none => exact absurd List.mem_cons_self hreads
          | some n =>
              have hsplit : rest = rest.take (min n (r.length - r.rspOffset)) ++
                  rest.drop (min n (r.length - r.rspOffset)) := (List.take_append_drop _ _).symm
              have harrived := hgoing.arrived.more
                ⟨rest.drop (min n (r.length - r.rspOffset)), reads⟩ hsplit hrest
              dsimp only
              split
              · next hnone =>
                  rw [hnone, List.append_nil] at harrived
                  exact ⟨o, harrived, .waits (hframe.head.next_eq_none_iff.mpr hless) (.frame hframe hless)⟩
              · next hsome =>
                  have hlen : (rest.take (min n (r.length - r.rspOffset))).length ≤ lengthOf o - o.length := by
                    rw [List.length_take, hframe.length, hframe.rspOffset]
                    exact Nat.le_trans (Nat.min_le_left _ _) (Nat.min_le_right _ _)
                  generalize rest.take (min n (r.length - r.rspOffset)) = octets at harrived hsome hlen ⊢
                  obtain ⟨-, hsame, htypeAt⟩ := hframe.head.append octets
                  refine ih ⟨harrived, ?_⟩ (.inl ⟨hframe.more htype, ?_, ?_⟩)
                  · rw [hframe.head.doubled_append]
                    exact hgoing.double
                  · rw [htypeAt, List.length_append]
                    omega
                  · rw [hsame, List.length_append]
                    omega
      · next hend => exact hdone hgoing h hend

theorem getFrameData_yields {r : Receiver} {p : Port} {o : List UInt8} (hgoing : Going w stream o r p)
    (h : InFrame r o ∧ typeAt o < o.length ∧ o.length ≤ lengthOf o ∨ Invented o r) :
    Yields (fun r p => ∃ o, Going w stream o r p ∧ (InFrame r o ∧ o.length = lengthOf o ∨ Invented o r))
      (Returned w stream) (r.getFrameData p) := by
  have hstate : r.rspState = .RESP_DATA := by
    rcases h with ⟨hframe, htype, -⟩ | ⟨length, type, -, -, hstate, -⟩
    · rw [hframe.rspState, if_neg (Nat.ne_of_gt htype)]
    · exact hstate
  unfold getFrameData
  rw [if_pos hstate]
  exact getData_yields p.reads hgoing h

end Call

/-- **What a call comes to.** -/
theorem getResponse_called {r : Receiver} {w : List UInt8} (hholds : Holds r w) (hopen : next w = none)
    (stream : List UInt8) (reads : List Nat) : ∃ type r' p', r.getResponse ⟨stream, reads.map some⟩ = .returned type r' p' ∧
      ∃ o, Arrived w stream o p' ∧ Called w o type r' := by
  have hreset : Holds { r with rspDoubleLength := false } w := by
    cases hholds with
    | start hstate => exact .start hstate
    | length1 hstate hbegins => exact .length1 hstate hbegins
    | length2 hstate hbegins => exact .length2 hstate hbegins
    | frame h hlt => exact .frame ⟨h.head, h.begins, h.length, h.rspOffset, h.rspState, h.rspType⟩ hlt
  have hgoing : Going w stream w { r with rspDoubleLength := false } ⟨stream, reads.map some⟩ := by
    refine ⟨⟨rfl, List.prefix_refl w, ?_⟩, ?_⟩
    · intro hmem
      obtain ⟨n, -, hn⟩ := List.mem_map.mp hmem
      exact nomatch hn
    · show false = _
      match w with
      | [] => rfl
      | [_] => rfl
      | [_, _] => rfl
      | _ :: _ :: _ :: rest =>
          rw [decide_eq_false (by simp only [List.length_cons]; omega), Bool.false_and]
  have hyields : Yields (fun _ _ => False) (Returned w stream) (r.getResponse ⟨stream, reads.map some⟩) := by
    unfold getResponse
    have hlength1 := (getStart_yields hgoing hopen hreset).andThen fun r p h => by
      obtain ⟨o, hgoing, hopen, hne, hholds⟩ := h
      exact getLength1_yields hgoing hopen hne hholds
    have hlength2 := hlength1.andThen fun r p h => by
      obtain ⟨o, hgoing, h⟩ := h
      exact getLength2_yields hgoing h
    have htype := hlength2.andThen fun r p h => by
      obtain ⟨o, hgoing, h⟩ := h
      exact getType_yields hgoing h
    have hdata := htype.andThen fun r p h => by
      obtain ⟨o, hgoing, h⟩ := h
      exact getFrameData_yields hgoing h
    refine hdata.andThen fun r p h => ?_
    rcases h with ⟨o, hgoing, ⟨hframe, hall⟩ | ⟨length, type, ho, hshort, -⟩⟩
    · refine ⟨o, hgoing.arrived, .completes hframe.head hall hframe.begins hframe.length rfl ?_ hgoing.double⟩
      refine hframe.rspType ?_
      rw [hall]
      exact hframe.head.bounds.2.2.1
    · exact ⟨o, hgoing.arrived, .invents ho hshort⟩
  match hres : r.getResponse ⟨stream, reads.map some⟩ with
  | .returned type r' p' =>
      rw [hres] at hyields
      exact ⟨type, r', p', rfl, hyields⟩
  | .reached r' p' =>
      rw [hres] at hyields
      exact hyields.elim
  | .overrun =>
      rw [hres] at hyields
      exact hyields.elim

/-- The response that a call has come to: type and payload, which the flag of a double length separates. -/
def typeAndPayload (r : Receiver) : UInt8 × List UInt8 :=
  let offset := if r.rspDoubleLength then 4 else 3
  (r.rspType, Modem.octetsAt r.buffer offset (r.length - offset))

theorem octetsAt_begins {buffer : Bytes} {o : List UInt8} (h : Begins buffer o) {offset : Nat}
    (hoffset : offset ≤ o.length) : Modem.octetsAt buffer offset (o.length - offset) = o.drop offset := by
  refine List.ext_getElem ?_ ?_
  · rw [Modem.octetsAt, List.length_map, List.length_range, List.length_drop]
  · intro i hi hi'
    rw [List.length_drop] at hi'
    rw [List.getElem_drop]
    simp only [Modem.octetsAt, List.getElem_map, List.getElem_range]
    rw [h _ (by omega), List.getD_eq_getElem _ _ (by omega)]

end Receiver

/-! ## Calls on a port -/

/-- The response among the items, if an item is one. -/
def Item.response? : Item → Option (UInt8 × List UInt8)
  | .response _ type payload => some (type, payload)
  | _ => none

/-- Handling a response takes a length from it that it does not have, or looks outside of the buffer. -/
def Modem.strays {a b c : Nat} (m : Modem a b c) (r : Receiver) : Bool :=
  (m.subtracted r.rspDoubleLength (r.buffer 2)).any fun k =>
    decide (r.length < k) || decide (BUFFER_LENGTH ≤ Modem.sub32 r.length k)

/-- A modem at its port: what is still to come, what has been read, and the responses so far. -/
structure Serial (dmrQueueSize p25QueueSize nxdnQueueSize : Nat) where
  modem : Modem dmrQueueSize p25QueueSize nxdnQueueSize
  receiver : Receiver
  stream : List UInt8
  read : List UInt8
  delivered : List (UInt8 × List UInt8)
  strayed : Bool

namespace Serial

open Receiver Item

variable {a b c : Nat}

/-- A modem whose port has everything still to come. -/
def start (m : Modem a b c) (stream : List UInt8) : Serial a b c :=
  { modem := m, receiver := Receiver.new, stream := stream, read := [], delivered := [], strayed := false }

/-- One call of `clock`: a call of `getResponse`, whose reads return so many octets at most, and the response queued if
    there is one. -/
def call (s : Serial a b c) (reads : List Nat) : Serial a b c :=
  match s.receiver.getResponse ⟨s.stream, reads.map some⟩ with
  | .returned type r p =>
      let s := { s with
        receiver := r
        stream := p.stream
        read := s.read ++ s.stream.take (s.stream.length - p.stream.length) }
      if type = .RTM_OK then
        { s with
          delivered := s.delivered ++ [r.typeAndPayload]
          strayed := s.strayed || s.modem.strays r
          modem := s.modem.queueResponse r }
      else s
  | .reached r p => { s with receiver := r, stream := p.stream }
  | .overrun => { s with strayed := true }

/-- **The responses are those of the stream.** Those delivered are the ones in what was read; while no frame is open
    the parser searches for one; and nothing was counted or looked at beyond what is there. -/
structure Framed (s : Serial a b c) : Prop where
  delivered : s.delivered = (responses.items s.read).filterMap response?
  searching : responses.rest s.read = [] → s.receiver.rspState = .RESP_START
  inBounds : s.strayed = false

/-- **What a call may come across**, with so many octets open when it is made. -/
def Served (m : Modem a b c) (opened : Nat) : Item → Prop
  | .noise _ => True
  | .invalid _ => False
  | .response double type payload => (double = true → opened < 3) ∧ ∀ k ∈ m.subtracted double type, k ≤ payload.length + 3

/-- **The calls that keep the framing.** What a call reads completes no frame of an invalid length; a frame of double
    length only if the call has read both octets of the length; and no response that is too short for its command. -/
def Meets (s : Serial a b c) (reads : List Nat) : Prop :=
  ∀ item ∈ responses.items (responses.rest s.read ++ (s.call reads).read.drop s.read.length),
    Served s.modem (responses.rest s.read).length item

/-- The members of the receiver are those of what is open. -/
def Tracks (s : Serial a b c) : Prop := Holds s.receiver (responses.rest s.read)

theorem tracks_start (m : Modem a b c) (stream : List UInt8) : Tracks (start m stream) := by
  have hnone : responses.rest [] = [] := Framing.rest_of_none rfl
  show Holds Receiver.new (responses.rest [])
  rw [hnone]
  exact .start rfl

theorem framed_start (m : Modem a b c) (stream : List UInt8) : Framed (start m stream) := by
  have hitems : responses.items [] = [] := Framing.items_of_none rfl
  refine ⟨?_, fun _ => rfl, rfl⟩
  show [] = (responses.items []).filterMap response?
  rw [hitems]
  rfl

/-- A response of one octet of length has its type in the third octet, one of double length in the fourth. -/
theorem typeAt_eq {o : List UInt8} (h : Head o) (hlen : 3 ≤ o.length) : typeAt o = if doubled o then 3 else 2 := by
  cases h with
  | single rest hzero hvalid => rw [typeAt_single hzero, doubled_single hzero]; rfl
  | double length2 rest => rfl

/-- A completed frame is one item. -/
theorem items_completed {o : List UInt8} (h : Head o) (hall : o.length = lengthOf o) :
    responses.items o = [.response (doubled o) (o.getD (typeAt o) 0x00) (o.drop (typeAt o + 1))] ∧
      responses.rest o = [] := by
  have hnext : responses.next o =
      some (.response (doubled o) (o.getD (typeAt o) 0x00) (o.drop (typeAt o + 1)), o.length) := by
    refine h.next_eq.trans ?_
    unfold responseAt
    rw [if_neg (by omega), ← hall, List.take_length]
  have hnone : responses.next [] = none := rfl
  rw [Framing.items_of_some hnext, Framing.rest_of_some hnext, List.drop_length, Framing.items_of_none hnone,
    Framing.rest_of_none hnone]
  exact ⟨rfl, rfl⟩

/-- An octet that starts no frame is an item of its own. -/
theorem items_noise {x : UInt8} (hnoise : x ≠ Modem.DVM_FRAME_START) :
    responses.items [x] = [.noise x] ∧ responses.rest [x] = [] := by
  have hnext : Item.next [x] = some (.noise x, 1) := by
    rw [next.eq_def]
    exact if_pos hnoise
  have hnext : responses.next [x] = some (.noise x, 1) := hnext
  have hnone : responses.next [] = none := rfl
  rw [Framing.items_of_some hnext, Framing.rest_of_some hnext]
  exact ⟨congrArg (_ :: ·) (Framing.items_of_none hnone), Framing.rest_of_none hnone⟩

theorem invalid_of_short {length : UInt8} (h : length = 1 ∨ length = 2) : Invalid length ∧ length ≠ 0 := by
  rcases h with rfl | rfl <;> decide

theorem invalid_of_large {length : UInt8} (h : 250 ≤ length) : Invalid length ∧ length ≠ 0 := by
  refine ⟨.inr (.inr h), ?_⟩
  rintro rfl
  exact absurd h (by decide)

/-- An invalid length is an item of two octets. -/
theorem items_invalid {length : UInt8} (h : Invalid length ∧ length ≠ 0) (rest : List UInt8) :
    responses.items (Modem.DVM_FRAME_START :: length :: rest) = .invalid length :: responses.items rest ∧
      responses.rest (Modem.DVM_FRAME_START :: length :: rest) = responses.rest rest := by
  have hnext : Item.next (Modem.DVM_FRAME_START :: length :: rest) = some (.invalid length, 2) := by
    rw [next.eq_def]
    dsimp only
    rw [if_neg (not_not.mpr rfl), if_neg h.2, if_pos h.1]
  have hnext : responses.next (Modem.DVM_FRAME_START :: length :: rest) = some (.invalid length, 2) := hnext
  rw [Framing.items_of_some hnext, Framing.rest_of_some hnext]
  exact ⟨rfl, rfl⟩

/-- The response of a completed frame is the item, if the flag of a double length has survived. -/
theorem typeAndPayload_completed {r : Receiver} {o : List UInt8} (h : Head o) (hall : o.length = lengthOf o)
    (hbegins : Begins r.buffer o) (hlength : r.length = lengthOf o) (htype : r.rspType = o.getD (typeAt o) 0x00)
    {own : Bool} (hflag : r.rspDoubleLength = (own && doubled o)) :
    r.typeAndPayload = (o.getD (typeAt o) 0x00, o.drop (typeAt o + 1)) ↔ (doubled o = true → own = true) := by
  have hbounds := h.bounds
  have htypeAt := typeAt_eq h (by omega)
  have hpayload : ∀ offset, offset ≤ o.length →
      Modem.octetsAt r.buffer offset (r.length - offset) = o.drop offset := by
    intro offset hoffset
    rw [hlength, ← hall]
    exact octetsAt_begins hbegins hoffset
  unfold typeAndPayload
  dsimp only
  rw [htype, Prod.mk.injEq, and_iff_right rfl, hflag]
  cases hdouble : doubled o with
  | false =>
      rw [hdouble, if_neg Bool.false_ne_true] at htypeAt
      rw [Bool.and_false, if_neg Bool.false_ne_true, htypeAt]
      exact iff_of_true (hpayload 3 (by omega)) nofun
  | true =>
      rw [hdouble, if_pos rfl] at htypeAt
      rw [Bool.and_true, htypeAt]
      cases own with
      | true =>
          rw [if_pos rfl]
          exact iff_of_true (hpayload 4 (by omega)) fun _ => rfl
      | false =>
          rw [if_neg Bool.false_ne_true]
          refine iff_of_false ?_ fun hown => nomatch hown rfl
          intro heq
          -- without the flag the payload begins with the type
          have hlen := congrArg List.length ((hpayload 3 (by omega)).symm.trans heq)
          rw [List.length_drop, List.length_drop] at hlen
          omega

/-- Nothing is counted beyond a length that every number is taken from, of those in the buffer. -/
theorem strays_eq_false_iff {m : Modem a b c} {r : Receiver} (h : r.length < BUFFER_LENGTH) :
    m.strays r = false ↔ ∀ k ∈ m.subtracted r.rspDoubleLength (r.buffer 2), k ≤ r.length := by
  unfold Modem.strays
  rw [List.any_eq_false]
  refine forall₂_congr fun k _ => ?_
  unfold BUFFER_LENGTH at h
  constructor
  · intro hk
    by_contra hlt
    exact hk (Bool.or_eq_true_iff.mpr (.inl (decide_eq_true (Nat.lt_of_not_le hlt))))
  · intro hk hor
    rcases Bool.or_eq_true_iff.mp hor with hlt | hge
    · exact absurd (of_decide_eq_true hlt) (Nat.not_lt.mpr hk)
    · have hge := of_decide_eq_true hge
      unfold Modem.sub32 BUFFER_LENGTH at hge
      rw [if_pos hk] at hge
      omega

/-- The command that decides what is subtracted is the type of the frame, where it matters. -/
theorem subtracted_completed (m : Modem a b c) {r : Receiver} {o : List UInt8} (h : Head o)
    (hall : o.length = lengthOf o) (hbegins : Begins r.buffer o) (hlength : r.length = lengthOf o) :
    (∀ k ∈ m.subtracted (doubled o) (r.buffer 2), k ≤ r.length) ↔
      ∀ k ∈ m.subtracted (doubled o) (o.getD (typeAt o) 0x00), k ≤ (o.drop (typeAt o + 1)).length + 3 := by
  have hbounds := h.bounds
  have htypeAt := typeAt_eq h (by omega)
  cases hdouble : doubled o with
  | true => exact iff_of_true nofun nofun
  | false =>
      rw [hdouble, if_neg Bool.false_ne_true] at htypeAt
      rw [htypeAt, hbegins 2 (by omega), List.length_drop, Nat.sub_add_cancel (by omega), hlength, ← hall]

/-- An octet by itself is no response. -/
theorem noResponse_octet (x : UInt8) : (responses.items [x]).filterMap response? = [] := by
  by_cases hx : x = Modem.DVM_FRAME_START
  · have hopen : responses.next [x] = none := by
      rw [hx]
      rfl
    rw [Framing.items_of_none hopen]
    rfl
  · rw [(items_noise hx).1]
    rfl

/-- What a call takes from the stream is what it has read. -/
theorem taken_eq {w stream o : List UInt8} {p : Port} (h : Arrived w stream o p) :
    w ++ stream.take (stream.length - p.stream.length) = o := by
  obtain ⟨xs, rfl⟩ := h.behind
  have hsplit : stream = xs ++ p.stream := by
    have hsplit := h.split
    rw [List.append_assoc] at hsplit
    exact List.append_cancel_left hsplit
  have hlen : stream.length - p.stream.length = xs.length := by
    rw [hsplit, List.length_append]
    omega
  rw [hlen]
  conv_lhs => rw [hsplit, List.take_left']

/-- **What a call does to the session**, for each of the ways it can return. -/
theorem call_eq {s : Serial a b c} (htracks : Tracks s) (reads : List Nat) :
    ∃ type r o, Called (responses.rest s.read) o type r ∧
      responses.rest s.read ++ (s.call reads).read.drop s.read.length = o ∧
      responses.items (s.call reads).read = responses.items s.read ++ responses.items o ∧
      responses.rest (s.call reads).read = responses.rest o ∧ (s.call reads).receiver = r ∧
      (s.call reads).delivered = s.delivered ++ (if type = .RTM_OK then [r.typeAndPayload] else []) ∧
      (s.call reads).strayed = (s.strayed || (decide (type = .RTM_OK) && s.modem.strays r)) := by
  obtain ⟨type, r, p, hres, o, harrived, hcalled⟩ :=
    getResponse_called htracks (Framing.next_rest (F := responses) s.read) s.stream reads
  have htaken := taken_eq harrived
  have hread : (s.call reads).read = s.read ++ s.stream.take (s.stream.length - p.stream.length) ∧
      (s.call reads).receiver = r ∧
      (s.call reads).delivered = s.delivered ++ (if type = .RTM_OK then [r.typeAndPayload] else []) ∧
      (s.call reads).strayed = (s.strayed || (decide (type = .RTM_OK) && s.modem.strays r)) := by
    unfold call
    rw [hres]
    dsimp only
    split
    · next hok => exact ⟨rfl, rfl, rfl, by rw [decide_eq_true hok, Bool.true_and]⟩
    · next hok =>
        refine ⟨rfl, rfl, (List.append_nil _).symm, ?_⟩
        rw [decide_eq_false hok, Bool.false_and, Bool.or_false]
  refine ⟨type, r, o, hcalled, ?_, ?_, ?_, hread.2.1, hread.2.2.1, hread.2.2.2⟩
  · rw [hread.1, List.drop_left, htaken]
  · rw [hread.1, Framing.items_append, htaken]
  · rw [hread.1, Framing.rest_append, htaken]

/-- **One call.** From a session with the right responses, a call leads to such a session exactly if it meets the
    condition, and then the members are those of what is open again. -/
theorem call_step {s : Serial a b c} (htracks : Tracks s) (hframed : Framed s) (reads : List Nat) :
    (Framed (s.call reads) ↔ Meets s reads) ∧ (Meets s reads → Tracks (s.call reads)) := by
  obtain ⟨type, r, o, hcalled, hopened, hitems, hrest, hreceiver, hdelivered, hstrayed⟩ := call_eq htracks reads
  have hmeets : Meets s reads ↔ ∀ item ∈ responses.items o, Served s.modem (responses.rest s.read).length item := by
    rw [← hopened]
    exact Iff.rfl
  have hframed' : Framed (s.call reads) ↔
      ((if type = .RTM_OK then [r.typeAndPayload] else []) = (responses.items o).filterMap response? ∧
        (responses.rest o = [] → r.rspState = .RESP_START) ∧ (type = .RTM_OK → s.modem.strays r = false)) := by
    constructor
    · rintro ⟨hd, hs, hb⟩
      rw [hdelivered, hitems, List.filterMap_append, hframed.delivered] at hd
      rw [hrest, hreceiver] at hs
      rw [hstrayed, hframed.inBounds, Bool.false_or] at hb
      refine ⟨List.append_cancel_left hd, hs, fun hok => ?_⟩
      rw [decide_eq_true hok, Bool.true_and] at hb
      exact hb
    · rintro ⟨hd, hs, hb⟩
      refine ⟨?_, ?_, ?_⟩
      · rw [hdelivered, hitems, List.filterMap_append, hframed.delivered, hd]
      · rw [hrest, hreceiver]
        exact hs
      · rw [hstrayed, hframed.inBounds, Bool.false_or]
        by_cases hok : type = .RTM_OK
        · rw [hb hok, Bool.and_false]
        · rw [decide_eq_false hok, Bool.false_and]
  have htracks' : Tracks (s.call reads) ↔ Holds r (responses.rest o) := by
    unfold Tracks
    rw [hreceiver, hrest]
  have hnil : responses.items [] = [] ∧ responses.rest [] = [] :=
    ⟨Framing.items_of_none rfl, Framing.rest_of_none rfl⟩
  rw [hframed', hmeets, htracks']
  cases hcalled with
  | waits hopen hholds =>
      have hnone : responses.next o = none := hopen
      rw [Framing.items_of_none hnone, Framing.rest_of_none hnone]
      refine ⟨iff_of_true ⟨rfl, ?_, nofun⟩ nofun, fun _ => hholds⟩
      rintro rfl
      cases hholds with
      | start hstate => exact hstate
      | frame hframe _ => exact nomatch hframe.head
  | drops hw ho hnoise hholds =>
      obtain ⟨hitems, hrest⟩ := items_noise hnoise
      rw [ho, hitems, hrest]
      refine ⟨iff_of_true ⟨rfl, fun _ => ?_, nofun⟩ ?_, fun _ => hholds⟩
      · cases hholds with
        | start hstate => exact hstate
        | frame hframe _ => exact nomatch hframe.head
      · intro item hmem
        rw [List.mem_singleton.mp hmem]
        trivial
  | completes hhead hall hbegins hlength hstate htype hflag =>
      obtain ⟨hitems, hrest⟩ := items_completed hhead hall
      rw [hitems, hrest]
      refine ⟨?_, fun _ => .start hstate⟩
      have hbounds := hhead.bounds
      have hresponse := typeAndPayload_completed hhead hall hbegins hlength htype hflag
      have hroom : r.length < BUFFER_LENGTH := by
        unfold BUFFER_LENGTH
        omega
      have hserved : (∀ item ∈ [Item.response (doubled o) (o.getD (typeAt o) 0x00) (o.drop (typeAt o + 1))],
          Served s.modem (responses.rest s.read).length item) ↔
          (doubled o = true → (responses.rest s.read).length < 3) ∧
            ∀ k ∈ s.modem.subtracted (doubled o) (o.getD (typeAt o) 0x00), k ≤ (o.drop (typeAt o + 1)).length + 3 := by
        rw [List.forall_mem_singleton]
        rfl
      have hown : (doubled o = true → decide ((responses.rest s.read).length < 3) = true) ↔
          (doubled o = true → (responses.rest s.read).length < 3) := by
        rw [decide_eq_true_iff]
      have hdelivered : ([r.typeAndPayload] = [Item.response (doubled o) (o.getD (typeAt o) 0x00)
          (o.drop (typeAt o + 1))].filterMap response?) ↔ (doubled o = true → (responses.rest s.read).length < 3) :=
        List.singleton_inj.trans (hresponse.trans hown)
      rw [hserved, if_pos rfl, hdelivered]
      refine and_congr_right fun hfew => ?_
      rw [and_iff_right fun _ => hstate, forall_prop_of_true rfl]
      have hright : r.rspDoubleLength = doubled o := by
        rw [hflag]
        cases hdouble : doubled o with
        | false => exact Bool.and_false _
        | true => rw [decide_eq_true (hfew hdouble), Bool.true_and]
      rw [strays_eq_false_iff hroom, hright]
      exact subtracted_completed s.modem hhead hall hbegins hlength
  | refuses ho hlarge hstate =>
      obtain ⟨hitems, hrest⟩ := items_invalid (invalid_of_large hlarge) []
      rw [ho, hitems, hrest, hnil.2]
      refine ⟨iff_of_false ?_ ?_, fun h => (h _ List.mem_cons_self).elim⟩
      · rintro ⟨-, hs, -⟩
        exact nomatch hstate.symm.trans (hs rfl)
      · exact fun h => h _ List.mem_cons_self
  | overlooks ho hshort hstate =>
      obtain ⟨hitems, hrest⟩ := items_invalid (invalid_of_short hshort) []
      rw [ho, hitems, hrest, hnil.2]
      refine ⟨iff_of_false ?_ ?_, fun h => (h _ List.mem_cons_self).elim⟩
      · rintro ⟨-, hs, -⟩
        exact nomatch hstate.symm.trans (hs rfl)
      · exact fun h => h _ List.mem_cons_self
  | @invents length type _ ho hshort =>
      obtain ⟨hitems, hrest⟩ := items_invalid (invalid_of_short hshort) [type]
      rw [ho, hitems]
      refine ⟨iff_of_false ?_ ?_, fun h => (h _ List.mem_cons_self).elim⟩
      · rintro ⟨hd, -⟩
        rw [if_pos rfl] at hd
        exact List.cons_ne_nil _ _ (hd.trans (noResponse_octet type))
      · exact fun h => h _ List.mem_cons_self

/-- A call on the port, as a step. -/
def Step (s : Serial a b c) (reads : List Nat) (s' : Serial a b c) : Prop := s' = s.call reads

/-- **When the responses do not depend on how they arrive.** In any run of calls, on any stream that the operating system
    splits in any way, the responses after every call are those of what has been read, the parser searches whenever no
    frame is open, and nothing is counted or looked at beyond what is there, if and only if every call meets the
    condition. -/
theorem framed_iff (m : Modem a b c) (stream : List UInt8) {l : List (List Nat × Serial a b c)}
    (hrun : Run Step (start m stream) l) : States Framed (start m stream) l ↔ Guarded Meets (start m stream) l := by
  refine hrun.states_iff_guarded (I := Tracks) (P := Framed) (G := Meets) ?_ ?_ (tracks_start m stream)
    (framed_start m stream)
  · intro s reads s' htracks hframed hmeets hstep
    obtain ⟨hiff, hkeep⟩ := call_step htracks hframed reads
    rw [hstep]
    exact ⟨hkeep hmeets, hiff.mpr hmeets⟩
  · intro s reads s' htracks hframed hstep hframed'
    rw [hstep] at hframed'
    exact (call_step htracks hframed reads).1.mp hframed'

/-- A modem with all modes enabled. -/
def exampleModem : Modem 300 300 300 := Modem.new (by decide) (by decide) (by decide) true true true

/-- An acknowledgement of three octets that comes octet by octet, in one call. -/
theorem framed_acknowledgement :
    States Framed (start exampleModem [0xFE, 3, 0x70])
      [([1, 1, 1], (start exampleModem [0xFE, 3, 0x70]).call [1, 1, 1])] := by
  refine (framed_iff exampleModem [0xFE, 3, 0x70] (.cons rfl .nil)).mpr ⟨?_, trivial⟩
  have hhead : Head [0xFE, 3, 0x70] := .single [0x70] (by decide) (by decide)
  have hnone : responses.rest [] = [] := Framing.rest_of_none rfl
  show ∀ item ∈ responses.items (responses.rest [] ++ [0xFE, 3, 0x70]), _
  rw [hnone, List.nil_append, (items_completed hhead rfl).1, List.forall_mem_singleton]
  exact ⟨nofun, by decide⟩

/-- **An invalid length is not the end of the frame**: behind it the parser takes the next octet for a length. -/
theorem invalidLength_stays : ¬States Framed (start exampleModem [0xFE, 0xFF])
    [([1, 1], (start exampleModem [0xFE, 0xFF]).call [1, 1])] := by
  intro h
  have hframed : Framed ((start exampleModem [0xFE, 0xFF]).call [1, 1]) := h.2 _ List.mem_cons_self
  have hrest : responses.rest [0xFE, 0xFF] = [] :=
    (items_invalid (invalid_of_large (show (250 : UInt8) ≤ 0xFF by decide)) []).2.trans (Framing.rest_of_none rfl)
  exact nomatch hframed.searching hrest

end Serial

end DvmHost

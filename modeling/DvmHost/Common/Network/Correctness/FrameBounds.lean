import DvmHost.Common.Network.FrameQueue

/-!
# `Common.Network.Correctness.FrameBounds` — what `read` looks at in a hostile datagram

`read` checks that a datagram holds the RTP and extension headers and nothing more: the sixteen octets of
the FNE header and the octets of the message are read without comparing the datagram's length with the
length it declares. `within_read` says exactly when the parse stays inside the datagram.
-/

namespace DvmHost

open Lib

namespace FrameQueue

/-- The checks that `read` makes on the first sixteen octets. -/
def HeadersAccepted (m : Bytes) : Prop :=
  (RTPHeader.fields m 0).version = 0x02 ∧ (RTPHeader.fields m 0).extension = true ∧
    ((RTPHeader.fields m 0).payloadType = DVM_RTP_PAYLOAD_TYPE ∨
      (RTPHeader.fields m 0).payloadType = DVM_CTRL_RTP_PAYLOAD_TYPE) ∧
    RTPFNEHeader.Announced m RTP_HEADER_LENGTH_BYTES

/-- The message length that a frame declares. -/
def declaredLength (m : Bytes) : Nat := (RTPFNEHeader.fields m RTP_HEADER_LENGTH_BYTES).messageLength.toNat

theorem headersAccepted_congr {m m' : Bytes} (h : ∀ i < 16, m i = m' i) :
    HeadersAccepted m ↔ HeadersAccepted m' := by
  unfold HeadersAccepted RTPHeader.fields RTPFNEHeader.Announced
  dsimp only
  rw [h 0 (by omega), h 1 (by omega), h 12 (by omega), h 13 (by omega), h 14 (by omega), h 15 (by omega)]

theorem declaredLength_congr {m m' : Bytes} (h : ∀ i < 32, m i = m' i) :
    declaredLength m = declaredLength m' := by
  unfold declaredLength RTPFNEHeader.fields
  dsimp only
  rw [value_getUInt32, value_getUInt32, h 28 (by omega), h 29 (by omega), h 30 (by omega), h 31 (by omega)]

/-! ## The message length as an `int` -/

theorem toInt32_neg_iff (v : UInt32) : v.toInt32.toInt < 0 ↔ 2 ^ 31 ≤ v.toNat := by
  have hlt : v.toBitVec.toNat < 2 ^ 32 := v.toBitVec.isLt
  have hint : v.toInt32.toInt = v.toBitVec.toInt := rfl
  have hnat : v.toNat = v.toBitVec.toNat := rfl
  rw [hint, hnat, BitVec.toInt_eq_toNat_cond]
  split <;> omega

theorem toInt32_of_lt {v : UInt32} (h : v.toNat < 2 ^ 31) : v.toInt32.toInt = v.toNat := by
  have hint : v.toInt32.toInt = v.toBitVec.toInt := rfl
  have hnat : v.toNat = v.toBitVec.toNat := rfl
  rw [hnat] at h ⊢
  rw [hint, BitVec.toInt_eq_toNat_cond, if_pos (by omega)]

/-! ## Inside the datagram -/

/-- The copy of the message. -/
theorem within_readMessage (m : Bytes) (r : RTPHeader) (f : RTPFNEHeader) (n : Nat) :
    (readMessage r f).Within m n ↔
      2 ^ 31 ≤ f.messageLength.toNat ∨ f.messageLength.toNat = 0 ∨
        HEADERS_LENGTH_BYTES + f.messageLength.toNat ≤ n := by
  unfold readMessage
  dsimp only
  by_cases hneg : f.messageLength.toInt32.toInt < 0
  · rw [if_pos hneg]
    exact iff_of_true (Access.within_pure _) (Or.inl ((toInt32_neg_iff _).mp hneg))
  · have hsmall : ¬ 2 ^ 31 ≤ f.messageLength.toNat := fun h => hneg ((toInt32_neg_iff _).mpr h)
    rw [if_neg hneg, toInt32_of_lt (Nat.lt_of_not_le hsmall), Access.within_bind, Access.within_cells,
      Int.toNat_natCast]
    constructor
    · rintro ⟨hcopy, -⟩
      exact Or.inr hcopy
    · rintro (hbig | hcopy)
      · exact absurd hbig hsmall
      · refine ⟨hcopy, ?_⟩
        split
        · exact Access.within_pure _
        · exact Access.within_pure _

/-- A datagram shorter than the first two headers is not looked at. -/
theorem read_of_short {length : Int} (h : length < 16) : read length = pure {} := by
  unfold read
  split
  · rfl
  · split
    · exact if_pos h
    · rfl

/-- **How far `read` goes**: over the first sixteen octets, and on accepted headers over all thirty-two and
    as many octets as the frame declares. -/
theorem within_read (m : Bytes) {n : Nat} (hn : 16 ≤ n) :
    (read n).Within m n ↔
      (HeadersAccepted m → 32 ≤ n ∧ (2 ^ 31 ≤ declaredLength m ∨ 32 + declaredLength m ≤ n)) := by
  have h12 : RTP_HEADER_LENGTH_BYTES = 12 := rfl
  have h4 : RTP_EXTENSION_HEADER_LENGTH_BYTES = 4 := rfl
  have hheaders : HEADERS_LENGTH_BYTES = 32 := rfl
  unfold read
  rw [if_neg (by omega), if_pos (by omega), if_neg (by omega), Access.within_bind, RTPHeader.value_decode]
  have hrtp : (RTPHeader.decode 0).Within m n := RTPHeader.decode_within (by omega)
  refine (and_iff_right hrtp).trans ?_
  by_cases hv : (RTPHeader.fields m 0).version = 0x02
  · rw [if_pos hv]
    dsimp only
    by_cases hext : (RTPHeader.fields m 0).extension = true
    · rw [if_neg (by rw [hext]; decide)]
      by_cases hpt : (RTPHeader.fields m 0).payloadType ≠ DVM_RTP_PAYLOAD_TYPE ∧
          (RTPHeader.fields m 0).payloadType ≠ DVM_CTRL_RTP_PAYLOAD_TYPE
      · rw [if_pos hpt]
        exact iff_of_true (Access.within_pure _) fun h => (h.2.2.1.elim hpt.1 hpt.2).elim
      · rw [if_neg hpt, Access.within_bind, RTPFNEHeader.value_decode, RTPFNEHeader.decode_within]
        have hpt' : (RTPHeader.fields m 0).payloadType = DVM_RTP_PAYLOAD_TYPE ∨
            (RTPHeader.fields m 0).payloadType = DVM_CTRL_RTP_PAYLOAD_TYPE := by
          by_cases h : (RTPHeader.fields m 0).payloadType = DVM_RTP_PAYLOAD_TYPE
          · exact Or.inl h
          · exact Or.inr (not_not.mp fun h' => hpt ⟨h, h'⟩)
        by_cases hann : RTPFNEHeader.Announced m RTP_HEADER_LENGTH_BYTES
        · rw [if_pos hann]
          dsimp only
          rw [within_readMessage]
          have hacc : HeadersAccepted m := ⟨hv, hext, hpt', hann⟩
          have hlen : (RTPFNEHeader.fields m RTP_HEADER_LENGTH_BYTES).messageLength.toNat =
              declaredLength m := rfl
          rw [hlen]
          constructor
          · rintro ⟨⟨-, hfne⟩, hmsg⟩ -
            have := hfne hann
            omega
          · intro h
            obtain ⟨h32, hmsg⟩ := h hacc
            exact ⟨⟨by omega, fun _ => by omega⟩, by omega⟩
        · rw [if_neg hann]
          refine iff_of_true ⟨⟨by omega, fun h => absurd h hann⟩, Access.within_pure _⟩ ?_
          exact fun h => absurd h.2.2.2 hann
    · rw [if_pos (by simpa using hext)]
      exact iff_of_true (Access.within_pure _) fun h => absurd h.2.1 hext
  · rw [if_neg hv]
    exact iff_of_true (Access.within_pure _) fun h => absurd h.1 hv

/-! ## What is returned -/

/-- On accepted headers the message is copied and checked. -/
theorem value_read_of_accepted {m : Bytes} {n : Nat} (hn : 16 ≤ n) (h : HeadersAccepted m) :
    (read n).value m =
      (readMessage (RTPHeader.fields m 0) (RTPFNEHeader.fields m RTP_HEADER_LENGTH_BYTES)).value m := by
  obtain ⟨hv, hext, hpt, hann⟩ := h
  have h12 : RTP_HEADER_LENGTH_BYTES = 12 := rfl
  have h4 : RTP_EXTENSION_HEADER_LENGTH_BYTES = 4 := rfl
  unfold read
  rw [if_neg (by omega), if_pos (by omega), if_neg (by omega), Access.value_bind, RTPHeader.value_decode,
    if_pos hv]
  dsimp only
  rw [if_neg (by rw [hext]; decide), if_neg (fun hno => hpt.elim hno.1 hno.2), Access.value_bind,
    RTPFNEHeader.value_decode, if_pos hann]

/-- On rejected headers nothing is returned. -/
theorem message_of_not_accepted {m : Bytes} {n : Nat} (hn : 16 ≤ n) (h : ¬ HeadersAccepted m) :
    ((read n).value m).message = none := by
  have h12 : RTP_HEADER_LENGTH_BYTES = 12 := rfl
  have h4 : RTP_EXTENSION_HEADER_LENGTH_BYTES = 4 := rfl
  unfold read
  rw [if_neg (by omega), if_pos (by omega), if_neg (by omega), Access.value_bind, RTPHeader.value_decode]
  split
  · rfl
  · next r hr =>
      obtain ⟨hv, hfields⟩ := Option.ite_none_right_eq_some.mp hr
      obtain rfl := Option.some.inj hfields
      by_cases hext : (RTPHeader.fields m 0).extension = true
      · rw [if_neg (by rw [hext]; decide)]
        split
        · rfl
        · next hpt =>
            rw [Access.value_bind, RTPFNEHeader.value_decode]
            by_cases hann : RTPFNEHeader.Announced m RTP_HEADER_LENGTH_BYTES
            · -- every check passed: the headers were accepted
              refine absurd ⟨hv, hext, ?_, hann⟩ h
              by_contra hno
              exact hpt ⟨fun he => hno (Or.inl he), fun he => hno (Or.inr he)⟩
            · rw [if_neg hann]
              rfl
      · rw [if_pos (by simpa using hext)]
        rfl

/-- A negative `int` length throws before anything is copied. -/
theorem message_of_negative {m : Bytes} {r : RTPHeader} {f : RTPFNEHeader}
    (h : 2 ^ 31 ≤ f.messageLength.toNat) :
    ((readMessage r f).value m).message = none := by
  unfold readMessage
  dsimp only
  rw [if_pos ((toInt32_neg_iff _).mpr h)]
  rfl

/-! ## Hostile datagrams -/

/-- Reading a datagram is confined to it: no octet outside the part received is looked at, and a datagram
    shorter than its headers and the message it declares gives no message. -/
def Confined (d : UDPDatagram) (stack : Bytes) : Prop :=
  (read d.socketRead).Within (d.receiveBuffer stack) d.received ∧
    (d.length < HEADERS_LENGTH_BYTES + declaredLength d.buffer → (readDatagram d stack).message = none)

theorem receiveBuffer_of_lt {d : UDPDatagram} (stack : Bytes) {i : Nat} (h : i < d.received) :
    d.receiveBuffer stack i = d.buffer i := if_pos h

/-- **When `read` is confined**: the datagram is shorter than the first two headers, or these are rejected, or
    all three headers are there and the declared length is a negative `int` or is covered by what was
    received. -/
theorem confined_iff (d : UDPDatagram) (stack : Bytes) :
    Confined d stack ↔
      d.received < RTP_HEADER_LENGTH_BYTES + RTP_EXTENSION_HEADER_LENGTH_BYTES ∨ ¬ HeadersAccepted d.buffer ∨
        (HEADERS_LENGTH_BYTES ≤ d.received ∧
          (2 ^ 31 ≤ declaredLength d.buffer ∨ HEADERS_LENGTH_BYTES +
          declaredLength d.buffer ≤ d.received)) := by
  have h16 : RTP_HEADER_LENGTH_BYTES + RTP_EXTENSION_HEADER_LENGTH_BYTES = 16 := rfl
  have h32 : HEADERS_LENGTH_BYTES = 32 := rfl
  have hcut : d.received ≤ d.length := Nat.min_le_left _ _
  rw [h16, h32]
  rcases Nat.lt_or_ge d.received 16 with hshort | hlong
  · -- nothing is looked at and nothing returned
    have hret : read d.socketRead = pure {} := by
      apply read_of_short
      unfold UDPDatagram.socketRead
      split <;> omega
    refine iff_of_true ⟨?_, fun _ => ?_⟩ (Or.inl hshort)
    · rw [hret]
      exact Access.within_pure _
    · unfold readDatagram
      rw [hret]
      rfl
  · have hsock : d.socketRead = (d.received : Int) := if_neg (by omega)
    have hacc : HeadersAccepted (d.receiveBuffer stack) ↔ HeadersAccepted d.buffer :=
      headersAccepted_congr fun i hi => receiveBuffer_of_lt stack (by omega)
    have hdecl : 32 ≤ d.received → declaredLength (d.receiveBuffer stack) = declaredLength d.buffer := fun h =>
      declaredLength_congr fun i hi => receiveBuffer_of_lt stack (by omega)
    unfold Confined readDatagram
    rw [hsock, within_read _ hlong, hacc, h32]
    constructor
    · rintro ⟨hin, -⟩
      by_cases h : HeadersAccepted d.buffer
      · obtain ⟨hall, hmsg⟩ := hin h
        rw [hdecl hall] at hmsg
        exact Or.inr (Or.inr ⟨hall, hmsg⟩)
      · exact Or.inr (Or.inl h)
    · rintro (hshort | hrej | ⟨hall, hmsg⟩)
      · exact absurd hlong (by omega)
      · exact ⟨fun h => absurd h hrej, fun _ => message_of_not_accepted hlong (fun h => hrej (hacc.mp h))⟩
      · rw [hdecl hall]
        refine ⟨fun _ => ⟨hall, hmsg⟩, fun hless => ?_⟩
        by_cases h : HeadersAccepted (d.receiveBuffer stack)
        · rw [value_read_of_accepted hlong h]
          apply message_of_negative
          change 2 ^ 31 ≤ declaredLength (d.receiveBuffer stack)
          rw [hdecl hall]
          omega
        · exact message_of_not_accepted hlong h

theorem read_local (length : Int) : Access.Local (read length) := by
  unfold read
  split
  · exact Access.local_pure _
  split
  · split
    · exact Access.local_pure _
    refine Access.local_bind (RTPHeader.decode_local _) fun r => ?_
    split
    · exact Access.local_pure _
    split
    · exact Access.local_pure _
    split
    · exact Access.local_pure _
    refine Access.local_bind (RTPFNEHeader.decode_local _) fun f => ?_
    split
    · exact Access.local_pure _
    unfold readMessage
    dsimp only
    split
    · exact Access.local_pure _
    refine Access.local_bind (Access.local_cells _ _) fun message => ?_
    split
    · exact Access.local_pure _
    · exact Access.local_pure _
  · exact Access.local_pure _

/-- **A confined read leaks nothing**: its result is the same whatever lies behind the datagram. -/
theorem readDatagram_of_confined {d : UDPDatagram} {stack : Bytes} (h : Confined d stack) (stack' : Bytes) :
    readDatagram d stack = readDatagram d stack' := by
  refine congrArg Prod.fst ((read_local _).eq_of_within h.1 fun i hi => ?_)
  rw [receiveBuffer_of_lt stack hi, receiveBuffer_of_lt stack' hi]

/-- A datagram of thirty-two octets that declares a message of one. -/
def lyingDatagram : UDPDatagram where
  buffer := octets
    [0x90, 0x56, 0x00, 0x00, 0x00, 0x00, 0x00, 0x00, 0x00, 0x00, 0x00, 0x00, 0x00, 0xFE, 0x00, 0x04,
     0xE1, 0xF0, 0x00, 0x00, 0x00, 0x00, 0x00, 0x00, 0x00, 0x00, 0x00, 0x00, 0x00, 0x00, 0x00, 0x01]
  length := 32

/-- The octet behind the lying datagram is returned as its message. -/
theorem not_confined : ¬ ∀ (d : UDPDatagram) (stack : Bytes), Confined d stack := by
  intro h
  have hnone := (h lyingDatagram fun _ => 0x00).2 (by decide)
  have hsome : (readDatagram lyingDatagram fun _ => 0x00).message = some [0x00] := by decide +kernel
  rw [hsome] at hnone
  cases hnone

end FrameQueue

end DvmHost

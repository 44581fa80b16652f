import DvmHost.Host.P25.Packet.Correctness.RadioCallSteps
import DvmHost.Lib.Run

/-!
# `Host.P25.Packet.Correctness.Alternation` — the order of the LDUs of a radio's call

What is forwarded of a call goes to the network, and on a duplex host to the air (`Channel`). Both begin with an LDU1,
and from the second LDU on no two of a kind follow one another, as long as no header comes in between (`Alternating`).
The start of a call sets `m_lastDUID` as a header does, and directly behind either a header is taken for an LDU1
(`Orderly`).
-/

namespace DvmHost

open RPT_RF_STATE RPT_NET_STATE Lib

namespace P25

namespace Voice

/-! ## What is forwarded -/

/-- Where the LDUs of a call go. -/
inductive Channel where
  | network
  | air

namespace Channel

/-- The LDU of an entry. The header of a call is none. -/
def pick : Channel → VoiceEvent → Option UInt8
  | .network, .written duid _ => some duid
  | .air, .repeated duid _ => if duid = P25_DUID_HDU then none else some duid
  | _, _ => none

/-- Whether the host has it. -/
def isOpen (c : VoiceSettings) : Channel → Bool
  | .network => c.hasNetwork
  | .air => c.duplex

end Channel

/-! ## Alternation -/

/-- Two LDUs of a different kind, or a header and another frame. -/
def Differ (x y : UInt8) : Prop := x = P25_DUID_HDU ∨ y = P25_DUID_HDU ∨ x ≠ y

/-- **An LDU1, and then frames that alternate.** -/
def Alternating : List UInt8 → Prop
  | [] => True
  | first :: rest => first = P25_DUID_LDU1 ∧ rest.IsChain Differ

/-- The frames of a call go on with one that differs from the last, unless that was the first. -/
theorem Alternating.push {rest : List UInt8} {k : UInt8} (h : Alternating (P25_DUID_LDU1 :: rest))
    (hlast : ∀ x, rest.getLast? = some x → Differ x k) : Alternating (P25_DUID_LDU1 :: rest ++ [k]) := by
  refine ⟨rfl, List.isChain_append.mpr ⟨h.2, List.isChain_singleton k, fun x hx y hy => ?_⟩⟩
  obtain rfl : k = y := Option.some.inj hy
  exact hlast x hx

/-- A header may come at any place but the first. -/
theorem Alternating.header {l : List UInt8} (h : Alternating l) (hne : l ≠ []) : Alternating (l ++ [P25_DUID_HDU]) := by
  cases l with
  | nil => exact absurd rfl hne
  | cons first rest =>
      obtain ⟨rfl, hchain⟩ := h
      exact Alternating.push ⟨rfl, hchain⟩ fun _ _ => .inr (.inl rfl)

/-! ## Calls -/

/-- The last of the frames that are remembered: those that `m_lastDUID` is set for. -/
inductive LastFrame where
  /-- A header that was processed as one. -/
  | header
  /-- The LDU1 that a call began with. -/
  | first
  /-- Another one. -/
  | other
deriving DecidableEq

/-- The host; the last frame; and of the call that is on, the LDUs that were forwarded, with the headers that came
    between them. -/
structure Watched where
  voice : Voice
  last : LastFrame
  forwarded : Channel → List UInt8

namespace Watched

variable (c : VoiceSettings)

/-- Whether a radio's call is on. -/
def IsOn (t : Watched) : Prop := t.voice.site.rfState = RS_RF_AUDIO

instance (t : Watched) : Decidable t.IsOn := inferInstanceAs (Decidable (_ = _))

/-- A host, before anything is received. -/
def of (s : Voice) : Watched := ⟨s, .other, fun _ => []⟩

/-- Whether a frame comes directly behind a header, or behind the LDU1 that a call began with. -/
def behind (t : Watched) : Bool := decide (t.last ≠ .other)

/-- What there is of the call in front of the LDUs of a frame. -/
def before (t : Watched) (header : Bool) (ch : Channel) : List UInt8 :=
  if t.IsOn then (if header && !(t.forwarded ch).isEmpty then t.forwarded ch ++ [P25_DUID_HDU] else t.forwarded ch)
  else []

/-- A frame is received. -/
def watch (t : Watched) (answers : Answers) (duid : UInt8) (data : Bytes) : Watched :=
  let after := (t.voice.process c answers duid data).2
  let header := decide (duid = P25_DUID_HDU) && !t.behind
  { voice := after
    last :=
      if header then .header
      else if duid = P25_DUID_HDU ∨ duid = P25_DUID_LDU1 then
        (if t.voice.begins c answers data then .first else .other)
      else if duid = P25_DUID_LDU2 ∨ duid = P25_DUID_TDU then .other
      else t.last
    forwarded := fun ch => t.before header ch ++ (after.log.drop t.voice.log.length).filterMap ch.pick }

/-- What comes: a frame, or something outside of the frames that leaves the host in another state. -/
inductive Input where
  | frame (answers : Answers) (duid : UInt8) (data : Bytes)
  | outside (s : Voice)

/-- Outside of the frames a call may end or time out. A lost call leaves `m_lastDUID` as a terminator does. -/
inductive Step (t : Watched) : Input → Watched → Prop where
  | frame (answers : Answers) (duid : UInt8) (data : Bytes) : Step t (.frame answers duid data) (t.watch c answers duid data)
  | outside (s : Voice)
      (hkept : s.site.rfState = RS_RF_AUDIO →
        t.IsOn ∧ s.lastDUID = t.voice.lastDUID ∧ (t.voice.rfTimedOut = true → s.rfTimedOut = true))
      (hlast : s.lastDUID = t.voice.lastDUID ∨ s.lastDUID = P25_DUID_TDU) :
      Step t (.outside s)
        { t with voice := s, last := if s.lastDUID = t.voice.lastDUID then t.last else .other }

/-- What holds besides: what `m_lastDUID` is, and that of a call which has not timed out every open channel has had its
    LDU1, and from the second LDU on the last frame is the one that `m_lastDUID` is of. -/
structure Kept (t : Watched) : Prop where
  alternating : ∀ ch, Alternating (t.forwarded ch)
  behind : t.behind = true ↔ t.voice.lastDUID = P25_DUID_HDU
  linked : ∀ ch : Channel, ch.isOpen c = true → t.IsOn → t.voice.rfTimedOut = false →
    ∃ rest, t.forwarded ch = P25_DUID_LDU1 :: rest ∧
      ∀ x, rest.getLast? = some x → x = P25_DUID_HDU ∨ x = t.voice.lastDUID

variable {c} {t : Watched}

theorem Kept.before (h : Kept c t) (header : Bool) (ch : Channel) : Alternating (t.before header ch) := by
  unfold Watched.before
  split
  · split
    · rename_i hmarked
      refine (h.alternating ch).header fun hnil => ?_
      rw [hnil] at hmarked
      exact absurd hmarked (by simp)
    · exact h.alternating ch
  · trivial

end Watched

end Voice

end P25

end DvmHost

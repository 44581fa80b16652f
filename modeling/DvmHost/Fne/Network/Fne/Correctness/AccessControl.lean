import DvmHost.Fne.Network.Fne.Correctness.CallArbitration

/-!
# `Fne.Network.Fne.Correctness.AccessControl` — who gets the voice of a talkgroup

A rule names a talkgroup, says whether it is active, and bars peers by two lists. P25 and NXDN look up the rule of
every group voice frame, for the sender and for each receiver. DMR compares the data type of the frame with the
opcodes of the link control: a voice header is taken for neither a group nor a private call, nor is a voice burst, and
the rule is not looked at.
-/

namespace DvmHost

open Lib

namespace TalkgroupRuleGroupVoice

/-- The rule bars a peer: it is not on the inclusion list, or, when that is empty, it is on the exclusion list. -/
def Bars (tg : TalkgroupRuleGroupVoice) (peerId : UInt32) : Prop :=
  if tg.config.inclusion = [] then peerId ∈ tg.config.exclusion else peerId ∉ tg.config.inclusion

theorem permits_iff {tg : TalkgroupRuleGroupVoice} {peerId : UInt32} :
    tg.permits peerId = true ↔ ¬ tg.Bars peerId := by
  unfold permits Bars
  cases hinc : tg.config.inclusion with
  | cons p ps => simp [or_iff_not_imp_left]
  | nil =>
      cases hexc : tg.config.exclusion with
      | cons p ps => simp
      | nil => simp

end TalkgroupRuleGroupVoice

/-- A radio id that is known and not enabled. -/
def RadioIdLookup.Disabled (l : RadioIdLookup) (id : UInt32) : Prop :=
  (l.find id).radioDefault = false ∧ (l.find id).radioEnabled = false

theorem RadioIdLookup.isAllowed_eq_false_iff {l : RadioIdLookup} {id : UInt32} :
    l.isAllowed id = false ↔ l.Disabled id := by
  unfold RadioIdLookup.isAllowed RadioIdLookup.Disabled
  exact Bool.or_eq_false_iff

/-- All peers that a frame is repeated to. -/
def Processed.receivers {S : Type} (p : Processed S) : List UInt32 := p.repeated ++ p.upstream

/-- **Access control** of a frame: group voice goes to a peer only under an active rule that bars neither the sender
    nor the receiver, and a frame of a disabled radio goes nowhere. -/
structure Controlled (ctx : TrafficContext) (tg : TalkgroupRuleGroupVoice) (srcId peerId : UInt32)
    (groupVoice : Bool) (receivers : List UInt32) : Prop where
  rule : groupVoice = true → ∀ r ∈ receivers, tg.config.active = true ∧ ¬ tg.Bars peerId ∧ ¬ tg.Bars r
  source : ctx.m_ridLookup.Disabled srcId → receivers = []

/-- A frame is repeated to permitted peers only. -/
theorem TrafficContext.mem_repeatTo {ctx : TrafficContext} {peerId dstId r : UInt32} {permitted : UInt32 → Bool}
    (h : r ∈ (ctx.repeatTo peerId dstId permitted).1 ++ (ctx.repeatTo peerId dstId permitted).2) :
    permitted r = true := by
  unfold TrafficContext.repeatTo at h
  dsimp only at h
  rcases List.mem_append.mp h with hr | hr
  · have hpass := (List.mem_filter.mp hr).2
    rw [Bool.and_eq_true] at hpass
    exact hpass.2
  · split at hr
    · exact (List.mem_filter.mp hr).2
    · exact absurd hr List.not_mem_nil

/-- What is left of an admitted frame goes to targets only. -/
theorem RxStatus.mem_receivers_outcome {handled : UnorderedMap UInt32 RxStatus × Bool}
    {targets : List UInt32 × List UInt32} {r : UInt32} (h : r ∈ (outcome handled targets).receivers) :
    r ∈ targets.1 ++ targets.2 := by
  unfold outcome Processed.receivers at h
  split at h
  · exact absurd h List.not_mem_nil
  · exact h

/-! ## P25 -/

namespace TagP25Data

/-- An LDU of a group call. -/
def Frame.isGroupVoice (f : Frame) : Bool :=
  (f.duid = P25_DUID_LDU1 || f.duid = P25_DUID_LDU2) && f.lco ≠ LC_PRIVATE

/-- A frame that is repeated is valid, from a permitted peer to a permitted peer. -/
theorem mem_receivers {m_status : UnorderedMap UInt32 RxStatus} {i : FrameCall} {r : UInt32}
    (h : r ∈ (process m_status i).receivers) :
    validate i.ctx (Frame.read i.data) = true ∧ isPeerPermitted i.ctx (Frame.read i.data) i.peerId = true ∧
      isPeerPermitted i.ctx (Frame.read i.data) r = true := by
  cases hsig : signal i with
  | none =>
      rw [process_refused m_status i hsig] at h
      exact absurd h List.not_mem_nil
  | some f =>
      rw [process_admitted m_status i f hsig] at h
      have hr := TrafficContext.mem_repeatTo (RxStatus.mem_receivers_outcome h)
      unfold signal at hsig
      dsimp only at hsig
      split at hsig
      · next hok =>
        rw [Bool.and_eq_true] at hok
        exact ⟨hok.1, hok.2, hr⟩
      · exact absurd hsig (by simp)

/-- The rule that a valid group voice frame is under is active. -/
theorem active_of_validate {ctx : TrafficContext} {f : Frame} (hgroup : f.isGroupVoice = true)
    (h : validate ctx f = true) : (ctx.m_tidLookup.find f.dstId 0).config.active = true := by
  unfold Frame.isGroupVoice at hgroup
  unfold validate Frame.isControl Frame.isTerminator at h
  rw [Bool.and_eq_true, Bool.or_eq_true, decide_eq_true_eq, decide_eq_true_eq, decide_eq_true_eq] at hgroup
  obtain ⟨hduid, hlco⟩ := hgroup
  split at h
  · exact absurd h (by simp)
  · rcases hduid with hduid | hduid
    · simpa [hduid, hlco, P25_DUID_LDU1, P25_DUID_TSDU, P25_DUID_PDU, P25_DUID_TDU, P25_DUID_TDULC] using h
    · simpa [hduid, hlco, P25_DUID_LDU2, P25_DUID_TSDU, P25_DUID_PDU, P25_DUID_TDU, P25_DUID_TDULC] using h

/-- A peer that a group voice frame is permitted to is not barred. -/
theorem not_bars_of_permitted {ctx : TrafficContext} {f : Frame} {p : UInt32} (hgroup : f.isGroupVoice = true)
    (h : isPeerPermitted ctx f p = true) : ¬ (ctx.m_tidLookup.find f.dstId 0).Bars p := by
  rw [← TalkgroupRuleGroupVoice.permits_iff]
  unfold Frame.isGroupVoice at hgroup
  unfold isPeerPermitted Frame.isControl Frame.isTerminator at h
  rw [Bool.and_eq_true, Bool.or_eq_true, decide_eq_true_eq, decide_eq_true_eq, decide_eq_true_eq] at hgroup
  obtain ⟨hduid, hlco⟩ := hgroup
  rcases hduid with hduid | hduid
  · simpa [hduid, hlco, P25_DUID_LDU1, P25_DUID_TSDU, P25_DUID_PDU, P25_DUID_TDU, P25_DUID_TDULC] using h
  · simpa [hduid, hlco, P25_DUID_LDU2, P25_DUID_TSDU, P25_DUID_PDU, P25_DUID_TDU, P25_DUID_TDULC] using h

/-- A disabled radio has no valid frame. -/
theorem validate_of_disabled {ctx : TrafficContext} {f : Frame} (h : ctx.m_ridLookup.Disabled f.srcId) :
    validate ctx f = false := by
  unfold validate
  rw [RadioIdLookup.isAllowed_eq_false_iff.mpr h]
  rfl

/-- **P25 controls the access** of every frame. -/
theorem controlled (m_status : UnorderedMap UInt32 RxStatus) (i : FrameCall) :
    Controlled i.ctx (i.ctx.m_tidLookup.find (Frame.read i.data).dstId 0) (Frame.read i.data).srcId i.peerId
      (Frame.read i.data).isGroupVoice (process m_status i).receivers := by
  refine ⟨fun hgroup r hr => ?_, fun hdisabled => ?_⟩
  · obtain ⟨hvalid, hsender, hreceiver⟩ := mem_receivers hr
    exact ⟨active_of_validate hgroup hvalid, not_bars_of_permitted hgroup hsender,
      not_bars_of_permitted hgroup hreceiver⟩
  · refine List.eq_nil_iff_forall_not_mem.mpr fun r hr => ?_
    have hvalid := (mem_receivers hr).1
    rw [validate_of_disabled hdisabled] at hvalid
    exact absurd hvalid (by simp)

end TagP25Data

/-! ## NXDN -/

namespace TagNXDNData

/-- A voice call frame of a group call. -/
def Frame.isGroupVoice (f : Frame) : Bool := f.messageType = Nxdn.RTCH_MESSAGE_TYPE_VCALL && f.group

/-- A frame that is repeated is valid, from a permitted peer to a permitted peer. -/
theorem mem_receivers {m_status : UnorderedMap UInt32 RxStatus} {i : FrameCall} {r : UInt32}
    (h : r ∈ (process m_status i).receivers) :
    validate i.ctx (Frame.read i.data) = true ∧ isPeerPermitted i.ctx (Frame.read i.data) i.peerId = true ∧
      isPeerPermitted i.ctx (Frame.read i.data) r = true := by
  cases hsig : signal i with
  | none =>
      rw [process_refused m_status i hsig] at h
      exact absurd h List.not_mem_nil
  | some f =>
      rw [process_admitted m_status i f hsig] at h
      have hr := TrafficContext.mem_repeatTo (RxStatus.mem_receivers_outcome h)
      unfold signal at hsig
      dsimp only at hsig
      split at hsig
      · next hok =>
        rw [Bool.and_eq_true] at hok
        exact ⟨hok.1, hok.2, hr⟩
      · exact absurd hsig (by simp)

/-- The rule that a valid group voice frame is under is active. -/
theorem active_of_validate {ctx : TrafficContext} {f : Frame} (hgroup : f.isGroupVoice = true)
    (h : validate ctx f = true) : (ctx.m_tidLookup.find f.lcDstId 0).config.active = true := by
  unfold Frame.isGroupVoice at hgroup
  unfold validate Frame.isTerminator at h
  rw [Bool.and_eq_true, decide_eq_true_eq] at hgroup
  obtain ⟨htype, hgroup⟩ := hgroup
  split at h
  · exact absurd h (by simp)
  · simpa [htype, hgroup, Nxdn.RTCH_MESSAGE_TYPE_VCALL, Nxdn.RTCH_MESSAGE_TYPE_TX_REL,
      Nxdn.RTCH_MESSAGE_TYPE_TX_REL_EX] using h

/-- A peer that a group voice frame is permitted to is not barred. -/
theorem not_bars_of_permitted {ctx : TrafficContext} {f : Frame} {p : UInt32} (hgroup : f.isGroupVoice = true)
    (h : isPeerPermitted ctx f p = true) : ¬ (ctx.m_tidLookup.find f.lcDstId 0).Bars p := by
  rw [← TalkgroupRuleGroupVoice.permits_iff]
  unfold Frame.isGroupVoice at hgroup
  unfold isPeerPermitted at h
  rw [Bool.and_eq_true] at hgroup
  simpa [hgroup.2] using h

/-- A disabled radio has no valid frame. -/
theorem validate_of_disabled {ctx : TrafficContext} {f : Frame} (h : ctx.m_ridLookup.Disabled f.lcSrcId) :
    validate ctx f = false := by
  unfold validate
  rw [RadioIdLookup.isAllowed_eq_false_iff.mpr h]
  rfl

/-- **NXDN controls the access** of every frame; its ids are of sixteen bits. -/
theorem controlled (m_status : UnorderedMap UInt32 RxStatus) (i : FrameCall) :
    Controlled i.ctx (i.ctx.m_tidLookup.find (Frame.read i.data).lcDstId 0) (Frame.read i.data).lcSrcId i.peerId
      (Frame.read i.data).isGroupVoice (process m_status i).receivers := by
  refine ⟨fun hgroup r hr => ?_, fun hdisabled => ?_⟩
  · obtain ⟨hvalid, hsender, hreceiver⟩ := mem_receivers hr
    exact ⟨active_of_validate hgroup hvalid, not_bars_of_permitted hgroup hsender,
      not_bars_of_permitted hgroup hreceiver⟩
  · refine List.eq_nil_iff_forall_not_mem.mpr fun r hr => ?_
    have hvalid := (mem_receivers hr).1
    rw [validate_of_disabled hdisabled] at hvalid
    exact absurd hvalid (by simp)

end TagNXDNData

/-! ## DMR -/

namespace TagDMRData

/-- The header or a voice burst of a group call: the flag in the frame is that of a group. -/
def isGroupVoice (data : Bytes) : Bool :=
  data 15 &&& 0x40 ≠ 0x40 && ((Frame.read data).isHeader || !(Frame.read data).dataSync)

/-- The call that is entered for the destination and the slot does not keep the frame away. -/
def Collides (m_status : UnorderedMap UInt32 RxStatus) (f : Frame) (streamId : UInt32) : Prop :=
  f.isHeader = true ∧ ∃ v, findStatus m_status f = some v ∧ streamId ≠ v.streamId ∧ v.srcId ≠ 0 ∧ v.srcId ≠ f.srcId

/-- **The group voice that the rules happen to allow**: its source is disabled, or it collides, or the rule of its
    talkgroup is active and bars neither its sender nor anybody that is connected. -/
def HappensAllowed (m_status : UnorderedMap UInt32 RxStatus) (i : FrameCall) : Prop :=
  let f := Frame.read i.data
  let tg := i.ctx.m_tidLookup.find f.dstId f.slotNo
  let everybody := i.ctx.repeatTo i.peerId f.dstId fun _ => true
  isGroupVoice i.data = true → ¬ i.ctx.m_ridLookup.Disabled f.srcId → ¬ Collides m_status f i.streamId →
    ∀ r ∈ everybody.1 ++ everybody.2, tg.config.active = true ∧ ¬ tg.Bars i.peerId ∧ ¬ tg.Bars r

/-- The data type of a group voice frame is neither opcode of the link control, nor that of a terminator. -/
theorem getDataType_of_groupVoice {data : Bytes} (h : isGroupVoice data = true) :
    (Frame.read data).getDataType ≠ Dmr.FLCO_PRIVATE ∧ (Frame.read data).getDataType ≠ Dmr.FLCO_GROUP ∧
      (Frame.read data).getDataType ≠ Dmr.DT_TERMINATOR_WITH_LC := by
  unfold isGroupVoice at h
  rw [Bool.and_eq_true, Bool.or_eq_true] at h
  unfold Frame.getDataType
  rcases h.2 with hheader | hburst
  · unfold Frame.isHeader at hheader
    rw [Bool.and_eq_true, decide_eq_true_eq] at hheader
    rw [if_pos hheader.1, hheader.2]
    decide
  · rw [Bool.not_eq_true'] at hburst
    rw [hburst, if_neg Bool.false_ne_true]
    cases (Frame.read data).voiceSync with
    | true =>
        rw [if_pos rfl]
        decide
    | false =>
        rw [if_neg Bool.false_ne_true]
        decide

/-- Group voice is valid unless its source is disabled, -/
theorem validate_of_groupVoice {ctx : TrafficContext} {data : Bytes} (h : isGroupVoice data = true) :
    validate ctx (Frame.read data) = ctx.m_ridLookup.isAllowed (Frame.read data).srcId := by
  obtain ⟨hprivate, hgroup, hterm⟩ := getDataType_of_groupVoice h
  unfold validate
  cases ctx.m_ridLookup.isAllowed (Frame.read data).srcId with
  | false => rfl
  | true => simp [hprivate, hgroup, hterm]

/-- and it is permitted to every peer. -/
theorem permitted_of_groupVoice {ctx : TrafficContext} {data : Bytes} (h : isGroupVoice data = true) :
    isPeerPermitted ctx (Frame.read data) = fun _ => true := by
  obtain ⟨hprivate, hgroup, -⟩ := getDataType_of_groupVoice h
  funext p
  unfold isPeerPermitted
  rw [if_neg hprivate, if_neg hgroup]

theorem isTerminator_of_groupVoice {data : Bytes} (h : isGroupVoice data = true) :
    (Frame.read data).isTerminator = false := by
  have hterm := (getDataType_of_groupVoice h).2.2
  unfold Frame.getDataType at hterm
  unfold Frame.isTerminator
  cases hsync : (Frame.read data).dataSync with
  | false => rfl
  | true =>
      rw [hsync, if_pos rfl] at hterm
      simpa using hterm

theorem collides_iff {m_status : UnorderedMap UInt32 RxStatus} {f : Frame} {streamId : UInt32} :
    Collides m_status f streamId ↔ f.isHeader = true ∧ (startCall m_status f streamId).2 = true := by
  unfold Collides startCall
  cases findStatus m_status f with
  | none => simp
  | some v => simp

/-- Whom group voice goes to. -/
theorem receivers_of_groupVoice {m_status : UnorderedMap UInt32 RxStatus} {i : FrameCall}
    (h : isGroupVoice i.data = true) (hallowed : ¬ i.ctx.m_ridLookup.Disabled (Frame.read i.data).srcId)
    (hfree : ¬ Collides m_status (Frame.read i.data) i.streamId) :
    (process m_status i).receivers =
      (i.ctx.repeatTo i.peerId (Frame.read i.data).dstId fun _ => true).1 ++
        (i.ctx.repeatTo i.peerId (Frame.read i.data).dstId fun _ => true).2 := by
  rw [← RadioIdLookup.isAllowed_eq_false_iff, Bool.not_eq_false] at hallowed
  rw [collides_iff] at hfree
  unfold process processFrame
  dsimp only
  rw [validate_of_groupVoice h, hallowed, permitted_of_groupVoice h, isTerminator_of_groupVoice h]
  cases hheader : (Frame.read i.data).isHeader with
  | false => simp [Processed.receivers]
  | true =>
      have hcoll : (startCall m_status (Frame.read i.data) i.streamId).2 = false := by
        rw [← Bool.not_eq_true]
        exact fun hc => hfree ⟨hheader, hc⟩
      simp [Processed.receivers, hcoll]

/-- Group voice that collides goes to nobody. -/
theorem receivers_of_collides {m_status : UnorderedMap UInt32 RxStatus} {i : FrameCall}
    (h : isGroupVoice i.data = true) (hcoll : Collides m_status (Frame.read i.data) i.streamId) :
    (process m_status i).receivers = [] := by
  obtain ⟨hheader, hcoll⟩ := collides_iff.mp hcoll
  unfold process processFrame
  dsimp only
  rw [validate_of_groupVoice h, permitted_of_groupVoice h, isTerminator_of_groupVoice h, hheader]
  cases i.ctx.m_ridLookup.isAllowed (Frame.read i.data).srcId with
  | false => rfl
  | true => simp [Processed.receivers, hcoll]

/-- A frame of a disabled radio goes to nobody. -/
theorem receivers_of_disabled {m_status : UnorderedMap UInt32 RxStatus} {i : FrameCall}
    (h : i.ctx.m_ridLookup.Disabled (Frame.read i.data).srcId) : (process m_status i).receivers = [] := by
  have hvalid : validate i.ctx (Frame.read i.data) = false := by
    unfold validate
    rw [RadioIdLookup.isAllowed_eq_false_iff.mpr h]
    rfl
  unfold process processFrame
  dsimp only
  rw [hvalid]
  rfl

/-- **DMR controls the access of group voice by chance**: exactly when the rules allow all that could hear it. -/
theorem controlled_iff_happensAllowed (m_status : UnorderedMap UInt32 RxStatus) (i : FrameCall) :
    Controlled i.ctx (i.ctx.m_tidLookup.find (Frame.read i.data).dstId (Frame.read i.data).slotNo)
      (Frame.read i.data).srcId i.peerId (isGroupVoice i.data) (process m_status i).receivers ↔
      HappensAllowed m_status i := by
  constructor
  · intro h hgroup hallowed hfree r hr
    refine h.rule hgroup r ?_
    rw [receivers_of_groupVoice hgroup hallowed hfree]
    exact hr
  · intro h
    refine ⟨fun hgroup r hr => ?_, receivers_of_disabled⟩
    by_cases hdisabled : i.ctx.m_ridLookup.Disabled (Frame.read i.data).srcId
    · rw [receivers_of_disabled hdisabled] at hr
      exact absurd hr List.not_mem_nil
    · by_cases hcoll : Collides m_status (Frame.read i.data) i.streamId
      · rw [receivers_of_collides hgroup hcoll] at hr
        exact absurd hr List.not_mem_nil
      · rw [receivers_of_groupVoice hgroup hdisabled hcoll] at hr
        exact h hgroup hdisabled hcoll r hr

end TagDMRData

/-! ## Main result -/

/-- **The access control of the three handlers**, for all tables of the network, all tables of calls and all frames:
    P25 and NXDN have it, DMR has it exactly where the rules happen to allow everybody. -/
theorem access_iff (i : FrameCall) (m_dmr : UnorderedMap UInt32 TagDMRData.RxStatus)
    (m_p25 m_nxdn : UnorderedMap UInt32 RxStatus) :
    (Controlled i.ctx
        (i.ctx.m_tidLookup.find (TagDMRData.Frame.read i.data).dstId (TagDMRData.Frame.read i.data).slotNo)
        (TagDMRData.Frame.read i.data).srcId i.peerId (TagDMRData.isGroupVoice i.data)
        (TagDMRData.process m_dmr i).receivers ↔ TagDMRData.HappensAllowed m_dmr i) ∧
    Controlled i.ctx (i.ctx.m_tidLookup.find (TagP25Data.Frame.read i.data).dstId 0)
      (TagP25Data.Frame.read i.data).srcId i.peerId (TagP25Data.Frame.read i.data).isGroupVoice
      (TagP25Data.process m_p25 i).receivers ∧
    Controlled i.ctx (i.ctx.m_tidLookup.find (TagNXDNData.Frame.read i.data).lcDstId 0)
      (TagNXDNData.Frame.read i.data).lcSrcId i.peerId (TagNXDNData.Frame.read i.data).isGroupVoice
      (TagNXDNData.process m_nxdn i).receivers :=
  ⟨TagDMRData.controlled_iff_happensAllowed m_dmr i, TagP25Data.controlled m_p25 i, TagNXDNData.controlled m_nxdn i⟩

/-- A header of the talkgroup 9, for which there is no rule. -/
def unruledHeader : FrameCall := { ctx := twoPeers, data := dmrFrame 0x01 0x21, peerId := 7, streamId := 1 }

/-- **A talkgroup without a rule is heard on DMR**: the header is repeated. -/
theorem unruledHeader_not_controlled :
    ¬ ∀ (i : FrameCall) (m_dmr : UnorderedMap UInt32 TagDMRData.RxStatus),
      Controlled i.ctx
        (i.ctx.m_tidLookup.find (TagDMRData.Frame.read i.data).dstId (TagDMRData.Frame.read i.data).slotNo)
        (TagDMRData.Frame.read i.data).srcId i.peerId (TagDMRData.isGroupVoice i.data)
        (TagDMRData.process m_dmr i).receivers := by
  intro hall
  have hrule := (hall unruledHeader ∅).rule (by decide +kernel) 8 (by decide +kernel)
  exact absurd hrule.1 (by decide +kernel)

end DvmHost

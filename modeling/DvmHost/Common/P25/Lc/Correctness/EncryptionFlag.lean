import DvmHost.Common.P25.Lc.Correctness.EncryptionSync
import DvmHost.Common.P25.Lc.Correctness.LinkControl
import DvmHost.Lib.Latch

/-!
# `Common.P25.Lc.Correctness.EncryptionFlag` — the encryption flag over the frames of a call

The flag of a link control is set from two sources: the algorithm ID of a header or of a second logical link data
unit, and the service options of a first one. The algorithm ID is an authority in the sense of `Lib.Latch`, the
service options are hints, and `m_encryptOverride` is the latch. So the flag agrees with the algorithm ID from the
first time on that the two have been at odds; before that, service options that come after it prevail.
-/

namespace DvmHost

open Lib

namespace LC

/-! ## Frames -/

/-- A frame that link control is decoded from. -/
inductive Frame where
  | hdu (data : Bytes)
  | ldu1 (data : Bytes)
  | ldu2 (data : Bytes)

/-- The decoder of a frame: whether it succeeded, and the new state. -/
def receive (errata : RS.Errata) (lc : LC) : Frame → Option (Bool × LC)
  | .hdu data => decodeHDU errata lc data
  | .ldu1 data => some (decodeLDU1 errata lc data)
  | .ldu2 data => some (decodeLDU2 errata lc data)

/-- The state after frames in order. -/
def receiveAll (errata : RS.Errata) (lc : LC) (frames : List Frame) : Option LC :=
  frames.foldlM (fun lc frame => (receive errata lc frame).map Prod.snd) lc

/-! ## What a frame says -/

/-- The octets that the Reed-Solomon decoder accepts. -/
def accepted : Option (Bool × Bytes) → Option Bytes
  | some (true, rs) => some rs
  | _ => none

/-- The octets of link control in a frame, if they are accepted. -/
def octets (errata : RS.Errata) : Frame → Option Bytes
  | .hdu data => do
      let rs ← decodeHDUGolay (P25Utils.decode data (fun _ => 0) 114 780).2 fun _ => 0
      accepted (RS634717.decode362017 errata rs)
  | .ldu1 data => accepted (RS634717.decode241213 errata (decodeLDUParts data))
  | .ldu2 data => accepted (RS634717.decode24169 errata (decodeLDUParts data))

/-- The algorithm ID of a header or a second logical link data unit. -/
def algIdOf (errata : RS.Errata) (frame : Frame) : Option UInt8 :=
  match frame with
  | .hdu _ => (octets errata frame).map fun rs => rs 10
  | .ldu1 _ => none
  | .ldu2 _ => (octets errata frame).map fun rs => rs 9

/-- The opcode is one with service options, and not one of the vendor whose opcodes are passed through. -/
def HasOptions (rs : Bytes) : Prop :=
  rs 1 ≠ P25_MFG_MOT ∧
    (rs 0 &&& 0x3F = LC_GROUP ∨ rs 0 &&& 0x3F = LC_PRIVATE ∨ rs 0 &&& 0x3F = LC_TEL_INT_VCH_USER)

instance (rs : Bytes) : Decidable (HasOptions rs) := inferInstanceAs (Decidable (_ ∧ _))

/-- The encryption bit in the service options of octets of link control. -/
def optionBit (rs : Bytes) : Option Bool := if HasOptions rs then some (decide (rs 2 &&& 0x40 = 0x40)) else none

/-- The encryption bit of a first logical link data unit. -/
def serviceBit (errata : RS.Errata) (frame : Frame) : Option Bool :=
  match frame with
  | .ldu1 _ => (octets errata frame).bind optionBit
  | _ => none

/-- The algorithm is not that of clear audio. -/
def secures (algId : UInt8) : Bool := decide (algId ≠ P25_ALGO_UNENCRYPT)

/-- What a frame says about the flag. -/
def event (errata : RS.Errata) (frame : Frame) : Option (Latch.Event Bool) :=
  match algIdOf errata frame with
  | some algId => some (.authority (secures algId))
  | none => (serviceBit errata frame).map .hint

/-- The flag and its latch. -/
def flag (lc : LC) : Latch.State Bool := { value := lc.encrypted, latched := lc.encryptOverride }

/-! ## One frame -/

/-- The Golay decoder of a header always comes to an end. -/
theorem decodeHDUGolay_total (data raw : Bytes) : ∃ out, decodeHDUGolay data raw = some out := by
  have hword : ∀ golay : Bits, ∃ valid c0data,
      Golay24128.decode24128 (packWord 18 golay) = some (valid, c0data) := by
    intro golay
    have hlt : packWord 18 golay >>> 1 < 2 ^ 23 := by
      have h18 := packWord_lt 18 golay
      rw [Nat.shiftRight_eq_div_pow]
      omega
    unfold Golay24128.decode24128
    rw [Golay24128.getSyndrome23127_eq hlt]
    exact ⟨_, _, rfl⟩
  choose valid c0data hdec using hword
  refine ⟨_, foldlM_some (g := fun raw i =>
    let golay := Blocks.gather false 18 (fun j => 18 * i + j) (readBit data)
    (List.range 6).foldl
      (fun raw j => writeBit raw (6 * i + j) (unpackWord 6 (c0data golay) golay j)) raw) ?_ raw⟩
  intro i _ raw
  dsimp only
  rw [hdec]
  rfl

theorem algId_setEncryption (lc : LC) (algId : UInt8) (rs : Bytes) (kId : UInt32) :
    (lc.setEncryption algId rs kId).algId = algId :=
  (setEncryption_synced lc algId rs kId).1

theorem flag_setEncryption (lc : LC) (algId : UInt8) (rs : Bytes) (kId : UInt32) :
    (lc.setEncryption algId rs kId).flag = Latch.step lc.flag (.authority (secures algId)) := by
  unfold setEncryption secures flag Latch.step
  by_cases halg : algId = P25_ALGO_UNENCRYPT
  · simp only [halg, ne_eq, not_true_eq_false, if_false, decide_false]
    cases lc.encrypted <;> simp
  · simp only [halg, ne_eq, not_false_eq_true, if_true, decide_true]
    cases lc.encrypted <;> simp

/-- Of the members in question the octets set the flag at most, and only where it has not been overridden. -/
theorem decodeLC_flag (lc : LC) (rs : Bytes) :
    (decodeLC lc rs).2.algId = lc.algId ∧
      (decodeLC lc rs).2.flag = (optionBit rs).elim lc.flag fun b => Latch.step lc.flag (.hint b) := by
  unfold decodeLC optionBit HasOptions
  dsimp only
  simp only [sanePriority_eq]
  split_ifs <;> simp_all [flag, Latch.step]

/-- What a decoder leaves, when its octets are accepted or not. -/
theorem decodeHDU_eq (errata : RS.Errata) (lc : LC) (data : Bytes) :
    ∃ out, decodeHDU errata lc data = some ((octets errata (.hdu data)).isSome, out) ∧
      out.algId = ((octets errata (.hdu data)).map fun rs => rs 10).getD lc.algId ∧
      out.flag = (octets errata (.hdu data)).elim lc.flag
        fun rs => Latch.step lc.flag (.authority (secures (rs 10))) := by
  obtain ⟨raw, hraw⟩ := decodeHDUGolay_total (P25Utils.decode data (fun _ => 0) 114 780).2 fun _ => 0
  have hoctets : octets errata (.hdu data) = accepted (RS634717.decode362017 errata raw) := by
    unfold octets
    dsimp only
    rw [hraw]
    rfl
  rw [hoctets]
  unfold decodeHDU
  dsimp only
  rw [hraw, Option.bind_eq_bind, Option.bind_some]
  generalize RS634717.decode362017 errata raw = result
  rcases result with _ | ⟨_ | _, rs⟩
  · exact ⟨_, rfl, rfl, rfl⟩
  · exact ⟨_, rfl, rfl, rfl⟩
  · exact ⟨_, rfl, algId_setEncryption _ _ _ _, flag_setEncryption _ _ _ _⟩

theorem decodeLDU1_eq (errata : RS.Errata) (lc : LC) (data : Bytes) :
    ∃ ok out, decodeLDU1 errata lc data = (ok, out) ∧ out.algId = lc.algId ∧
      out.flag = ((octets errata (.ldu1 data)).bind optionBit).elim lc.flag
        fun b => Latch.step lc.flag (.hint b) := by
  have hoctets : octets errata (.ldu1 data) = accepted (RS634717.decode241213 errata (decodeLDUParts data)) := rfl
  rw [hoctets]
  unfold decodeLDU1
  generalize RS634717.decode241213 errata (decodeLDUParts data) = result
  rcases result with _ | ⟨_ | _, rs⟩
  · exact ⟨_, _, rfl, rfl, rfl⟩
  · exact ⟨_, _, rfl, rfl, rfl⟩
  · exact ⟨(decodeLC lc rs).1, (decodeLC lc rs).2, rfl, decodeLC_flag lc rs⟩

theorem decodeLDU2_eq (errata : RS.Errata) (lc : LC) (data : Bytes) :
    ∃ out, decodeLDU2 errata lc data = ((octets errata (.ldu2 data)).isSome, out) ∧
      out.algId = ((octets errata (.ldu2 data)).map fun rs => rs 9).getD lc.algId ∧
      out.flag = (octets errata (.ldu2 data)).elim lc.flag
        fun rs => Latch.step lc.flag (.authority (secures (rs 9))) := by
  have hoctets : octets errata (.ldu2 data) = accepted (RS634717.decode24169 errata (decodeLDUParts data)) := rfl
  rw [hoctets]
  unfold decodeLDU2
  generalize RS634717.decode24169 errata (decodeLDUParts data) = result
  rcases result with _ | ⟨_ | _, rs⟩
  · exact ⟨_, rfl, rfl, rfl⟩
  · exact ⟨_, rfl, rfl, rfl⟩
  · exact ⟨_, rfl, algId_setEncryption _ _ _ _, flag_setEncryption _ _ _ _⟩

/-- **One frame.** Every decoder returns; the algorithm ID is that of the frame, if it has one, and the flag takes
    the step of what the frame says. -/
theorem receive_spec (errata : RS.Errata) (lc : LC) (frame : Frame) :
    ∃ ok out, receive errata lc frame = some (ok, out) ∧
      out.algId = (algIdOf errata frame).getD lc.algId ∧
      out.flag = (event errata frame).elim lc.flag (Latch.step lc.flag) := by
  cases frame with
  | hdu data =>
    obtain ⟨out, hdecode, halg, hflag⟩ := decodeHDU_eq errata lc data
    refine ⟨_, out, hdecode, halg, hflag.trans ?_⟩
    unfold event algIdOf serviceBit
    cases octets errata (.hdu data) <;> rfl
  | ldu1 data =>
    obtain ⟨ok, out, hdecode, halg, hflag⟩ := decodeLDU1_eq errata lc data
    refine ⟨ok, out, congrArg some hdecode, halg, hflag.trans ?_⟩
    unfold event algIdOf serviceBit
    cases (octets errata (.ldu1 data)).bind optionBit <;> rfl
  | ldu2 data =>
    obtain ⟨out, hdecode, halg, hflag⟩ := decodeLDU2_eq errata lc data
    refine ⟨_, out, congrArg some hdecode, halg, hflag.trans ?_⟩
    unfold event algIdOf serviceBit
    cases octets errata (.ldu2 data) <;> rfl

/-! ## All frames -/

/-- The algorithm ID of the last header or second logical link data unit. -/
def lastAlgId (errata : RS.Errata) (frames : List Frame) : UInt8 :=
  frames.foldl (fun algId frame => (algIdOf errata frame).getD algId) P25_ALGO_UNENCRYPT

/-- The encryption bit of the last first logical link data unit with service options since then. -/
def bitSince (errata : RS.Errata) (frames : List Frame) : Option Bool :=
  Latch.hinted (frames.filterMap (event errata))

theorem lastAlgId_concat (errata : RS.Errata) (frames : List Frame) (frame : Frame) :
    lastAlgId errata (frames ++ [frame]) = (algIdOf errata frame).getD (lastAlgId errata frames) :=
  List.foldl_append

theorem receiveAll_concat (errata : RS.Errata) (lc : LC) (frames : List Frame) (frame : Frame) :
    receiveAll errata lc (frames ++ [frame]) =
      (receiveAll errata lc frames).bind fun lc => (receive errata lc frame).map Prod.snd := by
  unfold receiveAll
  rw [List.foldlM_append, Option.bind_eq_bind]
  refine congrArg _ (funext fun lc => ?_)
  rw [List.foldlM_cons, Option.bind_eq_bind]
  exact Option.bind_fun_some _

/-- The run follows the latch. -/
theorem receiveAll_spec (errata : RS.Errata) (frames : List Frame) :
    ∃ lc, receiveAll errata default frames = some lc ∧ lc.algId = lastAlgId errata frames ∧
      lc.flag = Latch.after false (frames.filterMap (event errata)) := by
  induction frames using List.reverseRecOn with
  | nil => exact ⟨default, rfl, rfl, rfl⟩
  | append_singleton frames frame ih =>
    obtain ⟨lc, hrun, halg, hflag⟩ := ih
    obtain ⟨ok, out, hreceive, halg', hflag'⟩ := receive_spec errata lc frame
    refine ⟨out, ?_, ?_, ?_⟩
    · rw [receiveAll_concat, hrun, Option.bind_some, hreceive, Option.map_some]
    · rw [halg', halg, lastAlgId_concat]
    · rw [hflag', hflag, List.filterMap_append]
      cases hevent : event errata frame with
      | none => simp [hevent]
      | some e =>
        rw [List.filterMap_cons_some hevent, List.filterMap_nil, Latch.after_concat]
        rfl

/-- The authority has decided what the last algorithm ID says. -/
theorem decided_events (errata : RS.Errata) (frames : List Frame) :
    Latch.decided false (frames.filterMap (event errata)) = secures (lastAlgId errata frames) := by
  induction frames using List.reverseRecOn with
  | nil => rfl
  | append_singleton frames frame ih =>
    rw [lastAlgId_concat, List.filterMap_append]
    cases halg : algIdOf errata frame with
    | some algId =>
      have hevent : event errata frame = some (.authority (secures algId)) := by unfold event; rw [halg]
      rw [List.filterMap_cons_some hevent, List.filterMap_nil, Latch.decided_authority]
      rfl
    | none =>
      have hevent : event errata frame = (serviceBit errata frame).map .hint := by unfold event; rw [halg]
      cases hbit : serviceBit errata frame with
      | none =>
        rw [hbit] at hevent
        simpa [hevent] using ih
      | some b =>
        rw [hbit] at hevent
        rw [List.filterMap_cons_some hevent, List.filterMap_nil, Latch.decided_hint]
        exact ih

/-- An authority among the events is an algorithm ID among the frames. -/
theorem events_split_iff (errata : RS.Errata) (frames : List Frame) (P : List (Latch.Event Bool) → Bool → Prop) :
    (∃ l w r, frames.filterMap (event errata) = l ++ .authority w :: r ∧ P l w) ↔
      ∃ before frame algId rest, frames = before ++ frame :: rest ∧ algIdOf errata frame = some algId ∧
        P (before.filterMap (event errata)) (secures algId) := by
  constructor
  · rintro ⟨l, w, r, h, hP⟩
    obtain ⟨first, second, rfl, rfl, hsecond⟩ := List.filterMap_eq_append_iff.mp h
    obtain ⟨skipped, frame, rest, rfl, hskipped, hevent, -⟩ := List.filterMap_eq_cons_iff.mp hsecond
    unfold event at hevent
    cases halg : algIdOf errata frame with
    | some algId =>
      rw [halg] at hevent
      injection hevent with hevent
      injection hevent with hw
      refine ⟨first ++ skipped, frame, algId, rest, (List.append_assoc ..).symm, halg, ?_⟩
      rw [List.filterMap_append, List.filterMap_eq_nil_iff.mpr hskipped, List.append_nil, hw]
      exact hP
    | none =>
      rw [halg] at hevent
      cases hbit : serviceBit errata frame <;> rw [hbit] at hevent <;> simp at hevent
  · rintro ⟨before, frame, algId, rest, rfl, halg, hP⟩
    have hevent : event errata frame = some (.authority (secures algId)) := by unfold event; rw [halg]
    refine ⟨_, _, rest.filterMap (event errata), ?_, hP⟩
    rw [List.filterMap_append, List.filterMap_cons_some hevent]

/-- **The encryption flag.** After any frames the algorithm ID is that of the last header or second logical link
    data unit. The flag agrees with it once an algorithm ID has contradicted the flag in force, and while no service
    options have come since the algorithm ID; otherwise the last such service options prevail. -/
theorem encryption_flag (errata : RS.Errata) (frames : List Frame) :
    ∃ lc, receiveAll errata default frames = some lc ∧ lc.algId = lastAlgId errata frames ∧
      (lc.encrypted = if lc.encryptOverride then secures lc.algId
        else (bitSince errata frames).getD (secures lc.algId)) ∧
      (lc.encryptOverride = true ↔
        ∃ before frame algId rest lc', frames = before ++ frame :: rest ∧ algIdOf errata frame = some algId ∧
          receiveAll errata default before = some lc' ∧ lc'.encrypted ≠ secures algId) := by
  obtain ⟨lc, hrun, halg, hflag⟩ := receiveAll_spec errata frames
  have hvalue : lc.encrypted = _ := (congrArg Latch.State.value hflag).trans (Latch.value_after ..)
  have hlatched : lc.encryptOverride = _ := congrArg Latch.State.latched hflag
  refine ⟨lc, hrun, halg, ?_, ?_⟩
  · rw [hvalue, hlatched, decided_events, ← halg]
    rfl
  · rw [hlatched, Latch.latched_after_iff, events_split_iff errata frames fun l w => (Latch.after false l).value ≠ w]
    constructor
    · rintro ⟨before, frame, algId, rest, hframes, hframe, hne⟩
      obtain ⟨lc', hrun', -, hflag'⟩ := receiveAll_spec errata before
      refine ⟨before, frame, algId, rest, lc', hframes, hframe, hrun', ?_⟩
      rw [← hflag'] at hne
      exact hne
    · rintro ⟨before, frame, algId, rest, lc', hframes, hframe, hrun', hne⟩
      obtain ⟨lc'', hrun'', -, hflag'⟩ := receiveAll_spec errata before
      obtain rfl := Option.some.inj (hrun'.symm.trans hrun'')
      refine ⟨before, frame, algId, rest, hframes, hframe, ?_⟩
      rw [← hflag']
      exact hne

/-- A clear header leaves the latch of a new object open. -/
theorem decodeHDU_clear (errata : RS.Errata) :
    ∃ lc, decodeHDU errata default (encodeHDU default fun _ => 0) = some (true, lc) ∧
      lc.algId = P25_ALGO_UNENCRYPT ∧ lc.encryptOverride = false := by
  obtain ⟨lc, hdecode, hsync, -⟩ := decodeHDU_encodeHDU errata default default fun _ hi =>
    Nat.le_trans (hduErrors_flipBits_le [] (encodeHDU default fun _ => 0) hi) (Nat.zero_le 3)
  have halg : lc.algId = P25_ALGO_UNENCRYPT := hsync.1
  refine ⟨lc, hdecode, halg, ?_⟩
  obtain ⟨out, hdecode', halg', hflag⟩ := decodeHDU_eq errata default (encodeHDU default fun _ => 0)
  obtain rfl : lc = out := congrArg Prod.snd (Option.some.inj (hdecode.symm.trans hdecode'))
  cases hoctets : octets errata (.hdu (encodeHDU default fun _ => 0)) with
  | none =>
    rw [hoctets] at hflag
    exact congrArg Latch.State.latched hflag
  | some rs =>
    rw [hoctets] at halg' hflag
    have hclear : rs 10 = P25_ALGO_UNENCRYPT := halg'.symm.trans halg
    have hlatched := congrArg Latch.State.latched hflag
    dsimp only [Option.elim_some] at hlatched
    rw [hclear] at hlatched
    exact hlatched

/-- A clear header, then service options with the encryption bit: the flag is up and the algorithm ID clear. -/
theorem encryption_flag_disagrees :
    let errata : RS.Errata := fun _ _ => none
    let hdu := encodeHDU default fun _ => 0
    let ldu1 := encodeLDU1 SiteData.default { default with encrypted := true } fun _ => 0
    ∃ lc lc', decodeHDU errata default hdu = some (true, lc) ∧ decodeLDU1 errata lc ldu1 = (true, lc') ∧
      lc'.encrypted = true ∧ lc'.algId = P25_ALGO_UNENCRYPT := by
  intro errata hdu ldu1
  obtain ⟨lc, hdecode, halg, hlatch⟩ := decodeHDU_clear errata
  have hdecode' := (decodeLDU1_encodeLDU1 errata SiteData.default lc { default with encrypted := true } fun _ => 0)
  rw [encodeLC_group _ _ rfl (by decide), decodeLC_group lc _ _ (by decide) (by decide) (by decide)] at hdecode'
  refine ⟨lc, _, hdecode, hdecode', ?_, ?_⟩
  · rw [sanePriority_eq, hlatch]
    exact (optionsOctet_fields { default with encrypted := true }).2.1
  · rw [sanePriority_eq]
    exact halg

end LC

end DvmHost

import DvmHost.Common.Nxdn.Channel.Correctness.ChannelRoundTrip
import DvmHost.Host.Nxdn.Packet.Correctness.VoiceSides
import DvmHost.Lib.Run

/-!
# `Host.Nxdn.Packet.Correctness.LateEntry` — calls that are entered with a superframe

A call of which the header was missed can be entered with the link control that four frames carry, 18 bits each, in
their SACCH. `Heard` adds to the site the quarters that each side has received without a break; four of them make a
`superframe`.

`RTCH::decode` applies its offset to the three octets of the quarter, and not to the link control: what it makes of a
quarter are 18 bits with zeros behind them, so that the destination is 0 (`dstId_takeQuarter`), which no site accepts.
No call is ever entered with a superframe (`process_onSACCH`, `processNetwork_onSACCH`).
-/

namespace DvmHost

open Lib

open RPT_RF_STATE RPT_NET_STATE

namespace Nxdn

namespace RTCH

/-- Of the octets of a short copy those behind it are zero. -/
theorem copyBits_short (data : Bytes) (offset : Nat) {length i : Nat} (h : length ≤ 8 * i) :
    copyBits (fun _ => 0x00) 0 data offset length i = 0x00 := by
  refine byte_ext fun j hj => ?_
  have hbit := readBit_copyBits (fun _ => 0x00) 0 data offset length (8 * i + j)
  rw [if_neg (by omega), readBit_octet _ i hj, readBit_octet _ i hj] at hbit
  exact hbit

/-- A voice call that is decoded from too few bits has no destination. -/
theorem dstId_decode_short (m : RTCH) (data : Bytes) {length offset : Nat} (hlength : length ≤ 40)
    (hvcall : (m.decode data length offset).messageType = RTCH_MESSAGE_TYPE_VCALL) :
    (m.decode data length offset).dstId = 0 := by
  have h5 := copyBits_short data offset (show length ≤ 8 * 5 by omega)
  have h6 := copyBits_short data offset (show length ≤ 8 * 6 by omega)
  unfold decode at hvcall ⊢
  rw [messageType_decodeLC] at hvcall
  unfold decodeLC
  dsimp only
  rw [if_pos hvcall]
  show word16 (copyBits (fun _ => 0x00) 0 data offset length 5) (copyBits (fun _ => 0x00) 0 data offset length 6) = 0
  rw [h5, h6]
  rfl

end RTCH

/-- Every structure that a SACCH is decoded with is one of a quarter. -/
theorem SACCH.quarterOffset_decode (mem : Channel.Memory) (data : Bytes) :
    ∃ offset, Voice.quarterOffset (SACCH.new.decode mem data).2.m_structure = some offset := by
  have hfield : ∀ v : Fin 256, (Voice.quarterOffset (UInt8.ofNat v >>> 6 &&& 0x03)).isSome = true := by decide +kernel
  refine Option.isSome_iff_exists.mp ?_
  unfold SACCH.decode
  split
  · rfl
  · split
    · rename_i m_data _ _
      have h := hfield ⟨(m_data 0).toNat, UInt8.toNat_lt _⟩
      rwa [show UInt8.ofNat (⟨(m_data 0).toNat, UInt8.toNat_lt _⟩ : Fin 256) = m_data 0 from UInt8.ofNat_toNat] at h
    · rfl

namespace Voice

open Control

/-! ## No destination -/

/-- A quarter that reads as a voice call has no destination. -/
theorem dstId_takeQuarter (s : Control) (stack : Stack) (data : Bytes) (lc : RTCH) (mask : UInt8)
    (hvcall : (takeQuarter s stack (SACCH.new.decode stack.mem data).2 lc mask).1.1.messageType
      = RTCH_MESSAGE_TYPE_VCALL) :
    (takeQuarter s stack (SACCH.new.decode stack.mem data).2 lc mask).1.1.dstId = 0 := by
  obtain ⟨offset, hoffset⟩ := SACCH.quarterOffset_decode stack.mem data
  unfold takeQuarter at hvcall ⊢
  rw [hoffset] at hvcall ⊢
  exact RTCH.dstId_decode_short _ _ (by omega) hvcall

theorem validateIDs_zero (s : Control) (srcId : UInt16) :
    (validateIDs s srcId 0 true).1 = false ∧ (validateIDs s srcId 0 true).2.rfState = RS_RF_REJECTED ∧
      (validateIDs s srcId 0 true).2.netState = s.netState := by
  unfold validateIDs
  split
  · exact ⟨rfl, rfl, rfl⟩
  · exact ⟨rfl, rfl, rfl⟩

/-- A group call without a destination is not admitted. -/
theorem admitRF_zero {s : Control} {lc : RTCH} (hdst : lc.dstId = 0) (hgroup : lc.group = true)
    (hlisten : s.rfState = RS_RF_LISTENING) :
    (admitRF s lc).1 = false ∧ (admitRF s lc).2.rfState ≠ RS_RF_AUDIO := by
  have hzero := validateIDs_zero (checkTrafficCollision s 0).2 lc.srcId
  have hstate : (checkTrafficCollision s 0).2.rfState = RS_RF_LISTENING := by
    unfold checkTrafficCollision
    split_ifs
    · rfl
    · exact hlisten
    · exact hlisten
  unfold admitRF
  rw [hdst, hgroup]
  dsimp only
  split
  · rename_i h
    refine ⟨by simpa using h, ?_⟩
    rw [hstate]
    decide
  · refine ⟨hzero.1, ?_⟩
    rw [hzero.2.1]
    decide

theorem netState_checkNetTrafficCollision (c : Settings) (s : Control) (dstId : UInt16) :
    (checkNetTrafficCollision c s dstId).2.netState = s.netState := by
  have hrf : (checkRFHang s dstId).2.netState = s.netState := by
    unfold checkRFHang
    split_ifs <;> rfl
  have hnet : (checkNetHang (checkRFHang s dstId).2 dstId).2.netState = s.netState := by
    rw [← hrf]
    unfold checkNetHang
    split_ifs <;> rfl
  unfold checkNetTrafficCollision
  dsimp only
  split_ifs <;> first | exact hrf | exact hnet

theorem admitNet_zero (c : Settings) {s : Control} {lc : RTCH} (hdst : lc.dstId = 0) (hgroup : lc.group = true) :
    (admitNet c s lc).1 = false ∧ (admitNet c s lc).2.netState = s.netState := by
  have hzero := validateIDs_zero (checkNetTrafficCollision c s 0).2 lc.srcId
  have hstate := netState_checkNetTrafficCollision c s 0
  unfold admitNet
  rw [hdst, hgroup]
  dsimp only
  split
  · rename_i h
    exact ⟨by simpa using h, hstate⟩
  · exact ⟨hzero.1, hzero.2.2.trans hstate⟩

/-! ## Late entry without a FACCH1 -/

variable (c : Settings)

theorem lateEntry_onSACCH {s : Control} (hgroup : s.rfLC.group = true) (hlisten : s.rfState = RS_RF_LISTENING)
    (stack : Stack) (option : UInt8) (frame : Frame)
    (hstolen : (decodeStolen stack.mem LATE_FACCH1_2_OFFSET option frame.data).1 = false) :
    (lateEntry c s stack option (SACCH.new.decode stack.mem frame.data).2 frame).1 = false ∧
      (lateEntry c s stack option (SACCH.new.decode stack.mem frame.data).2 frame).2.rfState ≠ RS_RF_AUDIO := by
  have hdst := dstId_takeQuarter s stack frame.data s.rfLC s.rfMask
  have hlc := (group_takeQuarter s stack (SACCH.new.decode stack.mem frame.data).2 s.rfLC s.rfMask).trans hgroup
  have hsame := (sameCalls_takeQuarter s stack (SACCH.new.decode stack.mem frame.data).2 s.rfLC s.rfMask).rfState
  unfold lateEntry
  generalize decodeStolen stack.mem LATE_FACCH1_2_OFFSET option frame.data = stolen at *
  generalize takeQuarter s stack (SACCH.new.decode stack.mem frame.data).2 s.rfLC s.rfMask = quarter at *
  have hstate : quarter.2.rfState ≠ RS_RF_AUDIO := by
    rw [hsame, hlisten]
    decide
  dsimp only
  rw [hstolen, if_neg Bool.false_ne_true]
  split_ifs with hmask hvcall
  · exact ⟨rfl, hstate⟩
  · exact ⟨rfl, hstate⟩
  · have hrefused := admitRF_zero (s := { quarter.2 with rfLC := quarter.1.1, rfMask := quarter.1.2 })
      (hdst (not_not.mp hvcall)) hlc (hsame.trans hlisten)
    unfold enterRF
    dsimp only
    rw [hrefused.1]
    exact hrefused

theorem lateEntryNet_onSACCH {s : Control} (hgroup : s.netLC.group = true) (hidle : s.netState = RS_NET_IDLE)
    (stack : Stack) (option : UInt8) (frame : Frame)
    (hstolen : (decodeStolen stack.mem FACCH1_2_OFFSET option frame.data).1 = false) :
    (lateEntryNet c s stack option (SACCH.new.decode stack.mem frame.data).2 frame).1 = false ∧
      (lateEntryNet c s stack option (SACCH.new.decode stack.mem frame.data).2 frame).2.netState = RS_NET_IDLE := by
  have hdst := dstId_takeQuarter s stack frame.data s.netLC s.netMask
  have hlc := (group_takeQuarter s stack (SACCH.new.decode stack.mem frame.data).2 s.netLC s.netMask).trans hgroup
  have hsame := (sameCalls_takeQuarter s stack (SACCH.new.decode stack.mem frame.data).2 s.netLC s.netMask).netState
  unfold lateEntryNet
  generalize decodeStolen stack.mem FACCH1_2_OFFSET option frame.data = stolen at *
  generalize takeQuarter s stack (SACCH.new.decode stack.mem frame.data).2 s.netLC s.netMask = quarter at *
  dsimp only
  rw [hstolen, if_neg Bool.false_ne_true]
  split_ifs with hmask hvcall
  · exact ⟨rfl, hsame.trans hidle⟩
  · exact ⟨rfl, hsame.trans hidle⟩
  · have hrefused := admitNet_zero c (s := { quarter.2 with netLC := quarter.1.1, netMask := quarter.1.2 })
      (hdst (not_not.mp hvcall)) hlc
    unfold enterNet
    dsimp only
    rw [hrefused.1]
    exact ⟨hrefused.1, hrefused.2.trans (hsame.trans hidle)⟩

/-- **A radio enters no call with a superframe.** -/
theorem process_onSACCH {s : Control} (hgroup : s.rfLC.group = true) (hlisten : s.rfState = RS_RF_LISTENING)
    (stack : Stack) {fct : UInt8} (hfct : fct ≠ NXDN_LICH_USC_SACCH_NS) (option : UInt8) (frame : Frame)
    (hstolen : (decodeStolen stack.mem LATE_FACCH1_2_OFFSET option frame.data).1 = false) :
    (process c s stack fct option frame).2.rfState ≠ RS_RF_AUDIO := by
  obtain ⟨hrefused, hstate⟩ := lateEntry_onSACCH c hgroup hlisten stack option frame hstolen
  have hnot : s.rfState ≠ RS_RF_AUDIO := by
    rw [hlisten]
    decide
  unfold process
  dsimp only
  rw [if_neg hfct, if_pos hlisten, hrefused, if_neg Bool.false_ne_true]
  split_ifs
  · exact hnot
  · exact hnot
  · exact hstate

/-- **The network enters no call with a superframe.** -/
theorem processNetwork_onSACCH {s : Control} (hgroup : s.netLC.group = true) (hidle : s.netState = RS_NET_IDLE)
    (stack : Stack) {fct : UInt8} (hfct : fct ≠ NXDN_LICH_USC_SACCH_NS) (option : UInt8) (dstId : UInt16)
    (frame : Frame) (hstolen : (decodeStolen stack.mem FACCH1_2_OFFSET option frame.data).1 = false) :
    (processNetwork c s stack fct option dstId frame).2.netState ≠ RS_NET_AUDIO := by
  have hcleared : (clearNet s).netLC.group = true ∧ (clearNet s).netState = RS_NET_IDLE := by
    unfold clearNet
    rw [if_pos hidle]
    exact ⟨hgroup, hidle⟩
  obtain ⟨hrefused, hstate⟩ := lateEntryNet_onSACCH c hcleared.1 hcleared.2 stack option frame hstolen
  unfold processNetwork
  dsimp only
  rw [if_neg hfct, if_pos hcleared.2, hrefused, if_neg Bool.false_ne_true, hstate]
  decide

/-! ## Superframes -/

/-- A quarter that was received: its structure, and 18 bits. -/
structure Quarter where
  structure_ : UInt8
  bits : Bytes

/-- The quarter of a frame whose SACCH is valid. -/
def quarterOf (stack : Stack) (frame : Frame) : Option Quarter :=
  let sacch := SACCH.new.decode stack.mem frame.data
  if sacch.1 then some ⟨sacch.2.m_structure, sacch.2.getData fun _ => 0x00⟩ else none

/-- The link control of the last four quarters, the last one first, if they are those of one superframe. -/
def superframe : List Quarter → Option RTCH
  | q4 :: q3 :: q2 :: q1 :: _ =>
      if q1.structure_ = SACCH.NXDN_SR_1_4 ∧ q2.structure_ = SACCH.NXDN_SR_2_4 ∧
          q3.structure_ = SACCH.NXDN_SR_3_4 ∧ q4.structure_ = SACCH.NXDN_SR_4_4 then
        let data := copyBits (fun _ => 0x00) 0 q1.bits 0 18
        let data := copyBits data 18 q2.bits 0 18
        let data := copyBits data 36 q3.bits 0 18
        let data := copyBits data 54 q4.bits 0 18
        some (RTCH.new.decode data 72 0)
      else none
  | _ => none

/-- A site, and the quarters that its two sides have received without a break, the last one first. -/
structure Heard where
  site : Control
  rf : List Quarter
  net : List Quarter

/-- What happens: a frame of a radio or of the network; between frames, nothing that touches calls (`meanwhile`), or
    anything else (`interrupt`). -/
inductive Event where
  | radio (stack : Stack) (fct option : UInt8) (frame : Frame)
  | network (stack : Stack) (fct option : UInt8) (dstId : UInt16) (frame : Frame)
  | meanwhile
  | interrupt

/-- A frame of a radio in which a call can be entered with the SACCH alone. -/
def RadioOnSACCH (s : Control) (stack : Stack) (fct option : UInt8) (frame : Frame) : Prop :=
  fct ≠ NXDN_LICH_USC_SACCH_NS ∧ s.rfState = RS_RF_LISTENING ∧
    (decodeStolen stack.mem LATE_FACCH1_2_OFFSET option frame.data).1 = false

/-- A frame of the network in which a call can be entered with the SACCH alone. -/
def NetworkOnSACCH (s : Control) (stack : Stack) (fct option : UInt8) (frame : Frame) : Prop :=
  fct ≠ NXDN_LICH_USC_SACCH_NS ∧ s.netState = RS_NET_IDLE ∧
    (decodeStolen stack.mem FACCH1_2_OFFSET option frame.data).1 = false

instance (s : Control) (stack : Stack) (fct option : UInt8) (frame : Frame) :
    Decidable (RadioOnSACCH s stack fct option frame) := inferInstanceAs (Decidable (_ ∧ _ ∧ _))

instance (s : Control) (stack : Stack) (fct option : UInt8) (frame : Frame) :
    Decidable (NetworkOnSACCH s stack fct option frame) := inferInstanceAs (Decidable (_ ∧ _ ∧ _))

/-- A RAN that the site takes. -/
def AcceptsRAN (stack : Stack) (frame : Frame) : Prop :=
  (SACCH.new.decode stack.mem frame.data).2.m_ran.toUInt32 = c.ran ∨
    (SACCH.new.decode stack.mem frame.data).2.m_ran = 0

instance (stack : Stack) (frame : Frame) : Decidable (AcceptsRAN c stack frame) :=
  inferInstanceAs (Decidable (_ ∨ _))

namespace Heard

/-- The quarters behind another frame: any frame without one is a break. -/
def extend (quarters : List Quarter) : Option Quarter → List Quarter
  | some q => q :: quarters
  | none => []

/-- The quarters of the radios behind a frame. -/
def afterRadio (h : Heard) (stack : Stack) (fct option : UInt8) (frame : Frame) : List Quarter :=
  if RadioOnSACCH h.site stack fct option frame ∧ AcceptsRAN c stack frame then extend h.rf (quarterOf stack frame)
  else []

/-- The quarters of the network behind a frame. -/
def afterNetwork (h : Heard) (stack : Stack) (fct option : UInt8) (frame : Frame) : List Quarter :=
  if NetworkOnSACCH h.site stack fct option frame then extend h.net (quarterOf stack frame) else []

/-- A step. Nothing but the decoders and the constructor sets the flag for groups. -/
inductive Step : Heard → Event → Heard → Prop where
  | radio {h : Heard} (stack : Stack) (fct option : UInt8) (frame : Frame) :
      Step h (.radio stack fct option frame)
        ⟨(process c h.site stack fct option frame).2, h.afterRadio c stack fct option frame, h.net⟩
  | network {h : Heard} (stack : Stack) (fct option : UInt8) (dstId : UInt16) (frame : Frame) :
      Step h (.network stack fct option dstId frame)
        ⟨(processNetwork c h.site stack fct option dstId frame).2, h.rf, h.afterNetwork stack fct option frame⟩
  | meanwhile {h : Heard} {site : Control} (hsame : SameCalls h.site site) : Step h .meanwhile ⟨site, h.rf, h.net⟩
  | interrupt {h : Heard} {site : Control} (hrf : site.rfLC.group = h.site.rfLC.group)
      (hnet : site.netLC.group = h.site.netLC.group) : Step h .interrupt ⟨site, [], []⟩

/-- A site whose link controls are as they are constructed, and that has received nothing. -/
def IsFresh (h : Heard) : Prop := h.site.rfLC = RTCH.new ∧ h.site.netLC = RTCH.new ∧ h.rf = [] ∧ h.net = []

theorem Step.grouped {h h' : Heard} {event : Event} (hgrouped : Grouped h.site) (hstep : Step c h event h') :
    Grouped h'.site := by
  cases hstep with
  | radio stack fct option frame => exact grouped_process c hgrouped stack fct option frame
  | network stack fct option dstId frame => exact grouped_processNetwork c hgrouped stack fct option dstId frame
  | meanwhile hsame => exact hgrouped.of_same hsame.toSameLCs
  | interrupt hrf hnet => exact ⟨hrf.trans hgrouped.1, hnet.trans hgrouped.2⟩

end Heard

/-! ## Late entry -/

/-- The call type, the addresses and the flags of a link control. -/
def callOf (lc : RTCH) : UInt8 × UInt16 × UInt16 × Bool × Bool × Bool × UInt8 :=
  (lc.callType, lc.srcId, lc.dstId, lc.emergency, lc.priority, lc.duplex, lc.transmissionMode)

/-- The link control of a superframe is that of a voice call. -/
def Completes (quarters : List Quarter) (lc : RTCH) : Prop :=
  superframe quarters = some lc ∧ lc.messageType = RTCH_MESSAGE_TYPE_VCALL

/-- A call is entered with the link control of a complete superframe, and with every one that is admitted. -/
def EntersRight (quarters : List Quarter) (Admits : RTCH → Prop) (Entered : Prop) (call : RTCH) : Prop :=
  (Entered → ∃ lc, Completes quarters lc ∧ callOf call = callOf lc) ∧
    ∀ lc, Completes quarters lc → Admits lc → Entered ∧ callOf call = callOf lc

/-- **Late entry**, of a step. -/
def EntersLate (h : Heard) : Event → Prop
  | .radio stack fct option frame =>
      RadioOnSACCH h.site stack fct option frame →
        EntersRight (h.afterRadio c stack fct option frame) (fun lc => (admitRF h.site lc).1 = true)
          ((process c h.site stack fct option frame).2.rfState = RS_RF_AUDIO)
          (process c h.site stack fct option frame).2.rfLC
  | .network stack fct option dstId frame =>
      NetworkOnSACCH h.site stack fct option frame →
        EntersRight (h.afterNetwork stack fct option frame) (fun lc => (admitNet c h.site lc).1 = true)
          ((processNetwork c h.site stack fct option dstId frame).2.netState = RS_NET_AUDIO)
          (processNetwork c h.site stack fct option dstId frame).2.netLC
  | .meanwhile => True
  | .interrupt => True

/-- The frame completes no superframe of a voice call that would be admitted. -/
def CompletesNone (h : Heard) : Event → Prop
  | .radio stack fct option frame =>
      ∀ lc, Completes (h.afterRadio c stack fct option frame) lc → (admitRF h.site lc).1 = false
  | .network stack fct option _ frame =>
      ∀ lc, Completes (h.afterNetwork stack fct option frame) lc → (admitNet c h.site lc).1 = false
  | .meanwhile => True
  | .interrupt => True

/-- Where no call is entered, late entry is right exactly when there is none to enter. -/
theorem entersRight_iff {quarters : List Quarter} {admits : RTCH → Bool} {Entered : Prop} {call : RTCH}
    (hnot : ¬ Entered) :
    EntersRight quarters (fun lc => admits lc = true) Entered call ↔ ∀ lc, Completes quarters lc → admits lc = false := by
  constructor
  · intro hright lc hcompletes
    refine Bool.eq_false_iff.mpr fun hadmits => hnot (hright.2 lc hcompletes hadmits).1
  · intro hnone
    refine ⟨fun h => absurd h hnot, fun lc hcompletes hadmits => ?_⟩
    exact absurd ((hnone lc hcompletes).symm.trans hadmits) Bool.false_ne_true

theorem not_completes_nil (lc : RTCH) : ¬ Completes [] lc := fun h => nomatch h.1

theorem entersLate_iff {h : Heard} (hgrouped : Grouped h.site) (event : Event) :
    EntersLate c h event ↔ CompletesNone c h event := by
  cases event with
  | radio stack fct option frame =>
      by_cases hon : RadioOnSACCH h.site stack fct option frame
      · have hnot := process_onSACCH c hgrouped.1 hon.2.1 stack hon.1 option frame hon.2.2
        exact ⟨fun hlate => (entersRight_iff hnot).mp (hlate hon), fun hnone _ => (entersRight_iff hnot).mpr hnone⟩
      · have hempty : h.afterRadio c stack fct option frame = [] := if_neg fun hboth => hon hboth.1
        refine ⟨fun _ lc hcompletes => ?_, fun _ honSACCH => absurd honSACCH hon⟩
        rw [hempty] at hcompletes
        exact absurd hcompletes (not_completes_nil lc)
  | network stack fct option dstId frame =>
      by_cases hon : NetworkOnSACCH h.site stack fct option frame
      · have hnot := processNetwork_onSACCH c hgrouped.2 hon.2.1 stack hon.1 option dstId frame hon.2.2
        exact ⟨fun hlate => (entersRight_iff hnot).mp (hlate hon), fun hnone _ => (entersRight_iff hnot).mpr hnone⟩
      · have hempty : h.afterNetwork stack fct option frame = [] := if_neg hon
        refine ⟨fun _ lc hcompletes => ?_, fun _ honSACCH => absurd honSACCH hon⟩
        rw [hempty] at hcompletes
        exact absurd hcompletes (not_completes_nil lc)
  | meanwhile => exact Iff.rfl
  | interrupt => exact Iff.rfl

/-- **Every late entry of a run is right exactly when no superframe of a call that would be admitted is complete.** -/
theorem lateEntry_iff {h : Heard} (hfresh : h.IsFresh) {l : List (Event × Heard)} (hrun : Run (Heard.Step c) h l) :
    Guarded (EntersLate c) h l ↔ Guarded (CompletesNone c) h l :=
  hrun.guarded_congr (fun hgrouped hstep => Heard.Step.grouped c hgrouped hstep)
    (fun hgrouped event => entersLate_iff c hgrouped event)
    ⟨congrArg RTCH.group hfresh.1, congrArg RTCH.group hfresh.2.1⟩

/-! ## A superframe -/

theorem lateEntry_waits {s : Control} {stack : Stack} {option : UInt8} {sacch : SACCH} {frame : Frame}
    (hstolen : (decodeStolen stack.mem LATE_FACCH1_2_OFFSET option frame.data).1 = false)
    (hmask : (takeQuarter s stack sacch s.rfLC s.rfMask).1.2 ≠ 0x0F) :
    lateEntry c s stack option sacch frame
      = (false, { (takeQuarter s stack sacch s.rfLC s.rfMask).2 with
          rfLC := (takeQuarter s stack sacch s.rfLC s.rfMask).1.1
          rfMask := (takeQuarter s stack sacch s.rfLC s.rfMask).1.2 }) := by
  unfold lateEntry
  generalize decodeStolen stack.mem LATE_FACCH1_2_OFFSET option frame.data = stolen at *
  dsimp only
  rw [hstolen, if_neg Bool.false_ne_true, if_pos hmask]

/-- A frame that waits for more quarters. -/
theorem process_eq_waits {s : Control} {stack : Stack} {fct option : UInt8} {frame : Frame}
    (hon : RadioOnSACCH s stack fct option frame) (hran : AcceptsRAN c stack frame)
    (hvalid : (SACCH.new.decode stack.mem frame.data).1 = true)
    (hmask : (takeQuarter s stack (SACCH.new.decode stack.mem frame.data).2 s.rfLC s.rfMask).1.2 ≠ 0x0F) :
    process c s stack fct option frame
      = (false, (lateEntry c s stack option (SACCH.new.decode stack.mem frame.data).2 frame).2) := by
  have htaken : ¬ ((SACCH.new.decode stack.mem frame.data).1 = true ∧
      (SACCH.new.decode stack.mem frame.data).2.m_ran.toUInt32 ≠ c.ran ∧
      (SACCH.new.decode stack.mem frame.data).2.m_ran ≠ 0) := fun h =>
    hran.elim (fun heq => h.2.1 heq) (fun hzero => h.2.2 hzero)
  have hheard : ¬ ((!(SACCH.new.decode stack.mem frame.data).1) = true ∧ s.rfState = RS_RF_LISTENING) := by
    rw [hvalid]
    exact fun h => Bool.false_ne_true h.1
  have hfalse : (lateEntry c s stack option (SACCH.new.decode stack.mem frame.data).2 frame).1 = false := by
    rw [lateEntry_waits c hon.2.2 hmask]
  unfold process
  dsimp only
  rw [if_neg htaken, if_neg hheard, if_neg hon.1, if_pos hon.2.1, hfalse, if_neg Bool.false_ne_true]

theorem acl_takeQuarter (s : Control) (stack : Stack) (sacch : SACCH) (lc : RTCH) (mask : UInt8) :
    (takeQuarter s stack sacch lc mask).2.acl = s.acl := by
  unfold takeQuarter
  split <;> rfl

theorem quarterOf_eq_some {stack : Stack} {frame : Frame} {q : Quarter} (hquarter : quarterOf stack frame = some q) :
    (SACCH.new.decode stack.mem frame.data).1 = true ∧
      (SACCH.new.decode stack.mem frame.data).2.m_structure = q.structure_ := by
  unfold quarterOf at hquarter
  generalize SACCH.new.decode stack.mem frame.data = sacch at *
  dsimp only at hquarter
  split at hquarter
  · rename_i hok
    exact ⟨hok, congrArg Quarter.structure_ (Option.some.inj hquarter)⟩
  · cases hquarter

theorem mask_takeQuarter (s : Control) {stack : Stack} {frame : Frame} {q : Quarter}
    (hquarter : quarterOf stack frame = some q) (lc : RTCH) (mask : UInt8) :
    ∃ type, (takeQuarter s stack (SACCH.new.decode stack.mem frame.data).2 lc mask).1.2
      = quarterMask mask q.structure_ type := by
  obtain ⟨offset, hoffset⟩ := SACCH.quarterOffset_decode stack.mem frame.data
  have hstructure := (quarterOf_eq_some hquarter).2
  generalize (SACCH.new.decode stack.mem frame.data).2 = sacch at *
  unfold takeQuarter
  rw [hoffset, hstructure]
  exact ⟨_, rfl⟩

/-- It leaves the side as it is, but for the link control and the mask. -/
theorem process_waits {s : Control} {stack : Stack} {fct option : UInt8} {frame : Frame}
    (hon : RadioOnSACCH s stack fct option frame) (hran : AcceptsRAN c stack frame) {q : Quarter}
    (hquarter : quarterOf stack frame = some q) (hmask : ∀ type, quarterMask s.rfMask q.structure_ type ≠ 0x0F) :
    ∃ type lc, ∃ s' : Control, (process c s stack fct option frame).2
      = { s' with rfLC := lc, rfMask := quarterMask s.rfMask q.structure_ type } ∧
        s'.rfState = RS_RF_LISTENING ∧ s'.acl = s.acl ∧ s'.netState = s.netState := by
  obtain ⟨type, htake⟩ := mask_takeQuarter s hquarter s.rfLC s.rfMask
  have hvalid := (quarterOf_eq_some hquarter).1
  have hsame := sameCalls_takeQuarter s stack (SACCH.new.decode stack.mem frame.data).2 s.rfLC s.rfMask
  have hacl := acl_takeQuarter s stack (SACCH.new.decode stack.mem frame.data).2 s.rfLC s.rfMask
  have hwaits : (takeQuarter s stack (SACCH.new.decode stack.mem frame.data).2 s.rfLC s.rfMask).1.2 ≠ 0x0F := by
    rw [htake]
    exact hmask type
  rw [process_eq_waits c hon hran hvalid hwaits, lateEntry_waits c hon.2.2 hwaits]
  refine ⟨type, (takeQuarter s stack (SACCH.new.decode stack.mem frame.data).2 s.rfLC s.rfMask).1.1,
    (takeQuarter s stack (SACCH.new.decode stack.mem frame.data).2 s.rfLC s.rfMask).2, ?_,
    hsame.rfState.trans hon.2.1, hacl, hsame.netState⟩
  rw [htake]

/-- Four quarters of the same octets make the link control in them. -/
theorem superframe_of_quarters {q1 q2 q3 q4 : Quarter} {lc : Bytes}
    (h1 : q1.structure_ = SACCH.NXDN_SR_1_4) (h2 : q2.structure_ = SACCH.NXDN_SR_2_4)
    (h3 : q3.structure_ = SACCH.NXDN_SR_3_4) (h4 : q4.structure_ = SACCH.NXDN_SR_4_4)
    (b1 : ∀ k < 18, readBit q1.bits k = readBit lc k) (b2 : ∀ k < 18, readBit q2.bits k = readBit lc (18 + k))
    (b3 : ∀ k < 18, readBit q3.bits k = readBit lc (36 + k)) (b4 : ∀ k < 18, readBit q4.bits k = readBit lc (54 + k))
    (rest : List Quarter) : superframe (q4 :: q3 :: q2 :: q1 :: rest) = some (RTCH.new.decode lc 72 0) := by
  unfold superframe
  dsimp only
  rw [if_pos ⟨h1, h2, h3, h4⟩]
  refine congrArg some (congrArg (fun rtch => (RTCH.decodeLC RTCH.new rtch).2) (bytes_ext fun k => ?_))
  rw [readBit_copyBits, readBit_copyBits _ _ lc]
  by_cases hk : 0 ≤ k ∧ k < 0 + 72
  · rw [if_pos hk, if_pos hk]
    simp only [readBit_copyBits]
    split_ifs
    · rw [b4 _ (by omega), show 54 + (0 + (0 + (k - 0) - 54)) = 0 + (k - 0) by omega]
    · rw [b3 _ (by omega), show 36 + (0 + (0 + (k - 0) - 36)) = 0 + (k - 0) by omega]
    · rw [b2 _ (by omega), show 18 + (0 + (0 + (k - 0) - 18)) = 0 + (k - 0) by omega]
    · rw [b1 _ (by omega), show 0 + (0 + (k - 0) - 0) = 0 + (k - 0) by omega]
    · omega
  · rw [if_neg hk, if_neg hk]

/-- The link control of a voice call of radio 1 to talkgroup 2. -/
def voiceCall : Bytes := fun i => [0x01, 0x00, 0x20, 0x00, 0x01, 0x00, 0x02, 0x00, 0x00].getD i 0

/-- A frame with a quarter of it. -/
def quarterFrame (structure_ : UInt8) (first : Nat) : Frame :=
  let sacch : SACCH := ⟨1, structure_, copyBits (fun _ => 0x00) 8 voiceCall first 18⟩
  { tag := TAG_DATA, data := (sacch.encode quietStack.mem fun _ => 0x00).2 }

theorem quarterOf_quarterFrame {structure_ : UInt8} (hs : structure_ &&& 0x03 = structure_) (first : Nat) :
    AcceptsRAN openSettings quietStack (quarterFrame structure_ first) ∧
      ∃ q, quarterOf quietStack (quarterFrame structure_ first) = some q ∧ q.structure_ = structure_ ∧
        ∀ k < 18, readBit q.bits k = readBit voiceCall (first + k) := by
  obtain ⟨hok, hran, hstructure, hbits⟩ := SACCH.recover quietStack.mem (fun _ => 0x00) (S := []) (by simp)
    ⟨1, structure_, copyBits (fun _ => 0x00) 8 voiceCall first 18⟩ SACCH.new
  refine ⟨Or.inl ?_, ⟨_, SACCH.getData _ fun _ => 0x00⟩, if_pos hok, hstructure.trans hs, fun k hk => ?_⟩
  · show (SACCH.m_ran _).toUInt32 = 1
    rw [show (SACCH.decode SACCH.new quietStack.mem (quarterFrame structure_ first).data).2.m_ran = 1 from
      hran.trans (show (1 : UInt8) &&& 0x3F = 1 by decide)]
    rfl
  · show readBit (SACCH.getData _ _) k = _
    rw [SACCH.getData, readBit_copyBits, if_pos ⟨Nat.zero_le _, by rw [SACCH.NXDN_SACCH_LENGTH_BITS]; omega⟩]
    have h := hbits (8 + (k - 0)) (by omega) (by omega)
    rw [readBit_copyBits, if_pos (by omega), show first + (8 + (k - 0) - 8) = first + k by omega] at h
    exact h

/-- A frame with a quarter, as the handler is given it. -/
def quarterEvent (structure_ : UInt8) (first : Nat) : Event :=
  .radio quietStack NXDN_LICH_USC_SACCH_SS NXDN_LICH_STEAL_NONE (quarterFrame structure_ first)

/-- The function of the steps of radios. -/
def Heard.hear (h : Heard) : Event → Heard
  | .radio stack fct option frame =>
      ⟨(process openSettings h.site stack fct option frame).2, h.afterRadio openSettings stack fct option frame, h.net⟩
  | _ => h

/-- A site of nothing but quarters in front of the last one. -/
structure Waiting (s : Control) : Prop where
  listening : s.rfState = RS_RF_LISTENING
  idle : s.netState = RS_NET_IDLE
  open_ : s.acl = freshSite.acl
  mask : s.rfMask &&& 0x08 = 0

/-- Only the last quarter completes the mask. -/
theorem quarterMask_waits {mask structure_ type : UInt8} (hmask : mask &&& 0x08 = 0)
    (hs : structure_ ≠ SACCH.NXDN_SR_4_4) : quarterMask mask structure_ type &&& 0x08 = 0 := by
  have hor : ∀ bit : UInt8, bit &&& 0x08 = 0 → (mask ||| bit) &&& 0x08 = 0 := by
    intro bit hbit
    rw [or_and_distrib, hmask, hbit]
    rfl
  unfold quarterMask
  rw [if_neg hs]
  split_ifs
  · rfl
  · rfl
  · exact hor 0x02 rfl
  · exact hor 0x04 rfl
  · exact hmask

/-- A quarter of the call is appended. -/
theorem afterRadio_quarterFrame {h : Heard} (hlisten : h.site.rfState = RS_RF_LISTENING) {structure_ : UInt8}
    (hs : structure_ &&& 0x03 = structure_) (first : Nat) :
    ∃ q : Quarter, h.afterRadio openSettings quietStack NXDN_LICH_USC_SACCH_SS NXDN_LICH_STEAL_NONE
        (quarterFrame structure_ first) = q :: h.rf ∧
      quarterOf quietStack (quarterFrame structure_ first) = some q ∧ q.structure_ = structure_ ∧
      ∀ k < 18, readBit q.bits k = readBit voiceCall (first + k) := by
  obtain ⟨hran, q, hq, hstructure, hbits⟩ := quarterOf_quarterFrame hs first
  refine ⟨q, ?_, hq, hstructure, hbits⟩
  rw [Heard.afterRadio, if_pos ⟨⟨by decide, hlisten, rfl⟩, hran⟩, hq]
  rfl

theorem rf_hear (h : Heard) (structure_ : UInt8) (first : Nat) :
    (h.hear (quarterEvent structure_ first)).rf = h.afterRadio openSettings quietStack NXDN_LICH_USC_SACCH_SS
      NXDN_LICH_STEAL_NONE (quarterFrame structure_ first) := rfl

/-- The site goes on waiting behind a quarter that is not the last one. -/
theorem waiting_hear {h : Heard} (hwaiting : Waiting h.site) {structure_ : UInt8}
    (hs : structure_ &&& 0x03 = structure_) (hlast : structure_ ≠ SACCH.NXDN_SR_4_4) (first : Nat) :
    Waiting (h.hear (quarterEvent structure_ first)).site := by
  obtain ⟨hran, q, hq, hstructure, -⟩ := quarterOf_quarterFrame hs first
  have hmask : ∀ type, quarterMask h.site.rfMask q.structure_ type &&& 0x08 = 0 := fun type =>
    quarterMask_waits hwaiting.mask (hstructure ▸ hlast)
  have hon : RadioOnSACCH h.site quietStack NXDN_LICH_USC_SACCH_SS NXDN_LICH_STEAL_NONE
      (quarterFrame structure_ first) := ⟨by decide, hwaiting.listening, rfl⟩
  obtain ⟨type, lc, s', heq, hstate, hacl, hnet⟩ :=
    process_waits openSettings hon hran hq fun type hfull => by
      have h := hmask type
      rw [hfull] at h
      exact absurd h (by decide)
  have hsite : (h.hear (quarterEvent structure_ first)).site
      = { s' with rfLC := lc, rfMask := quarterMask h.site.rfMask q.structure_ type } := heq
  rw [hsite]
  exact ⟨hstate, hnet.trans hwaiting.idle, hacl.trans hwaiting.open_, hmask type⟩

/-- The call would be admitted. -/
theorem admitRF_voiceCall {s : Control} (hnet : s.netState = RS_NET_IDLE) (hacl : s.acl = freshSite.acl) :
    (admitRF s (RTCH.new.decode voiceCall 72 0)).1 = true := by
  have hsrc : (RTCH.new.decode voiceCall 72 0).srcId = 1 := by decide
  have hdst : (RTCH.new.decode voiceCall 72 0).dstId = 2 := by decide
  have hgroup : (RTCH.new.decode voiceCall 72 0).group = true := by decide
  have hidle : checkTrafficCollision s 2 = (true, s) := if_neg (not_not.mpr hnet)
  have hvalid : (validateIDs s 1 2 true).1 = true := by
    unfold validateIDs
    rw [hacl]
    rfl
  unfold admitRF
  rw [hsrc, hdst, hgroup, hidle]
  exact hvalid

/-- The four quarters of the call, each received by a site that listens. -/
def superframeRun : List (Event × Heard) :=
  let h0 : Heard := ⟨freshSite, [], []⟩
  let e1 := quarterEvent SACCH.NXDN_SR_1_4 0
  let e2 := quarterEvent SACCH.NXDN_SR_2_4 18
  let e3 := quarterEvent SACCH.NXDN_SR_3_4 36
  let e4 := quarterEvent SACCH.NXDN_SR_4_4 54
  [(e1, h0.hear e1), (e2, (h0.hear e1).hear e2), (e3, ((h0.hear e1).hear e2).hear e3),
    (e4, (((h0.hear e1).hear e2).hear e3).hear e4)]

theorem step_quarterEvent (h : Heard) (structure_ : UInt8) (first : Nat) :
    Heard.Step openSettings h (quarterEvent structure_ first) (h.hear (quarterEvent structure_ first)) :=
  Heard.Step.radio quietStack _ _ (quarterFrame structure_ first)

theorem run_superframeRun : Run (Heard.Step openSettings) ⟨freshSite, [], []⟩ superframeRun :=
  .cons (step_quarterEvent _ _ _) (.cons (step_quarterEvent _ _ _)
    (.cons (step_quarterEvent _ _ _) (.cons (step_quarterEvent _ _ _) .nil)))

/-- A superframe of a call that would be admitted, and the call is not entered. -/
theorem superframe_not_entered :
    Run (Heard.Step openSettings) ⟨freshSite, [], []⟩ superframeRun ∧
      ¬ Guarded (EntersLate openSettings) ⟨freshSite, [], []⟩ superframeRun := by
  refine ⟨run_superframeRun, fun hguarded => ?_⟩
  -- the site goes on waiting behind each of the first three quarters
  let h1 := Heard.hear ⟨freshSite, [], []⟩ (quarterEvent SACCH.NXDN_SR_1_4 0)
  let h2 := h1.hear (quarterEvent SACCH.NXDN_SR_2_4 18)
  let h3 := h2.hear (quarterEvent SACCH.NXDN_SR_3_4 36)
  have hw0 : Waiting freshSite := ⟨rfl, rfl, rfl, rfl⟩
  have hw1 : Waiting h1.site := waiting_hear (h := ⟨freshSite, [], []⟩) hw0 (by decide) (by decide) 0
  have hw2 : Waiting h2.site := waiting_hear hw1 (by decide) (by decide) 18
  have hw3 : Waiting h3.site := waiting_hear hw2 (by decide) (by decide) 36
  obtain ⟨q1, hq1, -, hs1, hb1⟩ := afterRadio_quarterFrame (h := ⟨freshSite, [], []⟩) rfl
    (show SACCH.NXDN_SR_1_4 &&& 0x03 = SACCH.NXDN_SR_1_4 by decide) 0
  obtain ⟨q2, hq2, -, hs2, hb2⟩ := afterRadio_quarterFrame hw1.listening
    (show SACCH.NXDN_SR_2_4 &&& 0x03 = SACCH.NXDN_SR_2_4 by decide) 18
  obtain ⟨q3, hq3, -, hs3, hb3⟩ := afterRadio_quarterFrame hw2.listening
    (show SACCH.NXDN_SR_3_4 &&& 0x03 = SACCH.NXDN_SR_3_4 by decide) 36
  obtain ⟨q4, hq4, -, hs4, hb4⟩ := afterRadio_quarterFrame hw3.listening
    (show SACCH.NXDN_SR_4_4 &&& 0x03 = SACCH.NXDN_SR_4_4 by decide) 54
  have hrf : h3.rf = [q3, q2, q1] := by
    rw [rf_hear, hq3, rf_hear, hq2, rf_hear, hq1]
  rw [hrf] at hq4
  have hcompletes : Completes [q4, q3, q2, q1] (RTCH.new.decode voiceCall 72 0) := by
    refine ⟨superframe_of_quarters hs1 hs2 hs3 hs4 (fun k hk => ?_) hb2 hb3 hb4 [], by decide⟩
    rw [hb1 k hk, Nat.zero_add]
  have hlate : EntersLate openSettings h3 (quarterEvent SACCH.NXDN_SR_4_4 54) := hguarded.2.2.2.1
  have hgrouped1 : Grouped h1.site := Heard.Step.grouped openSettings ⟨rfl, rfl⟩ (step_quarterEvent _ _ _)
  have hgrouped3 : Grouped h3.site :=
    Heard.Step.grouped openSettings (Heard.Step.grouped openSettings hgrouped1 (step_quarterEvent _ _ _))
      (step_quarterEvent _ _ _)
  have hnone := (entersLate_iff openSettings hgrouped3 _).mp hlate (RTCH.new.decode voiceCall 72 0)
    (by rw [hq4]; exact hcompletes)
  exact absurd (hnone.symm.trans (admitRF_voiceCall hw3.idle hw3.open_)) Bool.false_ne_true

theorem lateEntry_superframeRun :
    Guarded (EntersLate openSettings) ⟨freshSite, [], []⟩ superframeRun ↔
      Guarded (CompletesNone openSettings) ⟨freshSite, [], []⟩ superframeRun :=
  lateEntry_iff openSettings ⟨rfl, rfl, rfl, rfl⟩ run_superframeRun

end Voice

end Nxdn

end DvmHost

import DvmHost.Host.Nxdn.Packet.Correctness.HeaderFrames
import DvmHost.Lib.Run

/-!
# `Host.Nxdn.Packet.Correctness.VoiceRelay` — what becomes of the frames of the network, and of late entries

While no radio calls, a frame of the network that is accepted should go out once, in the normal queue, and touch
nothing of the radios' side. Headers and start frames are queued with the length of the frame for `net` and the flag
for `imm`, so they go to the immediate queue; the other frames are only relayed while a radio calls. What the handler
does is told by its outcome (`outcome_processNetwork`): whether it accepts the frame and whether it refuses an address
are decided by what is checked, and nothing ever enters the normal queue.
-/

namespace DvmHost

open Lib

open RPT_RF_STATE RPT_NET_STATE

namespace Nxdn

namespace Voice

open Control

variable (c : Settings)

/-! ## The checks -/

/-- No other call keeps the site from one of the network to this destination. -/
def NetFree (s : Control) (dstId : UInt16) : Prop :=
  ¬ ((s.rfLastDstId ≠ 0 ∧ isHanging s.rfTGHang) ∧ s.rfLastDstId ≠ dstId.toUInt32) ∧
    if c.authoritative then
      ¬ ((s.netLastDstId ≠ 0 ∧ isHanging s.netTGHang) ∧ s.netLastDstId ≠ dstId.toUInt32) ∧ s.rfState = RS_RF_LISTENING
    else s.permittedDstId = dstId.toUInt32

/-- Both addresses of a call are accepted. -/
def KnownIDs (acl : AccessControl) (lc : RTCH) : Prop :=
  acl.validateSrcId lc.srcId.toUInt32 = true ∧
    (if lc.group then acl.validateTGId lc.dstId.toUInt32 else acl.validateSrcId lc.dstId.toUInt32) = true

/-- A step of the network that leaves the side of the radios, and the normal queue, alone. -/
structure KeepsRF (s t : Control) : Prop where
  rfLC : t.rfLC = s.rfLC
  counters : SameCounters s t
  rfState : t.rfState = s.rfState
  txQueue : t.txQueue = s.txQueue

theorem KeepsRF.refl (s : Control) : KeepsRF s s := ⟨rfl, .refl s, rfl, rfl⟩

theorem KeepsRF.trans {s t u : Control} (h : KeepsRF s t) (h' : KeepsRF t u) : KeepsRF s u :=
  ⟨h'.rfLC.trans h.rfLC, h.counters.trans h'.counters, h'.rfState.trans h.rfState, h'.txQueue.trans h.txQueue⟩

theorem keepsRF_checkRFHang (s : Control) (dstId : UInt16) : KeepsRF s (checkRFHang s dstId).2 := by
  unfold checkRFHang
  split_ifs <;> exact ⟨rfl, ⟨rfl, rfl, rfl, rfl⟩, rfl, rfl⟩

theorem keepsRF_checkNetHang (s : Control) (dstId : UInt16) : KeepsRF s (checkNetHang s dstId).2 := by
  unfold checkNetHang
  split_ifs <;> exact ⟨rfl, ⟨rfl, rfl, rfl, rfl⟩, rfl, rfl⟩

theorem keepsRF_resetNet (s : Control) : KeepsRF s s.resetNet := ⟨rfl, ⟨rfl, rfl, rfl, rfl⟩, rfl, rfl⟩

theorem keepsRF_checkNetTrafficCollision (s : Control) (dstId : UInt16) :
    KeepsRF s (checkNetTrafficCollision c s dstId).2 := by
  have hrf := keepsRF_checkRFHang s dstId
  have hnet := hrf.trans (keepsRF_checkNetHang (checkRFHang s dstId).2 dstId)
  unfold checkNetTrafficCollision
  dsimp only
  split_ifs
  · exact hrf
  · exact hnet
  · exact hnet.trans (keepsRF_resetNet _)
  · exact hnet
  · exact hrf.trans (keepsRF_resetNet _)
  · exact hrf

theorem checkRFHang_fst (s : Control) (dstId : UInt16) : (checkRFHang s dstId).1 = true ↔
    ¬ ((s.rfLastDstId ≠ 0 ∧ isHanging s.rfTGHang) ∧ s.rfLastDstId ≠ dstId.toUInt32) := by
  unfold checkRFHang
  split_ifs with hhang hother
  · exact iff_of_false not_false fun h => h ⟨hhang, hother⟩
  · exact iff_of_true rfl fun h => hother h.2
  · exact iff_of_true rfl fun h => hhang h.1

theorem checkNetHang_fst (s : Control) (dstId : UInt16) : (checkNetHang s dstId).1 = true ↔
    ¬ ((s.netLastDstId ≠ 0 ∧ isHanging s.netTGHang) ∧ s.netLastDstId ≠ dstId.toUInt32) := by
  unfold checkNetHang
  split_ifs with hhang hother
  · exact iff_of_false not_false fun h => h ⟨hhang, hother⟩
  · exact iff_of_true rfl fun h => hother h.2
  · exact iff_of_true rfl fun h => hhang h.1

/-- The fields that the hang timer of the radios does not change. -/
theorem checkRFHang_kept (s : Control) (dstId : UInt16) :
    (checkRFHang s dstId).2.netLastDstId = s.netLastDstId ∧ (checkRFHang s dstId).2.netTGHang = s.netTGHang ∧
      (checkRFHang s dstId).2.permittedDstId = s.permittedDstId ∧ (checkRFHang s dstId).2.acl = s.acl := by
  unfold checkRFHang
  split_ifs <;> exact ⟨rfl, rfl, rfl, rfl⟩

theorem checkNetTrafficCollision_fst (s : Control) (dstId : UInt16) :
    (checkNetTrafficCollision c s dstId).1 = true ↔ NetFree c s dstId := by
  have hrf := checkRFHang_fst s dstId
  have hnet := checkNetHang_fst (checkRFHang s dstId).2 dstId
  have hstate := (keepsRF_checkNetHang (checkRFHang s dstId).2 dstId).rfState.trans (keepsRF_checkRFHang s dstId).rfState
  obtain ⟨hlast, hhang, hpermitted, -⟩ := checkRFHang_kept s dstId
  rw [hlast, hhang] at hnet
  unfold checkNetTrafficCollision NetFree
  dsimp only
  rw [hpermitted, hstate, ← hrf, ← hnet]
  generalize checkRFHang s dstId = rf at *
  generalize checkNetHang rf.2 dstId = net at *
  split_ifs <;> simp_all
  tauto

theorem acl_checkNetTrafficCollision (s : Control) (dstId : UInt16) :
    (checkNetTrafficCollision c s dstId).2.acl = s.acl := by
  have hrf := (checkRFHang_kept s dstId).2.2.2
  have hnet : (checkNetHang (checkRFHang s dstId).2 dstId).2.acl = s.acl := by
    rw [← hrf]
    unfold checkNetHang
    split_ifs <;> rfl
  unfold checkNetTrafficCollision
  dsimp only
  split_ifs <;> first | exact hrf | exact hnet

/-! ## Outcomes -/

/-- What a frame of the network comes to: whether it is accepted, and whether an address of its call is refused. -/
structure Outcome (s : Control) (accepts refuses : Prop) (r : Bool × Control) : Prop where
  accepted : r.1 = true ↔ accepts
  rfLC : r.2.rfLC = s.rfLC
  counters : SameCounters s r.2
  txQueue : r.2.txQueue = s.txQueue
  refused : refuses → r.2.rfState = RS_RF_REJECTED
  kept : ¬ refuses → r.2.rfState = s.rfState

theorem Outcome.of_keepsRF {s : Control} {r : Bool × Control} (h : KeepsRF s r.2) {accepts refuses : Prop}
    (haccepted : r.1 = true ↔ accepts) (hrefuses : ¬ refuses) : Outcome s accepts refuses r :=
  ⟨haccepted, h.rfLC, h.counters, h.txQueue, fun h => absurd h hrefuses, fun _ => h.rfState⟩

theorem Outcome.of_keepsRF_left {s t : Control} {accepts refuses : Prop} {r : Bool × Control} (h : KeepsRF s t)
    (h' : Outcome t accepts refuses r) : Outcome s accepts refuses r :=
  ⟨h'.accepted, h'.rfLC.trans h.rfLC, h.counters.trans h'.counters, h'.txQueue.trans h.txQueue, h'.refused,
    fun hnot => (h'.kept hnot).trans h.rfState⟩

theorem validateIDs_fst (s : Control) (lc : RTCH) :
    (validateIDs s lc.srcId lc.dstId lc.group).1 = true ↔ KnownIDs s.acl lc := by
  unfold validateIDs KnownIDs
  split_ifs <;> simp_all

/-- **The checks of a call of the network**, in front of what is done with the call. -/
theorem outcome_admitNet (s : Control) (lc : RTCH) {accept : Control → Control}
    (haccept : ∀ t, KeepsRF s t → KeepsRF t (accept t)) :
    Outcome s (NetFree c s lc.dstId ∧ KnownIDs s.acl lc) (NetFree c s lc.dstId ∧ ¬ KnownIDs s.acl lc)
      (if !(admitNet c s lc).1 then admitNet c s lc else (true, accept (admitNet c s lc).2)) := by
  have hfree := checkNetTrafficCollision_fst c s lc.dstId
  have hkeeps := keepsRF_checkNetTrafficCollision c s lc.dstId
  have hknown := validateIDs_fst (checkNetTrafficCollision c s lc.dstId).2 lc
  rw [acl_checkNetTrafficCollision] at hknown
  unfold admitNet
  dsimp only
  rw [← hfree, ← hknown]
  generalize checkNetTrafficCollision c s lc.dstId = checked at *
  by_cases hok : checked.1 = true
  · have hinner : (if (!checked.1) = true then checked else validateIDs checked.2 lc.srcId lc.dstId lc.group)
        = validateIDs checked.2 lc.srcId lc.dstId lc.group := if_neg (by rw [hok]; exact Bool.false_ne_true)
    rw [hinner]
    by_cases hids : (validateIDs checked.2 lc.srcId lc.dstId lc.group).1 = true
    · have hsame : (validateIDs checked.2 lc.srcId lc.dstId lc.group).2 = checked.2 := by
        unfold validateIDs at hids ⊢
        split_ifs at hids ⊢
        rfl
      rw [if_neg (by rw [hids]; exact Bool.false_ne_true), hsame]
      exact .of_keepsRF (hkeeps.trans (haccept checked.2 hkeeps)) (iff_of_true rfl ⟨hok, hids⟩) fun h => h.2 hids
    · have hreject : KeepsRF checked.2 { (validateIDs checked.2 lc.srcId lc.dstId lc.group).2 with
            rfState := checked.2.rfState } ∧
          (validateIDs checked.2 lc.srcId lc.dstId lc.group).2.rfState = RS_RF_REJECTED := by
        unfold validateIDs at hids ⊢
        split_ifs at hids ⊢ <;> first | exact ⟨⟨rfl, ⟨rfl, rfl, rfl, rfl⟩, rfl, rfl⟩, rfl⟩ | exact absurd rfl hids
      have hall := hkeeps.trans hreject.1
      rw [if_pos (by rw [Bool.eq_false_iff.mpr hids]; rfl)]
      exact ⟨iff_of_false hids fun h => hids h.2, hall.rfLC, ⟨hall.counters.1, hall.counters.2, hall.counters.3,
        hall.counters.4⟩, hall.txQueue, fun _ => hreject.2, fun h => absurd ⟨hok, hids⟩ h⟩
  · have hfalse : (!checked.1) = true := by rw [Bool.eq_false_iff.mpr hok]; rfl
    have hinner : (if (!checked.1) = true then checked else validateIDs checked.2 lc.srcId lc.dstId lc.group)
        = checked := if_pos hfalse
    rw [hinner, if_pos hfalse]
    exact .of_keepsRF hkeeps (iff_of_false hok fun h => hok h.1) fun h => hok h.1

/-! ## The frames of the network -/

/-- The link control that is received is told apart from what it leaves in the state. -/
theorem linkControl_fst (s : Control) (stack : Stack) (facch : FACCH1) :
    (linkControl s stack facch).1 = received stack.buffer facch := rfl

theorem keepsRF_linkControl (s : Control) (stack : Stack) (facch : FACCH1) : KeepsRF s (linkControl s stack facch).2 :=
  ⟨rfl, ⟨rfl, rfl, rfl, rfl⟩, rfl, rfl⟩

theorem keepsRF_takeQuarter (s : Control) (stack : Stack) (sacch : SACCH) (lc : RTCH) (mask : UInt8) :
    KeepsRF s (takeQuarter s stack sacch lc mask).2 := by
  unfold takeQuarter
  split
  · exact .refl s
  · exact ⟨rfl, ⟨rfl, rfl, rfl, rfl⟩, rfl, rfl⟩

theorem keepsRF_openingFrame (s : Control) (mem : Channel.Memory) (outbound : Bool) (lc : RTCH) (facch : FACCH1)
    (data : Bytes) : KeepsRF s (openingFrame c s mem outbound lc facch data).2 :=
  ⟨rfl, ⟨rfl, rfl, rfl, rfl⟩, rfl, rfl⟩

theorem keepsRF_repeatNetHeader (s : Control) (frame : Frame) : KeepsRF s (repeatNetHeader c s frame) := by
  unfold repeatNetHeader
  split
  · show KeepsRF s (if isTimedOut s.netTimeout = true then s else { s with txImmQueue := s.txImmQueue.add frame true })
    split
    · exact .refl s
    · exact ⟨rfl, ⟨rfl, rfl, rfl, rfl⟩, rfl, rfl⟩
  · exact .refl s

theorem keepsRF_relayNetHeader (s : Control) (stack : Stack) (lc : RTCH) (facch : FACCH1) (frame : Frame) :
    KeepsRF s (relayNetHeader c s stack lc facch frame) := by
  have htouch : KeepsRF s { touchNet s lc with netLC := (touchNet s lc).netLC.copy lc } :=
    ⟨rfl, ⟨rfl, rfl, rfl, rfl⟩, rfl, rfl⟩
  unfold relayNetHeader
  dsimp only
  split_ifs <;> exact (htouch.trans (keepsRF_repeatNetHeader c _ _)).trans ⟨rfl, ⟨rfl, rfl, rfl, rfl⟩, rfl, rfl⟩

/-- The link control of a voice call that a header of the network brings to the checks. -/
def headerCall (s : Control) (stack : Stack) (frame : Frame) : Option RTCH :=
  let decoded := decodeEither stack.mem FACCH1_1_OFFSET FACCH1_2_OFFSET frame.data
  let lc := received stack.buffer decoded.2
  if decoded.1 ∧ ¬ (isUnpermitted c s lc.dstId ∧ s.netState ≠ RS_NET_AUDIO) ∧
      lc.messageType = RTCH_MESSAGE_TYPE_VCALL then some lc
  else none

/-- The header ends the call that is there. -/
def Ends (s : Control) (stack : Stack) (frame : Frame) : Prop :=
  let decoded := decodeEither stack.mem FACCH1_1_OFFSET FACCH1_2_OFFSET frame.data
  decoded.1 = true ∧ (received stack.buffer decoded.2).messageType = RTCH_MESSAGE_TYPE_TX_REL ∧
    s.netState = RS_NET_AUDIO

/-- The link control of a voice call that a frame of a call without a header brings to the checks. -/
def lateCall (s : Control) (stack : Stack) (option : UInt8) (frame : Frame) : Option RTCH :=
  let stolen := decodeStolen stack.mem FACCH1_2_OFFSET option frame.data
  if stolen.1 then
    let lc := received stack.buffer stolen.2
    if lc.messageType = RTCH_MESSAGE_TYPE_VCALL then some lc else none
  else
    let quarter := (takeQuarter s stack (SACCH.new.decode stack.mem frame.data).2 s.netLC s.netMask).1
    if quarter.2 = 0x0F ∧ quarter.1.messageType = RTCH_MESSAGE_TYPE_VCALL then some quarter.1 else none

/-- A call that passes both checks. -/
def Admits (s : Control) (lc : RTCH) : Prop := NetFree c s lc.dstId ∧ KnownIDs s.acl lc

/-- A call that passes the first check and not the second. -/
def RefusesIDs (s : Control) (lc : RTCH) : Prop := NetFree c s lc.dstId ∧ ¬ KnownIDs s.acl lc

theorem not_exists_none {p : RTCH → Prop} : ¬ ∃ lc, (none : Option RTCH) = some lc ∧ p lc := fun ⟨_, h, _⟩ => nomatch h

theorem exists_some_iff {a : RTCH} {p : RTCH → Prop} : (∃ lc, some a = some lc ∧ p lc) ↔ p a :=
  ⟨fun ⟨_, h, hp⟩ => Option.some.inj h ▸ hp, fun h => ⟨a, rfl, h⟩⟩

/-- **A header of the network.** -/
theorem outcome_processNetHeader (s : Control) (stack : Stack) (dstId : UInt16) (frame : Frame) :
    Outcome s ((∃ lc, headerCall c s stack frame = some lc ∧ Admits c s lc) ∨ Ends s stack frame)
      (∃ lc, headerCall c s stack frame = some lc ∧ RefusesIDs c s lc) (processNetHeader c s stack dstId frame) := by
  unfold headerCall Ends processNetHeader
  generalize decodeEither stack.mem FACCH1_1_OFFSET FACCH1_2_OFFSET frame.data = decoded
  dsimp only
  by_cases hok : decoded.1 = true
  case neg =>
    rw [if_pos (show (!decoded.1) = true by rw [Bool.eq_false_iff.mpr hok]; rfl),
      if_neg (show ¬ (decoded.1 = true ∧ _) from fun h => hok h.1)]
    exact .of_keepsRF (.refl s)
      (iff_of_false Bool.false_ne_true fun h => h.elim not_exists_none fun h => hok h.1) not_exists_none
  case pos =>
    have hlink := keepsRF_linkControl s stack decoded.2
    have hnot : ¬ (!decoded.1) = true := by
      rw [hok]
      exact Bool.false_ne_true
    rw [if_neg hnot, linkControl_fst]
    have hadmit := outcome_admitNet c (linkControl s stack decoded.2).2 (received stack.buffer decoded.2)
      fun t _ => keepsRF_relayNetHeader c t stack { received stack.buffer decoded.2 with dstId } decoded.2 frame
    generalize received stack.buffer decoded.2 = lc at *
    by_cases hunpermitted : isUnpermitted c s lc.dstId = true ∧ s.netState ≠ RS_NET_AUDIO
    · have hcall : ¬ (decoded.1 = true ∧ ¬ (isUnpermitted c s lc.dstId = true ∧ s.netState ≠ RS_NET_AUDIO) ∧
          lc.messageType = RTCH_MESSAGE_TYPE_VCALL) := fun h => h.2.1 hunpermitted
      rw [if_neg hcall, if_pos (show isUnpermitted c (linkControl s stack decoded.2).2 lc.dstId = true ∧
        (linkControl s stack decoded.2).2.netState ≠ RS_NET_AUDIO from hunpermitted)]
      exact .of_keepsRF (hlink.trans ⟨rfl, ⟨rfl, rfl, rfl, rfl⟩, rfl, rfl⟩)
        (iff_of_false Bool.false_ne_true fun h => h.elim not_exists_none fun h => hunpermitted.2 h.2.2) not_exists_none
    by_cases hrelease : lc.messageType = RTCH_MESSAGE_TYPE_TX_REL
    · have hvcall : lc.messageType ≠ RTCH_MESSAGE_TYPE_VCALL := by
        rw [hrelease]
        decide
      have hcall : ¬ (decoded.1 = true ∧ ¬ (isUnpermitted c s lc.dstId = true ∧ s.netState ≠ RS_NET_AUDIO) ∧
          lc.messageType = RTCH_MESSAGE_TYPE_VCALL) := fun h => hvcall h.2.2
      rw [if_neg hcall, if_neg (show ¬ (isUnpermitted c (linkControl s stack decoded.2).2 lc.dstId = true ∧
        (linkControl s stack decoded.2).2.netState ≠ RS_NET_AUDIO) from hunpermitted), if_pos hrelease]
      by_cases haudio : s.netState = RS_NET_AUDIO
      · rw [if_neg (show ¬ (linkControl s stack decoded.2).2.netState ≠ RS_NET_AUDIO from not_not.mpr haudio)]
        exact .of_keepsRF (hlink.trans (keepsRF_relayNetHeader ..))
          (iff_of_true rfl (Or.inr ⟨hok, hrelease, haudio⟩)) not_exists_none
      · rw [if_pos (show (linkControl s stack decoded.2).2.netState ≠ RS_NET_AUDIO from haudio)]
        exact .of_keepsRF (hlink.trans ⟨rfl, ⟨rfl, rfl, rfl, rfl⟩, rfl, rfl⟩)
          (iff_of_false Bool.false_ne_true fun h => h.elim not_exists_none fun h => haudio h.2.2) not_exists_none
    by_cases hvcall : lc.messageType = RTCH_MESSAGE_TYPE_VCALL
    · rw [if_pos (show decoded.1 = true ∧ ¬ (isUnpermitted c s lc.dstId = true ∧ s.netState ≠ RS_NET_AUDIO) ∧
          lc.messageType = RTCH_MESSAGE_TYPE_VCALL from ⟨hok, hunpermitted, hvcall⟩), exists_some_iff, exists_some_iff,
        or_iff_left fun h => hrelease h.2.1,
        if_neg (show ¬ (isUnpermitted c (linkControl s stack decoded.2).2 lc.dstId = true ∧
          (linkControl s stack decoded.2).2.netState ≠ RS_NET_AUDIO) from hunpermitted), if_neg hrelease, if_pos hvcall]
      exact .of_keepsRF_left hlink hadmit
    · have hcall : ¬ (decoded.1 = true ∧ ¬ (isUnpermitted c s lc.dstId = true ∧ s.netState ≠ RS_NET_AUDIO) ∧
          lc.messageType = RTCH_MESSAGE_TYPE_VCALL) := fun h => hvcall h.2.2
      rw [if_neg hcall, if_neg (show ¬ (isUnpermitted c (linkControl s stack decoded.2).2 lc.dstId = true ∧
        (linkControl s stack decoded.2).2.netState ≠ RS_NET_AUDIO) from hunpermitted), if_neg hrelease, if_neg hvcall]
      exact .of_keepsRF hlink
        (iff_of_false Bool.false_ne_true fun h => h.elim not_exists_none fun h => hrelease h.2.1) not_exists_none

/-- The counters of a side of the radios that has nothing to count. -/
structure Cleared (s : Control) : Prop where
  rfFrames : s.rfFrames = 0
  rfErrs : s.rfErrs = 0
  rfBits : s.rfBits = 1
  rfUndecodableLC : s.rfUndecodableLC = 0

/-- What `enterNet` does once the call has passed the checks. -/
def startCall (t : Control) (lc : RTCH) (stack : Stack) (facch : FACCH1) : Control :=
  let s := startNet (touchNet t lc)
  let start := openingFrame c s stack.mem true s.rfLC facch fun _ => 0x00
  repeatNetHeader c start.2 { tag := TAG_DATA, data := start.1 }

/-- **A call of the network that is entered late**: the counters that start again are already there. -/
theorem outcome_enterNet {s : Control} (hcleared : Cleared s) (stack : Stack) (facch : FACCH1) :
    Outcome s (Admits c s s.netLC) (RefusesIDs c s s.netLC) (enterNet c s stack facch) := by
  have hstart (t : Control) (ht : KeepsRF s t) : KeepsRF t (startNet (touchNet t s.netLC)) :=
    ⟨rfl, ⟨(ht.counters.1.trans hcleared.1).symm, (ht.counters.2.trans hcleared.3).symm,
      (ht.counters.3.trans hcleared.2).symm, rfl⟩, rfl, rfl⟩
  have haccept (t : Control) (ht : KeepsRF s t) : KeepsRF t (startCall c t s.netLC stack facch) := by
    have hopen := (hstart t ht).trans (keepsRF_openingFrame c (startNet (touchNet t s.netLC)) stack.mem true
      (startNet (touchNet t s.netLC)).rfLC facch fun _ => 0x00)
    exact hopen.trans (keepsRF_repeatNetHeader c _ _)
  exact outcome_admitNet c s s.netLC haccept

theorem netFree_takeQuarter (s : Control) (stack : Stack) (sacch : SACCH) (lc lc' : RTCH) (mask : UInt8) :
    (Admits c (takeQuarter s stack sacch lc mask).2 lc' ↔ Admits c s lc') ∧
      (RefusesIDs c (takeQuarter s stack sacch lc mask).2 lc' ↔ RefusesIDs c s lc') := by
  unfold takeQuarter
  split <;> exact ⟨Iff.rfl, Iff.rfl⟩

/-- **A frame of a call without a header**, while there is no call. -/
theorem outcome_lateEntryNet {s : Control} (hcleared : Cleared s) (stack : Stack) (option : UInt8) (frame : Frame) :
    Outcome s (∃ lc, lateCall s stack option frame = some lc ∧ Admits c s lc)
      (∃ lc, lateCall s stack option frame = some lc ∧ RefusesIDs c s lc)
      (lateEntryNet c s stack option (SACCH.new.decode stack.mem frame.data).2 frame) := by
  by_cases hstolen : (decodeStolen stack.mem FACCH1_2_OFFSET option frame.data).1 = true
  · have hcall : lateCall s stack option frame
        = if (received stack.buffer (decodeStolen stack.mem FACCH1_2_OFFSET option frame.data).2).messageType
              = RTCH_MESSAGE_TYPE_VCALL
          then some (received stack.buffer (decodeStolen stack.mem FACCH1_2_OFFSET option frame.data).2)
          else none := if_pos hstolen
    unfold lateEntryNet
    dsimp only
    rw [if_pos hstolen, linkControl_fst]
    generalize (decodeStolen stack.mem FACCH1_2_OFFSET option frame.data).2 = facch at *
    have hlink := keepsRF_linkControl s stack facch
    generalize received stack.buffer facch = lc at *
    by_cases hvcall : lc.messageType = RTCH_MESSAGE_TYPE_VCALL
    · have hnetLC : KeepsRF s { (linkControl s stack facch).2 with
          netLC := (linkControl s stack facch).2.netLC.copy lc } := ⟨rfl, ⟨rfl, rfl, rfl, rfl⟩, rfl, rfl⟩
      have henter := outcome_enterNet c (s := { (linkControl s stack facch).2 with
        netLC := (linkControl s stack facch).2.netLC.copy lc })
        ⟨hcleared.1, hcleared.2, hcleared.3, hcleared.4⟩ stack facch
      rw [hcall.trans (if_pos hvcall), exists_some_iff, exists_some_iff, if_neg (not_not.mpr hvcall)]
      exact .of_keepsRF_left hnetLC henter
    · rw [hcall.trans (if_neg hvcall), if_pos hvcall]
      exact .of_keepsRF hlink (iff_of_false Bool.false_ne_true not_exists_none) not_exists_none
  · have hcall : lateCall s stack option frame
        = if (takeQuarter s stack (SACCH.new.decode stack.mem frame.data).2 s.netLC s.netMask).1.2 = 0x0F ∧
              (takeQuarter s stack (SACCH.new.decode stack.mem frame.data).2 s.netLC s.netMask).1.1.messageType
                = RTCH_MESSAGE_TYPE_VCALL
          then some (takeQuarter s stack (SACCH.new.decode stack.mem frame.data).2 s.netLC s.netMask).1.1
          else none := if_neg hstolen
    unfold lateEntryNet
    dsimp only
    rw [if_neg hstolen]
    have hfree := netFree_takeQuarter c s stack (SACCH.new.decode stack.mem frame.data).2 s.netLC
      (takeQuarter s stack (SACCH.new.decode stack.mem frame.data).2 s.netLC s.netMask).1.1 s.netMask
    have hquarter := keepsRF_takeQuarter s stack (SACCH.new.decode stack.mem frame.data).2 s.netLC s.netMask
    generalize takeQuarter s stack (SACCH.new.decode stack.mem frame.data).2 s.netLC s.netMask = quarter at *
    have hset : KeepsRF s { quarter.2 with netLC := quarter.1.1, netMask := quarter.1.2 } :=
      hquarter.trans ⟨rfl, ⟨rfl, rfl, rfl, rfl⟩, rfl, rfl⟩
    by_cases hwhole : quarter.1.2 = 0x0F ∧ quarter.1.1.messageType = RTCH_MESSAGE_TYPE_VCALL
    · have henter := outcome_enterNet c (s := { quarter.2 with netLC := quarter.1.1, netMask := quarter.1.2 })
        ⟨hset.counters.1.trans hcleared.1, hset.counters.3.trans hcleared.2, hset.counters.2.trans hcleared.3,
          hset.counters.4.trans hcleared.4⟩ stack (decodeStolen stack.mem FACCH1_2_OFFSET option frame.data).2
      rw [hcall.trans (if_pos hwhole), exists_some_iff, exists_some_iff, ← hfree.1, ← hfree.2,
        if_neg (not_not.mpr hwhole.1), if_neg (not_not.mpr hwhole.2)]
      exact .of_keepsRF_left hset henter
    · rw [hcall.trans (if_neg hwhole)]
      by_cases hmask : quarter.1.2 = 0x0F
      · rw [if_neg (not_not.mpr hmask), if_pos fun h => hwhole ⟨hmask, h⟩]
        exact .of_keepsRF hset (iff_of_false Bool.false_ne_true not_exists_none) not_exists_none
      · rw [if_pos hmask]
        exact .of_keepsRF hset (iff_of_false Bool.false_ne_true not_exists_none) not_exists_none

/-! ## Steps of the network -/

/-- `if (m_rfState != RS_RF_LISTENING && m_netState == RS_NET_IDLE) return;` does not turn the network away. -/
def takesNetwork (s : Control) : Bool := s.rfState = RS_RF_LISTENING ∨ s.netState ≠ RS_NET_IDLE

/-- The frame of the network passes the checks that are made of it. -/
def Accepts (s : Control) (stack : Stack) (fct option : UInt8) (frame : Frame) : Prop :=
  if fct = NXDN_LICH_USC_SACCH_NS then
    (∃ lc, headerCall c (clearNet s) stack frame = some lc ∧ Admits c (clearNet s) lc) ∨ Ends s stack frame
  else s.netState = RS_NET_IDLE → ∃ lc, lateCall (clearNet s) stack option frame = some lc ∧ Admits c (clearNet s) lc

/-- The frame of the network brings a call with an address that is not known. -/
def Refuses (s : Control) (stack : Stack) (fct option : UInt8) (frame : Frame) : Prop :=
  if fct = NXDN_LICH_USC_SACCH_NS then
    ∃ lc, headerCall c (clearNet s) stack frame = some lc ∧ RefusesIDs c (clearNet s) lc
  else s.netState = RS_NET_IDLE ∧
    ∃ lc, lateCall (clearNet s) stack option frame = some lc ∧ RefusesIDs c (clearNet s) lc

/-- A frame with audio. -/
def HasAudio (option : UInt8) : Prop :=
  option = NXDN_LICH_STEAL_NONE ∨ option = NXDN_LICH_STEAL_FACCH1_1 ∨ option = NXDN_LICH_STEAL_FACCH1_2

/-- The frame of the network is added to what the radios have sent. -/
def Counted (s : Control) (fct option : UInt8) : Prop :=
  fct ≠ NXDN_LICH_USC_SACCH_NS ∧ s.rfState = RS_RF_AUDIO ∧ HasAudio option

theorem clearNet_kept (s : Control) : (clearNet s).rfLC = s.rfLC ∧ (clearNet s).rfState = s.rfState ∧
    (clearNet s).netState = s.netState := by
  unfold clearNet
  split <;> exact ⟨rfl, rfl, rfl⟩

theorem cleared_clearNet {s : Control} (hidle : s.netState = RS_NET_IDLE) : Cleared (clearNet s) := by
  unfold clearNet
  rw [if_pos hidle]
  exact ⟨rfl, rfl, rfl, rfl⟩

theorem relayNetVoice_quiet {s : Control} (hquiet : s.rfState ≠ RS_RF_AUDIO) (stack : Stack) (option : UInt8)
    (frame : Frame) : relayNetVoice c s stack option frame = s := if_neg hquiet

/-- The bits of the audio are those of no frame, of two or of four. -/
theorem bits_regenerateVoice (mem : Channel.Memory) (threshold : Option UInt32) (option : UInt8) (data : Bytes) :
    (HasAudio option → (regenerateVoice c mem threshold option data).2.1 = 188 ∨
      (regenerateVoice c mem threshold option data).2.1 = 94) ∧
    (¬ HasAudio option → (regenerateVoice c mem threshold option data).2.1 = 0 ∧
      (regenerateVoice c mem threshold option data).1 = 0) := by
  unfold regenerateVoice HasAudio
  split_ifs with hnone hfirst hsecond
  · exact ⟨fun _ => Or.inl rfl, fun h => absurd (Or.inl hnone) h⟩
  · exact ⟨fun _ => Or.inr rfl, fun h => absurd (Or.inr (Or.inl hfirst)) h⟩
  · exact ⟨fun _ => Or.inr rfl, fun h => absurd (Or.inr (Or.inr hsecond)) h⟩
  · exact ⟨fun h => absurd h (by simp [hnone, hfirst, hsecond]), fun _ => ⟨rfl, rfl⟩⟩

theorem bits_regenerate (mem : Channel.Memory) (outbound : Bool) (threshold : Option UInt32) (option : UInt8)
    (data : Bytes) :
    (HasAudio option → (regenerate c mem outbound threshold option data).2.1 = 188 ∨
      (regenerate c mem outbound threshold option data).2.1 = 94) ∧
    (¬ HasAudio option → (regenerate c mem outbound threshold option data).2.1 = 0 ∧
      (regenerate c mem outbound threshold option data).1 = 0) :=
  bits_regenerateVoice c mem threshold option _

/-- A frame of the network that is relayed while a radio calls counts as one of the radio's if it has audio. -/
theorem relayNetVoice_calling {s : Control} (hcalling : s.rfState = RS_RF_AUDIO) (stack : Stack) (option : UInt8)
    (frame : Frame) :
    let t := relayNetVoice c s stack option frame
    t.rfLC = s.rfLC ∧ t.rfState = s.rfState ∧ (SameCounters s t ↔ ¬ HasAudio option) := by
  intro t
  have hrepeat : ∀ s' frame', (repeatFrame c s' frame').rfLC = s'.rfLC ∧
      (repeatFrame c s' frame').rfState = s'.rfState ∧ SameCounters s' (repeatFrame c s' frame') := by
    intro s' frame'
    unfold repeatFrame
    split
    · exact ⟨(sameCalls_addFrame s' frame' true false).rfLC, (sameCalls_addFrame s' frame' true false).rfState,
        sameCounters_addFrame s' frame' true false⟩
    · exact ⟨rfl, rfl, .refl s'⟩
  have hbits := bits_regenerate c stack.mem true none option frame.data
  have ht : t = relayNetVoice c s stack option frame := rfl
  unfold relayNetVoice at ht
  rw [if_pos hcalling] at ht
  dsimp only at ht
  generalize regenerate c stack.mem true none option frame.data = voice at *
  obtain ⟨hlc, hstate, hcounters⟩ := hrepeat
    { s with rfErrs := s.rfErrs + voice.1.toUInt32, rfBits := s.rfBits + voice.2.1.toUInt32 }
    { tag := TAG_DATA, data := voice.2.2 }
  refine ⟨?_, ?_, ?_, ?_⟩
  · rw [ht]
    exact hlc
  · rw [ht]
    exact hstate
  · intro hsame haudio
    have hrf : s.rfBits + voice.2.1.toUInt32 = s.rfBits := by
      have := hsame.rfBits
      rw [ht] at this
      exact hcounters.rfBits.symm.trans this
    have hzero : voice.2.1.toUInt32 = 0 := by
      have hnat := congrArg UInt32.toNat hrf
      have hbound := voice.2.1.toUInt32.toNat_lt
      rw [UInt32.toNat_add] at hnat
      refine UInt32.toNat_inj.mp (show _ = 0 from ?_)
      omega
    rcases hbits.1 haudio with h | h
    · rw [h] at hzero
      exact absurd hzero (by decide)
    · rw [h] at hzero
      exact absurd hzero (by decide)
  · intro hnone
    obtain ⟨hb, he⟩ := hbits.2 hnone
    rw [ht]
    refine ⟨hcounters.rfFrames, hcounters.rfBits.trans ?_, hcounters.rfErrs.trans ?_, hcounters.rfUndecodableLC⟩
    · rw [hb]
      exact UInt32.add_zero s.rfBits
    · rw [he]
      exact UInt32.add_zero s.rfErrs

theorem not_admits_refuses {s : Control} {call : Option RTCH} (hadmits : ∃ lc, call = some lc ∧ Admits c s lc)
    (hrefuses : ∃ lc, call = some lc ∧ RefusesIDs c s lc) : False := by
  obtain ⟨lc, hcall, hadmits⟩ := hadmits
  obtain ⟨lc', hcall', hrefuses⟩ := hrefuses
  rw [Option.some.inj (hcall.symm.trans hcall')] at hadmits
  exact hrefuses.2 hadmits.2

/-- What a frame of the network does to the side of the radios, and to the normal queue. -/
structure NetOutcome (s : Control) (stack : Stack) (fct option : UInt8) (frame : Frame) (r : Bool × Control) :
    Prop where
  accepted : r.1 = true ↔ Accepts c s stack fct option frame
  rfLC : r.2.rfLC = s.rfLC
  counters : SameCounters s r.2 ↔ (s.netState = RS_NET_IDLE → Cleared s) ∧ ¬ Counted s fct option
  rfState : r.2.rfState = s.rfState ↔ (Refuses c s stack fct option frame → s.rfState = RS_RF_REJECTED)
  txQueue : s.rfState ≠ RS_RF_AUDIO → r.2.txQueue = (clearNet s).txQueue

theorem sameCounters_clearNet (s : Control) :
    SameCounters s (clearNet s) ↔ (s.netState = RS_NET_IDLE → Cleared s) := by
  constructor
  · intro hsame hidle
    have hcleared := cleared_clearNet hidle
    exact ⟨hsame.1.symm.trans hcleared.1, hsame.3.symm.trans hcleared.2, hsame.2.symm.trans hcleared.3,
      hsame.4.symm.trans hcleared.4⟩
  · intro hcleared
    by_cases hidle : s.netState = RS_NET_IDLE
    · have h := hcleared hidle
      have h' := cleared_clearNet hidle
      exact ⟨h'.1.trans h.1.symm, h'.3.trans h.3.symm, h'.2.trans h.2.symm, h'.4.trans h.4.symm⟩
    · unfold clearNet
      rw [if_neg hidle]
      exact .refl s

/-- An outcome behind `clearNet`, of a frame that is not counted. -/
theorem NetOutcome.of_outcome {s : Control} {stack : Stack} {fct option : UInt8} {frame : Frame} {r : Bool × Control}
    (h : Outcome (clearNet s) (Accepts c s stack fct option frame) (Refuses c s stack fct option frame) r)
    (hcounted : ¬ Counted s fct option) : NetOutcome c s stack fct option frame r := by
  obtain ⟨hlc, hstate, -⟩ := clearNet_kept s
  refine ⟨h.accepted, h.rfLC.trans hlc, ?_, ?_, fun _ => h.txQueue⟩
  · rw [and_iff_left hcounted, ← sameCounters_clearNet]
    exact ⟨fun hsame => ⟨h.counters.1.symm.trans hsame.1, h.counters.2.symm.trans hsame.2,
      h.counters.3.symm.trans hsame.3, h.counters.4.symm.trans hsame.4⟩, fun hsame => hsame.trans h.counters⟩
  · by_cases hrefuses : Refuses c s stack fct option frame
    · rw [h.refused hrefuses]
      exact ⟨fun h _ => h.symm, fun h => (h hrefuses).symm⟩
    · exact iff_of_true ((h.kept hrefuses).trans hstate) fun h => absurd h hrefuses

/-- **A frame of the network**, of the kind that `Control::processNetwork` takes. -/
theorem outcome_processNetwork {s : Control} (htakes : takesNetwork s = true) (stack : Stack) (fct option : UInt8)
    (dstId : UInt16) (frame : Frame) :
    NetOutcome c s stack fct option frame (processNetwork c s stack fct option dstId frame) := by
  obtain ⟨hlc, hstate, hnet⟩ := clearNet_kept s
  by_cases hheader : fct = NXDN_LICH_USC_SACCH_NS
  · have hends : Ends (clearNet s) stack frame ↔ Ends s stack frame := by
      unfold Ends
      rw [hnet]
    have houtcome := outcome_processNetHeader c (clearNet s) stack dstId frame
    rw [hends] at houtcome
    have haccepts : Accepts c s stack fct option frame = _ := if_pos hheader
    have hrefuses : Refuses c s stack fct option frame = _ := if_pos hheader
    refine .of_outcome c ?_ fun h => h.1 hheader
    unfold processNetwork
    dsimp only
    rw [haccepts, hrefuses, if_pos hheader]
    exact houtcome
  · have haccepts : Accepts c s stack fct option frame = _ := if_neg hheader
    have hrefuses : Refuses c s stack fct option frame = _ := if_neg hheader
    by_cases hidle : s.netState = RS_NET_IDLE
    · have hlisten : s.rfState = RS_RF_LISTENING :=
        (of_decide_eq_true htakes).resolve_right fun h => h hidle
      have hquiet : s.rfState ≠ RS_RF_AUDIO := by
        rw [hlisten]
        decide
      have houtcome := outcome_lateEntryNet c (cleared_clearNet hidle) stack option frame
      rw [forall_prop_of_true hidle] at haccepts
      rw [and_iff_right hidle] at hrefuses
      refine .of_outcome c ?_ fun h => hquiet h.2.1
      unfold processNetwork
      dsimp only
      rw [haccepts, hrefuses, if_neg hheader, if_pos (hnet.trans hidle)]
      generalize lateEntryNet c (clearNet s) stack option (SACCH.new.decode stack.mem frame.data).2 frame = entered at *
      by_cases hok : entered.1 = true
      · -- a call that is entered is not refused, and the radios still listen
        have hkept : entered.2.rfState ≠ RS_RF_AUDIO := by
          rw [houtcome.kept fun h => not_admits_refuses c (houtcome.accepted.mp hok) h, hstate]
          exact hquiet
        rw [if_pos hok, relayNetVoice_quiet c hkept, ← hok]
        exact houtcome
      · rw [if_neg hok, ← Bool.eq_false_iff.mpr hok]
        exact houtcome
    · have hsame : clearNet s = s := if_neg hidle
      have haccept : Accepts c s stack fct option frame := haccepts ▸ fun h => absurd h hidle
      have hrefuse : ¬ Refuses c s stack fct option frame := hrefuses ▸ fun h => hidle h.1
      have hcleared : s.netState = RS_NET_IDLE → Cleared s := fun h => absurd h hidle
      unfold processNetwork
      dsimp only
      rw [if_neg hheader, hsame, if_neg hidle]
      by_cases hcalling : s.rfState = RS_RF_AUDIO
      · obtain ⟨hlc', hstate', hcounters⟩ := relayNetVoice_calling c hcalling stack option frame
        refine ⟨iff_of_true rfl haccept, hlc', ?_, iff_of_true hstate' fun h => absurd h hrefuse,
          fun h => absurd hcalling h⟩
        have hcounted : Counted s fct option ↔ HasAudio option := ⟨fun h => h.2.2, fun h => ⟨hheader, hcalling, h⟩⟩
        rw [and_iff_right hcleared, hcounted]
        exact hcounters
      · rw [relayNetVoice_quiet c hcalling]
        refine ⟨iff_of_true rfl haccept, rfl, iff_of_true (.refl s) ⟨hcleared, fun h => hcalling h.2.1⟩,
          iff_of_true rfl fun h => absurd h hrefuse, fun _ => ?_⟩
        rw [hsame]

end Voice

end Nxdn

end DvmHost

import DvmHost.Host.Nxdn.Packet.Voice

/-!
# `Host.Nxdn.Packet.Correctness.VoiceSides` — what a frame leaves alone

Queueing a frame, writing one to the network and copying a link control change no call (`SameCalls`) and no counter
(`SameCounters`); the checks change states and timers, but no link control (`SameLCs`). No message has the bit for a
group, so the link controls of a site stay those of groups (`Grouped`) whatever is received.
-/

namespace DvmHost

open RPT_RF_STATE RPT_NET_STATE

namespace Nxdn

namespace Control

/-- `s` and `t` have the same link controls and masks. -/
structure SameLCs (s t : Control) : Prop where
  rfLC : t.rfLC = s.rfLC
  netLC : t.netLC = s.netLC
  rfMask : t.rfMask = s.rfMask
  netMask : t.netMask = s.netMask

/-- `s` and `t` have the same calls. -/
structure SameCalls (s t : Control) : Prop extends SameLCs s t where
  rfState : t.rfState = s.rfState
  netState : t.netState = s.netState

/-- `s` and `t` have the same counters of radio frames. -/
structure SameCounters (s t : Control) : Prop where
  rfFrames : t.rfFrames = s.rfFrames
  rfBits : t.rfBits = s.rfBits
  rfErrs : t.rfErrs = s.rfErrs
  rfUndecodableLC : t.rfUndecodableLC = s.rfUndecodableLC

theorem SameLCs.refl (s : Control) : SameLCs s s := ⟨rfl, rfl, rfl, rfl⟩

theorem SameLCs.trans {s t u : Control} (h : SameLCs s t) (h' : SameLCs t u) : SameLCs s u :=
  ⟨h'.rfLC.trans h.rfLC, h'.netLC.trans h.netLC, h'.rfMask.trans h.rfMask, h'.netMask.trans h.netMask⟩

theorem SameCalls.refl (s : Control) : SameCalls s s := ⟨.refl s, rfl, rfl⟩

theorem SameCalls.trans {s t u : Control} (h : SameCalls s t) (h' : SameCalls t u) : SameCalls s u :=
  ⟨h.toSameLCs.trans h'.toSameLCs, h'.rfState.trans h.rfState, h'.netState.trans h.netState⟩

theorem SameCounters.refl (s : Control) : SameCounters s s := ⟨rfl, rfl, rfl, rfl⟩

theorem SameCounters.trans {s t u : Control} (h : SameCounters s t) (h' : SameCounters t u) : SameCounters s u :=
  ⟨h'.rfFrames.trans h.rfFrames, h'.rfBits.trans h.rfBits, h'.rfErrs.trans h.rfErrs,
    h'.rfUndecodableLC.trans h.rfUndecodableLC⟩

/-! ## Frames and copies -/

theorem sameCalls_addFrame (s : Control) (frame : Frame) (net imm : Bool) : SameCalls s (s.addFrame frame net imm) := by
  unfold addFrame
  split_ifs <;> exact ⟨⟨rfl, rfl, rfl, rfl⟩, rfl, rfl⟩

theorem sameCounters_addFrame (s : Control) (frame : Frame) (net imm : Bool) :
    SameCounters s (s.addFrame frame net imm) := by
  unfold addFrame
  split_ifs <;> exact ⟨rfl, rfl, rfl, rfl⟩

theorem sameCalls_writeNetwork (c : Settings) (s : Control) (frame : Frame) :
    SameCalls s (writeNetwork c s frame) := by
  unfold writeNetwork
  split
  · exact .refl s
  · split
    · exact .refl s
    · exact ⟨⟨rfl, rfl, rfl, rfl⟩, rfl, rfl⟩

theorem sameCalls_decodeRTCH (s : Control) (lc : RTCH) (octets : Nat) (data : Bytes) (length offset : Nat) :
    SameCalls s (s.decodeRTCH lc octets data length offset).2 := ⟨⟨rfl, rfl, rfl, rfl⟩, rfl, rfl⟩

theorem sameCalls_encodeRTCH (s : Control) (lc : RTCH) (octets : Nat) (data : Bytes) (length : Nat) :
    SameCalls s (s.encodeRTCH lc octets data length).2 := ⟨⟨rfl, rfl, rfl, rfl⟩, rfl, rfl⟩

end Control

namespace Voice

open Control

variable (c : Settings)

theorem sameCalls_linkControl (s : Control) (stack : Stack) (facch : FACCH1) :
    SameCalls s (linkControl s stack facch).2 :=
  sameCalls_decodeRTCH s RTCH.new 10 (facch.getData stack.buffer) NXDN_FACCH1_FEC_LENGTH_BITS 0

theorem sameCalls_openingFrame (s : Control) (mem : Channel.Memory) (outbound : Bool) (lc : RTCH) (facch : FACCH1)
    (data : Bytes) : SameCalls s (openingFrame c s mem outbound lc facch data).2 :=
  sameCalls_encodeRTCH s lc 22 (fun _ => 0x00) NXDN_RTCH_LC_LENGTH_BITS

theorem sameCalls_repeatFrame (s : Control) (frame : Frame) : SameCalls s (repeatFrame c s frame) := by
  unfold repeatFrame
  split
  · exact sameCalls_addFrame ..
  · exact .refl s

theorem sameCalls_repeatNetHeader (s : Control) (frame : Frame) : SameCalls s (repeatNetHeader c s frame) := by
  unfold repeatNetHeader
  split
  · exact sameCalls_addFrame ..
  · exact .refl s

theorem sameCalls_takeQuarter (s : Control) (stack : Stack) (sacch : SACCH) (lc : RTCH) (mask : UInt8) :
    SameCalls s (takeQuarter s stack sacch lc mask).2 := by
  unfold takeQuarter
  split <;> exact ⟨⟨rfl, rfl, rfl, rfl⟩, rfl, rfl⟩

/-- The lines with which the frame that opens a call of a radio goes out. -/
theorem sameCalls_send (s : Control) (mem : Channel.Memory) (outbound : Bool) (lc : RTCH) (facch : FACCH1)
    (data : Bytes) (written repeated : Frame) :
    SameCalls s (repeatFrame c (writeNetwork c (openingFrame c s mem outbound lc facch data).2 written) repeated) :=
  ((sameCalls_openingFrame c s mem outbound lc facch data).trans (sameCalls_writeNetwork c _ written)).trans
    (sameCalls_repeatFrame c _ repeated)

/-- The lines with which a frame of a call of a radio goes out. -/
theorem sameCalls_relay (s : Control) (data : Bytes) (rfErrs rfBits : UInt32) (written repeated : Frame) :
    SameCalls s (repeatFrame c (writeNetwork c
      { (s.encodeRTCH s.rfLC 22 data NXDN_RTCH_LC_LENGTH_BITS).2 with rfErrs, rfBits } written) repeated) := by
  have hcounted : SameCalls s { (s.encodeRTCH s.rfLC 22 data NXDN_RTCH_LC_LENGTH_BITS).2 with rfErrs, rfBits } :=
    ⟨⟨rfl, rfl, rfl, rfl⟩, rfl, rfl⟩
  exact hcounted.trans ((sameCalls_writeNetwork c _ written).trans (sameCalls_repeatFrame c _ repeated))

/-- The lines with which a frame of a call of the network goes out. -/
theorem sameCalls_relayNet (s : Control) (rfErrs rfBits : UInt32) (repeated : Frame) :
    SameCalls s (repeatFrame c { s with rfErrs, rfBits } repeated) := by
  have hcounted : SameCalls s { s with rfErrs, rfBits } := ⟨⟨rfl, rfl, rfl, rfl⟩, rfl, rfl⟩
  exact hcounted.trans (sameCalls_repeatFrame c _ repeated)

/-! ## Checks -/

theorem sameLCs_validateIDs (s : Control) (srcId dstId : UInt16) (group : Bool) :
    SameLCs s (validateIDs s srcId dstId group).2 := by
  unfold validateIDs
  split_ifs <;> exact ⟨rfl, rfl, rfl, rfl⟩

theorem sameLCs_checkTrafficCollision (s : Control) (dstId : UInt16) :
    SameLCs s (checkTrafficCollision s dstId).2 := by
  unfold checkTrafficCollision
  split_ifs <;> exact ⟨rfl, rfl, rfl, rfl⟩

theorem sameLCs_admitRF (s : Control) (lc : RTCH) : SameLCs s (admitRF s lc).2 := by
  unfold admitRF
  dsimp only
  split
  · exact sameLCs_checkTrafficCollision ..
  · exact (sameLCs_checkTrafficCollision ..).trans (sameLCs_validateIDs ..)

theorem sameLCs_checkRFHang (s : Control) (dstId : UInt16) : SameLCs s (checkRFHang s dstId).2 := by
  unfold checkRFHang
  split_ifs <;> exact ⟨rfl, rfl, rfl, rfl⟩

theorem sameLCs_checkNetHang (s : Control) (dstId : UInt16) : SameLCs s (checkNetHang s dstId).2 := by
  unfold checkNetHang
  split_ifs <;> exact ⟨rfl, rfl, rfl, rfl⟩

theorem sameLCs_checkNetTrafficCollision (s : Control) (dstId : UInt16) :
    SameLCs s (checkNetTrafficCollision c s dstId).2 := by
  have hrf := sameLCs_checkRFHang s dstId
  have hnet := hrf.trans (sameLCs_checkNetHang (checkRFHang s dstId).2 dstId)
  unfold checkNetTrafficCollision
  dsimp only
  split_ifs
  · exact hrf
  · exact hnet
  · exact ⟨hnet.rfLC, hnet.netLC, hnet.rfMask, hnet.netMask⟩
  · exact hnet
  · exact ⟨hrf.rfLC, hrf.netLC, hrf.rfMask, hrf.netMask⟩
  · exact hrf

theorem sameLCs_admitNet (s : Control) (lc : RTCH) : SameLCs s (admitNet c s lc).2 := by
  unfold admitNet
  dsimp only
  split
  · exact sameLCs_checkNetTrafficCollision ..
  · exact (sameLCs_checkNetTrafficCollision ..).trans (sameLCs_validateIDs ..)

/-! ## Groups -/

end Voice

namespace RTCH

/-- The flag for groups is kept, and the type is that of octet 0. -/
theorem decodeLC_kept (m : RTCH) (data : Bytes) :
    (decodeLC m data).2.group = m.group ∧ (decodeLC m data).2.messageType = data 0 &&& 0x3F := by
  have hmi : ∀ (m : RTCH) (n : Nat),
      (decodeMi m data n).group = m.group ∧ (decodeMi m data n).messageType = m.messageType := by
    intro m n
    unfold decodeMi
    split <;> exact ⟨rfl, rfl⟩
  unfold decodeLC
  dsimp only
  -- one case for each branch over the message type
  iterate 10
    refine iteInduction (motive := fun r : Bool × RTCH => r.2.group = m.group ∧ r.2.messageType = data 0 &&& 0x3F)
      (fun _ => ?_) (fun _ => ?_)
    rotate_left
  all_goals first | exact ⟨rfl, rfl⟩ | exact hmi _ _

theorem messageType_decodeLC (m : RTCH) (data : Bytes) : (decodeLC m data).2.messageType = data 0 &&& 0x3F :=
  (decodeLC_kept m data).2

theorem group_decodeLC (m : RTCH) (data : Bytes) : (decodeLC m data).2.group = m.group := (decodeLC_kept m data).1

theorem group_decode (m : RTCH) (data : Bytes) (length offset : Nat) : (m.decode data length offset).group = m.group :=
  group_decodeLC ..

end RTCH

namespace Control

/-- The link controls of a site are those of groups. -/
def Grouped (s : Control) : Prop := s.rfLC.group = true ∧ s.netLC.group = true

theorem Grouped.of_same {s t : Control} (h : Grouped s) (hst : SameLCs s t) : Grouped t := by
  unfold Grouped
  rw [hst.rfLC, hst.netLC]
  exact h

theorem Grouped.rfFrames {s : Control} (h : Grouped s) (rfFrames : UInt32) :
    Grouped ({ s with rfFrames } : Control) := h

theorem Grouped.netFrames {s : Control} (h : Grouped s) (netFrames : UInt32) :
    Grouped ({ s with netFrames } : Control) := h

theorem Grouped.writeEndRF {s : Control} (h : Grouped s) (rfFrames : UInt32) :
    Grouped ({ s with rfFrames } : Control).writeEndRF := ⟨rfl, h.2⟩

theorem Grouped.writeEndNet {s : Control} (h : Grouped s) (netFrames : UInt32) :
    Grouped ({ s with netFrames } : Control).writeEndNet := ⟨h.1, rfl⟩

end Control

namespace Voice

open Control

variable (c : Settings)

theorem group_linkControl (s : Control) (stack : Stack) (facch : FACCH1) :
    (linkControl s stack facch).1.group = true := RTCH.group_decode ..

theorem group_takeQuarter (s : Control) (stack : Stack) (sacch : SACCH) (lc : RTCH) (mask : UInt8) :
    (takeQuarter s stack sacch lc mask).1.1.group = lc.group := by
  unfold takeQuarter
  split
  · rfl
  · exact RTCH.group_decode ..

theorem grouped_startRF {s : Control} (h : Grouped s) : Grouped (startRF s) := h

theorem grouped_relayHeader {s : Control} (h : Grouped s) (stack : Stack) {lc : RTCH} (hlc : lc.group = true)
    (facch : FACCH1) (frame : Frame) : Grouped (relayHeader c s stack lc facch frame) := by
  have htouched : Grouped { touchRF s lc with rfLC := s.rfLC.copy lc } := ⟨hlc, h.2⟩
  unfold relayHeader
  dsimp only
  refine iteInduction (fun _ => ?_) (fun _ => ?_)
  · exact Grouped.writeEndRF (htouched.of_same (sameCalls_send ..).toSameLCs) _
  · exact grouped_startRF (htouched.of_same (sameCalls_send ..).toSameLCs)

theorem grouped_processHeader {s : Control} (h : Grouped s) (stack : Stack) (frame : Frame) :
    Grouped (processHeader c s stack frame).2 := by
  unfold processHeader
  generalize decodeEither stack.mem FACCH1_1_OFFSET FACCH1_2_OFFSET frame.data = decoded
  have hreceived := h.of_same (sameCalls_linkControl s stack decoded.2).toSameLCs
  have hgroup := group_linkControl s stack decoded.2
  have hadmitted := hreceived.of_same (sameLCs_admitRF _ (linkControl s stack decoded.2).1)
  dsimp only
  split_ifs
  · exact h
  · exact ⟨rfl, h.2⟩
  · exact ⟨rfl, h.2⟩
  · exact grouped_relayHeader c hreceived stack hgroup _ _
  · exact hadmitted
  · exact grouped_relayHeader c hadmitted stack hgroup _ _
  · exact hreceived

theorem grouped_enterRF {s : Control} (h : Grouped s) (stack : Stack) (facch : FACCH1) (frame : Frame) :
    Grouped (enterRF c s stack facch frame).2 := by
  have hadmitted := h.of_same (sameLCs_admitRF s s.rfLC)
  unfold enterRF
  dsimp only
  split
  · exact hadmitted
  · have hstarted : Grouped (startRF (touchRF (admitRF s s.rfLC).2 s.rfLC)) := hadmitted
    exact hstarted.of_same (sameCalls_send ..).toSameLCs

theorem grouped_lateEntry {s : Control} (h : Grouped s) (stack : Stack) (option : UInt8) (sacch : SACCH)
    (frame : Frame) : Grouped (lateEntry c s stack option sacch frame).2 := by
  have hquarter : Grouped { (takeQuarter s stack sacch s.rfLC s.rfMask).2 with
      rfLC := (takeQuarter s stack sacch s.rfLC s.rfMask).1.1
      rfMask := (takeQuarter s stack sacch s.rfLC s.rfMask).1.2 } :=
    ⟨(group_takeQuarter ..).trans h.1, (congrArg RTCH.group (sameCalls_takeQuarter ..).netLC).trans h.2⟩
  have hreceived := fun facch => h.of_same (sameCalls_linkControl s stack facch).toSameLCs
  have hcopied : ∀ facch, Grouped { (linkControl s stack facch).2 with
      rfLC := (linkControl s stack facch).2.rfLC.copy (linkControl s stack facch).1 } := fun facch =>
    ⟨group_linkControl s stack facch, h.2⟩
  unfold lateEntry
  generalize decodeStolen stack.mem _ option frame.data = stolen
  dsimp only
  split_ifs
  · exact hreceived stolen.2
  · exact grouped_enterRF c (hcopied stolen.2) stack stolen.2 frame
  · exact hquarter
  · exact hquarter
  · exact grouped_enterRF c hquarter stack stolen.2 frame

theorem grouped_relayVoice {s : Control} (h : Grouped s) (stack : Stack) (option : UInt8) (frame : Frame) :
    Grouped (relayVoice c s stack option frame) := by
  unfold relayVoice
  dsimp only
  refine iteInduction (fun _ => ?_) (fun _ => h)
  exact Grouped.rfFrames (h.of_same (sameCalls_relay ..).toSameLCs) _

theorem grouped_process {s : Control} (h : Grouped s) (stack : Stack) (fct option : UInt8) (frame : Frame) :
    Grouped (process c s stack fct option frame).2 := by
  unfold process
  dsimp only
  split_ifs
  · exact h
  · exact h
  · exact grouped_processHeader c h stack frame
  · exact grouped_relayVoice c (grouped_lateEntry c h ..) ..
  · exact grouped_lateEntry c h ..
  · exact grouped_relayVoice c h ..

theorem grouped_relayNetHeader {s : Control} (h : Grouped s) (stack : Stack) {lc : RTCH} (hlc : lc.group = true)
    (facch : FACCH1) (frame : Frame) : Grouped (relayNetHeader c s stack lc facch frame) := by
  have htouched : Grouped { touchNet s lc with netLC := s.netLC.copy lc } := ⟨h.1, hlc⟩
  have hqueued := fun frame => htouched.of_same (sameCalls_repeatNetHeader c _ frame).toSameLCs
  unfold relayNetHeader
  dsimp only
  refine iteInduction (fun _ => ?_) (fun _ => ?_)
  · exact Grouped.writeEndNet (hqueued _) _
  · exact hqueued _

theorem grouped_processNetHeader {s : Control} (h : Grouped s) (stack : Stack) (dstId : UInt16) (frame : Frame) :
    Grouped (processNetHeader c s stack dstId frame).2 := by
  unfold processNetHeader
  generalize decodeEither stack.mem FACCH1_1_OFFSET FACCH1_2_OFFSET frame.data = decoded
  have hreceived := h.of_same (sameCalls_linkControl s stack decoded.2).toSameLCs
  have hgroup : ({ (linkControl s stack decoded.2).1 with dstId } : RTCH).group = true :=
    group_linkControl s stack decoded.2
  have hadmitted := hreceived.of_same (sameLCs_admitNet c _ (linkControl s stack decoded.2).1)
  dsimp only
  split_ifs
  · exact h
  · exact ⟨h.1, rfl⟩
  · exact ⟨h.1, rfl⟩
  · exact grouped_relayNetHeader c hreceived stack hgroup _ _
  · exact hadmitted
  · exact grouped_relayNetHeader c hadmitted stack hgroup _ _
  · exact hreceived

theorem grouped_enterNet {s : Control} (h : Grouped s) (stack : Stack) (facch : FACCH1) :
    Grouped (enterNet c s stack facch).2 := by
  have hadmitted := h.of_same (sameLCs_admitNet c s s.netLC)
  unfold enterNet
  dsimp only
  split
  · exact hadmitted
  · have hstarted : Grouped (startNet (touchNet (admitNet c s s.netLC).2 s.netLC)) := hadmitted
    exact hstarted.of_same ((sameCalls_openingFrame ..).trans (sameCalls_repeatNetHeader ..)).toSameLCs

theorem grouped_lateEntryNet {s : Control} (h : Grouped s) (stack : Stack) (option : UInt8) (sacch : SACCH)
    (frame : Frame) : Grouped (lateEntryNet c s stack option sacch frame).2 := by
  have hquarter : Grouped { (takeQuarter s stack sacch s.netLC s.netMask).2 with
      netLC := (takeQuarter s stack sacch s.netLC s.netMask).1.1
      netMask := (takeQuarter s stack sacch s.netLC s.netMask).1.2 } :=
    ⟨(congrArg RTCH.group (sameCalls_takeQuarter ..).rfLC).trans h.1, (group_takeQuarter ..).trans h.2⟩
  have hreceived := fun facch => h.of_same (sameCalls_linkControl s stack facch).toSameLCs
  have hcopied : ∀ facch, Grouped { (linkControl s stack facch).2 with
      netLC := (linkControl s stack facch).2.netLC.copy (linkControl s stack facch).1 } := fun facch =>
    ⟨h.1, group_linkControl s stack facch⟩
  unfold lateEntryNet
  generalize decodeStolen stack.mem _ option frame.data = stolen
  dsimp only
  split_ifs
  · exact hreceived stolen.2
  · exact grouped_enterNet c (hcopied stolen.2) stack _
  · exact hquarter
  · exact hquarter
  · exact grouped_enterNet c hquarter stack _

theorem grouped_relayNetVoice {s : Control} (h : Grouped s) (stack : Stack) (option : UInt8) (frame : Frame) :
    Grouped (relayNetVoice c s stack option frame) := by
  unfold relayNetVoice
  dsimp only
  refine iteInduction (fun _ => ?_) (fun _ => h)
  exact Grouped.netFrames (h.of_same (sameCalls_relayNet ..).toSameLCs) _

theorem grouped_clearNet {s : Control} (h : Grouped s) : Grouped (clearNet s) := by
  unfold clearNet
  split <;> exact h

theorem grouped_processNetwork {s : Control} (h : Grouped s) (stack : Stack) (fct option : UInt8) (dstId : UInt16)
    (frame : Frame) : Grouped (processNetwork c s stack fct option dstId frame).2 := by
  have hcleared := grouped_clearNet h
  unfold processNetwork
  dsimp only
  split_ifs
  · exact grouped_processNetHeader c hcleared stack dstId frame
  · exact grouped_relayNetVoice c (grouped_lateEntryNet c hcleared ..) ..
  · exact grouped_lateEntryNet c hcleared ..
  · exact grouped_relayNetVoice c hcleared ..

/-! ## A site -/

/-- Memory that happens to be zero. -/
def quietStack : Stack where
  mem := ⟨fun _ => 0, fun _ => 0, ⟨fun _ => 0, fun _ => 0, fun _ => 0, 0⟩⟩
  message := fun _ => 0
  buffer := fun _ => 0

/-- A site with RAN 1 that takes every radio and talkgroup. -/
def openSettings : Settings where
  authoritative := true
  supervisor := false
  ran := 1
  duplex := true
  enableControl := false
  dedicatedControl := false
  hasNetwork := true
  silenceThreshold := 14
  frameLossThreshold := 6
  PRNG_TABLE := fun _ => 0

/-- The site, with nothing going on. -/
def freshSite : Control where
  acl := { ridLookup := ⟨∅⟩, ridACL := false, tidLookup := {}, tidACL := false }
  affiliations := .new
  rfLastLICH := LICH.new
  rfLC := RTCH.new
  netLC := RTCH.new
  permittedDstId := 0
  rfMask := 0x00
  netMask := 0x00
  txImmQueue := ⟨255, []⟩
  txQueue := ⟨255, []⟩
  rfState := RS_RF_LISTENING
  rfLastDstId := 0
  rfLastSrcId := 0
  netState := RS_NET_IDLE
  netLastDstId := 0
  netLastSrcId := 0
  rfTimeout := Timer.new 1000 180 0
  rfTGHang := Timer.new 1000 10 0
  rfLossWatchdog := Timer.new 1000 0 1500
  netTimeout := Timer.new 1000 180 0
  netTGHang := Timer.new 1000 2 0
  networkWatchdog := Timer.new 1000 0 1500
  frameLossCnt := 0
  rfFrames := 0
  rfBits := 1
  rfErrs := 0
  rfUndecodableLC := 0
  netFrames := 0
  netLost := 0
  lastRejectId := 0
  written := []
  copies := []

end Voice

end Nxdn

end DvmHost

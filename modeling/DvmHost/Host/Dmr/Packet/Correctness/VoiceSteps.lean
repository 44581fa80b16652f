import DvmHost.Host.Dmr.Packet.Voice

/-!
# `Host.Dmr.Packet.Correctness.VoiceSteps` — what a voice frame can change

A slot has a call of a radio and a call of the network, each with members of its own. Frames of a radio leave those of
the network (`process_netKept`), and frames of the network those of the radio (`processNetwork_rfKept`). What the rest
of the host does to a slot, the ends of calls, data calls, timers and the modem that takes frames from the queue, is
`Outside`.
-/

namespace DvmHost

open RPT_RF_STATE RPT_NET_STATE

namespace Dmr

namespace Slot

/-! ## The queue -/

/-- A frame changes the queue only. -/
theorem addFrame_eq (s : Slot) (net : Bool) :
    ∃ length used, (s.addFrame net).2 = { s with txLength := length, txUsed := used } := by
  unfold addFrame
  split
  · exact ⟨s.txLength, s.txUsed, rfl⟩
  · dsimp only
    split
    · split
      · exact ⟨_, _, rfl⟩
      · exact ⟨s.txLength, s.txUsed, rfl⟩
    · split
      · exact ⟨_, _, rfl⟩
      · exact ⟨_, _, rfl⟩

theorem addFrames_eq (s : Slot) (net : Bool) (count : Nat) :
    ∃ length used, s.addFrames net count = { s with txLength := length, txUsed := used } := by
  induction count with
  | zero => exact ⟨s.txLength, s.txUsed, rfl⟩
  | succ count ih =>
      obtain ⟨length, used, h⟩ := ih
      obtain ⟨length', used', h'⟩ := addFrame_eq (s.addFrames net count) net
      refine ⟨length', used', ?_⟩
      rw [addFrames, List.range_succ, List.foldl_append]
      show ((s.addFrames net count).addFrame net).2 = _
      rw [h', h]

/-- A burst of the network changes the queue, and may be entered in the log. -/
theorem addNetBurst_eq (s : Slot) (n : UInt8) (data : Bytes) (inserted : Bool) :
    ∃ length used log, s.addNetBurst n data inserted =
        { s with txLength := length, txUsed := used, netLog := s.netLog ++ log } ∧
      (log = [] ∨ log = [.queued n data inserted]) := by
  obtain ⟨length, used, h⟩ := addFrame_eq s true
  unfold addNetBurst
  dsimp only
  rw [h]
  split
  · exact ⟨length, used, _, rfl, .inr rfl⟩
  · exact ⟨length, used, [], by rw [List.append_nil], .inl rfl⟩

/-- A burst of a radio changes the queue, and may be entered in the log. -/
theorem addRFBurst_eq (s : Slot) (n : UInt8) (data : Bytes) :
    ∃ length used log, s.addRFBurst n data =
        { s with txLength := length, txUsed := used, rfLog := s.rfLog ++ log } ∧
      (log = [] ∨ log = [.queued n data false]) := by
  obtain ⟨length, used, h⟩ := addFrame_eq s false
  unfold addRFBurst
  dsimp only
  rw [h]
  split
  · exact ⟨length, used, _, rfl, .inr rfl⟩
  · exact ⟨length, used, [], by rw [List.append_nil], .inl rfl⟩

/-- A burst that is written may be entered in the log. -/
theorem writeNetwork_eq (s : Slot) (n : UInt8) (data : Bytes) :
    ∃ log, s.writeNetwork n data = { s with rfLog := s.rfLog ++ log } ∧ (log = [] ∨ log = [.written n data]) := by
  unfold writeNetwork
  split
  · exact ⟨[], by rw [List.append_nil], .inl rfl⟩
  · exact ⟨_, rfl, .inr rfl⟩

/-- The start of a call of a radio. -/
theorem startRF_eq (s : Slot) (lc : LC) : ∃ length used, s.startRF lc =
    { s with
      rfLC := some lc
      rfEmbedded := (s.rfEmbedded.setLC lc).restart
      rfTimeout := false
      rfLog := s.rfLog ++ [.started lc]
      txLength := length
      txUsed := used } := by
  unfold startRF
  dsimp only
  split
  · obtain ⟨length, used, h⟩ := addFrames_eq (clearQueue
      { s with
        rfLC := some lc
        rfEmbedded := (s.rfEmbedded.setLC lc).restart
        rfTimeout := false
        rfLog := s.rfLog ++ [.started lc] }) false NO_HEADERS_DUPLEX
    exact ⟨length, used, h⟩
  · exact ⟨_, _, rfl⟩

/-- The start of a call of the network. -/
theorem startNet_eq (s : Slot) (lc : LC) (net : Bool) : ∃ length used, s.startNet lc net =
    { s with
      netLC := some lc
      lastFrameValid := false
      netTimeout := false
      netFrames := 0
      netLost := 0
      netLog := s.netLog ++ [.started lc]
      netState := RS_NET_AUDIO
      netLastDstId := lc.dstId
      netLastSrcId := lc.srcId
      netTGHang := s.netTGHang.start
      txLength := length
      txUsed := used } := by
  have hqueue : ∀ q : Slot, ∃ length used,
      (q.addFrames true q.jitterSlots).addFrames net
        (if (q.addFrames true q.jitterSlots).duplex then NO_HEADERS_DUPLEX else NO_HEADERS_SIMPLEX) =
      { q with txLength := length, txUsed := used } := by
    intro q
    obtain ⟨length, used, h⟩ := addFrames_eq q true q.jitterSlots
    obtain ⟨length', used', h'⟩ := addFrames_eq (q.addFrames true q.jitterSlots) net
      (if (q.addFrames true q.jitterSlots).duplex then NO_HEADERS_DUPLEX else NO_HEADERS_SIMPLEX)
    exact ⟨length', used', by rw [h', h]⟩
  unfold startNet
  dsimp only
  split
  · obtain ⟨length, used, h⟩ := hqueue (clearQueue
      { s with
        netLC := some lc
        lastFrameValid := false
        netTimeout := false
        netFrames := 0
        netLost := 0
        netLog := s.netLog ++ [.started lc] })
    rw [h]
    exact ⟨length, used, rfl⟩
  · obtain ⟨length, used, h⟩ := hqueue
      { s with
        netLC := some lc
        lastFrameValid := false
        netTimeout := false
        netFrames := 0
        netLost := 0
        netLog := s.netLog ++ [.started lc] }
    rw [h]
    exact ⟨length, used, rfl⟩

/-! ## The two calls -/

/-- The members of a call of the network are as they were. -/
structure NetKept (s s' : Slot) : Prop where
  netState : s'.netState = s.netState
  netLC : s'.netLC = s.netLC
  netTimeout : s'.netTimeout = s.netTimeout
  netFrames : s'.netFrames = s.netFrames
  netLost : s'.netLost = s.netLost
  netN : s'.netN = s.netN
  netEmbedded : s'.netEmbedded = s.netEmbedded
  netLog : s'.netLog = s.netLog
  embeddedLCOnly : s'.embeddedLCOnly = s.embeddedLCOnly

/-- The members of a call of a radio are as they were. -/
structure RFKept (s s' : Slot) : Prop where
  rfState : s'.rfState = s.rfState
  rfLC : s'.rfLC = s.rfLC
  rfEmbedded : s'.rfEmbedded = s.rfEmbedded
  rfLog : s'.rfLog = s.rfLog
  embeddedLCOnly : s'.embeddedLCOnly = s.embeddedLCOnly

theorem NetKept.refl (s : Slot) : NetKept s s := ⟨rfl, rfl, rfl, rfl, rfl, rfl, rfl, rfl, rfl⟩

theorem RFKept.refl (s : Slot) : RFKept s s := ⟨rfl, rfl, rfl, rfl, rfl⟩

theorem RFKept.trans {s s' s'' : Slot} (h : RFKept s s') (h' : RFKept s' s'') : RFKept s s'' :=
  ⟨h'.rfState.trans h.rfState, h'.rfLC.trans h.rfLC, h'.rfEmbedded.trans h.rfEmbedded, h'.rfLog.trans h.rfLog,
    h'.embeddedLCOnly.trans h.embeddedLCOnly⟩

theorem NetKept.trans {s s' s'' : Slot} (h : NetKept s s') (h' : NetKept s' s'') : NetKept s s'' :=
  ⟨h'.netState.trans h.netState, h'.netLC.trans h.netLC, h'.netTimeout.trans h.netTimeout,
    h'.netFrames.trans h.netFrames, h'.netLost.trans h.netLost, h'.netN.trans h.netN,
    h'.netEmbedded.trans h.netEmbedded, h'.netLog.trans h.netLog, h'.embeddedLCOnly.trans h.embeddedLCOnly⟩

theorem addFrames_netKept (s : Slot) (net : Bool) (count : Nat) : NetKept s (s.addFrames net count) := by
  obtain ⟨length, used, h⟩ := addFrames_eq s net count
  rw [h]
  exact ⟨rfl, rfl, rfl, rfl, rfl, rfl, rfl, rfl, rfl⟩

theorem addFrames_rfKept (s : Slot) (net : Bool) (count : Nat) : RFKept s (s.addFrames net count) := by
  obtain ⟨length, used, h⟩ := addFrames_eq s net count
  rw [h]
  exact ⟨rfl, rfl, rfl, rfl, rfl⟩

theorem addRFBurst_netKept (s : Slot) (n : UInt8) (data : Bytes) : NetKept s (s.addRFBurst n data) := by
  obtain ⟨length, used, log, h, -⟩ := addRFBurst_eq s n data
  rw [h]
  exact ⟨rfl, rfl, rfl, rfl, rfl, rfl, rfl, rfl, rfl⟩

theorem writeNetwork_netKept (s : Slot) (n : UInt8) (data : Bytes) : NetKept s (s.writeNetwork n data) := by
  obtain ⟨log, h, -⟩ := writeNetwork_eq s n data
  rw [h]
  exact ⟨rfl, rfl, rfl, rfl, rfl, rfl, rfl, rfl, rfl⟩

theorem startRF_netKept (s : Slot) (lc : LC) : NetKept s (s.startRF lc) := by
  obtain ⟨length, used, h⟩ := startRF_eq s lc
  rw [h]
  exact ⟨rfl, rfl, rfl, rfl, rfl, rfl, rfl, rfl, rfl⟩

variable {PRNG_TABLE : Nat → Nat}

theorem processHeader_netKept (s : Slot) (data : Bytes) : NetKept s (s.processHeader data).2 := by
  unfold processHeader
  split
  · exact .refl s
  · split
    · exact .refl s
    · rename_i lc _
      split
      · exact ⟨rfl, rfl, rfl, rfl, rfl, rfl, rfl, rfl, rfl⟩
      · split
        · exact ⟨rfl, rfl, rfl, rfl, rfl, rfl, rfl, rfl, rfl⟩
        · exact (startRF_netKept s lc).trans ⟨rfl, rfl, rfl, rfl, rfl, rfl, rfl, rfl, rfl⟩

theorem processPIHeader_netKept (s : Slot) : NetKept s s.processPIHeader.2 := by
  unfold processPIHeader
  split
  · exact .refl s
  · dsimp only
    split
    · exact addFrames_netKept s false 1
    · exact .refl s

theorem repeatBurst_netKept (s : Slot) (n : UInt8) (queued written : Bytes) :
    NetKept s (s.repeatBurst n queued written) := by
  unfold repeatBurst
  split
  · exact (addRFBurst_netKept s n queued).trans (writeNetwork_netKept _ n written)
  · exact writeNetwork_netKept s n written

theorem syncRF_netKept (s : Slot) (lc : LC) : NetKept s (s.syncRF lc) := ⟨rfl, rfl, rfl, rfl, rfl, rfl, rfl, rfl, rfl⟩

theorem receiveRF_netKept (s : Slot) (lc : LC) (data : Bytes) : NetKept s (s.receiveRF lc data) :=
  ⟨rfl, rfl, rfl, rfl, rfl, rfl, rfl, rfl, rfl⟩

theorem numbered_netKept (s : Slot) (rfN lastRfN : UInt8) : NetKept s { s with rfN := rfN, lastRfN := lastRfN } :=
  ⟨rfl, rfl, rfl, rfl, rfl, rfl, rfl, rfl, rfl⟩

theorem processSync_netKept (s : Slot) (lc : LC) (data : Bytes) : NetKept s (processSync PRNG_TABLE s lc data).2 := by
  have hsync := (numbered_netKept s s.rfN 0).trans (syncRF_netKept _ lc)
  unfold processSync
  lift_lets
  intro data s'
  split
  · exact hsync.trans (repeatBurst_netKept s' 0 data data)
  · exact hsync

theorem processBurst_netKept (s : Slot) (lc : LC) (control : UInt8) (data : Bytes) :
    NetKept s (processBurst PRNG_TABLE s lc control data).2 := by
  have hnumbered := numbered_netKept s (control &&& 0x0F) s.lastRfN
  unfold processBurst
  lift_lets
  intro n s₁ data emb s₂ written queued
  have htaken : NetKept s s₂ := (numbered_netKept s n n).trans (receiveRF_netKept _ lc data)
  split
  · exact hnumbered
  · split
    · exact hnumbered
    · split
      · exact hnumbered
      · split
        · exact htaken.trans (repeatBurst_netKept s₂ n queued written)
        · exact htaken

theorem enterLate_netKept (s : Slot) (lc : LC) (control : UInt8) (data : Bytes) :
    NetKept s (enterLate PRNG_TABLE s lc control data).2 := by
  unfold enterLate
  lift_lets
  intro n s₀ s₁ data s₂
  have hstart : NetKept s s₁ := (startRF_netKept s lc).trans (numbered_netKept s₀ n s₀.lastRfN)
  split
  · exact hstart
  · split
    · exact hstart
    · exact (hstart.trans (numbered_netKept s₁ n n)).trans
        ((repeatBurst_netKept _ n data data).trans ⟨rfl, rfl, rfl, rfl, rfl, rfl, rfl, rfl, rfl⟩)

theorem processLateEntry_netKept (s : Slot) (control : UInt8) (data : Bytes) :
    NetKept s (processLateEntry PRNG_TABLE s control data).2 := by
  have hcollect : NetKept s (s.collectLC data) := ⟨rfl, rfl, rfl, rfl, rfl, rfl, rfl, rfl, rfl⟩
  unfold processLateEntry
  split
  · exact .refl s
  · lift_lets
    intro s'
    split
    · exact hcollect
    · rename_i lc _
      split
      · exact ⟨rfl, rfl, rfl, rfl, rfl, rfl, rfl, rfl, rfl⟩
      · split
        · exact ⟨rfl, rfl, rfl, rfl, rfl, rfl, rfl, rfl, rfl⟩
        · exact hcollect.trans (enterLate_netKept s' lc control data)

/-- **A frame of a radio** leaves a call of the network. -/
theorem process_netKept (s : Slot) (control : UInt8) (data : Bytes) :
    NetKept s (process PRNG_TABLE s control data).2 := by
  unfold process
  split
  · dsimp only
    split
    · exact processHeader_netKept s data
    · split
      · exact processPIHeader_netKept s
      · exact .refl s
  · split
    · split
      · exact processSync_netKept s _ data
      · exact processBurst_netKept s _ control data
    · split
      · exact ⟨rfl, rfl, rfl, rfl, rfl, rfl, rfl, rfl, rfl⟩
      · exact .refl s
    · split
      · exact .refl s
      · exact processLateEntry_netKept s control data
    · exact .refl s

/-! ## Frames of the network -/

/-- What a turn changes apart from the burst. -/
theorem nextFiller_eq (lc : LC) (turn : Nat) (sd : Slot × Bytes) :
    ∃ valid, (nextFiller lc turn sd).1 = { sd.1 with lastFrameValid := valid } := by
  unfold nextFiller
  split
  · exact ⟨false, rfl⟩
  · exact ⟨sd.1.lastFrameValid, rfl⟩

theorem markSync_eq (s : Slot) (n : UInt8) :
    s.markSync n = { s with netLog := s.netLog ++ if n = 0 then [.sync] else [] } := by
  unfold markSync
  split
  · rfl
  · rw [List.append_nil]

theorem renewRF_eq (s : Slot) (dstId : UInt32) : ∃ rfTGHang, s.renewRF dstId = { s with rfTGHang := rfTGHang } := by
  unfold renewRF
  split
  · exact ⟨_, rfl⟩
  · exact ⟨s.rfTGHang, rfl⟩

theorem renewNet_eq (s : Slot) (dstId : UInt32) : ∃ netTGHang, s.renewNet dstId = { s with netTGHang := netTGHang } := by
  unfold renewNet
  split
  · exact ⟨_, rfl⟩
  · exact ⟨s.netTGHang, rfl⟩

/-- The checks change nothing but the hang timers. -/
theorem gate_eq (s : Slot) (d : NetData) :
    ∃ rfTGHang netTGHang, (s.gate d).2 = { s with rfTGHang := rfTGHang, netTGHang := netTGHang } := by
  obtain ⟨rfTGHang, hrf⟩ := renewRF_eq s d.dstId
  obtain ⟨netTGHang, hnet⟩ := renewNet_eq (s.renewRF d.dstId) d.dstId
  have h1 : ∃ rfTGHang netTGHang, s.renewRF d.dstId = { s with rfTGHang := rfTGHang, netTGHang := netTGHang } :=
    ⟨rfTGHang, s.netTGHang, hrf⟩
  have h2 : ∃ rfTGHang netTGHang, (s.renewRF d.dstId).renewNet d.dstId =
      { s with rfTGHang := rfTGHang, netTGHang := netTGHang } := ⟨rfTGHang, netTGHang, by rw [hnet, hrf]⟩
  unfold gate
  split
  · exact ⟨s.rfTGHang, s.netTGHang, rfl⟩
  · split
    · exact ⟨s.rfTGHang, s.netTGHang, rfl⟩
    · lift_lets
      intro s₁ s₂
      split
      · exact h1
      · split
        · exact h2
        · split
          · exact h2
          · exact h2

/-- **What the rest of the host does to a slot** between voice frames: it may end the calls, start data calls, let a call
    time out, run the timers, change the rest of the members and take frames from the queue or put others there. It
    starts no voice call and does not touch what belongs to one, but for the counters of a call of the network, which
    it sets to zero when a radio is rejected. -/
structure Outside (s s' : Slot) : Prop where
  netLog : s'.netLog = s.netLog
  rfLog : s'.rfLog = s.rfLog
  netN : s'.netN = s.netN
  lastRfN : s'.lastRfN = s.lastRfN
  netEmbedded : s'.netEmbedded = s.netEmbedded
  rfEmbedded : s'.rfEmbedded = s.rfEmbedded
  embeddedLCOnly : s'.embeddedLCOnly = s.embeddedLCOnly
  netCall : s'.netState = RS_NET_AUDIO → s.netState = RS_NET_AUDIO ∧ s'.netLC = s.netLC ∧
    (s.netTimeout = true → s'.netTimeout = true) ∧
    (s'.netFrames = s.netFrames ∧ s'.netLost = s.netLost ∨ s'.netFrames = 0 ∧ s'.netLost = 0)
  rfCall : s'.rfState = RS_RF_AUDIO → s.rfState = RS_RF_AUDIO ∧ s'.rfLC = s.rfLC
  rfWaiting : s'.rfState = RS_RF_LATE_ENTRY → s.rfState = RS_RF_LATE_ENTRY

/-- What happens to a slot. -/
inductive SlotCall where
  | process (control : UInt8) (data : Bytes)
  | processNetwork (stack : Bytes) (d : NetData)
  | fillIn (stack : Bytes)
  | outside (s' : Slot)

/-- The slot behind a call. -/
def exec (PRNG_TABLE : Nat → Nat) (s : Slot) : SlotCall → Slot
  | .process control data => (s.process PRNG_TABLE control data).2
  | .processNetwork stack d => s.processNetwork PRNG_TABLE stack d
  | .fillIn stack => s.fillIn stack
  | .outside s' => s'

/-- What can happen. -/
def SlotCall.Allowed (s : Slot) : SlotCall → Prop
  | .outside s' => Outside s s'
  | _ => True

/-- By name, so that the numerals of `Fin 2` carry no proof of their own. -/
local instance neZero_two : NeZero 2 := ⟨by decide⟩

/-- The members of a new `Voice` that have to do with embedded signalling. -/
def Embedded.new : Embedded where
  embeddedLC := .new (fun _ => false) (fun _ => false)
  embeddedData := fun _ => .new (fun _ => false) (fun _ => false)
  readN := 0
  writeN := 1

/-- A new slot of a site with all defaults: no access lists, no control channel, and a queue of `length` cells. -/
def new (length : Nat) : Slot where
  slotNo := 1
  duplex := true
  colorCode := 1
  authoritative := true
  embeddedLCOnly := false
  silenceThreshold := 21
  jitterSlots := 6
  enableTSCC := false
  dedicatedTSCC := false
  tsccSlotNo := 0
  hasNetwork := true
  acl := { ridLookup := ⟨∅⟩, ridACL := false, tidLookup := {}, tidACL := false }
  isNetGranted := fun _ => false
  permittedDstId := 0
  rfState := RS_RF_LISTENING
  rfLastDstId := 0
  rfLastSrcId := 0
  netState := RS_NET_IDLE
  netLastDstId := 0
  netLastSrcId := 0
  rfLC := none
  netLC := none
  rfTGHang := Timer.new 1000 10 0
  netTGHang := Timer.new 1000 2 0
  rfTimeout := false
  netTimeout := false
  netFrames := 0
  netLost := 0
  txLength := length
  txUsed := 0
  lastFrame := fun _ => 0x00
  lastFrameValid := false
  rfN := 0
  lastRfN := 0
  netN := 0
  rfEmbedded := Embedded.new
  netEmbedded := Embedded.new
  rfLog := []
  netLog := []

end Slot

end Dmr

end DvmHost

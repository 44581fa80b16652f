import DvmHost.Host.Dmr.Packet.Correctness.VoiceSteps
import DvmHost.Lib.Ring
import DvmHost.Lib.Run

/-!
# `Host.Dmr.Packet.Correctness.SuperframeOrder` — filling in for lost bursts

A burst of the network without sync first fills the gap before it, and is left out when it has the number of the last
one; so the numbers of what is queued advance by one (`insertCount_filled`, `netVoiceBurst_sound`). A burst with sync
does neither, and keeps the order only after number 5 (`netSyncBurst_sound`). `Inv` is what every call that meets the
condition keeps, for bursts that the sender counted.
-/

namespace DvmHost

open Lib Lib.Cyclic RPT_RF_STATE RPT_NET_STATE

namespace Dmr

namespace Slot

/-! ## What was queued in a call -/

/-- The bursts of a call that are queued, with the mark of those that fill in: the list behind an event. -/
def burstAfter (bursts : List (Nat × Bool)) : VoiceEvent → List (Nat × Bool)
  | .started _ => []
  | .queued n _ inserted => bursts ++ [(n.toNat, inserted)]
  | _ => bursts

/-- The bursts of the last call in a log. -/
def callBursts (log : List VoiceEvent) : List (Nat × Bool) := log.foldl burstAfter []

/-- Their numbers. -/
def numbers (log : List VoiceEvent) : List Nat := (callBursts log).map Prod.fst

/-- How many of them fill in. -/
def inserted (log : List VoiceEvent) : Nat := (callBursts log).countP Prod.snd

/-- How many of them were received. -/
def received (log : List VoiceEvent) : Nat := (callBursts log).countP fun burst => !burst.2

theorem callBursts_append (log events : List VoiceEvent) :
    callBursts (log ++ events) = events.foldl burstAfter (callBursts log) := List.foldl_append

theorem callBursts_started (log : List VoiceEvent) (lc : LC) : callBursts (log ++ [.started lc]) = [] := by
  rw [callBursts_append]
  rfl

theorem callBursts_queued (log : List VoiceEvent) (n : UInt8) (data : Bytes) (filler : Bool) :
    callBursts (log ++ [.queued n data filler]) = callBursts log ++ [(n.toNat, filler)] := by
  rw [callBursts_append]
  rfl

theorem callBursts_sync (log : List VoiceEvent) : callBursts (log ++ [.sync]) = callBursts log := by
  rw [callBursts_append]
  rfl

theorem callBursts_embedded (log : List VoiceEvent) (e : Embedded) (complete : Bool) :
    callBursts (log ++ embeddedEvent e complete) = callBursts log := by
  rw [callBursts_append]
  cases complete <;> rfl

/-! ## Room in the queue -/

/-- The cells that are free in the transmit queue. -/
def room (s : Slot) : Nat := s.txLength - s.txUsed

/-- The cells of a frame. -/
def frameCells : Nat := DMR_FRAME_LENGTH_BYTES + 2 + 1

/-- A burst that finds room is queued. -/
theorem addNetBurst_room {s : Slot} (hroom : frameCells < s.room) (n : UInt8) (data : Bytes) (filler : Bool) :
    s.addNetBurst n data filler =
      { s with txUsed := s.txUsed + frameCells, netLog := s.netLog ++ [.queued n data filler] } := by
  have hmany : ¬s.txLength - s.txUsed < DMR_FRAME_LENGTH_BYTES + 2 + 1 := Nat.not_lt.mpr (Nat.le_of_lt hroom)
  have hmore : ¬s.txLength - s.txUsed = DMR_FRAME_LENGTH_BYTES + 2 + 1 := Nat.ne_of_gt hroom
  have hadd : s.addFrame true = (true, { s with txUsed := s.txUsed + frameCells }) := by
    unfold addFrame
    rw [if_neg (by rintro ⟨h, -⟩; exact nomatch h)]
    dsimp only
    rw [if_neg hmany, if_neg hmore]
    rfl
  unfold addNetBurst
  rw [hadd]
  rfl

/-! ## Order -/

/-- **The order of a call**: the numbers advance, up to `m_netN` while the call has not timed out, and `m_netLost` counts
    what fills in. -/
structure Sound (s : Slot) : Prop where
  number : s.netN.toNat < 6
  advancing : Advancing 6 (numbers s.netLog)
  follows : s.netTimeout = false → Follows 6 (numbers s.netLog) s.netN.toNat
  lost : s.netLost = UInt32.ofNat (inserted s.netLog)

/-- What matters of a slot for its order. -/
theorem Sound.congr {s s' : Slot} (h : Sound s) (hnumber : s'.netN = s.netN) (hlog : callBursts s'.netLog =
    callBursts s.netLog) (hlost : s'.netLost = s.netLost) (htimeout : s.netTimeout = true → s'.netTimeout = true) :
    Sound s' := by
  have hnumbers : numbers s'.netLog = numbers s.netLog := congrArg (List.map Prod.fst) hlog
  refine ⟨hnumber ▸ h.number, hnumbers ▸ h.advancing, ?_, ?_⟩
  · intro hrunning
    rw [hnumbers, hnumber]
    refine h.follows (Bool.eq_false_iff.mpr fun hout => ?_)
    rw [htimeout hout] at hrunning
    exact nomatch hrunning
  · rw [hlost, h.lost, inserted, inserted, hlog]

/-- The number behind another. -/
theorem toNat_next {n : UInt8} (hn : n.toNat < 6) : ((n + 1) % 6).toNat = (n.toNat + 1) % 6 := by
  rw [UInt8.toNat_mod, UInt8.toNat_add, Nat.mod_eq_of_lt (show n.toNat + (1 : UInt8).toNat < 2 ^ 8 by
    show n.toNat + 1 < 256
    omega)]
  rfl

/-- **Bursts that fill in**: `count` numbers behind the last one. -/
structure Filled (s : Slot) (count : Nat) (s' : Slot) : Prop where
  sound : Sound s'
  number : s'.netN.toNat = (s.netN.toNat + count) % 6
  received : received s'.netLog = received s.netLog
  room : s'.room = s.room - frameCells * count
  netState : s'.netState = s.netState
  netTimeout : s'.netTimeout = s.netTimeout

/-- The numbers and counts behind a burst that is queued. -/
theorem numbers_queued {log log' : List VoiceEvent} {n : UInt8} {filler : Bool}
    (h : callBursts log' = callBursts log ++ [(n.toNat, filler)]) :
    numbers log' = numbers log ++ [n.toNat] ∧ inserted log' = inserted log + (if filler then 1 else 0) ∧
      received log' = received log + (if filler then 0 else 1) := by
  unfold numbers inserted received
  rw [h]
  refine ⟨by rw [List.map_append]; rfl, ?_, ?_⟩
  · rw [List.countP_append]
    cases filler <;> rfl
  · rw [List.countP_append]
    cases filler <;> rfl

/-- A turn of the loop adds the next number. -/
theorem insertOne_filled {s : Slot} (h : Sound s) (hrunning : s.netTimeout = false) (hroom : frameCells < s.room)
    (lc : LC) (turn : Nat) (data : Bytes) : Filled s 1 (insertOne lc turn (s, data)).1 := by
  obtain ⟨valid, hfiller⟩ : ∃ valid, (nextFiller lc turn (s, data)).1 = { s with lastFrameValid := valid } :=
    nextFiller_eq lc turn (s, data)
  unfold insertOne
  lift_lets
  intro sd' n data'
  have hn : n = (s.netN + 1) % 6 := by
    show (sd'.1.netN + 1) % 6 = _
    rw [show sd'.1 = _ from hfiller]
  have hmarked : sd'.1.markSync n = { s with
      lastFrameValid := valid, netLog := s.netLog ++ if n = 0 then [.sync] else [] } := by
    rw [markSync_eq, show sd'.1 = _ from hfiller]
  have hadded := addNetBurst_room (s := sd'.1.markSync n) (by rw [hmarked]; exact hroom) n data' true
  show Filled s 1 (((sd'.1.markSync n).addNetBurst n data' true).countLost n)
  rw [hadded, hmarked]
  generalize hs' : countLost _ n = s'
  have hbursts : callBursts s'.netLog = callBursts s.netLog ++ [(n.toNat, true)] := by
    rw [← hs']
    show callBursts ((s.netLog ++ if n = 0 then [.sync] else []) ++ [.queued n data' true]) = _
    rw [callBursts_queued]
    split
    · rw [callBursts_sync]
    · rw [List.append_nil]
  obtain ⟨hnumbers, hinserted, hreceived⟩ := numbers_queued hbursts
  have hnext : n.toNat = (s.netN.toNat + 1) % 6 := by rw [hn, toNat_next h.number]
  have hnetN : s'.netN = n := by rw [← hs']; rfl
  have hfollows : Follows 6 (numbers s'.netLog) n.toNat := by
    rw [hnumbers, hnext]
    exact (h.follows hrunning).next
  refine ⟨⟨?_, hfollows.advancing, fun _ => ?_, ?_⟩, ?_, hreceived, ?_, ?_, ?_⟩
  · rw [hnetN, hnext]
    exact Nat.mod_lt _ (by decide)
  · rw [hnetN]
    exact hfollows
  · rw [hinserted, if_pos rfl, UInt32.ofNat_add, ← h.lost, ← hs']
    rfl
  · rw [hnetN]
    exact hnext
  · rw [← hs']
    show s.txLength - (s.txUsed + frameCells) = (s.txLength - s.txUsed) - frameCells * 1
    omega
  · rw [← hs']
    rfl
  · rw [← hs']
    rfl

/-- **Filling in** adds the next `count` numbers, if there is room. -/
theorem insertCount_filled {s : Slot} (h : Sound s) (hrunning : s.netTimeout = false) (lc : LC) (stack : Bytes)
    (count : Nat) (hroom : count = 0 ∨ frameCells * count < s.room) : Filled s count (s.insertCount lc stack count) := by
  unfold insertCount
  generalize s.silence stack = data
  -- the turns before the last one leave room for it
  induction count with
  | zero =>
      refine ⟨h, ?_, rfl, ?_, rfl, rfl⟩
      · exact (Nat.mod_eq_of_lt h.number).symm
      · exact (Nat.sub_zero _).symm
  | succ count ih =>
      have hall : frameCells * (count + 1) < s.room := hroom.resolve_left (Nat.succ_ne_zero count)
      rw [Nat.mul_succ] at hall
      have hfilled := ih (.inr (Nat.lt_of_le_of_lt (Nat.le_add_right _ _) hall))
      rw [List.range_succ, List.foldl_append]
      show Filled s (count + 1) (insertOne lc count _).1
      generalize hsd : (List.range count).foldl (fun sd turn => insertOne lc turn sd) (s, data) = sd at hfilled ⊢
      obtain ⟨s', data'⟩ := sd
      have hlast : frameCells < s'.room := by
        rw [show s'.room = _ from hfilled.room]
        omega
      have hone := insertOne_filled hfilled.sound (hfilled.netTimeout.trans hrunning) hlast lc count data'
      refine ⟨hone.sound, ?_, hone.received.trans hfilled.received, ?_, hone.netState.trans hfilled.netState,
        hone.netTimeout.trans hfilled.netTimeout⟩
      · rw [hone.number, hfilled.number, Nat.mod_add_mod, Nat.add_assoc]
      · rw [hone.room, hfilled.room, Nat.mul_one, Nat.mul_succ, Nat.sub_sub]

/-! ## Bursts -/

/-- The number that the next burst is compared with: the first burst of a call is taken to follow number 5. -/
def lastN (s : Slot) : UInt8 := if s.netFrames = 0 then 5 else s.netN

/-- The frames that a burst without sync needs: none if it has the number of the last one, else it and those before it. -/
def needed (s : Slot) (n : UInt8) : Nat :=
  if n = s.lastN then 0 else Cyclic.missing 6 s.lastN.toNat n.toNat + 1

/-- No burst is queued yet while `m_netFrames` is zero. -/
def CountsFrames (s : Slot) : Prop := s.netFrames = 0 → callBursts s.netLog = []

theorem receiveNet_sound {s : Slot} (h : Sound s) (data : Bytes) : Sound (s.receiveNet data) :=
  h.congr rfl (callBursts_embedded s.netLog _ _) rfl id

/-- The first burst of a call sets the number and the count. -/
theorem initialise_sound {s : Slot} (h : Sound s) (hfirst : s.CountsFrames) (data : Bytes) :
    Sound (s.initialise data) := by
  unfold initialise
  split
  · rename_i hzero
    have hnone := hfirst hzero
    refine ⟨show (5 : UInt8).toNat < 6 by decide, ?_, fun _ => ?_, ?_⟩
    · show Advancing 6 ((callBursts s.netLog).map Prod.fst)
      rw [hnone]
      exact advancing_nil
    · show Follows 6 ((callBursts s.netLog).map Prod.fst) 5
      rw [hnone]
      exact .nil 5
    · show 0 = UInt32.ofNat ((callBursts s.netLog).countP Prod.snd)
      rw [hnone]
      rfl
  · exact h

theorem initialise_members (s : Slot) (data : Bytes) :
    (s.initialise data).netN = s.lastN ∧ (s.initialise data).netTimeout = s.netTimeout ∧
      (s.initialise data).netLog = s.netLog ∧ (s.initialise data).room = s.room ∧
      (s.initialise data).netState = s.netState := by
  unfold initialise lastN
  split <;> exact ⟨rfl, rfl, rfl, rfl, rfl⟩

/-- Before a burst with another number as many are filled in as are missing. -/
theorem insertSilence_filled {s : Slot} (h : Sound s) (lc : LC) (stack data : Bytes) {n : UInt8} (hn : n.toNat < 6)
    (hne : n ≠ s.netN)
    (hout : s.netTimeout = true → Cyclic.missing 6 s.netN.toNat n.toNat = 0)
    (hroom : s.netTimeout = false → frameCells * (Cyclic.missing 6 s.netN.toNat n.toNat + 1) < s.room) :
    (s.insertSilence lc stack data n).1 = true ∧
      Filled s (Cyclic.missing 6 s.netN.toNat n.toNat) (s.insertSilence lc stack data n).2 := by
  have hmissing : s.missing n = Cyclic.missing 6 s.netN.toNat n.toNat := by
    rw [Slot.missing, Cyclic.missing, toNat_next h.number]
  unfold insertSilence
  rw [if_neg hne]
  refine ⟨rfl, ?_⟩
  dsimp only
  split
  · -- the number is the next one, and nothing is missing
    rename_i hnext
    have hnone : Cyclic.missing 6 s.netN.toNat n.toNat = 0 := by
      rw [← hnext, toNat_next h.number]
      exact missing_next (by decide)
    rw [hnone]
    refine ⟨h.congr rfl rfl rfl id, ?_, rfl, ?_, rfl, rfl⟩
    · exact (Nat.mod_eq_of_lt h.number).symm
    · exact (Nat.sub_zero _).symm
  · rename_i hgap
    have hsome : Cyclic.missing 6 s.netN.toNat n.toNat ≠ 0 := by
      intro hnone
      refine hgap (UInt8.toNat_inj.mp ?_)
      have hadv := advance_missing (a := s.netN.toNat) hn
      rw [hnone, Nat.add_zero] at hadv
      rw [toNat_next h.number, hadv]
    have hrunning : s.netTimeout = false := by
      cases hto : s.netTimeout with
      | false => rfl
      | true => exact absurd (hout hto) hsome
    rw [hmissing]
    have hall := hroom hrunning
    rw [Nat.mul_succ] at hall
    have hfilled := insertCount_filled h hrunning lc stack _ (.inr (Nat.lt_of_le_of_lt (Nat.le_add_right _ _) hall))
    exact ⟨hfilled.sound.congr rfl rfl rfl id, hfilled.number, hfilled.received, hfilled.room, hfilled.netState,
      hfilled.netTimeout⟩

/-- What a burst does to the order of a call: it stays, and at most the burst itself is queued as a received one. -/
structure Taken (s : Slot) (queued : Nat) (s' : Slot) : Prop where
  sound : Sound s'
  received : received s'.netLog = received s.netLog + queued
  netState : s'.netState = s.netState

/-- A burst that finds room is queued, and is the last one. -/
theorem queued_taken {s s₁ : Slot} (h : Sound s₁) (hrunning : s₁.netTimeout = false) (hroom : frameCells < s₁.room)
    (hreceived : Slot.received s₁.netLog = Slot.received s.netLog) (hstate : s₁.netState = s.netState) {n : UInt8}
    (hnext : n.toNat = (s₁.netN.toNat + 1) % 6) (data : Bytes) (frames : UInt32) :
    Taken s 1 { s₁.addNetBurst n data false with netFrames := frames, netN := n } := by
  rw [addNetBurst_room hroom]
  obtain ⟨hnumbers, hinserted, hone⟩ := numbers_queued (callBursts_queued s₁.netLog n data false)
  have hfollows : Follows 6 (numbers (s₁.netLog ++ [.queued n data false])) n.toNat := by
    rw [hnumbers, hnext]
    exact (h.follows hrunning).next
  refine ⟨⟨?_, hfollows.advancing, fun _ => hfollows, ?_⟩, ?_, hstate⟩
  · show n.toNat < 6
    rw [hnext]
    exact Nat.mod_lt _ (by decide)
  · show s₁.netLost = UInt32.ofNat (inserted (s₁.netLog ++ [.queued n data false]))
    rw [hinserted, h.lost]
    rfl
  · show Slot.received (s₁.netLog ++ [.queued n data false]) = _
    rw [hone, hreceived]
    rfl

/-- A burst in a call that has timed out is not queued. -/
theorem dropped_taken {s s₁ : Slot} (h : Sound s₁) (hout : s₁.netTimeout = true)
    (hreceived : Slot.received s₁.netLog = Slot.received s.netLog) (hstate : s₁.netState = s.netState) {n : UInt8}
    (hn : n.toNat < 6) (frames : UInt32) : Taken s 0 { s₁ with netFrames := frames, netN := n } := by
  refine ⟨⟨hn, h.advancing, fun hrunning => ?_, h.lost⟩, hreceived, hstate⟩
  rw [show s₁.netTimeout = false from hrunning] at hout
  exact nomatch hout

variable {PRNG_TABLE : Nat → Nat}

/-- **A burst without sync** keeps the order, if what it needs finds room; one with the number of the last burst is not
    queued. -/
theorem netVoiceBurst_taken {s : Slot} (h : Sound s) (hfirst : s.CountsFrames) (lc : LC) (stack : Bytes) {d : NetData}
    (hn : d.n.toNat < 6)
    (hneeded : if s.netTimeout then s.needed d.n ≤ 1 else s.needed d.n = 0 ∨ frameCells * s.needed d.n < s.room) :
    ∃ queued, Taken s queued (netVoiceBurst PRNG_TABLE s lc stack d) ∧
      (queued = 0 ∨ queued = 1 ∧ d.n ≠ s.lastN) := by
  unfold netVoiceBurst
  lift_lets
  intro audio s₁ data inserted s₂
  have hs₁ : Sound s₁ := receiveNet_sound h audio
  have hbursts : callBursts s₁.netLog = callBursts s.netLog := callBursts_embedded s.netLog _ _
  have hfirst₁ : s₁.CountsFrames := fun hzero => hbursts.trans (hfirst hzero)
  have hinit := initialise_sound hs₁ hfirst₁ data
  obtain ⟨hnetN, htimeout, hlog, hroom, hstate⟩ := initialise_members s₁ data
  have hlastN : s₁.lastN = s.lastN := rfl
  rw [hlastN] at hnetN
  have hreceived : Slot.received (s₁.initialise data).netLog = Slot.received s.netLog := by
    rw [hlog, Slot.received, hbursts]
    rfl
  by_cases hdup : d.n = s.lastN
  · -- a burst with the number of the last one changes nothing
    have hinserted : inserted = (false, s₁.initialise data) := if_pos (hdup.trans hnetN.symm)
    have hs₂ : s₂ = s₁.initialise data := by
      show (if inserted.1 ∧ !inserted.2.netTimeout then _ else inserted.2) = _
      rw [hinserted]
      exact if_neg fun hand => nomatch hand.1
    refine ⟨0, ?_, .inl rfl⟩
    rw [hs₂]
    exact ⟨hinit.congr (hdup.trans hnetN.symm) rfl rfl id, hreceived, hstate⟩
  · have hneed : s.needed d.n = Cyclic.missing 6 s.lastN.toNat d.n.toNat + 1 := if_neg hdup
    rw [hneed] at hneeded
    obtain ⟨hsend, hfilled⟩ := insertSilence_filled hinit lc stack data hn (fun heq => hdup (heq.trans hnetN))
      (fun hout => by
        rw [if_pos (show s.netTimeout = true from htimeout.symm.trans hout)] at hneeded
        rw [hnetN]
        omega)
      (fun hrunning => by
        rw [if_neg (by rw [show s.netTimeout = _ from htimeout.symm.trans hrunning]; nofun)] at hneeded
        rw [hnetN, hroom]
        exact hneeded.resolve_left (Nat.succ_ne_zero _))
    have hsound : Slot.received inserted.2.netLog = Slot.received s.netLog := hfilled.received.trans hreceived
    have hsame : inserted.2.netState = s.netState := hfilled.netState.trans hstate
    cases hout : inserted.2.netTimeout with
    | true =>
        have hs₂ : s₂ = inserted.2 := by
          show (if inserted.1 ∧ !inserted.2.netTimeout then _ else inserted.2) = _
          rw [hout]
          exact if_neg fun hand => nomatch hand.2
        refine ⟨0, ?_, .inl rfl⟩
        rw [hs₂]
        exact dropped_taken hfilled.sound hout hsound hsame hn _
    | false =>
        have hs₂ : s₂ = inserted.2.addNetBurst d.n data false := by
          show (if inserted.1 ∧ !inserted.2.netTimeout then _ else inserted.2) = _
          rw [hout]
          exact if_pos ⟨hsend, rfl⟩
        have hrunning : s.netTimeout = false := htimeout.symm.trans (hfilled.netTimeout.symm.trans hout)
        rw [if_neg (by rw [hrunning]; nofun)] at hneeded
        have hall := hneeded.resolve_left (Nat.succ_ne_zero _)
        rw [Nat.mul_succ] at hall
        have hlast : frameCells < inserted.2.room := by
          rw [show inserted.2.room = _ from hfilled.room, hnetN, hroom]
          exact Nat.lt_sub_of_add_lt (by rw [Nat.add_comm]; exact hall)
        refine ⟨1, ?_, .inr ⟨rfl, hdup⟩⟩
        rw [hs₂]
        refine queued_taken hfilled.sound hout hlast hsound hsame ?_ data _
        rw [show inserted.2.netN.toNat = _ from hfilled.number, Nat.mod_add_mod, hnetN]
        exact (advance_missing hn).symm

/-- **A burst with sync** keeps the order, if it is the first of the call or comes after number 5, and finds room. -/
theorem netSyncBurst_taken {s : Slot} (h : Sound s) (hfirst : s.CountsFrames) (lc : LC) {d : NetData} (hn : d.n = 0)
    (hlast : s.lastN = 5) (hroom : s.netTimeout = false → frameCells < s.room) :
    ∃ queued, Taken s queued (netSyncBurst PRNG_TABLE s lc d) ∧ queued ≤ 1 := by
  unfold netSyncBurst
  lift_lets
  intro data s₁ s₂ s₃
  have hinit := initialise_sound h hfirst data
  obtain ⟨hnetN, htimeout, hlog, hroom₁, hstate⟩ := initialise_members s data
  have hs₂ : Sound s₂ := hinit.congr rfl (callBursts_sync _) rfl id
  have hreceived : Slot.received s₂.netLog = Slot.received s.netLog := by
    show (callBursts (s₁.netLog ++ [.sync])).countP _ = (callBursts s.netLog).countP _
    rw [callBursts_sync, show s₁.netLog = s.netLog from hlog]
  cases hout : s₂.netTimeout with
  | true =>
      have hs₃ : s₃ = s₂ := if_pos hout
      refine ⟨0, ?_, Nat.zero_le 1⟩
      rw [hs₃, hn]
      exact dropped_taken hs₂ hout hreceived hstate (by decide) _
  | false =>
      have hs₃ : s₃ = s₂.addNetBurst 0 data false := if_neg (by rw [hout]; nofun)
      have hfree : frameCells < s₂.room := by
        rw [show s₂.room = s.room from hroom₁]
        exact hroom (htimeout.symm.trans hout)
      refine ⟨1, ?_, Nat.le_refl 1⟩
      rw [hs₃, hn]
      refine queued_taken hs₂ hout hfree hreceived hstate ?_ data _
      rw [show s₂.netN = s.lastN from hnetN, hlast]
      rfl

/-! ## Runs -/

/-- A slot, and what the sender of a call of the network sees: the place, in what was sent, of the last burst that
    arrived, and the places of those that were queued. -/
structure Tracked where
  slot : Slot
  heard : Option Nat
  delivered : List Nat

/-- The last burst of the call in progress that arrived. -/
def Tracked.lastHeard (t : Tracked) : Option Nat := if t.slot.netState = RS_NET_AUDIO then t.heard else none

/-- The bursts of the call in progress that were queued. -/
def Tracked.soFar (t : Tracked) : List Nat := if t.slot.netState = RS_NET_AUDIO then t.delivered else []

/-- How many bursts of the call in progress the log shows. -/
def Tracked.logged (t : Tracked) : Nat := if t.slot.netState = RS_NET_AUDIO then received t.slot.netLog else 0

/-- A call with a voice burst of the network. -/
def SlotCall.isBurst : SlotCall → Bool
  | .processNetwork _ d => d.dataType = DT_VOICE_SYNC || d.dataType = DT_VOICE
  | _ => false

/-- **A call**, with the place of the burst that it brings: the sender numbers its bursts modulo 6, and they arrive in
    order; any of them may be lost, and any may arrive more than once. -/
structure Step (PRNG_TABLE : Nat → Nat) (t : Tracked) (c : SlotCall × Nat) (t' : Tracked) : Prop where
  allowed : c.1.Allowed t.slot
  slot : t'.slot = exec PRNG_TABLE t.slot c.1
  numbered : ∀ stack d, c.1 = .processNetwork stack d → c.1.isBurst →
    d.n.toNat = c.2 % 6 ∧ (d.dataType = DT_VOICE_SYNC ↔ c.2 % 6 = 0)
  inOrder : c.1.isBurst → ∀ place, t.lastHeard = some place → place ≤ c.2
  heard : t'.heard = if c.1.isBurst then some c.2 else t.lastHeard
  delivered : t'.delivered = t.soFar ++ List.replicate (received t'.slot.netLog - t.logged) c.2

/-- **The bursts that keep the order.** One with sync is the first of its call or comes after number 5, and was not
    queued before; one without sync that was queued before has the number of the last burst. In a call that has timed
    out nothing is filled in; else what is queued finds room. -/
def Meets (t : Tracked) : SlotCall × Nat → Prop
  | (.processNetwork _ d, place) => (t.slot.gate d).1 = true →
      (d.dataType = DT_VOICE_SYNC → ∀ s lc, (t.slot.gate d).2.enterSync d = some (s, lc) →
        s.CountsFrames ∧ s.lastN = 5 ∧ place ∉ t.soFar ∧ (s.netTimeout = false → frameCells < s.room)) ∧
      (d.dataType = DT_VOICE → t.slot.netState = RS_NET_AUDIO →
        t.slot.CountsFrames ∧ (place ∈ t.delivered → d.n = t.slot.lastN) ∧
          if t.slot.netTimeout then t.slot.needed d.n ≤ 1
          else t.slot.needed d.n = 0 ∨ frameCells * t.slot.needed d.n < t.slot.room)
  | (.fillIn _, _) => t.slot.netState = RS_NET_AUDIO →
      t.slot.netTimeout = false ∧ (t.slot.jitterSlots = 0 ∨ frameCells * t.slot.jitterSlots < t.slot.room)
  | (.outside s', _) => s'.netState = RS_NET_AUDIO → s'.netLost = t.slot.netLost
  | (.process _ _, _) => True

/-- What the calls keep. -/
structure Inv (t : Tracked) : Prop where
  number : t.slot.netN.toNat < 6
  sound : t.slot.netState = RS_NET_AUDIO → Sound t.slot
  once : t.slot.netState = RS_NET_AUDIO → t.delivered.Nodup
  behind : t.slot.netState = RS_NET_AUDIO → ∀ q ∈ t.delivered, ∃ place, t.heard = some place ∧ q ≤ place

theorem Inv.soFar {t : Tracked} (h : Inv t) :
    t.soFar.Nodup ∧ ∀ q ∈ t.soFar, ∃ place, t.lastHeard = some place ∧ q ≤ place := by
  unfold Tracked.soFar Tracked.lastHeard
  by_cases hstate : t.slot.netState = RS_NET_AUDIO
  · rw [if_pos hstate, if_pos hstate]
    exact ⟨h.once hstate, h.behind hstate⟩
  · rw [if_neg hstate]
    exact ⟨List.nodup_nil, nofun⟩

/-- What is to be shown of a call: the order, and that at most the burst that it brings is queued, if it was not before. -/
theorem Inv.step {t t' : Tracked} {c : SlotCall × Nat} (h : Inv t) (hstep : Step PRNG_TABLE t c t')
    (hnumber : t'.slot.netN.toNat < 6)
    (hcall : t'.slot.netState = RS_NET_AUDIO → Sound t'.slot ∧
      ∃ queued, Slot.received t'.slot.netLog = t.logged + queued ∧
        (queued = 0 ∨ queued = 1 ∧ c.1.isBurst ∧ c.2 ∉ t.soFar)) : Inv t' := by
  obtain ⟨hnodup, hbehind⟩ := h.soFar
  refine ⟨hnumber, fun hstate => (hcall hstate).1, ?_, ?_⟩
  · intro hstate
    obtain ⟨-, queued, hreceived, hqueued⟩ := hcall hstate
    rw [hstep.delivered, hreceived, Nat.add_sub_cancel_left]
    rcases hqueued with rfl | ⟨rfl, -, hnew⟩
    · rw [List.replicate_zero, List.append_nil]
      exact hnodup
    · exact hnodup.append (List.nodup_singleton _) (List.disjoint_singleton.mpr hnew)
  · intro hstate q hq
    obtain ⟨-, queued, hreceived, hqueued⟩ := hcall hstate
    rw [hstep.delivered, hreceived, Nat.add_sub_cancel_left] at hq
    rw [hstep.heard]
    rcases List.mem_append.mp hq with hold | hnew
    · obtain ⟨place, hplace, hle⟩ := hbehind q hold
      split
      · rename_i hburst
        exact ⟨c.2, rfl, Nat.le_trans hle (hstep.inOrder hburst place hplace)⟩
      · exact ⟨place, hplace, hle⟩
    · obtain ⟨hpos, rfl⟩ := List.mem_replicate.mp hnew
      rcases hqueued with rfl | ⟨-, hburst, -⟩
      · exact absurd rfl hpos
      · rw [if_pos hburst]
        exact ⟨c.2, rfl, Nat.le_refl _⟩

/-- A call that leaves the call of the network as it is, or ends it. -/
theorem Inv.quiet {t t' : Tracked} {c : SlotCall × Nat} (h : Inv t) (hstep : Step PRNG_TABLE t c t')
    (hlog : t'.slot.netLog = t.slot.netLog) (hnumber : t'.slot.netN = t.slot.netN)
    (hcall : t'.slot.netState = RS_NET_AUDIO → t.slot.netState = RS_NET_AUDIO ∧
      (t.slot.netTimeout = true → t'.slot.netTimeout = true) ∧ t'.slot.netLost = t.slot.netLost) : Inv t' := by
  refine h.step hstep (hnumber ▸ h.number) fun hstate => ?_
  obtain ⟨hbefore, htimeout, hlost⟩ := hcall hstate
  refine ⟨(h.sound hbefore).congr hnumber (congrArg callBursts hlog) hlost htimeout, 0, ?_, .inl rfl⟩
  rw [hlog, Tracked.logged, if_pos hbefore, Nat.add_zero]

theorem Inv.kept {t t' : Tracked} {c : SlotCall × Nat} (h : Inv t) (hstep : Step PRNG_TABLE t c t')
    (hkept : NetKept t.slot t'.slot) : Inv t' :=
  h.quiet hstep hkept.netLog hkept.netN fun hstate =>
    ⟨hkept.netState.symm.trans hstate, fun hout => hkept.netTimeout.trans hout, hkept.netLost⟩

/-- The start of a call is in order. -/
theorem startNet_sound {s : Slot} (hnumber : s.netN.toNat < 6) (lc : LC) (net : Bool) :
    Sound (s.startNet lc net) ∧ callBursts (s.startNet lc net).netLog = [] := by
  obtain ⟨length, used, heq⟩ := startNet_eq s lc net
  have hnone : callBursts (s.netLog ++ [.started lc]) = [] := callBursts_started s.netLog lc
  rw [heq]
  refine ⟨⟨hnumber, ?_, fun _ => ?_, ?_⟩, hnone⟩
  · show Advancing 6 ((callBursts (s.netLog ++ [.started lc])).map Prod.fst)
    rw [hnone]
    exact advancing_nil
  · show Follows 6 ((callBursts (s.netLog ++ [.started lc])).map Prod.fst) _
    rw [hnone]
    exact .nil _
  · show 0 = UInt32.ofNat ((callBursts (s.netLog ++ [.started lc])).countP Prod.snd)
    rw [hnone]
    rfl

/-- A call that is started by a header. -/
theorem Inv.started {t t' : Tracked} {c : SlotCall × Nat} (h : Inv t) (hstep : Step PRNG_TABLE t c t')
    (hidle : t.slot.netState ≠ RS_NET_AUDIO) {s : Slot} (lc : LC) (net : Bool) (hnumber : s.netN = t.slot.netN)
    (hkept : NetKept (s.startNet lc net) t'.slot) : Inv t' := by
  obtain ⟨hsound, hnone⟩ := startNet_sound (s := s) (hnumber ▸ h.number) lc net
  have hsound' : Sound t'.slot := hsound.congr hkept.netN (congrArg callBursts hkept.netLog) hkept.netLost
    fun hout => hkept.netTimeout.trans hout
  refine h.step hstep hsound'.number fun _ => ⟨hsound', 0, ?_, .inl rfl⟩
  rw [Slot.received, hkept.netLog, hnone, Tracked.logged, if_neg hidle]
  rfl

/-- A header. -/
theorem Inv.netHeader {t t' : Tracked} {c : SlotCall × Nat} (h : Inv t) (hstep : Step PRNG_TABLE t c t') {s : Slot}
    (hs : NetKept t.slot s) {d : NetData} (ht' : t'.slot = s.netHeader d) : Inv t' := by
  unfold Slot.netHeader at ht'
  split at ht'
  · exact h.kept hstep (ht' ▸ hs)
  · rename_i hidle
    dsimp only at ht'
    generalize Option.getD _ _ = lc at ht'
    split at ht'
    · exact h.kept hstep (ht' ▸ hs)
    · refine h.started hstep (fun hstate => hidle (hs.netState.trans hstate)) (s := s.standby lc) lc true hs.netN ?_
      rw [ht']
      exact .refl _

/-- A privacy header. -/
theorem Inv.netPIHeader {t t' : Tracked} {c : SlotCall × Nat} (h : Inv t) (hstep : Step PRNG_TABLE t c t') {s : Slot}
    (hs : NetKept t.slot s) {d : NetData} (ht' : t'.slot = s.netPIHeader d) : Inv t' := by
  unfold Slot.netPIHeader at ht'
  split at ht'
  · rename_i hidle
    dsimp only at ht'
    generalize LC.new _ _ _ = lc at ht'
    split at ht'
    · exact h.kept hstep (ht' ▸ hs)
    · refine h.started hstep (fun hstate => hidle (hs.netState.trans hstate)) lc false hs.netN ?_
      rw [ht']
      exact addFrames_netKept _ true 1
  · exact h.kept hstep (ht' ▸ hs.trans (addFrames_netKept s true 1))

/-- Where a burst with sync finds the slot: in the call, or at the start of one. -/
theorem enterSync_cases {s s₁ : Slot} {d : NetData} {lc : LC} (h : s.enterSync d = some (s₁, lc)) :
    s.netState = RS_NET_AUDIO ∧ s₁ = s ∨ s.netState = RS_NET_IDLE ∧ s₁ = (s.standby lc).startNet lc false := by
  unfold enterSync at h
  split at h
  · rename_i hidle
    dsimp only at h
    split at h
    · exact nomatch h
    · obtain ⟨rfl, rfl⟩ := Prod.mk.inj (Option.some.inj h)
      exact .inr ⟨hidle, rfl⟩
  · rename_i haudio _
    obtain ⟨rfl, rfl⟩ := Prod.mk.inj (Option.some.inj h)
    exact .inl ⟨haudio, rfl⟩
  · exact nomatch h

/-- The order where a burst with sync finds the slot. -/
theorem Inv.entered {t : Tracked} (h : Inv t) {s s₁ : Slot} (hs : NetKept t.slot s) {d : NetData} {lc : LC}
    (henter : s.enterSync d = some (s₁, lc)) : Sound s₁ ∧ Slot.received s₁.netLog = t.logged := by
  rcases enterSync_cases henter with ⟨haudio, rfl⟩ | ⟨hidle, rfl⟩
  · have hbefore : t.slot.netState = RS_NET_AUDIO := hs.netState.symm.trans haudio
    refine ⟨(h.sound hbefore).congr hs.netN (congrArg callBursts hs.netLog) hs.netLost
      (fun hout => hs.netTimeout.trans hout), ?_⟩
    rw [Tracked.logged, if_pos hbefore, hs.netLog]
  · obtain ⟨hsound, hnone⟩ := startNet_sound (s := s.standby lc) (hs.netN ▸ h.number) lc false
    refine ⟨hsound, ?_⟩
    rw [Tracked.logged, if_neg (by rw [← hs.netState, hidle]; nofun), Slot.received, hnone]
    rfl

/-- A burst with sync. -/
theorem Inv.netSync {t t' : Tracked} {c : SlotCall × Nat} (h : Inv t) (hstep : Step PRNG_TABLE t c t')
    (hburst : c.1.isBurst) {s : Slot} (hs : NetKept t.slot s) {d : NetData} (hn : d.n = 0)
    (hmeets : ∀ s₁ lc, s.enterSync d = some (s₁, lc) →
      s₁.CountsFrames ∧ s₁.lastN = 5 ∧ c.2 ∉ t.soFar ∧ (s₁.netTimeout = false → frameCells < s₁.room))
    (ht' : t'.slot = Slot.netSync PRNG_TABLE s d) : Inv t' := by
  unfold Slot.netSync at ht'
  split at ht'
  · rename_i s₁ lc henter
    obtain ⟨hfirst, hlast, hnew, hroom⟩ := hmeets s₁ lc henter
    obtain ⟨hsound, hreceived⟩ := h.entered hs henter
    obtain ⟨queued, htaken, hle⟩ := @netSyncBurst_taken PRNG_TABLE s₁ hsound hfirst lc d hn hlast hroom
    rw [← ht'] at htaken
    refine h.step hstep htaken.sound.number fun _ => ⟨htaken.sound, queued, ?_, ?_⟩
    · rw [htaken.received, hreceived]
    · rcases Nat.le_one_iff_eq_zero_or_eq_one.mp hle with hnone | hone
      · exact .inl hnone
      · exact .inr ⟨hone, hburst, hnew⟩
  · exact h.kept hstep (ht' ▸ hs)

/-- A burst without sync. -/
theorem Inv.netVoice {t t' : Tracked} {c : SlotCall × Nat} (h : Inv t) (hstep : Step PRNG_TABLE t c t')
    (hburst : c.1.isBurst) {s : Slot} (hs : NetKept t.slot s) (hroom : s.room = t.slot.room) (stack : Bytes)
    {d : NetData} (hn : d.n.toNat < 6)
    (hmeets : t.slot.netState = RS_NET_AUDIO →
      t.slot.CountsFrames ∧ (c.2 ∈ t.delivered → d.n = t.slot.lastN) ∧
        if t.slot.netTimeout then t.slot.needed d.n ≤ 1
        else t.slot.needed d.n = 0 ∨ frameCells * t.slot.needed d.n < t.slot.room)
    (ht' : t'.slot = Slot.netVoice PRNG_TABLE s stack d) : Inv t' := by
  unfold Slot.netVoice at ht'
  split at ht'
  · rename_i lc haudio _
    have hbefore : t.slot.netState = RS_NET_AUDIO := hs.netState.symm.trans haudio
    obtain ⟨hfirst, hnew, hneeded⟩ := hmeets hbefore
    have hlastN : s.lastN = t.slot.lastN := by
      unfold lastN
      rw [hs.netFrames, hs.netN]
    have hsound : Sound s := (h.sound hbefore).congr hs.netN (congrArg callBursts hs.netLog) hs.netLost
      fun hout => hs.netTimeout.trans hout
    have hfirst' : s.CountsFrames := fun hzero => by
      rw [hs.netLog]
      exact hfirst (hs.netFrames.symm.trans hzero)
    obtain ⟨queued, htaken, hqueued⟩ := @netVoiceBurst_taken PRNG_TABLE s hsound hfirst' lc stack d hn (by
      rw [needed, hlastN, hs.netTimeout, hroom]
      exact hneeded)
    rw [← ht'] at htaken
    refine h.step hstep htaken.sound.number fun _ => ⟨htaken.sound, queued, ?_, ?_⟩
    · rw [htaken.received, hs.netLog, Tracked.logged, if_pos hbefore]
    · rcases hqueued with hnone | ⟨hone, hne⟩
      · exact .inl hnone
      · refine .inr ⟨hone, hburst, fun hmem => hne ?_⟩
        rw [Tracked.soFar, if_pos hbefore] at hmem
        rw [hlastN]
        exact hnew hmem
  · exact h.kept hstep (ht' ▸ hs)

/-- **One call** that meets the condition keeps the order. -/
theorem Inv.call {t t' : Tracked} {c : SlotCall × Nat} (h : Inv t) (hmeets : Meets t c)
    (hstep : Step PRNG_TABLE t c t') : Inv t' := by
  obtain ⟨call, place⟩ := c
  cases call with
  | process control data =>
      refine h.kept hstep ?_
      rw [hstep.slot]
      exact process_netKept t.slot control data
  | outside s' =>
      have hout : Outside t.slot s' := hstep.allowed
      have hslot : t'.slot = s' := hstep.slot
      refine h.quiet hstep (hslot ▸ hout.netLog) (hslot ▸ hout.netN) fun hstate => ?_
      rw [hslot] at hstate ⊢
      obtain ⟨hbefore, -, htimeout, -⟩ := hout.netCall hstate
      exact ⟨hbefore, htimeout, hmeets hstate⟩
  | fillIn stack =>
      have hslot : t'.slot = t.slot.fillIn stack := hstep.slot
      unfold Slot.fillIn at hslot
      split at hslot
      · rename_i lc haudio _
        obtain ⟨hrunning, hroom⟩ := hmeets haudio
        have hfilled := insertCount_filled (h.sound haudio) hrunning lc stack _ hroom
        rw [← hslot] at hfilled
        refine h.step hstep hfilled.sound.number fun _ => ⟨hfilled.sound, 0, ?_, .inl rfl⟩
        rw [hfilled.received, Tracked.logged, if_pos haudio, Nat.add_zero]
      · exact h.kept hstep (hslot ▸ .refl t.slot)
  | processNetwork stack d =>
      obtain ⟨rfTGHang, netTGHang, hgate⟩ := gate_eq t.slot d
      have hkept : NetKept t.slot (t.slot.gate d).2 := by
        rw [hgate]
        exact ⟨rfl, rfl, rfl, rfl, rfl, rfl, rfl, rfl, rfl⟩
      have hroom : (t.slot.gate d).2.room = t.slot.room := by rw [hgate]; rfl
      have hslot : t'.slot = Slot.processNetwork PRNG_TABLE t.slot stack d := hstep.slot
      unfold Slot.processNetwork at hslot
      dsimp only at hslot
      split at hslot
      · rename_i haccepted
        obtain ⟨hsync, hvoice⟩ := hmeets haccepted
        unfold voiceNetwork at hslot
        split at hslot
        · exact h.netHeader hstep hkept hslot
        · split at hslot
          · exact h.netPIHeader hstep hkept hslot
          · split at hslot
            · rename_i htype
              have hburst : (SlotCall.processNetwork stack d).isBurst := by
                rw [SlotCall.isBurst, decide_eq_true htype]
                rfl
              obtain ⟨hn, hzero⟩ := hstep.numbered stack d rfl hburst
              rw [hzero.mp htype] at hn
              exact h.netSync hstep hburst hkept (UInt8.toNat_inj.mp hn) (hsync htype) hslot
            · split at hslot
              · rename_i htype
                have hburst : (SlotCall.processNetwork stack d).isBurst := by
                  rw [SlotCall.isBurst, decide_eq_true htype, Bool.or_true]
                obtain ⟨hn, -⟩ := hstep.numbered stack d rfl hburst
                refine h.netVoice hstep hburst hkept hroom stack ?_ (hvoice htype) hslot
                rw [hn]
                exact Nat.mod_lt _ (by decide)
              · exact h.kept hstep (hslot ▸ hkept)
      · exact h.kept hstep (hslot ▸ hkept)

/-- A slot without a call of the network. -/
def Tracked.start (s : Slot) : Tracked := ⟨s, none, []⟩

/-- A burst with sync of talkgroup 9. -/
def syncBurst : NetData where
  dataType := DT_VOICE_SYNC
  n := 0
  FLCO := FLCO_GROUP
  srcId := 1
  dstId := 9
  data := fun _ => 0x00

/-- The slot and what was heard, behind a burst. -/
def Tracked.next (t : Tracked) (d : NetData) (place : Nat) : Tracked :=
  let s := Slot.processNetwork (fun _ => 0) t.slot (fun _ => 0x00) d
  ⟨s, some place, t.soFar ++ List.replicate (received s.netLog - t.logged) place⟩

end Slot

end Dmr

end DvmHost

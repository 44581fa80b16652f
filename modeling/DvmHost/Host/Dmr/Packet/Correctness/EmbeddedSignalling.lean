import DvmHost.Host.Dmr.Packet.Correctness.BurstMiddle
import DvmHost.Host.Dmr.Packet.Correctness.SuperframeOrder

/-!
# `Host.Dmr.Packet.Correctness.EmbeddedSignalling` — whose link control the bursts embed

The log of a direction says what belongs to its call: the link control that it started with, and the embedded data
received completely since. `Current` says that the three objects of a call hold nothing else, but for the one that is
being received; a burst with sync keeps it, and so does a fragment, unless it goes into an object that still holds the
link control (`Current.swap`, `Current.addData`). What a superframe shows is then one object (`NetCurrent`,
`RFCurrent`), and every call that meets the condition keeps that (`Inv.call`).
-/

namespace DvmHost

open Lib RPT_RF_STATE RPT_NET_STATE

namespace Dmr

open EmbeddedData (encodeMatrix columnPos)

/-! ## Objects and fragments -/

/-- The 72 bits of a link control. -/
def LC.payload (lc : LC) : Bits := lc.getBits fun _ => false

/-- An object holds a payload, coded in its 128 bits. -/
def Holds (e : EmbeddedData) (p : Bits) : Prop := ∀ a < 128, e.raw a = encodeMatrix p (columnPos a)

/-- A burst shows fragment `n` of an object. -/
def Shows (data : Bytes) (n : UInt8) (e : EmbeddedData) : Prop :=
  ∀ i < 32, readBit data (116 + i) = e.raw ((n - 1).toNat * 32 + i)

/-- **A burst embeds** fragment `n` of a payload. -/
def Embeds (data : Bytes) (n : UInt8) (p : Bits) : Prop :=
  ∀ i < 32, readBit data (116 + i) = encodeMatrix p (columnPos ((n - 1).toNat * 32 + i))

/-- The bits of fragments 1 to 4. -/
theorem fragment_lt {n : UInt8} (h1 : 1 ≤ n) (h5 : n < 5) {i : Nat} (hi : i < 32) : (n - 1).toNat * 32 + i < 128 := by
  have hall : ∀ v : BitVec 8, 1 ≤ UInt8.ofBitVec v → UInt8.ofBitVec v < 5 → (UInt8.ofBitVec v - 1).toNat < 4 := by
    decide +kernel
  have hlt := hall n.toBitVec h1 h5
  have hn : (n - 1).toNat < 4 := hlt
  omega

theorem Shows.embeds {data : Bytes} {n : UInt8} {e : EmbeddedData} {p : Bits} (h : Shows data n e) (hp : Holds e p)
    (h1 : 1 ≤ n) (h5 : n < 5) : Embeds data n p :=
  fun i hi => (h i hi).trans (hp _ (fragment_lt h1 h5 hi))

/-- A burst whose own embedded data is a fragment of what an object holds. -/
theorem Embeds.shows {data : Bytes} {n : UInt8} {e : EmbeddedData} {p : Bits} (h : Embeds data n p) (hp : Holds e p)
    (h1 : 1 ≤ n) (h5 : n < 5) : Shows data n e :=
  fun i hi => (h i hi).trans (hp _ (fragment_lt h1 h5 hi)).symm

theorem Shows.congr {data : Bytes} {n : UInt8} {e e' : EmbeddedData} (h : Shows data n e)
    (hsame : ∀ a < 128, e'.raw a = e.raw a) (h1 : 1 ≤ n) (h5 : n < 5) : Shows data n e' :=
  fun i hi => (h i hi).trans (hsame _ (fragment_lt h1 h5 hi)).symm

/-- What `getData` puts into a burst, with the word around it, shows the object. -/
theorem shows_encodeEMB (s : Slot) (emb : EMB) (e : EmbeddedData) (data : Bytes) {n : UInt8} (h1 : 1 ≤ n) (h5 : n < 5) :
    Shows (s.encodeEMB emb (e.getData data n)) n e := by
  intro i hi
  unfold Slot.encodeEMB
  rw [readBit_encodeEMB _ _ (by omega)]
  exact EmbeddedData.readBit_getData e data ⟨h1, h5⟩ hi

/-- A link control that is set is held. -/
theorem holds_setLC (e : EmbeddedData) (lc : LC) : Holds (e.setLC lc) lc.payload := by
  intro a ha
  unfold EmbeddedData.setLC
  rw [EmbeddedData.raw_encodeEmbeddedData _ ha]
  refine congrFun (EmbeddedData.encodeMatrix_congr fun b hb => ?_) _
  rw [LC.payload]
  exact (LC.getBits_apply lc e.data hb).trans (LC.getBits_apply lc _ hb).symm

/-- What is received completely is held. -/
theorem holds_finish {e : EmbeddedData} (h : e.finish.valid = true) : Holds e.finish e.finish.data := by
  unfold EmbeddedData.finish at h ⊢
  dsimp only at h ⊢
  split
  · intro a ha
    rw [EmbeddedData.raw_encodeEmbeddedData _ ha, (EmbeddedData.encodeEmbeddedData_frame _).2.2]
  · rename_i hinvalid
    rw [if_neg hinvalid] at h
    exact absurd h hinvalid

/-! ## What belongs to a call -/

/-- What belongs to a call, behind an event. -/
def ownAfter (own : List Bits) : VoiceEvent → List Bits
  | .started lc => [lc.payload]
  | .embedded data => own ++ [data]
  | _ => own

/-- **What belongs to the last call of a log**: its link control, and the embedded data received completely in it. -/
def own (log : List VoiceEvent) : List Bits := log.foldl ownAfter []

/-- The bursts of a superframe, behind an event; `pick` says which bursts are meant. -/
def superframeAfter (pick : VoiceEvent → Option (UInt8 × Bytes)) (bursts : List (UInt8 × Bytes)) :
    VoiceEvent → List (UInt8 × Bytes)
  | .started _ => []
  | .sync => []
  | event => bursts ++ (pick event).toList

/-- The bursts of the last superframe of a log. -/
def superframe (pick : VoiceEvent → Option (UInt8 × Bytes)) (log : List VoiceEvent) : List (UInt8 × Bytes) :=
  log.foldl (superframeAfter pick) []

/-- The bursts that are queued. -/
def queuedBurst : VoiceEvent → Option (UInt8 × Bytes)
  | .queued n data _ => some (n, data)
  | _ => none

/-- The bursts that are written to the network. -/
def writtenBurst : VoiceEvent → Option (UInt8 × Bytes)
  | .written n data => some (n, data)
  | _ => none

/-- **A superframe belongs to its call**: its bursts 1 to 4 embed fragments of one payload, of those of the call. -/
def Belongs (pick : VoiceEvent → Option (UInt8 × Bytes)) (log : List VoiceEvent) : Prop :=
  ∃ p, ∀ b ∈ superframe pick log, 1 ≤ b.1 → b.1 < 5 → p ∈ own log ∧ Embeds b.2 b.1 p

/-- **Embedded signalling belongs to the current call** when every superframe did, at every point of the log. -/
def Legitimate (pick : VoiceEvent → Option (UInt8 × Bytes)) (log : List VoiceEvent) : Prop :=
  ∀ earlier, earlier <+: log → Belongs pick earlier

/-- The bursts of the superframe so far embed what an object holds, and that is of the call. -/
def Steady (pick : VoiceEvent → Option (UInt8 × Bytes)) (log : List VoiceEvent) (e : EmbeddedData) : Prop :=
  ∃ p ∈ own log, Holds e p ∧ ∀ b ∈ superframe pick log, 1 ≤ b.1 → b.1 < 5 → Embeds b.2 b.1 p

/-- An event that starts a call or a superframe. -/
def VoiceEvent.isMark : VoiceEvent → Bool
  | .started _ => true
  | .sync => true
  | _ => false

section Log

variable (log : List VoiceEvent) (pick : VoiceEvent → Option (UInt8 × Bytes))

theorem own_append (events : List VoiceEvent) : own (log ++ events) = events.foldl ownAfter (own log) :=
  List.foldl_append

theorem superframe_append (events : List VoiceEvent) :
    superframe pick (log ++ events) = events.foldl (superframeAfter pick) (superframe pick log) := List.foldl_append

theorem own_started (lc : LC) : own (log ++ [.started lc]) = [lc.payload] := by rw [own_append]; rfl

theorem superframe_started (lc : LC) : superframe pick (log ++ [.started lc]) = [] := by
  rw [superframe_append]
  rfl

theorem own_sync : own (log ++ [.sync]) = own log := by rw [own_append]; rfl

theorem superframe_sync : superframe pick (log ++ [.sync]) = [] := by rw [superframe_append]; rfl

theorem own_embedded (e : Embedded) (complete : Bool) : own (log ++ Slot.embeddedEvent e complete) =
    own log ++ if complete then [(e.embeddedData e.writeN).data] else [] := by
  rw [own_append]
  cases complete
  · exact (List.append_nil _).symm
  · rfl

variable {log pick}

/-- What belongs to a call stays its own. -/
theorem own_subset {event : VoiceEvent} (h : event.isMark = false) : own log ⊆ own (log ++ [event]) := by
  rw [own_append]
  cases event with
  | started lc => exact nomatch h
  | embedded data => exact List.subset_append_left _ _
  | _ => exact fun _ hp => hp

theorem superframe_burst {event : VoiceEvent} (h : event.isMark = false) :
    superframe pick (log ++ [event]) = superframe pick log ++ (pick event).toList := by
  rw [superframe_append]
  cases event with
  | started lc => exact nomatch h
  | sync => exact nomatch h
  | _ => rfl

theorem Steady.belongs {e : EmbeddedData} (h : Steady pick log e) : Belongs pick log := by
  obtain ⟨p, hp, -, hall⟩ := h
  exact ⟨p, fun b hb h1 h5 => ⟨hp, hall b hb h1 h5⟩⟩

/-- A superframe in which nothing is sent yet. -/
theorem steady_nil {e : EmbeddedData} (hnone : superframe pick log = []) (h : ∃ p ∈ own log, Holds e p) :
    Steady pick log e := by
  obtain ⟨p, hp, hholds⟩ := h
  refine ⟨p, hp, hholds, ?_⟩
  rw [hnone]
  nofun

/-- **An event within a superframe**: if it brings a burst, this shows the object. -/
theorem Steady.append {e : EmbeddedData} (h : Steady pick log e) {event : VoiceEvent} (hmark : event.isMark = false)
    (hshow : ∀ b ∈ pick event, 1 ≤ b.1 → b.1 < 5 → Shows b.2 b.1 e) : Steady pick (log ++ [event]) e := by
  obtain ⟨p, hp, hholds, hall⟩ := h
  refine ⟨p, own_subset hmark hp, hholds, fun b hb h1 h5 => ?_⟩
  rw [superframe_burst hmark, List.mem_append, Option.mem_toList] at hb
  rcases hb with hbefore | hnew
  · exact hall b hbefore h1 h5
  · exact (hshow b hnew h1 h5).embeds hholds h1 h5

/-- An object with the same bits. -/
theorem Steady.congr {e e' : EmbeddedData} (h : Steady pick log e) (hsame : ∀ a < 128, e'.raw a = e.raw a) :
    Steady pick log e' := by
  obtain ⟨p, hp, hholds, hall⟩ := h
  exact ⟨p, hp, fun a ha => (hsame a ha).trans (hholds a ha), hall⟩

theorem Steady.append_embedded {e : EmbeddedData} (h : Steady pick log e) (hpick : ∀ data, pick (.embedded data) = none)
    (e' : Embedded) (complete : Bool) : Steady pick (log ++ Slot.embeddedEvent e' complete) e := by
  cases complete
  · rw [show Slot.embeddedEvent e' false = [] from rfl, List.append_nil]
    exact h
  · refine h.append rfl fun b hb => ?_
    rw [hpick] at hb
    exact nomatch hb

theorem Legitimate.append (h : Legitimate pick log) {event : VoiceEvent} (hb : Belongs pick (log ++ [event])) :
    Legitimate pick (log ++ [event]) := by
  intro earlier hearlier
  rcases List.prefix_concat_iff.mp hearlier with rfl | hbefore
  · exact hb
  · exact h earlier hbefore

/-- A superframe that starts shows nothing yet. -/
theorem Legitimate.mark (h : Legitimate pick log) {event : VoiceEvent} (hnone : superframe pick (log ++ [event]) = []) :
    Legitimate pick (log ++ [event]) := by
  refine h.append ⟨fun _ => false, ?_⟩
  rw [hnone]
  nofun

theorem Legitimate.append_embedded (h : Legitimate pick log) {e : EmbeddedData} (hsteady : Steady pick log e)
    (hpick : ∀ data, pick (.embedded data) = none) (e' : Embedded) (complete : Bool) :
    Legitimate pick (log ++ Slot.embeddedEvent e' complete) := by
  have hafter := hsteady.append_embedded hpick e' complete
  cases complete
  · rw [show Slot.embeddedEvent e' false = [] from rfl, List.append_nil]
    exact h
  · exact h.append hafter.belongs

end Log

/-! ## The objects of a call -/

/-- **The objects of a call** hold what belongs to it, and what is received is not what is shown. -/
structure Current (e : Embedded) (own : List Bits) : Prop where
  lc : ∃ p ∈ own, Holds e.embeddedLC p
  other : e.writeN = e.readN + 1
  held : ∀ i, (e.embeddedData i).valid = true → ∃ p ∈ own, Holds (e.embeddedData i) p

namespace Current

/-- The standby data of a call. -/
theorem standby (e : Embedded) (lc : LC) : Current (e.setLC lc).restart [lc.payload] where
  lc := ⟨_, List.mem_cons_self, holds_setLC _ lc⟩
  other := rfl
  held := fun i _ => ⟨_, List.mem_cons_self, holds_setLC _ lc⟩

/-- **A burst with sync** keeps the objects. -/
theorem swap {e : Embedded} {own : List Bits} (h : Current e own) : Current e.swap own where
  lc := h.lc
  other := by
    show e.writeN + 1 = e.readN + 1 + 1
    rw [h.other]
  held := by
    intro i hvalid
    by_cases hi : i = e.writeN + 1
    · subst hi
      have hreset : e.swap.embeddedData (e.writeN + 1) = (e.embeddedData (e.writeN + 1)).reset :=
        Function.update_self _ _ _
      rw [hreset] at hvalid
      exact nomatch hvalid
    · have hkeep : e.swap.embeddedData i = e.embeddedData i := Function.update_of_ne hi _ _
      rw [hkeep] at hvalid ⊢
      exact h.held i hvalid

/-- The one shown is not the one received. -/
theorem read_ne_write {e : Embedded} {own : List Bits} (h : Current e own) : e.readN ≠ e.writeN := by
  have hall : ∀ n : Fin 2, n ≠ n + 1 := by decide
  rw [h.other]
  exact hall e.readN

/-- A fragment leaves what is shown. -/
theorem source_addData {e : Embedded} {own : List Bits} (h : Current e own) (data : Bytes) (lcss : UInt8) :
    (e.addData data lcss).2.source = e.source := by
  have hread : (e.addData data lcss).2.embeddedData e.readN = e.embeddedData e.readN :=
    Function.update_of_ne h.read_ne_write _ _
  show (if ((e.addData data lcss).2.embeddedData e.readN).valid then (e.addData data lcss).2.embeddedData e.readN
    else e.embeddedLC) = e.source
  rw [hread]
  rfl

/-- An object in which nothing is being received, unless it is not valid. -/
def Clear (e : EmbeddedData) (lcss : UInt8) : Prop := e.valid = true → e.state = .none ∨ lcss = 1

/-- What a fragment makes of the object that it goes into. -/
theorem addData_held {e : EmbeddedData} {own : List Bits} (h : e.valid = true → ∃ p ∈ own, Holds e p) (data : Bytes)
    {lcss : UInt8} (hclear : Clear e lcss) (hvalid : (e.addData data lcss).2.valid = true) :
    ∃ p ∈ own ++ (if (e.addData data lcss).1 then [(e.addData data lcss).2.data] else []),
      Holds (e.addData data lcss).2 p := by
  by_cases h1 : lcss = 1
  · subst h1
    rw [EmbeddedData.addData_first] at hvalid
    exact nomatch hvalid
  · by_cases h3 : lcss = 3 ∧ (e.state = .first ∨ e.state = .second)
    · -- a middle fragment leaves the object as valid as it was
      exfalso
      obtain ⟨rfl, hstate⟩ := h3
      have hsame : (e.addData data 3).2.valid = e.valid := by
        rcases hstate with hfirst | hsecond
        · rw [EmbeddedData.addData_second hfirst]
        · rw [EmbeddedData.addData_third hsecond]
      rcases hclear (hsame.symm.trans hvalid) with hnone | hone
      · rcases hstate with hfirst | hsecond
        · rw [hnone] at hfirst
          exact nomatch hfirst
        · rw [hnone] at hsecond
          exact nomatch hsecond
      · exact absurd hone (by decide)
    · by_cases h2 : lcss = 2 ∧ e.state = .third
      · obtain ⟨rfl, hthird⟩ := h2
        have hflag : (e.addData data 2).1 = (e.addData data 2).2.valid := by
          unfold EmbeddedData.addData
          rw [if_neg (by decide), if_neg fun hc => absurd hc.1 (by decide), if_neg fun hc => absurd hc.1 (by decide),
            if_pos ⟨rfl, hthird⟩]
        rw [hflag, hvalid, if_pos rfl]
        refine ⟨_, List.mem_append_right _ List.mem_cons_self, ?_⟩
        rw [EmbeddedData.addData_last hthird] at hvalid ⊢
        exact holds_finish hvalid
      · have hignored : (e.addData data lcss).2 = e :=
          EmbeddedData.addData_ignored data h1
            (fun hthree => ⟨fun hf => h3 ⟨hthree, .inl hf⟩, fun hs => h3 ⟨hthree, .inr hs⟩⟩)
            (fun htwo hthird => h2 ⟨htwo, hthird⟩)
        rw [hignored] at hvalid ⊢
        obtain ⟨p, hp, hholds⟩ := h hvalid
        exact ⟨p, List.mem_append_left _ hp, hholds⟩

/-- **A fragment** keeps the objects, if it does not go into one that is valid and still waits for fragments. -/
theorem addData {e : Embedded} {own : List Bits} (h : Current e own) (data : Bytes) {lcss : UInt8}
    (hclear : Clear (e.embeddedData e.writeN) lcss) :
    Current (e.addData data lcss).2 (own ++
      if (e.addData data lcss).1 then [((e.addData data lcss).2.embeddedData e.writeN).data] else []) where
  lc := by
    obtain ⟨p, hp, hholds⟩ := h.lc
    exact ⟨p, List.mem_append_left _ hp, hholds⟩
  other := h.other
  held := by
    intro i hvalid
    have hwritten : (e.addData data lcss).2.embeddedData e.writeN =
        ((e.embeddedData e.writeN).addData data lcss).2 := Function.update_self _ _ _
    by_cases hi : i = e.writeN
    · subst hi
      rw [hwritten] at hvalid ⊢
      exact addData_held (h.held e.writeN) data hclear hvalid
    · have hkeep : (e.addData data lcss).2.embeddedData i = e.embeddedData i := Function.update_of_ne hi _ _
      rw [hkeep] at hvalid ⊢
      obtain ⟨p, hp, hholds⟩ := h.held i hvalid
      exact ⟨p, List.mem_append_left _ hp, hholds⟩

/-- More may belong to the call. -/
theorem mono {e : Embedded} {own own' : List Bits} (h : Current e own) (hsub : own ⊆ own') : Current e own' where
  lc := by
    obtain ⟨p, hp, hholds⟩ := h.lc
    exact ⟨p, hsub hp, hholds⟩
  other := h.other
  held := by
    intro i hvalid
    obtain ⟨p, hp, hholds⟩ := h.held i hvalid
    exact ⟨p, hsub hp, hholds⟩

/-- What is shown belongs to the call. -/
theorem source_holds {e : Embedded} {own : List Bits} (h : Current e own) : ∃ p ∈ own, Holds e.source p := by
  unfold Embedded.source
  split
  · rename_i hvalid
    exact h.held e.readN hvalid
  · exact h.lc

end Current

namespace Slot

/-! ## Calls of the network -/

/-- **A call of the network**: its objects, and the superframe that is being queued. -/
structure NetCurrent (s : Slot) : Prop where
  current : Current s.netEmbedded (own s.netLog)
  queued : Steady queuedBurst s.netLog s.netSource

/-- **What holds of the network's side**: all superframes belonged to their calls, and the call in progress is in order. -/
structure NetInv (s : Slot) : Prop where
  legitimate : Legitimate queuedBurst s.netLog
  call : s.netState = RS_NET_AUDIO → NetCurrent s

theorem NetCurrent.congr {s s' : Slot} (h : NetCurrent s) (hembedded : s'.netEmbedded = s.netEmbedded)
    (hlog : s'.netLog = s.netLog) (hlcOnly : s'.embeddedLCOnly = s.embeddedLCOnly) : NetCurrent s' := by
  refine ⟨?_, ?_⟩
  · rw [hembedded, hlog]
    exact h.current
  · unfold netSource
    rw [hembedded, hlog, hlcOnly]
    exact h.queued

/-- A step that leaves the call as it is, or ends it. -/
theorem NetInv.quiet {s s' : Slot} (h : NetInv s) (hembedded : s'.netEmbedded = s.netEmbedded)
    (hlog : s'.netLog = s.netLog) (hlcOnly : s'.embeddedLCOnly = s.embeddedLCOnly)
    (hcall : s'.netState = RS_NET_AUDIO → s.netState = RS_NET_AUDIO) : NetInv s' where
  legitimate := by
    rw [hlog]
    exact h.legitimate
  call := fun hstate => (h.call (hcall hstate)).congr hembedded hlog hlcOnly

theorem NetInv.kept {s s' : Slot} (h : NetInv s) (hkept : NetKept s s') : NetInv s' :=
  h.quiet hkept.netEmbedded hkept.netLog hkept.embeddedLCOnly fun hstate => hkept.netState.symm.trans hstate

/-- What the bursts of a call show belongs to it. -/
theorem netSource_holds {s : Slot} {own : List Bits} (h : Current s.netEmbedded own) : ∃ p ∈ own, Holds s.netSource p := by
  unfold netSource
  split
  · exact h.lc
  · exact h.source_holds

/-- **A call that starts** with objects that hold its link control. -/
theorem NetInv.started {s : Slot} (h : NetInv s) {e : Embedded} (lc : LC) (net : Bool) (he : Current e [lc.payload]) :
    NetInv (startNet { s with netEmbedded := e } lc net) := by
  obtain ⟨length, used, heq⟩ := startNet_eq { s with netEmbedded := e } lc net
  rw [heq]
  have hcurrent : Current e (own (s.netLog ++ [.started lc])) := by
    rw [own_started]
    exact he
  refine ⟨h.legitimate.mark (superframe_started _ _ lc), fun _ => ⟨hcurrent, ?_⟩⟩
  exact steady_nil (superframe_started _ _ lc) (netSource_holds (s := { s with netEmbedded := e }) hcurrent)

theorem NetInv.netHeader {s : Slot} (h : NetInv s) (d : NetData) : NetInv (s.netHeader d) := by
  unfold Slot.netHeader
  split
  · exact h
  · dsimp only
    split
    · exact h
    · exact h.started _ true (Current.standby s.netEmbedded _)

/-- **A privacy header** that starts a call finds the objects as they are. -/
theorem NetInv.netPIHeader {s : Slot} (h : NetInv s) (d : NetData)
    (hfresh : s.netState ≠ RS_NET_AUDIO → Current s.netEmbedded [(LC.new d.FLCO d.srcId d.dstId).payload]) :
    NetInv (s.netPIHeader d) := by
  unfold Slot.netPIHeader
  split
  · rename_i hidle
    dsimp only
    split
    · exact h
    · exact (h.started _ false (hfresh hidle)).kept (addFrames_netKept _ true 1)
  · exact h.kept (addFrames_netKept s true 1)

/-- **A burst** that shows what the call shows is queued, or not. -/
theorem NetCurrent.addNetBurst {s : Slot} (h : NetInv s) (hcall : NetCurrent s) {n : UInt8} {data : Bytes}
    (inserted : Bool) (hshow : 1 ≤ n → n < 5 → Shows data n s.netSource) :
    Legitimate queuedBurst (s.addNetBurst n data inserted).netLog ∧ NetCurrent (s.addNetBurst n data inserted) := by
  obtain ⟨length, used, log, heq, hlog⟩ := addNetBurst_eq s n data inserted
  rw [heq]
  rcases hlog with rfl | rfl
  · rw [List.append_nil]
    exact ⟨h.legitimate, hcall.congr rfl rfl rfl⟩
  · have hsteady : Steady queuedBurst (s.netLog ++ [.queued n data inserted]) s.netSource := by
      refine hcall.queued.append rfl fun b hb h1 h5 => ?_
      obtain rfl := Option.some.inj hb
      exact hshow h1 h5
    exact ⟨h.legitimate.append hsteady.belongs, hcall.current.mono (own_subset rfl), hsteady⟩

/-- The same bits in what the bursts show and in the link control. -/
def ShowsLC (s : Slot) : Prop := ∀ a < 128, s.netEmbedded.embeddedLC.raw a = s.netSource.raw a

/-- The number of the burst that is inserted in a turn, behind number `n`. -/
def turnNumber (n : UInt8) (turn : Nat) : UInt8 := (fun n => (n + 1) % 6)^[turn + 1] n

/-- **Bursts 1 to 4 that are inserted** show the link control; so do the others of the superframe then. -/
def Fillable (s : Slot) (n : UInt8) (count : Nat) : Prop :=
  ∀ turn < count, 1 ≤ turnNumber n turn → turnNumber n turn < 5 → s.ShowsLC

/-- What a burst that fills in shows. -/
theorem shows_fillerBurst (s : Slot) (data : Bytes) {n : UInt8} (h1 : 1 ≤ n) (h5 : n < 5) :
    Shows (s.fillerBurst n data) n s.netEmbedded.embeddedLC := by
  have hne : n ≠ 0 := by
    rintro rfl
    exact absurd h1 (by decide)
  unfold fillerBurst
  rw [if_neg hne]
  exact shows_encodeEMB s {} _ data h1 h5

/-- A superframe may start before a burst that fills in. -/
theorem NetCurrent.markSync {s : Slot} (h : NetInv s) (hcall : NetCurrent s) (n : UInt8) :
    Legitimate queuedBurst (s.markSync n).netLog ∧ NetCurrent (s.markSync n) := by
  rw [markSync_eq]
  split
  · have hcurrent : Current s.netEmbedded (own (s.netLog ++ [.sync])) := by
      rw [own_sync]
      exact hcall.current
    exact ⟨h.legitimate.mark (superframe_sync _ _), hcurrent, steady_nil (superframe_sync _ _) (netSource_holds hcurrent)⟩
  · rw [List.append_nil]
    exact ⟨h.legitimate, hcall⟩

/-- What a turn of the loop finds. -/
structure Filling (s : Slot) (count : Nat) (s' : Slot) : Prop where
  legitimate : Legitimate queuedBurst s'.netLog
  call : NetCurrent s'
  netState : s'.netState = s.netState
  netN : s'.netN = (fun n => (n + 1) % 6)^[count] s.netN
  netEmbedded : s'.netEmbedded = s.netEmbedded
  embeddedLCOnly : s'.embeddedLCOnly = s.embeddedLCOnly

/-- The frame that a turn takes changes nothing that matters here. -/
theorem Filling.nextFiller {s s' : Slot} {count : Nat} (h : Filling s count s') (lc : LC) (turn : Nat) (data : Bytes) :
    Filling s count (nextFiller lc turn (s', data)).1 := by
  obtain ⟨valid, hfiller⟩ : ∃ valid, (Slot.nextFiller lc turn (s', data)).1 = { s' with lastFrameValid := valid } :=
    nextFiller_eq lc turn (s', data)
  rw [hfiller]
  exact ⟨h.legitimate, h.call.congr rfl rfl rfl, h.netState, h.netN, h.netEmbedded, h.embeddedLCOnly⟩

/-- A burst that fills in, with the mark before it and the counts behind it. -/
theorem Filling.queue {s s' : Slot} {count : Nat} (h : Filling s count s') {n : UInt8}
    (hn : n = turnNumber s.netN count) (data : Bytes) (hfill : 1 ≤ n → n < 5 → s.ShowsLC) :
    Filling s (count + 1) (((s'.markSync n).addNetBurst n (s'.fillerBurst n data) true).countLost n) := by
  obtain ⟨hlegit, hcall⟩ := NetCurrent.markSync ⟨h.legitimate, fun _ => h.call⟩ h.call n
  have hmark := markSync_eq s' n
  generalize s'.markSync n = marked at hlegit hcall hmark ⊢
  have hembedded : marked.netEmbedded = s'.netEmbedded := by rw [hmark]
  have hsource : marked.netSource = s.netSource := by
    unfold netSource
    rw [hmark, ← h.netEmbedded, ← h.embeddedLCOnly]
  have hshow : 1 ≤ n → n < 5 → Shows (s'.fillerBurst n data) n marked.netSource := by
    intro h1 h5
    refine (shows_fillerBurst s' data h1 h5).congr (fun a ha => ?_) h1 h5
    rw [hsource, h.netEmbedded]
    exact (hfill h1 h5 a ha).symm
  obtain ⟨hlegit', hcall'⟩ := NetCurrent.addNetBurst ⟨hlegit, fun _ => hcall⟩ hcall true hshow
  obtain ⟨length, used, log, heq, -⟩ := addNetBurst_eq marked n (s'.fillerBurst n data) true
  generalize marked.addNetBurst n (s'.fillerBurst n data) true = queued at hlegit' hcall' heq ⊢
  refine ⟨hlegit', hcall'.congr rfl rfl rfl, ?_, ?_, ?_, ?_⟩
  · show queued.netState = _
    rw [heq, hmark]
    exact h.netState
  · exact hn.trans (Function.iterate_succ_apply _ _ _ ▸ rfl)
  · show queued.netEmbedded = _
    rw [heq, hmark]
    exact h.netEmbedded
  · show queued.embeddedLCOnly = _
    rw [heq, hmark]
    exact h.embeddedLCOnly

/-- A turn of the loop. -/
theorem Filling.insertOne {s s' : Slot} {count : Nat} (h : Filling s count s') (lc : LC) (data : Bytes)
    (hfill : 1 ≤ turnNumber s.netN count → turnNumber s.netN count < 5 → s.ShowsLC) :
    Filling s (count + 1) (insertOne lc count (s', data)).1 := by
  have hfiller := h.nextFiller lc count data
  unfold Slot.insertOne
  generalize Slot.nextFiller lc count (s', data) = sd at hfiller ⊢
  have hn : (sd.1.netN + 1) % 6 = turnNumber s.netN count := by
    rw [turnNumber, Function.iterate_succ_apply', ← hfiller.netN]
  dsimp only
  exact hfiller.queue hn sd.2 (hn ▸ hfill)

/-- **Filling in** shows the link control. -/
theorem NetCurrent.insertCount {s : Slot} (h : NetInv s) (hcall : NetCurrent s) (lc : LC) (stack : Bytes) {count : Nat}
    (hfill : s.Fillable s.netN count) : Filling s count (s.insertCount lc stack count) := by
  unfold Slot.insertCount
  generalize s.silence stack = data
  induction count with
  | zero => exact ⟨h.legitimate, hcall, rfl, rfl, rfl, rfl⟩
  | succ count ih =>
      rw [List.range_succ, List.foldl_append]
      have hbefore := ih fun turn hturn => hfill turn (Nat.lt_succ_of_lt hturn)
      exact hbefore.insertOne lc _ (hfill count (Nat.lt_succ_self count))

variable {PRNG_TABLE : Nat → Nat}

theorem NetInv.initialise {s : Slot} (h : NetInv s) (data : Bytes) : NetInv (s.initialise data) := by
  unfold Slot.initialise
  split
  · exact h.quiet rfl rfl rfl id
  · exact h

/-- **A burst with sync**: the objects change places, and a superframe starts. -/
theorem NetInv.netSyncBurst {s : Slot} (h : NetInv s) (haudio : s.netState = RS_NET_AUDIO) (lc : LC) (d : NetData) :
    NetInv (netSyncBurst PRNG_TABLE s lc d) := by
  unfold Slot.netSyncBurst
  lift_lets
  intro data s₁ s₂ s₃
  have hinit : NetInv s₁ := h.initialise data
  have hstate : s₁.netState = RS_NET_AUDIO := (initialise_members s data).2.2.2.2.trans haudio
  have hcall : NetCurrent s₁ := hinit.call hstate
  have hcurrent : Current s₁.netEmbedded.swap (own (s₁.netLog ++ [.sync])) := by
    rw [own_sync]
    exact hcall.current.swap
  have hlegit₂ : Legitimate queuedBurst s₂.netLog := hinit.legitimate.mark (superframe_sync _ _)
  have hcall₂ : NetCurrent s₂ := ⟨hcurrent, steady_nil (superframe_sync _ _) (netSource_holds (s := s₂) hcurrent)⟩
  have hadded : Legitimate queuedBurst s₃.netLog ∧ NetCurrent s₃ := by
    show Legitimate queuedBurst (if s₂.netTimeout then s₂ else s₂.addNetBurst 0 data false).netLog ∧
      NetCurrent (if s₂.netTimeout then s₂ else s₂.addNetBurst 0 data false)
    split
    · exact ⟨hlegit₂, hcall₂⟩
    · exact NetCurrent.addNetBurst ⟨hlegit₂, fun _ => hcall₂⟩ hcall₂ false fun h1 => absurd h1 (by decide)
  exact ⟨hadded.1, fun _ => hadded.2.congr rfl rfl rfl⟩

/-- A fragment that arrives leaves what the bursts show. -/
theorem netSource_receiveNet {s : Slot} (h : Current s.netEmbedded (own s.netLog)) (data : Bytes) :
    (s.receiveNet data).netSource = s.netSource := by
  show (if s.embeddedLCOnly then s.netEmbedded.embeddedLC else (s.netEmbedded.addData data _).2.source) = _
  rw [h.source_addData]
  rfl

/-- **The embedded data of a burst** goes into the object that is being received. -/
theorem NetInv.receiveNet {s : Slot} (h : NetInv s) (haudio : s.netState = RS_NET_AUDIO) (data : Bytes)
    (hclear : Current.Clear (s.netEmbedded.embeddedData s.netEmbedded.writeN) (EMB.decode data).LCSS) :
    NetInv (s.receiveNet data) := by
  have hcall := h.call haudio
  have hpick : ∀ data, queuedBurst (.embedded data) = none := fun _ => rfl
  refine ⟨h.legitimate.append_embedded hcall.queued hpick _ _, fun _ => ⟨?_, ?_⟩⟩
  · show Current _ (own (s.netLog ++ embeddedEvent _ _))
    rw [own_embedded]
    exact hcall.current.addData data hclear
  · rw [netSource_receiveNet hcall.current]
    exact hcall.queued.append_embedded hpick _ _

/-- What `insertSilence` leaves. -/
theorem NetInv.insertSilence {s : Slot} (h : NetInv s) (haudio : s.netState = RS_NET_AUDIO) (lc : LC)
    (stack data : Bytes) (n : UInt8) (hfill : n ≠ s.netN → s.Fillable s.netN (s.missing n)) :
    NetInv (s.insertSilence lc stack data n).2 ∧ (s.insertSilence lc stack data n).2.netState = RS_NET_AUDIO ∧
      (s.insertSilence lc stack data n).2.netSource = s.netSource := by
  unfold Slot.insertSilence
  split
  · exact ⟨h, haudio, rfl⟩
  · rename_i hne
    dsimp only
    split
    · exact ⟨h.quiet rfl rfl rfl id, haudio, rfl⟩
    · have hfilled := NetCurrent.insertCount h (h.call haudio) lc stack (hfill hne)
      generalize s.insertCount lc stack (s.missing n) = s' at hfilled ⊢
      refine ⟨⟨hfilled.legitimate, fun _ => hfilled.call.congr rfl rfl rfl⟩, hfilled.netState.trans haudio, ?_⟩
      unfold netSource
      rw [← hfilled.netEmbedded, ← hfilled.embeddedLCOnly]

/-- **A burst without sync**: what was lost before it is filled in, and it shows what the call shows. -/
theorem NetInv.netVoiceBurst {s : Slot} (h : NetInv s) (haudio : s.netState = RS_NET_AUDIO) (lc : LC) (stack : Bytes)
    (d : NetData)
    (hclear : Current.Clear (s.netEmbedded.embeddedData s.netEmbedded.writeN) (EMB.decode d.data).LCSS)
    (hfill : d.n ≠ s.lastN → s.Fillable s.lastN ({ s with netN := s.lastN }.missing d.n)) :
    NetInv (netVoiceBurst PRNG_TABLE s lc stack d) := by
  unfold Slot.netVoiceBurst
  lift_lets
  intro audio s₁ data inserted s₂
  have hreceived : NetInv s₁ := by
    refine h.receiveNet haudio audio ?_
    rw [show EMB.decode audio = EMB.decode d.data from decode_netAudio PRNG_TABLE lc d.data]
    exact hclear
  have hsource : s₁.netSource = s.netSource := netSource_receiveNet (h.call haudio).current audio
  have hinit : NetInv (s₁.initialise data) := hreceived.initialise data
  obtain ⟨hnetN, -, -, -, hstate⟩ := initialise_members s₁ data
  have hlastN : s₁.lastN = s.lastN := rfl
  have hsame : (s₁.initialise data).netSource = s₁.netSource ∧
      (s₁.initialise data).netEmbedded.embeddedLC = s.netEmbedded.embeddedLC := by
    unfold Slot.initialise
    split <;> exact ⟨rfl, rfl⟩
  have hfillable : d.n ≠ (s₁.initialise data).netN →
      (s₁.initialise data).Fillable (s₁.initialise data).netN ((s₁.initialise data).missing d.n) := by
    intro hne turn hturn h1 h5 a ha
    have hcount : (s₁.initialise data).missing d.n = ({ s with netN := s.lastN } : Slot).missing d.n := by
      unfold missing
      rw [hnetN, hlastN]
    rw [hnetN, hlastN] at hne h1 h5
    rw [hcount] at hturn
    rw [hsame.1, hsame.2, hsource]
    exact hfill hne turn hturn h1 h5 a ha
  obtain ⟨hinserted, hrunning, hshown⟩ :=
    hinit.insertSilence (hstate.trans haudio) lc stack data d.n hfillable
  have hadded : NetInv s₂ := by
    show NetInv (if inserted.1 ∧ !inserted.2.netTimeout then inserted.2.addNetBurst d.n data false else inserted.2)
    split
    · have hshow : 1 ≤ d.n → d.n < 5 → Shows data d.n inserted.2.netSource := by
        intro h1 h5
        rw [show inserted.2.netSource = s₁.netSource from hshown.trans hsame.1]
        exact shows_encodeEMB s₁ _ _ _ h1 h5
      obtain ⟨hlegit, hcall⟩ := NetCurrent.addNetBurst hinserted (hinserted.call hrunning) false hshow
      exact ⟨hlegit, fun _ => hcall⟩
    · exact hinserted
  exact hadded.quiet rfl rfl rfl id

/-- **The frames of the network that keep the embedded signalling.** -/
structure NetMeets (s : Slot) (d : NetData) : Prop where
  /-- A privacy header that starts a call finds its link control in the objects. -/
  fresh : d.dataType = DT_VOICE_PI_HEADER → s.netState ≠ RS_NET_AUDIO →
    Current s.netEmbedded [(LC.new d.FLCO d.srcId d.dstId).payload]
  /-- A fragment does not go into a valid object that still waits for one. -/
  clear : d.dataType = DT_VOICE → s.netState = RS_NET_AUDIO →
    Current.Clear (s.netEmbedded.embeddedData s.netEmbedded.writeN) (EMB.decode d.data).LCSS
  /-- Bursts 1 to 4 are inserted only while the link control is shown. -/
  fill : d.dataType = DT_VOICE → s.netState = RS_NET_AUDIO → d.n ≠ s.lastN →
    s.Fillable s.lastN ({ s with netN := s.lastN }.missing d.n)

/-- **A frame of the network** keeps the embedded signalling of the network's calls. -/
theorem NetInv.processNetwork {s : Slot} (h : NetInv s) (stack : Bytes) (d : NetData)
    (hmeets : (s.gate d).1 = true → NetMeets s d) : NetInv (processNetwork PRNG_TABLE s stack d) := by
  obtain ⟨rfTGHang, netTGHang, hgate⟩ := gate_eq s d
  unfold Slot.processNetwork
  dsimp only
  rw [hgate]
  have hgated : NetInv { s with rfTGHang := rfTGHang, netTGHang := netTGHang } := h.quiet rfl rfl rfl id
  split
  · rename_i haccepted
    have hm := hmeets haccepted
    unfold voiceNetwork
    split
    · exact hgated.netHeader d
    · split
      · rename_i htype
        exact hgated.netPIHeader d (hm.fresh htype)
      · split
        · unfold Slot.netSync
          split
          · rename_i s₁ lc henter
            rcases enterSync_cases henter with ⟨haudio, rfl⟩ | ⟨-, rfl⟩
            · exact hgated.netSyncBurst haudio lc d
            · have hstart := hgated.started lc false (Current.standby s.netEmbedded lc)
              exact hstart.netSyncBurst rfl lc d
          · exact hgated
        · split
          · rename_i htype
            unfold Slot.netVoice
            split
            · rename_i lc haudio _
              exact hgated.netVoiceBurst haudio lc stack d (hm.clear htype haudio) (hm.fill htype haudio)
            · exact hgated
          · exact hgated
  · exact hgated

/-- Filling in by the clock. -/
theorem NetInv.fillIn {s : Slot} (h : NetInv s) (stack : Bytes)
    (hfill : s.netState = RS_NET_AUDIO → s.Fillable s.netN s.jitterSlots) : NetInv (s.fillIn stack) := by
  unfold Slot.fillIn
  split
  · rename_i lc haudio _
    have hfilled := NetCurrent.insertCount h (h.call haudio) lc stack (hfill haudio)
    exact ⟨hfilled.legitimate, fun _ => hfilled.call⟩
  · exact h

/-! ## Calls of radios -/

/-- Where the embedded signalling of a burst that is queued comes from. -/
def rfSource (s : Slot) : EmbeddedData := if s.embeddedLCOnly then s.rfEmbedded.embeddedLC else s.rfEmbedded.source

/-- **A call of a radio**: its objects, and the superframe that is being written and queued. -/
structure RFCurrent (s : Slot) : Prop where
  current : Current s.rfEmbedded (own s.rfLog)
  written : Steady writtenBurst s.rfLog s.rfEmbedded.source
  queued : Steady queuedBurst s.rfLog s.rfSource

/-- All superframes belonged to their calls. -/
structure RFLegitimate (s : Slot) : Prop where
  written : Legitimate writtenBurst s.rfLog
  queued : Legitimate queuedBurst s.rfLog

/-- **What holds of the radios' side**: the superframes, and the call in progress. -/
structure RFInv (s : Slot) : Prop where
  legitimate : RFLegitimate s
  call : s.rfState = RS_RF_AUDIO → RFCurrent s

theorem RFLegitimate.congr {s s' : Slot} (h : RFLegitimate s) (hlog : s'.rfLog = s.rfLog) : RFLegitimate s' := by
  refine ⟨?_, ?_⟩
  · rw [hlog]
    exact h.written
  · rw [hlog]
    exact h.queued

theorem RFCurrent.congr {s s' : Slot} (h : RFCurrent s) (hembedded : s'.rfEmbedded = s.rfEmbedded)
    (hlog : s'.rfLog = s.rfLog) (hlcOnly : s'.embeddedLCOnly = s.embeddedLCOnly) : RFCurrent s' := by
  refine ⟨?_, ?_, ?_⟩
  · rw [hembedded, hlog]
    exact h.current
  · rw [hembedded, hlog]
    exact h.written
  · unfold rfSource
    rw [hembedded, hlog, hlcOnly]
    exact h.queued

/-- A step that leaves the call as it is, or ends it. -/
theorem RFInv.quiet {s s' : Slot} (h : RFInv s) (hembedded : s'.rfEmbedded = s.rfEmbedded) (hlog : s'.rfLog = s.rfLog)
    (hlcOnly : s'.embeddedLCOnly = s.embeddedLCOnly) (hcall : s'.rfState = RS_RF_AUDIO → s.rfState = RS_RF_AUDIO) :
    RFInv s' where
  legitimate := h.legitimate.congr hlog
  call := fun hstate => (h.call (hcall hstate)).congr hembedded hlog hlcOnly

theorem RFInv.kept {s s' : Slot} (h : RFInv s) (hkept : RFKept s s') : RFInv s' :=
  h.quiet hkept.rfEmbedded hkept.rfLog hkept.embeddedLCOnly fun hstate => hkept.rfState.symm.trans hstate

/-- What is queued of a call belongs to it. -/
theorem rfSource_holds {s : Slot} {own : List Bits} (h : Current s.rfEmbedded own) : ∃ p ∈ own, Holds s.rfSource p := by
  unfold rfSource
  split
  · exact h.lc
  · exact h.source_holds

/-- A superframe of a call in which nothing is sent yet. -/
theorem rfCurrent_mark {s : Slot} (hcurrent : Current s.rfEmbedded (own s.rfLog))
    (hnone : ∀ pick, superframe pick s.rfLog = []) : RFCurrent s :=
  ⟨hcurrent, steady_nil (hnone _) hcurrent.source_holds, steady_nil (hnone _) (rfSource_holds hcurrent)⟩

/-- **A call that starts.** -/
theorem RFLegitimate.startRF {s : Slot} (h : RFLegitimate s) (lc : LC) :
    RFLegitimate (s.startRF lc) ∧ RFCurrent (s.startRF lc) := by
  obtain ⟨length, used, heq⟩ := startRF_eq s lc
  rw [heq]
  refine ⟨⟨h.written.mark (superframe_started _ _ lc), h.queued.mark (superframe_started _ _ lc)⟩, ?_⟩
  refine rfCurrent_mark ?_ fun pick => superframe_started _ pick lc
  show Current (s.rfEmbedded.setLC lc).restart (own (s.rfLog ++ [.started lc]))
  rw [own_started]
  exact Current.standby s.rfEmbedded lc

/-- An event within a superframe of a call. -/
theorem RFCurrent.append {s s' : Slot} (hlegit : RFLegitimate s) (h : RFCurrent s) {event : VoiceEvent}
    (hmark : event.isMark = false) (hlog : s'.rfLog = s.rfLog ++ [event]) (hembedded : s'.rfEmbedded = s.rfEmbedded)
    (hlcOnly : s'.embeddedLCOnly = s.embeddedLCOnly)
    (hwritten : ∀ b ∈ writtenBurst event, 1 ≤ b.1 → b.1 < 5 → Shows b.2 b.1 s.rfEmbedded.source)
    (hqueued : ∀ b ∈ queuedBurst event, 1 ≤ b.1 → b.1 < 5 → Shows b.2 b.1 s.rfSource) :
    RFLegitimate s' ∧ RFCurrent s' := by
  have hw := h.written.append hmark hwritten
  have hq := h.queued.append hmark hqueued
  refine ⟨⟨?_, ?_⟩, ?_, ?_, ?_⟩
  · rw [hlog]
    exact hlegit.written.append hw.belongs
  · rw [hlog]
    exact hlegit.queued.append hq.belongs
  · rw [hlog, hembedded]
    exact h.current.mono (own_subset hmark)
  · rw [hlog, hembedded]
    exact hw
  · unfold rfSource
    rw [hlog, hembedded, hlcOnly]
    exact hq

/-- **The frames of a burst** that show what the call shows. -/
theorem RFCurrent.repeatBurst {s : Slot} (hlegit : RFLegitimate s) (h : RFCurrent s) {n : UInt8}
    {queued written : Bytes} (hwritten : 1 ≤ n → n < 5 → Shows written n s.rfEmbedded.source)
    (hqueued : 1 ≤ n → n < 5 → Shows queued n s.rfSource) :
    RFLegitimate (s.repeatBurst n queued written) ∧ RFCurrent (s.repeatBurst n queued written) := by
  have hadd : RFLegitimate (s.addRFBurst n queued) ∧ RFCurrent (s.addRFBurst n queued) ∧
      (s.addRFBurst n queued).rfEmbedded = s.rfEmbedded := by
    obtain ⟨length, used, log, heq, hlog⟩ := addRFBurst_eq s n queued
    rw [heq]
    rcases hlog with rfl | rfl
    · rw [List.append_nil]
      exact ⟨hlegit.congr rfl, h.congr rfl rfl rfl, rfl⟩
    · refine and_assoc.mp ⟨RFCurrent.append hlegit h rfl rfl rfl rfl (fun b hb => nomatch hb) fun b hb h1 h5 => ?_, rfl⟩
      obtain rfl := Option.some.inj hb
      exact hqueued h1 h5
  have hwrite : ∀ s' : Slot, RFLegitimate s' → RFCurrent s' → s'.rfEmbedded = s.rfEmbedded →
      RFLegitimate (s'.writeNetwork n written) ∧ RFCurrent (s'.writeNetwork n written) := by
    intro s' hlegit' h' hembedded
    obtain ⟨log, heq, hlog⟩ := writeNetwork_eq s' n written
    rw [heq]
    rcases hlog with rfl | rfl
    · rw [List.append_nil]
      exact ⟨hlegit', h'⟩
    · refine RFCurrent.append hlegit' h' rfl rfl rfl rfl (fun b hb h1 h5 => ?_) (fun b hb => nomatch hb)
      obtain rfl := Option.some.inj hb
      rw [hembedded]
      exact hwritten h1 h5
  unfold Slot.repeatBurst
  split
  · exact hwrite _ hadd.1 hadd.2.1 hadd.2.2
  · exact hwrite s hlegit h rfl

theorem RFInv.processHeader {s : Slot} (h : RFInv s) (data : Bytes) : RFInv (s.processHeader data).2 := by
  unfold Slot.processHeader
  split
  · exact h
  · split
    · exact h
    · rename_i lc _
      split
      · exact h.quiet rfl rfl rfl nofun
      · split
        · exact h.quiet rfl rfl rfl nofun
        · obtain ⟨hlegit, hcall⟩ := h.legitimate.startRF lc
          exact ⟨hlegit.congr rfl, fun _ => hcall.congr rfl rfl rfl⟩

theorem RFInv.processPIHeader {s : Slot} (h : RFInv s) : RFInv s.processPIHeader.2 := by
  unfold Slot.processPIHeader
  split
  · exact h
  · dsimp only
    split
    · exact h.kept (addFrames_rfKept s false 1)
    · exact h

/-- **A burst with sync**: the objects change places, and a superframe starts. -/
theorem RFInv.processSync {s : Slot} (h : RFInv s) (haudio : s.rfState = RS_RF_AUDIO) (lc : LC) (data : Bytes) :
    RFInv (processSync PRNG_TABLE s lc data).2 := by
  unfold Slot.processSync
  lift_lets
  intro data' s'
  have hlegit : RFLegitimate s' := ⟨h.legitimate.written.mark (superframe_sync _ _),
    h.legitimate.queued.mark (superframe_sync _ _)⟩
  have hcall : RFCurrent s' := by
    refine rfCurrent_mark ?_ fun pick => superframe_sync _ pick
    show Current s.rfEmbedded.swap (own (s.rfLog ++ [.sync]))
    rw [own_sync]
    exact (h.call haudio).current.swap
  split
  · obtain ⟨hlegit', hcall'⟩ : RFLegitimate (s'.repeatBurst 0 data' data') ∧ RFCurrent (s'.repeatBurst 0 data' data') :=
      RFCurrent.repeatBurst hlegit hcall (fun h1 => absurd h1 (by decide)) (fun h1 => absurd h1 (by decide))
    exact ⟨hlegit', fun _ => hcall'⟩
  · exact ⟨hlegit, fun _ => hcall⟩

/-- **The embedded data of a burst** goes into the object that is being received. -/
theorem RFInv.receiveRF {s : Slot} (h : RFInv s) (haudio : s.rfState = RS_RF_AUDIO) (lc : LC) (data : Bytes)
    (hclear : Current.Clear (s.rfEmbedded.embeddedData s.rfEmbedded.writeN) (EMB.decode data).LCSS) :
    RFLegitimate (s.receiveRF lc data) ∧ RFCurrent (s.receiveRF lc data) := by
  have hcall := h.call haudio
  have hpickW : ∀ data, writtenBurst (.embedded data) = none := fun _ => rfl
  have hpickQ : ∀ data, queuedBurst (.embedded data) = none := fun _ => rfl
  have hsource := hcall.current.source_addData data (EMB.decode data).LCSS
  have hrfSource : (s.receiveRF lc data).rfSource = s.rfSource := by
    show (if s.embeddedLCOnly then s.rfEmbedded.embeddedLC else (s.rfEmbedded.addData data _).2.source) = _
    rw [hsource]
    rfl
  refine ⟨⟨h.legitimate.written.append_embedded hcall.written hpickW _ _,
    h.legitimate.queued.append_embedded hcall.queued hpickQ _ _⟩, ?_, ?_, ?_⟩
  · show Current _ (own (s.rfLog ++ embeddedEvent _ _))
    rw [own_embedded]
    exact hcall.current.addData data hclear
  · show Steady writtenBurst _ (s.rfEmbedded.addData data _).2.source
    rw [hsource]
    exact hcall.written.append_embedded hpickW _ _
  · rw [hrfSource]
    exact hcall.queued.append_embedded hpickQ _ _

/-- **A burst without sync** shows what the call shows. -/
theorem RFInv.processBurst {s : Slot} (h : RFInv s) (haudio : s.rfState = RS_RF_AUDIO) (lc : LC) (control : UInt8)
    (data : Bytes) (hclear : control &&& 0x0F ≤ 5 → control &&& 0x0F = s.lastRfN + 1 →
      Current.Clear (s.rfEmbedded.embeddedData s.rfEmbedded.writeN) (EMB.decode data).LCSS) :
    RFInv (processBurst PRNG_TABLE s lc control data).2 := by
  unfold Slot.processBurst
  lift_lets
  intro n s₁ audio emb s₂ written queued
  have hskipped : RFInv s₁ := h.quiet rfl rfl rfl id
  split
  · exact hskipped
  · rename_i hrange
    split
    · exact hskipped
    · split
      · exact hskipped
      · rename_i hnext
        have hnumbered : RFInv { s with rfN := n, lastRfN := n } := h.quiet rfl rfl rfl id
        have hmiddle := (regenerateAudio_middle PRNG_TABLE s₁ lc data).1
        have hclear' : Current.Clear (s.rfEmbedded.embeddedData s.rfEmbedded.writeN) (EMB.decode audio).LCSS := by
          rw [show EMB.decode audio = EMB.decode data from hmiddle]
          exact hclear (UInt8.not_lt.mp hrange) (Decidable.not_not.mp hnext)
        obtain ⟨hlegit, hcall⟩ : RFLegitimate s₂ ∧ RFCurrent s₂ := hnumbered.receiveRF haudio lc audio hclear'
        have hwritten : 1 ≤ n → n < 5 → Shows written n s₂.rfEmbedded.source := fun h1 h5 =>
          shows_encodeEMB s₂ emb _ audio h1 h5
        have hqueued : 1 ≤ n → n < 5 → Shows queued n s₂.rfSource := by
          intro h1 h5
          unfold rfSource
          show Shows (if s₂.embeddedLCOnly then _ else written) n _
          split
          · exact shows_encodeEMB s₂ emb _ written h1 h5
          · exact hwritten h1 h5
        split
        · obtain ⟨hlegit', hcall'⟩ := RFCurrent.repeatBurst hlegit hcall hwritten hqueued
          exact ⟨hlegit', fun _ => hcall'⟩
        · exact ⟨hlegit, fun _ => hcall⟩

/-- **The first burst of a call that is joined late** carries a fragment of the link control itself. -/
theorem RFInv.enterLate {s : Slot} (h : RFLegitimate s) (hwaiting : s.rfState ≠ RS_RF_AUDIO) (lc : LC)
    (control : UInt8) (data : Bytes)
    (hown : 1 ≤ control &&& 0x0F → control &&& 0x0F < 5 → Embeds data (control &&& 0x0F) lc.payload) :
    RFInv (enterLate PRNG_TABLE s lc control data).2 := by
  obtain ⟨hlegit, hcall⟩ := h.startRF lc
  obtain ⟨length, used, heq⟩ := startRF_eq s lc
  unfold Slot.enterLate
  lift_lets
  intro n s₀ s₁ audio s₂
  have hskipped : RFInv s₁ := by
    refine ⟨hlegit.congr rfl, fun hstate => absurd ?_ hwaiting⟩
    exact (show s.rfState = s₁.rfState by
      show s.rfState = s₀.rfState
      rw [show s₀ = _ from heq]).trans hstate
  split
  · exact hskipped
  · split
    · exact hskipped
    · have hembeds : 1 ≤ n → n < 5 → Embeds audio n lc.payload := by
        intro h1 h5 i hi
        have hmiddle := (regenerateAudio_middle PRNG_TABLE s₁ lc ((EMB.decode data).encode data)).2
        rw [show readBit audio (116 + i) = _ from hmiddle _ (by omega) (by omega),
          readBit_encodeEMB _ _ (by omega)]
        exact hown h1 h5 i hi
      have hembedded : s₀.rfEmbedded = (s.rfEmbedded.setLC lc).restart := by rw [show s₀ = _ from heq]
      have hsource : Holds s₀.rfEmbedded.source lc.payload := by
        rw [hembedded]
        exact holds_setLC _ lc
      have hrfSource : Holds s₀.rfSource lc.payload := by
        unfold rfSource
        split
        · rw [hembedded]
          exact holds_setLC _ lc
        · exact hsource
      have hlegit₁ : RFLegitimate { s₁ with lastRfN := n } := hlegit.congr rfl
      have hcall₁ : RFCurrent { s₁ with lastRfN := n } := hcall.congr rfl rfl rfl
      obtain ⟨hlegit₂, hcall₂⟩ : RFLegitimate s₂ ∧ RFCurrent s₂ := RFCurrent.repeatBurst hlegit₁ hcall₁
        (fun h1 h5 => (hembeds h1 h5).shows hsource h1 h5) (fun h1 h5 => (hembeds h1 h5).shows hrfSource h1 h5)
      exact ⟨hlegit₂.congr rfl, fun _ => hcall₂.congr rfl rfl rfl⟩

theorem RFInv.processLateEntry {s : Slot} (h : RFInv s) (hwaiting : s.rfState = RS_RF_LATE_ENTRY) (control : UInt8)
    (data : Bytes)
    (hown : ∀ lc, (s.collectLC data).rfEmbedded.embeddedLC.getLC = some lc →
      1 ≤ control &&& 0x0F → control &&& 0x0F < 5 → Embeds data (control &&& 0x0F) lc.payload) :
    RFInv (processLateEntry PRNG_TABLE s control data).2 := by
  have hidle : s.rfState ≠ RS_RF_AUDIO := by
    rw [hwaiting]
    nofun
  unfold Slot.processLateEntry
  split
  · exact h
  · lift_lets
    intro s'
    have hcollected : RFLegitimate s' := h.legitimate.congr rfl
    split
    · exact ⟨hcollected, fun hstate => absurd hstate hidle⟩
    · rename_i lc hlc
      split
      · exact ⟨hcollected.congr rfl, nofun⟩
      · split
        · exact ⟨hcollected.congr rfl, nofun⟩
        · exact RFInv.enterLate hcollected hidle lc control data (hown lc hlc)

/-- **The frames of a radio that keep the embedded signalling.** -/
structure RFMeets (s : Slot) (control : UInt8) (data : Bytes) : Prop where
  /-- A fragment does not go into a valid object that still waits for one. -/
  clear : s.rfState = RS_RF_AUDIO → control &&& 0x0F ≤ 5 → control &&& 0x0F = s.lastRfN + 1 →
    Current.Clear (s.rfEmbedded.embeddedData s.rfEmbedded.writeN) (EMB.decode data).LCSS
  /-- The first burst of a call that is joined late carries a fragment of its link control. -/
  own : s.rfState = RS_RF_LATE_ENTRY → ∀ lc, (s.collectLC data).rfEmbedded.embeddedLC.getLC = some lc →
    1 ≤ control &&& 0x0F → control &&& 0x0F < 5 → Embeds data (control &&& 0x0F) lc.payload

/-- A burst without sync. -/
def isBurst (control : UInt8) : Prop :=
  control &&& DMR_SYNC_DATA ≠ DMR_SYNC_DATA ∧ control &&& DMR_SYNC_VOICE ≠ DMR_SYNC_VOICE

/-- **A frame of a radio** keeps the embedded signalling of the radios' calls. -/
theorem RFInv.process {s : Slot} (h : RFInv s) (control : UInt8) (data : Bytes)
    (hmeets : isBurst control → RFMeets s control data) : RFInv (process PRNG_TABLE s control data).2 := by
  unfold Slot.process
  split
  · dsimp only
    split
    · exact h.processHeader data
    · split
      · exact h.processPIHeader
      · exact h
  · rename_i hvoice
    split
    · rename_i lc haudio _
      split
      · exact h.processSync haudio lc data
      · rename_i hburst
        exact h.processBurst haudio lc control data ((hmeets ⟨hvoice, hburst⟩).clear haudio)
    · split
      · exact ⟨h.legitimate.congr rfl, nofun⟩
      · exact h
    · rename_i hwaiting
      split
      · exact h
      · rename_i hburst
        exact h.processLateEntry hwaiting control data ((hmeets ⟨hvoice, hburst⟩).own hwaiting)
    · exact h

/-! ## Runs -/

/-- The slot behind a frame of the network. -/
def heard (s : Slot) (d : NetData) : Slot := s.processNetwork (fun _ => 0) (fun _ => 0x00) d

/-- A slot on which a call has ended. -/
def ended : Slot := { (new 5000).heard syncBurst with netState := RS_NET_IDLE }

end Slot

end Dmr

end DvmHost

import DvmHost.Fne.Network.Fne.TagDMRData
import DvmHost.Fne.Network.Fne.TagNXDNData
import DvmHost.Fne.Network.Fne.TagP25Data
import DvmHost.Lib.Arbiter
import DvmHost.Lib.Run

/-!
# `Fne.Network.Fne.Correctness.CallArbitration` — the tables of calls against the arbiter

The arbiter of `Lib.Arbiter` sees the admitted frames of a handler: its places are the talkgroups, for DMR with the
slot. A handler arbitrates a run when its table follows the arbiter in every state and no frame that may not pass is
repeated. The frames under which it does are `Fair`; what the others do is said there.
-/

namespace DvmHost

open Lib Arbiter

/-! ## Runs of a handler -/

/-- A call of `processFrame`. -/
structure FrameCall where
  ctx : TrafficContext
  data : Bytes
  peerId : UInt32
  streamId : UInt32

section Handler

variable {K S : Type} [DecidableEq K]

/-- The calls that the arbiter knows, by the place. -/
abbrev CallsBy (K : Type) := Calls K UInt32 UInt32

/-- A handler and the arbiter side by side; a frame that is not admitted has no signal. -/
def watch (process : UnorderedMap UInt32 S → FrameCall → Processed S)
    (signal : FrameCall → Option (Signal K UInt32 UInt32)) (s : UnorderedMap UInt32 S × CallsBy K)
    (i : FrameCall) : UnorderedMap UInt32 S × CallsBy K :=
  ((process s.1 i).m_status, (signal i).elim s.2 (next s.2))

/-- The table shows the calls in progress, has one entry for each, and none for a destination without a call. -/
structure Tracks (entry : UnorderedMap UInt32 S → K → Option (Call UInt32 UInt32)) (dst : K → UInt32)
    (m_status : UnorderedMap UInt32 S) (calls : CallsBy K) : Prop where
  follows : Follows (entry m_status) m_status.keys.length calls
  vacant : ∀ d, (∀ k, dst k = d → calls.lookup k = none) → m_status.lookup d = none

/-- A frame that may not pass goes to no peer. -/
def HoldsBack (process : UnorderedMap UInt32 S → FrameCall → Processed S)
    (signal : FrameCall → Option (Signal K UInt32 UInt32)) (s : UnorderedMap UInt32 S × CallsBy K)
    (i : FrameCall) : Prop :=
  ∀ f, signal i = some f → ¬ MayPass s.2 f → (process s.1 i).Dropped

/-- **Call arbitration** of a handler over the frames it is given from its start on. -/
def Arbitrated (process : UnorderedMap UInt32 S → FrameCall → Processed S)
    (signal : FrameCall → Option (Signal K UInt32 UInt32))
    (entry : UnorderedMap UInt32 S → K → Option (Call UInt32 UInt32)) (dst : K → UInt32)
    (frames : List FrameCall) : Prop :=
  States (fun s => Tracks entry dst s.1 s.2) (∅, ∅) (trace (watch process signal) (∅, ∅) frames) ∧
    Guarded (HoldsBack process signal) (∅, ∅) (trace (watch process signal) (∅, ∅) frames)

/-- The fair frames of a run: the run is one of the handler alone. -/
def FairRun {K S : Type} (process : UnorderedMap UInt32 S → FrameCall → Processed S)
    (signal : FrameCall → Option (Signal K UInt32 UInt32))
    (fair : UnorderedMap UInt32 S → FrameCall → Signal K UInt32 UInt32 → Prop) (frames : List FrameCall) : Prop :=
  Guarded (fun m_status i => ∀ f, signal i = some f → fair m_status i f) ∅
    (trace (fun m_status i => (process m_status i).m_status) ∅ frames)

/-- What a handler does with a frame, under an invariant of its table: a frame that is not admitted is dropped, and
    the others follow the arbiter exactly when they are fair. -/
structure Handles {K S : Type} [DecidableEq K] (process : UnorderedMap UInt32 S → FrameCall → Processed S)
    (signal : FrameCall → Option (Signal K UInt32 UInt32))
    (entry : UnorderedMap UInt32 S → K → Option (Call UInt32 UInt32)) (dst : K → UInt32)
    (Inv : UnorderedMap UInt32 S → Prop)
    (fair : UnorderedMap UInt32 S → FrameCall → Signal K UInt32 UInt32 → Prop) : Prop where
  refused : ∀ m_status i, signal i = none → (process m_status i).m_status = m_status
  keeps : ∀ m_status calls i f, Inv m_status → Tracks entry dst m_status calls → signal i = some f →
    fair m_status i f → (Inv (process m_status i).m_status ∧
      Tracks entry dst (process m_status i).m_status (next calls f)) ∧
      (¬ MayPass calls f → (process m_status i).Dropped)
  breaks : ∀ m_status calls i f, Inv m_status → Tracks entry dst m_status calls → signal i = some f →
    Tracks entry dst (process m_status i).m_status (next calls f) →
      (¬ MayPass calls f → (process m_status i).Dropped) → fair m_status i f

/-- A handler arbitrates exactly the runs of fair frames. -/
theorem Handles.guarded_iff {K S : Type} [DecidableEq K]
    {process : UnorderedMap UInt32 S → FrameCall → Processed S}
    {signal : FrameCall → Option (Signal K UInt32 UInt32)}
    {entry : UnorderedMap UInt32 S → K → Option (Call UInt32 UInt32)} {dst : K → UInt32}
    {Inv : UnorderedMap UInt32 S → Prop}
    {fair : UnorderedMap UInt32 S → FrameCall → Signal K UInt32 UInt32 → Prop}
    (h : Handles process signal entry dst Inv fair) (hinv : Inv ∅) (htracks : Tracks entry dst ∅ ∅)
    (frames : List FrameCall) :
    Arbitrated process signal entry dst frames ↔ FairRun process signal fair frames := by
  have hmap : Guarded (fun s i => ∀ f, signal i = some f → fair s.1 i f) (∅, ∅)
      (trace (watch process signal) (∅, ∅) frames) ↔ FairRun process signal fair frames :=
    guarded_trace_map (π := fun s => s.1) (fun _ _ => rfl)
      (fun m_status i => ∀ f, signal i = some f → fair m_status i f) frames (∅, ∅)
  refine Iff.trans ?_ hmap
  have hrun : Run (fun s i s' => watch process signal s i = s') (∅, ∅)
      (trace (watch process signal) (∅, ∅) frames) := run_trace (fun _ _ => rfl) frames (∅, ∅)
  refine hrun.states_and_guarded_iff (I := fun s => Inv s.1) ?_ ?_ hinv htracks
  · intro s i s' hI hP hfair hstep
    subst hstep
    unfold watch HoldsBack
    cases hsig : signal i with
    | none =>
        rw [Option.elim_none, h.refused s.1 i hsig]
        exact ⟨⟨hI, hP⟩, fun f hf => absurd hf (by simp)⟩
    | some f =>
        obtain ⟨hkept, hdrop⟩ := h.keeps s.1 s.2 i f hI hP hsig (hfair f hsig)
        refine ⟨hkept, fun f' hf' => ?_⟩
        rw [← Option.some.inj hf']
        exact hdrop
  · intro s i s' hI hP hstep hP' hback f hsig
    subst hstep
    unfold watch at hP'
    rw [hsig] at hP'
    exact h.breaks s.1 s.2 i f hI hP hsig hP' (hback f hsig)

end Handler

/-! ## The table of P25 and NXDN -/

namespace RxStatus

/-- The call that an entry shows. -/
def call (v : RxStatus) : Call UInt32 UInt32 := { source := v.srcId, stream := v.streamId }

/-- The call that the search of the table finds. -/
def entry (m_status : UnorderedMap UInt32 RxStatus) (dstId : UInt32) : Option (Call UInt32 UInt32) :=
  (find m_status dstId).map call

/-- What a frame of a signal does to the table, and whether it collides. -/
def handle (m_status : UnorderedMap UInt32 RxStatus) (f : Signal UInt32 UInt32 UInt32) :
    UnorderedMap UInt32 RxStatus × Bool :=
  match f.kind with
  | .closing => (endCall m_status f.key, false)
  | .opening _ => startCall m_status f.source f.key f.stream
  | .voice => (m_status, false)
  | .other => (m_status, false)

/-- **The frames of P25 and NXDN under which the table follows the arbiter.** A terminator is of the stream of the
    call, and without a call only of the destination zero: it leaves an empty entry otherwise. Voice of another stream
    and another source is recognised by a source of the call that is not zero. -/
def Fair (m_status : UnorderedMap UInt32 RxStatus) (f : Signal UInt32 UInt32 UInt32)
    (targets : List UInt32 × List UInt32) : Prop :=
  match f.kind, m_status.lookup f.key with
  | .closing, some v => f.stream = v.streamId
  | .closing, none => f.key = 0
  | .opening voice, some v => voice = true →
      f.stream = v.streamId ∨ f.source = v.srcId ∨ v.srcId ≠ 0 ∨ targets = ([], [])
  | .voice, some v => f.stream = v.streamId ∨ f.source = v.srcId ∨ targets = ([], [])
  | _, _ => True

/-- Every entry is under its own destination. -/
abbrev Keyed (m_status : UnorderedMap UInt32 RxStatus) : Prop := UnorderedMap.KeyedBy RxStatus.dstId m_status

section Keyed

variable {m_status : UnorderedMap UInt32 RxStatus} {calls : CallsBy UInt32} {f : Signal UInt32 UInt32 UInt32}

/-- In a keyed table the search by the field is the lookup by the key. -/
theorem find_eq (h : Keyed m_status) (dstId : UInt32) : find m_status dstId = m_status.lookup dstId := by
  have hfilter := h.find?_eq (fun _ => true) dstId
  simp only [Bool.and_true] at hfilter
  rw [find, hfilter]
  cases m_status.lookup dstId with
  | none => rfl
  | some v => rfl

theorem entry_eq (h : Keyed m_status) (dstId : UInt32) : entry m_status dstId = (m_status.lookup dstId).map call := by
  rw [entry, find_eq h]

theorem tracks_of_follows (h : Keyed m_status) (hfollows : Follows (entry m_status) m_status.keys.length calls) :
    Tracks entry id m_status calls := by
  refine ⟨hfollows, fun d hfree => ?_⟩
  have hentry := (hfollows.entry_eq d).trans (hfree d rfl)
  rw [entry_eq h, Option.map_eq_none_iff] at hentry
  exact hentry

/-- The end of a call that is entered. -/
theorem endCall_of_call (h : Keyed m_status) {d : UInt32} {v : RxStatus} (hv : m_status.lookup d = some v) :
    endCall m_status d = m_status.erase d := by
  unfold endCall touch
  rw [hv]
  dsimp only
  rw [find_eq h, hv]
  rfl

/-- The end of a call that is not entered: an entry of the destination zero is left, except under that. -/
theorem endCall_of_free (h : Keyed m_status) {d : UInt32} (hfree : m_status.lookup d = none) :
    endCall m_status d = if d = 0 then (m_status.insert d default).erase d else m_status.insert d default := by
  unfold endCall touch
  rw [hfree]
  dsimp only
  by_cases hd : d = 0
  · have hkeyed : Keyed (m_status.insert d default) := h.insert hd.symm
    rw [if_pos hd, find_eq hkeyed, AList.lookup_insert]
    rfl
  · have hnone : find (m_status.insert d default) d = none := by
      unfold find
      rw [Option.map_eq_none_iff, List.find?_eq_none]
      intro x hx
      have hlookup := AList.mem_lookup_iff.mpr hx
      rw [UnorderedMap.lookup_insert_ite] at hlookup
      split at hlookup
      · rw [← Option.some.inj hlookup]
        exact fun h0 => hd (of_decide_eq_true h0).symm
      · next hne => simpa [h x.1 x.2 hlookup] using hne
    rw [if_neg hd, hnone]
    rfl

/-- A frame of a call that is entered leaves the table. -/
theorem startCall_of_call (h : Keyed m_status) {d : UInt32} {v : RxStatus} (hv : m_status.lookup d = some v)
    (srcId streamId : UInt32) :
    startCall m_status srcId d streamId =
      (m_status, decide (streamId ≠ v.streamId ∧ v.srcId ≠ 0 ∧ v.srcId ≠ srcId)) := by
  unfold startCall touch
  rw [find_eq h, hv]
  rfl

/-- A frame of a free destination is entered. -/
theorem startCall_of_free (h : Keyed m_status) {d : UInt32} (hfree : m_status.lookup d = none)
    (srcId streamId : UInt32) :
    startCall m_status srcId d streamId = (m_status.insert d { srcId, dstId := d, streamId }, false) := by
  unfold startCall
  rw [find_eq h, hfree]

/-- **A fair frame is handled as the arbiter does it.** -/
theorem handle_follows (h : Keyed m_status) (hfollows : Follows (entry m_status) m_status.keys.length calls)
    {targets : List UInt32 × List UInt32} (hfair : Fair m_status f targets) :
    Keyed (handle m_status f).1 ∧
      Follows (entry (handle m_status f).1) (handle m_status f).1.keys.length (next calls f) := by
  have hentry := entry_eq h
  unfold Fair at hfair
  unfold handle
  cases hkind : f.kind with
  | closing =>
      cases hv : m_status.lookup f.key with
      | none =>
          rw [hkind, hv] at hfair
          -- the entry that is created and found at once is erased at once
          have hkeyed : Keyed (m_status.insert f.key default) := h.insert hfair.symm
          have hend := endCall_of_free h hv
          rw [if_pos hfair] at hend
          rw [hend]
          have hmem : f.key ∉ m_status.keys := by
            rw [UnorderedMap.mem_keys_iff_lookup, hv]
            simp
          have hin : f.key ∈ (m_status.insert f.key default).keys :=
            (UnorderedMap.mem_keys_iff_lookup _ _).mpr ⟨default, AList.lookup_insert m_status⟩
          have hsize : ((m_status.insert f.key default).erase f.key).keys.length = m_status.keys.length := by
            have hinsert := UnorderedMap.size_insert_of_notMem hmem (default : RxStatus)
            have herase := UnorderedMap.size_erase_of_mem hin
            omega
          have hsame : entry ((m_status.insert f.key default).erase f.key) = entry m_status := by
            funext k
            rw [entry_eq (hkeyed.erase f.key), hentry, UnorderedMap.lookup_erase_ite,
              UnorderedMap.lookup_insert_ite]
            by_cases hk : k = f.key
            · rw [if_pos hk, hk, hv]
            · rw [if_neg hk, if_neg hk]
          refine ⟨hkeyed.erase f.key, ?_⟩
          rw [hsame, hsize]
          refine hfollows.kept (fun c hc => ?_) fun _ voice hopen => ?_
          · rw [hentry, hv] at hc
            exact absurd hc (by simp)
          · exact absurd (hkind.symm.trans hopen) (by simp)
      | some v =>
          rw [hkind, hv] at hfair
          rw [endCall_of_call h hv]
          have hkeyed := h.erase f.key
          have hmem : f.key ∈ m_status.keys := (UnorderedMap.mem_keys_iff_lookup _ _).mpr ⟨v, hv⟩
          refine ⟨hkeyed, hfollows.closing hkind (c := call v) ?_ hfair (fun k => ?_) ?_⟩
          · rw [hentry, hv]
            rfl
          · rw [entry_eq hkeyed, UnorderedMap.lookup_erase_ite, hentry]
            split
            · rfl
            · rfl
          · exact UnorderedMap.size_erase_of_mem hmem
  | opening voice =>
      cases hv : m_status.lookup f.key with
      | none =>
          rw [startCall_of_free h hv]
          have hkeyed : Keyed (m_status.insert f.key { srcId := f.source, dstId := f.key, streamId := f.stream }) :=
            h.insert rfl
          have hmem : f.key ∉ m_status.keys := by
            rw [UnorderedMap.mem_keys_iff_lookup, hv]
            simp
          refine ⟨hkeyed, hfollows.opening hkind ?_ (fun k => ?_) ?_⟩
          · rw [hentry, hv]
            rfl
          · rw [entry_eq hkeyed, UnorderedMap.lookup_insert_ite, hentry]
            split
            · rfl
            · rfl
          · exact UnorderedMap.size_insert_of_notMem hmem _
      | some v =>
          rw [startCall_of_call h hv]
          refine ⟨h, hfollows.kept (fun c _ hclose => ?_) fun hfree => ?_⟩
          · exact absurd (hkind.symm.trans hclose) (by simp)
          · rw [hentry, hv] at hfree
            exact absurd hfree (by simp)
  | voice =>
      refine ⟨h, hfollows.kept (fun c _ hclose => ?_) fun _ voice hopen => ?_⟩
      · exact absurd (hkind.symm.trans hclose) (by simp)
      · exact absurd (hkind.symm.trans hopen) (by simp)
  | other =>
      refine ⟨h, hfollows.kept (fun c _ hclose => ?_) fun _ voice hopen => ?_⟩
      · exact absurd (hkind.symm.trans hclose) (by simp)
      · exact absurd (hkind.symm.trans hopen) (by simp)

/-- A fair frame that may not pass collides, or there is nobody it could go to. -/
theorem held_of_fair (h : Keyed m_status) (hfollows : Follows (entry m_status) m_status.keys.length calls)
    {targets : List UInt32 × List UInt32} (hfair : Fair m_status f targets) (hpass : ¬ MayPass calls f) :
    (handle m_status f).2 = true ∨ targets = ([], []) := by
  unfold MayPass at hpass
  push Not at hpass
  obtain ⟨c, hc, hvoice, hstream, hsource⟩ := hpass
  rw [← hfollows.entry_eq, entry_eq h] at hc
  obtain ⟨v, hv, rfl⟩ := Option.map_eq_some_iff.mp hc
  unfold Fair at hfair
  unfold handle
  cases hkind : f.kind with
  | closing => exact absurd (hkind ▸ hvoice) (by simp [Kind.isVoice])
  | other => exact absurd (hkind ▸ hvoice) (by simp [Kind.isVoice])
  | voice =>
      rw [hkind, hv] at hfair
      rcases hfair with hfair | hfair | hfair
      · exact absurd hfair hstream
      · exact absurd hfair hsource
      · exact Or.inr hfair
  | opening voice =>
      rw [hkind, hv] at hfair
      rw [hkind] at hvoice
      rcases hfair hvoice with hfair | hfair | hfair | hfair
      · exact absurd hfair hstream
      · exact absurd hfair hsource
      · left
        dsimp only
        rw [startCall_of_call h hv]
        exact decide_eq_true ⟨hstream, hfair, fun heq => hsource heq.symm⟩
      · exact Or.inr hfair

/-- A frame that is not fair shows: the table does not follow, or the frame passes. -/
theorem fair_of_follows (h : Keyed m_status) (hfollows : Follows (entry m_status) m_status.keys.length calls)
    (hfollows' : Follows (entry (handle m_status f).1) (handle m_status f).1.keys.length (next calls f))
    {targets : List UInt32 × List UInt32}
    (hheld : ¬ MayPass calls f → (handle m_status f).2 = true ∨ targets = ([], [])) : Fair m_status f targets := by
  have hentry := entry_eq h
  unfold Fair
  unfold handle at hfollows' hheld
  cases hkind : f.kind with
  | closing =>
      rw [hkind] at hfollows'
      dsimp only at hfollows'
      cases hv : m_status.lookup f.key with
      | none =>
          dsimp only
          by_contra hzero
          -- the entry that is left counts
          have hfree : calls.lookup f.key = none := by
            rw [← hfollows.entry_eq, hentry, hv, Option.map_none]
          have hmem : f.key ∉ m_status.keys := by
            rw [UnorderedMap.mem_keys_iff_lookup, hv]
            simp
          have hsize := hfollows'.size_eq
          rw [endCall_of_free h hv, if_neg hzero, UnorderedMap.size_insert_of_notMem hmem,
            next_of_free hfree (by simp [hkind]), ← hfollows.size_eq] at hsize
          omega
      | some v =>
          dsimp only
          by_contra hstream
          -- the call goes on, and its entry is erased
          have hcall : calls.lookup f.key = some (call v) := by
            rw [← hfollows.entry_eq, hentry, hv, Option.map_some]
          have hgone := hfollows'.entry_eq f.key
          rw [endCall_of_call h hv, entry_eq (h.erase f.key), AList.lookup_erase,
            next_of_call hcall fun _ => hstream, hcall] at hgone
          exact absurd hgone (by simp)
  | other => trivial
  | voice =>
      cases hv : m_status.lookup f.key with
      | none => trivial
      | some v =>
          dsimp only
          by_contra hno
          push Not at hno
          obtain ⟨hstream, hsource, htargets⟩ := hno
          have hcall : calls.lookup f.key = some (call v) := by
            rw [← hfollows.entry_eq, hentry, hv, Option.map_some]
          rw [hkind] at hheld
          rcases hheld fun hpass => (hpass _ hcall (by rw [hkind]; rfl)).elim hstream hsource with hcoll | hnone
          · exact absurd hcoll (by simp)
          · exact htargets hnone
  | opening voice =>
      cases hv : m_status.lookup f.key with
      | none => trivial
      | some v =>
          dsimp only
          intro hvoice
          by_contra hno
          push Not at hno
          obtain ⟨hstream, hsource, hzero, htargets⟩ := hno
          have hcall : calls.lookup f.key = some (call v) := by
            rw [← hfollows.entry_eq, hentry, hv, Option.map_some]
          rw [hkind] at hheld
          dsimp only at hheld
          rw [startCall_of_call h hv] at hheld
          rcases hheld fun hpass => (hpass _ hcall (by rw [hkind]; exact hvoice)).elim hstream hsource with hcoll | hnone
          · exact (of_decide_eq_true hcoll).2.1 hzero
          · exact htargets hnone

end Keyed

/-- What a handler leaves of an admitted frame: the table, and the targets unless the frame collides. -/
def outcome (handled : UnorderedMap UInt32 RxStatus × Bool) (targets : List UInt32 × List UInt32) :
    Processed RxStatus :=
  if handled.2 then { m_status := handled.1 }
  else { m_status := handled.1, accepted := true, repeated := targets.1, upstream := targets.2 }

theorem outcome_status (handled : UnorderedMap UInt32 RxStatus × Bool) (targets : List UInt32 × List UInt32) :
    (outcome handled targets).m_status = handled.1 := by
  unfold outcome
  split
  · rfl
  · rfl

theorem outcome_dropped (handled : UnorderedMap UInt32 RxStatus × Bool) (targets : List UInt32 × List UInt32) :
    (outcome handled targets).Dropped ↔ handled.2 = true ∨ targets = ([], []) := by
  unfold outcome Processed.Dropped
  split
  · next hcoll => exact iff_of_true ⟨rfl, rfl⟩ (Or.inl hcoll)
  · next hcoll => rw [or_iff_right hcoll, ← Prod.mk.injEq]

/-- A handler of this table does what the arbiter does exactly with the fair frames. -/
theorem handles {process : UnorderedMap UInt32 RxStatus → FrameCall → Processed RxStatus}
    {signal : FrameCall → Option (Signal UInt32 UInt32 UInt32)} {targets : FrameCall → List UInt32 × List UInt32}
    (hrefused : ∀ m_status i, signal i = none → process m_status i = { m_status })
    (hpassed : ∀ m_status i f, signal i = some f → process m_status i = outcome (handle m_status f) (targets i)) :
    Handles process signal entry id Keyed (fun m_status i f => Fair m_status f (targets i)) := by
  refine ⟨fun m_status i hsig => by rw [hrefused m_status i hsig], ?_, ?_⟩
  · intro m_status calls i f hkeyed htracks hsig hfair
    rw [hpassed m_status i f hsig, outcome_status, outcome_dropped]
    obtain ⟨hkeyed', hfollows'⟩ := handle_follows hkeyed htracks.follows hfair
    exact ⟨⟨hkeyed', tracks_of_follows hkeyed' hfollows'⟩, held_of_fair hkeyed htracks.follows hfair⟩
  · intro m_status calls i f hkeyed htracks hsig htracks' hheld
    rw [hpassed m_status i f hsig, outcome_status] at htracks'
    rw [hpassed m_status i f hsig, outcome_dropped] at hheld
    exact fair_of_follows hkeyed htracks.follows htracks'.follows hheld

end RxStatus

/-! ## P25 -/

namespace TagP25Data

/-- `processFrame` of a call. -/
def process (m_status : UnorderedMap UInt32 RxStatus) (i : FrameCall) : Processed RxStatus :=
  processFrame i.ctx m_status i.data i.peerId i.streamId

/-- What the arbiter sees of a frame, when it is admitted. -/
def signal (i : FrameCall) : Option (Signal UInt32 UInt32 UInt32) :=
  let f := Frame.read i.data
  if validate i.ctx f && isPeerPermitted i.ctx f i.peerId then
    some { key := f.dstId, source := f.srcId, stream := i.streamId,
           kind := if f.isControl then .other else if f.isTerminator then .closing else .opening true }
  else none

/-- Whom a frame is repeated to. -/
def targets (i : FrameCall) : List UInt32 × List UInt32 :=
  let f := Frame.read i.data
  i.ctx.repeatTo i.peerId f.dstId (isPeerPermitted i.ctx f)

theorem process_refused (m_status : UnorderedMap UInt32 RxStatus) (i : FrameCall) (hsig : signal i = none) :
    process m_status i = { m_status } := by
  unfold signal at hsig
  unfold process processFrame
  dsimp only at hsig ⊢
  split at hsig
  · exact absurd hsig (by simp)
  · next hok =>
    rw [Bool.and_eq_true, not_and_or, Bool.not_eq_true, Bool.not_eq_true] at hok
    rcases hok with hvalid | hpermit
    · rw [hvalid]
      rfl
    · rw [hpermit]
      split
      · rfl
      · rfl

theorem process_admitted (m_status : UnorderedMap UInt32 RxStatus) (i : FrameCall) (f : Signal UInt32 UInt32 UInt32)
    (hsig : signal i = some f) :
    process m_status i = RxStatus.outcome (RxStatus.handle m_status f) (targets i) := by
  unfold signal at hsig
  unfold process processFrame RxStatus.outcome RxStatus.handle
  dsimp only at hsig ⊢
  split at hsig
  · next hok =>
    rw [Bool.and_eq_true] at hok
    rw [← Option.some.inj hsig, hok.1, hok.2]
    cases hcontrol : (Frame.read i.data).isControl with
    | true => simp [targets]
    | false =>
        cases hterm : (Frame.read i.data).isTerminator with
        | true => simp [targets]
        | false => simp [targets]
  · exact absurd hsig (by simp)

theorem handles : Handles process signal RxStatus.entry id RxStatus.Keyed
    (fun m_status i f => RxStatus.Fair m_status f (targets i)) :=
  RxStatus.handles process_refused process_admitted

end TagP25Data

/-! ## NXDN -/

namespace TagNXDNData

/-- `processFrame` of a call. -/
def process (m_status : UnorderedMap UInt32 RxStatus) (i : FrameCall) : Processed RxStatus :=
  processFrame i.ctx m_status i.data i.peerId i.streamId

/-- What the arbiter sees of a frame, when it is admitted. -/
def signal (i : FrameCall) : Option (Signal UInt32 UInt32 UInt32) :=
  let f := Frame.read i.data
  if validate i.ctx f && isPeerPermitted i.ctx f i.peerId then
    some { key := f.dstId, source := f.srcId, stream := i.streamId,
           kind := if f.isTerminator then .closing
             else if f.isCall then .opening (f.messageType = Nxdn.RTCH_MESSAGE_TYPE_VCALL) else .other }
  else none

/-- Whom a frame is repeated to. -/
def targets (i : FrameCall) : List UInt32 × List UInt32 :=
  let f := Frame.read i.data
  i.ctx.repeatTo i.peerId f.dstId (isPeerPermitted i.ctx f)

theorem process_refused (m_status : UnorderedMap UInt32 RxStatus) (i : FrameCall) (hsig : signal i = none) :
    process m_status i = { m_status } := by
  unfold signal at hsig
  unfold process processFrame
  dsimp only at hsig ⊢
  split at hsig
  · exact absurd hsig (by simp)
  · next hok =>
    rw [Bool.and_eq_true, not_and_or, Bool.not_eq_true, Bool.not_eq_true] at hok
    rcases hok with hvalid | hpermit
    · rw [hvalid]
      rfl
    · rw [hpermit]
      split
      · rfl
      · rfl

theorem process_admitted (m_status : UnorderedMap UInt32 RxStatus) (i : FrameCall) (f : Signal UInt32 UInt32 UInt32)
    (hsig : signal i = some f) :
    process m_status i = RxStatus.outcome (RxStatus.handle m_status f) (targets i) := by
  unfold signal at hsig
  unfold process processFrame RxStatus.outcome RxStatus.handle
  dsimp only at hsig ⊢
  split at hsig
  · next hok =>
    rw [Bool.and_eq_true] at hok
    rw [← Option.some.inj hsig, hok.1, hok.2]
    cases hterm : (Frame.read i.data).isTerminator with
    | true => simp [targets]
    | false =>
        cases hcall : (Frame.read i.data).isCall with
        | true => simp [targets]
        | false => simp [targets]
  · exact absurd hsig (by simp)

theorem handles : Handles process signal RxStatus.entry id RxStatus.Keyed
    (fun m_status i f => RxStatus.Fair m_status f (targets i)) :=
  RxStatus.handles process_refused process_admitted

end TagNXDNData

/-! ## DMR -/

namespace TagDMRData

/-- The call that an entry shows. -/
def RxStatus.call (v : RxStatus) : Call UInt32 UInt32 := { source := v.srcId, stream := v.streamId }

/-- The call that the search of the table finds, for a destination and a slot. -/
def entry (m_status : UnorderedMap UInt32 RxStatus) (k : UInt32 × UInt8) : Option (Call UInt32 UInt32) :=
  ((m_status.entries.find? fun x => x.2.dstId = k.1 ∧ x.2.slotNo = k.2).map fun x => x.2).map RxStatus.call

/-- `processFrame` of a call. -/
def process (m_status : UnorderedMap UInt32 RxStatus) (i : FrameCall) : Processed RxStatus :=
  processFrame i.ctx m_status i.data i.peerId i.streamId

/-- The place of a frame: its destination and its slot. -/
def Frame.key (f : Frame) : UInt32 × UInt8 := (f.dstId, f.slotNo)

/-- What a frame is to a call: the header opens, the terminator closes, a burst without data sync is voice. -/
def Frame.kind (f : Frame) : Kind :=
  if f.isTerminator then .closing else if f.isHeader then .opening true else if f.dataSync then .other else .voice

/-- What the arbiter sees of a frame. -/
def Frame.toSignal (f : Frame) (streamId : UInt32) : Signal (UInt32 × UInt8) UInt32 UInt32 :=
  { key := f.key, source := f.srcId, stream := streamId, kind := f.kind }

/-- What the arbiter sees of a frame, when it is admitted. -/
def signal (i : FrameCall) : Option (Signal (UInt32 × UInt8) UInt32 UInt32) :=
  let f := Frame.read i.data
  if validate i.ctx f && isPeerPermitted i.ctx f i.peerId then some (f.toSignal i.streamId) else none

/-- Whom a frame is repeated to. -/
def targets (i : FrameCall) : List UInt32 × List UInt32 :=
  let f := Frame.read i.data
  i.ctx.repeatTo i.peerId f.dstId (isPeerPermitted i.ctx f)

/-- **The frames under which the table of DMR follows the arbiter.** The destination has no call on the other slot
    when a header comes. A terminator is of the stream of the call. Voice of another stream and another source is
    recognised only by its header, and by a source of the call that is not zero. -/
def Fair (m_status : UnorderedMap UInt32 RxStatus) (f : Signal (UInt32 × UInt8) UInt32 UInt32)
    (targets : List UInt32 × List UInt32) : Prop :=
  match f.kind, m_status.lookup f.key.1 with
  | .closing, some v => v.slotNo = f.key.2 → f.stream = v.streamId
  | .opening _, some v => v.slotNo = f.key.2 ∧
      (f.stream = v.streamId ∨ f.source = v.srcId ∨ v.srcId ≠ 0 ∨ targets = ([], []))
  | .voice, some v => v.slotNo = f.key.2 → f.stream = v.streamId ∨ f.source = v.srcId ∨ targets = ([], [])
  | _, _ => True

/-- Every entry is under its own destination. -/
abbrev Keyed (m_status : UnorderedMap UInt32 RxStatus) : Prop := UnorderedMap.KeyedBy RxStatus.dstId m_status

/-- What a frame does to the table, and whether it collides. -/
def handle (m_status : UnorderedMap UInt32 RxStatus) (f : Frame) (streamId : UInt32) :
    UnorderedMap UInt32 RxStatus × Bool :=
  if f.isTerminator then (endCall m_status f, false)
  else if f.isHeader then startCall m_status f streamId
  else (m_status, false)

section Keyed

variable {m_status : UnorderedMap UInt32 RxStatus} {calls : CallsBy (UInt32 × UInt8)} {f : Frame} {streamId : UInt32}

theorem findStatus_eq (h : Keyed m_status) (f : Frame) :
    findStatus m_status f = (m_status.lookup f.dstId).filter fun v => v.slotNo = f.slotNo := by
  rw [← h.find?_eq]
  unfold findStatus
  simp only [Bool.decide_and]

theorem entry_eq (h : Keyed m_status) (k : UInt32 × UInt8) :
    entry m_status k = ((m_status.lookup k.1).filter fun v => v.slotNo = k.2).map RxStatus.call := by
  rw [← h.find?_eq]
  unfold entry
  simp only [Bool.decide_and]

/-- A destination has its call at the slot of its entry, and nowhere else. -/
theorem entry_of_lookup (h : Keyed m_status) {k : UInt32 × UInt8} {v : RxStatus}
    (hv : m_status.lookup k.1 = some v) : entry m_status k = if v.slotNo = k.2 then some v.call else none := by
  rw [entry_eq h, hv]
  by_cases hslot : v.slotNo = k.2
  · rw [if_pos hslot, Option.filter_some, if_pos (decide_eq_true hslot), Option.map_some]
  · rw [if_neg hslot, Option.filter_some, if_neg (by simpa using hslot), Option.map_none]

theorem entry_of_free (h : Keyed m_status) {k : UInt32 × UInt8} (hfree : m_status.lookup k.1 = none) :
    entry m_status k = none := by
  rw [entry_eq h, hfree]
  rfl

theorem tracks_of_follows (h : Keyed m_status) (hfollows : Follows (entry m_status) m_status.keys.length calls) :
    Tracks entry Prod.fst m_status calls := by
  refine ⟨hfollows, fun d hfree => ?_⟩
  cases hv : m_status.lookup d with
  | none => rfl
  | some v =>
      have hentry := (hfollows.entry_eq (d, v.slotNo)).trans (hfree (d, v.slotNo) rfl)
      rw [entry_of_lookup h hv, if_pos rfl] at hentry
      exact absurd hentry (by simp)

/-- A terminator erases the entry of its destination when that has its slot. -/
theorem endCall_eq (h : Keyed m_status) :
    endCall m_status f = if (entry m_status f.key).isSome then m_status.erase f.dstId else m_status := by
  unfold endCall
  rw [findStatus_eq h, entry_eq h, Option.isSome_map]
  rfl

/-- A header of a call that is entered leaves the table. -/
theorem startCall_of_call (h : Keyed m_status) {v : RxStatus} (hv : m_status.lookup f.dstId = some v)
    (hslot : v.slotNo = f.slotNo) :
    startCall m_status f streamId =
      (m_status, decide (streamId ≠ v.streamId ∧ v.srcId ≠ 0 ∧ v.srcId ≠ f.srcId)) := by
  unfold startCall
  rw [findStatus_eq h, hv, Option.filter_some, if_pos (decide_eq_true hslot)]

/-- A header of a free place is entered, whatever the other slot has. -/
theorem startCall_of_free (h : Keyed m_status) (hfree : entry m_status f.key = none) :
    startCall m_status f streamId =
      (m_status.insert f.dstId { srcId := f.srcId, dstId := f.dstId, slotNo := f.slotNo, streamId }, false) := by
  rw [entry_eq h, Option.map_eq_none_iff] at hfree
  unfold startCall
  rw [findStatus_eq h]
  have hnone : ((m_status.lookup f.dstId).filter fun v => v.slotNo = f.slotNo) = none := hfree
  rw [hnone]

theorem handle_of_closing (hkind : f.kind = .closing) :
    handle m_status f streamId = (endCall m_status f, false) := by
  unfold Frame.kind at hkind
  unfold handle
  split at hkind
  · next hterm => exact if_pos hterm
  · split at hkind
    · exact absurd hkind (by simp)
    · split at hkind
      · exact absurd hkind (by simp)
      · exact absurd hkind (by simp)

theorem handle_of_opening {voice : Bool} (hkind : f.kind = .opening voice) :
    handle m_status f streamId = startCall m_status f streamId := by
  unfold Frame.kind at hkind
  unfold handle
  split at hkind
  · exact absurd hkind (by simp)
  · next hterm =>
    split at hkind
    · next hheader => rw [if_neg hterm, if_pos hheader]
    · split at hkind
      · exact absurd hkind (by simp)
      · exact absurd hkind (by simp)

theorem handle_of_others (hclose : f.kind ≠ .closing) (hopen : ∀ voice, f.kind ≠ .opening voice) :
    handle m_status f streamId = (m_status, false) := by
  unfold Frame.kind at hclose hopen
  unfold handle
  split
  · next hterm => exact absurd (if_pos hterm) hclose
  · next hterm =>
    split
    · next hheader => exact absurd (by rw [if_neg hterm, if_pos hheader]) (hopen true)
    · rfl

/-- **A fair frame is handled as the arbiter does it.** -/
theorem handle_follows (h : Keyed m_status) (hfollows : Follows (entry m_status) m_status.keys.length calls)
    {targets : List UInt32 × List UInt32} (hfair : Fair m_status (f.toSignal streamId) targets) :
    Keyed (handle m_status f streamId).1 ∧
      Follows (entry (handle m_status f streamId).1) (handle m_status f streamId).1.keys.length
        (next calls (f.toSignal streamId)) := by
  unfold Fair Frame.toSignal Frame.key at hfair
  cases hkind : f.kind with
  | closing =>
      rw [handle_of_closing hkind, endCall_eq h]
      cases hc : entry m_status f.key with
      | none =>
          refine ⟨h, hfollows.kept (fun c hcall => ?_) fun _ voice hopen => ?_⟩
          · exact absurd (hc.symm.trans hcall) (by simp)
          · exact absurd (hkind.symm.trans hopen) (by simp)
      | some c =>
          have hkeyed := h.erase f.dstId
          -- the entry of the destination is the call at this slot
          cases hv : m_status.lookup f.dstId with
          | none => exact absurd (hc.symm.trans (entry_of_free h hv)) (by simp)
          | some v =>
              rw [entry_of_lookup h hv] at hc
              split at hc
              swap
              · exact absurd hc (by simp)
              · next hslot =>
                rw [hkind, hv] at hfair
                have hstream : streamId = c.stream := by
                  rw [← Option.some.inj hc]
                  exact hfair hslot
                have hmem : f.dstId ∈ m_status.keys := (UnorderedMap.mem_keys_iff_lookup _ _).mpr ⟨v, hv⟩
                refine ⟨hkeyed, hfollows.closing hkind (c := c) ?_ hstream (fun k => ?_)
                  (UnorderedMap.size_erase_of_mem hmem)⟩
                · exact (entry_of_lookup h hv).trans ((if_pos hslot).trans hc)
                · show entry (m_status.erase f.dstId) k = if k = f.key then none else entry m_status k
                  by_cases hk : k = f.key
                  · rw [if_pos hk, hk]
                    exact entry_of_free hkeyed (AList.lookup_erase _ _)
                  · rw [if_neg hk]
                    by_cases hdst : k.1 = f.dstId
                    · -- the other slot has no entry, before and after
                      have hother : ¬ v.slotNo = k.2 := fun heq =>
                        hk (Prod.ext hdst (heq.symm.trans hslot))
                      rw [entry_of_lookup h (hdst ▸ hv), if_neg hother]
                      exact entry_of_free hkeyed (hdst ▸ AList.lookup_erase _ _)
                    · rw [entry_eq hkeyed, entry_eq h, AList.lookup_erase_ne hdst]
  | opening voice =>
      rw [handle_of_opening hkind]
      cases hv : m_status.lookup f.dstId with
      | some v =>
          rw [hkind, hv] at hfair
          rw [startCall_of_call h hv hfair.1]
          refine ⟨h, hfollows.kept (fun c _ hclose => ?_) fun hfree => ?_⟩
          · exact absurd (hkind.symm.trans hclose) (by simp)
          · have hcall : entry m_status f.key = some v.call := (entry_of_lookup h hv).trans (if_pos hfair.1)
            exact absurd (hcall.symm.trans hfree) (by simp)
      | none =>
          rw [startCall_of_free h (entry_of_free h hv)]
          have hkeyed : Keyed (m_status.insert f.dstId
              { srcId := f.srcId, dstId := f.dstId, slotNo := f.slotNo, streamId }) := h.insert rfl
          have hmem : f.dstId ∉ m_status.keys := by
            rw [UnorderedMap.mem_keys_iff_lookup, hv]
            simp
          refine ⟨hkeyed, hfollows.opening hkind (entry_of_free h hv) (fun k => ?_)
            (UnorderedMap.size_insert_of_notMem hmem _)⟩
          by_cases hdst : k.1 = f.dstId
          · have hlookup : (m_status.insert f.dstId
                { srcId := f.srcId, dstId := f.dstId, slotNo := f.slotNo, streamId }).lookup k.1 =
                  some { srcId := f.srcId, dstId := f.dstId, slotNo := f.slotNo, streamId } := by
              rw [hdst, AList.lookup_insert]
            rw [entry_of_lookup hkeyed hlookup]
            by_cases hslot : f.slotNo = k.2
            · rw [if_pos hslot, if_pos (Prod.ext hdst hslot.symm)]
              rfl
            · rw [if_neg hslot, if_neg fun heq => hslot (congrArg Prod.snd heq).symm]
              exact (entry_of_free h (hdst ▸ hv)).symm
          · rw [entry_eq hkeyed, AList.lookup_insert_ne hdst, ← entry_eq h,
              if_neg fun heq => hdst (congrArg Prod.fst heq)]
  | voice =>
      rw [handle_of_others (by simp [hkind]) (by simp [hkind])]
      refine ⟨h, hfollows.kept (fun c _ hclose => ?_) fun _ voice hopen => ?_⟩
      · exact absurd (hkind.symm.trans hclose) (by simp)
      · exact absurd (hkind.symm.trans hopen) (by simp)
  | other =>
      rw [handle_of_others (by simp [hkind]) (by simp [hkind])]
      refine ⟨h, hfollows.kept (fun c _ hclose => ?_) fun _ voice hopen => ?_⟩
      · exact absurd (hkind.symm.trans hclose) (by simp)
      · exact absurd (hkind.symm.trans hopen) (by simp)

/-- The call at the place of a frame, with the entry that shows it. -/
theorem exists_entry (h : Keyed m_status) {k : UInt32 × UInt8} {c : Call UInt32 UInt32}
    (hc : entry m_status k = some c) :
    ∃ v, m_status.lookup k.1 = some v ∧ v.slotNo = k.2 ∧ v.call = c := by
  cases hv : m_status.lookup k.1 with
  | none => exact absurd (hc.symm.trans (entry_of_free h hv)) (by simp)
  | some v =>
      rw [entry_of_lookup h hv] at hc
      split at hc
      · next hslot => exact ⟨v, rfl, hslot, Option.some.inj hc⟩
      · exact absurd hc (by simp)

/-- A fair frame that may not pass collides, or there is nobody it could go to. -/
theorem held_of_fair (h : Keyed m_status) (hfollows : Follows (entry m_status) m_status.keys.length calls)
    {targets : List UInt32 × List UInt32} (hfair : Fair m_status (f.toSignal streamId) targets)
    (hpass : ¬ MayPass calls (f.toSignal streamId)) :
    (handle m_status f streamId).2 = true ∨ targets = ([], []) := by
  unfold MayPass at hpass
  push Not at hpass
  obtain ⟨c, hc, hvoice, hstream, hsource⟩ := hpass
  rw [← hfollows.entry_eq] at hc
  obtain ⟨v, hv, hslot, rfl⟩ := exists_entry h hc
  have hv' : m_status.lookup f.dstId = some v := hv
  unfold Fair Frame.toSignal Frame.key at hfair
  cases hkind : f.kind with
  | closing => exact absurd ((congrArg Kind.isVoice hkind).symm.trans hvoice) (by simp [Kind.isVoice])
  | other => exact absurd ((congrArg Kind.isVoice hkind).symm.trans hvoice) (by simp [Kind.isVoice])
  | voice =>
      rw [hkind, hv'] at hfair
      rcases hfair hslot with hfair | hfair | hfair
      · exact absurd hfair hstream
      · exact absurd hfair hsource
      · exact Or.inr hfair
  | opening voice =>
      rw [hkind, hv'] at hfair
      rcases hfair.2 with hfair | hfair | hfair | hfair
      · exact absurd hfair hstream
      · exact absurd hfair hsource
      · left
        rw [handle_of_opening hkind, startCall_of_call h hv' hslot]
        exact decide_eq_true ⟨hstream, hfair, fun heq => hsource heq.symm⟩
      · exact Or.inr hfair

/-- A frame that is not fair shows: the table does not follow, or the frame passes. -/
theorem fair_of_follows (h : Keyed m_status) (hfollows : Follows (entry m_status) m_status.keys.length calls)
    (hfollows' : Follows (entry (handle m_status f streamId).1) (handle m_status f streamId).1.keys.length
      (next calls (f.toSignal streamId)))
    {targets : List UInt32 × List UInt32}
    (hheld : ¬ MayPass calls (f.toSignal streamId) → (handle m_status f streamId).2 = true ∨ targets = ([], [])) :
    Fair m_status (f.toSignal streamId) targets := by
  unfold Fair
  -- the call that an entry at the place of the frame shows
  have hshown : ∀ v, m_status.lookup f.dstId = some v → v.slotNo = f.slotNo →
      calls.lookup (f.toSignal streamId).key = some v.call := by
    intro v hv hslot
    rw [← hfollows.entry_eq]
    exact (entry_of_lookup h hv).trans (if_pos hslot)
  cases hkind : f.kind with
  | closing =>
      have hkind' : (f.toSignal streamId).kind = .closing := hkind
      cases hv : m_status.lookup f.dstId with
      | none =>
          have hv' : m_status.lookup (f.toSignal streamId).key.1 = none := hv
          rw [hkind', hv']
          trivial
      | some v =>
          have hv' : m_status.lookup (f.toSignal streamId).key.1 = some v := hv
          rw [hkind', hv']
          intro hslot
          by_contra hstream
          -- the call goes on, and its entry is erased
          have hcall := hshown v hv hslot
          have hgone := hfollows'.entry_eq (f.toSignal streamId).key
          rw [next_of_call hcall fun _ => hstream, hcall, handle_of_closing hkind, endCall_eq h,
            show entry m_status f.key = some v.call from (entry_of_lookup h hv).trans (if_pos hslot),
            Option.isSome_some, if_pos rfl] at hgone
          have hfree := entry_of_free (h.erase f.dstId) (k := f.key) (AList.lookup_erase _ _)
          exact absurd (hfree.symm.trans hgone) (by simp)
  | other =>
      have hkind' : (f.toSignal streamId).kind = .other := hkind
      rw [hkind']
      trivial
  | voice =>
      have hkind' : (f.toSignal streamId).kind = .voice := hkind
      cases hv : m_status.lookup f.dstId with
      | none =>
          have hv' : m_status.lookup (f.toSignal streamId).key.1 = none := hv
          rw [hkind', hv']
          trivial
      | some v =>
          have hv' : m_status.lookup (f.toSignal streamId).key.1 = some v := hv
          rw [hkind', hv']
          intro hslot
          by_contra hno
          push Not at hno
          obtain ⟨hstream, hsource, htargets⟩ := hno
          have hcall := hshown v hv hslot
          rw [handle_of_others (by simp [hkind]) (by simp [hkind])] at hheld
          rcases hheld fun hpass => (hpass _ hcall (by rw [hkind']; rfl)).elim hstream hsource with hcoll | hnone
          · exact absurd hcoll (by simp)
          · exact htargets hnone
  | opening voice =>
      have hkind' : (f.toSignal streamId).kind = .opening voice := hkind
      cases hv : m_status.lookup f.dstId with
      | none =>
          have hv' : m_status.lookup (f.toSignal streamId).key.1 = none := hv
          rw [hkind', hv']
          trivial
      | some v =>
          have hv' : m_status.lookup (f.toSignal streamId).key.1 = some v := hv
          rw [hkind', hv']
          dsimp only
          have hslot : v.slotNo = f.slotNo := by
            by_contra hslot
            -- the call of the other slot is overwritten, and there are two to be shown
            have hfree : entry m_status f.key = none := (entry_of_lookup h hv).trans (if_neg hslot)
            have hfree' : calls.lookup (f.toSignal streamId).key = none := by
              rw [← hfollows.entry_eq]
              exact hfree
            have hmem : f.dstId ∈ m_status.keys := (UnorderedMap.mem_keys_iff_lookup _ _).mpr ⟨v, hv⟩
            have hnew : (f.toSignal streamId).key ∉ calls.keys := by
              rw [UnorderedMap.mem_keys_iff_lookup, hfree']
              simp
            have hsize := hfollows'.size_eq
            rw [handle_of_opening hkind, startCall_of_free h hfree, UnorderedMap.size_insert_of_mem hmem,
              next_opening hkind' hfree', UnorderedMap.size_insert_of_notMem hnew, ← hfollows.size_eq] at hsize
            omega
          refine ⟨hslot, ?_⟩
          by_contra hno
          push Not at hno
          obtain ⟨hstream, hsource, hzero, htargets⟩ := hno
          have hcall := hshown v hv hslot
          have hvoice : voice = true := by
            unfold Frame.kind at hkind
            split at hkind
            · exact absurd hkind (by simp)
            · split at hkind
              · exact (Kind.opening.inj hkind).symm
              · split at hkind
                · exact absurd hkind (by simp)
                · exact absurd hkind (by simp)
          rw [handle_of_opening hkind, startCall_of_call h hv hslot] at hheld
          rcases hheld fun hpass => (hpass _ hcall (by rw [hkind']; exact hvoice)).elim hstream hsource with
            hcoll | hnone
          · exact (of_decide_eq_true hcoll).2.1 hzero
          · exact htargets hnone

end Keyed

theorem process_refused (m_status : UnorderedMap UInt32 RxStatus) (i : FrameCall) (hsig : signal i = none) :
    process m_status i = { m_status } := by
  unfold signal at hsig
  unfold process processFrame
  dsimp only at hsig ⊢
  split at hsig
  · exact absurd hsig (by simp)
  · next hok =>
    rw [Bool.and_eq_true, not_and_or, Bool.not_eq_true, Bool.not_eq_true] at hok
    rcases hok with hvalid | hpermit
    · rw [hvalid]
      rfl
    · rw [hpermit]
      split
      · rfl
      · rfl

/-- What is left of an admitted frame: the table, and the targets unless the frame collides. -/
theorem process_admitted (m_status : UnorderedMap UInt32 RxStatus) (i : FrameCall)
    (f : Signal (UInt32 × UInt8) UInt32 UInt32) (hsig : signal i = some f) :
    f = (Frame.read i.data).toSignal i.streamId ∧
      (process m_status i).m_status = (handle m_status (Frame.read i.data) i.streamId).1 ∧
      ((process m_status i).Dropped ↔
        (handle m_status (Frame.read i.data) i.streamId).2 = true ∨ targets i = ([], [])) := by
  unfold signal at hsig
  unfold process processFrame handle Processed.Dropped targets
  dsimp only at hsig ⊢
  split at hsig
  swap
  · exact absurd hsig (by simp)
  · next hok =>
    rw [Bool.and_eq_true] at hok
    refine ⟨(Option.some.inj hsig).symm, ?_⟩
    rw [hok.1, hok.2]
    have hboth : (Frame.read i.data).isTerminator = true → (Frame.read i.data).isHeader = false := by
      unfold Frame.isTerminator Frame.isHeader
      intro hterm
      rw [Bool.and_eq_true, decide_eq_true_eq] at hterm
      rw [hterm.2]
      simp [Dmr.DT_TERMINATOR_WITH_LC, Dmr.DT_VOICE_LC_HEADER]
    cases hterm : (Frame.read i.data).isTerminator with
    | true => simp [hboth hterm, Prod.ext_iff]
    | false =>
        cases hheader : (Frame.read i.data).isHeader with
        | false => simp [Prod.ext_iff]
        | true =>
            simp only [Bool.not_true, Bool.false_eq_true, if_false, if_true]
            split
            · next hcoll => simp [hcoll]
            · next hcoll => simp [hcoll, Prod.ext_iff]

theorem handles : Handles process signal entry Prod.fst Keyed (fun m_status i f => Fair m_status f (targets i)) := by
  refine ⟨fun m_status i hsig => by rw [process_refused m_status i hsig], ?_, ?_⟩
  · intro m_status calls i f hkeyed htracks hsig hfair
    obtain ⟨rfl, hstatus, hdropped⟩ := process_admitted m_status i f hsig
    rw [hstatus, hdropped]
    obtain ⟨hkeyed', hfollows'⟩ := handle_follows hkeyed htracks.follows hfair
    exact ⟨⟨hkeyed', tracks_of_follows hkeyed' hfollows'⟩, held_of_fair hkeyed htracks.follows hfair⟩
  · intro m_status calls i f hkeyed htracks hsig htracks' hheld
    obtain ⟨rfl, hstatus, hdropped⟩ := process_admitted m_status i f hsig
    rw [hstatus] at htracks'
    rw [hdropped] at hheld
    exact fair_of_follows hkeyed htracks.follows htracks'.follows hheld

end TagDMRData

/-! ## Main result -/

theorem tracks_empty {K S : Type} [DecidableEq K] {entry : UnorderedMap UInt32 S → K → Option (Call UInt32 UInt32)}
    {dst : K → UInt32} (hentry : ∀ k, entry ∅ k = none) : Tracks entry dst ∅ ∅ :=
  ⟨⟨fun k => (hentry k).trans rfl, rfl⟩, fun _ _ => rfl⟩

/-- **The three handlers arbitrate exactly the runs of fair frames**, from any peers, with any tables of the network
    at each call. -/
theorem arbitrated_iff (frames : List FrameCall) :
    (Arbitrated TagDMRData.process TagDMRData.signal TagDMRData.entry Prod.fst frames ↔
      FairRun TagDMRData.process TagDMRData.signal
        (fun m_status i f => TagDMRData.Fair m_status f (TagDMRData.targets i)) frames) ∧
    (Arbitrated TagP25Data.process TagP25Data.signal RxStatus.entry id frames ↔
      FairRun TagP25Data.process TagP25Data.signal
        (fun m_status i f => RxStatus.Fair m_status f (TagP25Data.targets i)) frames) ∧
    (Arbitrated TagNXDNData.process TagNXDNData.signal RxStatus.entry id frames ↔
      FairRun TagNXDNData.process TagNXDNData.signal
        (fun m_status i f => RxStatus.Fair m_status f (TagNXDNData.targets i)) frames) := by
  refine ⟨?_, ?_, ?_⟩
  · exact TagDMRData.handles.guarded_iff UnorderedMap.keyedBy_empty (tracks_empty fun _ => rfl) frames
  · exact TagP25Data.handles.guarded_iff UnorderedMap.keyedBy_empty (tracks_empty fun _ => rfl) frames
  · exact TagNXDNData.handles.guarded_iff UnorderedMap.keyedBy_empty (tracks_empty fun _ => rfl) frames

/-! ## Two talkers on one talkgroup -/

/-- The network of two peers, without rules. -/
def twoPeers : TrafficContext where
  m_ridLookup := ⟨∅⟩
  m_tidLookup := {}
  m_peers := [7, 8]
  m_peerNetworks := []

/-- A DMR frame to the talkgroup 9 in the first slot. -/
def dmrFrame (srcId flags : UInt8) : Bytes := fun i =>
  [0x00, 0x00, 0x00, 0x00, 0x00, 0x00, 0x00, srcId, 0x00, 0x00, 0x09, 0x00, 0x00, 0x00, 0x00, flags].getD i 0x00

/-- The header of a call, and a voice burst of another talker. -/
def twoTalkers : List FrameCall :=
  [{ ctx := twoPeers, data := dmrFrame 0x01 0x21, peerId := 7, streamId := 1 },
   { ctx := twoPeers, data := dmrFrame 0x02 0x10, peerId := 8, streamId := 2 }]

/-- **A second talker is heard**: the burst is repeated into the call. -/
theorem twoTalkers_not_arbitrated :
    ¬ ∀ frames, Arbitrated TagDMRData.process TagDMRData.signal TagDMRData.entry Prod.fst frames ∧
      Arbitrated TagP25Data.process TagP25Data.signal RxStatus.entry id frames ∧
      Arbitrated TagNXDNData.process TagNXDNData.signal RxStatus.entry id frames := by
  intro hall
  obtain ⟨-, -, hburst, -⟩ := (hall twoTalkers).1
  have hdropped := hburst _ rfl fun hpass => ?_
  · exact absurd hdropped.1 (by decide +kernel)
  · rcases hpass { source := 1, stream := 1 } (by decide +kernel) (by decide +kernel) with hstream | hsource
    · exact absurd hstream (by decide +kernel)
    · exact absurd hsource (by decide +kernel)

end DvmHost

import DvmHost.Lib.UnorderedMap

/-!
# `Lib.Arbiter` — calls that share places

A place (a talkgroup, a slot) holds one call at a time. A call is entered by the first opening frame that finds its
place free, and it stays until a closing frame of its own stream. While it is there, voice of another stream and
another source may not pass.

`next` is the arbiter itself, over places, sources and streams of any kind. A table of a program *follows* it when it
shows the same calls and has one entry for each (`Follows`); the three rules say which change of the table follows
which frame.
-/

namespace Lib

namespace Arbiter

/-- A call that is in progress. -/
structure Call (S T : Type) where
  source : S
  stream : T
deriving DecidableEq

/-- What a frame is to a call. -/
inductive Kind where
  | opening (voice : Bool)
  | voice
  | closing
  | other
deriving DecidableEq

/-- Whether a frame carries voice. -/
def Kind.isVoice : Kind → Bool
  | .opening carries => carries
  | .voice => true
  | .closing => false
  | .other => false

/-- What the arbiter sees of a frame. -/
structure Signal (K S T : Type) where
  key : K
  source : S
  stream : T
  kind : Kind

/-- The calls in progress, one at most at each place. -/
abbrev Calls (K S T : Type) := UnorderedMap K (Call S T)

variable {K S T : Type} [DecidableEq K] [DecidableEq T]

/-- The calls after a frame. -/
def next (calls : Calls K S T) (f : Signal K S T) : Calls K S T :=
  match f.kind, calls.lookup f.key with
  | .closing, some c => if f.stream = c.stream then calls.erase f.key else calls
  | .opening _, none => calls.insert f.key { source := f.source, stream := f.stream }
  | _, _ => calls

/-- The frame is no voice of another stream and another source than the call at its place. -/
def MayPass (calls : Calls K S T) (f : Signal K S T) : Prop :=
  ∀ c, calls.lookup f.key = some c → f.kind.isVoice = true → f.stream = c.stream ∨ f.source = c.source

variable {calls : Calls K S T} {f : Signal K S T}

theorem next_opening {voice : Bool} (hkind : f.kind = .opening voice) (hfree : calls.lookup f.key = none) :
    next calls f = calls.insert f.key { source := f.source, stream := f.stream } := by
  unfold next
  rw [hkind, hfree]

theorem next_closing {c : Call S T} (hkind : f.kind = .closing) (hcall : calls.lookup f.key = some c)
    (hstream : f.stream = c.stream) : next calls f = calls.erase f.key := by
  unfold next
  rw [hkind, hcall]
  exact if_pos hstream

/-- **A call stays** until a closing frame of its own stream. -/
theorem next_of_call {c : Call S T} (hcall : calls.lookup f.key = some c)
    (hstay : f.kind = .closing → f.stream ≠ c.stream) : next calls f = calls := by
  unfold next
  rw [hcall]
  cases hkind : f.kind with
  | closing => exact if_neg (hstay hkind)
  | opening voice => rfl
  | voice => rfl
  | other => rfl

/-- A free place stays free until an opening frame. -/
theorem next_of_free (hfree : calls.lookup f.key = none) (hkind : ∀ voice, f.kind ≠ .opening voice) :
    next calls f = calls := by
  unfold next
  rw [hfree]
  cases hk : f.kind with
  | closing => rfl
  | opening voice => exact absurd hk (hkind voice)
  | voice => rfl
  | other => rfl

/-! ## Tables that follow the arbiter -/

/-- The table shows the calls in progress, and has one entry for each. -/
structure Follows (entry : K → Option (Call S T)) (size : Nat) (calls : Calls K S T) : Prop where
  entry_eq : ∀ k, entry k = calls.lookup k
  size_eq : size = calls.keys.length

variable {entry entry' : K → Option (Call S T)} {size size' : Nat}

/-- An opening frame at a free place is entered. -/
theorem Follows.opening (h : Follows entry size calls) {voice : Bool} (hkind : f.kind = .opening voice)
    (hfree : entry f.key = none)
    (hentry : ∀ k, entry' k = if k = f.key then some { source := f.source, stream := f.stream } else entry k)
    (hsize : size' = size + 1) : Follows entry' size' (next calls f) := by
  have hfree' : calls.lookup f.key = none := (h.entry_eq f.key).symm.trans hfree
  rw [next_opening hkind hfree']
  refine ⟨fun k => ?_, ?_⟩
  · rw [hentry, UnorderedMap.lookup_insert_ite, h.entry_eq]
  · have hmem : f.key ∉ calls.keys := by
      rw [UnorderedMap.mem_keys_iff_lookup, hfree']
      simp
    rw [UnorderedMap.size_insert_of_notMem hmem, hsize, h.size_eq]

/-- A closing frame of the call at its place takes the entry away. -/
theorem Follows.closing (h : Follows entry size calls) {c : Call S T} (hkind : f.kind = .closing)
    (hcall : entry f.key = some c) (hstream : f.stream = c.stream)
    (hentry : ∀ k, entry' k = if k = f.key then none else entry k) (hsize : size' + 1 = size) :
    Follows entry' size' (next calls f) := by
  have hcall' : calls.lookup f.key = some c := (h.entry_eq f.key).symm.trans hcall
  rw [next_closing hkind hcall' hstream]
  refine ⟨fun k => ?_, ?_⟩
  · rw [hentry, UnorderedMap.lookup_erase_ite, h.entry_eq]
  · have hmem : f.key ∈ calls.keys := (UnorderedMap.mem_keys_iff_lookup calls f.key).mpr ⟨c, hcall'⟩
    have herase := UnorderedMap.size_erase_of_mem hmem
    have hsize' := h.size_eq
    omega

/-- Every other frame changes nothing. -/
theorem Follows.kept (h : Follows entry size calls)
    (hcall : ∀ c, entry f.key = some c → f.kind = .closing → f.stream ≠ c.stream)
    (hfree : entry f.key = none → ∀ voice, f.kind ≠ .opening voice) : Follows entry size (next calls f) := by
  rw [h.entry_eq] at hcall hfree
  cases hc : calls.lookup f.key with
  | none => rwa [next_of_free hc (hfree hc)]
  | some c => rwa [next_of_call hc (hcall c hc)]

end Arbiter

end Lib

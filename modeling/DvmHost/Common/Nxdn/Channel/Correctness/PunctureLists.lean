import DvmHost.Common.Nxdn.Channel.Correctness.ChannelRoundTrip

/-!
# `Common.Nxdn.Channel.Correctness.PunctureLists` — which entries of the puncture lists are read

Both puncturing loops read the entry at `index` in every turn, also after the last one was used up. The list of SACCH
ends with the last symbol, so its `index` stays inside; those of FACCH1, UDCH and the outbound CAC end two symbols
before, and their last turns compare with what lies behind the list (`punctures_never`). The arrays the loops fill are
long enough whatever that is. Of SACCH the loop `// depuncture` stops before the last entry, in whose place the first
of the eight zeros comes, and `CAC::decode` does not depuncture.
-/

namespace DvmHost.Nxdn

namespace Channel

/-! ## Kept positions -/

theorem rank_zero (list : List Nat) : rank list 0 = 0 := Nat.zero_sub _

theorem exists_kept {list : List Nat} (hnd : list.Nodup) {k P : Nat} (hk : k < rank list P) :
    ∃ p < P, rank list p = k ∧ p ∉ list := by
  induction P with
  | zero =>
      rw [rank_zero] at hk
      exact absurd hk (Nat.not_lt_zero k)
  | succ P ih =>
      by_cases hbefore : k < rank list P
      · obtain ⟨p, hp, hrank, hmem⟩ := ih hbefore
        exact ⟨p, Nat.lt_succ_of_lt hp, hrank, hmem⟩
      · have hmem : P ∉ list := fun hmem => hbefore (rank_succ_of_mem hnd hmem ▸ hk)
        rw [rank_succ_of_notMem hnd hmem] at hk
        exact ⟨P, Nat.lt_succ_self P, by omega, hmem⟩

/-- Where the loop `// depuncture` stands when `k` bits are placed. -/
theorem exists_stop {list : List Nat} (hnd : list.Nodup) {k P : Nat} (hk : k < rank list P) :
    ∃ p < P, rank list p = k ∧ ∀ q, q + 1 = p → q ∉ list := by
  cases k with
  | zero =>
      refine ⟨0, Nat.pos_of_ne_zero fun hzero => ?_, rank_zero list, fun q hq => absurd hq (Nat.succ_ne_zero q)⟩
      rw [hzero, rank_zero] at hk
      exact absurd hk (Nat.not_lt_zero 0)
  | succ k =>
      obtain ⟨p, -, hrank, hmem⟩ := exists_kept hnd (Nat.lt_of_succ_lt hk)
      have hnext : rank list (p + 1) = k + 1 := by rw [rank_succ_of_notMem hnd hmem, hrank]
      refine ⟨p + 1, ?_, hnext, fun q hq => ?_⟩
      · by_contra hge
        have := rank_mono hnd (Nat.le_of_not_lt hge)
        omega
      · rw [Nat.succ.inj hq]
        exact hmem

/-- The index is in the list exactly while an entry is left. -/
theorem erasures_lt_length_iff {list : List Nat} {p : Nat} : erasures list p < list.length ↔ ∃ q ∈ list, p ≤ q := by
  unfold erasures
  constructor
  · intro hlt
    by_contra hnone
    push Not at hnone
    have hall := List.countP_eq_length.mpr fun q hq => decide_eq_true (hnone q hq)
    omega
  · rintro ⟨q, hq, hle⟩
    refine lt_of_le_of_ne List.countP_le_length fun heq => ?_
    have hlt := List.countP_eq_length.mp heq q hq
    rw [decide_eq_true_iff] at hlt
    omega

theorem punctureAt_length (list : List Nat) (past : Nat → Nat) : punctureAt list past list.length = past 0 := by
  rw [punctureAt, List.getD_eq_default _ _ (Nat.le_refl _), Nat.sub_self]

/-! ## The loops of a channel -/

/-- The channels. -/
inductive Kind where
  | SACCH
  | FACCH1
  | UDCH
  | CAC
deriving DecidableEq

/-- The tables of `encode`. -/
def Kind.encoding : Kind → Coding
  | .SACCH => SACCH.coding
  | .FACCH1 => FACCH1.coding
  | .UDCH => UDCH.coding
  | .CAC => CAC.codingOut

/-- The tables of the loop `// depuncture` of `decode`, which CAC has not. -/
def Kind.decoding : Kind → Option Coding
  | .SACCH => some SACCH.coding
  | .FACCH1 => some FACCH1.coding
  | .UDCH => some UDCH.coding
  | .CAC => none

/-- The octets of the array `puncture` of `encode`: `NXDN_SACCH_FEC_LENGTH_BYTES` and so on. -/
def Kind.encodeOctets : Kind → Nat
  | .SACCH => 60 / 8 + 1
  | .FACCH1 => 144 / 8
  | .UDCH => 348 / 8 + 1
  | .CAC => 300 / 8 + 1

/-- The symbols of the array `puncture` of `decode`. -/
def Kind.decodeSymbols : Kind → Nat
  | .SACCH => 90
  | .FACCH1 => 210
  | .UDCH => 420
  | .CAC => 0

/-- What the loops find: the words behind the list, the symbols to puncture, the bits to depuncture, and the array
    `puncture` of `decode`. -/
structure Arrays where
  past : Nat → Nat
  convolution : Bytes
  buffer : Bytes
  puncture : Bytes

/-- The loop `// puncture` before turn `i`. -/
def Arrays.encoder (a : Arrays) (c : Coding) (i : Nat) : Cursor :=
  punctureLoop c.punctureList a.past a.convolution (fun _ => 0) i

/-- The loop `// depuncture` before turn `i`. -/
def Arrays.decoder (a : Arrays) (c : Coding) (i : Nat) : Cursor :=
  depunctureLoop c.punctureList a.past a.buffer a.puncture i

/-- They are the loops of `encode` and of `decode`. -/
theorem loops_eq (c : Coding) (mem : Memory) (base : Nat) (block frame data puncture : Bytes) :
    let a : Arrays := ⟨mem.past, Convolution.encode block (fun _ => 0) c.crcBits,
      deinterleave c.interleaveTable base c.fecBits data fun _ => 0, puncture⟩
    encodeBits c mem base block frame =
        interleave c.interleaveTable base c.fecBits (a.encoder c c.convBits).out frame ∧
      symbolsOf c mem.past base data puncture = (appendZeros (a.decoder c c.fecBits)).out :=
  ⟨rfl, rfl⟩

/-- `encode` drops position `p`. -/
def Dropped (a : Arrays) (c : Coding) (p : Nat) : Prop :=
  p < c.convBits ∧ p = punctureAt c.punctureList a.past (a.encoder c p).index

/-- `decode` erases position `p`. -/
def Erased (a : Arrays) (c : Coding) (p : Nat) : Prop :=
  ∃ i < c.fecBits, p = (a.decoder c i).n ∧
    (a.decoder c i).n = punctureAt c.punctureList a.past (a.decoder c i).index

/-- Every turn of `encode` reads an entry of the list. -/
def EncodeIndexed (k : Kind) (a : Arrays) : Prop :=
  ∀ i < k.encoding.convBits, (a.encoder k.encoding i).index < k.encoding.punctureList.length

/-- Every turn of `decode` reads an entry of the list. -/
def DecodeIndexed (k : Kind) (a : Arrays) : Prop :=
  ∀ c ∈ k.decoding, ∀ i < c.fecBits, (a.decoder c i).index < c.punctureList.length

/-- Every bit that `encode` keeps has a place in `puncture`. -/
def EncodePlaced (k : Kind) (a : Arrays) : Prop :=
  ∀ i < k.encoding.convBits, ¬ Dropped a k.encoding i → (a.encoder k.encoding i).n < 8 * k.encodeOctets

/-- Every symbol that `decode` writes has a place in `puncture`, and so have the eight zeros behind them. -/
def DecodePlaced (k : Kind) (a : Arrays) : Prop :=
  ∀ c ∈ k.decoding,
    (∀ i < c.fecBits, ∀ j, (a.decoder c i).n ≤ j → j < (a.decoder c (i + 1)).n → j < k.decodeSymbols) ∧
    (a.decoder c c.fecBits).n + 8 ≤ k.decodeSymbols

/-- `decode` erases exactly what `encode` drops. -/
def Restored (k : Kind) (a : Arrays) : Prop :=
  ∀ p, (∃ c ∈ k.decoding, Erased a c p) ↔ Dropped a k.encoding p

/-- The loops of a channel stay in their arrays and match. -/
structure Punctures (k : Kind) (a : Arrays) : Prop where
  encodeIndexed : EncodeIndexed k a
  decodeIndexed : DecodeIndexed k a
  encodePlaced : EncodePlaced k a
  decodePlaced : DecodePlaced k a
  restored : Restored k a

/-! ## Turns before the last entry -/

section Turns

variable {c : Coding} (hs : c.punctureList.Pairwise (· < ·)) (a : Arrays)

include hs

theorem encoder_covered {p : Nat} (hp : ∀ i < p, ∃ q ∈ c.punctureList, i ≤ q) :
    (a.encoder c p).n = rank c.punctureList p ∧ (a.encoder c p).index = erasures c.punctureList p := by
  obtain ⟨out, hout, -⟩ := punctureLoop_rank hs a.past a.convolution (fun _ => 0) hp
  unfold Arrays.encoder
  rw [hout]
  exact ⟨rfl, rfl⟩

theorem dropped_covered {p : Nat} (hp : ∃ q ∈ c.punctureList, p ≤ q) (hconv : p < c.convBits) :
    Dropped a c p ↔ p ∈ c.punctureList := by
  obtain ⟨q, hq, hle⟩ := hp
  obtain ⟨-, hindex⟩ := encoder_covered hs a (p := p) fun i hi => ⟨q, hq, by omega⟩
  unfold Dropped
  rw [hindex, punctureAt_erasures hs a.past ⟨q, hq, hle⟩]
  exact and_iff_right hconv

variable (hgap : ∀ q ∈ c.punctureList, q + 1 ∉ c.punctureList)

include hgap

theorem decoder_stop {p : Nat} (hp : ∀ i < p, ∃ q ∈ c.punctureList, i ≤ q)
    (hstop : ∀ q, q + 1 = p → q ∉ c.punctureList) :
    (a.decoder c (rank c.punctureList p)).n = p ∧
      (a.decoder c (rank c.punctureList p)).index = erasures c.punctureList p := by
  obtain ⟨out, hout, -⟩ := depunctureLoop_rank hs a.past hgap a.buffer a.puncture hp hstop
  unfold Arrays.decoder
  rw [hout]
  exact ⟨rfl, rfl⟩

/-- Before a turn that is covered the loop `// depuncture` stands at a position that is. -/
theorem decoder_covered {i P : Nat} (hP : ∀ i < P, ∃ q ∈ c.punctureList, i ≤ q) (hi : i < rank c.punctureList P) :
    ∃ p < P, (a.decoder c i).n = p ∧ (a.decoder c i).index = erasures c.punctureList p := by
  obtain ⟨p, hp, hrank, hstop⟩ := exists_stop (hs.imp Nat.ne_of_lt) hi
  obtain ⟨hn, hindex⟩ := decoder_stop hs a hgap (fun i hi => hP i (by omega)) hstop
  rw [hrank] at hn hindex
  exact ⟨p, hp, hn, hindex⟩

/-- The turn that comes to an entry erases it. -/
theorem erased_entry {q : Nat} (hq : q ∈ c.punctureList) (hturn : rank c.punctureList q < c.fecBits) : Erased a c q := by
  obtain ⟨hn, hindex⟩ := decoder_stop hs a hgap (fun i hi => ⟨q, hq, by omega⟩)
    fun q' hq' hmem => hgap q' hmem (hq'.symm ▸ hq)
  refine ⟨rank c.punctureList q, hturn, hn.symm, ?_⟩
  rw [hn, hindex]
  exact (punctureAt_erasures hs a.past ⟨q, hq, le_rfl⟩).mpr hq

/-- A covered turn erases nothing but entries. -/
theorem mem_of_erased_turn {i P : Nat} (hP : ∀ i < P, ∃ q ∈ c.punctureList, i ≤ q) (hi : i < rank c.punctureList P)
    (herase : (a.decoder c i).n = punctureAt c.punctureList a.past (a.decoder c i).index) :
    (a.decoder c i).n ∈ c.punctureList ∧ (a.decoder c i).n < P := by
  obtain ⟨p, hp, hn, hindex⟩ := decoder_covered hs a hgap hP hi
  rw [hn, hindex] at herase
  rw [hn]
  exact ⟨(punctureAt_erasures hs a.past (hP p hp)).mp herase, hp⟩

end Turns

/-- A turn of the loop `// puncture` goes on in the list, or writes a bit. -/
theorem encoder_succ (a : Arrays) (c : Coding) (i : Nat) :
    (a.encoder c (i + 1)).n = (a.encoder c i).n +
        (if i = punctureAt c.punctureList a.past (a.encoder c i).index then 0 else 1) ∧
      (a.encoder c (i + 1)).index = (a.encoder c i).index +
        if i = punctureAt c.punctureList a.past (a.encoder c i).index then 1 else 0 := by
  unfold Arrays.encoder punctureLoop
  rw [List.range_succ, List.foldl_append, List.foldl_cons, List.foldl_nil, punctureTurn]
  generalize (List.range i).foldl (punctureTurn c.punctureList a.past a.convolution) ⟨0, 0, fun _ => 0⟩ = s
  by_cases hdrop : i = punctureAt c.punctureList a.past s.index
  · rw [if_neg (not_not_intro hdrop), if_pos hdrop, if_pos hdrop]
    exact ⟨rfl, rfl⟩
  · rw [if_pos hdrop, if_neg hdrop, if_neg hdrop]
    exact ⟨rfl, rfl⟩

/-- A turn of the loop `// depuncture` goes on by one symbol, and by one more if it erases. -/
theorem decoder_succ (a : Arrays) (c : Coding) (i : Nat) :
    (a.decoder c (i + 1)).n = (a.decoder c i).n +
        (if (a.decoder c i).n = punctureAt c.punctureList a.past (a.decoder c i).index then 2 else 1) ∧
      (a.decoder c (i + 1)).index = (a.decoder c i).index +
        if (a.decoder c i).n = punctureAt c.punctureList a.past (a.decoder c i).index then 1 else 0 := by
  unfold Arrays.decoder
  rw [depunctureLoop_succ, depunctureTurn]
  split
  · exact ⟨rfl, rfl⟩
  · exact ⟨rfl, rfl⟩

theorem decoder_mono (a : Arrays) (c : Coding) {i j : Nat} (h : i ≤ j) : (a.decoder c i).n ≤ (a.decoder c j).n := by
  induction j, h using Nat.le_induction with
  | base => exact le_rfl
  | succ j _ ih =>
      have hstep := (decoder_succ a c j).1
      split at hstep <;> omega

/-! ## Lists that end inside -/

section Inside

variable {c : Coding} {m : Nat} (hs : c.punctureList.Pairwise (· < ·)) (hend : EndsInside c m) (a : Arrays)

include hs hend

omit hs in
theorem covered_inside : ∀ i < 2 * m, ∃ q ∈ c.punctureList, i ≤ q := fun i hi =>
  ⟨2 * m - 1, hend.entry, by omega⟩

/-- The list is used up two turns before the end. -/
theorem encoder_inside :
    (a.encoder c (2 * m)).n = rank c.punctureList (2 * m) ∧ (a.encoder c (2 * m)).index = c.punctureList.length := by
  obtain ⟨hn, hindex⟩ := encoder_covered hs a (covered_inside hend)
  rw [erasures_of_below hend.below] at hindex
  exact ⟨hn, hindex⟩

theorem dropped_inside_first (hconv : c.convBits = 2 * m + 2) : Dropped a c (2 * m) ↔ a.past 0 = 2 * m := by
  obtain ⟨-, hindex⟩ := encoder_inside hs hend a
  unfold Dropped
  rw [hindex, punctureAt_length, hconv, and_iff_right (by omega)]
  exact eq_comm

theorem dropped_inside_second (hconv : c.convBits = 2 * m + 2) (hpast : a.past 0 ≠ 2 * m) :
    Dropped a c (2 * m + 1) ↔ a.past 0 = 2 * m + 1 := by
  obtain ⟨-, hindex⟩ := encoder_inside hs hend a
  have hnext : (a.encoder c (2 * m + 1)).index = c.punctureList.length := by
    rw [(encoder_succ a c (2 * m)).2, hindex, punctureAt_length, if_neg hpast.symm]
    rfl
  unfold Dropped
  rw [hnext, punctureAt_length, hconv, and_iff_right (by omega)]
  exact eq_comm

theorem encodePlaced_inside {octets : Nat} (hconv : c.convBits = 2 * m + 2) (hroom : c.fecBits ≤ 8 * octets) :
    ∀ i < c.convBits, ¬ Dropped a c i → (a.encoder c i).n < 8 * octets := by
  intro i hi _
  have hfec := hend.fecBits
  obtain ⟨hn, -⟩ := encoder_inside hs hend a
  rcases (by omega : i < 2 * m ∨ i = 2 * m ∨ i = 2 * m + 1) with hlt | rfl | rfl
  · obtain ⟨hbefore, -⟩ := encoder_covered hs a (p := i) fun j hj => covered_inside hend j (by omega)
    have := rank_mono (hs.imp Nat.ne_of_lt) (Nat.le_of_lt hlt)
    omega
  · omega
  · have hstep := (encoder_succ a c (2 * m)).1
    split at hstep <;> omega

variable (hgap : ∀ q ∈ c.punctureList, q + 1 ∉ c.punctureList)

include hgap

/-- The turn before the last of the loop `// depuncture` comes to the last entry. -/
theorem decoder_entry : (a.decoder c (rank c.punctureList (2 * m))).n = 2 * m - 1 ∧
    (a.decoder c (rank c.punctureList (2 * m))).index = erasures c.punctureList (2 * m - 1) := by
  have hpos := hend.pos
  have hsub : 2 * m - 1 + 1 = 2 * m := by omega
  have hrank : rank c.punctureList (2 * m - 1) = rank c.punctureList (2 * m) := by
    rw [← rank_succ_of_mem (hs.imp Nat.ne_of_lt) hend.entry, hsub]
  rw [← hrank]
  exact decoder_stop hs a hgap (fun i hi => covered_inside hend i (by omega))
    fun q hq hmem => hgap q hmem (hq.symm ▸ hend.entry)

/-- The last turn finds the list used up. -/
theorem decoder_inside : (a.decoder c (rank c.punctureList (2 * m) + 1)).n = 2 * m + 1 ∧
    (a.decoder c (rank c.punctureList (2 * m) + 1)).index = c.punctureList.length := by
  have hpos := hend.pos
  have hsub : 2 * m - 1 + 1 = 2 * m := by omega
  have hcount : erasures c.punctureList (2 * m - 1) + 1 = c.punctureList.length := by
    rw [← erasures_of_below hend.below, ← hsub, erasures_succ (hs.imp Nat.ne_of_lt), if_pos hend.entry, hsub]
  have hentry : 2 * m - 1 = punctureAt c.punctureList a.past (erasures c.punctureList (2 * m - 1)) :=
    (punctureAt_erasures hs a.past ⟨_, hend.entry, le_rfl⟩).mpr hend.entry
  obtain ⟨hn, hindex⟩ := decoder_entry hs hend a hgap
  obtain ⟨hn', hindex'⟩ := decoder_succ a c (rank c.punctureList (2 * m))
  rw [hn, hindex, if_pos hentry] at hn' hindex'
  exact ⟨by omega, by omega⟩

theorem erased_inside {p : Nat} :
    Erased a c p ↔ p ∈ c.punctureList ∨ p = 2 * m + 1 ∧ a.past 0 = 2 * m + 1 := by
  have hfec := hend.fecBits
  obtain ⟨hn, hindex⟩ := decoder_inside hs hend a hgap
  have hentry := (decoder_entry hs hend a hgap).1
  constructor
  · rintro ⟨i, hi, rfl, herase⟩
    rcases Nat.lt_or_ge i (rank c.punctureList (2 * m)) with hlt | hge
    · exact Or.inl (mem_of_erased_turn hs a hgap (covered_inside hend) hlt herase).1
    · rcases (by omega : i = rank c.punctureList (2 * m) ∨ i = rank c.punctureList (2 * m) + 1) with rfl | rfl
      · rw [hentry]
        exact Or.inl hend.entry
      · rw [hn, hindex, punctureAt_length] at herase
        exact Or.inr ⟨hn, herase.symm⟩
  · rintro (hmem | ⟨rfl, hpast⟩)
    · refine erased_entry hs a hgap hmem ?_
      have := rank_mono (hs.imp Nat.ne_of_lt) (Nat.le_of_lt (hend.below p hmem))
      omega
    · refine ⟨rank c.punctureList (2 * m) + 1, by omega, hn.symm, ?_⟩
      rw [hn, hindex, punctureAt_length, hpast]

theorem restored_inside (hconv : c.convBits = 2 * m + 2) :
    (∀ p, Erased a c p ↔ Dropped a c p) ↔ a.past 0 ≠ 2 * m := by
  have hnot : ¬ Erased a c (2 * m) := by
    rw [erased_inside hs hend a hgap]
    rintro (hmem | ⟨heq, -⟩)
    · exact absurd (hend.below _ hmem) (Nat.lt_irrefl _)
    · omega
  constructor
  · intro hall hpast
    exact hnot ((hall (2 * m)).mpr ((dropped_inside_first hs hend a hconv).mpr hpast))
  · intro hpast p
    rcases (by omega : p < 2 * m ∨ p = 2 * m ∨ p = 2 * m + 1 ∨ 2 * m + 1 < p) with hlt | rfl | rfl | hgt
    · rw [erased_inside hs hend a hgap, dropped_covered hs a (covered_inside hend p hlt) (by omega)]
      exact or_iff_left fun h => by omega
    · rw [dropped_inside_first hs hend a hconv]
      exact iff_of_false hnot hpast
    · rw [erased_inside hs hend a hgap, dropped_inside_second hs hend a hconv hpast, eq_self_iff_true, true_and]
      exact or_iff_right fun hmem => absurd (hend.below _ hmem) (by omega)
    · rw [erased_inside hs hend a hgap]
      refine iff_of_false ?_ fun hdrop => ?_
      · rintro (hmem | ⟨heq, -⟩)
        · exact absurd (hend.below _ hmem) (by omega)
        · omega
      · have := hdrop.1
        omega

/-- The loop `// depuncture` ends at most two symbols behind its last turn. -/
theorem decoder_end_inside : (a.decoder c c.fecBits).n ≤ 2 * m + 3 := by
  obtain ⟨hn, -⟩ := decoder_inside hs hend a hgap
  have hstep := (decoder_succ a c (rank c.punctureList (2 * m) + 1)).1
  have hfec : c.fecBits = rank c.punctureList (2 * m) + 1 + 1 := hend.fecBits
  rw [hfec]
  split at hstep <;> omega

end Inside

/-! ## Lists that end behind -/

section Behind

variable {c : Coding} {m : Nat} (hs : c.punctureList.Pairwise (· < ·)) (hend : EndsBehind c m) (a : Arrays)

include hs hend

omit hs in
theorem covered_behind : ∀ i < 2 * m + 2, ∃ q ∈ c.punctureList, i ≤ q := fun i hi =>
  ⟨2 * m + 1, hend.entry, by omega⟩

theorem encodeIndexed_behind (hconv : c.convBits = 2 * m + 2) :
    ∀ i < c.convBits, (a.encoder c i).index < c.punctureList.length := by
  intro i hi
  obtain ⟨-, hindex⟩ := encoder_covered hs a (p := i) fun j hj => covered_behind hend j (by omega)
  rw [hindex]
  exact erasures_lt_length_iff.mpr (covered_behind hend i (by omega))

theorem rank_behind : rank c.punctureList (2 * m + 1) = c.fecBits := by
  rw [rank_succ_of_notMem (hs.imp Nat.ne_of_lt) hend.notMem, hend.fecBits]

theorem encodePlaced_behind {octets : Nat} (hconv : c.convBits = 2 * m + 2) (hroom : c.fecBits ≤ 8 * octets) :
    ∀ i < c.convBits, ¬ Dropped a c i → (a.encoder c i).n < 8 * octets := by
  intro i hi hkept
  have hnd : c.punctureList.Nodup := hs.imp Nat.ne_of_lt
  have hcovered := covered_behind hend i (by omega)
  have hmem : i ∉ c.punctureList := fun hmem => hkept ((dropped_covered hs a hcovered hi).mpr hmem)
  obtain ⟨hn, -⟩ := encoder_covered hs a (p := i) fun j hj => covered_behind hend j (by omega)
  have hne : i ≠ 2 * m + 1 := fun heq => hmem (heq ▸ hend.entry)
  have hlt := rank_lt hnd hmem (q := 2 * m + 1) (by omega)
  rw [rank_behind hs hend] at hlt
  omega

variable (hgap : ∀ q ∈ c.punctureList, q + 1 ∉ c.punctureList)

include hgap

theorem decodeIndexed_behind : ∀ i < c.fecBits, (a.decoder c i).index < c.punctureList.length := by
  intro i hi
  rw [← rank_behind hs hend] at hi
  obtain ⟨p, hp, -, hindex⟩ := decoder_covered hs a hgap (fun i hi => covered_behind hend i (by omega)) hi
  rw [hindex]
  exact erasures_lt_length_iff.mpr (covered_behind hend p (by omega))

/-- The last entry is dropped and not erased. -/
theorem not_restored_behind (hconv : c.convBits = 2 * m + 2) :
    Dropped a c (2 * m + 1) ∧ ¬ Erased a c (2 * m + 1) := by
  refine ⟨(dropped_covered hs a ⟨_, hend.entry, le_rfl⟩ (by omega)).mpr hend.entry, ?_⟩
  rintro ⟨i, hi, heq, herase⟩
  rw [← rank_behind hs hend] at hi
  have hlt := (mem_of_erased_turn hs a hgap (fun i hi => covered_behind hend i (by omega)) hi herase).2
  omega

theorem decoder_end_behind : (a.decoder c c.fecBits).n = 2 * m + 1 := by
  have hstop := (decoder_stop hs a hgap (p := 2 * m + 1) (fun i hi => covered_behind hend i (by omega))
    fun q hq hmem => hgap q hmem (hq.symm ▸ hend.entry)).1
  rwa [rank_behind hs hend] at hstop

end Behind

/-! ## The channels -/

theorem decodePlaced_of_end {a : Arrays} {c : Coding} {symbols : Nat} (h : (a.decoder c c.fecBits).n + 8 ≤ symbols) :
    (∀ i < c.fecBits, ∀ j, (a.decoder c i).n ≤ j → j < (a.decoder c (i + 1)).n → j < symbols) ∧
      (a.decoder c c.fecBits).n + 8 ≤ symbols := by
  refine ⟨fun i hi j _ hj => ?_, h⟩
  have := decoder_mono a c (show i + 1 ≤ c.fecBits from hi)
  omega

/-- A channel whose list ends inside: both loops read behind it. -/
theorem parts_inside {k : Kind} {m : Nat} (hdec : k.decoding = some k.encoding) (hsound : Sound k.encoding m)
    (hend : EndsInside k.encoding m) (hroom : k.encoding.fecBits ≤ 8 * k.encodeOctets)
    (hsymbols : 2 * m + 11 ≤ k.decodeSymbols) (a : Arrays) :
    ¬ EncodeIndexed k a ∧ ¬ DecodeIndexed k a ∧ EncodePlaced k a ∧ DecodePlaced k a ∧
      (Restored k a ↔ a.past 0 ≠ 2 * m) := by
  have hs := hsound.sorted
  have hmem : ∀ c, c ∈ k.decoding ↔ k.encoding = c := fun c => by rw [hdec, Option.mem_some]
  refine ⟨fun hindexed => ?_, fun hindexed => ?_, encodePlaced_inside hs hend a hsound.convBits hroom, fun c hc => ?_, ?_⟩
  · have hlast := hindexed (2 * m) (by rw [hsound.convBits]; omega)
    rw [(encoder_inside hs hend a).2] at hlast
    exact Nat.lt_irrefl _ hlast
  · have hlast := hindexed k.encoding ((hmem _).mpr rfl) (rank k.encoding.punctureList (2 * m) + 1)
      (by rw [hend.fecBits]; omega)
    rw [(decoder_inside hs hend a hsound.gap).2] at hlast
    exact Nat.lt_irrefl _ hlast
  · obtain rfl := (hmem c).mp hc
    have hlast := decoder_end_inside hs hend a hsound.gap
    exact decodePlaced_of_end (by omega)
  · rw [← restored_inside hs hend a hsound.gap hsound.convBits]
    refine forall_congr' fun p => iff_congr ?_ Iff.rfl
    constructor
    · rintro ⟨c, hc, herased⟩
      rwa [← (hmem c).mp hc] at herased
    · exact fun herased => ⟨k.encoding, (hmem _).mpr rfl, herased⟩

theorem parts_SACCH (a : Arrays) : EncodeIndexed .SACCH a ∧ DecodeIndexed .SACCH a ∧ EncodePlaced .SACCH a ∧
    DecodePlaced .SACCH a ∧ ¬ Restored .SACCH a := by
  have hs := SACCH.sound.sorted
  have hend := SACCH.endsBehind
  have hgap := SACCH.sound.gap
  refine ⟨encodeIndexed_behind hs hend a rfl, fun c hc => ?_, encodePlaced_behind hs hend a rfl (by decide),
    fun c hc => ?_, fun hrestored => ?_⟩
  · obtain rfl := Option.mem_some.mp hc
    exact decodeIndexed_behind hs hend a hgap
  · obtain rfl := Option.mem_some.mp hc
    exact decodePlaced_of_end (by rw [decoder_end_behind hs hend a hgap]; decide)
  · obtain ⟨hdropped, hkept⟩ := not_restored_behind hs hend a hgap rfl
    obtain ⟨c, hc, herased⟩ := (hrestored _).mpr hdropped
    rw [← Option.mem_some.mp hc] at herased
    exact hkept herased

theorem sorted_PUNCTURE_LIST_OUT : CAC.codingOut.punctureList.Pairwise (· < ·) := by decide +kernel

theorem endsInside_codingOut : EndsInside CAC.codingOut 174 where
  pos := by decide
  entry := by decide +kernel
  below := by decide +kernel
  fecBits := by decide +kernel

theorem parts_CAC (a : Arrays) : ¬ EncodeIndexed .CAC a ∧ DecodeIndexed .CAC a ∧ EncodePlaced .CAC a ∧
    DecodePlaced .CAC a ∧ ¬ Restored .CAC a := by
  have hs := sorted_PUNCTURE_LIST_OUT
  have hend := endsInside_codingOut
  refine ⟨fun hindexed => ?_, fun c hc => ?_, encodePlaced_inside hs hend a rfl (by decide), fun c hc => ?_,
    fun hrestored => ?_⟩
  · have hlast := hindexed (2 * 174) (by decide)
    rw [show (a.encoder Kind.CAC.encoding (2 * 174)).index = _ from (encoder_inside hs hend a).2] at hlast
    exact Nat.lt_irrefl _ hlast
  · exact absurd hc (Option.not_mem_none c)
  · exact absurd hc (Option.not_mem_none c)
  · -- outbound frames lose position 3, and `decode` erases nothing
    have hdropped : Dropped a CAC.codingOut 3 :=
      (dropped_covered hs a (covered_inside hend 3 (by decide)) (by decide)).mpr (by decide)
    obtain ⟨c, hc, -⟩ := (hrestored 3).mpr hdropped
    exact absurd hc (Option.not_mem_none c)

/-- **Puncture lists.** Whatever the arrays hold and whatever lies behind the list: `encode` stays in its list for SACCH
    alone, and `decode` for SACCH, and for CAC that has no such loop; all symbols have a place; `decode` erases what
    `encode` drops for FACCH1 and UDCH, unless the word behind the list is 190 or 404, and never for the others. So
    there is no channel of which all of it holds. -/
theorem punctures_never (k : Kind) (a : Arrays) :
    (EncodeIndexed k a ↔ k = .SACCH) ∧ (DecodeIndexed k a ↔ k = .SACCH ∨ k = .CAC) ∧ EncodePlaced k a ∧
      DecodePlaced k a ∧ (Restored k a ↔ k = .FACCH1 ∧ a.past 0 ≠ 190 ∨ k = .UDCH ∧ a.past 0 ≠ 404) ∧
      ¬ Punctures k a := by
  cases k with
  | SACCH =>
      obtain ⟨hencode, hdecode, hplaced, hplaced', hrestored⟩ := parts_SACCH a
      exact ⟨by simp [hencode], by simp [hdecode], hplaced, hplaced', by simp [hrestored],
        fun h => hrestored h.restored⟩
  | FACCH1 =>
      obtain ⟨hencode, hdecode, hplaced, hplaced', hrestored⟩ :=
        parts_inside (k := .FACCH1) rfl FACCH1.sound FACCH1.endsInside (by decide) (by decide) a
      exact ⟨by simp [hencode], by simp [hdecode], hplaced, hplaced', by simp [hrestored],
        fun h => hencode h.encodeIndexed⟩
  | UDCH =>
      obtain ⟨hencode, hdecode, hplaced, hplaced', hrestored⟩ :=
        parts_inside (k := .UDCH) rfl UDCH.sound UDCH.endsInside (by decide) (by decide) a
      exact ⟨by simp [hencode], by simp [hdecode], hplaced, hplaced', by simp [hrestored],
        fun h => hencode h.encodeIndexed⟩
  | CAC =>
      obtain ⟨hencode, hdecode, hplaced, hplaced', hrestored⟩ := parts_CAC a
      exact ⟨by simp [hencode], by simp [hdecode], hplaced, hplaced', by simp [hrestored],
        fun h => hencode h.encodeIndexed⟩

/-- **The loops leave a list**: that of FACCH1 has 48 entries, and turn 190 of `encode` reads entry 48. -/
theorem list_overrun : ¬ ∀ (k : Kind) (a : Arrays), Punctures k a := by
  intro hall
  let a : Arrays := ⟨fun _ => 0, fun _ => 0, fun _ => 0, fun _ => 0⟩
  have hindexed := (hall .FACCH1 a).encodeIndexed 190 (by decide)
  have hindex : (a.encoder FACCH1.coding 190).index = 48 :=
    (encoder_inside FACCH1.sound.sorted FACCH1.endsInside a).2
  rw [show (a.encoder Kind.FACCH1.encoding 190).index = 48 from hindex] at hindexed
  exact absurd hindexed (by decide)

end Channel

end DvmHost.Nxdn

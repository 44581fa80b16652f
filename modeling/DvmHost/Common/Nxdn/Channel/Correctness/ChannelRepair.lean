import DvmHost.Common.Nxdn.Channel.Puncture
import DvmHost.Common.Nxdn.Edac.Correctness.ViterbiRepair

/-!
# `Common.Nxdn.Channel.Correctness.ChannelRepair` — a block survives its channel

What `decode` hands to the convolution, position by position: a kept symbol is twice the bit of its rank (`Slot`).
Behind the last entry of the list the loops compare with the words that follow it in memory. Whatever those are, the
last two symbols of the block, which repeat the last bit of its CRC, are lost at worst, and the decoder is given what
`Convolution.Received` describes. The bits of the block before its four zeros therefore come back after one inverted
bit of the frame, for every channel whose tables pass `Sound`.
-/

namespace DvmHost.Nxdn

namespace Channel

open Convolution

/-! ## Slots -/

/-- Where a symbol comes from: the erasure mark, a zero, or a bit of the frame. -/
inductive Slot where
  | erased
  | zero
  | bit (k : Nat)

/-- The symbol, for the bits `b` of the frame. -/
def Slot.symbol (b : Nat → Bool) : Slot → UInt8
  | erased => 1
  | zero => 0
  | bit k => if b k then 2 else 0

/-- The slots of a block whose last step is `m`: ranks, then two slots of the channel's own, then zeros. -/
def slotOf (list : List Nat) (m : Nat) (s1 s2 : Slot) (p : Nat) : Slot :=
  if p < 2 * m then if p ∈ list then .erased else .bit (rank list p)
  else if p = 2 * m then .bit (rank list (2 * m))
  else if p = 2 * m + 1 then s1
  else if p = 2 * m + 2 then s2
  else .zero

/-- The symbols before the end of the eight zeros, which is all the decoder reads. -/
def trimmed (m : Nat) (r : Bytes) : Bytes := fun p => if p < 2 * m + 10 then r p else 0

section SlotOf

variable (list : List Nat) (m : Nat) (s1 s2 : Slot)

theorem slotOf_of_lt {p : Nat} (hp : p < 2 * m) :
    slotOf list m s1 s2 p = if p ∈ list then .erased else .bit (rank list p) := if_pos hp

theorem slotOf_zero : slotOf list m s1 s2 (2 * m) = .bit (rank list (2 * m)) := by
  rw [slotOf, if_neg (Nat.lt_irrefl _), if_pos rfl]

theorem slotOf_one : slotOf list m s1 s2 (2 * m + 1) = s1 := by
  rw [slotOf, if_neg (by omega), if_neg (by omega), if_pos rfl]

theorem slotOf_two : slotOf list m s1 s2 (2 * m + 2) = s2 := by
  rw [slotOf, if_neg (by omega), if_neg (by omega), if_neg (by omega), if_pos rfl]

theorem slotOf_of_gt {p : Nat} (hp : 2 * m + 2 < p) : slotOf list m s1 s2 p = .zero := by
  rw [slotOf, if_neg (by omega), if_neg (by omega), if_neg (by omega), if_neg (by omega)]

end SlotOf

theorem Slot.symbol_le (b : Nat → Bool) (s : Slot) : (s.symbol b).toNat ≤ 2 := by
  cases s with
  | erased => exact Nat.le_succ 1
  | zero => exact Nat.zero_le 2
  | bit k =>
      show (if b k then (2 : UInt8) else 0).toNat ≤ 2
      cases b k <;> decide

/-- **What arrives.** Bits `ch` were sent, at most bit `q` was inverted, and every bit has one slot. -/
theorem received_of_slots {list : List Nat} {m q K : Nat} {y ch b : Nat → Bool} {slot : Nat → Slot} {r : Bytes}
    (hflip : ∀ k < K, k ≠ q → b k = ch k) (hbound : ∀ p k, slot p = .bit k → k < K)
    (hr : ∀ p < 2 * m + 10, r p = (slot p).symbol b)
    (hinj : ∀ p p' k, slot p = .bit k → slot p' = .bit k → p = p')
    (herased : ∀ p < 2 * m, p ∈ list → slot p = .erased)
    (hkept : ∀ p < 2 * m, p ∉ list → ∃ k, slot p = .bit k ∧ ch k = Convolution.symbol y p)
    (hlast : ∀ p, 2 * m ≤ p → p < 2 * m + 2 → ∀ k, slot p = .bit k → y m = false → ch k = false)
    (hafter : ∀ p, 2 * m + 2 ≤ p → p < 2 * m + 10 → slot p = .zero ∨ ∃ k, slot p = .bit k ∧ ch k = false) :
    ∃ f, Received list m y f (trimmed m r) := by
  -- the symbol of the inverted bit
  obtain ⟨f, hf⟩ : ∃ f, ∀ p, p ≠ f → slot p ≠ .bit q := by
    by_cases h : ∃ p, slot p = .bit q
    · obtain ⟨f, hf⟩ := h
      exact ⟨f, fun p hp hq => hp (hinj p f q hq hf)⟩
    · exact ⟨0, fun p _ hq => h ⟨p, hq⟩⟩
  have hbit : ∀ p k, p ≠ f → slot p = .bit k → b k = ch k := fun p k hp hk =>
    hflip k (hbound p k hk) fun hkq => hf p hp (hkq ▸ hk)
  have htrim : ∀ p < 2 * m + 10, trimmed m r p = (slot p).symbol b := fun p hp => by
    rw [trimmed, if_pos hp, hr p hp]
  refine ⟨f, fun p => ?_, fun p hp hmem => ?_, fun p hp hmem hpf => ?_, fun p hp hlt hpf hy => ?_,
    fun p hp hlt hpf => ?_⟩
  · by_cases hp : p < 2 * m + 10
    · rw [htrim p hp]
      exact Slot.symbol_le b _
    · rw [trimmed, if_neg hp]
      decide
  · rw [htrim p (by omega), herased p hp hmem]
    rfl
  · obtain ⟨k, hk, hch⟩ := hkept p hp hmem
    rw [htrim p (by omega), hk, Slot.symbol, hbit p k hpf hk, hch]
    cases Convolution.symbol y p <;> rfl
  · rw [htrim p (by omega)]
    cases hs : slot p with
    | erased => exact Nat.le_refl 1
    | zero => exact Nat.zero_le 1
    | bit k =>
        rw [Slot.symbol, hbit p k hpf hs, hlast p hp hlt k hs hy]
        decide
  · rw [htrim p (by omega)]
    rcases hafter p hp hlt with hz | ⟨k, hk, hch⟩
    · rw [hz]
      rfl
    · rw [hk, Slot.symbol, hbit p k hpf hk, hch]
      rfl

/-! ## Channels -/

/-- What the tables of a channel are checked for; `m` is the last step of the block. -/
structure Sound (c : Coding) (m : Nat) : Prop where
  crcBits : c.crcBits = m + 1
  convBits : c.convBits = 2 * m + 2
  tableLength : c.interleaveTable.length = c.fecBits
  tableNodup : c.interleaveTable.Nodup
  tableLt : ∀ n ∈ c.interleaveTable, n < c.fecBits
  sorted : c.punctureList.Pairwise (· < ·)
  gap : ∀ q ∈ c.punctureList, q + 1 ∉ c.punctureList
  separates : separates (labelTable (counted c.punctureList m) (m + 1) m) = true
  room : m + 5 ≤ 300

/-- The list ends right before the last step, and both symbols of that step are sent. -/
structure EndsInside (c : Coding) (m : Nat) : Prop where
  pos : 0 < m
  entry : 2 * m - 1 ∈ c.punctureList
  below : ∀ q ∈ c.punctureList, q < 2 * m
  fecBits : c.fecBits = rank c.punctureList (2 * m) + 2

/-- The list ends with the second symbol of the last step. -/
structure EndsBehind (c : Coding) (m : Nat) : Prop where
  entry : 2 * m + 1 ∈ c.punctureList
  notMem : 2 * m ∉ c.punctureList
  below : ∀ q ∈ c.punctureList, q < 2 * m + 2
  fecBits : c.fecBits = rank c.punctureList (2 * m) + 1

/-- The bits of the frame, as the block's path and the list make them. -/
structure Sent (c : Coding) (m : Nat) (past : Nat → Nat) (y ch : Nat → Bool) : Prop where
  kept : ∀ p < 2 * m, p ∉ c.punctureList → ch (rank c.punctureList p) = Convolution.symbol y p
  last : ∀ k, rank c.punctureList (2 * m) ≤ k → y m = false → ch k = false
  skip : (∀ q ∈ c.punctureList, q < 2 * m) → past 0 = 2 * m + 1 → ch (rank c.punctureList (2 * m) + 1) = false

/-- The path of a buffer. -/
def pathOf (buffer : Bytes) : Nat → Bool := delayed (readBit buffer)

theorem readBit_encode_symbol (buffer : Bytes) {n p : Nat} (hp : p < 2 * n) :
    readBit (Convolution.encode buffer (fun _ => 0) n) p = Convolution.symbol (pathOf buffer) p := by
  rw [readBit_encode, if_pos hp]
  rfl

/-- All entries are counted. -/
theorem erasures_of_below {list : List Nat} {p : Nat} (h : ∀ q ∈ list, q < p) : erasures list p = list.length :=
  List.countP_eq_length.mpr fun q hq => decide_eq_true (h q hq)

/-! ## What encode sends -/

/-- The turns past position `2 * m` leave the first `R` bits and write the bit `v` behind them, or nothing. -/
structure Tail (R : Nat) (v : Bool) (out : Bytes) (s : Cursor) : Prop where
  n : R ≤ s.n
  front : ∀ k < R, readBit s.out k = readBit out k
  clear : ∀ k, R ≤ k → v = false → readBit s.out k = false

theorem Tail.turn {R : Nat} {v : Bool} {out : Bytes} {s : Cursor} (h : Tail R v out s) (list : List Nat)
    (past : Nat → Nat) {convolution : Bytes} {i : Nat} (hv : readBit convolution i = v) :
    Tail R v out (punctureTurn list past convolution s i) := by
  unfold punctureTurn
  split
  · have hn := h.n
    refine ⟨Nat.le_succ_of_le h.n, fun k hk => ?_, fun k hk hfalse => ?_⟩
    · show readBit (writeBit s.out s.n _) k = _
      rw [readBit_writeBit, if_neg (by omega), h.front k hk]
    · show readBit (writeBit s.out s.n _) k = _
      rw [readBit_writeBit, hv, hfalse, h.clear k hk hfalse, ite_self]
  · exact ⟨h.n, h.front, h.clear⟩

section Encode

variable {c : Coding} {m : Nat} (hc : Sound c m) (past : Nat → Nat) (buffer : Bytes)

include hc

theorem readBit_last (htail : ∀ u, m < u → pathOf buffer u = false) {p : Nat} (hp : 2 * m ≤ p)
    (hlt : p < 2 * m + 2) :
    readBit (Convolution.encode buffer (fun _ => 0) c.crcBits) p = pathOf buffer m := by
  rw [readBit_encode_symbol buffer (by rw [hc.crcBits]; omega), symbol_tail htail hp, decide_eq_true hlt,
    Bool.true_and]

/-- A list that ends inside: the last two turns compare with what follows it. -/
theorem punctureLoop_inside (hend : EndsInside c m) :
    ∃ out, punctureLoop c.punctureList past (Convolution.encode buffer (fun _ => 0) c.crcBits) (fun _ => 0) c.convBits
        = punctureTurn c.punctureList past (Convolution.encode buffer (fun _ => 0) c.crcBits)
            (punctureTurn c.punctureList past (Convolution.encode buffer (fun _ => 0) c.crcBits)
              ⟨rank c.punctureList (2 * m), c.punctureList.length, out⟩ (2 * m)) (2 * m + 1) ∧
      (∀ p < 2 * m, p ∉ c.punctureList → readBit out (rank c.punctureList p)
        = readBit (Convolution.encode buffer (fun _ => 0) c.crcBits) p) ∧
      ∀ k, rank c.punctureList (2 * m) ≤ k → readBit out k = false := by
  have hpos := hend.pos
  obtain ⟨out, hout, hkept, hfree⟩ := punctureLoop_rank hc.sorted past
    (Convolution.encode buffer (fun _ => 0) c.crcBits) (fun _ => 0) (p := 2 * m)
    (fun i hi => ⟨2 * m - 1, hend.entry, by omega⟩)
  refine ⟨out, ?_, hkept, fun k hk => ?_⟩
  · rw [hc.convBits, punctureLoop, List.range_succ, List.range_succ, List.foldl_append, List.foldl_append,
      ← erasures_of_below hend.below]
    exact congrArg (fun s => punctureTurn _ _ _ (punctureTurn _ _ _ s _) _) hout
  · rw [hfree k hk, readBit_eq]
    exact bitOf_zero _

/-- What a list that ends inside sends. -/
theorem sent_inside (hend : EndsInside c m) (htail : ∀ u, m < u → pathOf buffer u = false) :
    Sent c m past (pathOf buffer) (readBit (punctureLoop c.punctureList past
      (Convolution.encode buffer (fun _ => 0) c.crcBits) (fun _ => 0) c.convBits).out) := by
  have hnd : c.punctureList.Nodup := hc.sorted.imp Nat.ne_of_lt
  have hv0 := readBit_last hc buffer htail (p := 2 * m) le_rfl (by omega)
  have hv1 := readBit_last hc buffer htail (p := 2 * m + 1) (by omega) (by omega)
  obtain ⟨out, hloop, hkept, hzero⟩ := punctureLoop_inside hc past buffer hend
  have hstart : Tail (rank c.punctureList (2 * m)) (pathOf buffer m) out
      ⟨rank c.punctureList (2 * m), c.punctureList.length, out⟩ :=
    ⟨le_rfl, fun _ _ => rfl, fun k hk _ => hzero k hk⟩
  have htailed := (hstart.turn c.punctureList past hv0).turn c.punctureList past hv1
  rw [hloop]
  refine ⟨fun p hp hmem => ?_, htailed.clear, fun _ hpast => ?_⟩
  · rw [htailed.front _ (rank_lt hnd hmem hp), hkept p hp hmem, readBit_encode_symbol buffer (by rw [hc.crcBits]; omega)]
  · -- the second symbol is taken for an entry
    have hat0 : punctureAt c.punctureList past c.punctureList.length = 2 * m + 1 := by
      rw [punctureAt, List.getD_eq_default _ _ (Nat.le_refl _), Nat.sub_self, hpast]
    have hne : 2 * m ≠ 2 * m + 1 := by omega
    rw [punctureTurn, punctureTurn]
    simp only [hat0, hne, ne_eq, not_false_eq_true, if_true, not_true_eq_false, if_false]
    rw [readBit_writeBit, if_neg (by omega), hzero _ (by omega)]

/-- **The last two bits**: the last symbol twice, once, or not at all, as what follows the list is taken for entries. -/
theorem lastBits_inside (hend : EndsInside c m) (htail : ∀ u, m < u → pathOf buffer u = false) :
    let sent := readBit (punctureLoop c.punctureList past (Convolution.encode buffer (fun _ => 0) c.crcBits)
      (fun _ => 0) c.convBits).out
    let first := rank c.punctureList (2 * m)
    (sent first = pathOf buffer m ∧ sent (first + 1) = pathOf buffer m) ∨
      (sent first = pathOf buffer m ∧ sent (first + 1) = false) ∨ (sent first = false ∧ sent (first + 1) = false) := by
  intro sent first
  have hv0 := readBit_last hc buffer htail (p := 2 * m) le_rfl (by omega)
  have hv1 := readBit_last hc buffer htail (p := 2 * m + 1) (by omega) (by omega)
  obtain ⟨out, hloop, -, hzero⟩ := punctureLoop_inside hc past buffer hend
  have h0 := hzero first (Nat.le_refl _)
  have h1 := hzero (first + 1) (Nat.le_succ _)
  have hturn : ∀ (s : Cursor) (i : Nat), readBit (Convolution.encode buffer (fun _ => 0) c.crcBits) i = pathOf buffer m →
      (punctureTurn c.punctureList past (Convolution.encode buffer (fun _ => 0) c.crcBits) s i).out
          = writeBit s.out s.n (pathOf buffer m) ∧
        (punctureTurn c.punctureList past (Convolution.encode buffer (fun _ => 0) c.crcBits) s i).n = s.n + 1 ∨
      (punctureTurn c.punctureList past (Convolution.encode buffer (fun _ => 0) c.crcBits) s i).out = s.out ∧
        (punctureTurn c.punctureList past (Convolution.encode buffer (fun _ => 0) c.crcBits) s i).n = s.n := by
    intro s i hv
    unfold punctureTurn
    split
    · exact Or.inl ⟨by rw [hv], rfl⟩
    · exact Or.inr ⟨rfl, rfl⟩
  have hfirst : first ≠ first + 1 := by omega
  show (readBit _ first = _ ∧ readBit _ (first + 1) = _) ∨ (readBit _ first = _ ∧ readBit _ (first + 1) = _) ∨
    (readBit _ first = _ ∧ readBit _ (first + 1) = _)
  rw [hloop]
  rcases hturn ⟨first, c.punctureList.length, out⟩ _ hv0 with ⟨hout, hn⟩ | ⟨hout, hn⟩ <;>
    rcases hturn (punctureTurn c.punctureList past (Convolution.encode buffer (fun _ => 0) c.crcBits)
      ⟨first, c.punctureList.length, out⟩ (2 * m)) _ hv1 with ⟨hout', -⟩ | ⟨hout', -⟩
  · left
    rw [hout', hout, hn, readBit_writeBit, readBit_writeBit, readBit_writeBit, if_neg hfirst, if_pos rfl, if_pos rfl]
    exact ⟨rfl, rfl⟩
  · right
    left
    rw [hout', hout, readBit_writeBit, readBit_writeBit, if_pos rfl, if_neg hfirst.symm]
    exact ⟨rfl, h1⟩
  · right
    left
    rw [hout', hout, hn, readBit_writeBit, readBit_writeBit, if_pos rfl, if_neg hfirst.symm]
    exact ⟨rfl, h1⟩
  · right
    right
    rw [hout', hout]
    exact ⟨h0, h1⟩

/-- A list that ends behind the block's first symbol of the last step: no turn reads past it. -/
theorem sent_behind (hend : EndsBehind c m) (htail : ∀ u, m < u → pathOf buffer u = false) :
    Sent c m past (pathOf buffer) (readBit (punctureLoop c.punctureList past
      (Convolution.encode buffer (fun _ => 0) c.crcBits) (fun _ => 0) c.convBits).out) := by
  have hnd : c.punctureList.Nodup := hc.sorted.imp Nat.ne_of_lt
  obtain ⟨out, hout, hkept, hfree⟩ := punctureLoop_rank hc.sorted past
    (Convolution.encode buffer (fun _ => 0) c.crcBits) (fun _ => 0) (p := 2 * m + 2)
    (fun i hi => ⟨2 * m + 1, hend.entry, by omega⟩)
  rw [hc.convBits, hout]
  refine ⟨fun p hp hmem => ?_, fun k hk hfalse => ?_, fun hbelow _ => ?_⟩
  · rw [hkept p (by omega) hmem, readBit_encode_symbol buffer (by rw [hc.crcBits]; omega)]
  · show readBit out k = false
    rcases Nat.lt_or_ge (rank c.punctureList (2 * m)) k with hlt | hge
    · rw [hfree k (by rw [rank_succ_of_mem hnd hend.entry, rank_succ_of_notMem hnd hend.notMem]; omega), readBit_eq]
      exact bitOf_zero _
    · rw [show k = rank c.punctureList (2 * m) by omega, hkept (2 * m) (by omega) hend.notMem,
        readBit_last hc buffer htail le_rfl (by omega), hfalse]
  · exact absurd (hbelow _ hend.entry) (by omega)

end Encode

/-! ## What decode makes of it -/

section Decode

variable {c : Coding} {m : Nat} (hc : Sound c m) (past : Nat → Nat) (buffer puncture : Bytes)

include hc

omit hc in
/-- The slots before `2 * m` are what the depuncturing loop puts there. -/
theorem symbol_slotOf_of_lt {out : Bytes} {n p : Nat} (s1 s2 : Slot) (hdep : Depunctured c.punctureList buffer out n)
    (hp : p < n) (hlt : p < 2 * m) : out p = (slotOf c.punctureList m s1 s2 p).symbol (readBit buffer) := by
  rw [hdep p hp, slotOf_of_lt _ _ _ _ hlt]
  split <;> rfl

theorem symbols_inside (hend : EndsInside c m) :
    ∃ s1 s2, ((s1 = .bit (rank c.punctureList (2 * m) + 1) ∧ s2 = .zero) ∨
        (s1 = .erased ∧ s2 = .bit (rank c.punctureList (2 * m) + 1) ∧ past 0 = 2 * m + 1)) ∧
      ∀ p < 2 * m + 10, (appendZeros (depunctureLoop c.punctureList past buffer puncture c.fecBits)).out p
        = (slotOf c.punctureList m s1 s2 p).symbol (readBit buffer) := by
  have hpos := hend.pos
  have hnd : c.punctureList.Nodup := hc.sorted.imp Nat.ne_of_lt
  have hsub : 2 * m - 1 + 1 = 2 * m := by omega
  have hrank : rank c.punctureList (2 * m - 1) = rank c.punctureList (2 * m) := by
    rw [← rank_succ_of_mem hnd hend.entry, hsub]
  have herase : erasures c.punctureList (2 * m - 1) + 1 = c.punctureList.length := by
    rw [← erasures_of_below hend.below, ← hsub, erasures_succ hnd, if_pos hend.entry, hsub]
  obtain ⟨out, hout, hdep, -⟩ := depunctureLoop_rank hc.sorted past hc.gap buffer puncture (p := 2 * m - 1)
    (fun i hi => ⟨2 * m - 1, hend.entry, by omega⟩) (fun q hq hmem => hc.gap q hmem (hq.symm ▸ hend.entry))
  have hentry : 2 * m - 1 = punctureAt c.punctureList past (erasures c.punctureList (2 * m - 1)) :=
    (punctureAt_erasures hc.sorted past ⟨_, hend.entry, le_rfl⟩).mpr hend.entry
  have hat0 : punctureAt c.punctureList past c.punctureList.length = past 0 := by
    rw [punctureAt, List.getD_eq_default _ _ (Nat.le_refl _), Nat.sub_self]
  rw [hrank] at hout
  -- the turn of the last entry puts the first symbol of the last step
  have hfirst : depunctureTurn c.punctureList past buffer
      ⟨2 * m - 1, erasures c.punctureList (2 * m - 1), out⟩ (rank c.punctureList (2 * m))
      = ⟨2 * m + 1, c.punctureList.length, setByte (setByte out (2 * m - 1) 1) (2 * m)
          (if readBit buffer (rank c.punctureList (2 * m)) then 2 else 0)⟩ := by
    rw [depunctureTurn, if_pos hentry, ← herase, hsub]
  rw [hend.fecBits, depunctureLoop_succ, depunctureLoop_succ, hout, hfirst, depunctureTurn, hat0]
  have hslots : ∀ s1 s2 p, p < 2 * m + 1 →
      setByte (setByte out (2 * m - 1) 1) (2 * m) (if readBit buffer (rank c.punctureList (2 * m)) then 2 else 0) p
        = (slotOf c.punctureList m s1 s2 p).symbol (readBit buffer) := fun s1 s2 p hp => by
    rcases (by omega : p < 2 * m - 1 ∨ p = 2 * m - 1 ∨ p = 2 * m) with hlt | rfl | rfl
    · rw [setByte_of_ne _ _ (by omega), setByte_of_ne _ _ (by omega)]
      exact symbol_slotOf_of_lt buffer s1 s2 hdep hlt (by omega)
    · rw [setByte_of_ne _ _ (by omega), setByte_same, slotOf_of_lt _ _ _ _ (by omega), if_pos hend.entry]
      rfl
    · rw [setByte_same, slotOf_zero]
      rfl
  by_cases hpast : past 0 = 2 * m + 1
  · -- the word behind the list looks like an entry: the last symbol comes one place later
    refine ⟨_, _, Or.inr ⟨rfl, rfl, hpast⟩, fun p hp => ?_⟩
    rw [appendZeros_apply, if_pos hpast.symm]
    dsimp only
    rcases (by omega : p < 2 * m + 1 ∨ p = 2 * m + 1 ∨ p = 2 * m + 2 ∨ 2 * m + 2 < p) with hlt | rfl | rfl | hgt
    · rw [if_neg (by omega), setByte_of_ne _ _ (by omega), setByte_of_ne _ _ (by omega)]
      exact hslots _ _ p hlt
    · rw [if_neg (by omega), setByte_of_ne _ _ (by omega), setByte_same, slotOf_one]
      rfl
    · rw [if_neg (by omega), setByte_same, slotOf_two]
      rfl
    · rw [if_pos (by omega), slotOf_of_gt _ _ _ _ hgt]
      rfl
  · have hno : ¬ 2 * m + 1 = past 0 := fun h => hpast h.symm
    refine ⟨_, _, Or.inl ⟨rfl, rfl⟩, fun p hp => ?_⟩
    rw [appendZeros_apply, if_neg hno]
    dsimp only
    rcases (by omega : p < 2 * m + 1 ∨ p = 2 * m + 1 ∨ 2 * m + 1 < p) with hlt | rfl | hgt
    · rw [if_neg (by omega), setByte_of_ne _ _ (by omega)]
      exact hslots _ _ p hlt
    · rw [if_neg (by omega), setByte_same, slotOf_one]
      rfl
    · rw [if_pos (by omega)]
      rcases (by omega : p = 2 * m + 2 ∨ 2 * m + 2 < p) with rfl | hgt
      · rw [slotOf_two]
        rfl
      · rw [slotOf_of_gt _ _ _ _ hgt]
        rfl

/-- A list that ends behind: the loop stops before its last entry, whose place is filled by the first zero. -/
theorem symbols_behind (hend : EndsBehind c m) {p : Nat} (hp : p < 2 * m + 10) :
    (appendZeros (depunctureLoop c.punctureList past buffer (fun _ => 0) c.fecBits)).out p
      = (slotOf c.punctureList m .zero .zero p).symbol (readBit buffer) := by
  have hnd : c.punctureList.Nodup := hc.sorted.imp Nat.ne_of_lt
  have hrank : rank c.punctureList (2 * m + 1) = c.fecBits := by
    rw [rank_succ_of_notMem hnd hend.notMem, hend.fecBits]
  obtain ⟨out, hout, hdep, hfree⟩ := depunctureLoop_rank hc.sorted past hc.gap buffer (fun _ => 0) (p := 2 * m + 1)
    (fun i hi => ⟨2 * m + 1, hend.entry, by omega⟩) (fun q hq hmem => hc.gap q hmem (hq.symm ▸ hend.entry))
  rw [← hrank, hout, appendZeros_apply]
  dsimp only
  rcases (by omega : p < 2 * m ∨ p = 2 * m ∨ 2 * m < p) with hlt | rfl | hgt
  · rw [if_neg (by omega)]
    exact symbol_slotOf_of_lt buffer _ _ hdep (by omega) hlt
  · rw [if_neg (by omega), hdep (2 * m) (by omega), if_neg hend.notMem, slotOf_zero]
    rfl
  · have hslot : slotOf c.punctureList m .zero .zero p = .zero := by
      rcases (by omega : p = 2 * m + 1 ∨ p = 2 * m + 2 ∨ 2 * m + 2 < p) with rfl | rfl | hgt
      · exact slotOf_one ..
      · exact slotOf_two ..
      · exact slotOf_of_gt _ _ _ _ hgt
    rw [hslot, hfree p (by omega), ite_self]
    rfl

end Decode

/-! ## The way through the frame -/

/-- The slots that the symbols of a channel can have at the end, for the bits `ch` that were sent. -/
def EndSlots (R K : Nat) (ch : Nat → Bool) (s1 s2 : Slot) : Prop :=
  (s1 = .zero ∧ s2 = .zero ∧ R < K) ∨ (s1 = .bit (R + 1) ∧ s2 = .zero ∧ R + 1 < K) ∨
    (s1 = .erased ∧ s2 = .bit (R + 1) ∧ R + 1 < K ∧ ch (R + 1) = false)

/-- The bit of a slot is below the length, and no other slot has it. -/
theorem slotOf_bit {list : List Nat} (hnd : list.Nodup) {m K : Nat} {ch : Nat → Bool} {s1 s2 : Slot}
    (hs : EndSlots (rank list (2 * m)) K ch s1 s2) {p k : Nat} (hk : slotOf list m s1 s2 p = .bit k) :
    k < K ∧ ((p < 2 * m ∧ p ∉ list ∧ k = rank list p) ∨ (p = 2 * m ∧ k = rank list (2 * m)) ∨
      (p = 2 * m + 1 ∧ k = rank list (2 * m) + 1 ∧ s1 ≠ .erased) ∨
      (p = 2 * m + 2 ∧ k = rank list (2 * m) + 1 ∧ s1 = .erased ∧ ch k = false)) := by
  have hR : rank list (2 * m) < K := by
    rcases hs with ⟨-, -, h⟩ | ⟨-, -, h⟩ | ⟨-, -, h, -⟩ <;> omega
  rcases (by omega : p < 2 * m ∨ p = 2 * m ∨ p = 2 * m + 1 ∨ p = 2 * m + 2 ∨ 2 * m + 2 < p)
    with hlt | rfl | rfl | rfl | hgt
  · rw [slotOf_of_lt _ _ _ _ hlt] at hk
    split at hk
    · cases hk
    · rename_i hmem
      obtain rfl := Slot.bit.inj hk
      exact ⟨lt_trans (rank_lt hnd hmem hlt) hR, Or.inl ⟨hlt, hmem, rfl⟩⟩
  · rw [slotOf_zero] at hk
    obtain rfl := Slot.bit.inj hk
    exact ⟨hR, Or.inr (Or.inl ⟨rfl, rfl⟩)⟩
  · rw [slotOf_one] at hk
    subst hk
    rcases hs with ⟨h, -⟩ | ⟨h, -, hK⟩ | ⟨h, -⟩
    · cases h
    · obtain rfl := Slot.bit.inj h
      exact ⟨hK, Or.inr (Or.inr (Or.inl ⟨rfl, rfl, fun he => by cases he⟩))⟩
    · cases h
  · rw [slotOf_two] at hk
    subst hk
    rcases hs with ⟨-, h, -⟩ | ⟨-, h, -⟩ | ⟨herased, h, hK, hch⟩
    · cases h
    · cases h
    · obtain rfl := Slot.bit.inj h
      exact ⟨hK, Or.inr (Or.inr (Or.inr ⟨rfl, rfl, herased, hch⟩))⟩
  · rw [slotOf_of_gt _ _ _ _ hgt] at hk
    cases hk

theorem slotOf_inj {list : List Nat} (hnd : list.Nodup) {m K : Nat} {ch : Nat → Bool} {s1 s2 : Slot}
    (hs : EndSlots (rank list (2 * m)) K ch s1 s2) {p p' k : Nat} (hp : slotOf list m s1 s2 p = .bit k)
    (hp' : slotOf list m s1 s2 p' = .bit k) : p = p' := by
  have hlt : ∀ {q}, q < 2 * m → q ∉ list → rank list q < rank list (2 * m) := fun hq hmem => rank_lt hnd hmem hq
  obtain ⟨-, h⟩ := slotOf_bit hnd hs hp
  obtain ⟨-, h'⟩ := slotOf_bit hnd hs hp'
  rcases h with ⟨hp, hmem, hk⟩ | ⟨hp, hk⟩ | ⟨hp, hk, hs1⟩ | ⟨hp, hk, hs1, -⟩ <;>
    rcases h' with ⟨hp', hmem', hk'⟩ | ⟨hp', hk'⟩ | ⟨hp', hk', hs1'⟩ | ⟨hp', hk', hs1', -⟩
  case inl.inl =>
    rcases Nat.lt_trichotomy p p' with hlt | heq | hgt
    · have := rank_lt hnd hmem hlt
      omega
    · exact heq
    · have := rank_lt hnd hmem' hgt
      omega
  case inr.inr.inl.inr.inr.inr => exact absurd hs1' hs1
  case inr.inr.inr.inr.inr.inl => exact absurd hs1 hs1'
  -- the bit of a rank before the last step is none of the bits of that step
  case inl.inr.inl | inl.inr.inr.inl | inl.inr.inr.inr =>
    have hbefore := hlt hp hmem
    omega
  case inr.inl.inl | inr.inr.inl.inl | inr.inr.inr.inl =>
    have hbefore := hlt hp' hmem'
    omega
  all_goals omega

/-- Bits sent, one of them inverted, and put into slots are what the decoder can repair. -/
theorem received_of_sent {c : Coding} {m q : Nat} {past : Nat → Nat} {y ch b : Nat → Bool} {r : Bytes} {s1 s2 : Slot}
    (hc : Sound c m) (hsent : Sent c m past y ch)
    (hs : EndSlots (rank c.punctureList (2 * m)) c.fecBits ch s1 s2)
    (hflip : ∀ k < c.fecBits, k ≠ q → b k = ch k)
    (hr : ∀ p < 2 * m + 10, r p = (slotOf c.punctureList m s1 s2 p).symbol b) :
    ∃ f, Received c.punctureList m y f (trimmed m r) := by
  have hnd : c.punctureList.Nodup := hc.sorted.imp Nat.ne_of_lt
  refine received_of_slots hflip (fun p k hk => (slotOf_bit hnd hs hk).1) hr (fun p p' k => slotOf_inj hnd hs)
    (fun p hp hmem => by rw [slotOf_of_lt _ _ _ _ hp, if_pos hmem])
    (fun p hp hmem => ⟨_, by rw [slotOf_of_lt _ _ _ _ hp, if_neg hmem], hsent.kept p hp hmem⟩)
    (fun p hp hlt k hk hy => hsent.last k ?_ hy) (fun p hp hlt => ?_)
  · obtain ⟨-, h⟩ := slotOf_bit hnd hs hk
    omega
  · rcases (by omega : p = 2 * m + 2 ∨ 2 * m + 2 < p) with rfl | hgt
    · rw [slotOf_two]
      rcases hs with ⟨-, h, -⟩ | ⟨-, h, -⟩ | ⟨-, h, -, hch⟩
      · exact Or.inl h
      · exact Or.inl h
      · exact Or.inr ⟨_, h, hch⟩
    · exact Or.inl (slotOf_of_gt _ _ _ _ hgt)

/-- At most one bit of the interleaved ones is another after at most one inversion. -/
theorem flipped_bit {c : Coding} {m : Nat} (hc : Sound c m) (base : Nat) {S : List Nat} (hS : S.length ≤ 1)
    (frame : Bytes) :
    ∃ q, ∀ k < c.fecBits, k ≠ q → readBit (flipBits S frame) (c.interleaveTable.getD k 0 + base)
      = readBit frame (c.interleaveTable.getD k 0 + base) := by
  have hinj : ∀ k < c.fecBits, ∀ k' < c.fecBits, c.interleaveTable.getD k 0 = c.interleaveTable.getD k' 0 →
      k = k' := fun k hk k' hk' heq => by
    have hlen := hc.tableLength
    rw [List.getD_eq_getElem _ _ (by omega), List.getD_eq_getElem _ _ (by omega)] at heq
    exact (hc.tableNodup.getElem_inj_iff).mp heq
  by_cases h : ∃ q < c.fecBits, c.interleaveTable.getD q 0 + base ∈ S
  · obtain ⟨q, hq, hmem⟩ := h
    refine ⟨q, fun k hk hkq => readBit_flipBits_of_notMem fun hk' => hkq (hinj k hk q hq ?_)⟩
    match S, hS with
    | [s], _ =>
        have h1 := List.mem_singleton.mp hmem
        have h2 := List.mem_singleton.mp hk'
        omega
  · exact ⟨c.fecBits, fun k hk _ => readBit_flipBits_of_notMem fun hmem => h ⟨k, hk, hmem⟩⟩

/-- **The decoder of a channel** reaches the chainback, and the bits are those of the survivor. -/
theorem decodeBits_of_soft {c : Coding} {m : Nat} (hc : Sound c m) (mem : Memory) (base : Nat) (data puncture : Bytes)
    (hsoft : Soft (trimmed m (symbolsOf c mem.past base data puncture))) (m_data : Bytes) :
    ∃ out, decodeBits c mem base data puncture m_data = some out ∧
      ∀ k < m + 1, readBit out k = chosen (trimmed m (symbolsOf c mem.past base data puncture)) (m + 5) (k + 4) := by
  obtain ⟨conv, hconv, htracks⟩ := tracks_decodeLoop hsoft mem.conv hc.room
  have hloop : decodeLoop (symbolsOf c mem.past base data puncture) mem.conv.start (m + 5) = some conv := by
    rw [← hconv]
    exact decodeLoop_congr _ fun p hp => (if_pos (by omega)).symm
  have hsteps : c.crcBits + 4 = m + 5 := by rw [hc.crcBits]
  refine ⟨(conv.chainback m_data c.crcBits).1, ?_, fun k hk => ?_⟩
  · unfold decodeBits
    rw [hsteps, hloop]
    rfl
  · rw [← hsteps] at htracks ⊢
    rw [readBit_chainback htracks, if_pos (by rw [hc.crcBits]; omega), chosen_of_lt _ (by rw [hc.crcBits]; omega)]

/-- Every symbol of a list that ends inside is 0, 1 or 2. -/
theorem soft_inside {c : Coding} {m : Nat} (hc : Sound c m) (hend : EndsInside c m) (past : Nat → Nat) (base : Nat)
    (data puncture : Bytes) : Soft (trimmed m (symbolsOf c past base data puncture)) := by
  obtain ⟨s1, s2, -, hsym⟩ := symbols_inside hc past (deinterleave c.interleaveTable base c.fecBits data fun _ => 0)
    puncture hend
  intro p
  unfold trimmed
  split
  · rename_i hp
    rw [symbolsOf, hsym p hp]
    exact Slot.symbol_le _ _
  · exact Nat.zero_le 2

/-- **A block survives its channel.** With at most one inverted bit in the frame, `decode` reaches the chainback, and
    the bits before the four zeros are those of the block. -/
theorem decodeBits_encodeBits {c : Coding} {m : Nat} (hc : Sound c m) (mem : Memory) {puncture : Bytes}
    (hends : EndsInside c m ∨ (EndsBehind c m ∧ puncture = fun _ => 0)) (base : Nat) (buffer : Bytes)
    (hzero : ∀ k, m ≤ k + 3 → readBit buffer k = false) (data m_data : Bytes) {S : List Nat} (hS : S.length ≤ 1) :
    ∃ out, decodeBits c mem base (flipBits S (encodeBits c mem base buffer data)) puncture m_data = some out ∧
      ∀ k, k + 4 ≤ m → readBit out k = readBit buffer k := by
  have htail : ∀ u, m < u → pathOf buffer u = false := fun u hu => by
    unfold pathOf delayed
    split
    · rfl
    · exact hzero _ (by omega)
  obtain ⟨q, hq⟩ := flipped_bit hc base hS (encodeBits c mem base buffer data)
  -- the bits that were sent, and those that the deinterleaver finds
  have hflip : ∀ k < c.fecBits, k ≠ q →
      readBit (deinterleave c.interleaveTable base c.fecBits
        (flipBits S (encodeBits c mem base buffer data)) fun _ => 0) k
      = readBit (punctureLoop c.punctureList mem.past (Convolution.encode buffer (fun _ => 0) c.crcBits)
          (fun _ => 0) c.convBits).out k := fun k hk hkq => by
    rw [readBit_deinterleave _ _ _ _ _ hk, hq k hk hkq, encodeBits,
      readBit_interleave_table hc.tableLength hc.tableNodup _ _ hk]
  obtain ⟨f, hreceived⟩ : ∃ f, Received c.punctureList m (pathOf buffer) f
      (trimmed m (symbolsOf c mem.past base (flipBits S (encodeBits c mem base buffer data)) puncture)) := by
    rcases hends with hend | ⟨hend, rfl⟩
    · have hsent := sent_inside hc mem.past buffer hend htail
      have hlen := hend.fecBits
      obtain ⟨s1, s2, hs, hsym⟩ := symbols_inside hc mem.past (deinterleave c.interleaveTable base c.fecBits
        (flipBits S (encodeBits c mem base buffer data)) fun _ => 0) puncture hend
      refine received_of_sent hc hsent ?_ hflip hsym
      rcases hs with ⟨h1, h2⟩ | ⟨h1, h2, hpast⟩
      · exact Or.inr (Or.inl ⟨h1, h2, by omega⟩)
      · exact Or.inr (Or.inr ⟨h1, h2, by omega, hsent.skip hend.below hpast⟩)
    · have hlen := hend.fecBits
      exact received_of_sent hc (sent_behind hc mem.past buffer hend htail) (Or.inl ⟨rfl, rfl, by omega⟩) hflip
        fun p hp => symbols_behind hc mem.past _ hend hp
  obtain ⟨out, hout, hbits⟩ := decodeBits_of_soft hc mem base (flipBits S (encodeBits c mem base buffer data)) puncture
    hreceived.soft m_data
  refine ⟨out, hout, fun k hk => ?_⟩
  rw [hbits k (by omega), chosen_of_lt _ (by omega), choice_eq hc.separates htail hreceived (by omega) hk]
  exact delayed_add _ k

theorem readBit_encodeBits_outside {c : Coding} {m : Nat} (hc : Sound c m) (mem : Memory) (base : Nat)
    (buffer data : Bytes) {k : Nat} (hk : k < base ∨ base + c.fecBits ≤ k) :
    readBit (encodeBits c mem base buffer data) k = readBit data k := by
  have hlen := hc.tableLength
  refine readBit_interleave_outside (fun i hi => hc.tableLt _ ?_) _ data hk
  rw [List.getD_eq_getElem _ _ (by omega)]
  exact List.getElem_mem _

end Channel

end DvmHost.Nxdn

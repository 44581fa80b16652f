import Mathlib.Data.List.GetD
import DvmHost.Common.Nxdn.Edac.Convolution
import DvmHost.Lib.Blocks

/-!
# `Common.Nxdn.Channel.Puncture` — the loops the NXDN channels share

The channels of `src/common/nxdn/channel` interleave, puncture and depuncture with the same loops over their own
tables. Both puncturing loops step through `PUNCTURE_LIST` with an `index` that they never compare with the length of
the list; what lies behind the list is `past`, and the arrays that are not cleared before they are filled hold what
`Memory` says.

`rank` counts the symbols kept before a position. Up to the last entry of the list both loops keep `index` and `rank`
in step (`punctureLoop_rank`, `depunctureLoop_rank`).
-/

namespace DvmHost.Nxdn

open Lib

namespace Channel

/-- What is read without having been written: the words behind `PUNCTURE_LIST`, the symbols on the stack, and the
    arrays of a new decoder. -/
structure Memory where
  past : Nat → Nat
  puncture : Bytes
  conv : Convolution

/-- `PUNCTURE_LIST[index]`. -/
def punctureAt (list : List Nat) (past : Nat → Nat) (index : Nat) : Nat :=
  list.getD index (past (index - list.length))

/-- The loop `// deinterleave`: from the frame, at `base`, to the buffer. -/
def deinterleave (table : List Nat) (base bits : Nat) (data buffer : Bytes) : Bytes :=
  (List.range bits).foldl (fun buffer i => writeBit buffer i (readBit data (table.getD i 0 + base))) buffer

/-- The loop `// interleave`: back into the frame. -/
def interleave (table : List Nat) (base bits : Nat) (puncture data : Bytes) : Bytes :=
  (List.range bits).foldl (fun data i => writeBit data (table.getD i 0 + base) (readBit puncture i)) data

/-- The variables `n` and `index` of the puncturing loops, and the array they fill. -/
structure Cursor where
  n : Nat
  index : Nat
  out : Bytes

/-- A turn of the loop `// puncture`. -/
def punctureTurn (list : List Nat) (past : Nat → Nat) (convolution : Bytes) (s : Cursor) (i : Nat) : Cursor :=
  if i ≠ punctureAt list past s.index then
    { s with n := s.n + 1, out := writeBit s.out s.n (readBit convolution i) }
  else { s with index := s.index + 1 }

/-- The loop `// puncture`. -/
def punctureLoop (list : List Nat) (past : Nat → Nat) (convolution puncture : Bytes) (bits : Nat) : Cursor :=
  (List.range bits).foldl (punctureTurn list past convolution) ⟨0, 0, puncture⟩

/-- A turn of the loop `// depuncture`. -/
def depunctureTurn (list : List Nat) (past : Nat → Nat) (buffer : Bytes) (s : Cursor) (i : Nat) : Cursor :=
  let s := if s.n = punctureAt list past s.index then ⟨s.n + 1, s.index + 1, setByte s.out s.n 1⟩ else s
  { s with n := s.n + 1, out := setByte s.out s.n (if readBit buffer i then 2 else 0) }

/-- The loop `// depuncture`. -/
def depunctureLoop (list : List Nat) (past : Nat → Nat) (buffer puncture : Bytes) (bits : Nat) : Cursor :=
  (List.range bits).foldl (depunctureTurn list past buffer) ⟨0, 0, puncture⟩

/-- The loop behind it that adds eight zeros. -/
def appendZeros (s : Cursor) : Cursor :=
  (List.range 8).foldl (fun s _ => { s with n := s.n + 1, out := setByte s.out s.n 0 }) s

/-- The tables and lengths of a channel: `INTERLEAVE_TABLE`, `PUNCTURE_LIST`, and the bits of the frame, of the
    convolution and of the block with its CRC and four zeros. -/
structure Coding where
  interleaveTable : List Nat
  punctureList : List Nat
  fecBits : Nat
  convBits : Nat
  crcBits : Nat

/-- The symbols that `decode` hands to the convolution. -/
def symbolsOf (c : Coding) (past : Nat → Nat) (base : Nat) (data puncture : Bytes) : Bytes :=
  let buffer := deinterleave c.interleaveTable base c.fecBits data fun _ => 0
  (appendZeros (depunctureLoop c.punctureList past buffer puncture c.fecBits)).out

/-- `decode` up to the chainback into `m_data`; none where it returns false before. -/
def decodeBits (c : Coding) (mem : Memory) (base : Nat) (data puncture m_data : Bytes) : Option Bytes :=
  (Convolution.decodeLoop (symbolsOf c mem.past base data puncture) mem.conv.start (c.crcBits + 4)).map fun conv =>
    (conv.chainback m_data c.crcBits).1

/-- `encode` from the convolution on. -/
def encodeBits (c : Coding) (mem : Memory) (base : Nat) (buffer data : Bytes) : Bytes :=
  let convolution := Convolution.encode buffer (fun _ => 0) c.crcBits
  let puncture := (punctureLoop c.punctureList mem.past convolution (fun _ => 0) c.convBits).out
  interleave c.interleaveTable base c.fecBits puncture data

/-! ## Interleaving -/

theorem readBit_deinterleave (table : List Nat) (base bits : Nat) (data buffer : Bytes) {k : Nat} (hk : k < bits) :
    readBit (deinterleave table base bits data buffer) k = readBit data (table.getD k 0 + base) := by
  have h := readBit_writeBits buffer 0 bits (fun i => readBit data (table.getD i 0 + base)) k
  simp only [Nat.zero_add, Nat.sub_zero, Nat.zero_le, true_and] at h
  rw [deinterleave, h, if_pos hk]

/-- The bits of the frame are scattered. -/
theorem readBit_interleave (table : List Nat) (base bits : Nat) (puncture data : Bytes) :
    readBit (interleave table base bits puncture data)
      = Blocks.scatter (List.range bits) (fun i => table.getD i 0 + base) (readBit puncture) (readBit data) := by
  have hfold : ∀ (l : List Nat) (data : Bytes),
      readBit (l.foldl (fun data i => writeBit data (table.getD i 0 + base) (readBit puncture i)) data)
        = Blocks.scatter l (fun i => table.getD i 0 + base) (readBit puncture) (readBit data) := by
    intro l
    induction l with
    | nil => exact fun _ => rfl
    | cons i l ih =>
        intro data
        rw [List.foldl_cons, ih]
        show Blocks.scatter l _ _ _ = Blocks.scatter l _ _ _
        congr 1
        funext k
        rw [readBit_writeBit]
  exact hfold _ data

/-- Positions before and behind the channel's region are not touched. -/
theorem readBit_interleave_outside {table : List Nat} {base bits : Nat} (hlt : ∀ i < bits, table.getD i 0 < bits)
    (puncture data : Bytes) {k : Nat} (hk : k < base ∨ base + bits ≤ k) :
    readBit (interleave table base bits puncture data) k = readBit data k := by
  rw [readBit_interleave]
  refine Blocks.scatter_of_not_mem fun i hi => ?_
  have := hlt i (List.mem_range.mp hi)
  omega

/-- What is interleaved is found again, position by position. -/
theorem readBit_interleave_table {table : List Nat} {base bits : Nat} (hlen : table.length = bits)
    (hnd : table.Nodup) (puncture data : Bytes) {i : Nat} (hi : i < bits) :
    readBit (interleave table base bits puncture data) (table.getD i 0 + base) = readBit puncture i := by
  rw [readBit_interleave]
  have hinj : ∀ b < bits, table.getD b 0 + base = table.getD i 0 + base → b = i := fun b hb heq => by
    have heq := Nat.add_right_cancel heq
    rw [List.getD_eq_getElem _ _ (by omega), List.getD_eq_getElem _ _ (by omega)] at heq
    exact (hnd.getElem_inj_iff).mp heq
  exact Blocks.scatter_range hi hinj

/-- A table that goes through `rows` rows of `cols` entries column by column. -/
def blockTable (cols rows : Nat) : List Nat := (List.range (cols * rows)).map fun i => i % cols * rows + i / cols

theorem nodup_blockTable {cols rows : Nat} : (blockTable cols rows).Nodup := by
  refine List.Nodup.map_on (fun a ha b hb heq => ?_) List.nodup_range
  have hrow : ∀ x ∈ List.range (cols * rows), x / cols < rows := fun x hx =>
    Nat.div_lt_of_lt_mul (List.mem_range.mp hx)
  have hrows : 0 < rows := lt_of_le_of_lt (Nat.zero_le _) (hrow a ha)
  have hdiv : ∀ x ∈ List.range (cols * rows), (x % cols * rows + x / cols) / rows = x % cols := fun x hx => by
    rw [Nat.add_comm, Nat.add_mul_div_right _ _ hrows, Nat.div_eq_of_lt (hrow x hx), Nat.zero_add]
  have hmod : ∀ x ∈ List.range (cols * rows), (x % cols * rows + x / cols) % rows = x / cols := fun x hx => by
    rw [Nat.add_comm, Nat.add_mul_mod_self_right, Nat.mod_eq_of_lt (hrow x hx)]
  have hcol : a % cols = b % cols := by rw [← hdiv a ha, heq, hdiv b hb]
  have hquot : a / cols = b / cols := by rw [← hmod a ha, heq, hmod b hb]
  rw [← Nat.div_add_mod a cols, hquot, hcol, Nat.div_add_mod]

/-! ## Ranks -/

/-- The entries of the list before a position. -/
def erasures (list : List Nat) (p : Nat) : Nat := list.countP (· < p)

/-- The kept positions before a position. -/
def rank (list : List Nat) (p : Nat) : Nat := p - erasures list p

theorem erasures_succ {list : List Nat} (hnd : list.Nodup) (p : Nat) :
    erasures list (p + 1) = erasures list p + if p ∈ list then 1 else 0 := by
  unfold erasures
  induction list with
  | nil => rfl
  | cons a l ih =>
      obtain ⟨ha, hl⟩ := List.nodup_cons.mp hnd
      rw [List.countP_cons, List.countP_cons, ih hl]
      rcases Nat.lt_trichotomy a p with hlt | rfl | hgt
      · have hne : p ≠ a := by omega
        simp [hlt, hne, show a < p + 1 by omega, List.mem_cons]
        omega
      · simp [ha]
      · have hne : p ≠ a := by omega
        simp [hne, show ¬ a < p by omega, show ¬ a < p + 1 by omega, List.mem_cons]

theorem erasures_le {list : List Nat} (hnd : list.Nodup) (p : Nat) : erasures list p ≤ p := by
  induction p with
  | zero => simp [erasures]
  | succ p ih =>
      rw [erasures_succ hnd]
      split <;> omega

theorem rank_succ_of_mem {list : List Nat} (hnd : list.Nodup) {p : Nat} (hp : p ∈ list) :
    rank list (p + 1) = rank list p := by
  rw [rank, rank, erasures_succ hnd, if_pos hp]
  omega

theorem rank_succ_of_notMem {list : List Nat} (hnd : list.Nodup) {p : Nat} (hp : p ∉ list) :
    rank list (p + 1) = rank list p + 1 := by
  have := erasures_le hnd p
  rw [rank, rank, erasures_succ hnd, if_neg hp]
  omega

theorem rank_mono {list : List Nat} (hnd : list.Nodup) {p q : Nat} (h : p ≤ q) : rank list p ≤ rank list q := by
  induction q, h using Nat.le_induction with
  | base => exact le_rfl
  | succ q _ ih =>
      by_cases hq : q ∈ list
      · rwa [rank_succ_of_mem hnd hq]
      · rw [rank_succ_of_notMem hnd hq]
        omega

/-- Kept positions have distinct ranks. -/
theorem rank_lt {list : List Nat} (hnd : list.Nodup) {p q : Nat} (hp : p ∉ list) (h : p < q) :
    rank list p < rank list q := by
  have := rank_mono hnd (show p + 1 ≤ q from h)
  rw [rank_succ_of_notMem hnd hp] at this
  omega

theorem getD_erasures {list : List Nat} (hs : list.Pairwise (· < ·)) {p : Nat} (hp : ∃ q ∈ list, p ≤ q) (d : Nat) :
    list.getD (erasures list p) d = p ↔ p ∈ list := by
  unfold erasures
  induction list with
  | nil => exact absurd hp (by simp)
  | cons a l ih =>
      obtain ⟨ha, hl⟩ := List.pairwise_cons.mp hs
      rcases Nat.lt_or_ge a p with hap | hap
      · -- `a` is behind, so the entry is in the rest
        have hrest : ∃ q ∈ l, p ≤ q := by
          obtain ⟨q, hq, hpq⟩ := hp
          rcases List.mem_cons.mp hq with rfl | hq
          · omega
          · exact ⟨q, hq, hpq⟩
        have hne : p ≠ a := by omega
        have hcount : (a :: l).countP (· < p) = l.countP (· < p) + 1 := by
          rw [List.countP_cons, decide_eq_true hap, if_pos rfl]
        rw [hcount, List.getD_cons_succ, ih hl hrest, List.mem_cons]
        simp [hne]
      · have hzero : (a :: l).countP (· < p) = 0 := by
          rw [List.countP_eq_zero]
          intro q hq
          rcases List.mem_cons.mp hq with rfl | hq
          · simpa using hap
          · have := ha q hq
            simp only [decide_eq_true_eq]
            omega
        rw [hzero, List.getD_cons_zero, List.mem_cons]
        constructor
        · exact fun h => Or.inl h.symm
        · rintro (rfl | hpl)
          · rfl
          · have := ha p hpl
            omega

/-- The entry that `index` is at, as long as the list is not used up, is the next position to erase. -/
theorem punctureAt_erasures {list : List Nat} (hs : list.Pairwise (· < ·)) (past : Nat → Nat) {p : Nat}
    (hp : ∃ q ∈ list, p ≤ q) : p = punctureAt list past (erasures list p) ↔ p ∈ list := by
  rw [eq_comm]
  exact getD_erasures hs hp _

section Loops

variable {list : List Nat} (hs : list.Pairwise (· < ·)) (past : Nat → Nat)

include hs

/-- **Puncturing.** Up to the last entry the kept bits are at their ranks, and nothing else is written. -/
theorem punctureLoop_rank (convolution puncture : Bytes) {p : Nat} (hp : ∀ i < p, ∃ q ∈ list, i ≤ q) :
    ∃ out, punctureLoop list past convolution puncture p = ⟨rank list p, erasures list p, out⟩ ∧
      (∀ i < p, i ∉ list → readBit out (rank list i) = readBit convolution i) ∧
      ∀ k, rank list p ≤ k → readBit out k = readBit puncture k := by
  have hnd : list.Nodup := hs.imp Nat.ne_of_lt
  induction p with
  | zero => exact ⟨puncture, by simp [punctureLoop, rank, erasures], fun i hi => absurd hi (Nat.not_lt_zero i),
      fun _ _ => rfl⟩
  | succ p ih =>
      obtain ⟨out, hout, hkept, hfree⟩ := ih fun i hi => hp i (by omega)
      have hturn : punctureLoop list past convolution puncture (p + 1)
          = punctureTurn list past convolution ⟨rank list p, erasures list p, out⟩ p := by
        rw [punctureLoop, List.range_succ, List.foldl_append, List.foldl_cons, List.foldl_nil]
        exact congrArg (fun s => punctureTurn list past convolution s p) hout
      rw [hturn, punctureTurn]
      by_cases hmem : p ∈ list
      · rw [if_neg (not_not_intro ((punctureAt_erasures hs past (hp p (Nat.lt_succ_self p))).mpr hmem)),
          rank_succ_of_mem hnd hmem, erasures_succ hnd, if_pos hmem]
        refine ⟨out, rfl, fun i hi hin => hkept i ?_ hin, hfree⟩
        rcases Nat.lt_succ_iff_lt_or_eq.mp hi with hlt | rfl
        · exact hlt
        · exact absurd hmem hin
      · rw [if_pos fun h => hmem ((punctureAt_erasures hs past (hp p (Nat.lt_succ_self p))).mp h),
          rank_succ_of_notMem hnd hmem, erasures_succ hnd, if_neg hmem]
        refine ⟨_, rfl, fun i hi hin => ?_, fun k hk => ?_⟩
        · show readBit (writeBit out (rank list p) _) _ = _
          rw [readBit_writeBit]
          rcases Nat.lt_succ_iff_lt_or_eq.mp hi with hlt | rfl
          · have := rank_lt hnd hin hlt
            rw [if_neg (by omega), hkept i hlt hin]
          · rw [if_pos rfl]
        · show readBit (writeBit out (rank list p) _) _ = _
          rw [readBit_writeBit, if_neg (by omega), hfree k (by omega)]

/-- What the depunctured symbols before position `p` are. -/
def Depunctured (list : List Nat) (buffer out : Bytes) (p : Nat) : Prop :=
  ∀ i < p, out i = if i ∈ list then 1 else if readBit buffer (rank list i) then 2 else 0

omit hs in
theorem Depunctured.push {buffer out : Bytes} {p : Nat} (h : Depunctured list buffer out p) {v : UInt8}
    (hv : v = if p ∈ list then 1 else if readBit buffer (rank list p) then 2 else 0) :
    Depunctured list buffer (setByte out p v) (p + 1) := by
  intro i hi
  rcases Nat.lt_succ_iff_lt_or_eq.mp hi with hlt | rfl
  · rw [setByte_of_ne _ _ (by omega)]
    exact h i hlt
  · rw [setByte_same]
    exact hv

omit hs in
theorem depunctureLoop_succ (buffer puncture : Bytes) (k : Nat) :
    depunctureLoop list past buffer puncture (k + 1)
      = depunctureTurn list past buffer (depunctureLoop list past buffer puncture k) k := by
  rw [depunctureLoop, List.range_succ, List.foldl_append]
  rfl

/-- **Depuncturing.** When no two entries are adjacent, the loop puts each bit at the position of its rank and 1 at
    the entries in between. It stands before an entry, or before the position of the next bit. -/
theorem depunctureLoop_rank (hgap : ∀ q ∈ list, q + 1 ∉ list) (buffer puncture : Bytes) {p : Nat}
    (hp : ∀ i < p, ∃ q ∈ list, i ≤ q) (hstop : ∀ q, q + 1 = p → q ∉ list) :
    ∃ out, depunctureLoop list past buffer puncture (rank list p) = ⟨p, erasures list p, out⟩ ∧
      Depunctured list buffer out p ∧ ∀ i, p ≤ i → out i = puncture i := by
  have hnd : list.Nodup := hs.imp Nat.ne_of_lt
  induction p using Nat.strong_induction_on with
  | _ p ih =>
      rcases p with _ | p
      · exact ⟨puncture, by simp [depunctureLoop, rank, erasures], fun i hi => absurd hi (Nat.not_lt_zero i),
          fun _ _ => rfl⟩
      · have hmem : p ∉ list := hstop p rfl
        by_cases hbefore : ∃ q ∈ list, q + 1 = p
        · -- the turn first inserts the entry `q`, then the bit at `q + 1`
          obtain ⟨q, hq, rfl⟩ := hbefore
          obtain ⟨out, hout, hdep, hfree⟩ := ih q (by omega) (fun i hi => hp i (by omega))
            (fun q' hq' hmem' => hgap q' hmem' (hq'.symm ▸ hq))
          have hentry : q = punctureAt list past (erasures list q) :=
            (punctureAt_erasures hs past (hp q (by omega))).mpr hq
          rw [rank_succ_of_notMem hnd hmem, rank_succ_of_mem hnd hq, depunctureLoop_succ, hout, depunctureTurn,
            if_pos hentry, erasures_succ hnd, if_neg hmem, erasures_succ hnd, if_pos hq]
          refine ⟨_, rfl, ?_, fun i hi => ?_⟩
          · refine (hdep.push (by rw [if_pos hq])).push ?_
            rw [if_neg hmem, rank_succ_of_mem hnd hq]
          · show setByte (setByte out q 1) (q + 1) _ i = _
            rw [setByte_of_ne _ _ (by omega), setByte_of_ne _ _ (by omega), hfree i (by omega)]
        · obtain ⟨out, hout, hdep, hfree⟩ := ih p (Nat.lt_succ_self p) (fun i hi => hp i (by omega))
            (fun q hq hq' => hbefore ⟨q, hq', hq⟩)
          have hentry : ¬ p = punctureAt list past (erasures list p) := fun h =>
            hmem ((punctureAt_erasures hs past (hp p (Nat.lt_succ_self p))).mp h)
          rw [rank_succ_of_notMem hnd hmem, depunctureLoop_succ, hout, depunctureTurn, if_neg hentry,
            erasures_succ hnd, if_neg hmem]
          refine ⟨_, rfl, hdep.push (by rw [if_neg hmem]), fun i hi => ?_⟩
          show setByte out p _ i = _
          rw [setByte_of_ne _ _ (by omega), hfree i (by omega)]

omit hs in
/-- The eight zeros. -/
theorem appendZeros_apply (s : Cursor) (i : Nat) :
    (appendZeros s).out i = if s.n ≤ i ∧ i < s.n + 8 then 0 else s.out i := by
  have hfold : ∀ k, (List.range k).foldl (fun (s : Cursor) _ => { s with n := s.n + 1, out := setByte s.out s.n 0 }) s
      = ⟨s.n + k, s.index, fun i => if s.n ≤ i ∧ i < s.n + k then 0 else s.out i⟩ := by
    intro k
    induction k with
    | zero =>
        have hout : s.out = fun i => if s.n ≤ i ∧ i < s.n + 0 then 0 else s.out i := by
          funext i
          rw [if_neg (by omega)]
        rw [← hout]
        rfl
    | succ k ih =>
        rw [List.range_succ, List.foldl_append, ih]
        show Cursor.mk _ _ _ = _
        congr 1
        funext i
        by_cases hi : i = s.n + k
        · rw [setByte_of_eq _ _ hi, if_pos (by omega)]
        · rw [setByte_of_ne _ _ hi]
          by_cases hin : s.n ≤ i ∧ i < s.n + k
          · show (if s.n ≤ i ∧ i < s.n + k then 0 else s.out i) = _
            rw [if_pos hin, if_pos (by omega)]
          · show (if s.n ≤ i ∧ i < s.n + k then 0 else s.out i) = _
            rw [if_neg hin, if_neg (by omega)]
  rw [appendZeros, hfold]

end Loops

end Channel

end DvmHost.Nxdn

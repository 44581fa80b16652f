import Mathlib.Data.Nat.Basic

/-!
# `Lib.Lfsr` — bit-serial CRC registers

A register of `w` bits takes a message a bit at a time: it shifts up by one and, when the bit shifted out
differs from the message bit, adds `poly`. When `poly` has its lowest bit set, the lowest bit after a step
records whether `poly` was added, so a step can be undone: registers that agree in their low `k` bits after
`n` steps agreed in their low `k - n` bits before them (`agreeLow_run`). Two messages that differ only within
a burst of at most `w` bits therefore leave different registers (`run_burst`), and a register sent behind its message
detects them there as well (`not_stored_of_burst`).
-/

namespace Lib.Lfsr

variable {w : Nat}

/-- One step of the register. -/
def step (poly : BitVec w) (s : BitVec w) (bit : Bool) : BitVec w :=
  if bit ^^ s.msb then (s <<< 1) ^^^ poly else s <<< 1

/-- The register after a message. -/
def run (poly : BitVec w) (s : BitVec w) (msg : List Bool) : BitVec w := msg.foldl (step poly) s

theorem run_append (poly s : BitVec w) (a b : List Bool) : run poly s (a ++ b) = run poly (run poly s a) b :=
  List.foldl_append

/-! ## Steps are additive -/

theorem step_xor (poly s t : BitVec w) (a b : Bool) :
    step poly (s ^^^ t) (a ^^ b) = step poly s a ^^^ step poly t b := by
  have hfeed : (a ^^ b ^^ (s ^^^ t).msb) = ((a ^^ s.msb) ^^ (b ^^ t.msb)) := by
    rw [BitVec.msb_xor]
    cases a <;> cases b <;> cases s.msb <;> cases t.msb <;> rfl
  unfold step
  rw [hfeed, BitVec.shiftLeft_xor_distrib]
  generalize s <<< 1 = s'
  generalize t <<< 1 = t'
  cases a ^^ s.msb <;> cases b ^^ t.msb
  · rfl
  · exact BitVec.xor_assoc s' t' poly
  · change s' ^^^ t' ^^^ poly = s' ^^^ poly ^^^ t'
    rw [BitVec.xor_assoc, BitVec.xor_comm t', BitVec.xor_assoc]
  · change s' ^^^ t' = s' ^^^ poly ^^^ (t' ^^^ poly)
    rw [BitVec.xor_comm t', BitVec.xor_assoc, ← BitVec.xor_assoc poly, BitVec.xor_self, BitVec.zero_xor]

/-- The run lemma of `step_xor`, on messages given bit by bit. -/
theorem run_xor {ι : Type} (poly s t : BitVec w) (l : List ι) (a b : ι → Bool) :
    run poly (s ^^^ t) (l.map fun i => a i ^^ b i) = run poly s (l.map a) ^^^ run poly t (l.map b) := by
  unfold run
  induction l generalizing s t with
  | nil => rfl
  | cons i l ih =>
      rw [List.map_cons, List.map_cons, List.map_cons, List.foldl_cons, List.foldl_cons, List.foldl_cons,
        step_xor, ih]

/-! ## A stretch at a time -/

/-- A register fed its own top bits only moves up. -/
theorem run_own (poly s : BitVec w) {k : Nat} (hk : k ≤ w) :
    run poly s ((List.range k).map s.getMsbD) = s <<< k := by
  induction k with
  | zero => exact (BitVec.shiftLeft_zero s).symm
  | succ k ih =>
      rw [List.range_succ, List.map_append, run_append, ih (by omega)]
      change step poly (s <<< k) (s.getMsbD k) = s <<< (k + 1)
      have hfeed : (s.getMsbD k ^^ (s <<< k).msb) = false := by
        rw [BitVec.msb_shiftLeft, Bool.xor_self]
      unfold step
      rw [hfeed, if_neg Bool.false_ne_true, BitVec.shiftLeft_add]

/-- **A stretch at a time.** The bits that leave the register are added to those that come in; what these make of
    the zero register can be looked up. -/
theorem run_stretch (poly s : BitVec w) {k : Nat} (hk : k ≤ w) (o : Nat → Bool) :
    run poly s ((List.range k).map o) =
      s <<< k ^^^ run poly 0#w ((List.range k).map fun i => s.getMsbD i ^^ o i) := by
  have hsum := run_xor poly s 0#w (List.range k) s.getMsbD (fun i => s.getMsbD i ^^ o i)
  have hbits : (fun i => s.getMsbD i ^^ (s.getMsbD i ^^ o i)) = o := by
    funext i
    rw [← Bool.xor_assoc, Bool.xor_self, Bool.false_xor]
  rwa [run_own poly s hk, BitVec.xor_zero, hbits] at hsum

/-! ## Undoing a step -/

/-- The low `k` bits of the two registers are the same. -/
def AgreeLow (k : Nat) (s t : BitVec w) : Prop := ∀ i < k, s.getLsbD i = t.getLsbD i

/-- A bit of the register after a step. -/
theorem getLsbD_step (poly s : BitVec w) (bit : Bool) {i : Nat} (hi : i < w) :
    (step poly s bit).getLsbD i =
      ((!decide (i < 1) && s.getLsbD (i - 1)) ^^ ((bit ^^ s.msb) && poly.getLsbD i)) := by
  unfold step
  by_cases hf : (bit ^^ s.msb) = true
  · rw [if_pos hf, hf, BitVec.getLsbD_xor, BitVec.getLsbD_shiftLeft, decide_eq_true hi, Bool.true_and,
      Bool.true_and]
  · have hff : (bit ^^ s.msb) = false := by simpa using hf
    rw [if_neg hf, hff, BitVec.getLsbD_shiftLeft, decide_eq_true hi, Bool.true_and, Bool.false_and,
      Bool.xor_false]

/-- **The lowest bit is the feedback.** -/
theorem getLsbD_step_zero {poly : BitVec w} (hw : 0 < w) (hodd : poly.getLsbD 0 = true) (s : BitVec w)
    (bit : Bool) : (step poly s bit).getLsbD 0 = (bit ^^ s.msb) := by
  rw [getLsbD_step poly s bit hw, hodd]
  simp

/-- Registers that agree in the low `k + 1` bits after a step were fed back alike and agreed in the low `k`
    bits before it. -/
theorem agreeLow_step {poly : BitVec w} (hodd : poly.getLsbD 0 = true) {k : Nat} (hk : k + 1 ≤ w)
    {s t : BitVec w} {a b : Bool} (h : AgreeLow (k + 1) (step poly s a) (step poly t b)) :
    (a ^^ s.msb) = (b ^^ t.msb) ∧ AgreeLow k s t := by
  have hfeed : (a ^^ s.msb) = (b ^^ t.msb) := by
    have h0 := h 0 (Nat.succ_pos k)
    rwa [getLsbD_step_zero (by omega) hodd, getLsbD_step_zero (by omega) hodd] at h0
  refine ⟨hfeed, fun i hi => ?_⟩
  have hi1 := h (i + 1) (by omega)
  rw [getLsbD_step _ _ _ (by omega), getLsbD_step _ _ _ (by omega), hfeed] at hi1
  simpa using hi1

/-- The run lemma of `agreeLow_step`: a bit of agreement is lost for each step undone. -/
theorem agreeLow_run {poly : BitVec w} (hodd : poly.getLsbD 0 = true) {x y : List Bool}
    (hlen : x.length = y.length) {k : Nat} (hk : k + x.length ≤ w) {s t : BitVec w}
    (h : AgreeLow (k + x.length) (run poly s x) (run poly t y)) : AgreeLow k s t := by
  induction x generalizing y s t k with
  | nil =>
      have hy : y = [] := List.eq_nil_of_length_eq_zero hlen.symm
      rw [hy] at h
      exact h
  | cons a x ih =>
      cases y with
      | nil => exact absurd hlen (Nat.succ_ne_zero _)
      | cons b y =>
          rw [List.length_cons] at h hk
          have hrest : AgreeLow (k + 1) (step poly s a) (step poly t b) := by
            apply ih (Nat.succ.inj hlen) (by omega)
            have harrange : k + 1 + x.length = k + (x.length + 1) := by omega
            rw [harrange]
            exact h
          exact (agreeLow_step hodd (by omega) hrest).2

/-! ## Bursts -/

/-- Equal bits from different registers leave different registers. -/
theorem step_injective {poly : BitVec w} (hodd : poly.getLsbD 0 = true) {s t : BitVec w} {b : Bool}
    (h : step poly s b = step poly t b) : s = t := by
  rcases Nat.eq_zero_or_pos w with rfl | hw
  · exact BitVec.eq_of_toNat_eq (by omega)
  have hagree : AgreeLow (w - 1 + 1) (step poly s b) (step poly t b) := fun i _ => by rw [h]
  obtain ⟨hfeed, hlow⟩ := agreeLow_step hodd (by omega) hagree
  have hmsb : s.msb = t.msb := by
    cases b <;> simpa using hfeed
  apply BitVec.eq_of_getLsbD_eq
  intro i hi
  rcases Nat.lt_or_ge i (w - 1) with hlt | hge
  · exact hlow i hlt
  · have htop : i = w - 1 := by omega
    rw [htop, ← BitVec.msb_eq_getLsbD_last, ← BitVec.msb_eq_getLsbD_last, hmsb]

theorem run_injective {poly : BitVec w} (hodd : poly.getLsbD 0 = true) (msg : List Bool) {s t : BitVec w}
    (h : run poly s msg = run poly t msg) : s = t := by
  induction msg generalizing s t with
  | nil => exact h
  | cons b msg ih => exact step_injective hodd (ih h)

/-- Within `w` bits the register determines the message. -/
theorem run_eq_imp_eq {poly : BitVec w} (hodd : poly.getLsbD 0 = true) {x y : List Bool}
    (hlen : x.length = y.length) (hw : x.length ≤ w) {s : BitVec w} (h : run poly s x = run poly s y) :
    x = y := by
  induction x generalizing y s with
  | nil => exact (List.eq_nil_of_length_eq_zero hlen.symm).symm
  | cons a x ih =>
      cases y with
      | nil => exact absurd hlen (Nat.succ_ne_zero _)
      | cons b y =>
          rw [List.length_cons] at hw
          have hx : x.length = y.length := Nat.succ.inj hlen
          have hfirst : AgreeLow 1 (step poly s a) (step poly s b) := by
            apply agreeLow_run hodd hx (by omega)
            intro i _
            exact congrArg (BitVec.getLsbD · i) h
          -- from one register the feedback is the message bit
          have hab : a = b := by
            have hfeed := (agreeLow_step hodd (by omega) hfirst).1
            cases hm : s.msb <;> simpa [hm] using hfeed
          subst hab
          rw [ih hx (by omega) h]

/-- **Bursts are detected.** Messages that differ, and only within a stretch of at most `w` bits, leave
    different registers. -/
theorem run_burst {poly : BitVec w} (hodd : poly.getLsbD 0 = true) (s : BitVec w) (pre post : List Bool)
    {x y : List Bool} (hlen : x.length = y.length) (hw : x.length ≤ w) (hne : x ≠ y) :
    run poly s (pre ++ x ++ post) ≠ run poly s (pre ++ y ++ post) := by
  intro h
  rw [run_append, run_append, run_append, run_append] at h
  exact hne (run_eq_imp_eq hodd hlen hw (run_injective hodd post h))

/-- The sequences differ among the first `n` bits, and there only within `w` places. -/
def Burst (w n : Nat) (a b : Nat → Bool) : Prop :=
  (∃ i < n, a i ≠ b i) ∧ ∃ start, ∀ i < n, a i ≠ b i → start ≤ i ∧ i < start + w

/-- The bits of a sequence in three stretches. -/
theorem map_range_split (a : Nat → Bool) (start k c : Nat) :
    (List.range (start + k + c)).map a = (List.range start).map a ++ (List.range k).map (fun i => a (start + i)) ++
      (List.range c).map (fun i => a (start + k + i)) := by
  rw [List.range_add, List.range_add, List.map_append, List.map_append, List.map_map, List.map_map]
  rfl

/-- `run_burst` for sequences of which the first `n` bits are taken. -/
theorem run_ne_of_burst {poly : BitVec w} (hodd : poly.getLsbD 0 = true) (s : BitVec w) {n : Nat}
    {a b : Nat → Bool} (h : Burst w n a b) :
    run poly s ((List.range n).map a) ≠ run poly s ((List.range n).map b) := by
  obtain ⟨⟨i, hi, hdiff⟩, start, hwin⟩ := h
  have hsame (j : Nat) (hj : j < n) (hout : j < start ∨ start + w ≤ j) : a j = b j := by
    by_contra hne
    have hplace := hwin j hj hne
    omega
  obtain ⟨hstart, hend⟩ := hwin i hi hdiff
  -- the burst, cut at the end of the message
  obtain ⟨k, c, hn, hk, hin⟩ : ∃ k c, n = start + k + c ∧ k ≤ w ∧ (c = 0 ∨ k = w) :=
    ⟨min w (n - start), n - start - min w (n - start), by omega, by omega, by omega⟩
  have hpre : (List.range start).map a = (List.range start).map b :=
    List.map_congr_left fun j hj => by
      have hlt := List.mem_range.mp hj
      exact hsame j (by omega) (Or.inl hlt)
  have hpost : (List.range c).map (fun j => a (start + k + j)) = (List.range c).map (fun j => b (start + k + j)) :=
    List.map_congr_left fun j hj => by
      have hlt := List.mem_range.mp hj
      exact hsame _ (by omega) (Or.inr (by omega))
  rw [hn, map_range_split, map_range_split, hpre, hpost]
  refine run_burst hodd _ _ _ (by simp) (by simpa using hk) fun heq => hdiff ?_
  -- equal bursts would agree at the altered bit
  have hbit := List.map_inj_left.mp heq (i - start) (List.mem_range.mpr (by omega))
  rwa [Nat.add_sub_cancel' hstart] at hbit

/-! ## Checks

A check compares the register, as it is or with all bits inverted, with `w` bits behind the message. -/

/-- The register and the bits behind the message leave the same register behind every message that checks. -/
theorem run_stored {poly init : BitVec w} {n : Nat} {a : Nat → Bool} {inverted : Bool}
    (h : ∀ j < w, a (n + j) = ((run poly init ((List.range n).map a)).getMsbD j ^^ inverted)) :
    run poly init ((List.range (n + w)).map a) = run poly 0#w ((List.range w).map fun _ => inverted) := by
  have hbits : (List.range w).map (a ∘ fun j => n + j) =
      (List.range w).map fun j => (run poly init ((List.range n).map a)).getMsbD j ^^ inverted :=
    List.map_congr_left fun j hj => h j (List.mem_range.mp hj)
  have hsum : ∀ j, ((run poly init ((List.range n).map a)).getMsbD j ^^
      ((run poly init ((List.range n).map a)).getMsbD j ^^ inverted)) = inverted := by
    intro j
    rw [← Bool.xor_assoc, Bool.xor_self, Bool.false_xor]
  rw [List.range_add, List.map_append, List.map_map, run_append, hbits, run_stretch _ _ (Nat.le_refl w)]
  simp only [hsum, BitVec.shiftLeft_eq_zero (Nat.le_refl w), BitVec.zero_xor]

/-- **A check detects bursts**, those that reach into the bits behind the message too. -/
theorem not_stored_of_burst {poly init : BitVec w} (hodd : poly.getLsbD 0 = true) {n : Nat} {a b : Nat → Bool}
    {inverted : Bool} (hburst : Burst w (n + w) a b)
    (ha : ∀ j < w, a (n + j) = ((run poly init ((List.range n).map a)).getMsbD j ^^ inverted)) :
    ¬∀ j < w, b (n + j) = ((run poly init ((List.range n).map b)).getMsbD j ^^ inverted) := by
  intro hb
  exact run_ne_of_burst hodd init hburst ((run_stored ha).trans (run_stored hb).symm)

end Lib.Lfsr

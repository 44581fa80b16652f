import DvmHost.Host.P25.Packet.Correctness.RadioCallSteps
import DvmHost.Lib.ShiftRegister

/-!
# `Host.P25.Packet.Correctness.MessageIndicator` — the message indicator that stands in for a lost one

The first eight octets of a message indicator are the 64 stages of a shift register (`register`), the newest stage in
the lowest bit of the octet 7. A cycle of `getNextMI` is a step of the register that feeds back
`x^64 + x^62 + x^46 + x^38 + x^27 + x^15 + 1` (`register_shiftMI`), and the prediction is 64 of them
(`messageIndicator_predicted`).
-/

namespace DvmHost

open Polynomial Lib

namespace P25

namespace Voice

/-! ## The register -/

/-- The polynomial of the message indicator. -/
noncomputable def miPolynomial : (ZMod 2)[X] := X ^ 64 + X ^ 62 + X ^ 46 + X ^ 38 + X ^ 27 + X ^ 15 + 1

/-- The octet of a stage. -/
def octetOf (j : Fin 64) : Fin P25_MI_LENGTH_BYTES := ⟨7 - j.val / 8, Nat.lt_of_le_of_lt (Nat.sub_le 7 _) (by decide)⟩

/-- The bit of a stage. -/
def stage (mi : Fin P25_MI_LENGTH_BYTES → UInt8) (j : Fin 64) : Bool := bitOf (mi (octetOf j)) (7 - j.val % 8)

/-- The stages of the register in a message indicator. -/
def register (mi : Fin P25_MI_LENGTH_BYTES → UInt8) (j : Fin 64) : ZMod 2 := if stage mi j then 1 else 0

theorem register_eq_iff {mi mi' : Fin P25_MI_LENGTH_BYTES → UInt8} {j j' : Fin 64} :
    register mi j = register mi' j' ↔ stage mi j = stage mi' j' := by
  unfold register
  cases stage mi j <;> cases stage mi' j' <;> decide

/-- Bits add up like the stages. -/
theorem add_ite (a b : Bool) : (if a then 1 else 0 : ZMod 2) + (if b then 1 else 0) = if a ^^ b then 1 else 0 := by
  cases a <;> cases b <;> decide

/-- The first eight octets are the register. -/
theorem octet_of_register {mi mi' : Fin P25_MI_LENGTH_BYTES → UInt8} (h : register mi = register mi')
    {i : Fin P25_MI_LENGTH_BYTES} (hi : i.val < 8) : mi i = mi' i := by
  refine byte_ext fun k hk => ?_
  have hstage := register_eq_iff.mp (congrFun h ⟨8 * (7 - i.val) + (7 - k), by omega⟩)
  have hoctet : octetOf ⟨8 * (7 - i.val) + (7 - k), by omega⟩ = i := Fin.ext (by simp only [octetOf]; omega)
  unfold stage at hstage
  rw [hoctet] at hstage
  simp only at hstage
  rwa [show 7 - (8 * (7 - i.val) + (7 - k)) % 8 = k by omega] at hstage

/-! ## A cycle -/

/-- The bits of an octet that is shifted up by one. -/
theorem bitOf_shiftUp (x : UInt8) {k : Nat} (hk : k < 8) :
    bitOf ((x &&& 0x7F) <<< 1) k = (decide (k < 7) && bitOf x (k + 1)) := by
  have hmask : ∀ k : Fin 8, bitOf 0x7F (k.val + 1) = decide (k.val < 7) := by decide
  have hup : bitOf ((x &&& 0x7F) <<< 1) k = bitOf (x &&& 0x7F) (k + 1) := bitOf_shiftLeft _ 1 (by decide) k
  rw [hup, bitOf_and, hmask ⟨k, hk⟩, Bool.and_comm]

/-- The high bit of the next octet. -/
theorem bitOf_highBit (x : UInt8) {k : Nat} (hk : k < 8) : bitOf (x >>> 7) k = (decide (k = 7) && bitOf x 0) := by
  have hdown : bitOf (x >>> 7) k = (decide (7 ≤ k) && bitOf x (k - 7)) := bitOf_shiftRight x 7 (by decide) hk
  have h7 : 7 ≤ k ↔ k = 7 := by omega
  rw [hdown, show k - 7 = 0 by omega, decide_eq_decide.mpr h7]

/-- A tap is the bit that is shifted to the end. -/
theorem bitOf_tap (x : UInt8) : bitOf (x >>> 7) 7 = bitOf x 0 ∧ bitOf (x >>> 6) 7 = bitOf x 1 ∧
    bitOf (x >>> 5) 7 = bitOf x 2 ∧ bitOf (x >>> 2) 7 = bitOf x 5 :=
  ⟨bitOf_shiftRight x 7 (by decide) (by decide), bitOf_shiftRight x 6 (by decide) (by decide),
    bitOf_shiftRight x 5 (by decide) (by decide), bitOf_shiftRight x 2 (by decide) (by decide)⟩

theorem bitOf_one (k : Nat) (hk : k < 8) : bitOf 0x01 k = decide (k = 7) := by
  have h : ∀ k : Fin 8, bitOf 0x01 k = decide (k.val = 7) := by decide
  exact h ⟨k, hk⟩

/-- The stages behind the first one come from the stage in front. -/
theorem stage_shiftMI_succ (mi : Fin P25_MI_LENGTH_BYTES → UInt8) (j : Fin 63) :
    stage (shiftMI mi) j.succ = stage mi j.castSucc := by
  have hj := j.isLt
  have hval : (octetOf j.succ).val = 7 - (j.val + 1) / 8 := rfl
  have hval' : (octetOf j.castSucc).val = 7 - j.val / 8 := rfl
  show bitOf (shiftMI mi (octetOf j.succ)) (7 - (j.val + 1) % 8) = bitOf (mi (octetOf j.castSucc)) (7 - j.val % 8)
  rcases Nat.eq_zero_or_pos ((j.val + 1) % 8) with hend | hinside
  · -- the high bit of the octet behind
    have hlt : (octetOf j.succ).val < 7 := by omega
    have hnext : octetOf j.succ + 1 = octetOf j.castSucc := by
      refine Fin.ext ?_
      show (7 - (j.val + 1) / 8 + 1) % 9 = 7 - j.val / 8
      omega
    unfold shiftMI
    dsimp only
    rw [if_pos hlt, hnext, hend, bitOf_or, bitOf_shiftUp _ (by decide), bitOf_highBit _ (by decide),
      show 7 - j.val % 8 = 0 by omega]
    simp
  · -- the bit behind, in the same octet
    have hsame : octetOf j.succ = octetOf j.castSucc := Fin.ext (by omega)
    have hk : 7 - (j.val + 1) % 8 < 7 := by omega
    have hbehind : 7 - (j.val + 1) % 8 + 1 = 7 - j.val % 8 := by omega
    rw [hsame]
    generalize 7 - (j.val + 1) % 8 = k at *
    rw [← hbehind]
    unfold shiftMI
    dsimp only
    split_ifs with hfirst hlast
    · rw [bitOf_or, bitOf_shiftUp _ (by omega), bitOf_highBit _ (by omega), decide_eq_true hk,
        decide_eq_false (show ¬ k = 7 by omega), Bool.true_and, Bool.false_and, Bool.or_false]
    · rw [bitOf_or, bitOf_shiftUp _ (by omega), bitOf_and, bitOf_one k (by omega), decide_eq_true hk,
        decide_eq_false (show ¬ k = 7 by omega), Bool.true_and, Bool.and_false, Bool.or_false]
    · exact absurd (show (octetOf j.castSucc).val = 7 by omega) hlast

/-- The first stage is the sum of the taps. -/
theorem stage_shiftMI_zero (mi : Fin P25_MI_LENGTH_BYTES → UInt8) :
    stage (shiftMI mi) 0 = (stage mi 63 ^^ stage mi 61 ^^ stage mi 45 ^^ stage mi 37 ^^ stage mi 26 ^^ stage mi 14) := by
  obtain ⟨h07, -, h05, -⟩ := bitOf_tap (mi 0)
  obtain ⟨-, -, h2, -⟩ := bitOf_tap (mi 2)
  obtain ⟨-, -, h3, -⟩ := bitOf_tap (mi 3)
  obtain ⟨-, -, -, h4⟩ := bitOf_tap (mi 4)
  obtain ⟨-, h6, -, -⟩ := bitOf_tap (mi 6)
  show bitOf (shiftMI mi 7) 7 = _
  have hlast : shiftMI mi 7 = (mi 7 &&& 0x7F) <<< 1 ||| (mi 0 >>> 7 ^^^ mi 0 >>> 5 ^^^ mi 2 >>> 5 ^^^ mi 3 >>> 5 ^^^
      mi 4 >>> 2 ^^^ mi 6 >>> 6) &&& 0x01 := rfl
  rw [hlast, bitOf_or, bitOf_shiftUp _ (by decide), bitOf_and, bitOf_one 7 (by decide)]
  simp only [bitOf_xor, h07, h05, h2, h3, h4, h6, Nat.lt_irrefl, decide_false, decide_true, Bool.false_and,
    Bool.false_or, Bool.and_true]
  rfl

/-- What the polynomial feeds back. -/
theorem feedback_miPolynomial (s : Fin 64 → ZMod 2) :
    ShiftRegister.feedback miPolynomial s = s 63 + s 61 + s 45 + s 37 + s 26 + s 14 := by
  unfold miPolynomial
  simp only [ShiftRegister.feedback_add, ShiftRegister.feedback_one, add_zero]
  have htap (j : Fin 64) {n : Nat} (hn : n = j.val + 1) : ShiftRegister.feedback (X ^ n) s = s j := by
    rw [hn]
    exact ShiftRegister.feedback_X_pow s j
  rw [htap 63 (n := 64) rfl, htap 61 (n := 62) rfl, htap 45 (n := 46) rfl, htap 37 (n := 38) rfl,
    htap 26 (n := 27) rfl, htap 14 (n := 15) rfl]

/-- The last stage is fed back. -/
theorem isUnit_coeff_miPolynomial : IsUnit (miPolynomial.coeff (63 + 1)) := by
  have h : miPolynomial.coeff 64 = 1 := by
    unfold miPolynomial
    simp [coeff_X_pow, coeff_one]
  rw [h]
  exact isUnit_one

/-- **A cycle is a step of the register.** -/
theorem register_shiftMI (mi : Fin P25_MI_LENGTH_BYTES → UInt8) :
    register (shiftMI mi) = ShiftRegister.step miPolynomial (register mi) := by
  funext j
  refine Fin.cases ?_ (fun i => ?_) j
  · rw [ShiftRegister.step_zero_apply, feedback_miPolynomial]
    unfold register
    rw [stage_shiftMI_zero, add_ite, add_ite, add_ite, add_ite, add_ite]
  · rw [ShiftRegister.step_succ_apply]
    exact register_eq_iff.mpr (stage_shiftMI_succ mi i)

/-- The last octet takes no part. -/
theorem shiftMI_last (mi : Fin P25_MI_LENGTH_BYTES → UInt8) : shiftMI mi 8 = mi 8 := rfl

/-- The run lemma of `register_shiftMI`. -/
theorem register_iterate (n : Nat) (mi : Fin P25_MI_LENGTH_BYTES → UInt8) :
    register (shiftMI^[n] mi) = (ShiftRegister.step miPolynomial)^[n] (register mi) ∧ shiftMI^[n] mi 8 = mi 8 := by
  induction n generalizing mi with
  | zero => exact ⟨rfl, rfl⟩
  | succ n ih =>
      obtain ⟨hregister, hlast⟩ := ih (shiftMI mi)
      rw [Function.iterate_succ_apply, Function.iterate_succ_apply, hregister, register_shiftMI]
      exact ⟨rfl, hlast.trans (shiftMI_last mi)⟩

/-! ## The prediction -/

/-- The message indicator with these eight octets and this last one. -/
def withLast (state : Fin 8 → UInt8) (last : UInt8) : Fin P25_MI_LENGTH_BYTES → UInt8 :=
  Fin.snoc (α := fun _ => UInt8) state last

/-- The eight octets of a message indicator. -/
def stateOf (mi : Fin P25_MI_LENGTH_BYTES → UInt8) (i : Fin 8) : UInt8 := mi i.castSucc

theorem stateOf_withLast (state : Fin 8 → UInt8) (last : UInt8) : stateOf (withLast state last) = state := by
  funext i
  exact Fin.snoc_castSucc (α := fun _ => UInt8) last state i

theorem stateOf_eq_iff {mi mi' : Fin P25_MI_LENGTH_BYTES → UInt8} :
    stateOf mi = stateOf mi' ↔ register mi = register mi' := by
  constructor
  · intro h
    funext j
    refine register_eq_iff.mpr ?_
    have hoctet : mi (octetOf j) = mi' (octetOf j) := congrFun h ⟨7 - j.val / 8, by omega⟩
    unfold stage
    rw [hoctet]
  · intro h
    funext i
    exact octet_of_register h i.isLt

theorem register_eq_zero_iff (mi : Fin P25_MI_LENGTH_BYTES → UInt8) : register mi = 0 ↔ stateOf mi = 0 := by
  have hzero : register (fun _ => 0) = 0 := by
    funext j
    refine if_neg ?_
    rw [show stage (fun _ => 0) j = bitOf 0 (7 - j.val % 8) from rfl, bitOf_zero]
    exact Bool.false_ne_true
  rw [← hzero, ← stateOf_eq_iff]
  rfl

/-- The states of the prediction do not depend on the last octet. -/
theorem register_getNextMI (mi : Fin P25_MI_LENGTH_BYTES → UInt8) :
    register (getNextMI mi) = (ShiftRegister.step miPolynomial)^[64] (register mi) := (register_iterate 64 mi).1

theorem getNextMI_last (mi : Fin P25_MI_LENGTH_BYTES → UInt8) : getNextMI mi 8 = mi 8 := (register_iterate 64 mi).2

/-- **The prediction permutes the states.** -/
theorem bijective_getNextMI (last : UInt8) :
    Function.Bijective fun state : Fin 8 → UInt8 => stateOf (getNextMI (withLast state last)) := by
  have hfinite : Finite UInt8 :=
    Finite.of_injective (fun x => (⟨x.toNat, x.toNat_lt⟩ : Fin 256)) fun _ _ h => UInt8.toNat_inj.mp (Fin.mk.inj h)
  refine Finite.injective_iff_bijective.mp fun a b h => ?_
  have hregister := stateOf_eq_iff.mp h
  rw [register_getNextMI, register_getNextMI] at hregister
  have hsame := ((ShiftRegister.step_injective isUnit_coeff_miPolynomial).iterate 64) hregister
  rw [← stateOf_withLast a last, ← stateOf_withLast b last]
  exact stateOf_eq_iff.mpr hsame

/-- Only the zero state is followed by the zero state. -/
theorem getNextMI_eq_zero {mi : Fin P25_MI_LENGTH_BYTES → UInt8} (h : stateOf (getNextMI mi) = 0) : stateOf mi = 0 := by
  rw [← register_eq_zero_iff] at h ⊢
  rw [register_getNextMI] at h
  exact (ShiftRegister.iterate_step_eq_zero_iff isUnit_coeff_miPolynomial 64 _).mp h

/-- Message indicators with the same register and the same last octet are the same. -/
theorem mi_ext {mi mi' : Fin P25_MI_LENGTH_BYTES → UInt8} (hregister : register mi = register mi')
    (hlast : mi 8 = mi' 8) : mi = mi' := by
  funext i
  rcases Nat.lt_or_ge i.val 8 with hi | hi
  · exact octet_of_register hregister hi
  · rw [show i = 8 from Fin.ext (Nat.le_antisymm (Nat.le_of_lt_succ i.isLt) hi)]
    exact hlast

/-- By name, so that the numerals of `Fin 9` carry no proof of their own. -/
local instance neZero_indicator : NeZero 9 := ⟨by decide⟩

/-- A sequence of message indicators, each 64 steps of the register behind the one before. -/
def IsSequence (MI : Nat → Fin P25_MI_LENGTH_BYTES → UInt8) : Prop :=
  ∀ k, register (MI (k + 1)) = (ShiftRegister.step miPolynomial)^[64] (register (MI k)) ∧ MI (k + 1) 8 = MI k 8

theorem iterate_getNextMI {MI : Nat → Fin P25_MI_LENGTH_BYTES → UInt8} (hMI : IsSequence MI) (k n : Nat) :
    getNextMI^[n] (MI k) = MI (k + n) := by
  induction n with
  | zero => rfl
  | succ n ih =>
      rw [Function.iterate_succ_apply', ih]
      obtain ⟨hregister, hlast⟩ := hMI (k + n)
      exact mi_ext ((register_getNextMI _).trans hregister.symm) ((getNextMI_last _).trans hlast.symm)

/-- There is a sequence from every message indicator. -/
theorem isSequence_iterate (mi : Fin P25_MI_LENGTH_BYTES → UInt8) : IsSequence fun k => getNextMI^[k] mi := by
  intro k
  dsimp only
  rw [Function.iterate_succ_apply']
  exact ⟨register_getNextMI _, getNextMI_last _⟩

/-! ## Lost frames -/

/-- LDU2s that are taken one after the other. -/
def takeLDU2s (s : Voice) (frames : List (RS.Errata × Bytes)) : Voice :=
  frames.foldl (fun s frame => s.takeLDU2 frame.1 frame.2) s

/-- An LDU2 that cannot be decoded leaves the predicted message indicator. -/
theorem mi_takeLDU2 (s : Voice) {errata : RS.Errata} {data : Bytes}
    (hlost : (LC.default.decodeLDU2 errata data).1 = false) :
    (s.takeLDU2 errata data).rfLC.mi = getNextMI s.rfLastLDU2.mi ∧
      (s.takeLDU2 errata data).rfLastLDU2.mi = getNextMI s.rfLastLDU2.mi := by
  have hbad : ¬ (s.rfLC.decodeLDU2 errata data).1 = true := by
    rw [(LC.decodeLDU2_ids errata s.rfLC .default data).1, hlost]
    exact Bool.false_ne_true
  unfold takeLDU2
  dsimp only
  rw [if_neg hbad]
  exact ⟨rfl, rfl⟩

/-- **Behind any number of lost LDU2s** the message indicator is that many predictions on. -/
theorem mi_takeLDU2s {frames : List (RS.Errata × Bytes)}
    (hlost : ∀ frame ∈ frames, (LC.default.decodeLDU2 frame.1 frame.2).1 = false) (s : Voice) :
    (s.takeLDU2s frames).rfLastLDU2.mi = getNextMI^[frames.length] s.rfLastLDU2.mi := by
  induction frames generalizing s with
  | nil => rfl
  | cons frame frames ih =>
      rw [List.length_cons, Function.iterate_succ_apply,
        ← (mi_takeLDU2 s (hlost frame List.mem_cons_self)).2]
      exact ih (fun f hf => hlost f (List.mem_cons_of_mem _ hf)) _

/-- **The message indicator is predicted.** -/
theorem messageIndicator_predicted (mi : Fin P25_MI_LENGTH_BYTES → UInt8) :
    (register (getNextMI mi) = (ShiftRegister.step miPolynomial)^[64] (register mi) ∧ getNextMI mi 8 = mi 8) ∧
      (∀ last, Function.Bijective fun state : Fin 8 → UInt8 => stateOf (getNextMI (withLast state last))) ∧
      (stateOf mi ≠ 0 → stateOf (getNextMI mi) ≠ 0) ∧
      ∀ MI, IsSequence MI → ∀ k n, getNextMI^[n] (MI k) = MI (k + n) ∧
        ∀ (s : Voice) (frames : List (RS.Errata × Bytes)), s.rfLastLDU2.mi = MI k → frames.length = n →
          (∀ frame ∈ frames, (LC.default.decodeLDU2 frame.1 frame.2).1 = false) →
          (s.takeLDU2s frames).rfLastLDU2.mi = MI (k + n) := by
  refine ⟨⟨register_getNextMI mi, getNextMI_last mi⟩, bijective_getNextMI, fun h h' => h (getNextMI_eq_zero h'), ?_⟩
  intro MI hMI k n
  refine ⟨iterate_getNextMI hMI k n, fun s frames hlast hlength hlost => ?_⟩
  rw [mi_takeLDU2s hlost, hlast, hlength]
  exact iterate_getNextMI hMI k n

theorem messageIndicator_predicted_twice :
    getNextMI^[2] (getNextMI^[3] fun _ => 0x01) = getNextMI^[3 + 2] fun _ => 0x01 :=
  ((messageIndicator_predicted fun _ => 0x01).2.2.2 _ (isSequence_iterate fun _ => 0x01) 3 2).1

end Voice

end P25

end DvmHost

import Mathlib.Data.List.Perm.Subperm
import Mathlib.Data.List.Sublists
import Mathlib.Data.Nat.Find
import DvmHost.Lib.ParityCode
import DvmHost.Common.Edac.Trellis

/-!
# `Common.Edac.Correctness.TrellisRepair` — what the trellis decoders repair

`checkCode` follows the points from the front and stops where one is on no edge out of the current state. At
rate 1/2 the rows of the table are disjoint and a single inverted bit leaves the row, so the check stops at
the first corrupted symbol; of the sixteen values tried there, only the right one carries the check past the
following (uncorrupted) symbol. Every turn of `fixCode` thus removes the first of the remaining errors
(`fixCode_repairs`).

At rate 3/4 rows are shared and the check may run on past a wrong value, but an odd number of inverted bits
still leaves the row, and a wrong value cannot reach the closing 0: the columns of the table are injective,
so going back from the end the states are forced (`check_ne_done`).
-/

namespace DvmHost

namespace Trellis

open Lib Lib.Trellis

section Check

variable {c : Code} {points b : Nat → Nat}

theorem findInput_eq_some {s p j : Nat} (h : findInput c s p = some j) : j < c.inputs ∧ p = c.symbol s j := by
  unfold findInput at h
  have hmem := List.mem_of_find?_eq_some h
  have htest := List.find?_some h
  exact ⟨List.mem_range.mp hmem, of_decide_eq_true htest⟩

theorem findInput_symbol (hrow : RowInj c) {s j : Nat} (hs : s < c.inputs) (hj : j < c.inputs) :
    findInput c s (c.symbol s j) = some j := by
  cases hfind : findInput c s (c.symbol s j) with
  | none =>
      have hno := List.find?_eq_none.mp hfind j (List.mem_range.mpr hj)
      exact absurd (decide_eq_true rfl) hno
  | some j' =>
      obtain ⟨hlt, heq⟩ := findInput_eq_some hfind
      rw [hrow s hs j hj j' hlt heq]

theorem findInput_offRow {i : Nat} (h : OffRow c points b i) : findInput c (state b i) (points i) = none := by
  unfold findInput
  rw [List.find?_eq_none]
  intro j hj
  exact fun heq => h j (List.mem_range.mp hj) (of_decide_eq_true heq)

/-- While the points follow `b`, the check reads `b` off them. -/
theorem checkLoop_run (hpos : 0 < c.inputs) (hrow : RowInj c) (n d : Nat) : ∀ (i : Nat) (bits : Nat → Nat),
    Follows c points b (i + d) →
      checkLoop c points (n + d) i (state b i) bits =
        checkLoop c points n (i + d) (state b (i + d))
        (fun k => if i ≤ k ∧ k < i + d then b k else bits k) := by
  induction d with
  | zero =>
      intro i bits _
      congr 1
      funext k
      rw [if_neg (by omega)]
  | succ d ih =>
      intro i bits h
      obtain ⟨hb, hp⟩ := h i (by omega)
      have hst : state b i < c.inputs := state_lt hpos h (by omega)
      rw [← Nat.add_assoc, checkLoop, hp, findInput_symbol hrow hst hb]
      have hshift : i + 1 + d = i + (d + 1) := by omega
      have hrest := ih (i + 1) (fun k => if k = i then b i else bits k) (by rw [hshift]; exact h)
      rw [hshift] at hrest
      refine hrest.trans ?_
      congr 1
      funext k
      by_cases hki : k = i
      · rw [if_neg (by omega), if_pos hki, if_pos (by omega), hki]
      · rw [if_neg hki]
        by_cases hin : i + 1 ≤ k ∧ k < i + (d + 1)
        · rw [if_pos hin, if_pos (by omega)]
        · rw [if_neg hin, if_neg (by omega)]

/-- The check from the start, as far as the points follow. -/
theorem checkCode_run (hpos : 0 < c.inputs) (hrow : RowInj c) {e : Nat} (he : e ≤ 49)
    (h : Follows c points b e) :
    checkCode c points = checkLoop c points (49 - e) e (state b e) (fun k => if k < e then b k else 0) := by
  have hrun := checkLoop_run hpos hrow (49 - e) e 0 (fun _ => 0) (by rw [Nat.zero_add]; exact h)
  rw [Nat.sub_add_cancel he, Nat.zero_add] at hrun
  refine hrun.trans ?_
  simp only [Nat.zero_le, true_and]

/-- **A codeword passes.** -/
theorem checkCode_valid (hpos : 0 < c.inputs) (hrow : RowInj c) (h : Follows c points b 49) (hlast : b 48 = 0) :
    (checkCode c points).1 = 999 ∧ ∀ i < 49, (checkCode c points).2 i = b i := by
  rw [checkCode_run hpos hrow (Nat.le_refl 49) h, checkLoop, if_neg (by rw [if_pos (by decide), hlast]; decide)]
  exact ⟨rfl, fun i hi => if_pos hi⟩

/-- A wrong closing input fails at the closing symbol. -/
theorem checkCode_flush (hpos : 0 < c.inputs) (hrow : RowInj c) (h : Follows c points b 49) (hlast : b 48 ≠ 0) :
    (checkCode c points).1 = 48 := by
  rw [checkCode_run hpos hrow (Nat.le_refl 49) h, checkLoop, if_pos (by rw [if_pos (by decide)]; exact hlast)]

/-- **A point off its row fails at its position.** -/
theorem checkCode_fail (hpos : 0 < c.inputs) (hrow : RowInj c) {e : Nat} (he : e < 49)
    (h : Follows c points b e) (hoff : OffRow c points b e) : (checkCode c points).1 = e := by
  obtain ⟨n, hn⟩ : ∃ n, 49 - e = n + 1 := ⟨48 - e, by omega⟩
  rw [checkCode_run hpos hrow (Nat.le_of_lt he) h, hn, checkLoop, findInput_offRow hoff]

/-- What passes the check follows the inputs it gives. -/
theorem checkLoop_sound (n : Nat) : ∀ (i : Nat) (bits : Nat → Nat), Follows c points bits i → i + n = 49 →
    (checkLoop c points n i (state bits i) bits).1 = 999 →
      Follows c points (checkLoop c points n i (state bits i) bits).2 49 ∧
        (checkLoop c points n i (state bits i) bits).2 48 = 0 := by
  induction n with
  | zero =>
      intro i bits h hi hdone
      have hi49 : i = 49 := by omega
      rw [checkLoop] at hdone ⊢
      split at hdone
      · have h48 : (48 : Nat) = 999 := hdone
        exact absurd h48 (by decide)
      · next hlast =>
          rw [if_neg hlast]
          exact ⟨hi49 ▸ h, not_not.mp hlast⟩
  | succ n ih =>
      intro i bits h hi hdone
      rw [checkLoop] at hdone ⊢
      cases hfind : findInput c (state bits i) (points i) with
      | none =>
          rw [hfind] at hdone
          have h999 : i = 999 := hdone
          omega
      | some j =>
          rw [hfind] at hdone
          obtain ⟨hj, hpt⟩ := findInput_eq_some hfind
          -- the inputs extended by `j`
          have hst : state (fun k => if k = i then j else bits k) i = state bits i :=
            state_congr fun k hk => if_neg (by omega)
          have hnext : Follows c points (fun k => if k = i then j else bits k) (i + 1) := by
            intro k hk
            by_cases hki : k = i
            · subst hki
              rw [hst]
              dsimp only
              rw [if_pos rfl]
              exact ⟨hj, hpt⟩
            · have hstk : state (fun k => if k = i then j else bits k) k = state bits k :=
                state_congr fun k' hk' => if_neg (by omega)
              rw [hstk]
              dsimp only
              rw [if_neg hki]
              exact h k (by omega)
          have hstate : state (fun k => if k = i then j else bits k) (i + 1) = j := if_pos rfl
          have hrest := ih (i + 1) _ hnext (by omega)
          rw [hstate] at hrest
          exact hrest hdone

theorem checkCode_sound (hdone : (checkCode c points).1 = 999) :
    Follows c points (checkCode c points).2 49 ∧ (checkCode c points).2 48 = 0 :=
  checkLoop_sound 49 0 (fun _ => 0) (fun i hi => absurd hi (Nat.not_lt_zero i)) rfl hdone

end Check

/-! ## The sixteen values -/

section Values

variable {c : Code} {points : Nat → Nat} {failPos v : Nat}

/-- One value passes and no other does. -/
theorem tryValues_found {vals : List Nat} (hv : v ∈ vals)
    (hdone : (checkCode c (setPoint points failPos v)).1 = 999)
    (hother : ∀ u ∈ vals, u ≠ v → (checkCode c (setPoint points failPos u)).1 ≠ 999) :
    ∀ best, tryValues c points failPos vals best = .inl (checkCode c (setPoint points failPos v)).2 := by
  induction vals with
  | nil => exact absurd hv List.not_mem_nil
  | cons u us ih =>
      intro best
      rw [tryValues]
      by_cases huv : u = v
      · subst huv
        rw [if_pos hdone]
      · rw [if_neg (hother u List.mem_cons_self huv)]
        have hmem : v ∈ us := (List.mem_cons.mp hv).resolve_left (fun he => huv he.symm)
        exact ih hmem (fun w hw => hother w (List.mem_cons_of_mem u hw)) _

/-- No value passes and one goes further than the others. -/
theorem tryValues_best {vals : List Nat} {pos : Nat}
    (hpos : (checkCode c (setPoint points failPos v)).1 = pos) (hne : pos ≠ 999)
    (hother : ∀ u ∈ vals, u ≠ v → (checkCode c (setPoint points failPos u)).1 ≠ 999 ∧
      (checkCode c (setPoint points failPos u)).1 < pos) :
    ∀ best : Nat × Nat, (v ∈ vals ∧ best.1 < pos) ∨ best = (pos, v) →
      tryValues c points failPos vals best = .inr (pos, v) := by
  induction vals with
  | nil =>
      rintro best (⟨hv, -⟩ | rfl)
      · exact absurd hv List.not_mem_nil
      · rfl
  | cons u us ih =>
      intro best hbest
      have htail := ih (fun w hw => hother w (List.mem_cons_of_mem u hw))
      rw [tryValues]
      by_cases huv : u = v
      · subst huv
        rw [hpos, if_neg hne]
        refine htail _ (Or.inr ?_)
        rcases hbest with ⟨-, hlt⟩ | rfl
        · rw [if_pos hlt]
        · rw [if_neg (Nat.lt_irrefl pos)]
      · obtain ⟨hne', hlt'⟩ := hother u List.mem_cons_self huv
        rw [if_neg hne']
        refine htail _ ?_
        rcases hbest with ⟨hv, hlt⟩ | rfl
        · left
          refine ⟨(List.mem_cons.mp hv).resolve_left (fun he => huv he.symm), ?_⟩
          split
          · exact hlt'
          · exact hlt
        · right
          rw [if_neg (by dsimp only; omega)]

end Values

/-! ## Repairing single-bit errors at rate 1/2 -/

/-- No two rows share a symbol. -/
def RowsDisjoint (c : Code) : Prop :=
  ∀ s < c.inputs, ∀ s' < c.inputs, ∀ j < c.inputs, ∀ j' < c.inputs, c.symbol s j = c.symbol s' j' → s = s'

/-- The symbols of the code are constellation points. -/
def Points16 (c : Code) : Prop := ∀ s < c.inputs, ∀ j < c.inputs, c.symbol s j < 16

section Repair

variable {c : Code} {b : Nat → Nat}

theorem setPoint_eq (points : Nat → Nat) (pos val : Nat) : setPoint points pos val pos = val := if_pos rfl

theorem setPoint_ne (points : Nat → Nat) {pos k : Nat} (val : Nat) (h : k ≠ pos) :
    setPoint points pos val k = points k := if_neg h

theorem state_input_lt (hb : ∀ i, b i < c.inputs) (i : Nat) : state b i < c.inputs := by
  cases i with
  | zero => exact Nat.lt_of_le_of_lt (Nat.zero_le (b 0)) (hb 0)
  | succ i => exact hb i

theorem follows_of_eq {points : Nat → Nat} (hb : ∀ i, b i < c.inputs) {n : Nat}
    (h : ∀ i < n, points i = encodePoints c b i) : Follows c points b n := fun i hi => ⟨hb i, h i hi⟩

/-- The received points `r` that differ from those sent are off their rows, and no two of them adjoin. -/
structure Detectable (c : Code) (b r : Nat → Nat) : Prop where
  off : ∀ i < 49, r i ≠ encodePoints c b i → OffRow c r b i
  apart : ∀ i < 48, r i ≠ encodePoints c b i → r (i + 1) = encodePoints c b (i + 1)

/-- The corrupted symbols. -/
def errorPositions (c : Code) (b r : Nat → Nat) : List Nat :=
  (List.range 49).filter (fun i => r i ≠ encodePoints c b i)

theorem mem_errorPositions {r : Nat → Nat} {i : Nat} :
    i ∈ errorPositions c b r ↔ i < 49 ∧ r i ≠ encodePoints c b i := by
  unfold errorPositions
  rw [List.mem_filter, List.mem_range, decide_eq_true_iff]

theorem Detectable.setPoint {r : Nat → Nat} (h : Detectable c b r) (e : Nat) :
    Detectable c b (setPoint r e (encodePoints c b e)) := by
  refine ⟨fun i hi hne => ?_, fun i hi hne => ?_⟩
  · have hie : i ≠ e := by
      rintro rfl
      exact hne (setPoint_eq _ _ _)
    rw [setPoint_ne _ _ hie] at hne
    intro j hj
    rw [setPoint_ne _ _ hie]
    exact h.off i hi hne j hj
  · have hie : i ≠ e := by
      rintro rfl
      exact hne (setPoint_eq _ _ _)
    rw [setPoint_ne _ _ hie] at hne
    by_cases hnext : i + 1 = e
    · rw [hnext]
      exact setPoint_eq _ _ _
    · rw [setPoint_ne _ _ hnext]
      exact h.apart i hi hne

/-- Repairing the symbol at `e` takes it off the corrupted ones. -/
theorem length_errorPositions_setPoint {r : Nat → Nat} {e : Nat} (he : e < 49)
    (hne : r e ≠ encodePoints c b e) :
    (errorPositions c b (setPoint r e (encodePoints c b e))).length < (errorPositions c b r).length := by
  have hnd : (e :: errorPositions c b (setPoint r e (encodePoints c b e))).Nodup := by
    refine List.nodup_cons.mpr ⟨fun hmem => ?_, List.nodup_range.filter _⟩
    exact (mem_errorPositions.mp hmem).2 (setPoint_eq _ _ _)
  have hsub : e :: errorPositions c b (setPoint r e (encodePoints c b e)) ⊆ errorPositions c b r := by
    intro i hi
    rcases List.mem_cons.mp hi with rfl | hi
    · exact mem_errorPositions.mpr ⟨he, hne⟩
    · obtain ⟨hi49, hdiff⟩ := mem_errorPositions.mp hi
      have hie : i ≠ e := by
        rintro rfl
        exact hdiff (setPoint_eq _ _ _)
      rw [setPoint_ne _ _ hie] at hdiff
      exact mem_errorPositions.mpr ⟨hi49, hdiff⟩
  have hlen := (List.subperm_of_subset hnd hsub).length_le
  rw [List.length_cons] at hlen
  exact hlen

/-- The first corrupted symbol, if there is one. -/
theorem first_error {r : Nat → Nat} (h : ¬ ∀ i < 49, r i = encodePoints c b i) :
    ∃ e < 49, r e ≠ encodePoints c b e ∧ ∀ i < e, r i = encodePoints c b i := by
  have hex : ∃ e, e < 49 ∧ r e ≠ encodePoints c b e := by
    by_contra hno
    refine h fun i hi => ?_
    by_contra hne
    exact hno ⟨i, hi, hne⟩
  refine ⟨Nat.find hex, (Nat.find_spec hex).1, (Nat.find_spec hex).2, fun i hi => ?_⟩
  by_contra hne
  exact Nat.find_min hex hi ⟨by have := (Nat.find_spec hex).1; omega, hne⟩

/-- **A wrong value does not get far.** At the first corrupted symbol every value but the one sent fails there
    or at the next symbol. -/
theorem wrong_value (hpos : 0 < c.inputs) (hrow : RowInj c) (hdis : RowsDisjoint c) (hb : ∀ i, b i < c.inputs)
    (hlast : b 48 = 0) {r : Nat → Nat} {e v : Nat} (he : e < 49) (hbefore : ∀ i < e, r i = encodePoints c b i)
    (hnext : e + 1 < 49 → r (e + 1) = encodePoints c b (e + 1)) (hv : v ≠ encodePoints c b e) :
    (checkCode c (setPoint r e v)).1 = e ∨ (checkCode c (setPoint r e v)).1 = e + 1 ∧ e + 1 < 49 := by
  have hstart : ∀ i < e, setPoint r e v i = encodePoints c b i := fun i hi => by
    rw [setPoint_ne _ _ (by omega), hbefore i hi]
  by_cases hoff : OffRow c (setPoint r e v) b e
  · left
    exact checkCode_fail hpos hrow he (follows_of_eq hb hstart) hoff
  · -- the value is on the row: another input, hence another state
    unfold OffRow at hoff
    push Not at hoff
    obtain ⟨j, hj, hvj⟩ := hoff
    rw [setPoint_eq] at hvj
    have hjb : j ≠ b e := by
      rintro rfl
      exact hv hvj
    have hst : ∀ i ≤ e, state (fun k => if k = e then j else b k) i = state b i := fun i hi =>
      state_congr fun k hk => if_neg (by omega)
    have hfollow : Follows c (setPoint r e v) (fun k => if k = e then j else b k) (e + 1) := by
      intro i hi
      rw [hst i (by omega)]
      by_cases hie : i = e
      · subst hie
        rw [setPoint_eq]
        dsimp only
        rw [if_pos rfl]
        exact ⟨hj, hvj⟩
      · dsimp only
        rw [if_neg hie]
        exact ⟨hb i, hstart i (by omega)⟩
    have hafter : state (fun k => if k = e then j else b k) (e + 1) = j := if_pos rfl
    rcases Nat.lt_or_ge (e + 1) 49 with hin | hend
    · right
      refine ⟨checkCode_fail hpos hrow hin hfollow fun j' hj' heq => ?_, hin⟩
      rw [hafter, setPoint_ne _ _ (by omega), hnext hin] at heq
      exact hjb (hdis (b e) (hb e) j hj (b (e + 1)) (hb (e + 1)) j' hj' heq).symm
    · left
      have h48 : e = 48 := by omega
      subst h48
      refine checkCode_flush hpos hrow hfollow ?_
      rw [if_pos rfl]
      exact fun hj0 => hjb (hj0.trans hlast.symm)

/-- **The repair.** From the first corrupted symbol, as many tries as there are corrupted symbols recover the
    inputs. -/
theorem fixCode_repairs (hpos : 0 < c.inputs) (hrow : RowInj c) (hdis : RowsDisjoint c) (h16 : Points16 c)
    (hb : ∀ i, b i < c.inputs) (hlast : b 48 = 0) (n : Nat) : ∀ {r : Nat → Nat} {e : Nat}, e < 49 →
      r e ≠ encodePoints c b e → (∀ i < e, r i = encodePoints c b i) → Detectable c b r →
      (errorPositions c b r).length ≤ n → ∃ out, fixCode c n r e = some out ∧ ∀ i < 49, out i = b i := by
  induction n with
  | zero =>
      intro r e he hne _ _ hlen
      have hmem : e ∈ errorPositions c b r := mem_errorPositions.mpr ⟨he, hne⟩
      rw [List.length_eq_zero_iff.mp (Nat.le_zero.mp hlen)] at hmem
      exact absurd hmem List.not_mem_nil
  | succ n ih =>
      intro r e he hne hbefore hdet hlen
      have hright : encodePoints c b e ∈ List.range 16 :=
        List.mem_range.mpr (h16 _ (state_input_lt hb e) _ (hb e))
      have hwrong : ∀ u ∈ List.range 16, u ≠ encodePoints c b e →
          (checkCode c (setPoint r e u)).1 = e ∨
            (checkCode c (setPoint r e u)).1 = e + 1 ∧ e + 1 < 49 := fun u _ hu =>
        wrong_value hpos hrow hdis hb hlast he hbefore (fun hin => hdet.apart e (by omega) hne) hu
      rw [fixCode]
      by_cases hclean : ∀ i < 49, setPoint r e (encodePoints c b e) i = encodePoints c b i
      · -- the last error: the right value passes
        obtain ⟨hdone, hbits⟩ := checkCode_valid hpos hrow (follows_of_eq hb hclean) hlast
        have hfound := tryValues_found hright hdone (fun u hu hne' h999 => by
          rcases hwrong u hu hne' with h | ⟨h, -⟩ <;> omega) (0, 0)
        rw [hfound]
        exact ⟨_, rfl, hbits⟩
      · -- the right value reaches the next error, further than any other
        obtain ⟨e', he', hne', hbefore'⟩ := first_error hclean
        have hdet' := hdet.setPoint e
        have hcheck : (checkCode c (setPoint r e (encodePoints c b e))).1 = e' :=
          checkCode_fail hpos hrow he' (follows_of_eq hb hbefore') (hdet'.off e' he' hne')
        have hfar : e + 1 < e' := by
          by_contra hnear
          have hcases : e' < e ∨ e' = e ∨ e' = e + 1 := by omega
          rcases hcases with hlt | rfl | rfl
          · rw [setPoint_ne _ _ (by omega)] at hne'
            exact hne' (hbefore e' hlt)
          · exact hne' (setPoint_eq _ _ _)
          · rw [setPoint_ne _ _ (by omega)] at hne'
            exact hne' (hdet.apart e (by omega) hne)
        have hbest := tryValues_best hcheck (by omega) (fun u hu hne'' => by
          rcases hwrong u hu hne'' with h | ⟨h, -⟩ <;> constructor <;> omega) (0, 0)
          (Or.inl ⟨hright, by dsimp only; omega⟩)
        rw [hbest]
        have hfewer := length_errorPositions_setPoint he hne
        exact ih he' hne' hbefore' hdet' (by omega)

/-- Points received as they were sent decode. -/
theorem decodePoints_clean (hpos : 0 < c.inputs) (hrow : RowInj c) (hb : ∀ i, b i < c.inputs) (hlast : b 48 = 0)
    {r : Nat → Nat} (h : ∀ i < 49, r i = encodePoints c b i) :
    ∃ out, decodePoints c r = some out ∧ ∀ i < 49, out i = b i := by
  obtain ⟨hdone, hbits⟩ := checkCode_valid hpos hrow (follows_of_eq hb h) hlast
  unfold decodePoints
  exact ⟨_, if_pos hdone, hbits⟩

/-- Points that can be repaired one after the other decode. -/
theorem decodePoints_detectable (hpos : 0 < c.inputs) (hrow : RowInj c) (hdis : RowsDisjoint c) (h16 : Points16 c)
    (hb : ∀ i, b i < c.inputs) (hlast : b 48 = 0) {r : Nat → Nat} (hdet : Detectable c b r)
    (hcount : (errorPositions c b r).length ≤ 20) :
    ∃ out, decodePoints c r = some out ∧ ∀ i < 49, out i = b i := by
  by_cases hclean : ∀ i < 49, r i = encodePoints c b i
  · exact decodePoints_clean hpos hrow hb hlast hclean
  · obtain ⟨e, he, hne, hbefore⟩ := first_error hclean
    have hcheck : (checkCode c r).1 = e :=
      checkCode_fail hpos hrow he (follows_of_eq hb hbefore) (hdet.off e he hne)
    obtain ⟨out, hfix, hout⟩ := fixCode_repairs hpos hrow hdis h16 hb hlast 20 he hne hbefore hdet hcount
    refine ⟨out, ?_, hout⟩
    unfold decodePoints
    dsimp only
    rw [hcheck, if_neg (by omega), hfix]

end Repair

/-! ## Rate 1/2 -/

theorem code12_pos : 0 < code12.inputs := by decide

theorem code12_row : RowInj code12 := by
  show ∀ s < 4, ∀ j < 4, ∀ j' < 4, code12.symbol s j = code12.symbol s j' → j = j'
  decide

theorem code12_disjoint : RowsDisjoint code12 := by
  show ∀ s < 4, ∀ s' < 4, ∀ j < 4, ∀ j' < 4, code12.symbol s j = code12.symbol s' j' → s = s'
  decide

theorem code12_points : Points16 code12 := by
  show ∀ s < 4, ∀ j < 4, code12.symbol s j < 16
  decide

/-- **Within a row the bit patterns differ in two bits or more**: a point with one bit inverted is off its
    row. -/
theorem code12_offRow : ∀ s < 4, ∀ j < 4, ∀ k < 4, ∀ j' < 4,
    bitsPoint (ParityCode.flip (pointBits (code12.symbol s j)) k) ≠ code12.symbol s j' := by decide

theorem bitsToDibits_lt (payload : Bytes) (i : Nat) : bitsToDibits payload i < code12.inputs := by
  show bitsToDibits payload i < 4
  unfold bitsToDibits
  split
  · cases readBit payload (i * 2) <;> cases readBit payload (i * 2 + 1) <;> decide
  · decide

/-- The payload of the inputs of a payload. -/
theorem dibitsToBits_bitsToDibits {p out : Bytes} {bits : Nat → Nat} (h : ∀ i < 49, bits i = bitsToDibits p i) :
    ∀ j < 12, dibitsToBits bits out j = p j := by
  intro j hj
  refine byte_ext fun k hk => ?_
  rw [← readBit_octet (dibitsToBits bits out) j hk, ← readBit_octet p j hk]
  unfold dibitsToBits
  rw [readBit_writeBitRun _ (by decide), if_pos (by omega)]
  dsimp only
  rw [h _ (by omega)]
  unfold bitsToDibits
  rw [if_pos (by omega)]
  have hpar : (8 * j + k) % 2 = 0 ∨ (8 * j + k) % 2 = 1 := by omega
  rcases hpar with hpar | hpar
  · have hpos : 8 * j + k = (8 * j + k) / 2 * 2 := by omega
    rw [hpar, ← hpos]
    cases readBit p (8 * j + k) <;> cases readBit p (8 * j + k + 1) <;> decide
  · have hpos : 8 * j + k = (8 * j + k) / 2 * 2 + 1 := by omega
    rw [hpar, ← hpos]
    cases readBit p (8 * j + k) <;> cases readBit p ((8 * j + k) / 2 * 2) <;> decide

/-- A corrupted symbol: its place, and the bit inverted. The list gives them in trellis order, no two
    consecutive. -/
structure Sparse (errs : List (Nat × Nat)) : Prop where
  inFrame : ∀ e ∈ errs, e.1 < 49 ∧ e.2 < 4
  apart : errs.Pairwise (fun e e' => e.1 + 2 ≤ e'.1)

theorem Sparse.eq_or_apart {errs : List (Nat × Nat)} (h : Sparse errs) {e e' : Nat × Nat} (he : e ∈ errs)
    (he' : e' ∈ errs) : e = e' ∨ e.1 + 2 ≤ e'.1 ∨ e'.1 + 2 ≤ e.1 := by
  refine List.Pairwise.forall_of_forall_of_flip
    (R := fun x y : Nat × Nat => x = y ∨ x.1 + 2 ≤ y.1 ∨ y.1 + 2 ≤ x.1) (fun x _ => Or.inl rfl) ?_ ?_ he he'
  · exact h.apart.imp fun hle => Or.inr (Or.inl hle)
  · exact h.apart.imp fun hle => Or.inr (Or.inr hle)

/-- The frame bits of the corrupted symbols are distinct. -/
theorem Sparse.nodup {errs : List (Nat × Nat)} (h : Sparse errs) :
    (errs.map fun e => symbolBit e.1 e.2).Nodup := by
  refine List.pairwise_map.mpr (List.Pairwise.imp_of_mem ?_ h.apart)
  intro e e' he he' hle heq
  obtain ⟨h1, h2⟩ := h.inFrame e he
  obtain ⟨h1', h2'⟩ := h.inFrame e' he'
  have hsame := (symbolBit_inj h1 h2 h1' h2' heq).1
  omega

/-- What is received for a symbol sent as `points i`, with the bits of `S` inverted. -/
theorem received_flipped (points : Nat → Nat) (f : Bytes) (S : List Nat) {i : Nat} (hi : i < 49) :
    dibitsToPoints (deinterleave (flipBits S (interleave (pointsToDibits points) f))) i =
      bitsPoint (fun j => readBit (flipBits S (interleave (pointsToDibits points) f)) (symbolBit i j)) :=
  received_point _ hi

/-- A symbol is received as it was sent. -/
theorem received_sent (points : Nat → Nat) (f : Bytes) {i : Nat} (hi : i < 49) (h16 : points i < 16) :
    dibitsToPoints (deinterleave (interleave (pointsToDibits points) f)) i = points i := by
  rw [received_point _ hi]
  exact Eq.trans (bitsPoint_congr fun j hj => sent_bit points f hi hj) (bitsPoint_pointBits _ h16)

/-- A symbol with no bit inverted is received as it was sent. -/
theorem received_clean (points : Nat → Nat) (f : Bytes) {S : List Nat} {i : Nat} (hi : i < 49)
    (h16 : points i < 16) (hS : ∀ j < 4, symbolBit i j ∉ S) :
    dibitsToPoints (deinterleave (flipBits S (interleave (pointsToDibits points) f))) i = points i := by
  rw [received_flipped points f S hi]
  refine Eq.trans (bitsPoint_congr fun j hj => ?_) (bitsPoint_pointBits _ h16)
  rw [readBit_flipBits_of_notMem (hS j hj), sent_bit points f hi hj]

theorem code12_sent (p : Bytes) (i : Nat) : encodePoints code12 (bitsToDibits p) i < 16 :=
    code12_points _ (state_input_lt (bitsToDibits_lt p) i) _ (bitsToDibits_lt p i)

/-- The inputs of a payload give the payload. -/
theorem decode12_of_points {p g : Bytes} (out : Bytes) (h : ∃ bits, decodePoints code12
    (dibitsToPoints (deinterleave g)) = some bits ∧ ∀ i < 49, bits i = bitsToDibits p i) :
    ∃ q, decode12 g out = some q ∧ ∀ j < 12, q j = p j := by
  obtain ⟨bits, hdec, hbits⟩ := h
  refine ⟨dibitsToBits bits out, ?_, dibitsToBits_bitsToDibits hbits⟩
  unfold decode12
  rw [hdec]
  rfl

/-- A frame without errors. -/
theorem decode12_clean (p f out : Bytes) : ∃ q, decode12 (encode12 p f) out = some q ∧ ∀ j < 12, q j = p j := by
  apply decode12_of_points
  exact decodePoints_clean code12_pos code12_row (bitsToDibits_lt p) (if_neg (by decide))
    fun i hi => received_sent _ f hi (code12_sent p i)

/-- A symbol with one bit inverted is off its row. -/
theorem offRow_of_sparse (p f : Bytes) {errs : List (Nat × Nat)} (hsparse : Sparse errs) {e : Nat × Nat}
    (he : e ∈ errs) : OffRow code12 (dibitsToPoints (deinterleave
      (flipBits (errs.map fun e => symbolBit e.1 e.2) (encode12 p f)))) (bitsToDibits p) e.1 := by
  intro j hj
  have hb := bitsToDibits_lt p
  obtain ⟨h1, h2⟩ := hsparse.inFrame e he
  rw [show encode12 p f = interleave (pointsToDibits (encodePoints code12 (bitsToDibits p))) f from rfl,
    received_flipped _ f _ h1]
  refine ne_of_eq_of_ne (bitsPoint_congr fun k hk => ?_)
    (code12_offRow _ (state_input_lt hb e.1) _ (hb e.1) e.2 h2 j hj)
  unfold ParityCode.flip
  by_cases hke : k = e.2
  · rw [if_pos hke, hke, readBit_flipBits_of_mem hsparse.nodup (List.mem_map.mpr ⟨e, he, rfl⟩), sent_bit _ f h1 h2]
    rfl
  · rw [if_neg hke, readBit_flipBits_of_notMem, sent_bit _ f h1 hk]
    · rfl
    · intro hmem
      obtain ⟨e', he', heq⟩ := List.mem_map.mp hmem
      obtain ⟨h1', h2'⟩ := hsparse.inFrame e' he'
      obtain ⟨hsym, hbit⟩ := symbolBit_inj h1' h2' h1 hk heq
      rcases hsparse.eq_or_apart he he' with rfl | hap | hap <;> omega

/-- **Rate 1/2.** For every payload and every frame, and for at most 20 corrupted symbols with one bit inverted
    in each and no two consecutive, decoding succeeds and gives the payload. -/
theorem decode12_encode12 (p f out : Bytes) (errs : List (Nat × Nat)) (hlen : errs.length ≤ 20)
    (hsparse : Sparse errs) :
    ∃ q, decode12 (flipBits (errs.map fun e => symbolBit e.1 e.2) (encode12 p f)) out = some q ∧
      ∀ j < 12, q j = p j := by
  -- the points received
  have hrecv : ∀ i < 49, (∀ e ∈ errs, e.1 ≠ i) → dibitsToPoints (deinterleave
      (flipBits (errs.map fun e => symbolBit e.1 e.2) (encode12 p f))) i =
        encodePoints code12 (bitsToDibits p) i := by
    intro i hi hclean
    refine received_clean _ f hi (code12_sent p i) fun j hj hmem => ?_
    obtain ⟨e, he, heq⟩ := List.mem_map.mp hmem
    obtain ⟨h1, h2⟩ := hsparse.inFrame e he
    exact hclean e he (symbolBit_inj h1 h2 hi hj heq).1
  have hoff := fun (e : Nat × Nat) (he : e ∈ errs) => offRow_of_sparse p f hsparse he
  apply decode12_of_points
  generalize dibitsToPoints (deinterleave (flipBits (errs.map fun e => symbolBit e.1 e.2) (encode12 p f))) = r
    at hrecv hoff ⊢
  have hbad : ∀ i < 49, r i ≠ encodePoints code12 (bitsToDibits p) i → ∃ e ∈ errs, e.1 = i := by
    intro i hi hne
    by_contra hno
    exact hne (hrecv i hi fun e he hei => hno ⟨e, he, hei⟩)
  have hdet : Detectable code12 (bitsToDibits p) r := by
    refine ⟨fun i hi hne => ?_, fun i hi hne => ?_⟩
    · obtain ⟨e, he, rfl⟩ := hbad i hi hne
      exact hoff e he
    · obtain ⟨e, he, rfl⟩ := hbad i (by omega) hne
      by_contra hnext
      obtain ⟨e', he', heq⟩ := hbad (e.1 + 1) (by omega) hnext
      rcases hsparse.eq_or_apart he he' with rfl | hap | hap <;> omega
  have hcount : (errorPositions code12 (bitsToDibits p) r).length ≤ 20 := by
    have hsub : errorPositions code12 (bitsToDibits p) r ⊆ errs.map Prod.fst := by
      intro i hi
      obtain ⟨hi49, hne⟩ := mem_errorPositions.mp hi
      obtain ⟨e, he, rfl⟩ := hbad i hi49 hne
      exact List.mem_map_of_mem he
    have hnd : (errorPositions code12 (bitsToDibits p) r).Nodup := List.nodup_range.filter _
    have hle := (List.subperm_of_subset hnd hsub).length_le
    rw [List.length_map] at hle
    omega
  exact decodePoints_detectable code12_pos code12_row code12_disjoint code12_points (bitsToDibits_lt p)
    (if_neg (by decide)) hdet hcount

/-- Two corrupted symbols, the first and the last. -/
theorem decode12_encode12_two :
    ∃ q, decode12 (flipBits ([(0, 1), (48, 3)].map fun e => symbolBit e.1 e.2)
        (encode12 (fun _ => 0x5A) (fun _ => 0))) (fun _ => 0) = some q ∧ ∀ j < 12, q j = 0x5A :=
  decode12_encode12 (fun _ => 0x5A) (fun _ => 0) (fun _ => 0) [(0, 1), (48, 3)] (by decide)
    ⟨by decide, by decide⟩

/-! ## Rate 3/4 -/

theorem code34_pos : 0 < code34.inputs := by decide

theorem code34_row : RowInj code34 := by
  show ∀ s < 8, ∀ j < 8, ∀ j' < 8, code34.symbol s j = code34.symbol s j' → j = j'
  decide

theorem code34_col : ColInj code34 := by
  show ∀ s < 8, ∀ s' < 8, ∀ j < 8, code34.symbol s j = code34.symbol s' j → s = s'
  decide

theorem code34_points : Points16 code34 := by
  show ∀ s < 8, ∀ j < 8, code34.symbol s j < 16
  decide

/-- The points of a row are all even or all odd. -/
theorem code34_parity : ∀ s < 8, ∀ j < 8, ∀ j' < 8, code34.symbol s j % 2 = code34.symbol s j' % 2 := by decide

/-- A point is even exactly when its bits have odd weight. -/
theorem bitsPoint_parity (b : Nat → Bool) :
    bitsPoint b % 2 = if (b 0 ^^ b 1 ^^ b 2 ^^ b 3) then 0 else 1 := by
  unfold bitsPoint
  cases b 0 <;> cases b 1 <;> cases b 2 <;> cases b 3 <;> rfl

/-- An odd set of the four bit places. -/
theorem odd_mask : ∀ js ∈ [0, 1, 2, 3].sublists, js.length % 2 = 1 →
    (decide (0 ∈ js) ^^ decide (1 ∈ js) ^^ decide (2 ∈ js) ^^ decide (3 ∈ js)) = true := by decide

theorem bitsToTribits_lt (payload : Bytes) (i : Nat) : bitsToTribits payload i < code34.inputs := by
  show bitsToTribits payload i < 8
  unfold bitsToTribits
  split
  · cases readBit payload (i * 3) <;> cases readBit payload (i * 3 + 1) <;>
      cases readBit payload (i * 3 + 2) <;> decide
  · decide

/-- The payload of the inputs of a payload. -/
theorem tribitsToBits_bitsToTribits {p out : Bytes} {bits : Nat → Nat}
    (h : ∀ i < 49, bits i = bitsToTribits p i) : ∀ j < 18, tribitsToBits bits out j = p j := by
  intro j hj
  refine byte_ext fun k hk => ?_
  rw [← readBit_octet (tribitsToBits bits out) j hk, ← readBit_octet p j hk]
  unfold tribitsToBits
  rw [readBit_writeBitRun _ (by decide), if_pos (by omega)]
  dsimp only
  rw [h _ (by omega)]
  unfold bitsToTribits
  rw [if_pos (by omega)]
  have hplace : (8 * j + k) % 3 = 0 ∨ (8 * j + k) % 3 = 1 ∨ (8 * j + k) % 3 = 2 := by omega
  rcases hplace with hplace | hplace | hplace
  · have hpos : 8 * j + k = (8 * j + k) / 3 * 3 := by omega
    rw [hplace, ← hpos]
    cases readBit p (8 * j + k) <;> cases readBit p (8 * j + k + 1) <;>
      cases readBit p (8 * j + k + 2) <;> decide
  · have hpos : 8 * j + k = (8 * j + k) / 3 * 3 + 1 := by omega
    rw [hplace, ← hpos]
    cases readBit p (8 * j + k) <;> cases readBit p ((8 * j + k) / 3 * 3) <;>
      cases readBit p ((8 * j + k) / 3 * 3 + 2) <;> decide
  · have hpos : 8 * j + k = (8 * j + k) / 3 * 3 + 2 := by omega
    rw [hplace, ← hpos]
    cases readBit p (8 * j + k) <;> cases readBit p ((8 * j + k) / 3 * 3) <;>
      cases readBit p ((8 * j + k) / 3 * 3 + 1) <;> decide

/-- **A wrong value never passes.** If all other points are as sent, a value that passes the check is the one
    sent: from the closing 0 backwards, the columns force the states. -/
theorem check_ne_done {c : Code} {b : Nat → Nat} (hpos : 0 < c.inputs) (hrow : RowInj c) (hcol : ColInj c)
    (hb : ∀ i, b i < c.inputs) (hlast : b 48 = 0) {r : Nat → Nat} {e v : Nat} (he : e < 49)
    (hothers : ∀ i < 49, i ≠ e → r i = encodePoints c b i) (hv : v ≠ encodePoints c b e) :
    (checkCode c (setPoint r e v)).1 ≠ 999 := by
  intro hdone
  obtain ⟨hfollow, hclose⟩ := checkCode_sound hdone
  generalize (checkCode c (setPoint r e v)).2 = b' at hfollow hclose
  have hsent : Follows c (encodePoints c b) b 49 := follows_of_eq hb (fun _ _ => rfl)
  have hbefore : ∀ i < e, b' i = b i := by
    have hagree : Follows c (encodePoints c b) b' e := fun i hi => by
      obtain ⟨hbi, hpi⟩ := hfollow i (by omega)
      rw [setPoint_ne _ _ (by omega), hothers i (by omega) (by omega)] at hpi
      exact ⟨hbi, hpi⟩
    exact follows_unique hpos hrow hagree (hsent.mono (by omega))
  have hbe : b' e = b e := by
    have hback := follows_unique_back hcol hfollow hsent (e := e) (n := 48)
      (fun i hei hi => by rw [setPoint_ne _ _ (by omega), hothers i (by omega) (by omega)])
      (hclose.trans hlast.symm) (48 - e) (by omega)
    have hpos : 48 - (48 - e) = e := by omega
    rwa [hpos] at hback
  obtain ⟨-, hpe⟩ := hfollow e he
  rw [setPoint_eq, state_congr hbefore, hbe] at hpe
  exact hv hpe

theorem code34_sent (p : Bytes) (i : Nat) : encodePoints code34 (bitsToTribits p) i < 16 :=
    code34_points _ (state_input_lt (bitsToTribits_lt p) i) _ (bitsToTribits_lt p i)

/-- The inputs of a payload give the payload. -/
theorem decode34_of_points {p g : Bytes} (out : Bytes) (h : ∃ bits, decodePoints code34
    (dibitsToPoints (deinterleave g)) = some bits ∧ ∀ i < 49, bits i = bitsToTribits p i) :
    ∃ q, decode34 g out = some q ∧ ∀ j < 18, q j = p j := by
  obtain ⟨bits, hdec, hbits⟩ := h
  refine ⟨tribitsToBits bits out, ?_, tribitsToBits_bitsToTribits hbits⟩
  unfold decode34
  rw [hdec]
  rfl

/-- A frame without errors. -/
theorem decode34_clean (p f out : Bytes) : ∃ q, decode34 (encode34 p f) out = some q ∧ ∀ j < 18, q j = p j := by
  apply decode34_of_points
  exact decodePoints_clean code34_pos code34_row (bitsToTribits_lt p) (if_neg (by decide))
    fun i hi => received_sent _ f hi (code34_sent p i)

/-- One point off its row is found and repaired: every other value fails. -/
theorem decodePoints_one {b r : Nat → Nat} (hb : ∀ i, b i < code34.inputs) (hlast : b 48 = 0) {e : Nat} (he : e < 49)
    (hothers : ∀ i < 49, i ≠ e → r i = encodePoints code34 b i) (hoff : OffRow code34 r b e) :
    ∃ out, decodePoints code34 r = some out ∧ ∀ i < 49, out i = b i := by
  have hbefore : Follows code34 r b e := follows_of_eq hb fun i hi => hothers i (by omega) (by omega)
  have hcheck : (checkCode code34 r).1 = e := checkCode_fail code34_pos code34_row he hbefore hoff
  have hright : ∀ i < 49, setPoint r e (encodePoints code34 b e) i = encodePoints code34 b i := by
    intro i hi
    by_cases hie : i = e
    · rw [hie]
      exact setPoint_eq _ _ _
    · rw [setPoint_ne _ _ hie, hothers i hi hie]
  have h16 : encodePoints code34 b e < 16 := code34_points _ (state_input_lt hb e) _ (hb e)
  obtain ⟨hdone, hbits⟩ := checkCode_valid code34_pos code34_row (follows_of_eq hb hright) hlast
  have hfound := tryValues_found (List.mem_range.mpr h16) hdone (fun u _ hu =>
    check_ne_done code34_pos code34_row code34_col hb hlast he hothers hu) (0, 0)
  refine ⟨_, ?_, hbits⟩
  unfold decodePoints
  dsimp only
  rw [hcheck, if_neg (by omega), fixCode, hfound]

/-- A symbol with an odd number of bits inverted is off its row, by the parity of its point. -/
theorem offRow_of_odd (p f : Bytes) {e : Nat} (he : e < 49) {js : List Nat} (hjs : js ∈ [0, 1, 2, 3].sublists)
    (hlt : ∀ k ∈ js, k < 4) (hnd : (js.map (symbolBit e)).Nodup) (hodd : js.length % 2 = 1) :
    OffRow code34 (dibitsToPoints (deinterleave (flipBits (js.map (symbolBit e)) (encode34 p f))))
      (bitsToTribits p) e := by
  intro j hj heq
  have hb := bitsToTribits_lt p
  have hmem : ∀ k < 4, (symbolBit e k ∈ js.map (symbolBit e) ↔ k ∈ js) := by
    intro k hk
    refine ⟨fun h => ?_, fun h => List.mem_map_of_mem h⟩
    obtain ⟨k', hk', heq⟩ := List.mem_map.mp h
    exact (symbolBit_inj he (hlt k' hk') he hk heq).2 ▸ hk'
  have hsent : bitsPoint (pointBits (encodePoints code34 (bitsToTribits p) e)) % 2 =
      code34.symbol (state (bitsToTribits p) e) j % 2 := by
    rw [bitsPoint_pointBits _ (code34_sent p e)]
    exact code34_parity _ (state_input_lt hb e) _ (hb e) j hj
  have hbit : ∀ k < 4, readBit (flipBits (js.map (symbolBit e)) (encode34 p f)) (symbolBit e k) =
      (pointBits (encodePoints code34 (bitsToTribits p) e) k ^^ decide (k ∈ js)) := by
    intro k hk
    by_cases hkj : k ∈ js
    · rw [readBit_flipBits_of_mem hnd ((hmem k hk).mpr hkj), decide_eq_true hkj, Bool.xor_true]
      exact congrArg _ (sent_bit _ f he hk)
    · rw [readBit_flipBits_of_notMem (fun h => hkj ((hmem k hk).mp h)), decide_eq_false hkj, Bool.xor_false]
      exact sent_bit _ f he hk
  rw [received_point _ he] at heq
  rw [← heq, bitsPoint_parity, bitsPoint_parity, hbit 0 (by decide), hbit 1 (by decide), hbit 2 (by decide),
    hbit 3 (by decide)] at hsent
  have hmask := odd_mask js hjs hodd
  revert hsent hmask
  generalize pointBits (encodePoints code34 (bitsToTribits p) e) = w
  generalize decide (0 ∈ js) = m0, decide (1 ∈ js) = m1, decide (2 ∈ js) = m2, decide (3 ∈ js) = m3
  cases w 0 <;> cases w 1 <;> cases w 2 <;> cases w 3 <;> cases m0 <;> cases m1 <;> cases m2 <;>
    cases m3 <;> decide

/-- **Rate 3/4.** For every payload and every frame decoding succeeds and gives the payload, and it still does
    when an odd number of the four bits of any one symbol is inverted. -/
theorem decode34_encode34 (p f out : Bytes) :
    (∃ q, decode34 (encode34 p f) out = some q ∧ ∀ j < 18, q j = p j) ∧
      ∀ e < 49, ∀ js ∈ [0, 1, 2, 3].sublists, js.length % 2 = 1 →
        ∃ q, decode34 (flipBits (js.map (symbolBit e)) (encode34 p f)) out = some q ∧ ∀ j < 18, q j = p j := by
  refine ⟨decode34_clean p f out, fun e he js hjs hodd => ?_⟩
  have hsub : js.Sublist [0, 1, 2, 3] := List.mem_sublists.mp hjs
  have hlt : ∀ k ∈ js, k < 4 := by
    intro k hk
    have hk4 : k ∈ [0, 1, 2, 3] := hsub.subset hk
    simp only [List.mem_cons, List.not_mem_nil, or_false] at hk4
    omega
  have hnd : (js.map (symbolBit e)).Nodup := by
    refine List.Nodup.map_on (fun x hx y hy h => (symbolBit_inj he (hlt x hx) he (hlt y hy) h).2) ?_
    exact hsub.nodup (by decide)
  have hothers : ∀ i < 49, i ≠ e → dibitsToPoints (deinterleave
      (flipBits (js.map (symbolBit e)) (encode34 p f))) i = encodePoints code34 (bitsToTribits p) i := by
    intro i hi hne
    refine received_clean _ f hi (code34_sent p i) fun j hj h => ?_
    obtain ⟨k', hk', heq⟩ := List.mem_map.mp h
    exact hne (symbolBit_inj he (hlt k' hk') hi hj heq).1.symm
  apply decode34_of_points
  exact decodePoints_one (bitsToTribits_lt p) (if_neg (by decide)) he hothers (offRow_of_odd p f he hjs hlt hnd hodd)

/-- All but one bit of the last symbol inverted. -/
theorem decode34_encode34_three :
    ∃ q, decode34 (flipBits ([0, 1, 2].map (symbolBit 48)) (encode34 (fun _ => 0x5A) (fun _ => 0)))
    (fun _ => 0) =
        some q ∧ ∀ j < 18, q j = 0x5A :=
  (decode34_encode34 (fun _ => 0x5A) (fun _ => 0) (fun _ => 0)).2 48 (by decide) [0, 1, 2] (by decide)
  (by decide)

end Trellis

end DvmHost

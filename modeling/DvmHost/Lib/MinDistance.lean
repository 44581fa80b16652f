import DvmHost.Lib.Gf2Division
import DvmHost.Lib.ParityCode

/-!
# `Lib.MinDistance` — words of a binary linear code are heavy

Words are packed into numbers and a code is spanned by rows (`combine`). A stretch of `k` bits is an
**information set** when every word is the sum of the rows that its own bits in the stretch pick. A word that is
light has few bits in one of several disjoint stretches, so it is enough to try, for each of them, the sums of a
few rows (`sumsAll`): `lt_weight_of_sets`. Additive maps of bit vectors have such rows (`eq_combine`).
-/

namespace Lib.MinDistance

open Gf2Division ParityCode

/-- The sum of the rows that `d` picks. -/
def combine : List Nat → (Nat → Bool) → Nat
  | [], _ => 0
  | r :: rows, d => (if d 0 then r else 0) ^^^ combine rows fun i => d (i + 1)

/-- The bits of a word from `s` on. -/
def bitsFrom (w s : Nat) : Nat → Bool := fun i => w.testBit (s + i)

/-- The rows `G` give back each row of the code from its bits from `s` on. -/
def Systematic (rows G : List Nat) (s : Nat) : Prop := ∀ r ∈ rows, combine G (bitsFrom r s) = r

instance (rows G : List Nat) (s : Nat) : Decidable (Systematic rows G s) :=
  inferInstanceAs (Decidable (∀ r ∈ rows, _))

/-- `x` without its lowest bit, `t` times. -/
def dropLowest : Nat → Nat → Nat
  | 0, x => x
  | t + 1, x => dropLowest t (Nat.land x (Nat.sub x 1))

/-- A test that only zero and words of more than `t` bits pass. -/
def heavy (t x : Nat) : Bool := Nat.beq x 0 || !Nat.beq (dropLowest t x) 0

/-- `test` on the sums of `x` and at most `t` of the rows. -/
def sumsAll (test : Nat → Bool) : List Nat → Nat → Nat → Bool
  | [], _, x => test x
  | _ :: _, 0, x => test x
  | r :: rows, t + 1, x => sumsAll test rows (t + 1) x && sumsAll test rows t (Nat.xor x r)

/-! ## Sums of rows -/

theorem combine_xor (rows : List Nat) (d e : Nat → Bool) :
    combine rows (fun i => d i ^^ e i) = combine rows d ^^^ combine rows e := by
  induction rows generalizing d e with
  | nil => exact (Nat.xor_self 0).symm
  | cons r rows ih =>
      have hregroup : ∀ a b c e : Nat, a ^^^ b ^^^ (c ^^^ e) = a ^^^ c ^^^ (b ^^^ e) := fun a b c e => by
        rw [Nat.xor_assoc, Nat.xor_assoc, ← Nat.xor_assoc b c e, Nat.xor_comm b c, Nat.xor_assoc c b e]
      rw [combine, combine, combine, ih, hregroup]
      congr 1
      cases d 0 <;> cases e 0 <;> simp

theorem combine_false (rows : List Nat) : combine rows (fun _ => false) = 0 := by
  induction rows with
  | nil => rfl
  | cons r rows ih => rw [combine, ih, if_neg Bool.false_ne_true, Nat.xor_self]

theorem combine_congr {rows : List Nat} {d e : Nat → Bool} (h : ∀ i < rows.length, d i = e i) :
    combine rows d = combine rows e := by
  induction rows generalizing d e with
  | nil => rfl
  | cons r rows ih =>
      rw [combine, combine, h 0 (Nat.succ_pos _), ih fun i hi => h (i + 1) (Nat.succ_lt_succ hi)]

/-- **Rows that give back the rows of a code give back its words.** -/
theorem combine_systematic {rows G : List Nat} {s : Nat} (h : Systematic rows G s) (d : Nat → Bool) :
    combine G (bitsFrom (combine rows d) s) = combine rows d := by
  have hxor : ∀ a b, bitsFrom (a ^^^ b) s = fun i => bitsFrom a s i ^^ bitsFrom b s i := by
    intro a b
    funext i
    exact Nat.testBit_xor a b (s + i)
  have hzero : bitsFrom 0 s = fun _ => false := by
    funext i
    exact Nat.zero_testBit _
  induction rows generalizing d with
  | nil => rw [combine, hzero, combine_false]
  | cons r rows ih =>
      rw [combine, hxor, combine_xor, ih fun r' h' => h r' (List.mem_cons_of_mem r h')]
      congr 1
      split
      · exact h r List.mem_cons_self
      · rw [hzero, combine_false]

/-- **Additive maps have rows**: the words of the single bits. -/
theorem eq_combine {k : Nat} {L : (Nat → Bool) → Nat}
    (hadd : ∀ a b : Nat → Bool, L (fun i => a i ^^ b i) = L a ^^^ L b)
    (hcongr : ∀ a b : Nat → Bool, (∀ i < k, a i = b i) → L a = L b) (f : Nat → Bool) :
    L f = combine ((List.range k).map fun i => L (unit i)) f := by
  have hzero : L (fun _ => false) = 0 := by
    have h := hadd (fun _ => false) (fun _ => false)
    rwa [Nat.xor_self] at h
  induction k generalizing L f with
  | zero => exact (hcongr f (fun _ => false) fun i hi => absurd hi (Nat.not_lt_zero i)).trans hzero
  | succ k ih =>
      -- the map on the bits behind the first
      let shift : (Nat → Bool) → Nat → Bool := fun g i => if i = 0 then false else g (i - 1)
      have hshift : ∀ i, shift (unit i) = unit (i + 1) := by
        intro i
        funext j
        cases j with
        | zero => rfl
        | succ j => simp [shift, unit]
      have hrest := ih (L := fun g => L (shift g))
        (fun a b => by
          rw [← hadd]
          congr 1
          funext j
          cases j <;> rfl)
        (fun a b h => by
          apply hcongr
          intro j hj
          cases j with
          | zero => rfl
          | succ j => exact h j (Nat.succ_lt_succ_iff.mp hj))
        (fun i => f (i + 1))
        (by
          rw [← hzero]
          congr 1
          funext j
          cases j <;> rfl)
      have hsplit : L f = L (fun i => f 0 && unit 0 i) ^^^ L (shift fun i => f (i + 1)) := by
        rw [← hadd]
        congr 1
        funext j
        cases j <;> simp [shift, unit]
      have hfirst : L (fun i => f 0 && unit 0 i) = if f 0 then L (unit 0) else 0 := by
        cases f 0
        · exact hzero
        · rfl
      rw [hsplit, hrest, hfirst, List.range_succ_eq_map, List.map_cons, combine, List.map_map]
      congr 2
      exact List.map_congr_left fun i _ => congrArg L (hshift i)

/-! ## Weights -/

theorem weight_add (a b p : Nat) : weight (a + b) p = weight a p + weight b (p >>> a) := by
  induction a generalizing p with
  | zero => rw [Nat.zero_add, weight, Nat.zero_add, Nat.shiftRight_zero]
  | succ a ih =>
      have hlen : a + 1 + b = a + b + 1 := by omega
      have hshift : (p / 2) >>> a = p >>> (a + 1) := by
        rw [Nat.add_comm a 1, Nat.shiftRight_add, Nat.shiftRight_one]
      rw [hlen, weight, weight, ih, hshift, Nat.add_assoc]

/-- Dropping the lowest bit loses one. -/
theorem weight_land_pred {n x : Nat} (hx : x < 2 ^ n) (h0 : 0 < x) :
    weight n (x &&& (x - 1)) + 1 = weight n x := by
  induction n generalizing x with
  | zero => omega
  | succ n ih =>
      have hpow : 2 ^ (n + 1) = 2 * 2 ^ n := by rw [Nat.pow_succ, Nat.mul_comm]
      have hhalf : (x &&& (x - 1)) / 2 = x / 2 &&& (x - 1) / 2 := Nat.and_div_two
      have hlow : (x &&& (x - 1)) % 2 = 0 := by
        have hand : (x &&& (x - 1)) % 2 = x % 2 &&& (x - 1) % 2 := Nat.and_mod_two_pow (n := 1)
        rw [hand]
        rcases Nat.mod_two_eq_zero_or_one x with hx0 | hx1
        · rw [hx0, Nat.zero_and]
        · have heven : (x - 1) % 2 = 0 := by omega
          rw [heven, Nat.and_zero]
      rw [weight, weight, hlow, hhalf]
      rcases Nat.mod_two_eq_zero_or_one x with hx0 | hx1
      · have hpred : (x - 1) / 2 = x / 2 - 1 := by omega
        rw [hpred, hx0, Nat.zero_add, Nat.zero_add]
        exact ih (by omega) (by omega)
      · have hpred : (x - 1) / 2 = x / 2 := by omega
        rw [hpred, Nat.and_self, hx1]
        omega

/-- A word of no weight has no bits. -/
theorem testBit_of_weight_eq_zero {n x i : Nat} (h : weight n x = 0) (hi : i < n) : x.testBit i = false := by
  induction n generalizing x i with
  | zero => exact absurd hi (Nat.not_lt_zero i)
  | succ n ih =>
      rw [weight] at h
      cases i with
      | zero =>
          rw [Nat.testBit_zero, decide_eq_false]
          omega
      | succ i =>
          rw [Nat.testBit_succ]
          exact ih (by omega) (Nat.succ_lt_succ_iff.mp hi)

theorem lt_weight_of_dropLowest {n t x : Nat} (hx : x < 2 ^ n) (h : dropLowest t x ≠ 0) : t < weight n x := by
  induction t generalizing x with
  | zero =>
      have hpos : 0 < x := Nat.pos_of_ne_zero h
      have := weight_land_pred hx hpos
      omega
  | succ t ih =>
      rcases Nat.eq_zero_or_pos x with rfl | hpos
      · exfalso
        have hzero : ∀ t, dropLowest t 0 = 0 := by
          intro t
          induction t with
          | zero => rfl
          | succ t ih => exact ih
        exact h (hzero (t + 1))
      · have hlt : x &&& (x - 1) < 2 ^ n := Nat.lt_of_le_of_lt Nat.and_le_left hx
        have hrest : t < weight n (x &&& (x - 1)) := ih hlt h
        have := weight_land_pred hx hpos
        omega

theorem lt_weight_of_heavy {n t x : Nat} (hx : x < 2 ^ n) (h : heavy t x = true) (h0 : x ≠ 0) :
    t < weight n x := by
  apply lt_weight_of_dropLowest hx
  intro hdrop
  unfold heavy at h
  rw [hdrop] at h
  rcases Bool.or_eq_true_iff.mp h with hz | hnz
  · exact h0 (Nat.eq_of_beq_eq_true hz)
  · exact absurd hnz (by decide)

/-! ## Words with few bits in a stretch -/

/-- The sums tried are those of the selections of at most `t` rows. -/
theorem sumsAll_combine {test : Nat → Bool} {rows : List Nat} {t x w s : Nat}
    (h : sumsAll test rows t x = true) (hw : weight rows.length (w >>> s) ≤ t) :
    test (x ^^^ combine rows (bitsFrom w s)) = true := by
  induction rows generalizing t x s with
  | nil =>
      rw [combine, Nat.xor_zero]
      cases t <;> exact h
  | cons r rows ih =>
      have htail : (fun i => bitsFrom w s (i + 1)) = bitsFrom w (s + 1) := by
        funext i
        unfold bitsFrom
        congr 1
        omega
      have hnext : (w >>> s) / 2 = w >>> (s + 1) := by rw [Nat.shiftRight_succ]
      have hfirst : bitsFrom w s 0 = decide ((w >>> s) % 2 = 1) := by
        unfold bitsFrom
        rw [Nat.add_zero, Nat.testBit_eq_decide_div_mod_eq, Nat.shiftRight_eq_div_pow]
      rw [List.length_cons, weight, hnext] at hw
      rw [combine, htail, hfirst]
      cases t with
      | zero =>
          -- nothing is picked any more
          have hlow : (w >>> s) % 2 = 0 := by omega
          have hnone : combine rows (bitsFrom w (s + 1)) = 0 := by
            rw [← combine_false rows]
            refine combine_congr fun i hi => ?_
            have hzero : weight rows.length (w >>> (s + 1)) = 0 := by omega
            have hbit := testBit_of_weight_eq_zero hzero hi
            rwa [Nat.testBit_shiftRight] at hbit
          rw [hnone, hlow, decide_eq_false (by decide), if_neg Bool.false_ne_true, Nat.xor_self, Nat.xor_zero]
          exact h
      | succ t =>
          obtain ⟨hskip, hpick⟩ := Bool.and_eq_true_iff.mp h
          rcases Nat.mod_two_eq_zero_or_one (w >>> s) with hlow | hlow
          · rw [hlow, decide_eq_false (by decide), if_neg Bool.false_ne_true, Nat.zero_xor]
            exact ih hskip (by omega)
          · rw [hlow, decide_eq_true rfl, if_pos rfl, ← Nat.xor_assoc]
            exact ih hpick (by omega)

/-- A word with more than `t` bits in each of `m` stretches has more than `t * m`. -/
theorem mul_le_weight {k t m w : Nat} (h : ∀ j < m, t < weight k (w >>> (k * j))) :
    (t + 1) * m ≤ weight (k * m) w := by
  induction m with
  | zero => exact Nat.zero_le _
  | succ m ih =>
      have hlast := h m (Nat.lt_succ_self m)
      have hrest := ih fun j hj => h j (Nat.lt_succ_of_lt hj)
      rw [Nat.mul_succ, Nat.mul_succ, weight_add]
      omega

/-- **Words of a code are heavy**, when its `m` disjoint stretches of `k` bits are information sets and the sums
    of at most `t` rows of each are heavy. -/
theorem lt_weight_of_sets {rows : List Nat} {G : Nat → List Nat} {n k m t bound : Nat}
    (hlen : ∀ j < m, (G j).length = k) (hsys : ∀ j < m, Systematic rows (G j) (k * j)) (hn : k * m ≤ n)
    (hbound : bound < (t + 1) * m) (hsums : ∀ j < m, sumsAll (heavy bound) (G j) t 0 = true)
    {d : Nat → Bool} (hlt : combine rows d < 2 ^ n) (h0 : combine rows d ≠ 0) :
    bound < weight n (combine rows d) := by
  by_contra hlight
  obtain ⟨j, hj, hw⟩ : ∃ j < m, weight k (combine rows d >>> (k * j)) ≤ t := by
    by_contra hnone
    have hall : ∀ j < m, t < weight k (combine rows d >>> (k * j)) := by
      intro j hj
      by_contra hle
      exact hnone ⟨j, hj, Nat.not_lt.mp hle⟩
    have hmany := mul_le_weight hall
    have hsplit := weight_add (k * m) (n - k * m) (combine rows d)
    rw [Nat.add_sub_cancel' hn] at hsplit
    omega
  have htest := sumsAll_combine (s := k * j) (hsums j hj) (by rw [hlen j hj]; exact hw)
  rw [combine_systematic (hsys j hj), Nat.zero_xor] at htest
  exact hlight (lt_weight_of_heavy hlt htest h0)

/-! ## Tables of error patterns -/

/-- The words of one bit. -/
def units (n : Nat) : List Nat := (List.range n).map (2 ^ ·)

theorem combine_double (rows : List Nat) (d : Nat → Bool) : combine (rows.map (2 * ·)) d = 2 * combine rows d := by
  induction rows generalizing d with
  | nil => rfl
  | cons r rows ih =>
      rw [List.map_cons, combine, combine, ih, two_mul_xor]
      split <;> rfl

theorem units_succ (n : Nat) : units (n + 1) = 1 :: (units n).map (2 * ·) := by
  unfold units
  rw [List.range_succ_eq_map, List.map_cons, List.map_map, List.map_map]
  refine congrArg _ (List.map_congr_left fun i _ => ?_)
  exact Nat.pow_succ'

/-- Every word is the sum of its bits. -/
theorem combine_units {n e : Nat} (he : e < 2 ^ n) : combine (units n) (bitsFrom e 0) = e := by
  induction n generalizing e with
  | zero =>
      have h0 : e = 0 := by omega
      rw [h0]
      rfl
  | succ n ih =>
      have hhalf : e / 2 < 2 ^ n := by
        rw [Nat.pow_succ] at he
        omega
      have htail : (fun i => bitsFrom e 0 (i + 1)) = bitsFrom (e / 2) 0 := by
        funext i
        unfold bitsFrom
        rw [Nat.zero_add, Nat.zero_add, Nat.testBit_succ]
      have hlow : (if bitsFrom e 0 0 then 1 else 0) = e % 2 := by
        unfold bitsFrom
        rw [Nat.zero_add, Nat.testBit_zero]
        rcases Nat.mod_two_eq_zero_or_one e with h | h <;> simp [h]
      rw [units_succ, combine, combine_double, htail, ih hhalf, hlow, Nat.xor_comm]
      exact two_mul_half_xor e

/-! ## Tables in rows -/

/-- The first `k` rows of `m` entries each of a table. -/
def tableRows {α : Type} (m : Nat) : Nat → List α → List (List α)
  | 0, _ => []
  | k + 1, table => table.take m :: tableRows m k (table.drop m)

/-- An entry is found through its row, which takes fewer steps. -/
theorem getD_tableRows {α : Type} {m k i : Nat} (hi : i < m * k) (table : List α) (d : α) :
    ((tableRows m k table).getD (i / m) []).getD (i % m) d = table.getD i d := by
  have hm : 0 < m := Nat.pos_of_mul_pos_right (Nat.lt_of_le_of_lt (Nat.zero_le i) hi)
  induction k generalizing i table with
  | zero => exact absurd hi (Nat.not_lt_zero i)
  | succ k ih =>
      rw [tableRows]
      by_cases hfirst : i < m
      · rw [Nat.div_eq_of_lt hfirst, Nat.mod_eq_of_lt hfirst, List.getD_cons_zero, List.getD_eq_getElem?_getD,
          List.getD_eq_getElem?_getD, List.getElem?_take_of_lt hfirst]
      · have hle : m ≤ i := Nat.not_lt.mp hfirst
        have hrest : i - m < m * k := by
          rw [Nat.mul_succ] at hi
          omega
        rw [Nat.div_eq_sub_div hm hle, Nat.mod_eq_sub_mod hle, List.getD_cons_succ, ih hrest,
          List.getD_eq_getElem?_getD, List.getD_eq_getElem?_getD, List.getElem?_drop, Nat.add_sub_cancel' hle]

/-- **Light patterns are found at their remainders**, when the table, in rows, was tried on all of them. -/
theorem getD_rem_of_sumsAll {g d n t m k : Nat} (hg : g < 2 ^ (d + 1)) (htop : g.testBit d = true)
    (hmk : 2 ^ d = m * k) {table : List Nat}
    (h : sumsAll (fun e => Nat.beq (((tableRows m k table).getD (Nat.div (remArith g d n e) m) []).getD
      (Nat.mod (remArith g d n e) m) 0) e) (units n) t 0 = true) {e : Nat}
    (he : e < 2 ^ n) (hw : weight n e ≤ t) : table.getD (rem g d n e) 0 = e := by
  have hlen : (units n).length = n := by
    unfold units
    rw [List.length_map, List.length_range]
  have htest := sumsAll_combine (w := e) (s := 0) h (by rw [hlen, Nat.shiftRight_zero]; exact hw)
  rw [combine_units he, Nat.zero_xor, remArith_eq hg htop] at htest
  have hrow := Nat.eq_of_beq_eq_true htest
  exact (getD_tableRows (hmk ▸ rem_lt hg htop n e) table 0).symm.trans hrow

end Lib.MinDistance

import Mathlib.Data.Nat.Bitwise

/-!
# `Lib.Gf2Division` — remainders of binary polynomials

A number stands for the binary polynomial of its bits. `rem g d n p` is the remainder of the low `n` bits of
`p` by a polynomial `g` of degree `d`, computed from the top bit down; it is additive (`rem_xor`), forgets
multiples of `g` (`rem_shift`) and keeps what is already reduced (`rem_of_lt`). `divLoop` is the division loop
of table decoders, which walks a marker bit down and subtracts shifted copies of `g`: with enough turns it ends
with the remainder (`divLoop_eq`).
-/

namespace Lib.Gf2Division

/-- One reduction: a polynomial of degree `d` loses its top bit. -/
def reduce (g d x : Nat) : Nat := if x.testBit d then x ^^^ g else x

/-- The remainder of the low `n` bits of `p`. -/
def rem (g d : Nat) : Nat → Nat → Nat
  | 0, _ => 0
  | n + 1, p => reduce g d (2 * rem g d n (p / 2) ^^^ p % 2)

/-! ## The remainder is additive -/

theorem reduce_xor (g d x y : Nat) : reduce g d (x ^^^ y) = reduce g d x ^^^ reduce g d y := by
  have hcomm : ∀ a b c : Nat, a ^^^ b ^^^ c = a ^^^ c ^^^ b := fun a b c => by
    rw [Nat.xor_assoc, Nat.xor_comm b c, ← Nat.xor_assoc]
  unfold reduce
  rw [Nat.testBit_xor]
  cases x.testBit d <;> cases y.testBit d
  · rfl
  · exact Nat.xor_assoc x y g
  · exact hcomm x y g
  · change x ^^^ y = x ^^^ g ^^^ (y ^^^ g)
    rw [hcomm x g, Nat.xor_assoc, Nat.xor_assoc, Nat.xor_self, Nat.xor_zero]

theorem two_mul_xor (a b : Nat) : 2 * (a ^^^ b) = 2 * a ^^^ 2 * b := by
  apply Nat.eq_of_testBit_eq
  intro i
  rw [Nat.testBit_xor]
  cases i with
  | zero => simp
  | succ i => simp [Nat.testBit_succ]

theorem rem_xor (g d n p q : Nat) : rem g d n (p ^^^ q) = rem g d n p ^^^ rem g d n q := by
  induction n generalizing p q with
  | zero => exact (Nat.xor_self 0).symm
  | succ n ih =>
      have hlow : (p ^^^ q) % 2 = p % 2 ^^^ q % 2 := Nat.xor_mod_two_pow (n := 1)
      have hregroup : ∀ a b c e : Nat, a ^^^ b ^^^ (c ^^^ e) = a ^^^ c ^^^ (b ^^^ e) := fun a b c e => by
        rw [Nat.xor_assoc, Nat.xor_assoc, ← Nat.xor_assoc b c e, Nat.xor_comm b c, Nat.xor_assoc c b e]
      unfold rem
      rw [Nat.xor_div_two, ih, two_mul_xor, hlow, hregroup, reduce_xor]

/-! ## Reduced numbers and multiples -/

theorem two_mul_half_xor (p : Nat) : 2 * (p / 2) ^^^ p % 2 = p := by
  apply Nat.eq_of_testBit_eq
  intro i
  rw [Nat.testBit_xor]
  cases i with
  | zero => simp
  | succ i =>
      have hlow : (p % 2).testBit (i + 1) = false := by
        apply Nat.testBit_lt_two_pow
        have hpos : 1 ≤ 2 ^ i := Nat.one_le_two_pow
        have hpow : 2 ^ (i + 1) = 2 * 2 ^ i := by rw [Nat.pow_succ, Nat.mul_comm]
        omega
      rw [hlow, Bool.xor_false, Nat.testBit_succ, Nat.testBit_succ]
      congr 1
      omega

/-- A reduced number is its own remainder. -/
theorem rem_of_lt (g : Nat) {d n p : Nat} (hd : p < 2 ^ d) (hn : p < 2 ^ n) : rem g d n p = p := by
  induction n generalizing p with
  | zero =>
      have hp : p = 0 := by omega
      rw [hp]
      rfl
  | succ n ih =>
      have hpow : 2 ^ (n + 1) = 2 * 2 ^ n := by rw [Nat.pow_succ, Nat.mul_comm]
      have hhalf : p / 2 ≤ p := Nat.div_le_self p 2
      unfold rem
      rw [ih (by omega) (by omega), two_mul_half_xor]
      unfold reduce
      rw [if_neg]
      rw [Nat.testBit_lt_two_pow hd]
      exact Bool.false_ne_true

/-- The polynomial itself has no remainder. -/
theorem rem_self {g d n : Nat} (hg : g < 2 ^ (d + 1)) (htop : g.testBit d = true) (hn : d < n) :
    rem g d n g = 0 := by
  cases n with
  | zero => exact absurd hn (Nat.not_lt_zero d)
  | succ n =>
      have hpow : 2 ^ (d + 1) = 2 * 2 ^ d := by rw [Nat.pow_succ, Nat.mul_comm]
      have hdn : 2 ^ d ≤ 2 ^ n := Nat.pow_le_pow_right (by decide) (by omega)
      unfold rem
      rw [rem_of_lt g (by omega) (by omega), two_mul_half_xor]
      unfold reduce
      rw [if_pos htop, Nat.xor_self]

/-- Shifted copies of the polynomial have no remainder. -/
theorem rem_shift {g d n i : Nat} (hg : g < 2 ^ (d + 1)) (htop : g.testBit d = true) (hn : d + i < n) :
    rem g d n (2 ^ i * g) = 0 := by
  induction i generalizing n with
  | zero =>
      rw [Nat.pow_zero, Nat.one_mul]
      exact rem_self hg htop (by omega)
  | succ i ih =>
      cases n with
      | zero => exact absurd hn (Nat.not_lt_zero _)
      | succ n =>
          have hdouble : 2 ^ (i + 1) * g = 2 * (2 ^ i * g) := by
            rw [Nat.pow_succ, Nat.mul_assoc, Nat.mul_left_comm]
          unfold rem
          rw [hdouble, Nat.mul_div_cancel_left _ (by decide), ih (by omega), Nat.mul_mod_right]
          unfold reduce
          simp

/-- A number whose top bit is clear is smaller. -/
theorem lt_of_testBit_eq_false {k p : Nat} (hp : p < 2 ^ (k + 1)) (h : p.testBit k = false) : p < 2 ^ k := by
  apply Nat.lt_pow_two_of_testBit
  intro i hi
  rcases Nat.eq_or_lt_of_le hi with rfl | hlt
  · exact h
  · exact Nat.testBit_lt_two_pow (Nat.lt_of_lt_of_le hp (Nat.pow_le_pow_right (by decide) hlt))

/-- Remainders are reduced. -/
theorem rem_lt {g d : Nat} (hg : g < 2 ^ (d + 1)) (htop : g.testBit d = true) (n p : Nat) :
    rem g d n p < 2 ^ d := by
  induction n generalizing p with
  | zero => exact Nat.two_pow_pos d
  | succ n ih =>
      have hpow : 2 ^ (d + 1) = 2 * 2 ^ d := by rw [Nat.pow_succ, Nat.mul_comm]
      have hpos : 1 ≤ 2 ^ d := Nat.one_le_two_pow
      have hhalf := ih (p / 2)
      have hx : 2 * rem g d n (p / 2) ^^^ p % 2 < 2 ^ (d + 1) := Nat.xor_lt_two_pow (by omega) (by omega)
      unfold rem reduce
      split
      · next hbit =>
          apply lt_of_testBit_eq_false (Nat.xor_lt_two_pow hx hg)
          rw [Nat.testBit_xor, hbit, htop]
          rfl
      · next hbit => exact lt_of_testBit_eq_false hx (by simpa using hbit)

/-- The remainder in the functions that evaluation is fast on. -/
def remArith (g d : Nat) : Nat → Nat → Nat
  | 0, _ => 0
  | n + 1, p =>
      let x := Nat.xor (Nat.mul 2 (remArith g d n (Nat.div p 2))) (Nat.mod p 2)
      Nat.xor x (Nat.mul (Nat.shiftRight x d) g)

theorem remArith_eq {g d : Nat} (hg : g < 2 ^ (d + 1)) (htop : g.testBit d = true) (n p : Nat) :
    remArith g d n p = rem g d n p := by
  induction n generalizing p with
  | zero => rfl
  | succ n ih =>
      have hpow : 2 ^ (d + 1) = 2 * 2 ^ d := by rw [Nat.pow_succ, Nat.mul_comm]
      have hpos : 1 ≤ 2 ^ d := Nat.one_le_two_pow
      have hhalf := rem_lt hg htop n (p / 2)
      have hx : 2 * rem g d n (p / 2) ^^^ p % 2 < 2 ^ (d + 1) := Nat.xor_lt_two_pow (by omega) (by omega)
      have hsub : remArith g d n (Nat.div p 2) = rem g d n (p / 2) := ih (p / 2)
      unfold remArith rem reduce
      rw [hsub]
      change (2 * rem g d n (p / 2) ^^^ p % 2) ^^^ ((2 * rem g d n (p / 2) ^^^ p % 2) >>> d) * g = _
      generalize 2 * rem g d n (p / 2) ^^^ p % 2 = x at hx ⊢
      have hquot : x >>> d = if x.testBit d then 1 else 0 := by
        have hlt : x / 2 ^ d < 2 := Nat.div_lt_of_lt_mul (by omega)
        rw [Nat.testBit_eq_decide_div_mod_eq, Nat.shiftRight_eq_div_pow, Nat.mod_eq_of_lt hlt]
        simp only [decide_eq_true_eq]
        generalize x / 2 ^ d = y at hlt ⊢
        split <;> omega
      rw [hquot]
      split
      · rw [Nat.one_mul]
      · rw [Nat.zero_mul, Nat.xor_zero]

/-! ## Weights -/

/-- The number of bits set among the low `n`. -/
def weight : Nat → Nat → Nat
  | 0, _ => 0
  | n + 1, p => p % 2 + weight n (p / 2)

theorem weight_xor_le (n p q : Nat) : weight n (p ^^^ q) ≤ weight n p + weight n q := by
  induction n generalizing p q with
  | zero => exact Nat.le_refl _
  | succ n ih =>
      have hlow : (p ^^^ q) % 2 = (p + q) % 2 := Nat.xor_mod_two_eq
      have hrest := ih (p / 2) (q / 2)
      unfold weight
      rw [Nat.xor_div_two, hlow]
      omega

/-- Bits that cancel do so in pairs. -/
theorem weight_xor_mod_two (n p q : Nat) : weight n (p ^^^ q) % 2 = (weight n p + weight n q) % 2 := by
  induction n generalizing p q with
  | zero => rfl
  | succ n ih =>
      have hlow : (p ^^^ q) % 2 = (p + q) % 2 := Nat.xor_mod_two_eq
      have hrest := ih (p / 2) (q / 2)
      unfold weight
      rw [Nat.xor_div_two, hlow]
      omega

theorem and_mod_two (p q : Nat) : (p &&& q) % 2 = p % 2 * (q % 2) := by
  have hpow : (p &&& q) % 2 = p % 2 &&& q % 2 := Nat.and_mod_two_pow (n := 1)
  rw [hpow]
  rcases Nat.mod_two_eq_zero_or_one p with hp | hp <;> rcases Nat.mod_two_eq_zero_or_one q with hq | hq <;>
    rw [hp, hq] <;> rfl

/-- What two words have in common cancels. -/
theorem weight_xor_add (n p q : Nat) : weight n (p ^^^ q) + 2 * weight n (p &&& q) = weight n p + weight n q := by
  induction n generalizing p q with
  | zero => rfl
  | succ n ih =>
      have hxor : (p ^^^ q) % 2 = (p + q) % 2 := Nat.xor_mod_two_eq
      have hand := and_mod_two p q
      have hrest := ih (p / 2) (q / 2)
      rw [← Nat.xor_div_two, ← Nat.and_div_two] at hrest
      unfold weight
      rw [hxor, hand]
      rcases Nat.mod_two_eq_zero_or_one p with hp | hp <;> rcases Nat.mod_two_eq_zero_or_one q with hq | hq <;>
        rw [hp, hq] <;> omega

theorem weight_and_le (n p q : Nat) : weight n (p &&& q) ≤ weight n p := by
  induction n generalizing p q with
  | zero => exact Nat.le_refl _
  | succ n ih =>
      have hlow : (p &&& q) % 2 ≤ p % 2 := by
        rw [and_mod_two]
        exact (Nat.mul_le_mul_left _ (Nat.le_of_lt_succ (Nat.mod_lt q (by decide)))).trans_eq (Nat.mul_one _)
      have hrest := ih (p / 2) (q / 2)
      rw [← Nat.and_div_two] at hrest
      exact Nat.add_le_add hlow hrest

theorem weight_zero (n : Nat) : weight n 0 = 0 := by
  induction n with
  | zero => rfl
  | succ n ih => rw [weight, Nat.zero_mod, Nat.zero_div, ih]

/-- No bits are set behind the top of a word. -/
theorem weight_of_lt {w p : Nat} (h : p < 2 ^ w) (n : Nat) : weight (w + n) p = weight w p := by
  induction w generalizing p with
  | zero =>
      have h0 : p = 0 := by omega
      rw [h0, weight_zero, weight_zero]
  | succ w ih =>
      have hhalf : p / 2 < 2 ^ w := by
        rw [Nat.pow_succ] at h
        omega
      have hlen : w + 1 + n = w + n + 1 := by omega
      rw [hlen, weight, weight, ih hhalf]

/-- A half has no more bits. -/
theorem weight_half_le (n p : Nat) : weight n (p / 2) ≤ weight (n + 1) p := Nat.le_add_left _ _

/-- **Error patterns of small weight have distinct remainders**, when multiples of the polynomial are heavy. -/
theorem eq_of_rem_eq {g d n t : Nat} (hdist : ∀ p < 2 ^ n, rem g d n p = 0 → p ≠ 0 → 2 * t < weight n p)
    {e e' : Nat} (he : e < 2 ^ n) (he' : e' < 2 ^ n) (hw : weight n e ≤ t) (hw' : weight n e' ≤ t)
    (h : rem g d n e = rem g d n e') : e = e' := by
  by_contra hne
  have hdiff : e ^^^ e' ≠ 0 := fun h0 => hne (Nat.xor_eq_zero_iff.mp h0)
  have hrem : rem g d n (e ^^^ e') = 0 := by rw [rem_xor, h, Nat.xor_self]
  have hheavy := hdist _ (Nat.xor_lt_two_pow he he') hrem hdiff
  have hlight := weight_xor_le n e e'
  omega

/-! ## The division loop -/

/-- `while (pattern & mask) { while (!(aux & pattern)) aux = aux >> 1; pattern ^= (aux / x) * g; }`, a turn for
    each test; `none` when the turns run out. -/
def divLoop (g x mask : Nat) : Nat → Nat → Nat → Option Nat
  | 0, _, _ => none
  | turns + 1, aux, pattern =>
      if pattern &&& mask ≠ 0 then
        if aux &&& pattern = 0 then divLoop g x mask turns (aux >>> 1) pattern
        else divLoop g x mask turns aux (pattern ^^^ (aux / x) * g)
      else some pattern

/-- A marker bit meets a number in its bit. -/
theorem two_pow_and_eq_zero_iff (k p : Nat) : 2 ^ k &&& p = 0 ↔ p.testBit k = false := by
  constructor
  · intro h
    have hbit := congrArg (Nat.testBit · k) h
    simpa [Nat.testBit_and, Nat.testBit_two_pow_self] using hbit
  · intro h
    apply Nat.eq_of_testBit_eq
    intro i
    rw [Nat.testBit_and, Nat.zero_testBit]
    by_cases hi : k = i
    · rw [← hi, h, Bool.and_false]
    · rw [Nat.testBit_two_pow_of_ne hi, Bool.false_and]

/-- Subtracting the polynomial under the marker clears the marker's bit. -/
theorem xor_shift_lt {g d k p : Nat} (hg : g < 2 ^ (d + 1)) (htop : g.testBit d = true) (hk : d ≤ k)
    (hp : p < 2 ^ (k + 1)) (hbit : p.testBit k = true) : p ^^^ 2 ^ (k - d) * g < 2 ^ k := by
  have hsum : k - d + (d + 1) = k + 1 := by omega
  have hshift : 2 ^ (k - d) * g < 2 ^ (k + 1) := by
    rw [← hsum, Nat.pow_add]
    exact Nat.mul_lt_mul_of_pos_left hg (Nat.two_pow_pos _)
  apply lt_of_testBit_eq_false (Nat.xor_lt_two_pow hp hshift)
  have hplace : k - (k - d) = d := by omega
  rw [Nat.testBit_xor, hbit, Nat.testBit_two_pow_mul, hplace, htop, decide_eq_true (by omega)]
  rfl

/-- **The loop ends with the remainder.** Two turns for each place of the marker, and one to subtract first, are
    enough. -/
theorem divLoop_eq {g d n mask : Nat} (hg : g < 2 ^ (d + 1)) (htop : g.testBit d = true)
    (hmask : ∀ p < 2 ^ n, p &&& mask = 0 ↔ p < 2 ^ d) {turns k p : Nat} (hk : k < n) (hp : p < 2 ^ (k + 1))
    (hpos : 1 ≤ turns) (hturns : 2 * (k + 1 - d) + (if p.testBit k then 1 else 0) ≤ turns) :
    divLoop g (2 ^ d) mask turns (2 ^ k) p = some (rem g d n p) := by
  induction turns generalizing k p with
  | zero => exact absurd hpos (Nat.not_succ_le_zero 0)
  | succ turns ih =>
      have hpn : p < 2 ^ n := Nat.lt_of_lt_of_le hp (Nat.pow_le_pow_right (by decide) hk)
      unfold divLoop
      by_cases hred : p < 2 ^ d
      · rw [if_neg (not_not_intro ((hmask p hpn).mpr hred)), rem_of_lt g hred hpn]
      have hdk : d ≤ k := by
        by_contra hlt
        exact hred (Nat.lt_of_lt_of_le hp (Nat.pow_le_pow_right (by decide) (by omega)))
      rw [if_pos (fun h => hred ((hmask p hpn).mp h))]
      have hmeet := two_pow_and_eq_zero_iff k p
      cases hbit : p.testBit k with
      | true =>
          -- the polynomial is subtracted under the marker
          have hquot : 2 ^ k / 2 ^ d = 2 ^ (k - d) := Nat.pow_div hdk (by decide)
          have hlt := xor_shift_lt hg htop hdk hp hbit
          have hclear : (p ^^^ 2 ^ (k - d) * g).testBit k = false := Nat.testBit_lt_two_pow hlt
          have hpow : 2 ^ k ≤ 2 ^ (k + 1) := Nat.pow_le_pow_right (by decide) (by omega)
          rw [hbit, if_pos rfl] at hturns
          rw [if_neg (fun h => Bool.false_ne_true ((hmeet.mp h).symm.trans hbit)), hquot,
            ih hk (Nat.lt_of_lt_of_le hlt hpow) (by omega)]
          · rw [rem_xor, rem_shift hg htop (by omega), Nat.xor_zero]
          · rw [hclear, if_neg Bool.false_ne_true]
            omega
      | false =>
          -- the marker moves down
          have hlt := lt_of_testBit_eq_false hp hbit
          have hdk' : d < k := by
            rcases Nat.eq_or_lt_of_le hdk with rfl | hlt'
            · exact absurd hlt hred
            · exact hlt'
          obtain ⟨k', rfl⟩ : ∃ k', k = k' + 1 := ⟨k - 1, by omega⟩
          have hmarker : 2 ^ (k' + 1) >>> 1 = 2 ^ k' := by
            rw [Nat.shiftRight_one, Nat.pow_succ, Nat.mul_div_cancel _ (by decide)]
          rw [if_pos (hmeet.mpr hbit), hmarker]
          apply ih (by omega) hlt (by omega)
          split <;> omega

/-- A mask that covers the places from `d` on. -/
theorem and_mask_eq_zero_iff {d n mask p : Nat} (hmask : ∀ i < n, mask.testBit i = decide (d ≤ i)) (hp : p < 2 ^ n) :
    p &&& mask = 0 ↔ p < 2 ^ d := by
  constructor
  · intro h
    apply Nat.lt_pow_two_of_testBit
    intro i hi
    rcases Nat.lt_or_ge i n with hlt | hge
    · have hbit := congrArg (Nat.testBit · i) h
      simpa [Nat.testBit_and, hmask i hlt, hi] using hbit
    · exact Nat.testBit_lt_two_pow (Nat.lt_of_lt_of_le hp (Nat.pow_le_pow_right (by decide) hge))
  · intro h
    apply Nat.eq_of_testBit_eq
    intro i
    rw [Nat.testBit_and, Nat.zero_testBit]
    rcases Nat.lt_or_ge i d with hlt | hge
    · rcases Nat.lt_or_ge i n with hin | hout
      · rw [hmask i hin, decide_eq_false (by omega), Bool.and_false]
      · rw [Nat.testBit_lt_two_pow (Nat.lt_of_lt_of_le hp (Nat.pow_le_pow_right (by decide) hout)), Bool.false_and]
    · rw [Nat.testBit_lt_two_pow (Nat.lt_of_lt_of_le h (Nat.pow_le_pow_right (by decide) hge)), Bool.false_and]

/-- **The guarded loop** gives the remainder of every word of `k + 1` bits. -/
theorem guarded_divLoop_eq {g d k mask turns p : Nat} (hg : g < 2 ^ (d + 1)) (htop : g.testBit d = true)
    (hmask : ∀ i < k + 1, mask.testBit i = decide (d ≤ i)) (hp : p < 2 ^ (k + 1))
    (hturns : 2 * (k + 1 - d) + 1 ≤ turns) :
    (if p ≥ 2 ^ d then divLoop g (2 ^ d) mask turns (2 ^ k) p else some p) = some (rem g d (k + 1) p) := by
  by_cases hbig : p ≥ 2 ^ d
  · have hneed : 2 * (k + 1 - d) + (if p.testBit k then 1 else 0) ≤ turns := by
      split <;> omega
    rw [if_pos hbig]
    exact divLoop_eq hg htop (fun q hq => and_mask_eq_zero_iff hmask hq) (Nat.lt_succ_self k) hp (by omega) hneed
  · rw [if_neg hbig, rem_of_lt g (Nat.lt_of_not_le hbig) hp]

end Lib.Gf2Division

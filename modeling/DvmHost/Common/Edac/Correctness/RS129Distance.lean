import Mathlib.Data.List.GetD
import Mathlib.Data.List.Iterate
import DvmHost.Common.Edac.RS129
import DvmHost.Lib.HornerCode
import Mathlib.InformationTheory.Hamming

/-!
# `Common.Edac.Correctness.RS129Distance` — the code that `RS129::check` accepts

Octets are the additive group of GF(256), on which `xtime` is the multiplication by the primitive element. By its
tables `gmult c` is a power of it (`gmult_eq`), so it is additive. `encode` is the register of `Lib.HornerCode` with the
coefficients of the generator polynomial as taps, and the syndromes are Horner evaluations, so the twelve octets that
`check` accepts vanish at the three roots.

With the product of `gmult` the octets are a commutative ring without zero divisors, the field of 256 elements
(`gmult_eq_product`), and the syndromes of twelve octets are the power sums of `Lib.HornerCode`. The three roots of the
generator polynomial are powers in a row, so a word of three octets or fewer whose syndromes vanish is zero: what
`check` accepts are exactly the codewords, and no two of them are within three octets (`check_spec`).
-/

namespace DvmHost

open Lib Lib.HornerCode

namespace RS129

/-- An octet as an element of GF(256). -/
def Octet : Type := UInt8

instance : Zero Octet := ⟨(0 : UInt8)⟩

/-- Octets are added bit by bit. -/
instance : Add Octet := ⟨fun a b : UInt8 => a ^^^ b⟩

instance : AddCommMonoid Octet where
  add_assoc := fun a b c : UInt8 => UInt8.xor_assoc a b c
  zero_add := fun _ : UInt8 => UInt8.zero_xor
  add_zero := fun _ : UInt8 => UInt8.xor_zero
  add_comm := fun a b : UInt8 => UInt8.xor_comm a b
  nsmul := nsmulRec

theorem octet_add_self (a : Octet) : a + a = 0 := UInt8.xor_self (a := a)

/-! ## Multiplication -/

/-- Multiplication by the primitive element. -/
def xtime (b : UInt8) : UInt8 := if bitOf b 0 then b <<< (1 : UInt8) ^^^ 0x1D else b <<< (1 : UInt8)

theorem xtime_xor (a b : UInt8) : xtime (a ^^^ b) = xtime a ^^^ xtime b := by
  unfold xtime
  rw [bitOf_xor, UInt8.shiftLeft_xor, ite_xor]

theorem xtime_iterate_xor (n : Nat) (a b : UInt8) : xtime^[n] (a ^^^ b) = xtime^[n] a ^^^ xtime^[n] b := by
  induction n generalizing a b with
  | zero => rfl
  | succ n ih =>
      rw [Function.iterate_succ_apply, xtime_xor, ih, Function.iterate_succ_apply, Function.iterate_succ_apply]

/-- The table of powers, up to the zero at its end. -/
theorem exp_eq {k : Nat} (hk : k < 511) : EXP_TABLE.getD k 0 = xtime^[k] 1 := by
  have htable : EXP_TABLE = List.iterate xtime 1 511 ++ [0] := by decide +kernel
  rw [htable, List.getD_append _ _ _ _ (by rw [List.length_iterate]; exact hk),
    List.getD_eq_getElem _ _ (by rw [List.length_iterate]; exact hk), List.getElem_iterate]

theorem log_lt (v : UInt8) : (LOG_TABLE.getD v.toNat 0).toNat < 255 := by
  have hall : (LOG_TABLE.all fun w => w.toNat < 255) = true := by decide +kernel
  have hlen : LOG_TABLE.length = 256 := by decide +kernel
  rw [List.getD_eq_getElem _ _ (by rw [hlen]; exact v.toNat_lt)]
  exact of_decide_eq_true (List.all_eq_true.mp hall _ (List.getElem_mem _))

/-- An octet other than zero is the power that its logarithm says. -/
theorem exp_log {v : UInt8} (hv : v ≠ 0) : xtime^[(LOG_TABLE.getD v.toNat 0).toNat] 1 = v := by
  have hall : ∀ v : Fin 256, v ≠ 0 → EXP_TABLE.getD (LOG_TABLE.getD v 0).toNat 0 = UInt8.ofNat v := by
    decide +kernel
  have h := hall ⟨v.toNat, v.toNat_lt⟩ fun h0 => hv (UInt8.toNat_inj.mp (congrArg Fin.val h0))
  rw [UInt8.ofNat_toNat] at h
  rw [← exp_eq (Nat.lt_trans (log_lt v) (by decide))]
  exact h

theorem gmult_zero (c : UInt8) : gmult c 0 = 0 := if_pos (Or.inr rfl)

theorem xtime_iterate_zero (n : Nat) : xtime^[n] 0 = 0 := Function.iterate_fixed rfl n

/-- **Products by logarithms.** -/
theorem gmult_eq {c : UInt8} (hc : c ≠ 0) (b : UInt8) :
    gmult c b = xtime^[(LOG_TABLE.getD c.toNat 0).toNat] b := by
  by_cases hb : b = 0
  · rw [hb, gmult_zero, xtime_iterate_zero]
  · have hc' := log_lt c
    have hb' := log_lt b
    rw [gmult, if_neg (by simp [hc, hb])]
    dsimp only
    rw [exp_eq (by omega), Function.iterate_add_apply, exp_log hb]

-- the highest bit comes back as the low bits of the polynomial
example : gmult 0x80 0x02 = 0x1D := by decide +kernel

theorem gmult_xor {c : UInt8} (hc : c ≠ 0) (a b : UInt8) : gmult c (a ^^^ b) = gmult c a ^^^ gmult c b := by
  rw [gmult_eq hc, gmult_eq hc, gmult_eq hc, xtime_iterate_xor]

theorem gmult_iterate {c : UInt8} (hc : c ≠ 0) (k : Nat) (b : UInt8) :
    gmult c (xtime^[k] b) = xtime^[k] (gmult c b) := by
  rw [gmult_eq hc, gmult_eq hc, ← Function.iterate_add_apply, Nat.add_comm, Function.iterate_add_apply]

/-- `gmult` by an octet. -/
def gmultHom (c : UInt8) (hc : c ≠ 0) : AddMonoid.End Octet :=
  AddMonoidHom.mk ⟨gmult c, gmult_zero c⟩ (gmult_xor hc)

/-- The taps of `encode`. -/
def taps : Nat → AddMonoid.End Octet
  | 0 => gmultHom 64 (by decide)
  | 1 => gmultHom 56 (by decide)
  | _ => gmultHom 14 (by decide)

theorem ne_zero_of_root {r : UInt8} (hr : r ∈ roots) : r ≠ 0 := by
  have hall : (roots.all fun r => r ≠ 0) = true := by decide
  exact of_decide_eq_true (List.all_eq_true.mp hall r hr)

/-- The generator polynomial vanishes at its roots. -/
theorem gmult_root {r : UInt8} (hr : r ∈ roots) (b : UInt8) :
    gmult 64 b ^^^ gmult r (gmult 56 b) ^^^ gmult r (gmult r (gmult 14 b)) = gmult r (gmult r (gmult r b)) := by
  by_cases hb : b = 0
  · simp only [hb, gmult_zero, UInt8.xor_self]
  · have hall : (roots.all fun r => gmult 64 1 ^^^ gmult r (gmult 56 1) ^^^ gmult r (gmult r (gmult 14 1))
        = gmult r (gmult r (gmult r 1))) = true := by decide
    have hone := of_decide_eq_true (List.all_eq_true.mp hall r hr)
    have hr0 := ne_zero_of_root hr
    -- every term commutes with the power that `b` is
    rw [← exp_log hb]
    simp only [gmult_iterate hr0, gmult_iterate (show (64 : UInt8) ≠ 0 by decide),
      gmult_iterate (show (56 : UInt8) ≠ 0 by decide), gmult_iterate (show (14 : UInt8) ≠ 0 by decide),
      ← xtime_iterate_xor, hone]

theorem sum_taps {r : UInt8} (hr : r ∈ roots) (x : Octet) :
    ∑ j ∈ Finset.range 3, (gmultHom r (ne_zero_of_root hr) ^ j) (taps j x)
      = (gmultHom r (ne_zero_of_root hr) ^ 3) x := by
  rw [Finset.sum_range_succ, Finset.sum_range_succ, Finset.sum_range_one]
  exact gmult_root hr x

/-! ## The register -/

/-- **The loop of `encode` is the division register.** -/
theorem encode_eq_remainder (msg parity : Bytes) (n : Nat) {j : Nat} (hj : j < 3) :
    encode msg n parity j = remainder taps 3 (fun i => (msg i : Octet)) n j := by
  have hturn : ∀ (p reg : Bytes) (i : Nat), (∀ j < 3, p j = reg j) →
      ∀ j < 3, encodeTurn msg p i j = divide taps 3 (fun j => (reg j : Octet)) (msg i : Octet) j := by
    intro p reg i hp j hj
    have h0 := hp 0 (by decide)
    have h1 := hp 1 (by decide)
    have h2 := hp 2 (by decide)
    have hj3 : j = 0 ∨ j = 1 ∨ j = 2 := by omega
    rcases hj3 with rfl | rfl | rfl
    · show gmult 64 (msg i ^^^ p 2) = 0 ^^^ gmult 64 (msg i ^^^ reg 2)
      rw [UInt8.zero_xor, h2]
    · show p 0 ^^^ gmult 56 (msg i ^^^ p 2) = reg 0 ^^^ gmult 56 (msg i ^^^ reg 2)
      rw [h0, h2]
    · show p 1 ^^^ gmult 14 (msg i ^^^ p 2) = reg 1 ^^^ gmult 14 (msg i ^^^ reg 2)
      rw [h1, h2]
  unfold encode
  induction n generalizing j with
  | zero =>
      have hj3 : j = 0 ∨ j = 1 ∨ j = 2 := by omega
      rcases hj3 with rfl | rfl | rfl <;> rfl
  | succ n ih =>
      rw [List.range_succ (n := n), List.foldl_append]
      exact hturn _ _ n (fun j hj => ih hj) j hj

theorem syndrome_eq_horner {r : UInt8} (hr : r ∈ roots) (inp : Bytes) :
    syndrome r inp = horner (gmultHom r (ne_zero_of_root hr)) (fun i => (inp i : Octet)) 12 := by
  have hfold : ∀ n, (List.range n).foldl (fun s i => gmult r s ^^^ inp i) 0
      = horner (gmultHom r (ne_zero_of_root hr)) (fun i => (inp i : Octet)) n := by
    intro n
    induction n with
    | zero => rfl
    | succ n ih =>
        rw [List.range_succ, List.foldl_append, ih]
        rfl
  exact hfold 12

/-- **Zero syndromes.** -/
theorem syndrome_of_check {inp : Bytes} (h : check inp = true) {r : UInt8} (hr : r ∈ roots) :
    syndrome r inp = 0 := by
  obtain ⟨h9, h10, h11⟩ := of_decide_eq_true h
  rw [syndrome_eq_horner hr]
  refine horner_eq_zero (n := 9) (d := 3) (by decide) (sum_taps hr) octet_add_self fun j hj => ?_
  rw [← encode_eq_remainder inp (fun _ => 0) 9 hj]
  have hj3 : j = 0 ∨ j = 1 ∨ j = 2 := by omega
  rcases hj3 with rfl | rfl | rfl
  · exact h11
  · exact h10
  · exact h9

/-- Octets that end in the parity of the first nine are accepted, and no others with these nine. -/
theorem check_iff {inp msg : Bytes} (h : ∀ i < 9, inp i = msg i) (parity : Bytes) :
    check inp = true ↔
      inp 9 = encode msg 9 parity 2 ∧ inp 10 = encode msg 9 parity 1 ∧ inp 11 = encode msg 9 parity 0 := by
  have hparity : ∀ j < 4, encode inp 9 (fun _ => 0) j = encode msg 9 parity j := fun j hj => encode_congr h hj
  unfold check
  dsimp only
  rw [hparity 0 (by decide), hparity 1 (by decide), hparity 2 (by decide), decide_eq_true_iff]

/-! ## The field -/

/-- The product modulo `x ^ 8 + x ^ 4 + x ^ 3 + x ^ 2 + 1`, bit by bit, the highest first. -/
def product (a b : UInt8) : UInt8 := (List.range 8).foldl (fun s i => xtime s ^^^ if bitOf b i then a else 0) 0

theorem gmult_one (c : UInt8) : gmult c 1 = c := by
  by_cases hc : c = 0
  · rw [hc]
    rfl
  · rw [gmult_eq hc, exp_log hc]

theorem zero_gmult (b : UInt8) : gmult 0 b = 0 := if_pos (Or.inl rfl)

theorem gmult_add (c a b : UInt8) : gmult c (a ^^^ b) = gmult c a ^^^ gmult c b := by
  by_cases hc : c = 0
  · rw [hc, zero_gmult, zero_gmult, zero_gmult, UInt8.xor_self]
  · exact gmult_xor hc a b

theorem gmult_xtime (c b : UInt8) : gmult c (xtime b) = xtime (gmult c b) := by
  by_cases hc : c = 0
  · rw [hc, zero_gmult, zero_gmult]
    rfl
  · exact gmult_iterate hc 1 b

/-- **The tables multiply in GF(256).** -/
theorem gmult_eq_product (a b : UInt8) : gmult a b = product a b := by
  have hbits : product 1 b = b := by
    have h : ∀ v : BitVec 8, product 1 (UInt8.ofBitVec v) = UInt8.ofBitVec v := by decide +kernel
    exact h b.toBitVec
  have hrun : ∀ (l : List Nat) (s : UInt8),
      gmult a (l.foldl (fun s i => xtime s ^^^ if bitOf b i then 1 else 0) s) =
        l.foldl (fun s i => xtime s ^^^ if bitOf b i then a else 0) (gmult a s) := by
    intro l
    induction l with
    | nil => exact fun _ => rfl
    | cons i l ih =>
        intro s
        rw [List.foldl_cons, List.foldl_cons, ih, gmult_add, gmult_xtime, apply_ite (gmult a), gmult_one, gmult_zero]
  calc gmult a b = gmult a (product 1 b) := by rw [hbits]
    _ = product a b := (hrun (List.range 8) 0).trans (by rw [gmult_zero]; rfl)

theorem gmult_comm (a b : UInt8) : gmult a b = gmult b a := by
  by_cases ha : a = 0
  · rw [ha, zero_gmult, gmult_zero]
  · by_cases hb : b = 0
    · rw [hb, zero_gmult, gmult_zero]
    · -- both are the power that the logarithms add up to
      calc gmult a b = xtime^[(LOG_TABLE.getD a.toNat 0).toNat] (xtime^[(LOG_TABLE.getD b.toNat 0).toNat] 1) := by
            rw [gmult_eq ha, exp_log hb]
        _ = xtime^[(LOG_TABLE.getD b.toNat 0).toNat] (xtime^[(LOG_TABLE.getD a.toNat 0).toNat] 1) := by
            rw [← Function.iterate_add_apply, Nat.add_comm, Function.iterate_add_apply]
        _ = gmult b a := by rw [exp_log ha, gmult_eq hb]

theorem gmult_assoc (a b c : UInt8) : gmult (gmult a b) c = gmult a (gmult b c) := by
  by_cases hc : c = 0
  · rw [hc, gmult_zero, gmult_zero, gmult_zero]
  · rw [gmult_comm _ c, gmult_comm b c, gmult_eq hc, gmult_eq hc]
    by_cases ha : a = 0
    · rw [ha, zero_gmult, zero_gmult, xtime_iterate_zero]
    · exact (gmult_iterate ha _ b).symm

theorem xtime_ne_zero {b : UInt8} (hb : b ≠ 0) : xtime b ≠ 0 := by
  have h : ∀ v : BitVec 8, xtime (UInt8.ofBitVec v) = 0 → v = 0 := by decide
  intro hzero
  exact hb (UInt8.toBitVec_inj.mp (h b.toBitVec hzero))

/-- No product of octets other than zero is zero. -/
theorem gmult_ne_zero {a b : UInt8} (ha : a ≠ 0) (hb : b ≠ 0) : gmult a b ≠ 0 := by
  rw [gmult_eq ha]
  generalize (LOG_TABLE.getD a.toNat 0).toNat = n
  induction n with
  | zero => exact hb
  | succ n ih =>
      rw [Function.iterate_succ_apply']
      exact xtime_ne_zero ih

instance : DecidableEq Octet := inferInstanceAs (DecidableEq UInt8)

instance : Mul Octet := ⟨gmult⟩

instance : One Octet := ⟨(1 : UInt8)⟩

instance : Neg Octet := ⟨id⟩

instance : CommRing Octet where
  neg_add_cancel := octet_add_self
  left_distrib := gmult_add
  right_distrib := fun a b c : UInt8 => by
    show gmult (a ^^^ b) c = gmult a c ^^^ gmult b c
    rw [gmult_comm _ c, gmult_add, gmult_comm c a, gmult_comm c b]
  zero_mul := zero_gmult
  mul_zero := gmult_zero
  mul_assoc := gmult_assoc
  one_mul := fun a : UInt8 => (gmult_comm 1 a).trans (gmult_one a)
  mul_one := gmult_one
  mul_comm := gmult_comm
  zsmul := zsmulRec

instance : Nontrivial Octet := ⟨0, 1, by decide⟩

instance : NoZeroDivisors Octet where
  eq_zero_or_eq_zero_of_mul_eq_zero := by
    intro a b hab
    by_contra h
    obtain ⟨ha, hb⟩ := not_or.mp h
    exact gmult_ne_zero ha hb hab

instance : IsDomain Octet := NoZeroDivisors.to_isDomain Octet

/-! ## The code -/

/-- The generator polynomial at an element: the coefficients of `POLY`, the lowest first. -/
def polyAt (r : UInt8) : UInt8 := (POLY.take (NPAR + 1)).foldr (fun c s => gmult r s ^^^ c) 0

/-- Twelve octets are a codeword when their polynomial vanishes at every root of the generator polynomial. -/
def Codeword (inp : Bytes) : Prop := ∀ r, polyAt r = 0 → syndrome r inp = 0

/-- The generator polynomial from its roots. -/
theorem polyAt_eq {a b c c0 c1 c2 : Octet} (h0 : c0 = (64 : UInt8)) (h1 : c1 = (56 : UInt8)) (h2 : c2 = (14 : UInt8))
    (hproduct : a * b * c = c0) (hpairs : a * b + a * c + b * c = c1) (hsum : a + b + c = c2) (r : Octet) :
    polyAt r = (r + a) * (r + b) * (r + c) := by
  have hhorner : r * (r * (r * (r * 0 + 1) + c2) + c1) + c0 = (r + a) * (r + b) * (r + c) := by
    rw [← hsum, ← hpairs, ← hproduct]
    ring
  rw [← hhorner, h0, h1, h2]
  rfl

/-- **The generator polynomial has three roots.** -/
theorem polyAt_eq_zero_iff (r : UInt8) : polyAt r = 0 ↔ r ∈ roots := by
  have hroots : ∀ x a b c : Octet, (x + a) * (x + b) * (x + c) = 0 ↔ x = a ∨ x = b ∨ x = c := by
    intro x a b c
    have hroot : ∀ a : Octet, x + a = 0 ↔ x = a := fun a => eq_neg_iff_add_eq_zero.symm
    rw [mul_eq_zero, mul_eq_zero, hroot, hroot, hroot, or_assoc]
  have hpoly := polyAt_eq (a := (2 : UInt8)) (b := (4 : UInt8)) (c := (8 : UInt8)) rfl rfl rfl rfl rfl rfl r
  unfold roots
  simp only [List.mem_cons, List.not_mem_nil, or_false]
  exact (Eq.congr_left hpoly).trans (hroots r _ _ _)

theorem codeword_iff (inp : Bytes) : Codeword inp ↔ ∀ r ∈ roots, syndrome r inp = 0 := by
  unfold Codeword
  simp only [polyAt_eq_zero_iff]

/-- The primitive element. -/
def alpha : Octet := (2 : UInt8)

theorem alpha_pow (k : Nat) : alpha ^ k = xtime^[k] 1 := by
  induction k with
  | zero => rfl
  | succ k ih =>
      have hdouble : ∀ b, gmult 2 b = xtime b := fun b => gmult_eq (by decide) b
      rw [pow_succ', ih, Function.iterate_succ_apply']
      exact hdouble _

/-- The place of octet `i`: the coefficient of `x ^ (11 - i)`. -/
def octetPlace (i : Fin 12) : Octet := alpha ^ (11 - i.val)

theorem octetPlace_injective : Function.Injective octetPlace := by
  have h : ∀ i j : Fin 12, xtime^[11 - i.val] 1 = xtime^[11 - j.val] 1 → i = j := by decide +kernel
  intro i j hij
  unfold octetPlace at hij
  rw [alpha_pow, alpha_pow] at hij
  exact h i j hij

theorem octetPlace_ne_zero (i : Fin 12) : octetPlace i ≠ 0 := pow_ne_zero _ (by decide)

/-- Twelve octets as elements of the field. -/
def word (inp : Bytes) (i : Fin 12) : Octet := inp i

/-- The syndrome at a power of the primitive element is a sum of powers. -/
theorem syndrome_eq_sum {r : UInt8} (hr : r ∈ roots) {k : Nat} (hpow : alpha ^ (k + 1) = r) (inp : Bytes) :
    syndrome r inp = ∑ i : Fin 12, word inp i * octetPlace i ^ (k + 1) := by
  have hhorner := horner_mulLeft (alpha ^ (k + 1)) (fun i => show Octet from inp i) 12
  rw [Finset.sum_range] at hhorner
  have hsame : horner (AddMonoid.End.mulLeft (alpha ^ (k + 1))) (fun i => show Octet from inp i) 12 =
      horner (gmultHom r (ne_zero_of_root hr)) (fun i => (inp i : Octet)) 12 := by
    rw [hpow]
    rfl
  rw [syndrome_eq_horner hr, ← hsame]
  refine hhorner.trans (Finset.sum_congr rfl fun i _ => ?_)
  unfold octetPlace
  rw [← pow_mul, ← pow_mul, Nat.mul_comm]
  rfl

/-- **The codewords are the words whose first three power sums vanish.** -/
theorem codeword_iff_vanish (inp : Bytes) : Codeword inp ↔ PowerSums.Vanish octetPlace 3 (word inp) := by
  have h2 := syndrome_eq_sum (r := 2) (by decide) (alpha_pow 1) inp
  have h4 := syndrome_eq_sum (r := 4) (by decide) (alpha_pow 2) inp
  have h8 := syndrome_eq_sum (r := 8) (by decide) (alpha_pow 3) inp
  rw [codeword_iff]
  constructor
  · intro h k hk
    have hk3 : k = 0 ∨ k = 1 ∨ k = 2 := by omega
    rcases hk3 with rfl | rfl | rfl
    · exact h2.symm.trans (h 2 (by decide))
    · exact h4.symm.trans (h 4 (by decide))
    · exact h8.symm.trans (h 8 (by decide))
  · intro h r hr
    have hr3 : r = 2 ∨ r = 4 ∨ r = 8 := by simpa [roots] using hr
    rcases hr3 with rfl | rfl | rfl
    · exact h2.trans (h 0 (by decide))
    · exact h4.trans (h 1 (by decide))
    · exact h8.trans (h 2 (by decide))

/-- The number of octets in which two words of twelve differ. -/
def corrupted (a b : Bytes) : Nat := hammingDist (word a) (word b)

/-- **Codewords within three octets are the same.** -/
theorem word_eq_of_corrupted_le {a b : Bytes} (ha : Codeword a) (hb : Codeword b) (h : corrupted a b ≤ 3) :
    word a = word b := by
  apply PowerSums.eq_of_hammingDist_le (y := word a) octetPlace_injective octetPlace_ne_zero
    ((codeword_iff_vanish a).mp ha) ((codeword_iff_vanish b).mp hb)
  rw [hammingDist_self, Nat.zero_add]
  exact h

/-! ## What is accepted -/

/-- The octets with the parity that `encode` gives them behind the first nine. -/
def stamped (msg parity : Bytes) : Bytes :=
  setByte (setByte (setByte msg 9 (encode msg 9 parity 2)) 10 (encode msg 9 parity 1)) 11 (encode msg 9 parity 0)

theorem stamped_of_lt (msg parity : Bytes) {i : Nat} (hi : i < 9) : stamped msg parity i = msg i := by
  unfold stamped setByte
  rw [if_neg (by omega), if_neg (by omega), if_neg (by omega)]

theorem check_stamped (msg parity : Bytes) : check (stamped msg parity) = true :=
  (check_iff (fun _ hi => stamped_of_lt msg parity hi) parity).mpr ⟨rfl, rfl, rfl⟩

/-- **`check` accepts the codewords.** -/
theorem check_iff_codeword (inp : Bytes) : check inp = true ↔ Codeword inp := by
  constructor
  · intro h
    rw [codeword_iff]
    exact fun r hr => syndrome_of_check h hr
  · intro h
    -- the codeword with the same first nine octets is not far
    have hother : Codeword (stamped inp inp) := by
      rw [codeword_iff]
      exact fun r hr => syndrome_of_check (check_stamped inp inp) hr
    have hnear : corrupted inp (stamped inp inp) ≤ 3 := by
      have hsub : (Finset.univ.filter fun i => word inp i ≠ word (stamped inp inp) i) ⊆ {9, 10, 11} := by
        intro i hi
        have hhigh : ¬ i.val < 9 := fun h9 => (Finset.mem_filter.mp hi).2 (stamped_of_lt inp inp h9).symm
        have hcases : i = 9 ∨ i = 10 ∨ i = 11 := by omega
        simpa using hcases
      exact Finset.card_le_card hsub
    have hsame := word_eq_of_corrupted_le h hother hnear
    refine (check_iff (fun _ _ => rfl) inp).mpr ⟨?_, ?_, ?_⟩
    · exact congrFun hsame 9
    · exact congrFun hsame 10
    · exact congrFun hsame 11

/-- **The Reed-Solomon (12,9) code.** The tables multiply in GF(256), where the generator polynomial has three roots;
    `check` accepts exactly the words that vanish there, so it accepts what `encode` completes, `encode` gives back the
    parity of what is accepted, and no word that differs from an accepted one in one to three octets is accepted. -/
theorem check_spec :
    (∀ a b, gmult a b = product a b) ∧ (∀ r, polyAt r = 0 ↔ r ∈ roots) ∧
    (∀ inp, check inp = true ↔ Codeword inp) ∧
    (∀ msg parity, check (stamped msg parity) = true) ∧
    (∀ inp parity, check inp = true → ∀ i < 12, stamped inp parity i = inp i) ∧
    ∀ inp received, check inp = true → 0 < corrupted inp received → corrupted inp received ≤ 3 →
      check received = false := by
  refine ⟨gmult_eq_product, polyAt_eq_zero_iff, check_iff_codeword, check_stamped, ?_, ?_⟩
  · intro inp parity h i hi
    obtain ⟨h9, h10, h11⟩ := (check_iff (fun _ _ => rfl) parity).mp h
    rcases Nat.lt_or_ge i 9 with hlow | hhigh
    · exact stamped_of_lt inp parity hlow
    · have hcases : i = 9 ∨ i = 10 ∨ i = 11 := by omega
      rcases hcases with rfl | rfl | rfl
      · exact h9.symm
      · exact h10.symm
      · exact h11.symm
  · intro inp received h hsome hfew
    rw [← Bool.not_eq_true]
    intro haccepted
    have hsame := word_eq_of_corrupted_le ((check_iff_codeword inp).mp h)
      ((check_iff_codeword received).mp haccepted) hfew
    exact absurd (hammingDist_eq_zero.mpr hsame) (Nat.ne_of_gt hsome)

/-- Twelve zeros are accepted and completed as they are; with an octet of data and both ends of the parity changed they
    are not. -/
theorem check_spec_zeros : (∀ i < 12, stamped (fun _ => 0) (fun _ => 0xFF) i = 0) ∧
    check (fun i => if i = 4 ∨ i = 9 ∨ i = 11 then 0x5A else 0) = false := by
  obtain ⟨-, -, -, -, hback, hreject⟩ := check_spec
  refine ⟨hback (fun _ => 0) _ (by decide), ?_⟩
  exact hreject (fun _ => 0) _ (by decide) (by decide) (by decide)

end RS129

end DvmHost

import DvmHost.Common.Edac.Golay24128
import DvmHost.Lib.MinDistance
import Mathlib.Data.List.GetD

/-!
# `Common.Edac.Correctness.GolayRepair` — three errors in a Golay word are repaired

The division loop gives the remainder by the generator polynomial, the encoding table holds the codewords of
their data (whose shortest distance is read off the table), and the decoding table holds a pattern of at most
three errors for each syndrome. Patterns that light with the same syndrome are equal, so the pattern looked up
is the one that happened (`decode24128_near`).

`Golay24128::decode24128` looks up the errors of the first 23 bits and leaves the parity bit as it came. The word is
reported valid when it has an even number of ones then, or when the *syndrome* has fewer than three; the errors have
the syndrome for their pattern only when all of them are in the check bits. A word with an error in its data and one
in its parity bit is therefore decoded to the right data and reported invalid (`decode24128_spec`).
-/

namespace DvmHost

open Lib Lib.Gf2Division

/-! ## Counting bits -/

set_option maxRecDepth 2000 in
theorem bits_table {x : Nat} (hx : x < 256) : BITS_TABLE.getD x 0 = weight 8 x := by
  have h : ∀ x : Fin 256, BITS_TABLE.getD x 0 = weight 8 x := by decide
  exact h ⟨x, hx⟩

theorem weight_mod (n x : Nat) : weight n (x % 2 ^ n) = weight n x := by
  induction n generalizing x with
  | zero => rfl
  | succ n ih =>
      have hlow : x % 2 ^ (n + 1) % 2 = x % 2 := Nat.mod_mod_of_dvd _ (Dvd.intro_left (2 ^ n) rfl)
      have hhalf : x % 2 ^ (n + 1) / 2 = x / 2 % 2 ^ n := by
        rw [Nat.pow_succ, Nat.mul_comm, Nat.mod_mul_right_div_self]
      rw [weight, weight, hlow, hhalf, ih]

/-- `countBits32` counts. -/
theorem countBits32_eq (x : Nat) : countBits32 x = weight 32 x := by
  have hbyte : ∀ y, BITS_TABLE.getD (y % 256) 0 = weight 8 y := fun y => by
    rw [bits_table (Nat.mod_lt y (by decide))]
    exact weight_mod 8 y
  have h24 : x >>> 24 = x >>> 8 >>> 8 >>> 8 := by rw [← Nat.shiftRight_add, ← Nat.shiftRight_add]
  have h16 : x >>> 16 = x >>> 8 >>> 8 := by rw [← Nat.shiftRight_add]
  unfold countBits32
  rw [hbyte, hbyte, hbyte, hbyte, h24, h16, MinDistance.weight_add 8 24,
    MinDistance.weight_add 8 16, MinDistance.weight_add 8 8]
  simp only [Nat.add_assoc]

theorem countBits32_of_lt {x : Nat} (hx : x < 2 ^ 23) : countBits32 x = weight 23 x := by
  rw [countBits32_eq]
  exact weight_of_lt hx 9

namespace Golay24128

/-! ## The syndrome -/

theorem genpol_lt : GENPOL < 2 ^ (11 + 1) := by decide

theorem genpol_top : GENPOL.testBit 11 = true := by decide

/-- The remainder of a word of 23 bits. -/
def syndrome (p : Nat) : Nat := rem GENPOL 11 23 p

theorem syndrome_xor (p q : Nat) : syndrome (p ^^^ q) = syndrome p ^^^ syndrome q := rem_xor _ _ _ _ _

/-- **The loop ends with the remainder** on every word of 23 bits. -/
theorem getSyndrome23127_eq {p : Nat} (hp : p < 2 ^ 23) : getSyndrome23127 p = some (syndrome p) :=
  guarded_divLoop_eq genpol_lt genpol_top (by decide) hp (by decide)

/-! ## The tables -/

/-- A test of every entry and its index, in one pass over the table. -/
theorem test_getD_of_all (test : Nat → Nat → Bool) {l : List Nat}
    (h : (l.zipIdx.all fun e => test e.1 e.2) = true) {i : Nat} (hi : i < l.length) :
    test (l.getD i 0) i = true := by
  rw [List.getD_eq_getElem _ _ hi]
  exact List.all_eq_true.mp h (l[i], i) (List.mk_mem_zipIdx_iff_getElem?.mpr (List.getElem?_eq_getElem hi))

theorem length_encoding : ENCODING_TABLE_24128.length = 4096 := by decide +kernel

theorem length_decoding : DECODING_TABLE_23127.length = 2048 := by decide +kernel

/-- The data stand in front of a codeword, and nothing in front of them. -/
theorem encode24128_data {c : Nat} (hc : c < 4096) : encode24128 c >>> 12 = c := by
  have h : (ENCODING_TABLE_24128.zipIdx.all fun e => Nat.beq (e.1 >>> 12) e.2) = true := by decide +kernel
  exact Nat.eq_of_beq_eq_true (test_getD_of_all (fun t c => Nat.beq (t >>> 12) c) h (length_encoding ▸ hc))

example : encode24128 0xABC >>> 12 = 0xABC := by decide +kernel

theorem encode24128_lt {c : Nat} (hc : c < 4096) : encode24128 c < 2 ^ 24 := by
  have h := encode24128_data hc
  rw [Nat.shiftRight_eq_div_pow] at h
  omega

/-- Codewords have no remainder. -/
theorem syndrome_encode24128 {c : Nat} (hc : c < 4096) : syndrome (encode24128 c >>> 1) = 0 := by
  have h : (ENCODING_TABLE_24128.zipIdx.all fun e => Nat.beq (remArith GENPOL 11 23 (e.1 >>> 1)) 0) = true := by
    decide +kernel
  have hrem := test_getD_of_all (fun t _ => Nat.beq (remArith GENPOL 11 23 (t >>> 1)) 0) h
    (length_encoding ▸ hc)
  exact (remArith_eq genpol_lt genpol_top _ _).symm.trans (Nat.eq_of_beq_eq_true hrem)

/-- Codewords other than zero have at least eight bits. -/
theorem weight_encode24128 {c : Nat} (hc : c < 4096) (h0 : c ≠ 0) : 8 ≤ weight 24 (encode24128 c) := by
  have h : (ENCODING_TABLE_24128.zipIdx.all fun e => Nat.beq e.2 0 || Nat.ble 8 (weight 24 e.1)) = true := by
    decide +kernel
  have htest := test_getD_of_all (fun t c => Nat.beq c 0 || Nat.ble 8 (weight 24 t)) h
    (length_encoding ▸ hc)
  rcases Bool.or_eq_true_iff.mp htest with hz | hw
  · exact absurd (Nat.eq_of_beq_eq_true hz) h0
  · exact Nat.le_of_ble_eq_true hw

/-- **The decoding table**: for each syndrome a pattern of at most three bits that has it. -/
theorem decoding_table {s : Nat} (hs : s < 2048) :
    DECODING_TABLE_23127.getD s 0 < 2 ^ 23 ∧ syndrome (DECODING_TABLE_23127.getD s 0) = s ∧
      weight 23 (DECODING_TABLE_23127.getD s 0) ≤ 3 := by
  have h : (DECODING_TABLE_23127.zipIdx.all fun e =>
      Nat.blt e.1 (2 ^ 23) && Nat.beq (remArith GENPOL 11 23 e.1) e.2 && Nat.ble (weight 23 e.1) 3) = true := by
    decide +kernel
  have htest := test_getD_of_all
    (fun t s => Nat.blt t (2 ^ 23) && Nat.beq (remArith GENPOL 11 23 t) s && Nat.ble (weight 23 t) 3) h
    (length_decoding ▸ hs)
  obtain ⟨hfirst, hweight⟩ := Bool.and_eq_true_iff.mp htest
  obtain ⟨hlt, hrem⟩ := Bool.and_eq_true_iff.mp hfirst
  exact ⟨Nat.le_of_ble_eq_true hlt, (remArith_eq genpol_lt genpol_top _ _).symm.trans
    (Nat.eq_of_beq_eq_true hrem),
    Nat.le_of_ble_eq_true hweight⟩

/-! ## Distances -/

theorem encode24128_zero : encode24128 0 = 0 := rfl

/-- **A word of 23 bits without remainder is the codeword of its data**, less its parity bit. -/
theorem eq_encode24128_of_syndrome_eq_zero {p : Nat} (hp : p < 2 ^ 23) (h : syndrome p = 0) :
    p = encode24128 (p >>> 11) >>> 1 := by
  have hc : p >>> 11 < 4096 := by
    rw [Nat.shiftRight_eq_div_pow]
    omega
  have hfront : (encode24128 (p >>> 11) >>> 1) >>> 11 = p >>> 11 := by
    rw [← Nat.shiftRight_add]
    exact encode24128_data hc
  -- the word and the codeword of its data differ in nothing
  have hfrontDiff : (p ^^^ encode24128 (p >>> 11) >>> 1) >>> 11 = 0 := by
    rw [Nat.shiftRight_xor_distrib, hfront, Nat.xor_self]
  have hsmall : p ^^^ encode24128 (p >>> 11) >>> 1 < 2 ^ 11 := by
    rw [Nat.shiftRight_eq_div_pow] at hfrontDiff
    exact (Nat.div_eq_zero_iff.mp hfrontDiff).resolve_left (by decide)
  have hsyn : syndrome (p ^^^ encode24128 (p >>> 11) >>> 1) = 0 := by
    rw [syndrome_xor, h, syndrome_encode24128 hc, Nat.xor_self]
  exact Nat.xor_eq_zero_iff.mp
    ((rem_of_lt GENPOL hsmall (Nat.lt_of_lt_of_le hsmall (by decide))).symm.trans hsyn)

/-- Words of 23 bits without remainder have at least seven bits: each is a codeword less its parity bit. -/
theorem weight_of_syndrome_eq_zero {p : Nat} (hp : p < 2 ^ 23) (h : syndrome p = 0) (h0 : p ≠ 0) :
    2 * 3 < weight 23 p := by
  have hc : p >>> 11 < 4096 := by
    rw [Nat.shiftRight_eq_div_pow]
    omega
  have hp' := eq_encode24128_of_syndrome_eq_zero hp h
  have hc0 : p >>> 11 ≠ 0 := by
    intro hz
    rw [hz, encode24128_zero] at hp'
    exact h0 hp'
  have hheavy := weight_encode24128 hc hc0
  have hsplit : weight 24 (encode24128 (p >>> 11)) =
      encode24128 (p >>> 11) % 2 + weight 23 (encode24128 (p >>> 11) / 2) := rfl
  rw [Nat.shiftRight_one] at hp'
  rw [hsplit, ← hp'] at hheavy
  omega

/-! ## Decoding -/

/-- **Three errors are repaired.** A word at distance at most three from a codeword decodes to its data. -/
theorem decode24128_near {c e : Nat} (hc : c < 4096) (he : e < 2 ^ 24) (hw : weight 24 e ≤ 3) :
    ∃ valid, decode24128 (encode24128 c ^^^ e) = some (valid, c) := by
  have hclt := encode24128_lt hc
  have hcode : (encode24128 c ^^^ e) >>> 1 = encode24128 c >>> 1 ^^^ e >>> 1 := Nat.shiftRight_xor_distrib
  have hlt : (encode24128 c ^^^ e) >>> 1 < 2 ^ 23 := by
    have := Nat.xor_lt_two_pow hclt he
    rw [Nat.shiftRight_one]
    omega
  have hsyn : syndrome ((encode24128 c ^^^ e) >>> 1) = syndrome (e >>> 1) := by
    rw [hcode, syndrome_xor, syndrome_encode24128 hc, Nat.zero_xor]
  -- the pattern in the table is the one that happened
  have hpattern : DECODING_TABLE_23127.getD (syndrome (e >>> 1)) 0 = e >>> 1 := by
    obtain ⟨htlt, htsyn, htw⟩ := decoding_table (rem_lt genpol_lt genpol_top 23 (e >>> 1))
    have hehalf : e >>> 1 < 2 ^ 23 := by
      rw [Nat.shiftRight_one]
      omega
    have hew : weight 23 (e >>> 1) ≤ 3 := by
      rw [Nat.shiftRight_one]
      exact Nat.le_trans (weight_half_le 23 e) hw
    exact eq_of_rem_eq (fun p hp hz h0 => weight_of_syndrome_eq_zero hp hz h0) htlt hehalf htw hew htsyn
  have hout : (encode24128 c ^^^ e ^^^ (e >>> 1) <<< 1) >>> 12 = c := by
    have hlast : (e >>> 1) <<< 1 >>> 12 = e >>> 12 := by
      rw [Nat.shiftLeft_eq, Nat.shiftRight_eq_div_pow, Nat.shiftRight_eq_div_pow, Nat.shiftRight_eq_div_pow]
      omega
    rw [Nat.shiftRight_xor_distrib, Nat.shiftRight_xor_distrib, hlast, Nat.xor_assoc, Nat.xor_self,
      Nat.xor_zero]
    exact encode24128_data hc
  unfold decode24128
  rw [getSyndrome23127_eq hlt, hsyn, Option.bind_eq_bind, Option.bind_some]
  dsimp only
  rw [hpattern, hout]
  exact ⟨_, rfl⟩

/-! ## The (23,12,7) code -/

/-- The codeword that a word of 23 bits is decoded to. -/
def nearest (r : Nat) : Nat := r ^^^ DECODING_TABLE_23127.getD (syndrome r) 0

/-- The (23,12,7) words are those of the (24,12,8) code, with a zero for the parity bit. -/
theorem encode23127_eq {c : Nat} (hc : c < 4096) : encode23127 c = 2 * (encode24128 c >>> 1) := by
  have h : ((ENCODING_TABLE_23127.zip ENCODING_TABLE_24128).all fun e =>
      Nat.beq e.1 (Nat.mul 2 (e.2 >>> 1))) = true := by decide +kernel
  have hlen : ENCODING_TABLE_23127.length = 4096 := by decide +kernel
  have hmem : (ENCODING_TABLE_23127.getD c 0, ENCODING_TABLE_24128.getD c 0) ∈
      ENCODING_TABLE_23127.zip ENCODING_TABLE_24128 := by
    have hc23 : c < ENCODING_TABLE_23127.length := hlen.symm ▸ hc
    have hc24 : c < ENCODING_TABLE_24128.length := length_encoding.symm ▸ hc
    have hzip : c < (ENCODING_TABLE_23127.zip ENCODING_TABLE_24128).length := by
      rw [List.length_zip]
      omega
    rw [List.getD_eq_getElem _ _ hc23, List.getD_eq_getElem _ _ hc24, ← List.getElem_zip (h := hzip)]
    exact List.getElem_mem hzip
  exact Nat.eq_of_beq_eq_true (List.all_eq_true.mp h _ hmem)

theorem nearest_lt {r : Nat} (hr : r < 2 ^ 23) : nearest r < 2 ^ 23 :=
  Nat.xor_lt_two_pow hr (decoding_table (rem_lt genpol_lt genpol_top 23 r)).1

theorem syndrome_nearest (r : Nat) : syndrome (nearest r) = 0 := by
  have htable := (decoding_table (rem_lt genpol_lt genpol_top 23 r)).2.1
  unfold nearest
  rw [syndrome_xor]
  exact (congrArg (syndrome r ^^^ ·) htable).trans (Nat.xor_self _)

/-- **A word is decoded to the data of a codeword**, which encoding gives back. -/
theorem decode23127_eq {r : Nat} (hr : r < 2 ^ 23) :
    decode23127 r = some (nearest r >>> 11) ∧ encode23127 (nearest r >>> 11) = 2 * nearest r := by
  constructor
  · unfold decode23127
    rw [getSyndrome23127_eq hr]
    rfl
  · have hc : nearest r >>> 11 < 4096 := by
      have := nearest_lt hr
      rw [Nat.shiftRight_eq_div_pow]
      omega
    rw [encode23127_eq hc, ← eq_encode24128_of_syndrome_eq_zero (nearest_lt hr) (syndrome_nearest r)]

/-- **Three errors are repaired and four are not.** -/
theorem nearest_eq_iff {r w : Nat} (hr : r < 2 ^ 23) (hw : w < 2 ^ 23) (h : syndrome w = 0) :
    nearest r = w ↔ weight 23 (r ^^^ w) ≤ 3 := by
  obtain ⟨htlt, htsyn, htw⟩ := decoding_table (rem_lt genpol_lt genpol_top 23 r)
  constructor
  · intro hnear
    have hdiff : r ^^^ w = DECODING_TABLE_23127.getD (syndrome r) 0 := by
      rw [← hnear]
      unfold nearest
      rw [← Nat.xor_assoc, Nat.xor_self, Nat.zero_xor]
    rw [hdiff]
    exact htw
  · intro hlight
    have hsyn : syndrome (r ^^^ w) = syndrome r := by rw [syndrome_xor, h, Nat.xor_zero]
    have hpattern : DECODING_TABLE_23127.getD (syndrome r) 0 = r ^^^ w :=
      eq_of_rem_eq (fun p hp hz h0 => weight_of_syndrome_eq_zero hp hz h0) htlt (Nat.xor_lt_two_pow hr hw) htw
        hlight (htsyn.trans hsyn.symm)
    unfold nearest
    rw [hpattern, ← Nat.xor_assoc, Nat.xor_self, Nat.zero_xor]

/-! ## The flag -/

/-- The number of bits in which a word is not the codeword of some data. -/
def distance (r c : Nat) : Nat := weight 24 (r ^^^ encode24128 c)

/-- The flag is right for a word: true with the data of a codeword within three bits, and false where none is within
    three, as when the nearest are four bits away. -/
structure Judged (r : Nat) : Prop where
  near : ∀ c < 4096, distance r c ≤ 3 → decode24128 r = some (true, c)
  far : (∀ c < 4096, 4 ≤ distance r c) → ∃ data, decode24128 r = some (false, data)

/-- Codewords have an even number of ones. -/
theorem even_encode24128 {c : Nat} (hc : c < 4096) : weight 24 (encode24128 c) % 2 = 0 := by
  have h : (ENCODING_TABLE_24128.zipIdx.all fun e => Nat.beq (weight 24 e.1 % 2) 0) = true := by decide +kernel
  exact Nat.eq_of_beq_eq_true (test_getD_of_all (fun t _ => Nat.beq (weight 24 t % 2) 0) h (length_encoding ▸ hc))

/-- **What a light syndrome says about the errors**: they are in the check bits, where it is their pattern. -/
theorem weight_syndrome_lt_iff {t : Nat} (ht : t < 2 ^ 23) (hw : weight 23 t ≤ 3) :
    weight 32 (syndrome t) < 3 ↔ t < 2 ^ 11 ∧ weight 23 t < 3 := by
  have hlt : syndrome t < 2 ^ 11 := rem_lt genpol_lt genpol_top 23 t
  have hwide : weight 32 (syndrome t) = weight 23 (syndrome t) :=
    weight_of_lt (Nat.lt_of_lt_of_le hlt (by decide)) 9
  have hself : ∀ p < 2 ^ 11, syndrome p = p := fun p hp =>
    rem_of_lt GENPOL hp (Nat.lt_of_lt_of_le hp (by decide))
  rw [hwide]
  constructor
  · intro hlight
    have hsame : syndrome t = t :=
      eq_of_rem_eq (fun p hp hz h0 => weight_of_syndrome_eq_zero hp hz h0)
        (Nat.lt_of_lt_of_le hlt (by decide)) ht (by omega) hw (hself _ hlt)
    rw [hsame] at hlt hlight
    exact ⟨hlt, hlight⟩
  · rintro ⟨hsmall, hlight⟩
    rw [hself t hsmall]
    exact hlight

/-- A word and a codeword that agree but for the last bit: the bit is told by the parity. -/
theorem xor_encode24128 {out c : Nat} (hc : c < 4096) (h : out >>> 1 = encode24128 c >>> 1) :
    out ^^^ encode24128 c = weight 24 out % 2 := by
  have hone : out ^^^ encode24128 c < 2 := by
    have hhigh : (out ^^^ encode24128 c) >>> 1 = 0 := by rw [Nat.shiftRight_xor_distrib, h, Nat.xor_self]
    rw [Nat.shiftRight_one] at hhigh
    omega
  have hsum := weight_xor_mod_two 24 out (encode24128 c)
  have heven := even_encode24128 hc
  have hself : weight 24 (out ^^^ encode24128 c) = out ^^^ encode24128 c :=
    (by decide : ∀ b < 2, weight 24 b = b) _ hone
  rw [hself] at hsum
  omega

/-- **What `decode24128` says of a word.** With `t` the errors found in the first 23 bits and `b` that of the parity
    bit, the word is reported valid when `b` is no error, or when fewer than three errors are all in the check bits. -/
theorem decode24128_spec {r : Nat} (hr : r < 2 ^ 24) :
    ∃ c < 4096, ∃ t < 2 ^ 23, ∃ b < 2, weight 23 t ≤ 3 ∧ r ^^^ encode24128 c = 2 * t + b ∧
      decode24128 r = some (decide (b = 0 ∨ t < 2 ^ 11 ∧ weight 23 t < 3), c) := by
  have hhalf : r >>> 1 < 2 ^ 23 := by
    rw [Nat.shiftRight_one]
    omega
  have hsyn : syndrome (r >>> 1) < 2048 := rem_lt genpol_lt genpol_top 23 (r >>> 1)
  obtain ⟨htlt, htsyn, htw⟩ := decoding_table hsyn
  have hnear : nearest (r >>> 1) = r >>> 1 ^^^ DECODING_TABLE_23127.getD (syndrome (r >>> 1)) 0 := rfl
  have hnearlt := nearest_lt hhalf
  have hword := eq_encode24128_of_syndrome_eq_zero hnearlt (syndrome_nearest (r >>> 1))
  have hlight := weight_syndrome_lt_iff htlt htw
  rw [htsyn] at hlight
  have hdecode : decode24128 r = some (decide (countBits32 (syndrome (r >>> 1)) < 3) ||
      !decide (countBits32 (r ^^^ DECODING_TABLE_23127.getD (syndrome (r >>> 1)) 0 <<< 1) &&& 1 ≠ 0),
      (r ^^^ DECODING_TABLE_23127.getD (syndrome (r >>> 1)) 0 <<< 1) >>> 12) := by
    unfold decode24128
    rw [getSyndrome23127_eq hhalf]
    rfl
  generalize DECODING_TABLE_23127.getD (syndrome (r >>> 1)) 0 = t at htlt htw hnear hlight hdecode
  generalize hout : r ^^^ t <<< 1 = out at hdecode
  generalize hc : nearest (r >>> 1) >>> 11 = c at hword
  have hclt : c < 4096 := by
    rw [← hc, Nat.shiftRight_eq_div_pow]
    omega
  have htop : out >>> 1 = nearest (r >>> 1) := by
    rw [hnear, ← hout, Nat.shiftRight_xor_distrib, Nat.shiftLeft_shiftRight]
  have hdata : out >>> 12 = c := by
    rw [← hc, ← htop, ← Nat.shiftRight_add]
  have hparity := xor_encode24128 hclt (htop.trans hword)
  refine ⟨c, hclt, t, htlt, weight 24 out % 2, Nat.mod_lt _ (by decide), htw, ?_, ?_⟩
  · -- the errors are those taken off, and what is left of them
    have hback : r = 2 * t ^^^ out := by
      have hdouble : t <<< 1 = 2 * t := by rw [Nat.shiftLeft_eq, Nat.mul_comm]
      rw [← hout, hdouble, Nat.xor_comm r, ← Nat.xor_assoc, Nat.xor_self, Nat.zero_xor]
    have hsum := two_mul_half_xor (2 * t + weight 24 out % 2)
    have hdiv : (2 * t + weight 24 out % 2) / 2 = t := by omega
    have hmod : (2 * t + weight 24 out % 2) % 2 = weight 24 out % 2 := by omega
    rw [hdiv, hmod] at hsum
    rw [hback, Nat.xor_assoc, hparity]
    exact hsum
  · have houtlt : out < 2 ^ 24 := by
      rw [Nat.shiftRight_one] at htop
      omega
    have hcount : countBits32 out = weight 24 out := by
      rw [countBits32_eq]
      exact weight_of_lt houtlt 8
    rw [hdecode, hdata, hcount, countBits32_eq, Nat.and_one_is_mod]
    refine congrArg (fun valid => some (valid, c)) ?_
    rw [← decide_not, ← Bool.decide_or, decide_eq_decide, hlight]
    omega

/-- **The flag of a Golay word is right** if and only if the errors of a word within three bits of a codeword are not
    in the parity bit and in the data together. -/
theorem judged_iff {r : Nat} (hr : r < 2 ^ 24) :
    Judged r ↔ ∀ c < 4096, distance r c ≤ 3 → (r ^^^ encode24128 c) % 2 = 1 → r ^^^ encode24128 c < 2 ^ 12 := by
  obtain ⟨c, hc, t, ht, b, hb, htw, hdiff, hdecode⟩ := decode24128_spec hr
  have hdist : distance r c = b + weight 23 t := by
    have hdiv : (2 * t + b) / 2 = t := by omega
    have hmod : (2 * t + b) % 2 = b := by omega
    unfold distance
    rw [hdiff, weight, hdiv, hmod]
  -- a codeword within three bits is the one that is found
  have hunique : ∀ d < 4096, distance r d ≤ 3 → d = c := by
    intro d hd hnear
    have herr : r ^^^ encode24128 d < 2 ^ 24 := Nat.xor_lt_two_pow hr (encode24128_lt hd)
    obtain ⟨valid, hsome⟩ := decode24128_near hd herr hnear
    rw [Nat.xor_comm r, ← Nat.xor_assoc, Nat.xor_self, Nat.zero_xor, hdecode] at hsome
    exact (congrArg Prod.snd (Option.some.inj hsome)).symm
  constructor
  · intro h d hd hnear hodd
    obtain rfl := hunique d hd hnear
    have htrue := h.near d hd hnear
    rw [hdecode] at htrue
    have hvalid := of_decide_eq_true (congrArg Prod.fst (Option.some.inj htrue))
    rw [hdiff] at hodd ⊢
    omega
  · intro h
    refine ⟨fun d hd hnear => ?_, fun hfar => ⟨c, ?_⟩⟩
    · obtain rfl := hunique d hd hnear
      have hcheck := h d hd hnear
      rw [hdiff] at hcheck
      rw [hdecode, decide_eq_true (show b = 0 ∨ t < 2 ^ 11 ∧ weight 23 t < 3 by omega)]
    · have hfour := hfar c hc
      rw [hdecode, decide_eq_false (show ¬ (b = 0 ∨ t < 2 ^ 11 ∧ weight 23 t < 3) by omega)]

/-- A codeword with two of its check bits flipped and its parity bit. -/
theorem judged_check_bits : Judged 0x000007 ↔
    ∀ c < 4096, distance 0x000007 c ≤ 3 → (0x000007 ^^^ encode24128 c) % 2 = 1 → 0x000007 ^^^ encode24128 c < 2 ^ 12 :=
  judged_iff (by decide)

/-- The codeword of zero with its first data bit and its parity bit flipped: two errors, reported invalid. -/
theorem not_judged_data_and_parity : ¬ Judged 0x800001 := by
  intro h
  have htrue := h.near 0 (by decide) (by decide)
  have hfalse : decode24128 0x800001 = some (false, 0) := by decide +kernel
  rw [hfalse] at htrue
  exact absurd htrue (by decide)

end Golay24128

end DvmHost

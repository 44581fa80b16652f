import DvmHost.Common.Edac.Correctness.SymbolField

/-!
# `Common.Edac.Correctness.SymbolRepair` — which corrupted symbols the decoders undo

The codec is assumed to correct every damage within half of its roots (`BoundedDistance`); the nearest codeword is
then the one sent, by the uniqueness of `Lib.HornerCode`. The decoders put the corrected data back whenever the codec
corrects, but a count of corrections that reaches their limit is refused: the last correctable pattern of each code
is corrected and reported as a failure.
-/

namespace DvmHost

open Lib Lib.HornerCode

namespace RS634717

/-! ## The codec -/

/-- The number of symbols in which two blocks differ. -/
def blockDist (y w : Nat → Sym) : Nat := hammingDist (fun i : Fin 63 => y i) (fun i : Fin 63 => w i)

/-- The block has zeros at `alpha` to the powers `1` to `nroots`. -/
def Clean (nroots : Nat) (w : Nat → Sym) : Prop := ∀ i < nroots, horner (alphaPow (i + 1)) w 63 = 0

/-- A bounded-distance decoder: a block that differs from a codeword in at least one symbol and in at most half as
    many as there are roots is corrected to the codeword, and the count is that of the symbols changed. -/
structure BoundedDistance (errata : RS.Errata) : Prop where
  corrects : ∀ nroots ≤ 16, ∀ w y : Nat → Sym, Clean nroots w → 0 < blockDist y w → 2 * blockDist y w ≤ nroots →
    ∃ out, errata nroots (fun i => ofSym (y i)) = some ((blockDist y w : Int), out) ∧ ∀ i < 63, out i = ofSym (w i)

theorem Clean.vanish {nroots : Nat} {w : Nat → Sym} (h : Clean nroots w) :
    PowerSums.Vanish place nroots (fun i : Fin 63 => w i) := vanish_iff.mpr h

/-- Codewords around one block are equal. -/
theorem Clean.eq_of_blockDist {nroots : Nat} {w w' y : Nat → Sym} (h : Clean nroots w) (h' : Clean nroots w')
    (hd : blockDist y w + blockDist y w' ≤ nroots) : ∀ i < 63, w i = w' i := by
  have heq := PowerSums.eq_of_hammingDist_le place_injective place_ne_zero h.vanish h'.vanish hd
  intro i hi
  exact congrFun heq ⟨i, hi⟩

theorem eq_of_blockDist_eq_zero {y w : Nat → Sym} (h : blockDist y w = 0) : ∀ i < 63, y i = w i := by
  have heq := hammingDist_eq_zero.mp h
  intro i hi
  exact congrFun heq ⟨i, hi⟩

/-- Symbols have no bits above the sixth. -/
theorem mask_ofSym (s : Sym) : ofSym s &&& 0xC0 = 0 ∧ ofSym s &&& 0x3F = ofSym s := by
  have h : ∀ i, ofSym (nthSym i) &&& 0xC0 = 0 ∧ ofSym (nthSym i) &&& 0x3F = ofSym (nthSym i) := by decide +kernel
  obtain ⟨i, rfl⟩ := exists_nthSym s
  exact h i

/-- The codec on a block whose syndromes do not all vanish. -/
theorem decode_of_damaged {errata : RS.Errata} {nroots : Nat} {y : Nat → Sym} {count : Int} {out : Nat → UInt8}
    (hr : nroots ≤ 16) (hy : ¬ Clean nroots y) (herr : errata nroots (fun i => ofSym (y i)) = some (count, out))
    (hcount : 0 < count) :
    RS.decode errata nroots (fun i => ofSym (y i)) = some (count, fun i =>
      if i < 63 - nroots then ofSym (y i) &&& 0xC0 ||| out i else out i) := by
  have htmp : (fun i => if i < RS.NN - nroots then ofSym (y i) &&& 0x3F else ofSym (y i)) = fun i => ofSym (y i) := by
    funext i
    split
    · exact (mask_ofSym _).2
    · rfl
  have hNN : RS.NN = 63 := rfl
  unfold RS.decode
  dsimp only
  rw [htmp, if_neg, if_neg, herr]
  · exact if_pos hcount
  · intro hclean
    apply hy
    intro i hi
    have hsyn := hclean i hi
    have hsum : RS.NN - nroots + nroots = 63 := by omega
    rw [syndromes_eq (fun _ => rfl) (by omega) (by omega), hsum] at hsyn
    exact ofSym_injective (hsyn.trans rfl)
  · rintro ⟨i, _, hne⟩
    exact hne (mask_ofSym _).1

/-- **The codec repairs** what is within half of the roots. -/
theorem decode_repair {errata : RS.Errata} (herr : BoundedDistance errata) {nroots : Nat} (hr : nroots ≤ 16)
    {y w : Nat → Sym} (hw : Clean nroots w) (hd : 2 * blockDist y w ≤ nroots) :
    ∃ out, RS.decode errata nroots (fun i => ofSym (y i)) = some ((blockDist y w : Int), out) ∧
      ∀ i < 63, out i = ofSym (w i) := by
  by_cases hzero : blockDist y w = 0
  · have heq := eq_of_blockDist_eq_zero hzero
    have hy : Clean nroots y := fun i hi => (horner_congr _ heq).trans (hw i hi)
    refine ⟨_, ?_, fun i hi => congrArg ofSym (heq i hi)⟩
    rw [hzero]
    exact decode_of_clean errata (fun _ => rfl) hr hy
  · -- the block is no codeword: it would be the one sent
    have hy : ¬ Clean nroots y := by
      intro hy
      apply hzero
      have heq := hy.eq_of_blockDist hw (y := y) (by
        have hself : blockDist y y = 0 := hammingDist_self _
        omega)
      exact hammingDist_eq_zero.mpr (funext fun i => heq i i.isLt)
    obtain ⟨out, hout, heq⟩ := herr.corrects nroots hr w y hw (by omega) hd
    refine ⟨_, decode_of_damaged hr hy hout (by omega), ?_⟩
    intro i hi
    split
    · rw [(mask_ofSym _).1, UInt8.zero_or, heq i hi]
    · exact heq i hi

/-! ## The codes -/

/-- The number of symbols in which the first `n` of two buffers differ. -/
def corrupted (n : Nat) (sent received : Bytes) : Nat :=
    ((Finset.range n).filter fun i => bin2Hex received (6 * i) ≠ bin2Hex sent (6 * i)).card

/-- The value at `x` of the polynomial of a word, whose first symbol is the leading one. -/
def evalAt (n : Nat) (word : Bytes) (x : Sym) : Sym :=
    ∑ i ∈ Finset.range n, toSym (bin2Hex word (6 * i)) * x ^ (n - 1 - i)

/-- A decoding that returns true, with the `k` data symbols of `data`. -/
def Restored (k : Nat) (data : Bytes) (decoded : Option (Bool × Bytes)) : Prop :=
    ∃ out, decoded = some (true, out) ∧ ∀ b < 6 * k, readBit out b = readBit data b

/-- A decoding that puts the `k` data symbols of `data` back but returns false. -/
def Refused (k : Nat) (data : Bytes) (decoded : Option (Bool × Bytes)) : Prop :=
    ∃ out, decoded = some (false, out) ∧ ∀ b < 6 * k, readBit out b = readBit data b

theorem Refused.not_restored {k : Nat} {data : Bytes} {decoded : Option (Bool × Bytes)}
    (h : Refused k data decoded) : ¬ Restored k data decoded := by
  obtain ⟨out, hout, -⟩ := h
  rintro ⟨out', hout', -⟩
  rw [hout] at hout'
  cases hout'

section Codes

variable {c : Code} (hv : Valid c) (data : Bytes)

include hv

/-- The symbols of an encoded word are those of the encoder's array. -/
theorem bin2Hex_encodeWith {i : Nat} (hi : i < c.n) :
    bin2Hex (encodeWith c data) (6 * i) = ofSym (codeSym data c i) := by
  rw [← codewordOf_eq hv data hi]
  have hlt : codewordOf c data i < 64 := by
    rw [codewordOf_eq hv data hi]
    exact ofSym_lt _
  obtain ⟨h0, h1⟩ := (lt_iff_bits _).mp hlt
  apply bin2Hex_eq h0 h1
  intro t ht
  have hdiv : (6 * i + t) / 6 = i := by omega
  have hmod : (6 * i + t) % 6 = t := by omega
  rw [readBit_encodeWith, if_pos (by omega), hdiv, hmod]

/-- **Encoded words have the roots of the code.** -/
theorem evalAt_encodeWith {r : Nat} (hr : r < c.nroots) : evalAt c.n (encodeWith c data) (alpha ^ (r + 1)) = 0 := by
  have hword := codeword_codeSym hv data _ (List.mem_map.mpr ⟨r, List.mem_range.mpr hr, rfl⟩)
  rw [horner_eq_sum] at hword
  refine Eq.trans (Finset.sum_congr rfl fun i hi => ?_) hword
  rw [bin2Hex_encodeWith hv data (Finset.mem_range.mp hi), toSym_ofSym, ← pow_mul, ← pow_mul, Nat.mul_comm]

omit hv in
/-- The block that the decoders give the codec: zeros before the symbols of the word. -/
def padded (c : Code) (w : Nat → Sym) (j : Nat) : Sym := if 63 - c.n ≤ j then w (j - (63 - c.n)) else 0

theorem clean_padded : Clean c.nroots (padded c (codeSym data c)) := by
  have hn := hv.n_le
  have hsplit : 63 = (63 - c.n) + c.n := by omega
  intro i hi
  have hword := codeword_codeSym hv data _ (List.mem_map.mpr ⟨i, List.mem_range.mpr hi, rfl⟩)
  have hpad : ∀ j < 63 - c.n, padded c (codeSym data c) j = 0 := fun j hj => if_neg (by omega)
  rw [hsplit, horner_pad _ hpad]
  refine (horner_congr _ fun j hj => ?_).trans hword
  have hj' : 63 - c.n + j - (63 - c.n) = j := by omega
  unfold padded
  rw [if_pos (by omega), hj']

/-- The distance of the blocks is the number of corrupted symbols. -/
theorem blockDist_padded (received : Bytes) :
    blockDist (padded c fun i => toSym (bin2Hex received (6 * i))) (padded c (codeSym data c)) =
      corrupted c.n (encodeWith c data) received := by
  have hn := hv.n_le
  have hsym : ∀ i < c.n, (toSym (bin2Hex received (6 * i)) ≠ codeSym data c i ↔
      bin2Hex received (6 * i) ≠ bin2Hex (encodeWith c data) (6 * i)) := by
    intro i hi
    rw [bin2Hex_encodeWith hv data hi, ← ofSym_toSym (bin2Hex_lt received (6 * i)), toSym_ofSym]
    exact not_congr ⟨congrArg ofSym, ofSym_injective⟩
  have hplace : ∀ i ∈ (Finset.range c.n).filter fun i =>
      bin2Hex received (6 * i) ≠ bin2Hex (encodeWith c data) (6 * i), 63 - c.n + i < 63 := by
    intro i hi
    have hlt := Finset.mem_range.mp (Finset.mem_filter.mp hi).1
    omega
  unfold blockDist hammingDist corrupted
  symm
  apply Finset.card_bij (fun i hi => (⟨63 - c.n + i, hplace i hi⟩ : Fin 63))
  · intro i hi
    obtain ⟨hrange, hne⟩ := Finset.mem_filter.mp hi
    have hlt := Finset.mem_range.mp hrange
    have hsub : 63 - c.n + i - (63 - c.n) = i := by omega
    refine Finset.mem_filter.mpr ⟨Finset.mem_univ _, ?_⟩
    unfold padded
    dsimp only
    rw [if_pos (by omega), if_pos (by omega), hsub]
    exact (hsym i hlt).mpr hne
  · intro i _ j _ h
    have hval := congrArg Fin.val h
    dsimp only at hval
    omega
  · intro j hj
    obtain ⟨-, hne⟩ := Finset.mem_filter.mp hj
    have hle : 63 - c.n ≤ j.val := by
      by_contra hlt
      apply hne
      unfold padded
      dsimp only
      rw [if_neg hlt, if_neg hlt]
    unfold padded at hne
    dsimp only at hne
    rw [if_pos hle, if_pos hle] at hne
    have hlt := j.isLt
    refine ⟨j.val - (63 - c.n), Finset.mem_filter.mpr ⟨Finset.mem_range.mpr (by omega), ?_⟩, Fin.ext (by
      dsimp only
      omega)⟩
    exact (hsym _ (by omega)).mp hne

/-- **The decoders repair** what is within half of the roots, and accept below their limit. -/
theorem decodeWith_repair {errata : RS.Errata} (herr : BoundedDistance errata) {received : Bytes}
    (hd : 2 * corrupted c.n (encodeWith c data) received ≤ c.nroots) :
    ∃ out, decodeWith errata c received =
        some (decide ((corrupted c.n (encodeWith c data) received : Int) < c.limit), out) ∧
      ∀ b < 6 * c.k, readBit out b = readBit data b := by
  have hNN : RS.NN = 63 := rfl
  have hn := hv.n_le
  have hkn := hv.k_le
  have hblock : (fun j => if RS.NN - c.n ≤ j then bin2Hex received (6 * (j - (RS.NN - c.n))) else 0x00) =
      fun j => ofSym (padded c (fun i => toSym (bin2Hex received (6 * i))) j) := by
    funext j
    unfold padded
    rw [hNN]
    split
    · exact (ofSym_toSym (bin2Hex_lt _ _)).symm
    · rfl
  rw [← blockDist_padded hv data received] at hd ⊢
  obtain ⟨out, hout, hsyms⟩ := decode_repair herr hv.nroots_le (clean_padded hv data) hd
  refine ⟨(List.range c.k).foldl (fun p i => hex2Bin (out (RS.NN - c.n + i)) p (6 * i)) received, ?_, ?_⟩
  · unfold decodeWith
    dsimp only
    rw [hblock, hout]
    refine congrArg some (Prod.ext ?_ rfl)
    dsimp only
    rw [Bool.eq_iff_iff, Bool.not_eq_true', decide_eq_false_iff_not, decide_eq_true_iff]
    omega
  · intro b hb
    have hpos : 6 * (b / 6) + b % 6 = b := Nat.div_add_mod b 6
    have hsub : RS.NN - c.n + b / 6 - (63 - c.n) = b / 6 := by omega
    rw [readBit_foldl_hex2Bin, if_pos hb, hsyms _ (by omega)]
    unfold padded
    rw [if_pos (by omega), hsub, ← codewordOf_eq hv data (by omega), codewordOf_data hv data (by omega),
      bitOf_bin2Hex _ _ (by omega), decide_eq_true (by omega), Bool.true_and, Nat.add_sub_cancel, hpos]

/-- Within half of the roots the limit decides. -/
theorem restored_iff {errata : RS.Errata} (herr : BoundedDistance errata) {received : Bytes}
    (hd : 2 * corrupted c.n (encodeWith c data) received ≤ c.nroots) :
    Restored c.k data (decodeWith errata c received) ↔
      (corrupted c.n (encodeWith c data) received : Int) < c.limit := by
  obtain ⟨out, hout, hbits⟩ := decodeWith_repair hv data herr hd
  constructor
  · rintro ⟨out', hout', -⟩
    rw [hout] at hout'
    exact of_decide_eq_true (congrArg Prod.fst (Option.some.inj hout'))
  · intro hlt
    exact ⟨out, by rw [hout, decide_eq_true hlt], hbits⟩

end Codes

/-! ## The nearest codeword -/

open Classical in
/-- The codec that searches the codeword within half of the roots. -/
noncomputable def nearest : RS.Errata := fun nroots block =>
  let y : Nat → Sym := fun i => toSym (block i)
  if h : ∃ w, Clean nroots w ∧ 2 * blockDist y w ≤ nroots then
    some ((blockDist y h.choose : Int), fun i => ofSym (h.choose i))
  else some (-1, block)

theorem nearest_eq {nroots : Nat} (block : Nat → UInt8) {w : Nat → Sym} (hw : Clean nroots w)
    (hd : 2 * blockDist (fun i => toSym (block i)) w ≤ nroots) :
    ∃ out, nearest nroots block = some ((blockDist (fun i => toSym (block i)) w : Int), out) ∧
      ∀ i < 63, out i = ofSym (w i) := by
  have hex : ∃ w, Clean nroots w ∧ 2 * blockDist (fun i => toSym (block i)) w ≤ nroots := ⟨w, hw, hd⟩
  obtain ⟨hclean, hnear⟩ := hex.choose_spec
  have heq := hclean.eq_of_blockDist hw (y := fun i => toSym (block i)) (by omega)
  refine ⟨fun i => ofSym (hex.choose i), ?_, fun i hi => congrArg ofSym (heq i hi)⟩
  have hdist : blockDist (fun i => toSym (block i)) hex.choose = blockDist (fun i => toSym (block i)) w := by
    unfold blockDist
    congr 1
    exact funext fun i => heq i i.isLt
  unfold nearest
  rw [dif_pos hex, hdist]

/-- The nearest codeword is a bounded-distance decoding. -/
theorem boundedDistance_nearest : BoundedDistance nearest := by
  refine ⟨fun nroots _ w y hw _ hd => ?_⟩
  have hsym : (fun i => toSym (ofSym (y i))) = y := funext fun i => toSym_ofSym (y i)
  have h := nearest_eq (fun i => ofSym (y i)) hw (by rwa [hsym])
  rwa [hsym] at h

/-! ## The last correctable pattern -/

/-- What is asked of a code of `n` symbols, `k` of them data, on one buffer: what is encoded has the roots `alpha` to
    `alpha ^ (n - k)`, and up to `t` corrupted symbols are undone. -/
def Repairs (n k t : Nat) (data sent received : Bytes) (decoded : Option (Bool × Bytes)) : Prop :=
    (∀ r, 1 ≤ r → r ≤ n - k → evalAt n sent (alpha ^ r) = 0) ∧
      (corrupted n sent received ≤ t → Restored k data decoded)

/-- A code that corrects `t` symbols and refuses a count of `t` fails at exactly `t`. -/
theorem repairs_iff_ne {c : Code} (hv : Valid c) {errata : RS.Errata} (herr : BoundedDistance errata) {t : Nat}
    (hroots : c.n - c.k = c.nroots) (ht : 2 * t ≤ c.nroots) (hlimit : c.limit = t) (data received : Bytes) :
    Repairs c.n c.k t data (encodeWith c data) received (decodeWith errata c received) ↔
      corrupted c.n (encodeWith c data) received ≠ t := by
  constructor
  · rintro ⟨-, hrep⟩ heq
    have hlt := (restored_iff hv data herr (by omega)).mp (hrep (by omega))
    omega
  · intro hne
    refine ⟨fun r hr hr' => ?_, fun hle => (restored_iff hv data herr (by omega)).mpr (by omega)⟩
    have hsucc : r = r - 1 + 1 := by omega
    rw [hsucc]
    exact evalAt_encodeWith hv data (by omega)

/-- **The decoders undo up to `t` corrupted symbols except exactly `t`**: the count that the codec then reports is the
    limit from which they refuse. -/
theorem repairs_iff {errata : RS.Errata} (herr : BoundedDistance errata) (data received : Bytes) :
    (Repairs 24 12 6 data (encode241213 data) received (decode241213 errata received) ↔
      corrupted 24 (encode241213 data) received ≠ 6) ∧
    (Repairs 24 16 4 data (encode24169 data) received (decode24169 errata received) ↔
      corrupted 24 (encode24169 data) received ≠ 4) ∧
    (Repairs 36 20 8 data (encode362017 data) received (decode362017 errata received) ↔
      corrupted 36 (encode362017 data) received ≠ 8) := by
  refine ⟨?_, ?_, ?_⟩
  · exact repairs_iff_ne valid_241213 herr rfl (by decide) rfl data received
  · exact repairs_iff_ne valid_24169 herr rfl (by decide) rfl data received
  · exact repairs_iff_ne valid_362017 herr rfl (by decide) rfl data received

/-- The buffer with the lowest bit of its first `t` symbols inverted. -/
def damage (t : Nat) (p : Bytes) : Bytes :=
    (List.range t).foldl (fun out i => hex2Bin (bin2Hex p (6 * i) ^^^ 0x01) out (6 * i)) p

theorem bin2Hex_damage (t : Nat) (p : Bytes) (i : Nat) :
    bin2Hex (damage t p) (6 * i) = if i < t then bin2Hex p (6 * i) ^^^ 0x01 else bin2Hex p (6 * i) := by
  have hread : ∀ k < 6, readBit (damage t p) (6 * i + k) =
      if i < t then bitOf (bin2Hex p (6 * i) ^^^ 0x01) (k + 2) else readBit p (6 * i + k) := by
    intro k hk
    have hdiv : (6 * i + k) / 6 = i := by omega
    have hmod : (6 * i + k) % 6 = k := by omega
    unfold damage
    rw [readBit_foldl_hex2Bin, hdiv, hmod]
    by_cases hi : i < t
    · rw [if_pos (by omega), if_pos hi]
    · rw [if_neg (by omega), if_neg hi]
  split
  next hi =>
    have hlt : bin2Hex p (6 * i) ^^^ 0x01 < 64 := by
      have h := bin2Hex_lt p (6 * i)
      rw [lt_iff_bits] at h ⊢
      rw [bitOf_xor, bitOf_xor, h.1, h.2]
      exact ⟨rfl, rfl⟩
    obtain ⟨h0, h1⟩ := (lt_iff_bits _).mp hlt
    apply bin2Hex_eq h0 h1
    intro k hk
    rw [hread k hk, if_pos hi]
  next hi =>
    obtain ⟨h0, h1⟩ := (lt_iff_bits _).mp (bin2Hex_lt p (6 * i))
    apply bin2Hex_eq h0 h1
    intro k hk
    rw [hread k hk, if_neg hi, bitOf_bin2Hex _ _ (by omega), decide_eq_true (by omega), Bool.true_and,
      Nat.add_sub_cancel]

theorem corrupted_damage {t n : Nat} (h : t ≤ n) (p : Bytes) : corrupted n p (damage t p) = t := by
  have hset : ((Finset.range n).filter fun i => bin2Hex (damage t p) (6 * i) ≠ bin2Hex p (6 * i)) = Finset.range t := by
    ext i
    rw [Finset.mem_filter, Finset.mem_range, Finset.mem_range, bin2Hex_damage]
    constructor
    · rintro ⟨-, hne⟩
      by_contra hi
      exact hne (if_neg hi)
    · intro hi
      refine ⟨by omega, ?_⟩
      rw [if_pos hi]
      intro heq
      have hone : bin2Hex p (6 * i) ^^^ (bin2Hex p (6 * i) ^^^ 0x01) = 0 := by rw [heq, UInt8.xor_self]
      rw [← UInt8.xor_assoc, UInt8.xor_self, UInt8.zero_xor] at hone
      exact absurd hone (by decide)
  unfold corrupted
  rw [hset, Finset.card_range]

/-- The zero words with the last correctable count of symbols corrupted. -/
theorem not_repairs_last :
    ¬ Repairs 24 12 6 (fun _ => 0x00) (encode241213 fun _ => 0x00) (damage 6 (encode241213 fun _ => 0x00))
      (decode241213 nearest (damage 6 (encode241213 fun _ => 0x00))) ∧
    ¬ Repairs 24 16 4 (fun _ => 0x00) (encode24169 fun _ => 0x00) (damage 4 (encode24169 fun _ => 0x00))
      (decode24169 nearest (damage 4 (encode24169 fun _ => 0x00))) ∧
    ¬ Repairs 36 20 8 (fun _ => 0x00) (encode362017 fun _ => 0x00) (damage 8 (encode362017 fun _ => 0x00))
      (decode362017 nearest (damage 8 (encode362017 fun _ => 0x00))) := by
  refine ⟨?_, ?_, ?_⟩
  · intro h
    exact (repairs_iff_ne valid_241213 boundedDistance_nearest rfl (by decide) rfl _ _).mp h
      (corrupted_damage (by decide) _)
  · intro h
    exact (repairs_iff_ne valid_24169 boundedDistance_nearest rfl (by decide) rfl _ _).mp h
      (corrupted_damage (by decide) _)
  · intro h
    exact (repairs_iff_ne valid_362017 boundedDistance_nearest rfl (by decide) rfl _ _).mp h
      (corrupted_damage (by decide) _)

/-- One corrupted symbol is undone. -/
theorem repairs_one : corrupted 24 (encode241213 fun _ => 0x00) (damage 1 (encode241213 fun _ => 0x00)) ≠ 6 ∧
    Repairs 24 12 6 (fun _ => 0x00) (encode241213 fun _ => 0x00) (damage 1 (encode241213 fun _ => 0x00))
      (decode241213 nearest (damage 1 (encode241213 fun _ => 0x00))) := by
  have hone := corrupted_damage (t := 1) (n := 24) (by decide) (encode241213 fun _ => 0x00)
  have hne : corrupted 24 (encode241213 fun _ => 0x00) (damage 1 (encode241213 fun _ => 0x00)) ≠ 6 := by
    rw [hone]
    decide
  exact ⟨hne, (repairs_iff boundedDistance_nearest _ _).1.mpr hne⟩

end RS634717

end DvmHost

import DvmHost.Common.Edac.Correctness.ShortCodeRepair
import DvmHost.Common.Edac.Correctness.VoiceRepair

/-!
# `Common.Edac.Correctness.GolayStream` — Golay words in a row

The array functions of `Golay24128` put two words in the place of three octets and one in the place of each octet left
over. Word `w` carries `symbol msg n w` (`getWord24_encodeArray`), so as long as each word has at most three errors
the octets come back, for every length (`decodeArray_near`).
-/

namespace DvmHost

open Lib

namespace Golay24128

/-- The words for `n` octets. -/
def words (n : Nat) : Nat := 2 * (n / 3) + n % 3

/-- The twelve bits that word `w` of a message of `n` octets carries. -/
def symbol (msg : Bytes) (n w : Nat) : Nat :=
  if w < 2 * (n / 3) then
    if w % 2 = 0 then (msg (3 * (w / 2))).toNat * 16 + (msg (3 * (w / 2) + 1)).toNat / 16
    else (msg (3 * (w / 2) + 1)).toNat % 16 * 256 + (msg (3 * (w / 2) + 2)).toNat
  else (msg (n - n % 3 + (w - 2 * (n / 3)))).toNat

theorem symbol_lt (msg : Bytes) (n w : Nat) : symbol msg n w < 4096 := by
  have hoctet : ∀ i, (msg i).toNat < 256 := fun i => (msg i).toNat_lt
  have h0 := hoctet (3 * (w / 2))
  have h1 := hoctet (3 * (w / 2) + 1)
  have h2 := hoctet (3 * (w / 2) + 2)
  have htail := hoctet (n - n % 3 + (w - 2 * (n / 3)))
  unfold symbol
  split
  · split <;> omega
  · omega

/-! ## Masks as arithmetic -/

theorem and_0xff (x : Nat) : x &&& 0xff = x % 256 := Nat.and_two_pow_sub_one_eq_mod x 8

theorem and_0x0f (x : Nat) : x &&& 0x0f = x % 16 := Nat.and_two_pow_sub_one_eq_mod x 4

/-- A sum of parts that do not meet. -/
theorem or_eq_add {a b k : Nat} (hb : b < 2 ^ k) : a * 2 ^ k ||| b = a * 2 ^ k + b := by
  rw [← Nat.shiftLeft_eq, Nat.shiftLeft_add_eq_or_of_lt hb]

/-- The first word of three octets. -/
theorem pack_first {s0 s1 : Nat} (h0 : s0 < 256) (h1 : s1 < 256) :
    (s0 <<< 4 &&& 0x0ff0) ||| (s1 >>> 4 &&& 0x000f) = s0 * 16 + s1 / 16 := by
  have hmask : s0 <<< 4 &&& 0xff <<< 4 = (s0 &&& 0xff) <<< 4 := Nat.shiftLeft_and_distrib.symm
  show s0 <<< 4 &&& 0xff <<< 4 ||| (s1 >>> 4 &&& 0x0f) = _
  rw [hmask, and_0xff, and_0x0f, Nat.shiftLeft_eq, Nat.shiftRight_eq_div_pow, or_eq_add (by omega)]
  omega

/-- The second word of three octets. -/
theorem pack_second (s1 : Nat) {s2 : Nat} (h2 : s2 < 256) :
    (s1 <<< 8 &&& 0x0f00) ||| (s2 &&& 0x00ff) = s1 % 16 * 256 + s2 := by
  have hmask : s1 <<< 8 &&& 0x0f <<< 8 = (s1 &&& 0x0f) <<< 8 := Nat.shiftLeft_and_distrib.symm
  show s1 <<< 8 &&& 0x0f <<< 8 ||| (s2 &&& 0xff) = _
  rw [hmask, and_0xff, and_0x0f, Nat.shiftLeft_eq, or_eq_add (by omega)]
  omega

/-- The octet in the middle of two words. -/
theorem unpack_middle (m0 m1 : Nat) :
    (m0 <<< 4 &&& 0xf0) ||| (m1 >>> 8 &&& 0x0f) = m0 % 16 * 16 + m1 / 256 % 16 := by
  have hmask : m0 <<< 4 &&& 0x0f <<< 4 = (m0 &&& 0x0f) <<< 4 := Nat.shiftLeft_and_distrib.symm
  show m0 <<< 4 &&& 0x0f <<< 4 ||| (m1 >>> 8 &&& 0x0f) = _
  rw [hmask, and_0x0f, and_0x0f, Nat.shiftLeft_eq, Nat.shiftRight_eq_div_pow, or_eq_add (by omega)]
  rfl

/-- A word is the number of its octets. -/
theorem getWord24_octets (raw : Bytes) (j : Nat) : getWord24 raw j =
    ((raw (j + 0)).toNat * 2 ^ 8 + (raw (j + 1)).toNat) * 2 ^ 8 + (raw (j + 2)).toNat := by
  have hmask16 : (raw j).toNat <<< 16 &&& 0xff <<< 16 = ((raw j).toNat &&& 0xff) <<< 16 :=
    Nat.shiftLeft_and_distrib.symm
  have hmask8 : (raw (j + 1)).toNat <<< 8 &&& 0xff <<< 8 = ((raw (j + 1)).toNat &&& 0xff) <<< 8 :=
    Nat.shiftLeft_and_distrib.symm
  have h0 := (raw j).toNat_lt
  have h1 := (raw (j + 1)).toNat_lt
  have h2 := (raw (j + 2)).toNat_lt
  have hregroup : (raw j).toNat * 2 ^ 16 + (raw (j + 1)).toNat * 2 ^ 8 =
      ((raw j).toNat * 2 ^ 8 + (raw (j + 1)).toNat) * 2 ^ 8 := by omega
  show (raw j).toNat <<< 16 &&& 0xff <<< 16 ||| (raw (j + 1)).toNat <<< 8 &&& 0xff <<< 8 |||
    ((raw (j + 2)).toNat &&& 0xff) = _
  rw [hmask16, hmask8, and_0xff, and_0xff, and_0xff, Nat.mod_eq_of_lt h0, Nat.mod_eq_of_lt h1, Nat.mod_eq_of_lt h2,
    Nat.shiftLeft_eq, Nat.shiftLeft_eq, or_eq_add (by omega), hregroup, or_eq_add (by omega)]
  rfl

/-- A word is the number of its bits. -/
theorem getWord24_eq (raw : Bytes) (w : Nat) :
    getWord24 raw (3 * w) = LC.packWord 24 fun j => readBit raw (24 * w + j) := by
  have hoctet : ∀ k, LC.packWord 8 (fun j => readBit raw (24 * w + (8 * k + j))) = (raw (3 * w + k)).toNat := by
    intro k
    have hpos : ∀ j, 24 * w + (8 * k + j) = 8 * (3 * w + k) + j := by
      intro j
      omega
    simp only [hpos]
    exact packWord_octet raw (3 * w + k) (by decide)
  have hfirst := hoctet 0
  simp only [Nat.mul_zero, Nat.zero_add] at hfirst
  rw [getWord24_octets, packWord_add 16 8, packWord_add 8 8, ← hoctet 1, ← hoctet 2, hfirst]

/-! ## Encoding -/

/-- Octet `k` of a word. -/
def wordOctet (v k : Nat) : UInt8 := UInt8.ofNat (v >>> (8 * (2 - k)) &&& 0xff)

theorem setWord24_apply (data : Bytes) (w v i : Nat) :
    setWord24 data (3 * w) v i = if i / 3 = w then wordOctet v (i % 3) else data i := by
  unfold setWord24 setByte wordOctet
  by_cases hw : i / 3 = w
  · rw [if_pos hw]
    rcases (by omega : i = 3 * w ∨ i = 3 * w + 1 ∨ i = 3 * w + 2) with rfl | rfl | rfl
    · rw [if_neg (by omega), if_neg (by omega), if_pos rfl, Nat.mul_mod_right]
    · rw [if_neg (by omega), if_pos rfl, Nat.mul_add_mod]
    · rw [if_pos rfl, Nat.mul_add_mod]
      rfl
  · rw [if_neg hw, if_neg (by omega), if_neg (by omega), if_neg (by omega)]

/-- **The octets of the words**, and behind them what was there. -/
theorem encodeArray24128_apply (data msg : Bytes) (n i : Nat) :
    encodeArray24128 data msg n i =
      if i / 3 < words n then wordOctet (encode24128 (symbol msg n (i / 3))) (i % 3) else data i := by
  -- the words of a turn, which the symbols are
  have hfirst : ∀ t < n / 3, ((msg (3 * t)).toNat <<< 4 &&& 0x0ff0) ||| ((msg (3 * t + 1)).toNat >>> 4 &&& 0x000f) =
      symbol msg n (2 * t) := by
    intro t ht
    have hhalf : 2 * t / 2 = t := by omega
    unfold symbol
    rw [pack_first (msg (3 * t)).toNat_lt (msg (3 * t + 1)).toNat_lt, if_pos (by omega), if_pos (by omega), hhalf]
  have hsecond : ∀ t < n / 3,
      ((msg (3 * t + 1)).toNat <<< 8 &&& 0x0f00) ||| ((msg (3 * t + 2)).toNat &&& 0x00ff) =
        symbol msg n (2 * t + 1) := by
    intro t ht
    have hhalf : (2 * t + 1) / 2 = t := by omega
    unfold symbol
    rw [pack_second _ (msg (3 * t + 2)).toNat_lt, if_pos (by omega), if_neg (by omega), hhalf]
  have hlast : ∀ t, (msg (n - n % 3 + t)).toNat = symbol msg n (2 * (n / 3) + t) := by
    intro t
    unfold symbol
    rw [if_neg (by omega), Nat.add_sub_cancel_left]
  have hpairs : ∀ m ≤ n / 3, ∀ i, (List.range m).foldl (fun data t => setWord24 (setWord24 data (6 * t)
      (encode24128 (((msg (3 * t)).toNat <<< 4 &&& 0x0ff0) ||| ((msg (3 * t + 1)).toNat >>> 4 &&& 0x000f))))
      (6 * t + 3)
      (encode24128 (((msg (3 * t + 1)).toNat <<< 8 &&& 0x0f00) ||| ((msg (3 * t + 2)).toNat &&& 0x00ff)))) data i =
        if i / 3 < 2 * m then wordOctet (encode24128 (symbol msg n (i / 3))) (i % 3) else data i := by
    intro m
    induction m with
    | zero => exact fun _ i => (if_neg (Nat.not_lt_zero _)).symm
    | succ m ih =>
        intro hm i
        have hleft : 6 * m = 3 * (2 * m) := by omega
        have hright : 3 * (2 * m) + 3 = 3 * (2 * m + 1) := by omega
        rw [List.range_succ, List.foldl_append, List.foldl_cons, List.foldl_nil, hleft, hright, setWord24_apply,
          setWord24_apply, hfirst m hm, hsecond m hm, ih (Nat.le_of_succ_le hm)]
        by_cases h1 : i / 3 = 2 * m + 1
        · rw [if_pos h1, if_pos (by omega), h1]
        · rw [if_neg h1]
          by_cases h0 : i / 3 = 2 * m
          · rw [if_pos h0, if_pos (by omega), h0]
          · rw [if_neg h0]
            by_cases hlt : i / 3 < 2 * m
            · rw [if_pos hlt, if_pos (by omega)]
            · rw [if_neg hlt, if_neg (by omega)]
  have htail : ∀ (data : Bytes) (m i : Nat), (List.range m).foldl (fun data t =>
      setWord24 data (6 * (n / 3) + 3 * t) (encode24128 (msg (n - n % 3 + t)).toNat)) data i =
        if 2 * (n / 3) ≤ i / 3 ∧ i / 3 < 2 * (n / 3) + m then wordOctet (encode24128 (symbol msg n (i / 3))) (i % 3)
        else data i := by
    intro data m
    induction m with
    | zero =>
        intro i
        rw [if_neg (by omega)]
        rfl
    | succ m ih =>
        intro i
        have hplace : 6 * (n / 3) + 3 * m = 3 * (2 * (n / 3) + m) := by omega
        rw [List.range_succ, List.foldl_append, List.foldl_cons, List.foldl_nil, hplace, setWord24_apply, hlast m, ih]
        by_cases h : i / 3 = 2 * (n / 3) + m
        · rw [if_pos h, if_pos (by omega), h]
        · rw [if_neg h]
          by_cases hlt : 2 * (n / 3) ≤ i / 3 ∧ i / 3 < 2 * (n / 3) + m
          · rw [if_pos hlt, if_pos (by omega)]
          · rw [if_neg hlt, if_neg (by omega)]
  unfold encodeArray24128 words
  dsimp only
  rw [htail, hpairs (n / 3) (Nat.le_refl _)]
  by_cases hpair : i / 3 < 2 * (n / 3)
  · rw [if_neg (by omega), if_pos hpair, if_pos (by omega)]
  · by_cases hlt : i / 3 < 2 * (n / 3) + n % 3
    · rw [if_pos ⟨Nat.not_lt.mp hpair, hlt⟩, if_pos hlt]
    · rw [if_neg (by omega), if_neg hpair, if_neg hlt]

/-- **Word `w` is the word of its symbol.** -/
theorem getWord24_encodeArray (data msg : Bytes) {n w : Nat} (hw : w < words n) :
    getWord24 (encodeArray24128 data msg n) (3 * w) = encode24128 (symbol msg n w) := by
  have hlt := encode24128_lt (symbol_lt msg n w)
  have hoctet : ∀ k < 3, (encodeArray24128 data msg n (3 * w + k)).toNat =
      encode24128 (symbol msg n w) / 2 ^ (8 * (2 - k)) % 256 := by
    intro k hk
    have hdiv : (3 * w + k) / 3 = w := by omega
    have hmod : (3 * w + k) % 3 = k := by omega
    rw [encodeArray24128_apply, hdiv, hmod, if_pos hw]
    unfold wordOctet
    rw [and_0xff, Nat.shiftRight_eq_div_pow, UInt8.toNat_ofNat', Nat.mod_mod]
  generalize encode24128 (symbol msg n w) = v at hlt hoctet
  rw [getWord24_octets, hoctet 0 (by decide), hoctet 1 (by decide), hoctet 2 (by decide)]
  omega

/-! ## Decoding -/

/-- The number of bits of word `w` that differ. -/
def wordErrors (sent received : Bytes) (w : Nat) : Nat :=
  AMBEFEC.diffs 24 (fun j => readBit received (24 * w + j)) fun j => readBit sent (24 * w + j)

/-- A word with at most three errors gives its symbol. -/
theorem decode24128_word {data msg received : Bytes} {n w : Nat} (hw : w < words n)
    (h : wordErrors (encodeArray24128 data msg n) received w ≤ 3) :
    ∃ valid, decode24128 (getWord24 received (3 * w)) = some (valid, symbol msg n w) := by
  have hsent : getWord24 (encodeArray24128 data msg n) (3 * w) = encode24128 (symbol msg n w) :=
    getWord24_encodeArray data msg hw
  have hlt : encode24128 (symbol msg n w) ^^^ getWord24 received (3 * w) < 2 ^ 24 := by
    apply Nat.xor_lt_two_pow (encode24128_lt (symbol_lt msg n w))
    rw [getWord24_eq]
    exact LC.packWord_lt 24 _
  have hweight : Gf2Division.weight 24 (encode24128 (symbol msg n w) ^^^ getWord24 received (3 * w)) ≤ 3 := by
    rw [← hsent, getWord24_eq, getWord24_eq, Nat.xor_comm, AMBEFEC.weight_packWord_xor]
    exact h
  obtain ⟨valid, hdecode⟩ := decode24128_near (symbol_lt msg n w) hlt hweight
  rw [← Nat.xor_assoc, Nat.xor_self, Nat.zero_xor] at hdecode
  exact ⟨valid, hdecode⟩

/-- The octets of a pair of words. -/
theorem symbol_octets (msg : Bytes) {n t : Nat} (ht : t < n / 3) :
    UInt8.ofNat (symbol msg n (2 * t) >>> 4 &&& 0xff) = msg (3 * t) ∧
    UInt8.ofNat ((symbol msg n (2 * t) <<< 4 &&& 0xf0) ||| (symbol msg n (2 * t + 1) >>> 8 &&& 0x0f)) =
      msg (3 * t + 1) ∧
    UInt8.ofNat (symbol msg n (2 * t + 1) &&& 0xff) = msg (3 * t + 2) := by
  have hoctet : ∀ (v : Nat) (b : UInt8), v = b.toNat → UInt8.ofNat v = b := by
    intro v b hv
    rw [hv, UInt8.ofNat_toNat]
  have h0 := (msg (3 * t)).toNat_lt
  have h1 := (msg (3 * t + 1)).toNat_lt
  have h2 := (msg (3 * t + 2)).toNat_lt
  have heven : symbol msg n (2 * t) = (msg (3 * t)).toNat * 16 + (msg (3 * t + 1)).toNat / 16 := by
    have hhalf : 2 * t / 2 = t := by omega
    unfold symbol
    rw [if_pos (by omega), if_pos (by omega), hhalf]
  have hodd : symbol msg n (2 * t + 1) = (msg (3 * t + 1)).toNat % 16 * 256 + (msg (3 * t + 2)).toNat := by
    have hhalf : (2 * t + 1) / 2 = t := by omega
    unfold symbol
    rw [if_pos (by omega), if_neg (by omega), hhalf]
  refine ⟨hoctet _ _ ?_, hoctet _ _ ?_, hoctet _ _ ?_⟩
  · rw [and_0xff, Nat.shiftRight_eq_div_pow, heven]
    omega
  · rw [unpack_middle, heven, hodd]
    omega
  · rw [and_0xff, hodd]
    omega

/-- **The array functions undo each other** for every length, as long as no word has more than three errors. -/
theorem decodeArray_near {data msg received : Bytes} {n : Nat}
    (h : ∀ w < words n, wordErrors (encodeArray24128 data msg n) received w ≤ 3) (out : Bytes) :
    ∃ decoded, decodeArray24128 out received n = some decoded ∧ ∀ i, decoded i = if i < n then msg i else out i := by
  have hword : ∀ w < words n, ∃ valid, decode24128 (getWord24 received (3 * w)) = some (valid, symbol msg n w) :=
    fun w hw => decode24128_word hw (h w hw)
  let pair : Bytes → Nat → Bytes := fun out t =>
    setByte (setByte (setByte out (3 * t) (msg (3 * t))) (3 * t + 1) (msg (3 * t + 1))) (3 * t + 2) (msg (3 * t + 2))
  let single : Bytes → Nat → Bytes := fun out t => setByte out (n - n % 3 + t) (msg (n - n % 3 + t))
  have hpairs : ∀ m i, (List.range m).foldl pair out i = if i < 3 * m then msg i else out i := by
    intro m
    induction m with
    | zero => exact fun i => (if_neg (Nat.not_lt_zero _)).symm
    | succ m ih =>
        intro i
        rw [List.range_succ, List.foldl_append, List.foldl_cons, List.foldl_nil]
        show setByte (setByte (setByte _ _ _) _ _) _ _ i = _
        unfold setByte
        by_cases h2 : i = 3 * m + 2
        · rw [if_pos h2, if_pos (by omega), h2]
        · rw [if_neg h2]
          by_cases h1 : i = 3 * m + 1
          · rw [if_pos h1, if_pos (by omega), h1]
          · rw [if_neg h1]
            by_cases h0 : i = 3 * m
            · rw [if_pos h0, if_pos (by omega), h0]
            · rw [if_neg h0, ih]
              by_cases hlt : i < 3 * m
              · rw [if_pos hlt, if_pos (by omega)]
              · rw [if_neg hlt, if_neg (by omega)]
  have hsingles : ∀ (out : Bytes) (m i : Nat), (List.range m).foldl single out i =
      if n - n % 3 ≤ i ∧ i < n - n % 3 + m then msg i else out i := by
    intro out m
    induction m with
    | zero =>
        intro i
        rw [if_neg (by omega)]
        rfl
    | succ m ih =>
        intro i
        rw [List.range_succ, List.foldl_append, List.foldl_cons, List.foldl_nil]
        show setByte _ _ _ i = _
        unfold setByte
        by_cases hi : i = n - n % 3 + m
        · rw [if_pos hi, if_pos (by omega), hi]
        · rw [if_neg hi, ih]
          by_cases hlt : n - n % 3 ≤ i ∧ i < n - n % 3 + m
          · rw [if_pos hlt, if_pos (by omega)]
          · rw [if_neg hlt, if_neg (by omega)]
  refine ⟨(List.range (n % 3)).foldl single ((List.range (n / 3)).foldl pair out), ?_, fun i => ?_⟩
  · unfold decodeArray24128
    rw [LC.foldlM_some (g := pair) fun t ht out => ?_]
    · refine LC.foldlM_some (g := single) (fun t ht out => ?_) _
      have hlt := List.mem_range.mp ht
      have hplace : 6 * (n / 3) + 3 * t = 3 * (2 * (n / 3) + t) := by omega
      obtain ⟨valid, hdecode⟩ := hword (2 * (n / 3) + t) (by unfold words; omega)
      have hsymbol : symbol msg n (2 * (n / 3) + t) = (msg (n - n % 3 + t)).toNat := by
        unfold symbol
        rw [if_neg (by omega), Nat.add_sub_cancel_left]
      have hoctet := (msg (n - n % 3 + t)).toNat_lt
      dsimp only
      rw [hplace, hdecode, Option.bind_eq_bind, Option.bind_some, hsymbol, and_0xff, Nat.mod_eq_of_lt hoctet,
        UInt8.ofNat_toNat]
    · have hlt := List.mem_range.mp ht
      have hleft : 6 * t = 3 * (2 * t) := by omega
      have hright : 3 * (2 * t) + 3 = 3 * (2 * t + 1) := by omega
      obtain ⟨valid0, hdecode0⟩ := hword (2 * t) (by unfold words; omega)
      obtain ⟨valid1, hdecode1⟩ := hword (2 * t + 1) (by unfold words; omega)
      obtain ⟨ho0, ho1, ho2⟩ := symbol_octets msg hlt
      dsimp only
      rw [hleft, hright, hdecode0, hdecode1, Option.bind_eq_bind, Option.bind_some, Option.bind_some]
      dsimp only
      rw [ho0, ho1, ho2]
  · rw [hsingles, hpairs]
    by_cases hfront : i < 3 * (n / 3)
    · rw [if_neg (by omega), if_pos hfront, if_pos (by omega)]
    · by_cases hlt : i < n
      · rw [if_pos (by omega), if_pos hlt]
      · rw [if_neg (by omega), if_neg hfront, if_neg hlt]

end Golay24128

end DvmHost

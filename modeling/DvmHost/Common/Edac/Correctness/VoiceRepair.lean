import DvmHost.Common.Edac.AMBEFEC
import DvmHost.Common.P25.Lc.Correctness.FrameCoding

/-!
# `Common.Edac.Correctness.VoiceRepair` — which errors `regenerateIMBE` takes out of a voice frame

A Golay word is written back with the zero that the table has behind it, which falls on the first bit of the word
that follows. The four words behind a Golay word are therefore decoded with their first bit set to zero: one more
wrong bit, when it should be one. Each word is right after its turn when it had no more wrong bits than its code
corrects (`fixGolay_spec`, `decode15113_iff`), so the frame is restored unless that one bit was too much
(`regenerateIMBE_iff`).
-/

namespace DvmHost

open Lib

namespace AMBEFEC

/-! ## Words that differ -/

/-- The number of the first `n` bits that differ. -/
def diffs (n : Nat) (a b : Bits) : Nat := ((List.range n).filter fun j => a j ^^ b j).length

theorem diffs_congr {n : Nat} {a a' b b' : Bits} (ha : ∀ j < n, a j = a' j) (hb : ∀ j < n, b j = b' j) :
    diffs n a b = diffs n a' b' := by
  unfold diffs
  refine congrArg _ (List.filter_congr fun j hj => ?_)
  have hlt := List.mem_range.mp hj
  rw [ha j hlt, hb j hlt]

theorem diffs_eq_zero_iff {n : Nat} {a b : Bits} : diffs n a b = 0 ↔ ∀ j < n, a j = b j := by
  unfold diffs
  rw [List.length_eq_zero_iff, List.filter_eq_nil_iff]
  constructor
  · intro h j hj
    simpa using h j (List.mem_range.mpr hj)
  · intro h j hj
    simpa using h j (List.mem_range.mp hj)

/-- The first bit, and the others. -/
theorem diffs_succ (n : Nat) (a b : Bits) :
    diffs (n + 1) a b = (a 0 ^^ b 0).toNat + diffs n (fromBit 1 a) (fromBit 1 b) := by
  have hrest : ((List.map Nat.succ (List.range n)).filter fun j => a j ^^ b j).length =
      diffs n (fromBit 1 a) (fromBit 1 b) := by
    unfold diffs fromBit
    rw [List.filter_map, List.length_map]
    refine congrArg _ (List.filter_congr fun j _ => ?_)
    rw [Function.comp_apply, Nat.succ_eq_add_one, Nat.add_comm]
  rw [← hrest]
  unfold diffs
  rw [List.range_succ_eq_map, List.filter_cons]
  cases a 0 ^^ b 0
  · rw [if_neg Bool.false_ne_true, Bool.toNat_false, Nat.zero_add]
  · rw [if_pos rfl, List.length_cons, Bool.toNat_true, Nat.add_comm]

theorem diffs_le_succ (n : Nat) (a b : Bits) : diffs n a b ≤ diffs (n + 1) a b := by
  unfold diffs
  rw [List.range_succ, List.filter_append, List.length_append]
  exact Nat.le_add_right _ _

theorem diffs_le_one_iff {n : Nat} {a b : Bits} : diffs n a b ≤ 1 ↔ ∃ p, ∀ j < n, j ≠ p → a j = b j := by
  have hmem : ∀ j, j ∈ (List.range n).filter (fun j => a j ^^ b j) ↔ j < n ∧ a j ≠ b j := by
    intro j
    rw [List.mem_filter, List.mem_range]
    simp
  unfold diffs
  constructor
  · intro h
    rcases hl : (List.range n).filter (fun j => a j ^^ b j) with _ | ⟨p, _ | ⟨q, l⟩⟩
    · refine ⟨0, fun j hj _ => ?_⟩
      by_contra hne
      exact List.not_mem_nil (hl ▸ (hmem j).mpr ⟨hj, hne⟩)
    · refine ⟨p, fun j hj hjp => ?_⟩
      by_contra hne
      exact hjp (List.mem_singleton.mp (hl ▸ (hmem j).mpr ⟨hj, hne⟩))
    · rw [hl] at h
      simp at h
  · rintro ⟨p, hp⟩
    have hsub : (List.range n).filter (fun j => a j ^^ b j) ⊆ [p] := by
      intro j hj
      obtain ⟨hlt, hne⟩ := (hmem j).mp hj
      by_contra hjp
      exact hne (hp j hlt fun he => hjp (he ▸ List.mem_cons_self))
    exact (List.subperm_of_subset (List.nodup_range.filter _) hsub).length_le

theorem weight_packWord_xor (n : Nat) (a b : Bits) :
    Gf2Division.weight n (LC.packWord n a ^^^ LC.packWord n b) = diffs n a b := by
  rw [← LC.packWord_xor, LC.weight_packWord]
  rfl

/-! ## Golay words -/

/-- The first 23 bits are a word of the (23,12,7) code. -/
def GolayWord (w : Bits) : Prop := Golay24128.syndrome (LC.packWord 23 w) = 0

/-- **What correcting a Golay word does.** The bit behind it is cleared and no other changes; the word is the
    nearest codeword, so it is right when at most three bits were wrong, and only then. -/
theorem fixGolay_spec (bit : Nat) (temp : Bits) :
    ∃ data temp', fixGolay bit temp = some (data, temp') ∧ temp' (bit + 23) = false ∧
      (∀ i, i < bit ∨ bit + 23 < i → temp' i = temp i) ∧
      ∀ w, GolayWord w → ((∀ j < 23, temp' (bit + j) = w j) ↔ diffs 23 (fromBit bit temp) w ≤ 3) ∧
        ((∀ j < 23, temp' (bit + j) = w j) → data = LC.packWord 23 w >>> 11) := by
  have hlt := LC.packWord_lt 23 (fromBit bit temp)
  obtain ⟨hdecode, hencode⟩ := Golay24128.decode23127_eq hlt
  generalize hr : LC.packWord 23 (fromBit bit temp) = r at hlt hdecode hencode
  refine ⟨Golay24128.nearest r >>> 11, atBit bit (LC.unpackWord 24 (2 * Golay24128.nearest r)) temp,
    ?_, ?_, ?_, ?_⟩
  · unfold fixGolay
    dsimp only
    rw [hr, hdecode, Option.bind_eq_bind, Option.bind_some, hencode]
  · unfold atBit
    rw [if_neg (by omega), Nat.add_sub_cancel_left, LC.unpackWord_apply, if_pos (by decide), Nat.testBit_zero]
    exact decide_eq_false (by omega)
  · intro i hi
    unfold atBit
    rcases hi with hbefore | hbehind
    · rw [if_pos hbefore]
    · have hpos : bit + (i - bit) = i := by omega
      rw [if_neg (by omega), LC.unpackWord_apply, if_neg (by omega), fromBit, hpos]
  · intro w hw
    have hwlt := LC.packWord_lt 23 w
    -- the bits written are those of the nearest codeword
    have hbits : ∀ j < 23, atBit bit (LC.unpackWord 24 (2 * Golay24128.nearest r)) temp (bit + j) =
        (Golay24128.nearest r).testBit (22 - j) := by
      intro j hj
      have hpos : 24 - 1 - j = 22 - j + 1 := by omega
      unfold atBit
      rw [if_neg (by omega), Nat.add_sub_cancel_left, LC.unpackWord_apply, if_pos (by omega), hpos,
        Nat.testBit_succ, Nat.mul_div_cancel_left _ (by decide)]
    have hword : (∀ j < 23, atBit bit (LC.unpackWord 24 (2 * Golay24128.nearest r)) temp (bit + j) = w j) ↔
        Golay24128.nearest r = LC.packWord 23 w := by
      constructor
      · intro h
        rw [← LC.packWord_unpackWord (Golay24128.nearest_lt hlt) w]
        refine LC.packWord_congr fun j hj => ?_
        rw [LC.unpackWord_apply, if_pos hj, ← h j hj, hbits j hj]
      · intro h j hj
        have hpos : 22 - (22 - j) = j := by omega
        rw [hbits j hj, h, LC.testBit_packWord, decide_eq_true (by omega), Bool.true_and, hpos]
    rw [hword, Golay24128.nearest_eq_iff hlt hwlt hw, ← hr, weight_packWord_xor]
    refine ⟨Iff.rfl, fun hlight => ?_⟩
    have hnear := (Golay24128.nearest_eq_iff hlt hwlt hw).mpr (by rw [← hr, weight_packWord_xor]; exact hlight)
    rw [hr, hnear]

/-! ## Hamming words -/

/-- The first fifteen bits are a word of the (15,11,3) code. -/
def HammingWord (w : Bits) : Prop := ParityCode.syndrome w 11 Hamming.checks15113_1 = 0

/-- **What correcting a Hamming word does.** It is right when at most one bit was wrong, and only then. -/
theorem decode15113_1_iff {d w : Bits} (hw : HammingWord w) :
    (∀ j < 15, (Hamming.decode15113_1 d).2 j = w j) ↔ diffs 15 d w ≤ 1 := by
  have hdata : ∀ idx ∈ Hamming.checks15113_1, ∀ i ∈ idx, i < 15 := by decide
  -- the word behind its fifteen bits is of no matter
  generalize hc : (fun i => if i < 15 then w i else d i : Bits) = c
  have hcw : ∀ i < 15, c i = w i := by
    intro i hi
    rw [← hc]
    exact if_pos hi
  have hcsyn : ParityCode.syndrome c 11 Hamming.checks15113_1 = 0 :=
    (ParityCode.syndrome_congr hdata (by decide) hcw).trans hw
  constructor
  · intro h
    obtain ⟨p, -, hkeep⟩ := ParityCode.decode_of_ne (k := 11) (n := 15)
      (by decide : ∀ e ∈ Hamming.table15113_1, e.2 < 15) (by decide) d
    refine diffs_le_one_iff.mpr ⟨p, fun j hj hne => ?_⟩
    rw [← h j hj]
    exact (hkeep j hne).symm
  · intro h
    obtain ⟨p, hp⟩ := diffs_le_one_iff.mp h
    obtain ⟨q, hq, hnear⟩ : ∃ q < 15, ∀ i, i ≠ q → d i = c i := by
      rcases Nat.lt_or_ge p 15 with hlt | hge
      · refine ⟨p, hlt, fun i hi => ?_⟩
        rw [← hc]
        dsimp only
        split
        · next hin => exact hp i hin hi
        · rfl
      · refine ⟨0, by decide, fun i _ => ?_⟩
        rw [← hc]
        dsimp only
        split
        · next hin => exact hp i hin (by omega)
        · rfl
    have hdecode : (Hamming.decode15113_1 d).2 = c :=
      ParityCode.decode_near Hamming.corrects15113_1 hcsyn hq hnear
    intro j hj
    rw [hdecode, hcw j hj]

theorem decode15113_1_above (d : Bits) {i : Nat} (hi : 15 ≤ i) : (Hamming.decode15113_1 d).2 i = d i := by
  obtain ⟨p, hp, hkeep⟩ := ParityCode.decode_of_ne (k := 11) (n := 15)
    (by decide : ∀ e ∈ Hamming.table15113_1, e.2 < 15) (by decide) d
  exact hkeep i (by omega)

/-- What `decode15113_1` does behind a pointer. -/
theorem atBit_decode15113_1 (bit : Nat) (temp : Bits) :
    (∀ i, i < bit ∨ bit + 15 ≤ i → atBit bit (fun d => (Hamming.decode15113_1 d).2) temp i = temp i) ∧
      ∀ w, HammingWord w → ((∀ j < 15, atBit bit (fun d => (Hamming.decode15113_1 d).2) temp (bit + j) = w j) ↔
        diffs 15 (fromBit bit temp) w ≤ 1) := by
  constructor
  · intro i hi
    unfold atBit
    rcases hi with hbefore | hbehind
    · rw [if_pos hbefore]
    · have hpos : bit + (i - bit) = i := by omega
      rw [if_neg (by omega)]
      dsimp only
      rw [decode15113_1_above _ (by omega), fromBit, hpos]
  · intro w hw
    rw [← decode15113_1_iff hw]
    refine forall₂_congr fun j _ => ?_
    unfold atBit
    rw [if_neg (by omega), Nat.add_sub_cancel_left]

/-! ## One word after the other -/

theorem fromBit_fromBit (a b : Nat) (t : Bits) : fromBit b (fromBit a t) = fromBit (a + b) t := by
  funext i
  unfold fromBit
  rw [Nat.add_assoc]

/-- The wrong bits of a word whose first bit may have been overwritten. -/
theorem diffs_word {bit n : Nat} {temp received p : Bits}
    (h : ∀ i, bit < i → temp i = received i) :
    diffs (n + 1) (fromBit bit temp) (fromBit bit p) =
      (temp bit ^^ p bit).toNat + diffs n (fromBit (bit + 1) received) (fromBit (bit + 1) p) := by
  rw [diffs_succ, fromBit_fromBit, fromBit_fromBit]
  refine congrArg₂ _ rfl (diffs_congr (fun j _ => ?_) fun _ _ => rfl)
  exact h _ (by omega)

/-- A Golay word in its turn: those behind it have only lost one bit. -/
theorem fixGolay_turn (bit : Nat) {temp received p : Bits} (hword : GolayWord (fromBit bit p))
    (h : ∀ i, bit < i → temp i = received i) :
    ∃ data temp', fixGolay bit temp = some (data, temp') ∧ temp' (bit + 23) = false ∧
      (∀ i < bit, temp' i = temp i) ∧ (∀ i, bit + 23 < i → temp' i = received i) ∧
      ((∀ j < 23, temp' (bit + j) = p (bit + j)) ↔
        (temp bit ^^ p bit).toNat + diffs 22 (fromBit (bit + 1) received) (fromBit (bit + 1) p) ≤ 3) := by
  obtain ⟨data, temp', hfix, hzero, hkeep, hright⟩ := fixGolay_spec bit temp
  refine ⟨data, temp', hfix, hzero, fun i hi => hkeep i (Or.inl hi), fun i hi => ?_, ?_⟩
  · rw [hkeep i (Or.inr hi), h i (by omega)]
  · rw [← diffs_word h]
    exact (hright _ hword).1

/-- A Hamming word in its turn. -/
theorem decode15113_1_turn (bit : Nat) {temp received p : Bits} (hword : HammingWord (fromBit bit p))
    (h : ∀ i, bit < i → temp i = received i) :
    (∀ i < bit, atBit bit (fun d => (Hamming.decode15113_1 d).2) temp i = temp i) ∧
      (∀ i, bit + 15 ≤ i → atBit bit (fun d => (Hamming.decode15113_1 d).2) temp i = received i) ∧
      ((∀ j < 15, atBit bit (fun d => (Hamming.decode15113_1 d).2) temp (bit + j) = p (bit + j)) ↔
        (temp bit ^^ p bit).toNat + diffs 14 (fromBit (bit + 1) received) (fromBit (bit + 1) p) ≤ 1) := by
  obtain ⟨hkeep, hright⟩ := atBit_decode15113_1 bit temp
  refine ⟨fun i hi => hkeep i (Or.inl hi), fun i hi => ?_, ?_⟩
  · rw [hkeep i (Or.inr hi), h i (by omega)]
  · rw [← diffs_word h]
    exact hright _ hword

/-! ## Frames -/

/-- The data of the first word, which seed the whitening. -/
def seed (f : Bits) : Nat := LC.packWord 23 f >>> 11

/-- The bits without the whitening. -/
def plain (f : Bits) : Bits := whiten (seed f) f

/-- A frame whose words are words of their codes. -/
structure ValidIMBE (frame : Bytes) : Prop where
  golay : ∀ bit ∈ [0, 23, 46, 69], GolayWord (fromBit bit (plain (deinterleave frame)))
  hamming : ∀ bit ∈ [92, 107, 122], HammingWord (fromBit bit (plain (deinterleave frame)))

/-- The number of flipped bits among the `n` from `bit` on. -/
def flipped (sent received : Bytes) (bit n : Nat) : Nat :=
  diffs n (fromBit bit (deinterleave received)) (fromBit bit (deinterleave sent))

/-- No word has more flipped bits than its code corrects, and the bits without a code have none. -/
structure Correctable (sent received : Bytes) : Prop where
  golay : ∀ bit ∈ [0, 23, 46, 69], flipped sent received bit 23 ≤ 3
  hamming : ∀ bit ∈ [92, 107, 122], flipped sent received bit 15 ≤ 1
  uncoded : flipped sent received 137 7 = 0

/-- The first bit of a word as it is when it is overwritten: behind the first word the whitening is still on. -/
def firstBit (f : Bits) (bit : Nat) : Bool := if bit = 23 then f bit else plain f bit

/-- No word loses a one as its first bit when its other bits have all the errors its code corrects. -/
structure Spared (sent received : Bytes) : Prop where
  golay : ∀ bit ∈ [23, 46, 69], firstBit (deinterleave sent) bit = true → flipped sent received (bit + 1) 22 < 3
  hamming : firstBit (deinterleave sent) 92 = true → flipped sent received 93 14 < 1

theorem whiten_whiten (c : Nat) (t : Bits) : whiten c (whiten c t) = t := by
  funext i
  unfold whiten
  split
  · rw [Bool.xor_assoc, Bool.xor_self, Bool.xor_false]
  · rfl

theorem whiten_inj {c : Nat} {t t' : Bits} {i : Nat} : whiten c t i = whiten c t' i ↔ t i = t' i := by
  unfold whiten
  split
  · exact Bool.xor_left_inj
  · exact Iff.rfl

/-- Whitening hides no flipped bit and makes none. -/
theorem diffs_whiten (c n bit : Nat) (t t' : Bits) :
    diffs n (fromBit bit (whiten c t)) (fromBit bit (whiten c t')) = diffs n (fromBit bit t) (fromBit bit t') := by
  unfold diffs
  refine congrArg _ (List.filter_congr fun j _ => ?_)
  unfold fromBit whiten
  split
  · cases t (bit + j) <;> cases t' (bit + j) <;> cases prn c (bit + j - 23) <;> rfl
  · rfl

/-- A word that is decoded without its first bit is right unless that was one and the others have all the errors
    its code corrects. -/
theorem spared_iff {r : Nat} {b : Bool} {first others : Nat} (hall : first + others ≤ r) :
    (b.toNat + others ≤ r) ↔ (b = true → others < r) := by
  cases b
  · simp only [Bool.toNat_false, Bool.false_eq_true, false_implies, iff_true]
    omega
  · simp only [Bool.toNat_true, forall_const]
    omega

/-- The flipped bits of a word are its first bit and the others. -/
theorem flipped_succ (sent received : Bytes) (bit n : Nat) :
    flipped sent received bit (n + 1) =
      (deinterleave received bit ^^ deinterleave sent bit).toNat + flipped sent received (bit + 1) n :=
  diffs_word fun _ _ => rfl

theorem whiten_of_lt (c : Nat) (t : Bits) {i : Nat} (hi : i < 23) : whiten c t i = t i := if_neg (by omega)

theorem plain_of_lt {f : Bits} {i : Nat} (hi : i < 23) : plain f i = f i := whiten_of_lt (seed f) f hi

/-- **The first word.** It is repaired, and its data seed the whitening. -/
theorem fixGolay_first {sent received : Bytes} (hv : ValidIMBE sent) (hc : Correctable sent received) :
    ∃ temp, fixGolay 0 (deinterleave received) = some (seed (deinterleave sent), temp) ∧ temp 23 = false ∧
      (∀ i < 23, temp i = deinterleave sent i) ∧ ∀ i, 23 < i → temp i = deinterleave received i := by
  obtain ⟨data, temp, hfix, hzero, hkeep, hright⟩ := fixGolay_spec 0 (deinterleave received)
  obtain ⟨hiff, hdata⟩ := hright _ (hv.golay 0 (by decide))
  have hfirst : ∀ j < 23, fromBit 0 (plain (deinterleave sent)) j = deinterleave sent j := by
    intro j hj
    unfold fromBit
    rw [Nat.zero_add, plain_of_lt hj]
  have hsent : ∀ j < 23, fromBit 0 (plain (deinterleave sent)) j = fromBit 0 (deinterleave sent) j := by
    intro j hj
    rw [hfirst j hj]
    unfold fromBit
    rw [Nat.zero_add]
  have hfew : diffs 23 (fromBit 0 (deinterleave received)) (fromBit 0 (plain (deinterleave sent))) ≤ 3 := by
    rw [diffs_congr (fun _ _ => rfl) hsent]
    exact hc.golay 0 (by decide)
  have hword := hiff.mpr hfew
  refine ⟨temp, ?_, hzero, fun i hi => ?_, fun i hi => hkeep i (Or.inr (by omega))⟩
  · rw [hfix, hdata hword]
    unfold seed
    rw [LC.packWord_congr hfirst]
  · have h := hword i hi
    rwa [Nat.zero_add, hfirst i hi] at h

/-- The bits of a frame are right when those of each word are right after its turn. -/
theorem forall_lt_144_iff {t p : Bits} (hfirst : ∀ i < 23, t i = p i) (hlast : ∀ i, 107 ≤ i → i < 144 → t i = p i) :
    (∀ i < 144, t i = p i) ↔ (∀ j < 23, t (23 + j) = p (23 + j)) ∧ (∀ j < 23, t (46 + j) = p (46 + j)) ∧
      (∀ j < 23, t (69 + j) = p (69 + j)) ∧ ∀ j < 15, t (92 + j) = p (92 + j) := by
  constructor
  · intro h
    exact ⟨fun j hj => h _ (by omega), fun j hj => h _ (by omega), fun j hj => h _ (by omega),
      fun j hj => h _ (by omega)⟩
  · rintro ⟨h1, h2, h3, h4⟩ i hi
    have hwhere : i < 23 ∨ (∃ j < 23, i = 23 + j) ∨ (∃ j < 23, i = 46 + j) ∨ (∃ j < 23, i = 69 + j) ∨
        (∃ j < 15, i = 92 + j) ∨ 107 ≤ i := by
      by_cases h23 : i < 23
      · exact Or.inl h23
      by_cases h46 : i < 46
      · exact Or.inr (Or.inl ⟨i - 23, by omega, by omega⟩)
      by_cases h69 : i < 69
      · exact Or.inr (Or.inr (Or.inl ⟨i - 46, by omega, by omega⟩))
      by_cases h92 : i < 92
      · exact Or.inr (Or.inr (Or.inr (Or.inl ⟨i - 69, by omega, by omega⟩)))
      by_cases h107 : i < 107
      · exact Or.inr (Or.inr (Or.inr (Or.inr (Or.inl ⟨i - 92, by omega, by omega⟩))))
      · exact Or.inr (Or.inr (Or.inr (Or.inr (Or.inr (by omega)))))
    rcases hwhere with h | ⟨j, hj, rfl⟩ | ⟨j, hj, rfl⟩ | ⟨j, hj, rfl⟩ | ⟨j, hj, rfl⟩ | h
    · exact hfirst i h
    · exact h1 j hj
    · exact h2 j hj
    · exact h3 j hj
    · exact h4 j hj
    · exact hlast i h hi

/-- **The bits that come out** are those that were sent, when every word was spared, and only then. -/
theorem fixIMBE_iff {sent received : Bytes} (hv : ValidIMBE sent) (hc : Correctable sent received) :
    ∃ temp, fixIMBE (deinterleave received) = some temp ∧
      ((∀ i < 144, temp i = deinterleave sent i) ↔ Spared sent received) := by
  obtain ⟨t0, hfix0, hzero0, hword0, hrest0⟩ := fixGolay_first hv hc
  have hflip : ∀ bit n, diffs n (fromBit bit (whiten (seed (deinterleave sent)) (deinterleave received)))
      (fromBit bit (plain (deinterleave sent))) = flipped sent received bit n := fun bit n =>
    diffs_whiten _ n bit _ _
  generalize hf : deinterleave sent = f at *
  generalize ho : deinterleave received = o at *
  generalize hw : whiten (seed f) o = w at *
  have h1 : ∀ i, 23 < i → whiten (seed f) t0 i = w i := fun i hi => by
    rw [← hw]
    exact whiten_inj.mpr (hrest0 i hi)
  obtain ⟨_, t1, hfix1, hzero1, hkeep1, hrest1, hright1⟩ := fixGolay_turn 23 (hf ▸ hv.golay 23 (by decide)) h1
  obtain ⟨_, t2, hfix2, hzero2, hkeep2, hrest2, hright2⟩ := fixGolay_turn 46 (hf ▸ hv.golay 46 (by decide)) hrest1
  obtain ⟨_, t3, hfix3, hzero3, hkeep3, hrest3, hright3⟩ := fixGolay_turn 69 (hf ▸ hv.golay 69 (by decide)) hrest2
  unfold fixIMBE
  rw [hfix0, Option.bind_eq_bind, Option.bind_some]
  dsimp only
  rw [hfix1, Option.bind_some]
  dsimp only
  rw [hfix2, Option.bind_some]
  dsimp only
  rw [hfix3, Option.bind_some]
  refine ⟨_, rfl, ?_⟩
  dsimp only
  obtain ⟨hkeep4, hrest4, hright4⟩ := decode15113_1_turn 92 (hf ▸ hv.hamming 92 (by decide)) hrest3
  generalize atBit 92 (fun d => (Hamming.decode15113_1 d).2) t3 = t4 at *
  obtain ⟨hkeep5, hrest5, hright5⟩ :=
    decode15113_1_turn 107 (hf ▸ hv.hamming 107 (by decide)) fun i hi => hrest4 i (by omega)
  generalize atBit 107 (fun d => (Hamming.decode15113_1 d).2) t4 = t5 at *
  obtain ⟨hkeep6, hrest6, hright6⟩ :=
    decode15113_1_turn 122 (hf ▸ hv.hamming 122 (by decide)) fun i hi => hrest5 i (by omega)
  generalize atBit 122 (fun d => (Hamming.decode15113_1 d).2) t5 = t6 at *
  have hrestored : (∀ i < 144, whiten (seed f) t6 i = f i) ↔ ∀ i < 144, t6 i = plain f i := by
    refine forall₂_congr fun i _ => ?_
    have hback : f i = whiten (seed f) (plain f) i := congrFun (whiten_whiten (seed f) f).symm i
    rw [hback]
    exact whiten_inj
  -- the words that are always right
  have hfirst : ∀ i < 23, t6 i = plain f i := by
    intro i hi
    rw [hkeep6 i (by omega), hkeep5 i (by omega), hkeep4 i (by omega), hkeep3 i (by omega), hkeep2 i (by omega),
      hkeep1 i hi, plain_of_lt hi, ← hword0 i hi]
    exact whiten_of_lt (seed f) t0 hi
  have hlast : ∀ i, 107 ≤ i → i < 144 → t6 i = plain f i := by
    intro i hlow hhigh
    rcases Nat.lt_or_ge i 122 with h122 | h122
    · have hword := hright5.mpr (by
        rw [hrest4 107 (by decide), ← diffs_word fun _ _ => rfl, hflip]
        exact hc.hamming 107 (by decide)) (i - 107) (by omega)
      rw [Nat.add_sub_cancel' hlow] at hword
      rw [hkeep6 i h122, hword]
    · rcases Nat.lt_or_ge i 137 with h137 | h137
      · have hword := hright6.mpr (by
          rw [hrest5 122 (by decide), ← diffs_word fun _ _ => rfl, hflip]
          exact hc.hamming 122 (by decide)) (i - 122) (by omega)
        rwa [Nat.add_sub_cancel' h122] at hword
      · have huncoded := diffs_eq_zero_iff.mp ((hflip 137 7).trans hc.uncoded) (i - 137) (by omega)
        unfold fromBit at huncoded
        rw [Nat.add_sub_cancel' h137] at huncoded
        rw [hrest6 i h137, huncoded]
  -- the words whose first bit was overwritten
  have hlead1 : (whiten (seed f) t0 23 ^^ plain f 23) = firstBit f 23 := by
    unfold plain whiten firstBit
    rw [if_pos (by decide), if_pos (by decide), if_pos rfl, hzero0]
    cases f 23 <;> cases prn (seed f) (23 - 23) <;> rfl
  rw [hlead1, hflip, spared_iff (flipped_succ sent received 23 22 ▸ hc.golay 23 (by decide))] at hright1
  rw [hzero1, Bool.false_xor, hflip, spared_iff (flipped_succ sent received 46 22 ▸ hc.golay 46 (by decide))]
    at hright2
  rw [hzero2, Bool.false_xor, hflip, spared_iff (flipped_succ sent received 69 22 ▸ hc.golay 69 (by decide))]
    at hright3
  rw [hzero3, Bool.false_xor, hflip, spared_iff (flipped_succ sent received 92 14 ▸ hc.hamming 92 (by decide))]
    at hright4
  have hturn1 : (∀ j < 23, t6 (23 + j) = plain f (23 + j)) ↔ ∀ j < 23, t1 (23 + j) = plain f (23 + j) :=
    forall₂_congr fun j hj => by
      rw [hkeep6 _ (by omega), hkeep5 _ (by omega), hkeep4 _ (by omega), hkeep3 _ (by omega),
        hkeep2 _ (by omega)]
  have hturn2 : (∀ j < 23, t6 (46 + j) = plain f (46 + j)) ↔ ∀ j < 23, t2 (46 + j) = plain f (46 + j) :=
    forall₂_congr fun j hj => by
      rw [hkeep6 _ (by omega), hkeep5 _ (by omega), hkeep4 _ (by omega), hkeep3 _ (by omega)]
  have hturn3 : (∀ j < 23, t6 (69 + j) = plain f (69 + j)) ↔ ∀ j < 23, t3 (69 + j) = plain f (69 + j) :=
    forall₂_congr fun j hj => by
      rw [hkeep6 _ (by omega), hkeep5 _ (by omega), hkeep4 _ (by omega)]
  have hturn4 : (∀ j < 15, t6 (92 + j) = plain f (92 + j)) ↔ ∀ j < 15, t4 (92 + j) = plain f (92 + j) :=
    forall₂_congr fun j hj => by
      rw [hkeep6 _ (by omega), hkeep5 _ (by omega)]
  rw [hrestored, forall_lt_144_iff hfirst hlast, hturn1, hturn2, hturn3, hturn4, hright1, hright2, hright3, hright4]
  constructor
  · rintro ⟨hs1, hs2, hs3, hs4⟩
    refine ⟨?_, hf ▸ hs4⟩
    rw [hf]
    simp only [List.forall_mem_cons, List.not_mem_nil, false_implies, implies_true, and_true]
    exact ⟨hs1, hs2, hs3⟩
  · rintro ⟨hgolay, hhamming⟩
    rw [hf] at hgolay hhamming
    exact ⟨hgolay 23 (by decide), hgolay 46 (by decide), hgolay 69 (by decide), hhamming⟩

/-! ## Interleaving -/

/-- The table is a rearrangement of the places. -/
theorem perm_map_place : ((List.range 144).map place).Perm (List.range 144) := by
  have hmap : (List.range 144).map place = IMBE_INTERLEAVE := by decide +kernel
  have hperm : IMBE_INTERLEAVE.Perm (List.range 144) := by decide +kernel
  rw [hmap]
  exact hperm

theorem place_lt {i : Nat} (hi : i < 144) : place i < 144 := by
  have hmem : place i ∈ (List.range 144).map place := List.mem_map_of_mem (List.mem_range.mpr hi)
  exact List.mem_range.mp ((List.Perm.mem_iff perm_map_place).mp hmem)

theorem place_inj {i j : Nat} (hi : i < 144) (hj : j < 144) (h : place i = place j) : i = j := by
  have hnodup : ((List.range 144).map place).Nodup :=
    (List.Perm.nodup_iff perm_map_place).mpr List.nodup_range
  exact List.inj_on_of_nodup_map hnodup (List.mem_range.mpr hi) (List.mem_range.mpr hj) h

/-- Every bit of a frame has its place in the words. -/
theorem exists_place {p : Nat} (hp : p < 144) : ∃ i < 144, place i = p := by
  have hmem : p ∈ (List.range 144).map place := (List.Perm.mem_iff perm_map_place).mpr (List.mem_range.mpr hp)
  obtain ⟨i, hi, he⟩ := List.mem_map.mp hmem
  exact ⟨i, List.mem_range.mp hi, he⟩

theorem readBit_interleave (temp : Bits) (bytes : Bytes) {i : Nat} (hi : i < 144) :
    readBit (interleave temp bytes) (place i) = temp i := by
  unfold interleave
  rw [P25Utils.readBit_foldl_writeBit]
  exact Lib.Blocks.scatter_range hi fun j hj he => place_inj hj hi he

/-- Flipped bits are as many in the frame as in the words. -/
theorem diffs_deinterleave (received sent : Bytes) :
    diffs 144 (deinterleave received) (deinterleave sent) = diffs 144 (readBit received) (readBit sent) := by
  have hlen := (List.Perm.filter (fun p => readBit received p ^^ readBit sent p) perm_map_place).length_eq
  rw [List.filter_map, List.length_map] at hlen
  exact hlen

theorem countErrors_eq (orig temp : Bits) : countErrors orig temp = diffs 144 orig temp := by
  unfold countErrors diffs
  suffices h : ∀ (l : List Nat) (n : Nat),
      l.foldl (fun errors i => if orig i ≠ temp i then errors + 1 else errors) n =
        n + (l.filter fun i => orig i ^^ temp i).length from (h _ 0).trans (Nat.zero_add _)
  intro l
  induction l with
  | nil => intro n; rfl
  | cons i l ih =>
      intro n
      rw [List.foldl_cons, ih]
      by_cases hi : orig i = temp i
      · rw [if_neg (not_not_intro hi), List.filter_cons_of_neg (by simp [hi])]
      · rw [if_pos hi, List.filter_cons_of_pos (by simpa using hi), List.length_cons]
        omega

/-! ## Frames that are restored -/

/-- `regenerateIMBE` gives back the frame that was sent, and the number of the bits that were flipped. -/
def Restores (sent received : Bytes) : Prop :=
  ∃ out, regenerateIMBE received = some (diffs 144 (readBit received) (readBit sent), out) ∧
    ∀ p < 144, readBit out p = readBit sent p

theorem restores_iff (sent received : Bytes) :
    Restores sent received ↔
      ∃ temp, fixIMBE (deinterleave received) = some temp ∧ ∀ i < 144, temp i = deinterleave sent i := by
  constructor
  · rintro ⟨out, hrun, hout⟩
    unfold regenerateIMBE at hrun
    dsimp only at hrun
    obtain ⟨temp, hfix, hpair⟩ := Option.bind_eq_some_iff.mp hrun
    refine ⟨temp, hfix, fun i hi => ?_⟩
    have hsnd := congrArg Prod.snd (Option.some.inj hpair)
    dsimp only at hsnd
    rw [← readBit_interleave temp received hi, hsnd]
    exact hout _ (place_lt hi)
  · rintro ⟨temp, hfix, hsame⟩
    refine ⟨interleave temp received, ?_, fun p hp => ?_⟩
    · unfold regenerateIMBE
      dsimp only
      rw [hfix, Option.bind_eq_bind, Option.bind_some, countErrors_eq, ← diffs_deinterleave,
        diffs_congr (fun _ _ => rfl) hsame]
    · obtain ⟨i, hi, rfl⟩ := exists_place hp
      rw [readBit_interleave temp received hi, hsame i hi]
      rfl

/-- `measureP25BER` counts what `regenerateIMBE` counts. -/
theorem measureP25BER_eq (bytes : Bytes) : measureP25BER bytes = (regenerateIMBE bytes).map Prod.fst := by
  unfold measureP25BER regenerateIMBE
  dsimp only
  cases fixIMBE (deinterleave bytes) <;> rfl

/-- The words of a frame that was made of words. -/
theorem plain_interleave (p : Bits) (bytes : Bytes) {i : Nat} (hi : i < 144) :
    plain (deinterleave (interleave (whiten (seed p) p) bytes)) i = p i := by
  have hbits : ∀ i < 144, deinterleave (interleave (whiten (seed p) p) bytes) i = whiten (seed p) p i :=
    fun i hi => readBit_interleave _ _ hi
  generalize interleave (whiten (seed p) p) bytes = frame at hbits ⊢
  have hseed : seed (deinterleave frame) = seed p := by
    have hfirst : LC.packWord 23 (deinterleave frame) = LC.packWord 23 p :=
      LC.packWord_congr fun j hj => (hbits j (by omega)).trans (whiten_of_lt (seed p) p hj)
    unfold seed
    rw [hfirst]
  unfold plain
  rw [hseed, whiten_inj.mpr (hbits i hi), whiten_whiten]

/-- A frame is valid when it is made of words of their codes. -/
theorem validIMBE_interleave {p : Bits} (hgolay : ∀ bit ∈ [0, 23, 46, 69], GolayWord (fromBit bit p))
    (hhamming : ∀ bit ∈ [92, 107, 122], HammingWord (fromBit bit p)) (bytes : Bytes) :
    ValidIMBE (interleave (whiten (seed p) p) bytes) := by
  constructor
  · intro bit hbit
    have hlast : bit + 23 ≤ 144 := (by decide : ∀ bit ∈ [0, 23, 46, 69], bit + 23 ≤ 144) bit hbit
    have hword := hgolay bit hbit
    unfold GolayWord at hword ⊢
    rw [← hword]
    exact congrArg _ (LC.packWord_congr fun j hj => plain_interleave p bytes (by omega))
  · intro bit hbit
    have hlast : bit + 15 ≤ 144 := (by decide : ∀ bit ∈ [92, 107, 122], bit + 15 ≤ 144) bit hbit
    have hdata : ∀ idx ∈ Hamming.checks15113_1, ∀ i ∈ idx, i < 15 := by decide
    have hlen : 11 + Hamming.checks15113_1.length ≤ 15 := by decide
    have hword := hhamming bit hbit
    unfold HammingWord at hword ⊢
    rw [← hword]
    exact ParityCode.syndrome_congr hdata hlen fun j hj => plain_interleave p bytes (by omega)

/-- One bit is flipped. -/
theorem flipped_flipBit (sent : Bytes) {q : Nat} (hq : q < 144) {bit n : Nat} (h : bit + n ≤ 144) :
    flipped sent (flipBit sent (place q)) bit n = ((List.range n).filter fun j => decide (bit + j = q)).length := by
  unfold flipped diffs
  refine congrArg _ (List.filter_congr fun j hj => ?_)
  have hlt := List.mem_range.mp hj
  unfold fromBit deinterleave
  rw [readBit_flipBit]
  by_cases he : bit + j = q
  · rw [if_pos (congrArg place he), decide_eq_true he]
    cases readBit sent (place (bit + j)) <;> rfl
  · rw [if_neg fun h' => he (place_inj (by omega) hq h'), decide_eq_false he, Bool.xor_self]

theorem flipped_flipBit_le_one (sent : Bytes) {q : Nat} (hq : q < 144) {bit n : Nat} (h : bit + n ≤ 144) :
    flipped sent (flipBit sent (place q)) bit n ≤ 1 := by
  rw [flipped_flipBit sent hq h]
  have hsub : (List.range n).filter (fun j => decide (bit + j = q)) ⊆ [q - bit] := by
    intro j hj
    have he := of_decide_eq_true (List.mem_filter.mp hj).2
    rw [List.mem_singleton]
    omega
  exact (List.subperm_of_subset (List.nodup_range.filter _) hsub).length_le

/-- One flipped bit is corrected, in any word. -/
theorem correctable_flipBit (sent : Bytes) {q : Nat} (hq : q < 137) :
    Correctable sent (flipBit sent (place q)) := by
  refine ⟨fun bit hbit => ?_, fun bit hbit => ?_, ?_⟩
  · have hlast : bit + 23 ≤ 144 := (by decide : ∀ bit ∈ [0, 23, 46, 69], bit + 23 ≤ 144) bit hbit
    exact Nat.le_trans (flipped_flipBit_le_one sent (by omega) hlast) (by decide)
  · have hlast : bit + 15 ≤ 144 := (by decide : ∀ bit ∈ [92, 107, 122], bit + 15 ≤ 144) bit hbit
    exact flipped_flipBit_le_one sent (by omega) hlast
  · rw [flipped_flipBit sent (by omega) (by decide), List.length_eq_zero_iff, List.filter_eq_nil_iff]
    intro j _ hj
    have := of_decide_eq_true hj
    omega

/-- Words that are zero but for the first Hamming word, which begins with a one. -/
def loudBits : Bits := fun i => decide (i ∈ [92, 103, 104, 105, 106])

/-- The frame of these words. -/
def loudFrame : Bytes := interleave (whiten (seed loudBits) loudBits) fun _ => 0

theorem validIMBE_loudFrame : ValidIMBE loudFrame := by
  apply validIMBE_interleave
  · intro bit hbit
    have hzero : ∀ bit ∈ [0, 23, 46, 69], LC.packWord 23 (fromBit bit loudBits) = 0 := by decide
    unfold GolayWord
    rw [hzero bit hbit]
    exact Gf2Division.rem_of_lt _ (by decide) (by decide)
  · have hcheck : ∀ bit ∈ [92, 107, 122],
        ParityCode.syndrome (fromBit bit loudBits) 11 Hamming.checks15113_1 = 0 := by decide +kernel
    exact hcheck

/-- **Which frames are restored.** Of a valid frame with no more flipped bits in any word than its code corrects,
    all bits come back and are counted unless one of the words behind a Golay word begins with a one and its
    other bits have all those errors; then the frame comes back wrong. -/
theorem regenerateIMBE_iff {sent received : Bytes} (hv : ValidIMBE sent) (hc : Correctable sent received) :
    Restores sent received ↔ Spared sent received := by
  obtain ⟨temp, hfix, hiff⟩ := fixIMBE_iff hv hc
  rw [restores_iff, ← hiff, hfix]
  constructor
  · rintro ⟨temp', hsame, hbits⟩
    rw [Option.some.inj hsame]
    exact hbits
  · exact fun h => ⟨temp, rfl, h⟩

/-- A flipped bit in another word is corrected. -/
theorem restores_loud : Restores loudFrame (flipBit loudFrame (place 108)) := by
  refine (regenerateIMBE_iff validIMBE_loudFrame (correctable_flipBit loudFrame (by decide))).mpr ⟨?_, fun _ => ?_⟩
  · intro bit hbit _
    have hlast : bit + 1 + 22 ≤ 144 := (by decide : ∀ bit ∈ [23, 46, 69], bit + 1 + 22 ≤ 144) bit hbit
    exact Nat.lt_of_le_of_lt (flipped_flipBit_le_one loudFrame (by decide) hlast) (by decide)
  · rw [flipped_flipBit loudFrame (by decide) (by decide)]
    decide

/-- **A frame that is not restored**: the word begins with a one, and its second bit is wrong. -/
theorem not_restores_loud :
    ValidIMBE loudFrame ∧ Correctable loudFrame (flipBit loudFrame (place 93)) ∧
      ¬Restores loudFrame (flipBit loudFrame (place 93)) := by
  have hc := correctable_flipBit loudFrame (by decide : 93 < 137)
  refine ⟨validIMBE_loudFrame, hc, fun h => ?_⟩
  obtain ⟨temp, hfix, hiff⟩ := fixIMBE_iff validIMBE_loudFrame hc
  obtain ⟨temp', hfix', hsame⟩ := (restores_iff _ _).mp h
  rw [hfix] at hfix'
  rw [← Option.some.inj hfix'] at hsame
  have hspared := (hiff.mp hsame).hamming
  have hfirst : firstBit (deinterleave loudFrame) 92 = true := by
    have hbit : plain (deinterleave loudFrame) 92 = loudBits 92 := plain_interleave _ _ (by decide)
    unfold firstBit
    rw [if_neg (by decide), hbit]
    decide
  have hfew := hspared hfirst
  rw [flipped_flipBit loudFrame (by decide) (by decide)] at hfew
  exact absurd hfew (by decide)

end AMBEFEC

end DvmHost

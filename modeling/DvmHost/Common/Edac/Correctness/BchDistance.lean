import DvmHost.Lib.MinDistance
import DvmHost.Common.Edac.BCH
import DvmHost.Common.P25.Lc.Correctness.FrameCoding

/-!
# `Common.Edac.Correctness.BchDistance` — encoded identifiers are far apart

The words of the code are spanned by those of the single bits (`rows`), and three disjoint stretches of sixteen
bits are information sets. A word of at most twelve bits has at most four of them in one stretch; the sums of
four rows are tried for each, and all are heavier (`lt_weight_word`).
-/

namespace DvmHost

open Lib Lib.MinDistance

namespace BCH

/-- The 63 bits of an encoded identifier, from its first sixteen. -/
def codeword (f : Bits) : Bits := fun i => if i < k then f i else redundancy f (i - k)

/-- The bits of an encoded identifier as a number, the first in front. -/
def word (f : Bits) : Nat := LC.packWord length (codeword f)

theorem word_lt (f : Bits) : word f < 2 ^ length := LC.packWord_lt length _

theorem word_xor (f f' : Bits) : word (fun i => f i ^^ f' i) = word f ^^^ word f' := by
  unfold word
  rw [← LC.packWord_xor]
  refine LC.packWord_congr fun i hi => ?_
  unfold codeword
  split
  · rfl
  · exact redundancy_xor f f' (by unfold length at hi; unfold k at *; omega)

theorem word_congr {f f' : Bits} (h : ∀ i < k, f i = f' i) : word f = word f' := by
  unfold word
  refine LC.packWord_congr fun i _ => ?_
  unfold codeword
  split
  · next hi => exact h i hi
  · rw [redundancy_congr h]

/-- The words of the single bits. -/
def rows : List Nat := [
  0x400066C985EE9D95, 0x200055AD4719D35F, 0x10004C1F2662743A, 0x0800260F93313A1D,
  0x040075CE4C76009B, 0x02005C2EA3D59DD8, 0x01002E1751EACEEC, 0x0080170BA8F56776,
  0x00400B85D47AB3BB, 0x0020630B6FD3C448, 0x00103185B7E9E224, 0x000818C2DBF4F112,
  0x00040C616DFA7889, 0x000260F93313A1D1, 0x000156B51C674D7D, 0x0000CD930BDD3B2B]

theorem map_word_unit : ((List.range k).map fun i => word (ParityCode.unit i)) = rows := by
  have hword : ∀ f, word f = LC.packWord length fun i =>
      if i < k then f i else
        (Lfsr.run generator 0#47 ((List.range k).reverse.map f)).getLsbD (i - k) := by
    intro f
    refine LC.packWord_congr fun i hi => ?_
    unfold codeword
    split
    · rfl
    · exact redundancy_eq_run f (by unfold length at hi; unfold k at *; omega)
  simp only [hword]
  decide +kernel

/-- **The code is spanned by its rows.** -/
theorem word_eq_combine (f : Bits) : word f = combine rows f := by
  rw [← map_word_unit]
  exact eq_combine word_xor (fun _ _ => word_congr) f

/-! ## Information sets -/

/-- The rows that give back a word from its bits in the last stretch. -/
def lastRows : List Nat := [
  0x4D930BDD3B2B0001, 0x56B51C674D7D0002, 0x60F93313A1D10004, 0x0C616DFA78890008,
  0x18C2DBF4F1120010, 0x3185B7E9E2240020, 0x630B6FD3C4480040, 0x0B85D47AB3BB0080,
  0x170BA8F567760100, 0x2E1751EACEEC0200, 0x5C2EA3D59DD80400, 0x75CE4C76009B0800,
  0x260F93313A1D1000, 0x4C1F2662743A2000, 0x55AD4719D35F4000, 0x66C985EE9D958000]

/-- The rows for the stretch before it. -/
def middleRows : List Nat := [
  0x0BDD3B2B00019B26, 0x1C674D7D0002AD6A, 0x3313A1D10004C1F2, 0x6DFA7889000818C2,
  0x5BF4F11200103185, 0x37E9E2240020630B, 0x6FD3C4480040C616, 0x547AB3BB0080170B,
  0x28F5677601002E17, 0x51EACEEC02005C2E, 0x23D59DD80400B85D, 0x4C76009B0800EB9C,
  0x13313A1D10004C1F, 0x2662743A2000983E, 0x4719D35F4000AB5A, 0x05EE9D958000CD93]

/-- The rows for the stretch before that. -/
def firstRows : List Nat := [
  0x3B2B00019B2617BA, 0x4D7D0002AD6A38CE, 0x21D10004C1F26627, 0x7889000818C2DBF4,
  0x711200103185B7E9, 0x62240020630B6FD3, 0x44480040C616DFA7, 0x33BB0080170BA8F5,
  0x677601002E1751EA, 0x4EEC02005C2EA3D5, 0x1DD80400B85D47AB, 0x009B0800EB9C98EC,
  0x3A1D10004C1F2662, 0x743A2000983E4CC4, 0x535F4000AB5A8E33, 0x1D958000CD930BDD]

/-- The rows of a stretch. -/
def stretchRows (j : Nat) : List Nat := [lastRows, middleRows, firstRows].getD j []

/-- **Words have more than twelve bits**, unless they are zero. -/
theorem lt_weight_word {f : Bits} (h : ∃ i < k, f i = true) : 12 < Gf2Division.weight length (word f) := by
  have hne : word f ≠ 0 := by
    intro h0
    obtain ⟨i, hi, hf⟩ := h
    have hbit := LC.testBit_packWord length (codeword f) (62 - i)
    have hpos : length - 1 - (62 - i) = i := by unfold length; unfold k at hi; omega
    have hin : 62 - i < length := by unfold length; omega
    unfold word at h0
    rw [h0, Nat.zero_testBit, hpos, decide_eq_true hin, Bool.true_and] at hbit
    unfold codeword at hbit
    rw [if_pos hi, hf] at hbit
    exact Bool.false_ne_true hbit
  have hlt := word_lt f
  rw [word_eq_combine] at hne hlt ⊢
  refine lt_weight_of_sets (G := stretchRows) (k := k) (m := 3) (t := 4) ?_ ?_ (by decide) (by decide) ?_ hlt hne
  · decide
  · decide +kernel
  · decide +kernel

end BCH

end DvmHost

import DvmHost.Lib.Lfsr
import DvmHost.Common.Utils

/-!
# `Common.Edac.BCH` — the BCH code of the P25 network identifier

`BCH::encode` of `src/common/edac/BCH.cpp`: the sixteen bits of the identifier are divided, behind 47 places, by
the generator polynomial, in a shift register that takes the last of them first, and the remainder is written
behind them: the register of `Lib.Lfsr` (`redundancy_eq_run`).
-/

namespace DvmHost

open Lib

namespace BCH

/-- `length`. -/
def length : Nat := 63

/-- `k`. -/
def k : Nat := 16

/-- `g[]`. -/
def g : List Nat := [
  1, 1, 0,  0, 1, 1,  0, 1, 1,  0, 0, 1,  0, 0, 1,  1, 0, 0,  0, 0, 1,  0, 1, 1,
  1, 1, 0,  1, 1, 1,  0, 1, 0,  0, 1, 1,  1, 0, 1,  1, 0, 0,  1, 0, 1,  0, 1, 1]

/-- One turn of the division. The loop over `j` runs down from the top, so it reads the register as it was before
    the turn. -/
def divide (data : Bits) (bb : Bits) (i : Nat) : Bits :=
  let feedback := data i ^^ bb (length - k - 1)
  if feedback then fun j =>
    if length - k ≤ j then bb j
    else if j = 0 then decide (g.getD 0 0 ≠ 0) && feedback
    else if g.getD j 0 ≠ 0 then bb (j - 1) ^^ feedback
    else bb (j - 1)
  else fun j =>
    if length - k ≤ j then bb j
    else if j = 0 then false
    else bb (j - 1)

/-- The private `BCH::encode`: the coefficients of the remainder. -/
def redundancy (data : Bits) : Bits := (List.range k).reverse.foldl (divide data) fun _ => false

/-- `BCH::encode`. -/
def encode (nid : Bytes) : Bytes :=
  let bb := redundancy (readBit nid)
  (List.range (length - k)).foldl (fun nid i => writeBit nid (16 + i) (bb i)) nid

/-! ## The division is a shift register -/

/-- A turn shifts the register, and adds the polynomial when a bit is fed back. -/
theorem divide_apply (data bb : Bits) (i j : Nat) :
    divide data bb i j =
      if length - k ≤ j then bb j
      else (decide (j ≠ 0) && bb (j - 1)) ^^ (decide (g.getD j 0 ≠ 0) && (data i ^^ bb (length - k - 1))) := by
  unfold divide
  cases hfeed : data i ^^ bb (length - k - 1)
  · rw [if_neg Bool.false_ne_true, Bool.and_false, Bool.xor_false]
    split
    · rfl
    · by_cases hj : j = 0 <;> simp [hj]
  · rw [if_pos rfl]
    split
    · rfl
    · by_cases hj : j = 0
      · simp [hj]
      · by_cases hg : g.getD j 0 ≠ 0
        · rw [if_neg hj, if_pos hg, decide_eq_true hj, decide_eq_true hg, Bool.true_and, Bool.and_true]
        · rw [if_neg hj, if_neg hg, decide_eq_true hj, decide_eq_false hg, Bool.true_and, Bool.false_and,
            Bool.xor_false]

/-- The polynomial without its leading coefficient. -/
def generator : BitVec 47 := 0x54dcbbd0c9b3#47

/-- **The division is a shift register** over the generator polynomial. -/
theorem redundancy_eq_run (data : Bits) {j : Nat} (hj : j < 47) :
    redundancy data j = (Lfsr.run generator 0#47 ((List.range k).reverse.map data)).getLsbD j := by
  have hpoly : ∀ j < 47, generator.getLsbD j = decide (g.getD j 0 ≠ 0) := by decide
  unfold redundancy Lfsr.run
  suffices h : ∀ (l : List Nat) (bb : Bits) (s : BitVec 47), (∀ j < 47, bb j = s.getLsbD j) →
      ∀ j < 47, l.foldl (divide data) bb j = ((l.map data).foldl (Lfsr.step generator) s).getLsbD j from
    h _ _ _ (fun _ _ => BitVec.getLsbD_zero.symm) j hj
  intro l
  induction l with
  | nil => intro bb s h j hj; exact h j hj
  | cons i l ih =>
      intro bb s h
      rw [List.foldl_cons, List.map_cons, List.foldl_cons]
      apply ih
      intro j hj
      have htop : bb (length - k - 1) = s.msb := (h 46 (by decide)).trans (BitVec.msb_eq_getLsbD_last s).symm
      have hin : ¬length - k ≤ j := Nat.not_le.mpr hj
      rw [divide_apply, if_neg hin, Lfsr.getLsbD_step _ _ _ hj, htop, hpoly j hj]
      rw [Bool.and_comm (decide (g.getD j 0 ≠ 0))]
      congr 1
      cases j with
      | zero => rfl
      | succ j => simpa using h j (by omega)

/-- The remainder is additive. -/
theorem redundancy_xor (data data' : Bits) {j : Nat} (hj : j < 47) :
    redundancy (fun i => data i ^^ data' i) j = (redundancy data j ^^ redundancy data' j) := by
  rw [redundancy_eq_run _ hj, redundancy_eq_run _ hj, redundancy_eq_run _ hj, ← BitVec.getLsbD_xor,
    ← Lfsr.run_xor, BitVec.xor_self]

/-- The remainder depends on the sixteen bits only. -/
theorem redundancy_congr {data data' : Bits} (h : ∀ i < k, data i = data' i) :
    redundancy data = redundancy data' := by
  unfold redundancy
  refine List.foldl_ext _ _ _ fun bb i hi => ?_
  have hlt : i < k := List.mem_range.mp (List.mem_reverse.mp hi)
  unfold divide
  rw [h i hlt]

/-- The bits of an encoded identifier. -/
theorem readBit_encode (nid : Bytes) (i : Nat) :
    readBit (encode nid) i = if 16 ≤ i ∧ i < 63 then redundancy (readBit nid) (i - 16) else readBit nid i :=
  readBit_writeBits nid 16 47 _ i

end BCH

end DvmHost

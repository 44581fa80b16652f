import Mathlib.Data.List.Basic
import Mathlib.Data.Nat.Bitwise

/-!
# `Lib.Words` — fields of a 64-bit word

A message that is built by shifting fields into one word, and read by shifting the word and masking it, is a number with
mixed digits. These rules turn both sides to arithmetic: what `toNat` of a step of the building is
(`toNat_shift_add`), and when a masked shift is a given value (`octet_eq_iff`, `field_eq_iff`, `flag_iff`).
-/

namespace Lib

namespace Words

/-- One step of building a word. -/
theorem toNat_shift_add (v x : UInt64) {k : UInt64} (hk : k.toNat < 64) :
    (v <<< k + x).toNat = (v.toNat * 2 ^ k.toNat + x.toNat) % 2 ^ 64 := by
  rw [UInt64.toNat_add, UInt64.toNat_shiftLeft, Nat.mod_eq_of_lt hk, Nat.shiftLeft_eq, Nat.mod_add_mod]

/-- A masked shift is the digits between two places. -/
theorem toNat_shift_and (v : UInt64) {k m : UInt64} (n w : Nat) (hk : k.toNat = n) (hn : n < 64)
    (hm : m.toNat = 2 ^ w - 1) : (v >>> k &&& m).toNat = v.toNat / 2 ^ n % 2 ^ w := by
  rw [UInt64.toNat_and, UInt64.toNat_shiftRight, hk, Nat.mod_eq_of_lt hn, hm, Nat.shiftRight_eq_div_pow,
    Nat.and_two_pow_sub_one_eq_mod]

/-- A field of at most eight bits. -/
theorem octet_eq_iff (v : UInt64) {k m : UInt64} (x : UInt8) (n w : Nat) (hk : k.toNat = n) (hn : n < 64)
    (hm : m.toNat = 2 ^ w - 1) (hw : w ≤ 8) :
    (v >>> k &&& m).toUInt8 = x ↔ v.toNat / 2 ^ n % 2 ^ w = x.toNat := by
  have hlt : v.toNat / 2 ^ n % 2 ^ w < 2 ^ 8 :=
    Nat.lt_of_lt_of_le (Nat.mod_lt _ (Nat.two_pow_pos w)) (Nat.pow_le_pow_right (by decide) hw)
  rw [← UInt8.toNat_inj, UInt64.toNat_toUInt8, toNat_shift_and v n w hk hn hm, Nat.mod_eq_of_lt hlt]

/-- A field of at most 32 bits. -/
theorem field_eq_iff (v : UInt64) {k m : UInt64} (x : UInt32) (n w : Nat) (hk : k.toNat = n) (hn : n < 64)
    (hm : m.toNat = 2 ^ w - 1) (hw : w ≤ 32) :
    (v >>> k &&& m).toUInt32 = x ↔ v.toNat / 2 ^ n % 2 ^ w = x.toNat := by
  have hlt : v.toNat / 2 ^ n % 2 ^ w < 2 ^ 32 :=
    Nat.lt_of_lt_of_le (Nat.mod_lt _ (Nat.two_pow_pos w)) (Nat.pow_le_pow_right (by decide) hw)
  rw [← UInt32.toNat_inj, UInt64.toNat_toUInt32, toNat_shift_and v n w hk hn hm, Nat.mod_eq_of_lt hlt]

/-- The lowest field. -/
theorem low_eq_iff (v : UInt64) {m : UInt64} (x : UInt32) (w : Nat) (hm : m.toNat = 2 ^ w - 1) (hw : w ≤ 32) :
    (v &&& m).toUInt32 = x ↔ v.toNat % 2 ^ w = x.toNat := by
  have hlt : v.toNat % 2 ^ w < 2 ^ 32 :=
    Nat.lt_of_lt_of_le (Nat.mod_lt _ (Nat.two_pow_pos w)) (Nat.pow_le_pow_right (by decide) hw)
  rw [← UInt32.toNat_inj, UInt64.toNat_toUInt32, UInt64.toNat_and, hm, Nat.and_two_pow_sub_one_eq_mod,
    Nat.mod_eq_of_lt hlt]

/-- A flag is one digit. -/
theorem flag_iff (x : UInt64) {m : UInt64} (n : Nat) (hm : m.toNat = 2 ^ n) : x &&& m = m ↔ x.toNat / 2 ^ n % 2 = 1 := by
  rw [← UInt64.toNat_inj, UInt64.toNat_and, hm, Nat.and_two_pow]
  have hbit : x.toNat.testBit n = decide (x.toNat / 2 ^ n % 2 = 1) := Nat.testBit_eq_decide_div_mod_eq
  rw [hbit]
  by_cases h : x.toNat / 2 ^ n % 2 = 1
  · simp [h]
  · simp [h, (Nat.two_pow_pos n).ne]

/-- A mask that a field fits into. -/
theorem toNat_and_of_lt {x m : UInt32} (w : Nat) (hm : m.toNat = 2 ^ w - 1) (hx : x.toNat < 2 ^ w) :
    (x &&& m).toNat = x.toNat := by
  rw [UInt32.toNat_and, hm, Nat.and_two_pow_sub_one_eq_mod, Nat.mod_eq_of_lt hx]

theorem toNat_octet_and_of_lt {x m : UInt8} (w : Nat) (hm : m.toNat = 2 ^ w - 1) (hx : x.toNat < 2 ^ w) :
    (x &&& m).toNat = x.toNat := by
  rw [UInt8.toNat_and, hm, Nat.and_two_pow_sub_one_eq_mod, Nat.mod_eq_of_lt hx]

/-! ## The octets of a word -/

/-- Eight octets, the first at the high end. -/
def wordOf (octets : Nat → UInt8) : UInt64 :=
  (List.range 8).foldl (fun value i => value <<< (8 : UInt64) + (octets i).toUInt64) 0

/-- An octet of the word. -/
def octetAt (v : UInt64) (i : Nat) : UInt8 := (v >>> (56 - 8 * UInt64.ofNat i) &&& 0xFF).toUInt8

theorem wordOf_congr {a b : Nat → UInt8} (h : ∀ i < 8, a i = b i) : wordOf a = wordOf b := by
  unfold wordOf
  exact List.foldl_ext _ _ _ fun value i hi => by rw [h i (List.mem_range.mp hi)]

/-- **The octets of a word are combined into it.** -/
theorem wordOf_octetAt (v : UInt64) : wordOf (octetAt v) = v := by
  have hoctet : ∀ k : UInt64, k.toNat < 64 → (v >>> k &&& 0xFF).toUInt8.toNat = v.toNat / 2 ^ k.toNat % 256 := by
    intro k hk
    exact (octet_eq_iff v _ k.toNat 8 rfl hk rfl (by decide)).mp rfl |>.symm
  have hv := v.toNat_lt
  have hunfold : wordOf (octetAt v) =
      (((((((((0 : UInt64) <<< 8 + (octetAt v 0).toUInt64) <<< 8 + (octetAt v 1).toUInt64) <<< 8 +
        (octetAt v 2).toUInt64) <<< 8 + (octetAt v 3).toUInt64) <<< 8 + (octetAt v 4).toUInt64) <<< 8 +
          (octetAt v 5).toUInt64) <<< 8 + (octetAt v 6).toUInt64) <<< 8 + (octetAt v 7).toUInt64) := rfl
  rw [hunfold]
  unfold octetAt
  apply UInt64.toNat_inj.mp
  simp (disch := decide) only [toNat_shift_add, UInt8.toNat_toUInt64]
  rw [hoctet _ (by decide), hoctet _ (by decide), hoctet _ (by decide), hoctet _ (by decide), hoctet _ (by decide),
    hoctet _ (by decide), hoctet _ (by decide), hoctet _ (by decide)]
  simp
  omega

end Words

end Lib

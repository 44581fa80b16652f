import Mathlib.Data.Nat.Basic

/-!
# `Lib.Trellis` — codes whose state is the last input

A code of this kind sends, for each input, the symbol its table gives for the state and the input, the state
being the input before (0 at the start). `Follows` says that the points received are those of an input
sequence up to some length. With distinct symbols in every row of the table the inputs are determined from
the front (`follows_unique`); with distinct symbols in every column they are determined from the back, given
the last input (`follows_unique_back`).
-/

namespace Lib.Trellis

/-- A code: how many inputs there are, and the symbol for a state and an input. -/
structure Code where
  inputs : Nat
  symbol : Nat → Nat → Nat

/-- The state before input `i`. -/
def state (bits : Nat → Nat) : Nat → Nat
  | 0 => 0
  | i + 1 => bits i

attribute [grind =] state

variable {c : Code}

/-- The first `n` points are those of the inputs `bits`. -/
def Follows (c : Code) (points bits : Nat → Nat) (n : Nat) : Prop :=
  ∀ i < n, bits i < c.inputs ∧ points i = c.symbol (state bits i) (bits i)

/-- Point `i` is on no edge out of the state `bits` leads to. -/
def OffRow (c : Code) (points bits : Nat → Nat) (i : Nat) : Prop :=
  ∀ j < c.inputs, points i ≠ c.symbol (state bits i) j

/-- The symbols of a row are distinct. -/
def RowInj (c : Code) : Prop :=
  ∀ s < c.inputs, ∀ j < c.inputs, ∀ j' < c.inputs, c.symbol s j = c.symbol s j' → j = j'

/-- The symbols of a column are distinct. -/
def ColInj (c : Code) : Prop :=
  ∀ s < c.inputs, ∀ s' < c.inputs, ∀ j < c.inputs, c.symbol s j = c.symbol s' j → s = s'

theorem state_congr {b b' : Nat → Nat} {i : Nat} (h : ∀ k < i, b k = b' k) : state b i = state b' i := by
  cases i with
  | zero => rfl
  | succ i => exact h i (Nat.lt_succ_self i)

theorem state_lt {points bits : Nat → Nat} {n i : Nat} (hpos : 0 < c.inputs) (h : Follows c points bits n)
    (hi : i ≤ n) : state bits i < c.inputs := by
  cases i with
  | zero => exact hpos
  | succ i => exact (h i hi).1

theorem Follows.mono {points bits : Nat → Nat} {m n : Nat} (h : Follows c points bits n) (hm : m ≤ n) :
    Follows c points bits m := fun i hi => h i (by omega)

/-- **The points determine the inputs from the front.** -/
theorem follows_unique {points b b' : Nat → Nat} {n : Nat} (hpos : 0 < c.inputs) (hrow : RowInj c)
    (h : Follows c points b n) (h' : Follows c points b' n) : ∀ i < n, b i = b' i := by
  intro i
  induction i using Nat.strongRecOn with
  | ind i ih =>
      intro hi
      obtain ⟨hb, hp⟩ := h i hi
      obtain ⟨hb', hp'⟩ := h' i hi
      have hst : state b i = state b' i := state_congr fun k hk => ih k hk (by omega)
      rw [hst] at hp
      exact hrow _ (state_lt hpos h' (by omega)) _ hb _ hb' (hp.symm.trans hp')

/-- **The points determine the inputs from the back.** Two input sequences that give the same points from
    some place on and end alike agree from just before that place. -/
theorem follows_unique_back {points points' b b' : Nat → Nat} {e n : Nat} (hcol : ColInj c)
    (h : Follows c points b (n + 1)) (h' : Follows c points' b' (n + 1))
    (hsame : ∀ i, e < i → i ≤ n → points i = points' i) (hlast : b n = b' n) :
    ∀ d, e + d ≤ n → b (n - d) = b' (n - d) := by
  intro d
  induction d with
  | zero => intro _; exact hlast
  | succ d ih =>
      intro hd
      have hnext : b (n - d) = b' (n - d) := ih (by omega)
      obtain ⟨k, hk⟩ : ∃ k, n - d = k + 1 := ⟨n - d - 1, by omega⟩
      have hkn : n - (d + 1) = k := by omega
      obtain ⟨hb, hp⟩ := h (k + 1) (by omega)
      obtain ⟨-, hp'⟩ := h' (k + 1) (by omega)
      rw [hk] at hnext
      rw [hsame (k + 1) (by omega) (by omega), hp', ← hnext] at hp
      rw [hkn]
      exact (hcol _ (h' k (by omega)).1 _ (h k (by omega)).1 _ hb hp).symm

end Lib.Trellis

import Mathlib

/-!
# `Lib.ParityCode` — systematic parity-check codes decoded by a syndrome table

A code of this kind has data bits `0 .. k-1` and then one parity bit for each of its `checks`, a check being
the list of the data bits it sums. Bit `i` of the **syndrome** says that check `i` fails; the syndrome is
linear, so around a codeword it is the syndrome of the errors alone, and a table that lists the syndrome of
every single-bit error corrects any one of them (`decode_near`).
-/

namespace Lib.ParityCode

/-- The sum of the bits of `d` at the positions `idx`. -/
def parity (d : Nat → Bool) (idx : List Nat) : Bool := idx.foldl (fun acc i => acc ^^ d i) false

/-- `d` with the parity bits of `checks` written from position `k` on. -/
def encode (k : Nat) (checks : List (List Nat)) (d : Nat → Bool) : Nat → Bool := fun i =>
  if k ≤ i then
    match checks[i - k]? with
    | some idx => parity d idx
    | none => d i
  else d i

/-- Bit `i` is set when check `i` fails, its parity bit being at `k + i`. -/
def syndrome (d : Nat → Bool) : Nat → List (List Nat) → Nat
  | _, [] => 0
  | k, idx :: checks => (if parity d idx ≠ d k then 1 else 0) + 2 * syndrome d (k + 1) checks

/-- `d` with the bit at `p` inverted. -/
def flip (d : Nat → Bool) (p : Nat) : Nat → Bool := fun i => if i = p then !d i else d i

/-- Inverts the bit that `table` gives for the syndrome, and says whether it did. -/
def decode (k : Nat) (checks : List (List Nat)) (table : List (Nat × Nat)) (d : Nat → Bool) :
    Bool × (Nat → Bool) :=
  match table.lookup (syndrome d k checks) with
  | some p => (true, flip d p)
  | none => (false, d)

/-- The single bit `p`. -/
def unit (p : Nat) : Nat → Bool := fun i => decide (i = p)

/-- The table inverts nothing on syndrome 0 and every one of the first `n` bits on its own syndrome. -/
def Corrects (n k : Nat) (checks : List (List Nat)) (table : List (Nat × Nat)) : Prop :=
  table.lookup 0 = none ∧ ∀ p < n, table.lookup (syndrome (unit p) k checks) = some p

instance (n k : Nat) (checks : List (List Nat)) (table : List (Nat × Nat)) :
    Decidable (Corrects n k checks table) := inferInstanceAs (Decidable (_ ∧ _))

/-! ## Linearity -/

theorem parity_xor (a b : Nat → Bool) (idx : List Nat) :
    parity (fun i => a i ^^ b i) idx = (parity a idx ^^ parity b idx) := by
  unfold parity
  suffices h : ∀ x y : Bool, idx.foldl (fun acc i => acc ^^ (a i ^^ b i)) (x ^^ y) =
      (idx.foldl (fun acc i => acc ^^ a i) x ^^ idx.foldl (fun acc i => acc ^^ b i) y) from h false false
  induction idx with
  | nil => intro x y; rfl
  | cons i is ih =>
      intro x y
      simp only [List.foldl_cons]
      rw [← ih]
      congr 1
      cases x <;> cases y <;> cases a i <;> cases b i <;> rfl

theorem parity_congr {a b : Nat → Bool} {idx : List Nat} (h : ∀ i ∈ idx, a i = b i) :
    parity a idx = parity b idx := by
  unfold parity
  exact List.foldl_ext _ _ _ (fun acc i hi => by rw [h i hi])

/-- **The syndrome of a codeword with errors is the syndrome of the errors.** -/
theorem syndrome_xor {c e : Nat → Bool} {k : Nat} {checks : List (List Nat)}
    (hc : syndrome c k checks = 0) : syndrome (fun i => c i ^^ e i) k checks = syndrome e k checks := by
  induction checks generalizing k with
  | nil => rfl
  | cons idx checks ih =>
      rw [syndrome] at hc
      have hrest : syndrome c (k + 1) checks = 0 := by omega
      have hcheck : parity c idx = c k := by
        by_contra hne
        rw [if_pos hne] at hc
        omega
      rw [syndrome, syndrome, ih hrest, parity_xor, hcheck]
      cases c k <;> cases parity e idx <;> cases e k <;> rfl

/-- The syndrome depends on the bits that are checked only. -/
theorem syndrome_congr {a b : Nat → Bool} {n k : Nat} {checks : List (List Nat)}
    (hdata : ∀ idx ∈ checks, ∀ i ∈ idx, i < n) (hn : k + checks.length ≤ n) (h : ∀ i < n, a i = b i) :
    syndrome a k checks = syndrome b k checks := by
  induction checks generalizing k with
  | nil => rfl
  | cons idx checks ih =>
      rw [List.length_cons] at hn
      have hpar : parity a idx = parity b idx :=
        parity_congr fun i hi => h i (hdata idx List.mem_cons_self i hi)
      rw [syndrome, syndrome, hpar, h k (by omega),
        ih (fun idx' h' => hdata idx' (List.mem_cons_of_mem idx h')) (by omega)]

theorem flip_eq_xor (d : Nat → Bool) (p : Nat) : flip d p = fun i => d i ^^ unit p i := by
  funext i
  unfold flip unit
  by_cases h : i = p <;> simp [h]

theorem flip_flip (d : Nat → Bool) (p : Nat) : flip (flip d p) p = d := by
  funext i
  unfold flip
  by_cases h : i = p <;> simp [h]

/-- A word that differs from `c` at most at `p` is `c` or `c` with that bit inverted. -/
theorem eq_or_flip {c d : Nat → Bool} {p : Nat} (h : ∀ i, i ≠ p → d i = c i) : d = c ∨ d = flip c p := by
  by_cases hp : d p = c p
  · left
    funext i
    by_cases hi : i = p
    · rw [hi, hp]
    · exact h i hi
  · right
    funext i
    unfold flip
    by_cases hi : i = p
    · subst hi
      rw [if_pos rfl]
      revert hp
      cases d i <;> cases c i <;> decide
    · rw [if_neg hi, h i hi]

/-! ## Decoding near a codeword -/

/-- **One error is corrected.** A word that differs from a codeword in at most one bit decodes to it. -/
theorem decode_near {n k : Nat} {checks : List (List Nat)} {table : List (Nat × Nat)} {c d : Nat → Bool}
    {p : Nat} (htable : Corrects n k checks table) (hc : syndrome c k checks = 0) (hp : p < n)
    (h : ∀ i, i ≠ p → d i = c i) : (decode k checks table d).2 = c := by
  unfold decode
  rcases eq_or_flip h with rfl | rfl
  · rw [hc, htable.1]
  · rw [flip_eq_xor, syndrome_xor hc, htable.2 p hp, ← flip_eq_xor]
    exact flip_flip c p

/-- A codeword is left as it is, and reported clean. -/
theorem decode_codeword {n k : Nat} {checks : List (List Nat)} {table : List (Nat × Nat)} {c : Nat → Bool}
    (htable : Corrects n k checks table) (hc : syndrome c k checks = 0) :
    decode k checks table c = (false, c) := by
  unfold decode
  rw [hc, htable.1]

/-- A word reported clean is left as it is. -/
theorem decode_of_clean {k : Nat} {checks : List (List Nat)} {table : List (Nat × Nat)} {d : Nat → Bool}
    (h : (decode k checks table d).1 = false) : (decode k checks table d).2 = d := by
  unfold decode at h ⊢
  cases hlook : table.lookup (syndrome d k checks) with
  | some p => rw [hlook] at h; exact absurd h (by simp)
  | none => rfl

/-- Decoding inverts one bit of the table or none. -/
theorem decode_of_ne {k : Nat} {checks : List (List Nat)} {table : List (Nat × Nat)} {n : Nat}
    (htable : ∀ e ∈ table, e.2 < n) (hn : 0 < n) (d : Nat → Bool) :
    ∃ p < n, ∀ i, i ≠ p → (decode k checks table d).2 i = d i := by
  unfold decode
  cases hlook : table.lookup (syndrome d k checks) with
  | some p =>
      obtain ⟨l₁, l₂, hsplit, -⟩ := List.lookup_eq_some_iff.mp hlook
      have hmem : (syndrome d k checks, p) ∈ table := by
        rw [hsplit]
        exact List.mem_append_right l₁ List.mem_cons_self
      exact ⟨p, htable _ hmem, fun i hi => if_neg hi⟩
  | none => exact ⟨0, hn, fun _ _ => rfl⟩

/-! ## Decoding any word -/

/-- Errors of the same syndrome make a codeword together. -/
theorem syndrome_xor_eq_zero {a b : Nat → Bool} {k : Nat} {checks : List (List Nat)}
    (h : syndrome a k checks = syndrome b k checks) : syndrome (fun i => a i ^^ b i) k checks = 0 := by
  induction checks generalizing k with
  | nil => rfl
  | cons idx checks ih =>
      rw [syndrome, syndrome] at h
      have hrest : syndrome a (k + 1) checks = syndrome b (k + 1) checks := by
        split at h <;> split at h <;> omega
      rw [hrest] at h
      have hcheck : (parity a idx ^^ a k) = (parity b idx ^^ b k) := by
        cases hpa : parity a idx <;> cases ha : a k <;> cases hpb : parity b idx <;> cases hb : b k <;>
          simp_all
      rw [syndrome, ih hrest, parity_xor]
      revert hcheck
      cases parity a idx <;> cases a k <;> cases parity b idx <;> cases b k <;> decide

theorem syndrome_lt (d : Nat → Bool) (k : Nat) (checks : List (List Nat)) :
    syndrome d k checks < 2 ^ checks.length := by
  induction checks generalizing k with
  | nil => exact Nat.one_pos
  | cons idx checks ih =>
      have hrest := ih (k + 1)
      rw [syndrome, List.length_cons, Nat.pow_succ]
      split <;> omega

/-- **Inverting what the table gives makes a codeword**, when each entry inverts a bit of its syndrome. -/
theorem syndrome_flip {k : Nat} {checks : List (List Nat)} {table : List (Nat × Nat)}
    (hentry : ∀ e ∈ table, syndrome (unit e.2) k checks = e.1) {d : Nat → Bool} {p : Nat}
    (hlook : table.lookup (syndrome d k checks) = some p) : syndrome (flip d p) k checks = 0 := by
  obtain ⟨l₁, l₂, hsplit, -⟩ := List.lookup_eq_some_iff.mp hlook
  have hmem : (syndrome d k checks, p) ∈ table := by
    rw [hsplit]
    exact List.mem_append_right l₁ List.mem_cons_self
  rw [flip_eq_xor]
  exact syndrome_xor_eq_zero (hentry _ hmem).symm

/-- **A perfect code decodes every word to a codeword**, when each entry of the table inverts a bit of its syndrome and
    no syndrome but 0 is missing. -/
theorem syndrome_decode {k : Nat} {checks : List (List Nat)} {table : List (Nat × Nat)}
    (hentry : ∀ e ∈ table, syndrome (unit e.2) k checks = e.1)
    (hall : ∀ s < 2 ^ checks.length, table.lookup s = none → s = 0) (d : Nat → Bool) :
    syndrome (decode k checks table d).2 k checks = 0 := by
  unfold decode
  cases hlook : table.lookup (syndrome d k checks) with
  | some p => exact syndrome_flip hentry hlook
  | none => exact hall _ (syndrome_lt d k checks) hlook

/-! ## Encoding -/

theorem encode_data {k : Nat} {checks : List (List Nat)} {d : Nat → Bool} {i : Nat} (hi : i < k) :
    encode k checks d i = d i := if_neg (by omega)

theorem encode_above {k : Nat} {checks : List (List Nat)} {d : Nat → Bool} {i : Nat}
    (hi : k + checks.length ≤ i) : encode k checks d i = d i := by
  unfold encode
  rw [if_pos (by omega), List.getElem?_eq_none (by omega)]

theorem syndrome_eq_zero {d : Nat → Bool} {k : Nat} {checks : List (List Nat)}
    (h : ∀ i idx, checks[i]? = some idx → parity d idx = d (k + i)) : syndrome d k checks = 0 := by
  induction checks generalizing k with
  | nil => rfl
  | cons idx checks ih =>
      have h0 : parity d idx = d k := h 0 idx rfl
      have hrest : syndrome d (k + 1) checks = 0 := ih fun i idx' hi => by
        rw [Nat.add_assoc, Nat.add_comm 1 i]
        exact h (i + 1) idx' hi
      rw [syndrome, hrest, h0, if_neg (not_not.mpr rfl)]

/-- **Encoded words are codewords**, when the checks sum data bits only. -/
theorem syndrome_encode {k : Nat} {checks : List (List Nat)} (hdata : ∀ idx ∈ checks, ∀ i ∈ idx, i < k)
    (d : Nat → Bool) : syndrome (encode k checks d) k checks = 0 := by
  refine syndrome_eq_zero fun i idx hidx => ?_
  have hpar : parity (encode k checks d) idx = parity d idx :=
    parity_congr fun j hj => encode_data (hdata idx (List.mem_of_getElem? hidx) j hj)
  rw [hpar]
  unfold encode
  rw [if_pos (Nat.le_add_right k i), Nat.add_sub_cancel_left, hidx]

end Lib.ParityCode

import Mathlib.Data.List.Basic

/-!
# `Lib.Streaming` — folding a message block by block

A message is folded over its blocks of `n` elements. What does not fill a block waits in a buffer; a folder **holds** a
message when its state is the fold over a prefix of whole blocks and its buffer is the rest. Whole blocks may be folded
from the buffer or straight from the input (`Holds.absorb`), so a folder that keeps this up holds the concatenation of
whatever pieces it was given.
-/

namespace Lib.Streaming

variable {σ α : Type}

/-- The fold over the whole blocks of `n` elements. -/
def foldBlocks (f : σ → List α → σ) (n : Nat) (s : σ) (l : List α) : σ :=
  (List.range (l.length / n)).foldl (fun s i => f s ((l.drop (n * i)).take n)) s

/-- The folder with the state `s` and the buffer `buf` holds the message `m`. -/
def Holds (f : σ → List α → σ) (n : Nat) (s₀ : σ) (m : List α) (s : σ) (buf : List α) : Prop :=
  ∃ p, p ++ buf = m ∧ n ∣ p.length ∧ s = foldBlocks f n s₀ p

@[simp] theorem foldBlocks_nil (f : σ → List α → σ) (n : Nat) (s : σ) : foldBlocks f n s [] = s := by
  simp [foldBlocks]

/-- Whole blocks in front are folded first. -/
theorem foldBlocks_append (f : σ → List α → σ) {n : Nat} (s : σ) {a : List α} (b : List α) (ha : n ∣ a.length) :
    foldBlocks f n s (a ++ b) = foldBlocks f n (foldBlocks f n s a) b := by
  rcases Nat.eq_zero_or_pos n with rfl | hn
  · simp [foldBlocks]
  obtain ⟨q, hq⟩ := ha
  have hcount : (a ++ b).length / n = q + b.length / n := by
    rw [List.length_append, hq, Nat.mul_add_div hn]
  have hfirst : a.length / n = q := by rw [hq, Nat.mul_div_cancel_left q hn]
  unfold foldBlocks
  rw [hcount, hfirst, List.range_add, List.foldl_append, List.foldl_map]
  have hhead : ∀ s, ∀ i ∈ List.range q, f s (((a ++ b).drop (n * i)).take n) = f s ((a.drop (n * i)).take n) := by
    intro s i hi
    have hroom : n * i + n ≤ a.length := by
      rw [hq, ← Nat.mul_succ]
      exact Nat.mul_le_mul_left n (List.mem_range.mp hi)
    rw [List.drop_append_of_le_length (by omega), List.take_append_of_le_length (by rw [List.length_drop]; omega)]
  have htail : ∀ s, ∀ i ∈ List.range (b.length / n),
      f s (((a ++ b).drop (n * (q + i))).take n) = f s ((b.drop (n * i)).take n) := by
    intro s i _
    rw [Nat.mul_add, ← hq, ← List.drop_drop, List.drop_left]
  rw [List.foldl_ext _ _ _ hhead, List.foldl_ext _ _ _ htail]

/-- A block by itself. -/
theorem foldBlocks_block (f : σ → List α → σ) {n : Nat} (hn : 0 < n) (s : σ) {l : List α} (h : l.length = n) :
    foldBlocks f n s l = f s l := by
  unfold foldBlocks
  rw [h, Nat.div_self hn]
  simp [List.take_of_length_le (Nat.le_of_eq h)]

section Holds

variable {f : σ → List α → σ} {n : Nat} {s₀ : σ}

theorem holds_start (f : σ → List α → σ) (n : Nat) (s₀ : σ) : Holds f n s₀ [] s₀ [] :=
  ⟨[], rfl, ⟨0, rfl⟩, (foldBlocks_nil f n s₀).symm⟩

/-- What comes in may wait. -/
theorem Holds.wait {m buf : List α} {s : σ} (h : Holds f n s₀ m s buf) (x : List α) :
    Holds f n s₀ (m ++ x) s (buf ++ x) := by
  obtain ⟨p, hp, hdvd, hs⟩ := h
  exact ⟨p, by rw [← List.append_assoc, hp], hdvd, hs⟩

/-- Whole blocks in front of the buffer may be folded. -/
theorem Holds.absorb {m x buf : List α} {s : σ} (h : Holds f n s₀ m s (x ++ buf)) (hx : n ∣ x.length) :
    Holds f n s₀ m (foldBlocks f n s x) buf := by
  obtain ⟨p, hp, hdvd, hs⟩ := h
  refine ⟨p ++ x, by rw [List.append_assoc, hp], ?_, ?_⟩
  · rw [List.length_append]
    exact Nat.dvd_add hdvd hx
  · rw [hs, foldBlocks_append f s₀ x hdvd]

/-- A folder with an empty buffer has folded the message. -/
theorem Holds.eq_fold {m : List α} {s : σ} (h : Holds f n s₀ m s []) : s = foldBlocks f n s₀ m := by
  obtain ⟨p, hp, -, hs⟩ := h
  rw [List.append_nil] at hp
  rw [hs, hp]

/-- The buffer holds the end of the message, to whole blocks. -/
theorem Holds.length_mod {m buf : List α} {s : σ} (h : Holds f n s₀ m s buf) : m.length % n = buf.length % n := by
  obtain ⟨p, hp, ⟨q, hq⟩, -⟩ := h
  rw [← hp, List.length_append, hq, Nat.mul_add_mod]

end Holds

end Lib.Streaming

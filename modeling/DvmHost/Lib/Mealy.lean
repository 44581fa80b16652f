import Mathlib.Logic.Function.Basic

/-!
# `Lib.Mealy` — machines that answer each input

A machine takes its state and an input to an answer and the next state. Over a stream of inputs it passes through the
states `stateAt` and gives the answers `answerAt`. A machine that undoes another one in every state, and follows it to
the same next state, undoes it over a stream (`answerAt_undo`); a machine whose next state is a function of the input
alone forgets everything but the last input (`answerAt_of_forgets`).
-/

namespace Lib.Mealy

variable {σ α β : Type}

/-- The state before input `n`. -/
def stateAt (turn : σ → α → β × σ) (s : σ) (x : Nat → α) : Nat → σ
  | 0 => s
  | n + 1 => (turn (stateAt turn s x n) (x n)).2

/-- The answer to input `n`. -/
def answerAt (turn : σ → α → β × σ) (s : σ) (x : Nat → α) (n : Nat) : β := (turn (stateAt turn s x n) (x n)).1

/-- `back` takes each answer of `turn` to its input, and goes to the same next state. -/
def Undoes (back : σ → β → α × σ) (turn : σ → α → β × σ) : Prop := ∀ s a, back s (turn s a).1 = (a, (turn s a).2)

theorem stateAt_congr (turn : σ → α → β × σ) (s : σ) {x y : Nat → α} {n : Nat} (h : ∀ i < n, x i = y i) :
    stateAt turn s x n = stateAt turn s y n := by
  induction n with
  | zero => rfl
  | succ n ih =>
      rw [stateAt, stateAt, ih fun i hi => h i (Nat.lt_succ_of_lt hi), h n (Nat.lt_succ_self n)]

theorem answerAt_congr (turn : σ → α → β × σ) (s : σ) {x y : Nat → α} {n : Nat} (h : ∀ i ≤ n, x i = y i) :
    answerAt turn s x n = answerAt turn s y n := by
  rw [answerAt, answerAt, stateAt_congr turn s fun i hi => h i (Nat.le_of_lt hi), h n (Nat.le_refl n)]

section Undo

variable {back : σ → β → α × σ} {turn : σ → α → β × σ} (h : Undoes back turn)

include h

theorem stateAt_undo (s : σ) (x : Nat → α) (n : Nat) :
    stateAt back s (answerAt turn s x) n = stateAt turn s x n := by
  induction n with
  | zero => rfl
  | succ n ih => rw [stateAt, stateAt, ih, answerAt, h]

/-- **A machine that undoes each answer undoes the stream.** -/
theorem answerAt_undo (s : σ) (x : Nat → α) (n : Nat) : answerAt back s (answerAt turn s x) n = x n := by
  rw [answerAt, stateAt_undo h, answerAt, h]

end Undo

/-- **A machine that keeps only its last input** answers input `n + 1` from that input and the one before. -/
theorem answerAt_of_forgets {turn : σ → α → β × σ} {keep : α → σ} (h : ∀ s a, (turn s a).2 = keep a) (s : σ)
    (x : Nat → α) (n : Nat) : answerAt turn s x (n + 1) = (turn (keep (x n)) (x (n + 1))).1 := by
  rw [answerAt, stateAt, h]

end Lib.Mealy

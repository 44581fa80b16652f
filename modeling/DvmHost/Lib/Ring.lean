import Mathlib.Data.Fin.Basic
import Mathlib.Data.List.Chain
import Mathlib.Data.List.TakeDrop

/-!
# `Lib.Ring` — positions on a ring and the windows read from it

A ring of `N` cells is walked by `next`, which wraps to 0 after the last cell. `ahead p k` is the cell `k`
steps from `p`, and `window f p n` lists `n` cells of `f` from `p` onwards, which is what a reading loop
with a wrapping index produces. A list stored from `p` is disturbed only by a write inside its window.

A sender that numbers what it sends walks a ring too. `Cyclic.Follows m l n` says that the numbers `l` advance by one
modulo `m`, and that the last of them, if there is one, is `n`: the state of a receiver that has `n` for the last number
it passed on. The next number keeps it (`Follows.next`), and before any number as many are `missing` as bring the last
to it (`advance_missing`).
-/

namespace Lib.Ring

variable {N : Nat} {α : Type}

/-- The following cell, 0 after the last. -/
def next (p : Fin N) : Fin N :=
  if h : p.val + 1 = N then ⟨0, by omega⟩ else ⟨p.val + 1, by omega⟩

/-- The cell `k` steps on. -/
def ahead (p : Fin N) : Nat → Fin N
  | 0 => p
  | k + 1 => ahead (next p) k

theorem val_next (p : Fin N) : (next p).val = (p.val + 1) % N := by
  unfold next
  split
  · next h => rw [h, Nat.mod_self]
  · next h => rw [Nat.mod_eq_of_lt]; exact Nat.lt_of_le_of_ne p.isLt h

theorem val_ahead (p : Fin N) (k : Nat) : (ahead p k).val = (p.val + k) % N := by
  induction k generalizing p with
  | zero => rw [ahead, Nat.add_zero, Nat.mod_eq_of_lt p.isLt]
  | succ k ih => rw [ahead, ih, val_next, Nat.mod_add_mod, Nat.add_assoc, Nat.add_comm 1 k]

theorem ahead_add (p : Fin N) (j k : Nat) : ahead p (j + k) = ahead (ahead p j) k := by
  ext
  rw [val_ahead, val_ahead, val_ahead, Nat.mod_add_mod, Nat.add_assoc]

theorem ahead_succ (p : Fin N) (k : Nat) : ahead p (k + 1) = next (ahead p k) := by
  rw [ahead_add]
  rfl

/-- Fewer than `N` steps apart are different cells. -/
theorem ahead_inj {p : Fin N} {j k : Nat} (hj : j < N) (hk : k < N) (h : ahead p j = ahead p k) : j = k := by
  have hval : (p.val + j) % N = (p.val + k) % N := by rw [← val_ahead, ← val_ahead, h]
  have hp := p.isLt
  rcases Nat.lt_or_ge (p.val + j) N with hpj | hpj <;> rcases Nat.lt_or_ge (p.val + k) N with hpk | hpk
  · rw [Nat.mod_eq_of_lt hpj, Nat.mod_eq_of_lt hpk] at hval; omega
  · rw [Nat.mod_eq_of_lt hpj, Nat.mod_eq_sub_mod hpk, Nat.mod_eq_of_lt (by omega)] at hval; omega
  · rw [Nat.mod_eq_sub_mod hpj, Nat.mod_eq_of_lt (by omega), Nat.mod_eq_of_lt hpk] at hval; omega
  · rw [Nat.mod_eq_sub_mod hpj, Nat.mod_eq_sub_mod hpk, Nat.mod_eq_of_lt (by omega),
      Nat.mod_eq_of_lt (by omega)] at hval
    omega

/-! ## Windows -/

/-- The `n` cells of `f` from `p` onwards. -/
def window (f : Fin N → α) (p : Fin N) : Nat → List α
  | 0 => []
  | n + 1 => f p :: window f (next p) n

@[simp] theorem length_window (f : Fin N → α) (p : Fin N) (n : Nat) : (window f p n).length = n := by
  induction n generalizing p with
  | zero => rfl
  | succ n ih => rw [window, List.length_cons, ih]

theorem window_add (f : Fin N → α) (p : Fin N) (m n : Nat) :
    window f p (m + n) = window f p m ++ window f (ahead p m) n := by
  induction m generalizing p with
  | zero => rw [Nat.zero_add]; rfl
  | succ m ih => rw [Nat.succ_add, window, window, ih, List.cons_append]; rfl

/-- The window's last cell. -/
theorem window_succ (f : Fin N → α) (p : Fin N) (n : Nat) :
    window f p (n + 1) = window f p n ++ [f (ahead p n)] := window_add f p n 1

theorem take_window (f : Fin N → α) (p : Fin N) {m n : Nat} (h : m ≤ n) :
    (window f p n).take m = window f p m := by
  obtain ⟨d, rfl⟩ := Nat.exists_eq_add_of_le h
  rw [window_add, List.take_left' (length_window f p m)]

theorem drop_window (f : Fin N → α) (p : Fin N) {m n : Nat} (h : m ≤ n) :
    (window f p n).drop m = window f (ahead p m) (n - m) := by
  obtain ⟨d, rfl⟩ := Nat.exists_eq_add_of_le h
  rw [window_add, List.drop_left' (length_window f p m), Nat.add_sub_cancel_left]

/-- Windows only see the cells they cover. -/
theorem window_congr {f g : Fin N → α} {p : Fin N} {n : Nat} (h : ∀ k < n, f (ahead p k) = g (ahead p k)) :
    window f p n = window g p n := by
  induction n with
  | zero => rfl
  | succ n ih =>
      rw [window_succ, window_succ, ih (fun k hk => h k (by omega)), h n (Nat.lt_succ_self n)]

/-- A write just past a window lengthens it. -/
theorem window_update {f : Fin N → α} {p : Fin N} {n : Nat} (hn : n < N) (x : α) :
    window (Function.update f (ahead p n) x) p (n + 1) = window f p n ++ [x] := by
  rw [window_succ, Function.update_self]
  congr 1
  refine window_congr fun k hk => Function.update_of_ne (fun he => ?_) _ _
  have hkn : k = n := ahead_inj (by omega) hn he
  omega

end Lib.Ring

/-! ## The bounded first-in-first-out queue

The abstract queue holds the elements accepted and not yet read. An implementation decides itself whether it
accepts an `add`; `Answers` says which answers the queue allows in a state, and `after` what it then holds.
-/

namespace Lib.Fifo

variable {α : Type}

inductive Op (α : Type)
  | add (xs : List α)
  | get (n : Nat)
  | peek (n : Nat)
  | clear

/-- The answer of a call: whether an `add` was accepted, or what a `get` or `peek` yielded. -/
inductive Answer (α : Type)
  | added (ok : Bool)
  | yielded (xs : Option (List α))
  | done

/-- The answers a queue holding `q` allows. -/
inductive Answers (q : List α) : Op α → Answer α → Prop
  | add (xs : List α) (ok : Bool) : Answers q (.add xs) (.added ok)
  | get {n : Nat} : n ≤ q.length → Answers q (.get n) (.yielded (some (q.take n)))
  | getUnderflow {n : Nat} : q.length < n → Answers q (.get n) (.yielded none)
  | peek {n : Nat} : n ≤ q.length → Answers q (.peek n) (.yielded (some (q.take n)))
  | peekUnderflow {n : Nat} : q.length < n → Answers q (.peek n) (.yielded none)
  | clear : Answers q .clear .done

/-- What a queue holding `q` holds after a call: an accepted `add` appends, a refused one empties the queue,
    and a `get` that yields drops what it yielded. -/
def after (q : List α) : Op α → Answer α → List α
  | .add xs, .added true => q ++ xs
  | .add _, .added false => []
  | .get n, .yielded (some _) => q.drop n
  | .clear, _ => []
  | _, _ => q

end Lib.Fifo

namespace Lib.Cyclic

variable {m : Nat}

/-- Each number is the one before it and one more, modulo `m`. -/
def Advancing (m : Nat) (l : List Nat) : Prop := l.IsChain fun a b => b = (a + 1) % m

/-- The numbers advance, up to the last one `n`. -/
structure Follows (m : Nat) (l : List Nat) (n : Nat) : Prop where
  advancing : Advancing m l
  last : ∀ a ∈ l.getLast?, a = n

theorem advancing_nil : Advancing m [] := List.isChain_nil

theorem Follows.nil (n : Nat) : Follows m [] n := ⟨advancing_nil, nofun⟩

/-- A single number follows itself. -/
theorem Follows.singleton (n : Nat) : Follows m [n] n :=
  ⟨List.isChain_singleton n, fun _ ha => (Option.some.inj ha).symm⟩

/-- **The next number** keeps the order. -/
theorem Follows.next {l : List Nat} {n : Nat} (h : Follows m l n) :
    Follows m (l ++ [(n + 1) % m]) ((n + 1) % m) := by
  refine ⟨h.advancing.append (List.isChain_singleton _) ?_, ?_⟩
  · intro a ha b hb
    rw [h.last a ha]
    exact (Option.some.inj hb).symm
  · intro a ha
    rw [List.getLast?_concat] at ha
    exact (Option.some.inj ha).symm

/-- How many numbers are missing between `a` and `b`. -/
def missing (m a b : Nat) : Nat := (b + m - (a + 1) % m) % m

/-- **As many as are missing** bring a number to the one before `b`. -/
theorem advance_missing {a b : Nat} (hb : b < m) : (a + missing m a b + 1) % m = b := by
  have hle : (a + 1) % m < m := Nat.mod_lt _ (Nat.zero_lt_of_lt hb)
  have hsum : (a + 1) % m + (b + m - (a + 1) % m) = b + m := by omega
  calc (a + missing m a b + 1) % m
      = ((a + 1) + missing m a b) % m := by rw [Nat.add_right_comm]
    _ = ((a + 1) % m + (b + m - (a + 1) % m)) % m := by rw [missing, Nat.add_mod_mod, Nat.mod_add_mod]
    _ = b := by rw [hsum, Nat.add_mod_right, Nat.mod_eq_of_lt hb]

/-- Nothing is missing before the next number. -/
theorem missing_next {a : Nat} (hm : 0 < m) : missing m a ((a + 1) % m) = 0 := by
  have hle : (a + 1) % m < m := Nat.mod_lt _ hm
  have hsum : (a + 1) % m + m - (a + 1) % m = m := by omega
  rw [missing, hsum, Nat.mod_self]

end Lib.Cyclic

import Mathlib.Data.List.Nodup

/-!
# `Lib.Blocks` — loops over the cells and over the blocks of a memory

A memory is a function of the position. `scatter` writes values at the positions of a loop, `gather` reads a
block of `n` cells (padded with `z`), and `onBlock` works on a block in place, as a function called on a
column or on a pointer into an array does. A loop of `onBlock`s over blocks that do not overlap gives every
block what its own turn alone would have written, whatever the order (`foldl_onBlock`).
-/

namespace Lib.Blocks

variable {ι α : Type}

/-- `for i in l: m[pos i] = val i`. -/
def scatter (l : List ι) (pos : ι → Nat) (val : ι → α) (m : Nat → α) : Nat → α :=
  l.foldl (fun m i k => if k = pos i then val i else m k) m

/-- The `n` cells of `m` at the positions `pos`. -/
def gather (z : α) (n : Nat) (pos : Nat → Nat) (m : Nat → α) : Nat → α :=
    fun a => if a < n then m (pos a) else z

/-- `f` applied in place to the `n` cells at the positions `pos`. -/
def onBlock (z : α) (n : Nat) (pos : Nat → Nat) (f : (Nat → α) → Nat → α) (m : Nat → α) : Nat → α :=
  scatter (List.range n) pos (f (gather z n pos m)) m

/-! ## Scattering -/

theorem scatter_of_not_mem {l : List ι} {pos : ι → Nat} {val : ι → α} {m : Nat → α} {k : Nat}
    (hk : ∀ i ∈ l, k ≠ pos i) : scatter l pos val m k = m k := by
  induction l generalizing m with
  | nil => rfl
  | cons j js ih =>
      show scatter js pos val _ k = m k
      rw [ih (fun i hi => hk i (List.mem_cons_of_mem j hi))]
      exact if_neg (hk j List.mem_cons_self)

/-- A position that one turn writes holds its value. -/
theorem scatter_of_mem {l : List ι} (hnd : l.Nodup) {pos : ι → Nat} {val : ι → α} {m : Nat → α} {i : ι}
    (hi : i ∈ l) (hinj : ∀ j ∈ l, pos j = pos i → j = i) : scatter l pos val m (pos i) = val i := by
  induction l generalizing m with
  | nil => exact absurd hi List.not_mem_nil
  | cons j js ih =>
      obtain ⟨hj, hjs⟩ := List.nodup_cons.mp hnd
      show scatter js pos val _ (pos i) = val i
      rcases List.mem_cons.mp hi with rfl | hin
      · have htail : ∀ j' ∈ js, pos i ≠ pos j' := fun j' hj' he =>
          hj (hinj j' (List.mem_cons_of_mem i hj') he.symm ▸ hj')
        rw [scatter_of_not_mem htail]
        exact if_pos rfl
      · exact ih hjs hin (fun j' hj' => hinj j' (List.mem_cons_of_mem j hj'))

/-- Scattering over `0 .. n-1`. -/
theorem scatter_range {n : Nat} {pos : Nat → Nat} {val : Nat → α} {m : Nat → α} {a : Nat} (ha : a < n)
    (hinj : ∀ b < n, pos b = pos a → b = a) : scatter (List.range n) pos val m (pos a) = val a :=
  scatter_of_mem List.nodup_range (List.mem_range.mpr ha) (fun b hb => hinj b (List.mem_range.mp hb))

theorem scatter_congr {l : List ι} {pos : ι → Nat} {val val' : ι → α} (h : ∀ i ∈ l, val i = val' i) (m : Nat → α) :
    scatter l pos val m = scatter l pos val' m := List.foldl_ext _ _ _ fun _ i hi => by rw [h i hi]

/-! ## Blocks -/

@[simp] theorem gather_of_lt {z : α} {n : Nat} {pos : Nat → Nat} {m : Nat → α} {a : Nat} (h : a < n) :
    gather z n pos m a = m (pos a) := if_pos h

@[simp] theorem gather_of_ge {z : α} {n : Nat} {pos : Nat → Nat} {m : Nat → α} {a : Nat} (h : n ≤ a) :
    gather z n pos m a = z := if_neg (Nat.not_lt.mpr h)

theorem gather_congr {z : α} {n : Nat} {pos pos' : Nat → Nat} {m m' : Nat → α}
    (h : ∀ a < n, m (pos a) = m' (pos' a)) : gather z n pos m = gather z n pos' m' := by
  funext a
  unfold gather
  split
  · next ha => exact h a ha
  · rfl

/-- Writing back what was read changes nothing. -/
theorem scatter_gather {z : α} {n : Nat} {pos : Nat → Nat} {m : Nat → α} :
    scatter (List.range n) pos (gather z n pos m) m = m := by
  suffices h : ∀ (l : List Nat) (m' : Nat → α), (∀ a ∈ l, a < n) → m' = m →
      scatter l pos (gather z n pos m) m' = m from
    h _ m (fun a ha => List.mem_range.mp ha) rfl
  intro l
  induction l with
  | nil => intro m' _ hm'; exact hm'
  | cons a as ih =>
      intro m' hl hm'
      refine ih _ (fun b hb => hl b (List.mem_cons_of_mem a hb)) ?_
      funext k
      subst hm'
      dsimp only
      split
      · next hk => rw [gather_of_lt (hl a List.mem_cons_self), hk]
      · rfl

theorem onBlock_of_not_mem {z : α} {n : Nat} {pos : Nat → Nat} {f : (Nat → α) → Nat → α} {m : Nat → α}
    {k : Nat} (hk : ∀ a < n, k ≠ pos a) : onBlock z n pos f m k = m k :=
  scatter_of_not_mem (fun a ha => hk a (List.mem_range.mp ha))

/-- The blocks of the turns in `l` have no cell in common. -/
def Disjoint (n : Nat) (pos : ι → Nat → Nat) (l : List ι) : Prop :=
  ∀ i ∈ l, ∀ j ∈ l, ∀ a < n, ∀ b < n, pos i a = pos j b → i = j ∧ a = b

/-- Blocks leave the cells outside them. -/
theorem foldl_onBlock_of_not_mem {z : α} {n : Nat} {pos : ι → Nat → Nat} {f : (Nat → α) → Nat → α}
    {l : List ι} {m : Nat → α} {k : Nat} (hk : ∀ i ∈ l, ∀ a < n, k ≠ pos i a) :
    l.foldl (fun m i => onBlock z n (pos i) f m) m k = m k := by
  induction l generalizing m with
  | nil => rfl
  | cons j js ih =>
      rw [List.foldl_cons, ih (fun i hi => hk i (List.mem_cons_of_mem j hi)),
        onBlock_of_not_mem (hk j List.mem_cons_self)]

/-- **The block rule.** In a loop over disjoint blocks each block holds what `f` makes of it. -/
theorem foldl_onBlock {z : α} {n : Nat} {pos : ι → Nat → Nat} {f : (Nat → α) → Nat → α} {l : List ι}
    (hnd : l.Nodup) (hdis : Disjoint n pos l) {m : Nat → α} {i : ι} (hi : i ∈ l) {a : Nat} (ha : a < n) :
    l.foldl (fun m i => onBlock z n (pos i) f m) m (pos i a) = f (gather z n (pos i) m) a := by
  induction l generalizing m with
  | nil => exact absurd hi List.not_mem_nil
  | cons j js ih =>
      obtain ⟨hj, hjs⟩ := List.nodup_cons.mp hnd
      rw [List.foldl_cons]
      rcases List.mem_cons.mp hi with rfl | hin
      · rw [foldl_onBlock_of_not_mem]
        · exact scatter_range ha fun b hb he => (hdis i hi i hi b hb a ha he).2
        · intro j' hj' b hb he
          have hij := (hdis i hi j' (List.mem_cons_of_mem i hj') a ha b hb he).1
          exact hj (hij ▸ hj')
      · have htail : Disjoint n pos js := fun i' hi' j' hj' =>
          hdis i' (List.mem_cons_of_mem j hi') j' (List.mem_cons_of_mem j hj')
        rw [ih hjs htail hin]
        congr 1
        refine gather_congr fun b hb => onBlock_of_not_mem fun c hc he => ?_
        have hij := (hdis i hi j List.mem_cons_self b hb c hc he).1
        exact hj (hij ▸ hin)

/-- The block rule for whole blocks, when `f` keeps the padding. -/
theorem gather_foldl_onBlock {z : α} {n : Nat} {pos : ι → Nat → Nat} {f : (Nat → α) → Nat → α} {l : List ι}
    (hnd : l.Nodup) (hdis : Disjoint n pos l) (hpad : ∀ g a, n ≤ a → g a = z → f g a = z)
    {m : Nat → α} {i : ι} (hi : i ∈ l) :
    gather z n (pos i) (l.foldl (fun m i => onBlock z n (pos i) f m) m) = f (gather z n (pos i) m) := by
  funext a
  rcases Nat.lt_or_ge a n with ha | ha
  · rw [gather_of_lt ha, foldl_onBlock hnd hdis hi ha]
  · rw [gather_of_ge ha, hpad _ a ha (gather_of_ge ha)]

end Lib.Blocks

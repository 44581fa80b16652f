import Mathlib.Data.List.Basic
import Mathlib.Data.List.Induction

/-!
# `Lib.Run` — labelled runs and guarded invariants

A system is a step relation `step : σ → α → σ → Prop` between states, labelled by the operation that was
called. A **run** from a state lists the operations together with the state each of them left, so a
statement about "every reachable state of every run" ranges over the states of an arbitrary `Run`.

Two rules carry every whole-run result of the development:

* `Run.states_of_invariant` — an invariant that every step preserves holds in every state of the run;
* `Run.states_iff_guarded` — when a property survives exactly the steps that meet a guard, a run keeps the
  property throughout **iff** every step of it meets the guard in the state it starts from.
-/

namespace Lib

variable {σ α : Type}

/-- A run of `step` from a state: each entry is an operation and the state it left. -/
inductive Run (step : σ → α → σ → Prop) : σ → List (α × σ) → Prop where
  | nil {s} : Run step s []
  | cons {s a s' l} : step s a s' → Run step s' l → Run step s ((a, s') :: l)

/-- `P` holds in every state of the run, the first one included. -/
def States (P : σ → Prop) (s : σ) (l : List (α × σ)) : Prop := P s ∧ ∀ x ∈ l, P x.2

/-- Every operation of the run meets `G` in the state it was called in. -/
def Guarded (G : σ → α → Prop) : σ → List (α × σ) → Prop
  | _, [] => True
  | s, (a, s') :: l => G s a ∧ Guarded G s' l

@[simp] theorem states_nil {P : σ → Prop} {s : σ} : States (α := α) P s [] ↔ P s := by
  simp [States]

@[simp] theorem states_cons {P : σ → Prop} {s s' : σ} {a : α} {l : List (α × σ)} :
    States P s ((a, s') :: l) ↔ P s ∧ States P s' l := by
  simp [States]

@[simp] theorem guarded_nil {G : σ → α → Prop} {s : σ} : Guarded G s [] ↔ True := Iff.rfl

@[simp] theorem guarded_cons {G : σ → α → Prop} {s s' : σ} {a : α} {l : List (α × σ)} :
    Guarded G s ((a, s') :: l) ↔ G s a ∧ Guarded G s' l := Iff.rfl

/-- A property of all states is a property of the first. -/
theorem States.head {P : σ → Prop} {s : σ} {l : List (α × σ)} (h : States P s l) : P s := h.1

theorem States.mono {P Q : σ → Prop} {s : σ} {l : List (α × σ)} (hPQ : ∀ s, P s → Q s)
    (h : States P s l) : States Q s l :=
  ⟨hPQ s h.1, fun x hx => hPQ x.2 (h.2 x hx)⟩

variable {step : σ → α → σ → Prop}

/-- **The invariant rule.** What the first state has and every step keeps, every state of the run has. -/
theorem Run.states_of_invariant {I : σ → Prop} (hstep : ∀ {s a s'}, I s → step s a s' → I s')
    {s : σ} {l : List (α × σ)} (hrun : Run step s l) (hs : I s) : States I s l := by
  induction hrun with
  | nil => simpa using hs
  | cons hst _ ih => exact states_cons.mpr ⟨hs, ih (hstep hs hst)⟩

/-- An invariant that guarded steps keep holds throughout a guarded run. -/
theorem Run.states_of_guarded {I : σ → Prop} {G : σ → α → Prop} (hkeep : ∀ {s a s'}, I s → G s a → step s a s' → I s')
    {s : σ} {l : List (α × σ)} (hrun : Run step s l) (hs : I s) (hguard : Guarded G s l) : States I s l := by
  induction hrun with
  | nil => simpa using hs
  | cons hst _ ih =>
      obtain ⟨hg, hrest⟩ := guarded_cons.mp hguard
      exact states_cons.mpr ⟨hs, ih (hkeep hs hg hst) hrest⟩

/-- **The guarded-invariant rule.** `I` is the auxiliary invariant, `P` the property of interest. If a step
    from `I ∧ P` keeps both when its guard holds, and can keep `P` only when its guard holds, then `P`
    holds throughout a run exactly when the run is guarded. -/
theorem Run.states_iff_guarded {I P : σ → Prop} {G : σ → α → Prop}
    (hkeep : ∀ {s a s'}, I s → P s → G s a → step s a s' → I s' ∧ P s')
    (hbreak : ∀ {s a s'}, I s → P s → step s a s' → P s' → G s a)
    {s : σ} {l : List (α × σ)} (hrun : Run step s l) (hI : I s) (hP : P s) :
    States P s l ↔ Guarded G s l := by
  induction hrun with
  | nil => simpa using hP
  | @cons s a s' l hst _ ih =>
      rw [states_cons, guarded_cons]
      constructor
      · rintro ⟨-, hrest⟩
        have hg : G s a := hbreak hI hP hst hrest.head
        obtain ⟨hI', hP'⟩ := hkeep hI hP hg hst
        exact ⟨hg, (ih hI' hP').mp hrest⟩
      · rintro ⟨hg, hrest⟩
        obtain ⟨hI', hP'⟩ := hkeep hI hP hg hst
        exact ⟨hP, (ih hI' hP').mpr hrest⟩

/-- **The guarded-invariant rule for states and steps.** `P` is of the states, `H` of the steps: from `I ∧ P` a step
    leaves `P` and has `H` exactly when its guard holds, and then `I` stays too. -/
theorem Run.states_and_guarded_iff {I P : σ → Prop} {G H : σ → α → Prop}
    (hkeep : ∀ {s a s'}, I s → P s → G s a → step s a s' → (I s' ∧ P s') ∧ H s a)
    (hbreak : ∀ {s a s'}, I s → P s → step s a s' → P s' → H s a → G s a)
    {s : σ} {l : List (α × σ)} (hrun : Run step s l) (hI : I s) (hP : P s) :
    States P s l ∧ Guarded H s l ↔ Guarded G s l := by
  induction hrun with
  | nil => simpa using hP
  | @cons s a s' l hst _ ih =>
      rw [states_cons, guarded_cons, guarded_cons]
      constructor
      · rintro ⟨⟨-, hrest⟩, hh, hsteps⟩
        have hg : G s a := hbreak hI hP hst hrest.head hh
        obtain ⟨⟨hI', hP'⟩, -⟩ := hkeep hI hP hg hst
        exact ⟨hg, (ih hI' hP').mp ⟨hrest, hsteps⟩⟩
      · rintro ⟨hg, hrest⟩
        obtain ⟨⟨hI', hP'⟩, hh⟩ := hkeep hI hP hg hst
        obtain ⟨hstates, hsteps⟩ := (ih hI' hP').mpr hrest
        exact ⟨⟨hP, hstates⟩, hh, hsteps⟩

/-- What every step from `I ∧ P` has, every step of a guarded run has. -/
theorem Run.guarded_of_guarded {I P : σ → Prop} {G H : σ → α → Prop}
    (hkeep : ∀ {s a s'}, I s → P s → G s a → step s a s' → I s' ∧ P s')
    (hhas : ∀ {s a s'}, I s → P s → step s a s' → H s a)
    {s : σ} {l : List (α × σ)} (hrun : Run step s l) (hI : I s) (hP : P s) (hguard : Guarded G s l) :
    Guarded H s l := by
  induction hrun with
  | nil => trivial
  | @cons s a s' l hst _ ih =>
      obtain ⟨hg, hrest⟩ := hguard
      obtain ⟨hI', hP'⟩ := hkeep hI hP hg hst
      exact ⟨hhas hI hP hst, ih hI' hP' hrest⟩

/-- What every step from a state of the invariant has, every step of a run has. -/
theorem Run.guarded_of_invariant {I : σ → Prop} {H : σ → α → Prop} (hstep : ∀ {s a s'}, I s → step s a s' → I s')
    (hhas : ∀ {s}, I s → ∀ a, H s a) {s : σ} {l : List (α × σ)} (hrun : Run step s l) (hI : I s) : Guarded H s l := by
  induction hrun with
  | nil => trivial
  | cons hst _ ih => exact ⟨hhas hI _, ih (hstep hI hst)⟩

/-- **The congruence rule.** Under an invariant two guards that say the same of every step say the same of a run. -/
theorem Run.guarded_congr {I : σ → Prop} {G H : σ → α → Prop} (hstep : ∀ {s a s'}, I s → step s a s' → I s')
    (hiff : ∀ {s}, I s → ∀ a, G s a ↔ H s a) {s : σ} {l : List (α × σ)} (hrun : Run step s l) (hI : I s) :
    Guarded G s l ↔ Guarded H s l := by
  induction hrun with
  | nil => exact Iff.rfl
  | cons hst _ ih => rw [guarded_cons, guarded_cons, hiff hI, ih (hstep hI hst)]

/-! ## The end of a run -/

/-- The state that a run ends in. -/
def endOf (s : σ) : List (α × σ) → σ
  | [] => s
  | (_, s') :: l => endOf s' l

@[simp] theorem endOf_nil {s : σ} : endOf s ([] : List (α × σ)) = s := rfl

@[simp] theorem endOf_append {s : σ} {l l' : List (α × σ)} : endOf s (l ++ l') = endOf (endOf s l) l' := by
  induction l generalizing s with
  | nil => rfl
  | cons x l ih => exact ih

theorem endOf_concat {s s' : σ} {a : α} {l : List (α × σ)} : endOf s (l ++ [(a, s')]) = s' := endOf_append

/-- What all states have, the last one has. -/
theorem States.endOf {P : σ → Prop} {s : σ} {l : List (α × σ)} (h : States P s l) : P (endOf s l) := by
  induction l generalizing s with
  | nil => exact h.head
  | cons x l ih => exact ih (states_cons.mp h).2

/-- A run is a run up to any of its states and a run from there. -/
theorem run_append_iff {s : σ} {l l' : List (α × σ)} :
    Run step s (l ++ l') ↔ Run step s l ∧ Run step (Lib.endOf s l) l' := by
  induction l generalizing s with
  | nil => exact ⟨fun h => ⟨.nil, h⟩, fun h => h.2⟩
  | cons x l ih =>
      obtain ⟨b, t⟩ := x
      constructor
      · rintro (_ | ⟨hst, hrest⟩)
        obtain ⟨hl, hl'⟩ := ih.mp hrest
        exact ⟨.cons hst hl, hl'⟩
      · rintro ⟨_ | ⟨hst, hl⟩, hl'⟩
        exact .cons hst (ih.mpr ⟨hl, hl'⟩)

/-- A run and one more step. -/
theorem run_concat_iff {s s' : σ} {a : α} {l : List (α × σ)} :
    Run step s (l ++ [(a, s')]) ↔ Run step s l ∧ step (Lib.endOf s l) a s' := by
  rw [run_append_iff]
  refine and_congr_right fun _ => ⟨?_, fun hst => .cons hst .nil⟩
  rintro (_ | ⟨hst, -⟩)
  exact hst

/-! ## Runs of a function

A system whose calls are functions runs deterministically; `trace` is that run. -/

/-- The run of `exec` over a list of operations. -/
def trace (exec : σ → α → σ) : σ → List α → List (α × σ)
  | _, [] => []
  | s, a :: as => (a, exec s a) :: trace exec (exec s a) as

theorem run_trace {exec : σ → α → σ} (h : ∀ s a, step s a (exec s a)) (as : List α) :
    ∀ s, Run step s (trace exec s as) := by
  induction as with
  | nil => intro s; exact .nil
  | cons a as ih => intro s; exact .cons (h s a) (ih _)

/-- A guard that looks at a part of the state is a guard of the run of that part. -/
theorem guarded_trace_map {τ : Type} {exec : σ → α → σ} {exec' : τ → α → τ} {π : σ → τ}
    (hπ : ∀ s a, π (exec s a) = exec' (π s) a) (G : τ → α → Prop) (as : List α) :
    ∀ s, Guarded (fun s a => G (π s) a) s (trace exec s as) ↔ Guarded G (π s) (trace exec' (π s) as) := by
  induction as with
  | nil => exact fun _ => Iff.rfl
  | cons a as ih =>
      intro s
      unfold trace
      rw [guarded_cons, guarded_cons, ih, hπ]

/-- The run of a function that need not have a result. -/
def traceOption (next : σ → α → Option σ) : σ → List α → Option (List (α × σ))
  | _, [] => some []
  | s, a :: as => do
      let s' ← next s a
      let l ← traceOption next s' as
      some ((a, s') :: l)

theorem run_traceOption {next : σ → α → Option σ} {as : List α} {s : σ} {l : List (α × σ)}
    (h : traceOption next s as = some l) : Run (fun s a s' => next s a = some s') s l := by
  induction as generalizing s l with
  | nil =>
      rw [← Option.some.inj h]
      exact .nil
  | cons a as ih =>
      obtain ⟨s', hs', h⟩ := Option.bind_eq_some_iff.mp h
      obtain ⟨l', hl', h⟩ := Option.bind_eq_some_iff.mp h
      rw [← Option.some.inj h]
      exact .cons hs' (ih hl')

/-- The operations that `p` marks, numbered from zero: there is a first one, a second one and so on. -/
theorem exists_marked {p : α → Bool} {as : List α} {n : Nat} (h : n < as.countP p) :
    ∃ pre a post, as = pre ++ a :: post ∧ p a = true ∧ pre.countP p = n := by
  induction as generalizing n with
  | nil => simp at h
  | cons b as ih =>
      by_cases hb : p b = true
      · cases n with
        | zero => exact ⟨[], b, as, rfl, hb, rfl⟩
        | succ n =>
            rw [List.countP_cons_of_pos hb] at h
            obtain ⟨pre, a, post, heq, ha, hcount⟩ := ih (Nat.lt_of_succ_lt_succ h)
            refine ⟨b :: pre, a, post, by rw [heq, List.cons_append], ha, ?_⟩
            rw [List.countP_cons_of_pos hb, hcount]
      · rw [List.countP_cons_of_neg hb] at h
        obtain ⟨pre, a, post, heq, ha, hcount⟩ := ih h
        refine ⟨b :: pre, a, post, by rw [heq, List.cons_append], ha, ?_⟩
        rw [List.countP_cons_of_neg hb, hcount]

end Lib

/-! ## Calls that may never return

A call on an object returns an answer and the object it leaves, or nothing, if it never returns: then no later call
returns either. A run of calls goes through `Option` states for that. `Completes` says that a call returns, leaves the
object free for the next and does what it should; `completes_iff` takes a condition for one call on a free object to
a condition for runs.
-/

namespace Lib

variable {T C A : Type}

/-- A call, from an object that the calls before have left, if they all returned. -/
def CallStep (exec : T → C → Option (A × T)) (s : Option T) (c : C) (s' : Option T) : Prop :=
  s' = s.bind fun t => (exec t c).map Prod.snd

/-- The call returns, leaves the object free, and does what it should. -/
def Completes (exec : T → C → Option (A × T)) (free : T → Prop) (post : T → C → A → T → Prop) (s : Option T) (c : C) :
    Prop :=
  ∃ t a t', s = some t ∧ exec t c = some (a, t') ∧ free t' ∧ post t c a t'

/-- A condition on the object that a call finds, if it finds one. -/
def Provided (safe : T → C → Prop) (s : Option T) (c : C) : Prop := ∀ t, s = some t → safe t c

/-- The run of a row of calls. -/
def callTrace (exec : T → C → Option (A × T)) : Option T → List C → List (C × Option T) :=
  trace fun s c => s.bind fun t => (exec t c).map Prod.snd

variable {exec : T → C → Option (A × T)} {free : T → Prop} {post : T → C → A → T → Prop} {safe : T → C → Prop}

theorem run_callTrace (s : Option T) (calls : List C) : Run (CallStep exec) s (callTrace exec s calls) :=
  run_trace (fun s c => show CallStep exec s c _ from rfl) calls s

/-- **The rule.** If on a free object a call completes exactly when it is safe, then from a free object all calls of a
    run complete exactly when all are safe. -/
theorem completes_iff (hcall : ∀ t c, free t → (Completes exec free post (some t) c ↔ safe t c)) {t : T}
    {l : List (C × Option T)} (hfree : free t) (hrun : Run (CallStep exec) (some t) l) :
    Guarded (Completes exec free post) (some t) l ↔ Guarded (Provided safe) (some t) l := by
  have hnext : ∀ {t c s'}, Completes exec free post (some t) c → CallStep exec (some t) c s' →
      ∃ t', s' = some t' ∧ free t' := by
    rintro t c s' ⟨t₀, a, t', ht, hexec, hfree', -⟩ hstep
    obtain rfl := Option.some.inj ht
    refine ⟨t', ?_, hfree'⟩
    rw [hstep, Option.bind_some, hexec]
    rfl
  induction l generalizing t with
  | nil => exact Iff.rfl
  | cons x l ih =>
      obtain ⟨c, s'⟩ := x
      cases hrun with
      | cons hstep hrest =>
          rw [guarded_cons, guarded_cons]
          have hprovided : Provided safe (some t) c ↔ safe t c :=
            ⟨fun h => h t rfl, fun h t₀ ht => Option.some.inj ht ▸ h⟩
          rw [hprovided, ← hcall t c hfree]
          refine and_congr_right fun hcompletes => ?_
          obtain ⟨t', rfl, hfree'⟩ := hnext hcompletes hstep
          exact ih hfree' hrest

end Lib

/-! ## Sessions that climb rung by rung

A session is absent, or it has a token and stands on a rung. A step can drop it, leave it where it is, open it on
rung zero with a new token, or take it one rung up; the operation that does either is one of that rung for the
session's token. Then a session that stands on rung `k` has climbed the rungs `0` to `k` in that order, each by an
operation of its own, and has been there with the same token ever since the first of them (`climbed`). -/

namespace Lib

variable {σ α τ : Type}

/-- The steps move the session that `pos` shows along the rungs. -/
def Ladder (step : σ → α → σ → Prop) (pos : σ → Option (τ × Nat)) (rung : Nat → τ → α → Prop) : Prop :=
  ∀ s a s', step s a s' → pos s' = none ∨ pos s' = pos s ∨
    (∃ t, pos s = none ∧ pos s' = some (t, 0) ∧ rung 0 t a) ∨
    ∃ t k, pos s = some (t, k) ∧ pos s' = some (t, k + 1) ∧ rung (k + 1) t a

/-- The session is there with the token `t` in every state that is left. -/
def Held (pos : σ → Option (τ × Nat)) (t : τ) (l : List (α × σ)) : Prop := ∀ x ∈ l, ∃ k, pos x.2 = some (t, k)

/-- The run `l` climbs the rungs `0` to `k` in order, and holds the session from the first one on. -/
def Climbed (pos : σ → Option (τ × Nat)) (rung : Nat → τ → α → Prop) (t : τ) : Nat → List (α × σ) → Prop
  | 0, l => ∃ pre a s post, l = pre ++ (a, s) :: post ∧ rung 0 t a ∧ Held pos t ((a, s) :: post)
  | k + 1, l => ∃ pre a s post, l = pre ++ (a, s) :: post ∧ rung (k + 1) t a ∧
      Held pos t ((a, s) :: post) ∧ Climbed pos rung t k pre

variable {step : σ → α → σ → Prop} {pos : σ → Option (τ × Nat)} {rung : Nat → τ → α → Prop}

theorem held_singleton {t : τ} {k : Nat} {a : α} {s : σ} (h : pos s = some (t, k)) : Held pos t [(a, s)] := by
  intro x hx
  rw [List.mem_singleton.mp hx]
  exact ⟨k, h⟩

theorem Held.concat {t : τ} {k : Nat} {l : List (α × σ)} {a : α} {s : σ} (h : Held pos t l)
    (hs : pos s = some (t, k)) : Held pos t (l ++ [(a, s)]) := by
  intro x hx
  rcases List.mem_append.mp hx with hx | hx
  · exact h x hx
  · exact held_singleton hs x hx

/-- A step that leaves the session where it is keeps what has been climbed. -/
theorem Climbed.concat {t : τ} {k k' : Nat} {l : List (α × σ)} {a : α} {s : σ}
    (h : Climbed pos rung t k l) (hs : pos s = some (t, k')) : Climbed pos rung t k (l ++ [(a, s)]) := by
  cases k with
  | zero =>
      obtain ⟨pre, b, u, post, rfl, hrung, hheld⟩ := h
      refine ⟨pre, b, u, post ++ [(a, s)], by simp, hrung, ?_⟩
      rw [← List.cons_append]
      exact hheld.concat hs
  | succ k =>
      obtain ⟨pre, b, u, post, rfl, hrung, hheld, hpre⟩ := h
      refine ⟨pre, b, u, post ++ [(a, s)], by simp, hrung, ?_, hpre⟩
      rw [← List.cons_append]
      exact hheld.concat hs

/-- **The ladder rule.** In a run from a state without the session, a session on rung `k` has climbed up to `k`. -/
theorem climbed (hladder : Ladder step pos rung) {s : σ} {l : List (α × σ)} (hrun : Run step s l)
    (hstart : pos s = none) {t : τ} {k : Nat} (hend : pos (endOf s l) = some (t, k)) :
    Climbed pos rung t k l := by
  induction l using List.reverseRecOn generalizing t k with
  | nil =>
      rw [endOf_nil, hstart] at hend
      exact absurd hend (by simp)
  | append_singleton l x ih =>
      obtain ⟨a, s'⟩ := x
      obtain ⟨hl, hstep⟩ := run_concat_iff.mp hrun
      rw [endOf_concat] at hend
      rcases hladder _ _ _ hstep with hgone | hkept | ⟨u, -, hnew, hrung⟩ | ⟨u, j, hbelow, habove, hrung⟩
      · rw [hgone] at hend
        exact absurd hend (by simp)
      · exact (ih hl (hkept ▸ hend)).concat hend
      · obtain ⟨rfl, rfl⟩ := Prod.mk.inj (Option.some.inj (hend.symm.trans hnew))
        exact ⟨l, a, s', [], rfl, hrung, held_singleton hend⟩
      · obtain ⟨rfl, rfl⟩ := Prod.mk.inj (Option.some.inj (hend.symm.trans habove))
        exact ⟨l, a, s', [], rfl, hrung, held_singleton hend, ih hl hbelow⟩

/-- In a run without an operation of rung zero a session that is absent stays absent. -/
theorem absent_of_unopened (hladder : Ladder step pos rung) {s : σ} {l : List (α × σ)} (hrun : Run step s l)
    (hstart : pos s = none) (hclosed : ∀ x ∈ l, ∀ t, ¬ rung 0 t x.1) : pos (endOf s l) = none := by
  induction hrun with
  | nil => exact hstart
  | @cons s a s' l hstep _ ih =>
      refine ih ?_ fun x hx => hclosed x (List.mem_cons_of_mem _ hx)
      rcases hladder _ _ _ hstep with hgone | hkept | ⟨u, -, -, hrung⟩ | ⟨u, j, hbelow, -, -⟩
      · exact hgone
      · exact hkept.trans hstart
      · exact absurd hrung (hclosed _ List.mem_cons_self u)
      · exact absurd (hstart.symm.trans hbelow) (by simp)

end Lib

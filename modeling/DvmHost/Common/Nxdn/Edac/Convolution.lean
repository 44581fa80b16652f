import Mathlib.Logic.Function.Basic
import DvmHost.Lib.Viterbi
import DvmHost.Common.Utils

/-!
# `Common.Nxdn.Edac.Convolution` — the rate 1/2 convolutional code of constraint length 5

`src/common/nxdn/edac/Convolution.cpp`. The encoder sends two sums of the newest bit and the four before it. The
decoder takes two symbols a step, each 0, 1 (erased) or 2, keeps a metric for each of the 16 states and, in
`m_decisions`, one word a step that says from which of its two older states each state was reached; `chainback`
follows the words back from state 0.

A path is a sequence of bits `y` of which bit `t + 4` enters at step `t` and bit `t` leaves; its state before the
step is `window y t`. The lemmas connect the loops to the metrics and survivors of `Lib.Viterbi`.
-/

namespace DvmHost.Nxdn

open Lib Lib.Viterbi

/-- The decoder: the metrics before a step and the ones it writes, the words of decisions, and the index `m_dp`
    points at. -/
structure Convolution where
  m_oldMetrics : Nat → UInt16
  m_newMetrics : Nat → UInt16
  m_decisions : Nat → Nat
  m_dp : Nat

namespace Convolution

/-- `BRANCH_TABLE1`. -/
def BRANCH_TABLE1 (i : Nat) : UInt8 := [0, 0, 0, 0, 2, 2, 2, 2].getD i 0

/-- `BRANCH_TABLE2`. -/
def BRANCH_TABLE2 (i : Nat) : UInt8 := [0, 2, 2, 0, 0, 2, 2, 0].getD i 0

/-- `NUM_OF_STATES_D2`. -/
def NUM_OF_STATES_D2 : Nat := 8

/-- `NUM_OF_STATES`. -/
def NUM_OF_STATES : Nat := 16

/-- `M`. -/
def M : UInt16 := 4

/-- `K`. -/
def K : Nat := 5

/-- `std::abs(a - b)`. -/
def absDiff (a b : UInt8) : Nat := ((a.toNat : Int) - b.toNat).natAbs

/-- `start`: no metrics yet, and the first word is next. -/
def start (c : Convolution) : Convolution :=
  { c with
    m_oldMetrics := fun i => if i < NUM_OF_STATES then 0 else c.m_oldMetrics i
    m_newMetrics := fun i => if i < NUM_OF_STATES then 0 else c.m_newMetrics i
    m_dp := 0 }

/-- The `metric` of a turn of the loop of `decode`. -/
def branchMetric (s0 s1 : UInt8) (i : Nat) : UInt16 :=
  UInt16.ofNat (absDiff (BRANCH_TABLE1 i) s0 + absDiff (BRANCH_TABLE2 i) s1)

/-- A turn of the loop of `decode`: the states `2 * i` and `2 * i + 1`. -/
def decodeTurn (s0 s1 : UInt8) (c : Convolution) (i : Nat) : Convolution :=
  let j := i * 2
  let metric := branchMetric s0 s1 i
  let m0 := c.m_oldMetrics i + metric
  let m1 := c.m_oldMetrics (i + NUM_OF_STATES_D2) + (M - metric)
  let decision0 := if m0 ≥ m1 then 1 else 0
  let newMetrics := Function.update c.m_newMetrics (j + 0) (if decision0 ≠ 0 then m1 else m0)
  let m0 := c.m_oldMetrics i + (M - metric)
  let m1 := c.m_oldMetrics (i + NUM_OF_STATES_D2) + metric
  let decision1 := if m0 ≥ m1 then 1 else 0
  { c with
    m_newMetrics := Function.update newMetrics (j + 1) (if decision1 ≠ 0 then m1 else m0)
    m_decisions := Function.update c.m_decisions c.m_dp
      (c.m_decisions c.m_dp ||| (decision1 <<< (j + 1) ||| decision0 <<< (j + 0))) }

/-- `decode`: false, with the metrics not yet exchanged, when the words are full. -/
def decode (c : Convolution) (s0 s1 : UInt8) : Bool × Convolution :=
  let c := { c with m_decisions := Function.update c.m_decisions c.m_dp 0 }
  let c := (List.range NUM_OF_STATES_D2).foldl (decodeTurn s0 s1) c
  let c := { c with m_dp := c.m_dp + 1 }
  if c.m_dp > 300 then (false, c)
  else (true, { c with m_oldMetrics := c.m_newMetrics, m_newMetrics := c.m_oldMetrics })

/-- The loop of `chainback`, with the bits left to write, `m_dp` and the state. -/
def chainbackLoop (decisions : Nat → Nat) : Nat → Nat → Nat → Bytes → Bytes
  | 0, _, _, out => out
  | nBits + 1, dp, state, out =>
      let dp := dp - 1
      let i := state >>> (9 - K)
      let bit := (decisions dp >>> i) &&& 1
      chainbackLoop decisions nBits dp (bit <<< 7 ||| state >>> 1) (writeBit out nBits (bit ≠ 0))

/-- `chainback`: the bits, and half the smallest metric. -/
def chainback (c : Convolution) (out : Bytes) (nBits : Nat) : Bytes × Nat :=
  let minCost := (List.range NUM_OF_STATES).foldl
    (fun m i => if c.m_oldMetrics i < m then c.m_oldMetrics i else m) (c.m_oldMetrics 0)
  (chainbackLoop c.m_decisions nBits c.m_dp 0 out, minCost.toNat / (M >>> 1).toNat)

/-- The shift register of `encode`. -/
structure Register where
  d1 : Bool
  d2 : Bool
  d3 : Bool
  d4 : Bool

/-- A turn of the loop of `encode`; `k` is `2 * i`. -/
def encodeTurn (inp : Bytes) (s : Register × Bytes) (i : Nat) : Register × Bytes :=
  let d := readBit inp i
  let g1 := d ^^ s.1.d3 ^^ s.1.d4
  let g2 := d ^^ s.1.d1 ^^ s.1.d2 ^^ s.1.d4
  let out := writeBit s.2 (2 * i) g1
  (⟨d, s.1.d1, s.1.d2, s.1.d3⟩, writeBit out (2 * i + 1) g2)

/-- `encode`. -/
def encode (inp out : Bytes) (nBits : Nat) : Bytes :=
  ((List.range nBits).foldl (encodeTurn inp) (⟨false, false, false, false⟩, out)).2

/-! ## Paths -/

/-- The state before step `t`: the newest bit is the lowest. -/
def window (y : Nat → Bool) (t : Nat) : Nat :=
  (y (t + 3)).toNat + 2 * (y (t + 2)).toNat + 4 * (y (t + 1)).toNat + 8 * (y t).toNat

/-- The state before `s` when `b` left. -/
def older (s : Nat) (b : Bool) : Nat := s / 2 + 8 * b.toNat

/-- The first symbol of step `t`. -/
def out1 (y : Nat → Bool) (t : Nat) : Bool := y (t + 4) ^^ y (t + 1) ^^ y t

/-- The second symbol of step `t`. -/
def out2 (y : Nat → Bool) (t : Nat) : Bool := y (t + 4) ^^ y (t + 3) ^^ y (t + 2) ^^ y t

/-- What a received symbol costs where the path sends `o`. -/
def symbolCost (o : Bool) (r : Nat) : Nat := ((2 * o.toNat : Int) - r).natAbs

/-- What the branch `b` into `s` costs at step `t`, for the received symbols `r`. -/
def branchCost (r : Bytes) (t s : Nat) (b : Bool) : Nat :=
  let metric := (branchMetric (r (2 * t)) (r (2 * t + 1)) (s / 2)).toNat
  if decide (s % 2 = 1) = b then metric else 4 - metric

theorem window_lt (y : Nat → Bool) (t : Nat) : window y t < 16 := by
  have h3 := Bool.toNat_le (y (t + 3))
  have h2 := Bool.toNat_le (y (t + 2))
  have h1 := Bool.toNat_le (y (t + 1))
  have h0 := Bool.toNat_le (y t)
  unfold window
  omega

theorem older_lt {s : Nat} (hs : s < 16) (b : Bool) : older s b < 16 := by
  have := Bool.toNat_le b
  unfold older
  omega

theorem window_succ (y : Nat → Bool) (t : Nat) :
    window y (t + 1) = (y (t + 4)).toNat + 2 * (y (t + 3)).toNat + 4 * (y (t + 2)).toNat
      + 8 * (y (t + 1)).toNat := rfl

/-- The windows of a sequence are a path, whose branches are the bits that leave. -/
theorem older_window (y : Nat → Bool) (t : Nat) : older (window y (t + 1)) (y t) = window y t := by
  have h4 := Bool.toNat_le (y (t + 4))
  rw [window_succ, window, older]
  omega

theorem isPath_window (y : Nat → Bool) (n : Nat) : IsPath older (window y) y n := fun t _ =>
  (older_window y t).symm

/-- A path that ends in the window of its branches is that of its branches. -/
theorem eq_window {p : Nat → Nat} {y : Nat → Bool} {n : Nat} (h : IsPath older p y n) (hend : p n = window y n)
    {t : Nat} (ht : t ≤ n) : p t = window y t :=
  states_eq_of_agree h (isPath_window y n) hend (fun _ _ _ => rfl) ht

/-- A branch costs what its two symbols cost. -/
theorem branchMetric_eq (a b c d e : Bool) (r0 r1 : Fin 3) :
    let s := a.toNat + 2 * b.toNat + 4 * c.toNat + 8 * d.toNat
    let metric := (branchMetric (UInt8.ofNat r0) (UInt8.ofNat r1) (s / 2)).toNat
    (if decide (s % 2 = 1) = e then metric else 4 - metric)
      = symbolCost (a ^^ d ^^ e) r0 + symbolCost (a ^^ b ^^ c ^^ e) r1 := by
  revert a b c d e r0 r1
  decide +kernel

theorem branchCost_window {r : Bytes} {t : Nat} (h0 : (r (2 * t)).toNat ≤ 2) (h1 : (r (2 * t + 1)).toNat ≤ 2)
    (y : Nat → Bool) :
    branchCost r t (window y (t + 1)) (y t)
      = symbolCost (out1 y t) (r (2 * t)).toNat + symbolCost (out2 y t) (r (2 * t + 1)).toNat := by
  have h := branchMetric_eq (y (t + 4)) (y (t + 3)) (y (t + 2)) (y (t + 1)) (y t)
    ⟨(r (2 * t)).toNat, by omega⟩ ⟨(r (2 * t + 1)).toNat, by omega⟩
  simp only [UInt8.ofNat_toNat] at h
  exact h

/-! ## A step of the decoder -/

/-- The sum that `decode` forms for the branch `b` into state `s`. -/
def branchSum (c : Convolution) (s0 s1 : UInt8) (s : Nat) (b : Bool) : UInt16 :=
  c.m_oldMetrics (older s b)
    + if decide (s % 2 = 1) = b then branchMetric s0 s1 (s / 2) else M - branchMetric s0 s1 (s / 2)

/-- Whether the second branch is taken. -/
def taken (c : Convolution) (s0 s1 : UInt8) (s : Nat) : Bool :=
  decide (branchSum c s0 s1 s true ≤ branchSum c s0 s1 s false)

/-- What the turns before `k` have done to a decoder whose next word is clear. -/
structure Turned (c : Convolution) (s0 s1 : UInt8) (k : Nat) (c' : Convolution) : Prop where
  oldMetrics : c'.m_oldMetrics = c.m_oldMetrics
  dp : c'.m_dp = c.m_dp
  metrics : ∀ s < 2 * k, c'.m_newMetrics s = branchSum c s0 s1 s (taken c s0 s1 s)
  word : ∀ s, (c'.m_decisions c.m_dp).testBit s = (decide (s < 2 * k) && taken c s0 s1 s)
  words : ∀ u ≠ c.m_dp, c'.m_decisions u = c.m_decisions u

theorem turned_zero {c : Convolution} (s0 s1 : UInt8) (hclear : c.m_decisions c.m_dp = 0) :
    Turned c s0 s1 0 c :=
  ⟨rfl, rfl, fun s h => absurd h (by omega), fun s => by simp [hclear], fun _ _ => rfl⟩

theorem branchSum_taken (c : Convolution) (s0 s1 : UInt8) (s : Nat) :
    branchSum c s0 s1 s (taken c s0 s1 s)
      = if (if branchSum c s0 s1 s false ≥ branchSum c s0 s1 s true then 1 else 0) ≠ 0 then
          branchSum c s0 s1 s true
        else branchSum c s0 s1 s false := by
  by_cases h : branchSum c s0 s1 s true ≤ branchSum c s0 s1 s false <;> simp [taken, h]

theorem toNat_taken (c : Convolution) (s0 s1 : UInt8) (s : Nat) :
    (taken c s0 s1 s).toNat = if branchSum c s0 s1 s false ≥ branchSum c s0 s1 s true then 1 else 0 := by
  by_cases h : branchSum c s0 s1 s true ≤ branchSum c s0 s1 s false <;> simp [taken, h]

/-- The two states a turn reaches, with what it stores for them. -/
theorem decodeTurn_eq {c c' : Convolution} (s0 s1 : UInt8) (k : Nat) (hold : c'.m_oldMetrics = c.m_oldMetrics) :
    decodeTurn s0 s1 c' k =
      { c' with
        m_newMetrics := Function.update
          (Function.update c'.m_newMetrics (k * 2) (branchSum c s0 s1 (k * 2) (taken c s0 s1 (k * 2))))
          (k * 2 + 1) (branchSum c s0 s1 (k * 2 + 1) (taken c s0 s1 (k * 2 + 1)))
        m_decisions := Function.update c'.m_decisions c'.m_dp
          (c'.m_decisions c'.m_dp ||| ((taken c s0 s1 (k * 2 + 1)).toNat <<< (k * 2 + 1)
            ||| (taken c s0 s1 (k * 2)).toNat <<< (k * 2))) } := by
  have hhalf0 : k * 2 / 2 = k := by omega
  have hhalf1 : (k * 2 + 1) / 2 = k := by omega
  have hmod1 : (k * 2 + 1) % 2 = 1 := by omega
  have h00 : branchSum c s0 s1 (k * 2) false = c.m_oldMetrics k + branchMetric s0 s1 k := by
    simp [branchSum, older, hhalf0]
  have h01 : branchSum c s0 s1 (k * 2) true
      = c.m_oldMetrics (k + NUM_OF_STATES_D2) + (M - branchMetric s0 s1 k) := by
    simp [branchSum, older, hhalf0, NUM_OF_STATES_D2]
  have h10 : branchSum c s0 s1 (k * 2 + 1) false = c.m_oldMetrics k + (M - branchMetric s0 s1 k) := by
    simp [branchSum, older, hhalf1, hmod1]
  have h11 : branchSum c s0 s1 (k * 2 + 1) true
      = c.m_oldMetrics (k + NUM_OF_STATES_D2) + branchMetric s0 s1 k := by
    simp [branchSum, older, hhalf1, hmod1, NUM_OF_STATES_D2]
  rw [branchSum_taken, branchSum_taken, toNat_taken, toNat_taken, h00, h01, h10, h11, ← hold]
  rfl

theorem turned_succ {c c' : Convolution} {s0 s1 : UInt8} {k : Nat} (h : Turned c s0 s1 k c') :
    Turned c s0 s1 (k + 1) (decodeTurn s0 s1 c' k) := by
  rw [decodeTurn_eq s0 s1 k h.oldMetrics]
  refine ⟨h.oldMetrics, h.dp, fun s hs => ?_, fun s => ?_, fun u hu => ?_⟩
  · show Function.update _ _ _ s = _
    by_cases h1 : s = k * 2 + 1
    · rw [h1, Function.update_self]
    · rw [Function.update_of_ne h1]
      by_cases h0 : s = k * 2
      · rw [h0, Function.update_self]
      · rw [Function.update_of_ne h0, h.metrics s (by omega)]
  · show (Function.update c'.m_decisions c'.m_dp _ c.m_dp).testBit s = _
    rw [h.dp, Function.update_self, Nat.testBit_or, Nat.testBit_or, h.word, Nat.testBit_shiftLeft,
      Nat.testBit_shiftLeft, Nat.testBit_bool_toNat, Nat.testBit_bool_toNat]
    -- the word has the bits below `2 * k`, and the turn sets two more
    rcases (by omega : s < k * 2 ∨ s = k * 2 ∨ s = k * 2 + 1 ∨ k * 2 + 1 < s) with hlt | rfl | rfl | hgt
    · simp [show s < 2 * k by omega, show s < 2 * (k + 1) by omega, show ¬ k * 2 ≤ s by omega,
        show ¬ k * 2 + 1 ≤ s by omega]
    · simp [show ¬ k * 2 < 2 * k by omega, show k * 2 < 2 * (k + 1) by omega]
    · simp [show ¬ k * 2 + 1 < 2 * k by omega, show k * 2 + 1 < 2 * (k + 1) by omega]
    · simp [show ¬ s < 2 * k by omega, show ¬ s < 2 * (k + 1) by omega, show ¬ s - (k * 2 + 1) = 0 by omega,
        show ¬ s - k * 2 = 0 by omega]
  · show Function.update c'.m_decisions c'.m_dp _ u = _
    rw [h.dp, Function.update_of_ne hu, h.words u hu]

theorem turned_foldl {c : Convolution} (s0 s1 : UInt8) (hclear : c.m_decisions c.m_dp = 0) (k : Nat) :
    Turned c s0 s1 k ((List.range k).foldl (decodeTurn s0 s1) c) := by
  induction k with
  | zero => exact turned_zero s0 s1 hclear
  | succ k ih =>
      rw [List.range_succ, List.foldl_append]
      exact turned_succ ih

/-- **A step.** While there is room for the word, `decode` succeeds, and each of the 16 states gets the smaller
    branch sum and its bit of the new word. -/
theorem decode_spec {c : Convolution} (s0 s1 : UInt8) (hroom : c.m_dp < 300) :
    (c.decode s0 s1).1 = true ∧ (c.decode s0 s1).2.m_dp = c.m_dp + 1 ∧
      (∀ s < 16, (c.decode s0 s1).2.m_oldMetrics s = branchSum c s0 s1 s (taken c s0 s1 s)) ∧
      (∀ s < 16, ((c.decode s0 s1).2.m_decisions c.m_dp).testBit s = taken c s0 s1 s) ∧
      ∀ u ≠ c.m_dp, (c.decode s0 s1).2.m_decisions u = c.m_decisions u := by
  obtain ⟨-, hdp, hnew, hword, hwords⟩ :=
    turned_foldl (c := { c with m_decisions := Function.update c.m_decisions c.m_dp 0 }) s0 s1
      (Function.update_self ..) 8
  have hfull : ¬ 300 < c.m_dp + 1 := by omega
  unfold decode
  simp only [NUM_OF_STATES_D2, hdp, gt_iff_lt, hfull, if_false]
  refine ⟨trivial, trivial, fun s hs => hnew s hs, fun s hs => ?_, fun u hu => ?_⟩
  · have h := hword s
    rw [decide_eq_true (show s < 2 * 8 from hs), Bool.true_and] at h
    exact h
  · rw [hwords u hu]
    exact Function.update_of_ne hu ..

/-! ## The whole block -/

/-- The loop of the channels that feeds `n` pairs of symbols to `decode` and gives up when it fails. -/
def decodeLoop (puncture : Bytes) (c : Convolution) : Nat → Option Convolution
  | 0 => some c
  | n + 1 =>
      (decodeLoop puncture c n).bind fun c =>
        match c.decode (puncture (2 * n)) (puncture (2 * n + 1)) with
        | (true, c) => some c
        | (false, _) => none

/-- The decoder after `t` steps on the symbols `r`. -/
structure Tracks (r : Bytes) (t : Nat) (c : Convolution) : Prop where
  dp : c.m_dp = t
  metrics : ∀ s < 16, (c.m_oldMetrics s).toNat = metric older (branchCost r) t s
  words : ∀ u < t, ∀ s < 16, (c.m_decisions u).testBit s = decision older (branchCost r) u s

/-- Every symbol is 0, 1 or 2. -/
def Soft (r : Bytes) : Prop := ∀ p, (r p).toNat ≤ 2

theorem branchMetric_le {r : Bytes} (hr : Soft r) (t i : Nat) :
    (branchMetric (r (2 * t)) (r (2 * t + 1)) i).toNat ≤ 4 := by
  have hsmall : ∀ r0 r1 : Fin 3, ∀ i < 9, (branchMetric (UInt8.ofNat r0) (UInt8.ofNat r1) i).toNat ≤ 4 := by
    decide +kernel
  have h0 := hr (2 * t)
  have h1 := hr (2 * t + 1)
  have hcap : branchMetric (r (2 * t)) (r (2 * t + 1)) i = branchMetric (r (2 * t)) (r (2 * t + 1)) (min i 8) := by
    rcases Nat.lt_or_ge i 8 with hi | hi
    · rw [Nat.min_eq_left hi.le]
    · simp [branchMetric, BRANCH_TABLE1, BRANCH_TABLE2, hi]
  have h := hsmall ⟨(r (2 * t)).toNat, by omega⟩ ⟨(r (2 * t + 1)).toNat, by omega⟩ (min i 8) (by omega)
  simp only [UInt8.ofNat_toNat] at h
  rwa [hcap]

theorem branchCost_le {r : Bytes} (hr : Soft r) (t s : Nat) (b : Bool) : branchCost r t s b ≤ 4 := by
  have := branchMetric_le hr t (s / 2)
  unfold branchCost
  dsimp only
  split <;> omega

/-- The metrics grow by at most 4 a step. -/
theorem metric_le_four_mul {r : Bytes} (hr : Soft r) (t s : Nat) : metric older (branchCost r) t s ≤ 4 * t := by
  induction t generalizing s with
  | zero => exact Nat.le_refl 0
  | succ t ih =>
      have := metric_succ_le older (branchCost r) t s true
      have := ih (older s true)
      have := branchCost_le hr t s true
      omega

/-- No sum overflows the 16 bits. -/
theorem toNat_branchSum {r : Bytes} (hr : Soft r) {t : Nat} (ht : t < 300) {c : Convolution} (h : Tracks r t c)
    {s : Nat} (hs : s < 16) (b : Bool) :
    (branchSum c (r (2 * t)) (r (2 * t + 1)) s b).toNat
      = metric older (branchCost r) t (older s b) + branchCost r t s b := by
  have hm := branchMetric_le hr t (s / 2)
  have hbound := metric_le_four_mul hr t (older s b)
  have hM : (M - branchMetric (r (2 * t)) (r (2 * t + 1)) (s / 2)).toNat
      = 4 - (branchMetric (r (2 * t)) (r (2 * t + 1)) (s / 2)).toNat :=
    UInt16.toNat_sub_of_le _ _ (UInt16.le_iff_toNat_le.mpr hm)
  unfold branchSum branchCost
  rw [UInt16.toNat_add, h.metrics _ (older_lt hs b)]
  dsimp only
  split
  · exact Nat.mod_eq_of_lt (by omega)
  · rw [hM]
    exact Nat.mod_eq_of_lt (by omega)

theorem tracks_start (r : Bytes) (c : Convolution) : Tracks r 0 c.start :=
  ⟨rfl, fun s hs => by simp [start, NUM_OF_STATES, hs, metric], fun u hu => absurd hu (Nat.not_lt_zero u)⟩

/-- **Add, compare, select.** A step of the decoder is a step of the metrics. -/
theorem tracks_decode {r : Bytes} (hr : Soft r) {t : Nat} (ht : t < 300) {c : Convolution} (h : Tracks r t c) :
    (c.decode (r (2 * t)) (r (2 * t + 1))).1 = true ∧
      Tracks r (t + 1) (c.decode (r (2 * t)) (r (2 * t + 1))).2 := by
  obtain ⟨hok, hdp, hnew, hword, hwords⟩ := decode_spec (c := c) (r (2 * t)) (r (2 * t + 1)) (by rw [h.dp]; exact ht)
  have htaken : ∀ s < 16, taken c (r (2 * t)) (r (2 * t + 1)) s = decision older (branchCost r) t s := by
    intro s hs
    unfold taken decision
    simp only [UInt16.le_iff_toNat_le, toNat_branchSum hr ht h hs]
  refine ⟨hok, by rw [hdp, h.dp], fun s hs => ?_, fun u hu s hs => ?_⟩
  · rw [hnew s hs, toNat_branchSum hr ht h hs, htaken s hs, metric_succ]
  · rcases Nat.lt_succ_iff_lt_or_eq.mp hu with hlt | rfl
    · rw [hwords u (by rw [h.dp]; omega), h.words u hlt s hs]
    · rw [← htaken s hs, ← hword s hs, h.dp]

theorem tracks_decodeLoop {r : Bytes} (hr : Soft r) (c : Convolution) {n : Nat} (hn : n ≤ 300) :
    ∃ c', decodeLoop r c.start n = some c' ∧ Tracks r n c' := by
  induction n with
  | zero => exact ⟨c.start, rfl, tracks_start r c⟩
  | succ n ih =>
      obtain ⟨c', hc', htracks⟩ := ih (by omega)
      obtain ⟨hok, hnext⟩ := tracks_decode hr (by omega) htracks
      refine ⟨(c'.decode (r (2 * n)) (r (2 * n + 1))).2, ?_, hnext⟩
      rw [decodeLoop, hc', Option.bind_some]
      split
      · rename_i heq
        rw [heq]
      · rename_i heq
        rw [heq] at hok
        cases hok

theorem decodeLoop_congr {r r' : Bytes} (c : Convolution) {n : Nat} (h : ∀ p < 2 * n, r p = r' p) :
    decodeLoop r c n = decodeLoop r' c n := by
  induction n with
  | zero => rfl
  | succ n ih =>
      rw [decodeLoop, decodeLoop, ih fun p hp => h p (by omega), h (2 * n) (by omega), h (2 * n + 1) (by omega)]

/-! ## Tracing back -/

theorem trace_lt (cost : Nat → Nat → Bool → Nat) (n k : Nat) : Viterbi.trace older cost n 0 k < 16 := by
  induction k with
  | zero => exact Nat.succ_pos 15
  | succ k ih => exact older_lt ih _

/-- The upper four bits of the state of `chainback` are the state of the trellis. -/
theorem shiftRight_next {state : Nat} (h : state >>> 4 < 16) (b : Bool) :
    (b.toNat <<< 7 ||| state >>> 1) >>> 4 = older (state >>> 4) b := by
  have hhigh : b.toNat <<< 7 >>> 4 = b.toNat <<< 3 := by cases b <;> rfl
  have hlow : state >>> 1 >>> 4 = state >>> 4 / 2 := by
    rw [← Nat.shiftRight_add, Nat.add_comm, Nat.shiftRight_add]
    rfl
  rw [Nat.shiftRight_or_distrib, hhigh, hlow, ← Nat.shiftLeft_add_eq_or_of_lt (by omega), Nat.shiftLeft_eq, older]
  omega

theorem testBit_word (w i : Nat) : (w >>> i) &&& 1 = (w.testBit i).toNat := by
  rw [Nat.testBit_eq_decide_div_mod_eq, Nat.and_one_is_mod, Nat.shiftRight_eq_div_pow]
  rcases Nat.mod_two_eq_zero_or_one (w / 2 ^ i) with h | h <;> simp [h]

theorem readBit_chainbackLoop {decisions : Nat → Nat} {cost : Nat → Nat → Bool → Nat} {T : Nat}
    (hwords : ∀ u < T, ∀ s < 16, (decisions u).testBit s = decision older cost u s) {n j : Nat} (hnj : n + j ≤ T)
    {state : Nat} (hstate : state >>> 4 = Viterbi.trace older cost T 0 j) (out : Bytes) (k : Nat) :
    readBit (chainbackLoop decisions n (T - j) state out) k
      = if k < n then choice older cost T 0 (T - j - n + k) else readBit out k := by
  induction n generalizing j state out with
  | zero => rw [chainbackLoop, if_neg (Nat.not_lt_zero k)]
  | succ n ih =>
      have hlt : state >>> 4 < 16 := hstate ▸ trace_lt cost T j
      have hbit : (decisions (T - j - 1) >>> (state >>> (9 - K))) &&& 1
          = (decision older cost (T - (j + 1)) (Viterbi.trace older cost T 0 j)).toNat := by
        rw [testBit_word, show 9 - K = 4 from rfl, hwords (T - j - 1) (by omega) _ hlt, hstate, Nat.sub_sub]
      have hnext : ((decision older cost (T - (j + 1)) (Viterbi.trace older cost T 0 j)).toNat <<< 7
          ||| state >>> 1) >>> 4 = Viterbi.trace older cost T 0 (j + 1) := by
        rw [shiftRight_next hlt, hstate, Viterbi.trace]
      rw [chainbackLoop, hbit, Nat.sub_sub, ih (by omega) hnext, readBit_writeBit]
      rcases Nat.lt_trichotomy k n with hk | rfl | hk
      · have hsub : T - (j + 1) - n + k = T - j - (n + 1) + k := by omega
        rw [if_pos hk, if_pos (by omega), hsub]
      · -- the bit this turn writes
        have hsub : T - j - (k + 1) + k = T - (j + 1) := by omega
        have hj : T - (T - (j + 1) + 1) = j := by omega
        rw [if_neg (Nat.lt_irrefl k), if_pos rfl, if_pos (Nat.lt_succ_self k), hsub, choice, survivor, hj]
        cases decision older cost (T - (j + 1)) (Viterbi.trace older cost T 0 j) <;> rfl
      · rw [if_neg (by omega), if_neg (by omega), if_neg (by omega)]

/-- **Chainback.** The bits are the branches of the survivor into state 0, but for the last four of them the bits
    that entered with the block. -/
theorem readBit_chainback {r : Bytes} {N : Nat} {c : Convolution} (h : Tracks r (N + 4) c) (out : Bytes) (k : Nat) :
    readBit (c.chainback out N).1 k
      = if k < N then choice older (branchCost r) (N + 4) 0 (k + 4) else readBit out k := by
  have hzero : (0 : Nat) >>> 4 = Viterbi.trace older (branchCost r) (N + 4) 0 0 := rfl
  have hrun := readBit_chainbackLoop (n := N) (j := 0) h.words (by omega) hzero out k
  rw [chainback, h.dp]
  rw [Nat.sub_zero, show N + 4 - N + k = k + 4 by omega] at hrun
  exact hrun

/-! ## The encoder -/

/-- The path of a block of bits: four zeros come before them. -/
def delayed (x : Nat → Bool) (t : Nat) : Bool := if t < 4 then false else x (t - 4)

theorem delayed_add (x : Nat → Bool) (t : Nat) : delayed x (t + 4) = x t := by
  rw [delayed, if_neg (by omega), Nat.add_sub_cancel]

/-- The register before turn `t`. -/
def registerAt (x : Nat → Bool) (t : Nat) : Register :=
  ⟨delayed x (t + 3), delayed x (t + 2), delayed x (t + 1), delayed x t⟩

theorem encodeTurn_eq (inp out : Bytes) (t : Nat) :
    encodeTurn inp (registerAt (readBit inp) t, out) t
      = (registerAt (readBit inp) (t + 1),
          writeBit (writeBit out (2 * t) (out1 (delayed (readBit inp)) t)) (2 * t + 1)
            (out2 (delayed (readBit inp)) t)) := by
  have hd : readBit inp t = delayed (readBit inp) (t + 4) := (delayed_add _ t).symm
  unfold encodeTurn registerAt out1 out2
  simp only [hd]

/-- What `encode` writes. -/
theorem encode_foldl (inp out : Bytes) (n : Nat) :
    ((List.range n).foldl (encodeTurn inp) (⟨false, false, false, false⟩, out)).1 = registerAt (readBit inp) n ∧
    ∀ k, readBit (encode inp out n) k
      = if k < 2 * n then
          if k % 2 = 0 then out1 (delayed (readBit inp)) (k / 2) else out2 (delayed (readBit inp)) (k / 2)
        else readBit out k := by
  induction n with
  | zero => exact ⟨rfl, fun k => by rw [if_neg (by omega)]; rfl⟩
  | succ n ih =>
      obtain ⟨hreg, hbits⟩ := ih
      have hstate : (List.range n).foldl (encodeTurn inp) (⟨false, false, false, false⟩, out)
          = (registerAt (readBit inp) n, encode inp out n) := Prod.ext hreg rfl
      have hstep : (List.range (n + 1)).foldl (encodeTurn inp) (⟨false, false, false, false⟩, out)
          = encodeTurn inp (registerAt (readBit inp) n, encode inp out n) n := by
        rw [List.range_succ, List.foldl_append, hstate]
        rfl
      rw [encodeTurn_eq] at hstep
      refine ⟨congrArg Prod.fst hstep, fun k => ?_⟩
      rw [encode, hstep, readBit_writeBit, readBit_writeBit, hbits]
      rcases (by omega : k < 2 * n ∨ k = 2 * n ∨ k = 2 * n + 1 ∨ 2 * n + 1 < k) with hk | rfl | rfl | hk
      · rw [if_neg (by omega), if_neg (by omega), if_pos hk, if_pos (show k < 2 * (n + 1) by omega)]
      · rw [if_neg (by omega), if_pos rfl, if_pos (by omega), if_pos (by omega), Nat.mul_div_cancel_left n (by omega)]
      · rw [if_pos rfl, if_pos (by omega), if_neg (by omega), show (2 * n + 1) / 2 = n by omega]
      · rw [if_neg (by omega), if_neg (by omega), if_neg (by omega), if_neg (by omega)]

/-- **The code.** Bit `k` of what `encode` writes is a symbol of step `k / 2` of the block's path. -/
theorem readBit_encode (inp out : Bytes) (n k : Nat) :
    readBit (encode inp out n) k
      = if k < 2 * n then
          if k % 2 = 0 then out1 (delayed (readBit inp)) (k / 2) else out2 (delayed (readBit inp)) (k / 2)
        else readBit out k := (encode_foldl inp out n).2 k

end Convolution

end DvmHost.Nxdn

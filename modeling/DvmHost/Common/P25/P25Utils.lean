import Mathlib.Data.List.Nodup
import Mathlib.Data.List.GetD
import DvmHost.Lib.Blocks
import DvmHost.Common.Utils

/-!
# `Common.P25.P25Utils` — P25 frames and their status symbols

`P25Utils::decode` and `P25Utils::encode` of `src/common/p25/P25Utils.cpp`. Every 72 bits of a frame end in a
status symbol of two bits, which the two functions step over with two cursors while they copy the bits of a
region out of the frame or into it. The bits they copy are those of `carried`, in order; that is all a caller
needs to know about them (`readBit_decode`, `readBit_encode`).
-/

namespace DvmHost

open Lib Lib.Blocks

namespace P25Utils

/-- `P25_SS0_START`. -/
def P25_SS0_START : Nat := 70

/-- `P25_SS1_START`. -/
def P25_SS1_START : Nat := 71

/-- `P25_SS_INCREMENT`. -/
def P25_SS_INCREMENT : Nat := 72

/-- The loop `while (ss0Pos < start)`, on `ss0Pos` and `ss1Pos`. -/
def seek (start ss0Pos ss1Pos : Nat) : Nat × Nat :=
  if ss0Pos < start then seek start (ss0Pos + P25_SS_INCREMENT) (ss1Pos + P25_SS_INCREMENT)
  else (ss0Pos, ss1Pos)
termination_by start - ss0Pos
decreasing_by unfold P25_SS_INCREMENT; omega

/-- The variables of the copying loops. -/
structure Cursor where
  ss0Pos : Nat
  ss1Pos : Nat
  n : Nat
  out : Bytes

/-- One turn: a status bit moves its cursor on, any other bit is copied. -/
def turn (copy : Nat → Nat → Bytes → Bytes) (s : Cursor) (i : Nat) : Cursor :=
  if i = s.ss0Pos then { s with ss0Pos := s.ss0Pos + P25_SS_INCREMENT }
  else if i = s.ss1Pos then { s with ss1Pos := s.ss1Pos + P25_SS_INCREMENT }
  else { s with out := copy i s.n s.out, n := s.n + 1 }

/-- What `decode` and `encode` share; they differ in how bit `i` of the frame and bit `n` of the other buffer
    are copied. -/
def walk (copy : Nat → Nat → Bytes → Bytes) (out : Bytes) (start stop : Nat) : Nat × Bytes :=
  let ss := seek start P25_SS0_START P25_SS1_START
  let s := (List.range' start (stop - start)).foldl (turn copy) ⟨ss.1, ss.2, 0, out⟩
  (s.n, s.out)

/-- `P25Utils::decode`: the number of bits, and `out`. -/
def decode (inp out : Bytes) (start stop : Nat) : Nat × Bytes :=
  walk (fun i n out => writeBit out n (readBit inp i)) out start stop

/-- `P25Utils::encode` on a range: the number of bits, and `out`. -/
def encode (inp out : Bytes) (start stop : Nat) : Nat × Bytes :=
  walk (fun i n out => writeBit out i (readBit inp n)) out start stop

/-- The loop `while (n < length)` of the overload on a length: `pos`, and `out`. -/
def place (inp : Bytes) (length : Nat) (s : Cursor) (pos : Nat) : Nat × Bytes :=
  if s.n < length then place inp length (turn (fun i n out => writeBit out i (readBit inp n)) s pos) (pos + 1)
  else (pos, s.out)
-- at most two turns in a row meet a cursor, and any other turn moves `n`
termination_by (length - s.n, if pos = s.ss0Pos then (if pos + 1 = s.ss1Pos then 2 else 1)
  else if pos = s.ss1Pos then (if pos + 1 = s.ss0Pos then 2 else 1) else 0)
decreasing_by
  rename_i h
  unfold turn P25_SS_INCREMENT
  rw [Prod.lex_def]
  dsimp only
  by_cases h0 : pos = s.ss0Pos
  · refine Or.inr ?_
    rw [if_pos h0, if_pos h0]
    refine ⟨rfl, ?_⟩
    dsimp only
    repeat' split
    all_goals omega
  · rw [if_neg h0, if_neg h0]
    by_cases h1 : pos = s.ss1Pos
    · refine Or.inr ?_
      rw [if_pos h1, if_pos h1]
      refine ⟨rfl, ?_⟩
      dsimp only
      repeat' split
      all_goals omega
    · refine Or.inl ?_
      rw [if_neg h1]
      dsimp only
      omega

/-- `P25Utils::encode` on a length: `pos`, and `out`. -/
def encodeLength (inp out : Bytes) (length : Nat) : Nat × Bytes :=
  place inp length ⟨P25_SS0_START, P25_SS1_START, 0, out⟩ 0

/-- `P25Utils::setBusyBits`. -/
def setBusyBits (data : Bytes) (ssOffset : Nat) (b1 b2 : Bool) : Bytes :=
  writeBit (writeBit data ssOffset b1) (ssOffset + 1) b2

/-- The loop `for (ss0Pos = P25_SS0_START; ss0Pos < length; ss0Pos += increment)`: the positions. -/
def symbolPositions (length increment : Nat) : List Nat :=
  List.range' P25_SS0_START ((length - P25_SS0_START + increment - 1) / increment) increment

/-- The loop over these positions. -/
def writeSymbols (data : Bytes) (length increment : Nat) (b1 b2 : Bool) : Bytes :=
  (symbolPositions length increment).foldl (fun data ss0Pos => setBusyBits data ss0Pos b1 b2) data

/-- `P25Utils::addBusyBits`: `length` is in bits. -/
def addBusyBits (data : Bytes) (length : Nat) (b1 b2 : Bool) : Bytes :=
  writeSymbols (writeSymbols data length P25_SS_INCREMENT true false) length (P25_SS_INCREMENT * 2) b1 b2

/-- The loop `while (v != 0U) { v &= v - 1U; errs++; }`. -/
def countErrs (v : UInt8) (errs : Nat) : Nat :=
  if v ≠ 0 then countErrs (v &&& (v - 1)) (errs + 1) else errs
termination_by v.toNat
decreasing_by
  rename_i h
  have hpos : 0 < v.toNat := Nat.pos_of_ne_zero fun h0 => h (UInt8.toNat_inj.mp h0)
  have hle : (v &&& (v - 1)).toNat ≤ (v - 1).toNat := by
    rw [UInt8.toNat_and]
    exact Nat.and_le_right
  have hpred : (v - 1).toNat = v.toNat - 1 := UInt8.toNat_sub_of_le v 1 (UInt8.le_iff_toNat_le.mpr hpos)
  omega

/-- `P25Utils::compare`. -/
def compare (data1 data2 : Bytes) (length : Nat) : Nat :=
  (List.range length).foldl (fun errs i => countErrs (data1 i ^^^ data2 i) errs) 0

/-! ## The bits that are copied -/

/-- The positions from `start` to `stop` that hold no status bit. -/
def carried (start stop : Nat) : List Nat :=
  (List.range' start (stop - start)).filter fun i => decide (i % 72 ≠ 70 ∧ i % 72 ≠ 71)

theorem nodup_carried (start stop : Nat) : (carried start stop).Nodup :=
  List.Nodup.filter _ List.nodup_range'

theorem mem_carried {start stop i : Nat} :
    i ∈ carried start stop ↔ (start ≤ i ∧ i < stop) ∧ i % 72 ≠ 70 ∧ i % 72 ≠ 71 := by
  unfold carried
  rw [List.mem_filter, List.mem_range'_1, decide_eq_true_iff]
  omega

/-- The first status bit of the first kind that is not before `t`. -/
def ss0At (t : Nat) : Nat := 72 * ((t + 1) / 72) + 70

/-- The first status bit of the second kind that is not before `t`. -/
def ss1At (t : Nat) : Nat := 72 * (t / 72) + 71

/-- Both cursors move until the first one is not before the region. -/
theorem seek_eq (start : Nat) : seek start 70 71 = (ss0At start, ss0At start + 1) := by
  suffices hk : ∀ d k, start + 72 ≤ 72 * k + 70 + 72 * d + 72 → 72 * k + 70 < start + 72 →
      seek start (72 * k + 70) (72 * k + 71) = (ss0At start, ss0At start + 1) from
    hk start 0 (by omega) (by omega)
  intro d
  induction d with
  | zero =>
      intro k hle hlt
      unfold seek
      rw [if_neg (by omega)]
      unfold ss0At
      exact Prod.ext (by dsimp only; omega) (by dsimp only; omega)
  | succ d ih =>
      intro k hle hlt
      unfold seek
      split
      · next hbefore =>
          have h0 : 72 * k + 70 + P25_SS_INCREMENT = 72 * (k + 1) + 70 := by unfold P25_SS_INCREMENT; omega
          have h1 : 72 * k + 71 + P25_SS_INCREMENT = 72 * (k + 1) + 71 := by unfold P25_SS_INCREMENT; omega
          rw [h0, h1]
          exact ih (k + 1) (by omega) (by omega)
      · next hafter =>
          unfold ss0At
          exact Prod.ext (by dsimp only; omega) (by dsimp only; omega)

/-- They then stand on the first status symbol, unless the region begins inside of one. -/
theorem ss0At_succ {start : Nat} (h : start % 72 ≠ 71) : ss0At start + 1 = ss1At start := by
  unfold ss0At ss1At
  omega

theorem carried_of_le {start stop : Nat} (h : stop ≤ start) : carried start stop = [] := by
  unfold carried
  rw [Nat.sub_eq_zero_of_le h]
  rfl

theorem carried_succ (start m : Nat) : carried start (start + (m + 1)) =
    carried start (start + m) ++ [start + m].filter fun i => decide (i % 72 ≠ 70 ∧ i % 72 ≠ 71) := by
  unfold carried
  rw [Nat.add_sub_cancel_left, Nat.add_sub_cancel_left, List.range'_1_concat, List.filter_append]

/-- A turn with the cursors on the next status bits: they move on when the bit is one of them. -/
theorem turn_at (copy : Nat → Nat → Bytes → Bytes) (i n : Nat) (out : Bytes) :
    turn copy ⟨ss0At i, ss1At i, n, out⟩ i =
      if i % 72 ≠ 70 ∧ i % 72 ≠ 71 then ⟨ss0At (i + 1), ss1At (i + 1), n + 1, copy i n out⟩
      else ⟨ss0At (i + 1), ss1At (i + 1), n, out⟩ := by
  unfold turn
  dsimp only
  by_cases h0 : i % 72 = 70
  · have hcur : i = ss0At i := by unfold ss0At; omega
    have hnext : ss0At i + P25_SS_INCREMENT = ss0At (i + 1) := by unfold ss0At P25_SS_INCREMENT; omega
    have hkeep : ss1At i = ss1At (i + 1) := by unfold ss1At; omega
    rw [if_pos hcur, if_neg (fun h => h.1 h0), hnext, hkeep]
  · have hne0 : i ≠ ss0At i := by unfold ss0At; omega
    have hkeep0 : ss0At i = ss0At (i + 1) := by unfold ss0At; omega
    rw [if_neg hne0, hkeep0]
    by_cases h1 : i % 72 = 71
    · have hcur : i = ss1At i := by unfold ss1At; omega
      have hnext : ss1At i + P25_SS_INCREMENT = ss1At (i + 1) := by unfold ss1At P25_SS_INCREMENT; omega
      rw [if_pos hcur, if_neg (fun h => h.2 h1), hnext]
    · have hne1 : i ≠ ss1At i := by unfold ss1At; omega
      have hkeep1 : ss1At i = ss1At (i + 1) := by unfold ss1At; omega
      rw [if_neg hne1, if_pos ⟨h0, h1⟩, hkeep1]

/-- The cursors are those of the next position, and what was copied are the bits carried so far. -/
theorem foldl_turn (copy : Nat → Nat → Bytes → Bytes) (start n : Nat) (out : Bytes) (m : Nat) :
    (List.range' start m).foldl (turn copy) ⟨ss0At start, ss1At start, n, out⟩ =
      ⟨ss0At (start + m), ss1At (start + m), n + (carried start (start + m)).length,
        ((carried start (start + m)).zipIdx n).foldl (fun out e => copy e.1 e.2 out) out⟩ := by
  induction m with
  | zero => simp [carried]
  | succ m ih =>
      rw [List.range'_1_concat, List.foldl_append, ih, List.foldl_cons, List.foldl_nil, turn_at, carried_succ]
      by_cases h : (start + m) % 72 ≠ 70 ∧ (start + m) % 72 ≠ 71
      · have hcarried : ([start + m].filter fun i => decide (i % 72 ≠ 70 ∧ i % 72 ≠ 71)) = [start + m] :=
          List.filter_cons_of_pos (by simp [h])
        rw [if_pos h, hcarried, List.zipIdx_append, List.foldl_append, List.length_append]
        rfl
      · have hnone : ([start + m].filter fun i => decide (i % 72 ≠ 70 ∧ i % 72 ≠ 71)) = [] :=
          List.filter_cons_of_neg (by rwa [decide_eq_true_eq])
        rw [if_neg h, hnone, List.append_nil]
        rfl

/-- **The loop copies the carried bits**, in order, and counts them. -/
theorem walk_eq (copy : Nat → Nat → Bytes → Bytes) (out : Bytes) {start : Nat} (h : start % 72 ≠ 71)
    (stop : Nat) :
    walk copy out start stop =
      ((carried start stop).length, (carried start stop).zipIdx.foldl (fun out e => copy e.1 e.2 out) out) := by
  unfold walk P25_SS0_START P25_SS1_START
  dsimp only
  rw [seek_eq, ss0At_succ h, foldl_turn, Nat.zero_add]
  rcases Nat.le_total start stop with hle | hle
  · rw [Nat.add_sub_cancel' hle]
  · rw [Nat.sub_eq_zero_of_le hle, Nat.add_zero, carried_of_le (Nat.le_refl _), carried_of_le hle]

/-! ## What is read and written -/

theorem readBit_foldl_writeBit {ι : Type} (l : List ι) (pos : ι → Nat) (val : ι → Bool) (p : Bytes) :
    readBit (l.foldl (fun p i => writeBit p (pos i) (val i)) p) = scatter l pos val (readBit p) := by
  induction l generalizing p with
  | nil => rfl
  | cons i l ih =>
      rw [List.foldl_cons, ih]
      have hstep : readBit (writeBit p (pos i) (val i)) =
          fun k => if k = pos i then val i else readBit p k := by
        funext k
        exact readBit_writeBit p (pos i) (val i) k
      rw [hstep]
      rfl

theorem nodup_zipIdx {α : Type} (l : List α) : l.zipIdx.Nodup := by
  apply List.Nodup.of_map Prod.snd
  rw [List.zipIdx_map_snd]
  exact List.nodup_range'

theorem getD_mem_zipIdx {l : List Nat} {k : Nat} (hk : k < l.length) : (l.getD k 0, k) ∈ l.zipIdx := by
  rw [List.getD_eq_getElem _ _ hk]
  exact List.mk_mem_zipIdx_iff_getElem?.mpr (List.getElem?_eq_getElem hk)

theorem mem_zipIdx_iff {l : List Nat} {e : Nat × Nat} :
    e ∈ l.zipIdx ↔ e.2 < l.length ∧ e.1 = l.getD e.2 0 := by
  obtain ⟨i, n⟩ := e
  rw [List.mk_mem_zipIdx_iff_getElem?, List.getElem?_eq_some_iff]
  constructor
  · rintro ⟨h, he⟩
    exact ⟨h, he.symm.trans (List.getD_eq_getElem _ _ h).symm⟩
  · rintro ⟨h, he⟩
    exact ⟨h, (List.getD_eq_getElem _ _ h).symm.trans he.symm⟩

/-- **`decode` reads the carried bits** and leaves the rest of the buffer. -/
theorem readBit_decode (inp out : Bytes) {start : Nat} (h : start % 72 ≠ 71) (stop k : Nat) :
    readBit (decode inp out start stop).2 k =
      if k < (carried start stop).length then readBit inp ((carried start stop).getD k 0)
      else readBit out k := by
  unfold decode
  rw [walk_eq _ _ h]
  dsimp only
  rw [readBit_foldl_writeBit]
  split
  · next hk =>
      refine scatter_of_mem (i := ((carried start stop).getD k 0, k)) (nodup_zipIdx _) (getD_mem_zipIdx hk) ?_
      rintro ⟨i, n⟩ he rfl
      exact Prod.ext (mem_zipIdx_iff.mp he).2 rfl
  · next hk =>
      apply scatter_of_not_mem
      rintro e he rfl
      exact hk (mem_zipIdx_iff.mp he).1

/-- **`encode` writes the carried bits.** -/
theorem readBit_encode (inp out : Bytes) {start : Nat} (h : start % 72 ≠ 71) {stop k : Nat}
    (hk : k < (carried start stop).length) :
    readBit (encode inp out start stop).2 ((carried start stop).getD k 0) = readBit inp k := by
  unfold encode
  rw [walk_eq _ _ h]
  dsimp only
  rw [readBit_foldl_writeBit]
  refine scatter_of_mem (i := ((carried start stop).getD k 0, k)) (nodup_zipIdx _) (getD_mem_zipIdx hk) ?_
  rintro ⟨i, n⟩ he hi
  obtain ⟨hn, hval⟩ := mem_zipIdx_iff.mp he
  dsimp only at hn hval hi
  have hnk : n = k := by
    rw [hval, List.getD_eq_getElem _ _ hn, List.getD_eq_getElem _ _ hk] at hi
    exact (List.Nodup.getElem_inj_iff (nodup_carried start stop)).mp hi
  subst hnk
  exact Prod.ext hval rfl

/-- `encode` leaves every other bit of the frame. -/
theorem readBit_encode_of_notMem (inp out : Bytes) {start : Nat} (h : start % 72 ≠ 71) {stop p : Nat}
    (hp : p ∉ carried start stop) : readBit (encode inp out start stop).2 p = readBit out p := by
  unfold encode
  rw [walk_eq _ _ h]
  dsimp only
  rw [readBit_foldl_writeBit]
  apply scatter_of_not_mem
  rintro e he rfl
  obtain ⟨hlt, hval⟩ := mem_zipIdx_iff.mp he
  apply hp
  rw [hval, List.getD_eq_getElem _ _ hlt]
  exact List.getElem_mem hlt

/-- `encode` reads no bit behind those it carries. -/
theorem encode_congr {a b : Bytes} (out : Bytes) {start stop : Nat} (h : start % 72 ≠ 71)
    (hab : ∀ k < (carried start stop).length, readBit a k = readBit b k) :
    encode a out start stop = encode b out start stop := by
  have hcount : (encode a out start stop).1 = (encode b out start stop).1 := by
    unfold encode
    rw [walk_eq _ _ h, walk_eq _ _ h]
  refine Prod.ext hcount (bytes_ext fun p => ?_)
  by_cases hp : p ∈ carried start stop
  · obtain ⟨k, hk, rfl⟩ := List.getElem_of_mem hp
    rw [← List.getD_eq_getElem _ 0 hk, readBit_encode _ _ h hk, readBit_encode _ _ h hk, hab k hk]
  · rw [readBit_encode_of_notMem _ _ h hp, readBit_encode_of_notMem _ _ h hp]

/-- A region that is written twice is as if written once. -/
theorem encode_encode (a out : Bytes) {start stop : Nat} (h : start % 72 ≠ 71) :
    (encode a (encode a out start stop).2 start stop).2 = (encode a out start stop).2 := by
  refine bytes_ext fun p => ?_
  by_cases hp : p ∈ carried start stop
  · obtain ⟨k, hk, rfl⟩ := List.getElem_of_mem hp
    rw [← List.getD_eq_getElem _ 0 hk, readBit_encode _ _ h hk, readBit_encode _ _ h hk]
  · rw [readBit_encode_of_notMem _ _ h hp]

/-! ## Status symbols -/

theorem readBit_setBusyBits (data : Bytes) (ssOffset : Nat) (b1 b2 : Bool) (k : Nat) :
    readBit (setBusyBits data ssOffset b1 b2) k
      = if k = ssOffset + 1 then b2 else if k = ssOffset then b1 else readBit data k := by
  unfold setBusyBits
  rw [readBit_writeBit, readBit_writeBit]

/-- Every position is that of a status symbol. -/
theorem mod_of_mem_symbolPositions {length m k : Nat} (h : k ∈ symbolPositions length (72 * m)) : k % 72 = 70 := by
  obtain ⟨i, -, rfl⟩ := List.mem_range'.mp h
  unfold P25_SS0_START
  rw [Nat.mul_assoc, Nat.add_mul_mod_self_left]

/-- What the loop writes, where no symbol is next to another. -/
theorem readBit_foldl_setBusyBits {l : List Nat} (hl : ∀ p ∈ l, p % 72 = 70) (data : Bytes) (b1 b2 : Bool) (k : Nat) :
    readBit (l.foldl (fun data p => setBusyBits data p b1 b2) data) k
      = if k % 72 = 71 ∧ k - 1 ∈ l then b2 else if k ∈ l then b1 else readBit data k := by
  induction l generalizing data with
  | nil => simp
  | cons p l ih =>
      have hp := hl p List.mem_cons_self
      rw [List.foldl_cons, ih (fun q hq => hl q (List.mem_cons_of_mem p hq)), readBit_setBusyBits]
      by_cases hsecond : k = p + 1
      · have hmod : k % 72 = 71 := by omega
        have hnot : k ∉ l := fun h => by
          have := hl k (List.mem_cons_of_mem p h)
          omega
        have hhead : k - 1 ∈ p :: l := List.mem_cons.mpr (Or.inl (by omega))
        rw [if_pos hsecond, if_neg hnot, if_pos (show k % 72 = 71 ∧ k - 1 ∈ p :: l from ⟨hmod, hhead⟩), ite_self]
      · rw [if_neg hsecond]
        by_cases hmem : k % 72 = 71 ∧ k - 1 ∈ l
        · rw [if_pos hmem, if_pos ⟨hmem.1, List.mem_cons_of_mem p hmem.2⟩]
        · have hnot : ¬ (k % 72 = 71 ∧ k - 1 ∈ p :: l) := by
            rintro ⟨hmod, h⟩
            rcases List.mem_cons.mp h with heq | h
            · omega
            · exact hmem ⟨hmod, h⟩
          rw [if_neg hmem, if_neg hnot]
          by_cases hfirst : k = p
          · rw [if_pos hfirst, if_pos (List.mem_cons.mpr (Or.inl hfirst)), ite_self]
          · rw [if_neg hfirst]
            simp [hfirst]

/-- **Every bit that is not of a status symbol is left alone**, whatever the length. -/
theorem readBit_writeSymbols_of_carried (data : Bytes) (length m : Nat) (b1 b2 : Bool) {k : Nat}
    (h0 : k % 72 ≠ 70) (h1 : k % 72 ≠ 71) :
    readBit (writeSymbols data length (P25_SS_INCREMENT * m) b1 b2) k = readBit data k := by
  have hmod : ∀ p ∈ symbolPositions length (P25_SS_INCREMENT * m), p % 72 = 70 :=
    fun p hp => mod_of_mem_symbolPositions (m := m) hp
  unfold writeSymbols
  rw [readBit_foldl_setBusyBits hmod, if_neg fun h => h1 h.1, if_neg fun h => h0 (hmod k h)]

theorem readBit_addBusyBits_of_carried (data : Bytes) (length : Nat) (b1 b2 : Bool) {k : Nat}
    (h0 : k % 72 ≠ 70) (h1 : k % 72 ≠ 71) : readBit (addBusyBits data length b1 b2) k = readBit data k := by
  unfold addBusyBits
  rw [readBit_writeSymbols_of_carried _ _ 2 _ _ h0 h1]
  exact readBit_writeSymbols_of_carried data length 1 true false h0 h1

/-! ## The bits that differ -/

/-- A turn of the loop clears the lowest bit that is set. -/
theorem countErrs_eq (v : UInt8) (errs : Nat) :
    countErrs v errs = errs + ((List.range 8).filter (bitOf v)).length := by
  have hclear : ∀ b : BitVec 8, UInt8.ofBitVec b ≠ 0 →
      ((List.range 8).filter (bitOf (UInt8.ofBitVec b &&& (UInt8.ofBitVec b - 1)))).length + 1 =
        ((List.range 8).filter (bitOf (UInt8.ofBitVec b))).length := by decide +kernel
  fun_induction countErrs v errs with
  | case1 v errs h ih =>
      have hturn : ((List.range 8).filter (bitOf (v &&& (v - 1)))).length + 1 =
          ((List.range 8).filter (bitOf v)).length := hclear v.toBitVec h
      rw [ih, ← hturn]
      omega
  | case2 v errs h =>
      have hzero : v = 0 := not_not.mp h
      rw [hzero]
      rfl

/-- **`compare` counts the bits that differ.** -/
theorem compare_eq (data1 data2 : Bytes) (length : Nat) :
    compare data1 data2 length =
      ((List.range (8 * length)).filter fun i => readBit data1 i ^^ readBit data2 i).length := by
  unfold compare
  induction length with
  | zero => rfl
  | succ n ih =>
      have hbyte : ∀ j ∈ List.range 8, (readBit data1 (8 * n + j) ^^ readBit data2 (8 * n + j)) =
          bitOf (data1 n ^^^ data2 n) j := by
        intro j hj
        have hlt := List.mem_range.mp hj
        rw [readBit_octet data1 n hlt, readBit_octet data2 n hlt, bitOf_xor]
      have hlast : ((List.range 8).map (8 * n + ·)).filter (fun i => readBit data1 i ^^ readBit data2 i) =
          ((List.range 8).filter (bitOf (data1 n ^^^ data2 n))).map (8 * n + ·) := by
        rw [List.filter_map]
        exact congrArg _ (List.filter_congr hbyte)
      rw [List.range_succ, List.foldl_append, ih, List.foldl_cons, List.foldl_nil, countErrs_eq, Nat.mul_succ,
        List.range_add, List.filter_append, List.length_append, hlast, List.length_map]

end P25Utils

end DvmHost

import DvmHost.Common.P25.P25Utils

/-!
# `Common.P25.Correctness.StatusSymbols` — what the interleaving of P25 frames carries

`P25Utils::encode` and `P25Utils::decode` step over the status symbols with two cursors that they first move,
together, until the first one is not before the region. On a region that begins between the two bits of a symbol
this takes the second cursor past the bit it should stand on: the bit is taken for one of the payload, so the
functions carry one bit more and `encode` writes a status bit (`walk_inside`). On every other region, of any
length, they are inverse to each other and touch nothing else (`interleaves_iff`).
-/

namespace DvmHost

namespace P25Utils

/-! ## A region that begins inside of a symbol -/

/-- **The second bit of the symbol is copied** like one of the payload when the region begins with it. -/
theorem walk_inside (copy : Nat → Nat → Bytes → Bytes) (out : Bytes) {start stop : Nat} (h : start % 72 = 71)
    (hlt : start < stop) :
    walk copy out start stop = ((carried start stop).length + 1,
      ((carried start stop).zipIdx 1).foldl (fun out e => copy e.1 e.2 out) (copy start 0 out)) := by
  -- both cursors stand on the next symbol, and from there on the loop runs as on a region behind this bit
  have hfirst : turn copy ⟨ss0At start, ss0At start + 1, 0, out⟩ start =
      ⟨ss0At (start + 1), ss1At (start + 1), 1, copy start 0 out⟩ := by
    have h0 : start ≠ ss0At start := by unfold ss0At; omega
    have h1 : start ≠ ss0At start + 1 := by unfold ss0At; omega
    have hsame : ss0At start = ss0At (start + 1) := by unfold ss0At; omega
    have hnext : ss0At start + 1 = ss1At (start + 1) := by unfold ss0At ss1At; omega
    unfold turn
    dsimp only
    rw [if_neg h0, if_neg h1, hnext, hsame]
  have hrange : List.range' start (stop - start) = start :: List.range' (start + 1) (stop - (start + 1)) := by
    rw [show stop - start = stop - (start + 1) + 1 by omega]
    rfl
  have hcarried : carried start stop = carried (start + 1) stop := by
    unfold carried
    rw [hrange, List.filter_cons_of_neg (by simp [h])]
  unfold walk P25_SS0_START P25_SS1_START
  dsimp only
  rw [seek_eq, hrange, List.foldl_cons, hfirst, foldl_turn, Nat.add_sub_cancel' hlt, hcarried, Nat.add_comm 1]

/-! ## The overload on a length -/

/-- The loop that counts the bits runs through the states of the loop over a region that begins with the frame. -/
theorem place_eq (inp out : Bytes) (length : Nat) (s : Cursor) (pos : Nat)
    (hs : s = (List.range' 0 pos).foldl (turn fun i n out => writeBit out i (readBit inp n))
      ⟨P25_SS0_START, P25_SS1_START, 0, out⟩) (hn : s.n ≤ length) :
    (place inp length s pos).2 = (encode inp out 0 (place inp length s pos).1).2 ∧
      (encode inp out 0 (place inp length s pos).1).1 = length := by
  fun_induction place inp length s pos with
  | case1 s pos hlt ih =>
      apply ih
      · rw [List.range'_1_concat, List.foldl_append, List.foldl_cons, List.foldl_nil, ← hs, Nat.zero_add]
      · unfold turn
        repeat' split
        · exact hn
        · exact hn
        · exact hlt
  | case2 s pos hge =>
      have hrun : encode inp out 0 pos = (s.n, s.out) := by
        have hseek : seek 0 P25_SS0_START P25_SS1_START = (P25_SS0_START, P25_SS1_START) := seek_eq 0
        unfold encode walk
        dsimp only
        rw [hseek, Nat.sub_zero, ← hs]
      rw [hrun]
      exact ⟨rfl, by dsimp only; omega⟩

/-- **The overload on a length stops behind the bit that completes it** and writes what the other one writes on
    the region up to there. -/
theorem encodeLength_eq (inp out : Bytes) (length : Nat) :
    (encodeLength inp out length).2 = (encode inp out 0 (encodeLength inp out length).1).2 ∧
      (encode inp out 0 (encodeLength inp out length).1).1 = length :=
  place_eq inp out length _ 0 rfl (Nat.zero_le length)

/-! ## What a region carries -/

/-- How many positions of a region are those of status bits. -/
def statusBits (start stop : Nat) : Nat :=
  ((List.range' start (stop - start)).filter fun i => decide (i % 72 = 70 ∨ i % 72 = 71)).length

theorem length_carried (start stop : Nat) :
    (carried start stop).length = stop - start - statusBits start stop := by
  have hsplit := List.length_eq_length_filter_add (l := List.range' start (stop - start))
    fun i => decide (i % 72 = 70 ∨ i % 72 = 71)
  have hrest : ((List.range' start (stop - start)).filter fun i => !decide (i % 72 = 70 ∨ i % 72 = 71)) =
      carried start stop := by
    apply List.filter_congr
    intro i _
    rw [← decide_not, decide_eq_decide]
    omega
  rw [List.length_range', hrest] at hsplit
  unfold statusBits
  omega

/-- What the interleaving promises for a payload `x`, a frame `out` and a buffer `buf` that the payload is read
    back into. -/
structure Interleaves (x out buf : Bytes) (start stop : Nat) : Prop where
  /-- The two functions carry the bits that are no status bits. -/
  encoded : (encode x out start stop).1 = stop - start - statusBits start stop
  decoded : (decode (encode x out start stop).2 buf start stop).1 = stop - start - statusBits start stop
  /-- These come back, and the buffer is left alone behind them. -/
  payload : ∀ k < stop - start - statusBits start stop,
    readBit (decode (encode x out start stop).2 buf start stop).2 k = readBit x k
  rest : ∀ k, stop - start - statusBits start stop ≤ k →
    readBit (decode (encode x out start stop).2 buf start stop).2 k = readBit buf k
  /-- No status bit is written, and nothing outside of the region. -/
  status : ∀ p, p % 72 = 70 ∨ p % 72 = 71 → readBit (encode x out start stop).2 p = readBit out p
  outside : ∀ p, p < start ∨ stop ≤ p → readBit (encode x out start stop).2 p = readBit out p
  /-- The overload on a length places the bits as this one does from the beginning of a frame. -/
  onLength : ∀ length, (encodeLength x out length).2 = (encode x out 0 (encodeLength x out length).1).2 ∧
    (encode x out 0 (encodeLength x out length).1).1 = length

/-- A region that begins with a bit of the payload or with a whole symbol. -/
theorem interleaves_of_aligned (x out buf : Bytes) {start : Nat} (h : start % 72 ≠ 71) (stop : Nat) :
    Interleaves x out buf start stop := by
  have hlen := length_carried start stop
  refine ⟨?_, ?_, ?_, ?_, ?_, ?_, encodeLength_eq x out⟩
  · rw [← hlen]
    exact congrArg Prod.fst (walk_eq _ out h stop)
  · rw [← hlen]
    exact congrArg Prod.fst (walk_eq _ buf h stop)
  · intro k hk
    rw [← hlen] at hk
    rw [readBit_decode _ _ h, if_pos hk, readBit_encode x out h hk]
  · intro k hk
    rw [← hlen] at hk
    rw [readBit_decode _ _ h, if_neg (Nat.not_lt.mpr hk)]
  · intro p hp
    apply readBit_encode_of_notMem x out h
    intro hmem
    have := (mem_carried.mp hmem).2
    omega
  · intro p hp
    apply readBit_encode_of_notMem x out h
    intro hmem
    have := (mem_carried.mp hmem).1
    omega

/-- **The interleaving of P25 frames carries the payload** and leaves the status symbols alone if and only if the
    region does not begin between the two bits of a symbol. -/
theorem interleaves_iff (x out buf : Bytes) {start stop : Nat} (hlt : start < stop) :
    Interleaves x out buf start stop ↔ start % 72 ≠ 71 := by
  constructor
  · intro h hinside
    have hcount : (encode x out start stop).1 = (carried start stop).length + 1 :=
      congrArg Prod.fst (walk_inside _ out hinside hlt)
    rw [h.encoded, length_carried] at hcount
    omega
  · intro h
    exact interleaves_of_aligned x out buf h stop

/-- A region that begins behind the first symbol of a frame. -/
theorem interleaves_behind_symbol : Interleaves (fun _ => 0xA5) (fun _ => 0) (fun _ => 0) 72 500 :=
  (interleaves_iff (fun _ => 0xA5) (fun _ => 0) (fun _ => 0) (by decide)).mpr (by decide)

/-- A region of one bit, the second one of the first symbol: `encode` writes it. -/
theorem status_bit_written : ¬ Interleaves (fun _ => 0xFF) (fun _ => 0) (fun _ => 0) 71 72 := by
  intro h
  have hwritten : (encode (fun _ => 0xFF) (fun _ => 0) 71 72).2 =
      writeBit (fun _ => 0) 71 (readBit (fun _ => 0xFF) 0) :=
    congrArg Prod.snd (walk_inside _ _ (by decide) (by decide))
  have hkept := h.status 71 (by decide)
  rw [hwritten, readBit_writeBit, if_pos rfl] at hkept
  exact absurd hkept (by decide)

end P25Utils

end DvmHost

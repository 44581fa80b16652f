import Mathlib.Tactic.IntervalCases
import DvmHost.Host.Nxdn.Packet.Correctness.HeaderFrames

/-!
# `Host.Nxdn.Packet.Correctness.ReleaseFrame` — the release frame of `writeRF_Message_Tx_Rel`

Its two FACCH1 are written at the offsets 62 and 142, and read at 96 and 240. Where the second one is read, the first
six symbols are the last ones of what was sent, and zeros follow; the message type of a release has a one there, and
the decoder always has a cheaper path without it (`no_release`).
-/

namespace DvmHost.Nxdn

open Channel Convolution Finset

/-! ## The first steps of the decoder -/

/-- Where a path differs from the bits `b` in step `t`; of every fourth symbol there is no bit. -/
def mismatch (b y : Nat → Bool) (t : Nat) : Nat :=
  (symbol y (2 * t) ^^ b (2 * t - (2 * t + 2) / 4)).toNat +
    if t % 2 = 0 then 0 else (symbol y (2 * t + 1) ^^ b (2 * t + 1 - (2 * t + 3) / 4)).toNat

/-- Where a path differs from the bits `b` in the first `T` steps. -/
def mismatches (b y : Nat → Bool) : Nat → Nat
  | 0 => 0
  | T + 1 => mismatches b y T + mismatch b y T

/-- The symbol at `p`, of the first ones: every fourth one is erased, and the others are the bits in turn. -/
def headSymbol (b : Nat → Bool) (p : Nat) : Nat := if p % 4 = 1 then 1 else 2 * (b (p - (p + 2) / 4)).toNat

theorem symbolCost_bit (o b : Bool) : symbolCost o (2 * b.toNat) = 2 * (o ^^ b).toNat := by
  cases o <;> cases b <;> decide

theorem symbolCost_erased (o : Bool) : symbolCost o 1 = 1 := by
  cases o <;> decide

theorem sum_stepCost {r : Bytes} {b : Nat → Bool} {T : Nat} (hr : ∀ p < 2 * T, (r p).toNat = headSymbol b p)
    (y : Nat → Bool) : ∑ t ∈ range T, stepCost r y t = (T + 1) / 2 + 2 * mismatches b y T := by
  induction T with
  | zero => rfl
  | succ T ih =>
      rw [sum_range_succ, ih fun p hp => hr p (by omega), mismatches, mismatch, stepCost, hr (2 * T) (by omega),
        hr (2 * T + 1) (by omega), headSymbol, headSymbol, if_neg (by omega), symbolCost_bit]
      by_cases heven : T % 2 = 0
      · rw [if_pos (by omega), if_pos heven, symbolCost_erased]
        omega
      · rw [if_neg (by omega), if_neg heven, symbolCost_bit, show 2 * T + 1 + 2 = 2 * T + 3 by omega]
        omega

theorem mismatch_congr {b b' y y' : Nat → Bool} {t : Nat} (hb : ∀ k < (3 * t + 4) / 2, b k = b' k)
    (hy : ∀ u, t ≤ u → u < t + 5 → y u = y' u) : mismatch b y t = mismatch b' y' t := by
  have hsymbol : symbol y (2 * t) = symbol y' (2 * t) ∧ symbol y (2 * t + 1) = symbol y' (2 * t + 1) := by
    rw [symbol_even, symbol_even, symbol_odd, symbol_odd]
    unfold out1 out2
    rw [hy t (by omega) (by omega), hy (t + 1) (by omega) (by omega), hy (t + 2) (by omega) (by omega),
      hy (t + 3) (by omega) (by omega), hy (t + 4) (by omega) (by omega)]
    exact ⟨rfl, rfl⟩
  unfold mismatch
  rw [hsymbol.1, hsymbol.2, hb (2 * t - (2 * t + 2) / 4) (by omega)]
  split
  · rfl
  · rw [hb (2 * t + 1 - (2 * t + 3) / 4) (by omega)]

/-- Paths that agree from bit 6 on differ alike in the steps from there on. -/
theorem mismatches_twelve (b : Nat → Bool) {y y' : Nat → Bool} (hy : ∀ u, 6 ≤ u → u < 16 → y u = y' u) :
    mismatches b y 12 + mismatches b y' 6 = mismatches b y' 12 + mismatches b y 6 := by
  have hstep : ∀ t, 6 ≤ t → t < 12 → mismatch b y t = mismatch b y' t := fun t h6 h12 =>
    mismatch_congr (fun _ _ => rfl) fun u hu hlt => hy u (by omega) (by omega)
  have hsplit : ∀ y, mismatches b y 12 = mismatches b y 6 + (mismatch b y 6 + mismatch b y 7 + mismatch b y 8 +
      mismatch b y 9 + mismatch b y 10 + mismatch b y 11) := by
    intro y
    simp only [mismatches]
    omega
  rw [hsplit y, hsplit y', hstep 6 (by omega) (by omega), hstep 7 (by omega) (by omega), hstep 8 (by omega) (by omega),
    hstep 9 (by omega) (by omega), hstep 10 (by omega) (by omega), hstep 11 (by omega) (by omega)]
  omega

theorem mismatches_congr {b b' y y' : Nat → Bool} {T : Nat} (hb : ∀ k < (3 * T + 1) / 2, b k = b' k)
    (hy : ∀ u < T + 4, y u = y' u) : mismatches b y T = mismatches b' y' T := by
  induction T with
  | zero => rfl
  | succ T ih =>
      rw [mismatches, mismatches, ih (fun k hk => hb k (by omega)) fun u hu => hy u (by omega),
        mismatch_congr (fun k hk => hb k (by omega)) fun u _ hu => hy u (by omega)]

/-! ## No release -/

/-- The first bits of a path, or of what was received. -/
def headOf (l : List Bool) (i : Nat) : Bool := l.getD i false

/-- The symbols that a register sends while zeros enter it. -/
def drained (c0 c1 c2 c3 : Bool) : List Bool := [c1 ^^ c0, c2 ^^ c1, c3 ^^ c1, c3 ^^ c2, c3]

theorem drained_cheaper : ∀ c0 c1 c2 c3 z0 z1 z2 z3 z4 z5 z12 : Bool,
    mismatches (headOf (drained c0 c1 c2 c3 ++ [c3]))
        (headOf [c0, c1, c2, c3, false, false, false, false, false, false, false, false, z12]) 9
      < mismatches (headOf (drained c0 c1 c2 c3 ++ [c3]))
        (headOf [z0, z1, z2, z3, z4, z5, false, false, true, false, false, false, z12]) 9 := by
  decide +kernel

theorem drained_cheaper_short : ∀ c0 c1 c2 z0 z1 z2 z3 z4 z5 : Bool,
    mismatches (headOf (drained c0 c1 c2 true))
        (headOf [c0, c1, c2, true, false, false, false, false, false, false, false, false, false]) 9
      < mismatches (headOf (drained c0 c1 c2 true))
        (headOf [z0, z1, z2, z3, z4, z5, false, false, true, false, false, false, false]) 9 := by
  decide +kernel

theorem release_differs : ∀ c0 c1 c2 z0 z1 z2 z3 z4 z5 : Bool,
    1 ≤ mismatches (headOf (drained c0 c1 c2 true))
      (headOf [z0, z1, z2, z3, z4, z5, false, false, true, false]) 6 := by
  decide +kernel

/-- The bits that a receiver finds when the last of the six is lost. -/
def shortBits (c0 c1 c2 v : Bool) : List Bool := drained c0 c1 c2 true ++ List.replicate 12 false ++ [v]

/-- A release that differs as little as any, where bit 12 is set. -/
def closest (c0 c1 c2 : Bool) : List Bool :=
  [!c0, !c1, c2, true, false, true, false, false, true, false, false, false]

/-- One of two paths is cheaper still. -/
theorem others_cheaper : ∀ c0 c1 c2 v z13 z14 z15 : Bool,
    mismatches (headOf (shortBits c0 c1 c2 v)) (headOf
        ([c0, !c1, c2, true, true, false, false, true, true, false, true, false] ++ [true, z13, z14, z15])) 12
      < mismatches (headOf (shortBits c0 c1 c2 v)) (headOf (closest c0 c1 c2 ++ [true, z13, z14, z15])) 12 ∨
    mismatches (headOf (shortBits c0 c1 c2 v)) (headOf
        ([c0, !c1, c2, false, true, true, true, false, false, true, true, false] ++ [true, z13, z14, z15])) 12
      < mismatches (headOf (shortBits c0 c1 c2 v)) (headOf (closest c0 c1 c2 ++ [true, z13, z14, z15])) 12 := by
  decide +kernel

theorem closest_differs : ∀ c0 c1 c2 : Bool,
    mismatches (headOf (drained c0 c1 c2 true)) (headOf (closest c0 c1 c2)) 6 = 1 := by
  decide

/-- The path `z`, with other first bits. -/
def spliced (l : List Bool) (z : Nat → Bool) (t : Nat) : Bool := if t < l.length then headOf l t else z t

theorem spliced_of_ge {l : List Bool} (z : Nat → Bool) {t : Nat} (ht : l.length ≤ t) : spliced l z t = z t :=
  if_neg (Nat.not_lt.mpr ht)

section NoRelease

variable {b z : Nat → Bool} {c0 c1 c2 c3 : Bool} (hdrained : ∀ k < 5, b k = headOf (drained c0 c1 c2 c3) k)
  (hzero : ∀ k, 6 ≤ k → k < 17 → b k = false) (hz : ∀ u, 6 ≤ u → u < 12 → z u = decide (u = 8))

include hdrained hzero hz

/-- A path is cheaper whose first bits are those that the symbols are from, with zeros behind them. -/
theorem no_release_of_drained (hlast : b 5 = c3 ∨ (c3 = true ∧ z 12 = false)) :
    mismatches b (spliced [c0, c1, c2, c3, false, false, false, false, false] z) 9 < mismatches b z 9 := by
  have hpath : ∀ u < 13, z u = headOf [z 0, z 1, z 2, z 3, z 4, z 5, false, false, true, false, false, false, z 12] u := by
    intro u hu
    interval_cases u <;> first | rfl | exact hz _ (by omega) (by omega)
  have hspliced : ∀ u < 13, spliced [c0, c1, c2, c3, false, false, false, false, false] z u
      = headOf [c0, c1, c2, c3, false, false, false, false, false, false, false, false, z 12] u := by
    intro u hu
    interval_cases u <;> first | rfl | exact hz _ (by omega) (by omega)
  by_cases hc3 : b 5 = c3
  · have hb : ∀ k < 14, b k = headOf (drained c0 c1 c2 c3 ++ [c3]) k := by
      intro k hk
      interval_cases k <;> first | exact hdrained _ (by omega) | exact hc3 | exact hzero _ (by omega) (by omega)
    rw [mismatches_congr hb hspliced, mismatches_congr hb hpath]
    exact drained_cheaper ..
  · obtain ⟨rfl, h12⟩ := hlast.resolve_left hc3
    have hb : ∀ k < 14, b k = headOf (drained c0 c1 c2 true) k := by
      intro k hk
      interval_cases k <;>
        first | exact hdrained _ (by omega) | exact Bool.eq_false_iff.mpr hc3 | exact hzero _ (by omega) (by omega)
    rw [h12] at hpath hspliced
    rw [mismatches_congr hb hspliced, mismatches_congr hb hpath]
    exact drained_cheaper_short ..

/-- Where the last of the six is lost, and bit 12 is set, another path is. -/
theorem no_release_of_short (hc3 : c3 = true) (h5 : b 5 = false) (h12 : z 12 = true) :
    ∃ l : List Bool, l.length = 12 ∧ mismatches b (spliced l z) 12 < mismatches b z 12 := by
  subst hc3
  have hb : ∀ k < 18, b k = headOf (shortBits c0 c1 c2 (b 17)) k := by
    intro k hk
    interval_cases k <;>
      first | exact hdrained _ (by omega) | exact h5 | exact hzero _ (by omega) (by omega) | rfl
  have hsix : ∀ k < 9, b k = headOf (drained c0 c1 c2 true) k := by
    intro k hk
    interval_cases k <;> first | exact hdrained _ (by omega) | exact h5 | exact hzero _ (by omega) (by omega)
  have hspliced : ∀ l : List Bool, l.length = 12 →
      ∀ u < 16, spliced l z u = headOf (l ++ [true, z 13, z 14, z 15]) u := by
    intro l hl u hu
    unfold spliced headOf
    by_cases hlt : u < l.length
    · rw [if_pos hlt, List.getD_append _ _ _ _ hlt]
    · rw [if_neg hlt, List.getD_append_right _ _ _ _ (by omega), hl]
      rw [hl] at hlt
      interval_cases u <;> first | exact h12 | rfl
  -- `z` differs from what was received at least as often as the closest release
  have hclosest : mismatches b (spliced (closest c0 c1 c2) z) 12 ≤ mismatches b z 12 := by
    have htail := mismatches_twelve b (show ∀ u, 6 ≤ u → u < 16 → z u = spliced (closest c0 c1 c2) z u by
      intro u h6 hu
      rw [hspliced _ rfl u hu]
      interval_cases u <;> first | exact h12 | rfl | exact hz _ (by omega) (by omega))
    have hone : mismatches b (spliced (closest c0 c1 c2) z) 6 = 1 := by
      have hhead : ∀ u < 10, spliced (closest c0 c1 c2) z u = headOf (closest c0 c1 c2) u := fun u hu =>
        if_pos (Nat.lt_trans hu (by decide : 10 < 12))
      rw [mismatches_congr hsix hhead]
      exact closest_differs ..
    have hmore : 1 ≤ mismatches b z 6 := by
      have hpath : ∀ u < 10, z u = headOf [z 0, z 1, z 2, z 3, z 4, z 5, false, false, true, false] u := by
        intro u hu
        interval_cases u <;> first | rfl | exact hz _ (by omega) (by omega)
      rw [mismatches_congr hsix hpath]
      exact release_differs ..
    omega
  rw [mismatches_congr hb (hspliced _ rfl)] at hclosest
  rcases others_cheaper c0 c1 c2 (b 17) (z 13) (z 14) (z 15) with hless | hless
  · refine ⟨[c0, !c1, c2, true, true, false, false, true, true, false, true, false], rfl,
      lt_of_lt_of_le ?_ hclosest⟩
    rw [mismatches_congr hb (hspliced _ rfl)]
    exact hless
  · refine ⟨[c0, !c1, c2, false, true, true, true, false, false, true, true, false], rfl,
      lt_of_lt_of_le ?_ hclosest⟩
    rw [mismatches_congr hb (hspliced _ rfl)]
    exact hless

/-- **No release.** Whatever is lost of the six, a path that is cheaper differs from `z` in its first bits alone. -/
theorem no_release (hlast : b 5 = c3 ∨ (c3 = true ∧ b 5 = false)) :
    ∃ (T : Nat) (y : Nat → Bool), T ≤ 12 ∧ (∀ t, T ≤ t → y t = z t) ∧ mismatches b y T < mismatches b z T := by
  by_cases hshort : c3 = true ∧ b 5 = false ∧ z 12 = true
  · obtain ⟨hc3, h5, h12⟩ := hshort
    obtain ⟨l, hl, hless⟩ := no_release_of_short hdrained hzero hz hc3 h5 h12
    exact ⟨12, spliced l z, Nat.le_refl 12, fun t ht => spliced_of_ge z (hl ▸ ht), hless⟩
  · refine ⟨9, spliced [c0, c1, c2, c3, false, false, false, false, false] z, by omega,
      fun t ht => spliced_of_ge z ht, no_release_of_drained hdrained hzero hz ?_⟩
    rcases hlast with h5 | ⟨hc3, h5⟩
    · exact Or.inl h5
    · exact Or.inr ⟨hc3, Bool.eq_false_iff.mpr fun h12 => hshort ⟨hc3, h5, h12⟩⟩

end NoRelease

/-! ## The symbols of a FACCH1 -/

/-- The symbols in front, as the bits of the frame that they are read from. -/
theorem headSymbol_facch1 (past : Nat → Nat) (base : Nat) (data puncture : Bytes) {p : Nat} (hp : p < 24) :
    (trimmed 95 (symbolsOf FACCH1.coding past base data puncture) p).toNat
      = headSymbol (fun k => readBit data (9 * (k % 16) + k / 16 + base)) p := by
  have hlist : ∀ p < 24, (p ∈ FACCH1.coding.punctureList ↔ p % 4 = 1) ∧
      rank FACCH1.coding.punctureList p = p - (p + 2) / 4 := by decide
  have htable : ∀ k < 24, FACCH1.INTERLEAVE_TABLE.getD k 0 = 9 * (k % 16) + k / 16 := by decide
  obtain ⟨s1, s2, -, hsym⟩ := symbols_inside FACCH1.sound past
    (deinterleave FACCH1.INTERLEAVE_TABLE base 144 data fun _ => 0) puncture FACCH1.endsInside
  have hslot := hsym p (by omega)
  rw [slotOf_of_lt _ _ _ _ (by omega)] at hslot
  have hvalue : trimmed 95 (symbolsOf FACCH1.coding past base data puncture) p = _ := (if_pos (by omega)).trans hslot
  rw [hvalue, headSymbol]
  obtain ⟨hmem, hrank⟩ := hlist p hp
  by_cases hfour : p % 4 = 1
  · rw [if_pos hfour, if_pos (hmem.mpr hfour)]
    rfl
  · rw [if_neg hfour, if_neg (fun h => hfour (hmem.mp h))]
    show (if readBit _ (rank FACCH1.coding.punctureList p) then (2 : UInt8) else 0).toNat = _
    rw [hrank, readBit_deinterleave _ _ _ _ _ (by omega), htable _ (by omega)]
    cases readBit data (9 * ((p - (p + 2) / 4) % 16) + (p - (p + 2) / 4) / 16 + base) <;> rfl

/-! ## The release frame -/

section Release

variable (mem : Memory) {facch : FACCH1} (hrelease : facch.m_data 0 = RTCH_MESSAGE_TYPE_TX_REL) {front : Bytes}
  (hfront : ∀ k, 96 ≤ k → readBit front k = false)

/-- The frame behind both encoders. -/
def releaseBody (facch : FACCH1) (front : Bytes) : Bytes := facch.encode mem (facch.encode mem front 62) 142

/-- The octets that `encode` codes. -/
def codedOctets (facch : FACCH1) : Bytes := CRC.addCRC12 (memcpy (fun _ => 0) 0 facch.m_data 10) 80

/-- The bits that are sent, before they are interleaved. -/
def sentBits (facch : FACCH1) : Bytes :=
  (punctureLoop FACCH1.coding.punctureList mem.past (Convolution.encode (codedOctets facch) (fun _ => 0) 96)
    (fun _ => 0) 192).out

theorem pathOf_coded {k : Nat} (hk : k < 80) : pathOf (codedOctets facch) (k + 4) = readBit facch.m_data k := by
  rw [pathOf, delayed_add, codedOctets, CRC.addCRC12, CRC.addCRC, CRC.readBit_writeCRC _ _ _ _ hk, readBit_eq, readBit_eq]
  have hoctet := memcpy_add (fun _ => 0) 0 facch.m_data (show k / 8 < 10 by omega)
  rw [Nat.zero_add] at hoctet
  rw [hoctet]

theorem pathOf_coded_tail {u : Nat} (hu : 95 < u) : pathOf (codedOctets facch) u = false := by
  obtain ⟨k, rfl⟩ : ∃ k, u = k + 4 := ⟨u - 4, by omega⟩
  rw [pathOf, delayed_add, codedOctets, CRC.addCRC12, CRC.addCRC, CRC.writeCRC, readBit_copyBits, if_neg (by omega),
    readBit_eq, memcpy, if_neg (by omega)]
  exact bitOf_zero _

theorem sent_coded : Sent FACCH1.coding 95 mem.past (pathOf (codedOctets facch)) (readBit (sentBits mem facch)) :=
  sent_inside FACCH1.sound mem.past (codedOctets facch) FACCH1.endsInside fun _ hu => pathOf_coded_tail hu

/-- The second FACCH1 is written whole. -/
theorem readBit_releaseBody {i : Nat} (hi : i < 144) :
    readBit (releaseBody mem facch front) (FACCH1.coding.interleaveTable.getD i 0 + 142)
      = readBit (sentBits mem facch) i := by
  unfold releaseBody
  generalize facch.encode mem front 62 = data
  unfold FACCH1.encode encodeBits
  dsimp only
  rw [readBit_interleave_table FACCH1.sound.tableLength FACCH1.sound.tableNodup _ _ hi]
  rfl

include hfront in
/-- Behind it there is nothing. -/
theorem readBit_releaseBody_behind {k : Nat} (hk : 286 ≤ k) : readBit (releaseBody mem facch front) k = false := by
  rw [releaseBody, FACCH1.encode, readBit_encodeBits_outside FACCH1.sound mem _ _ _ (Or.inr hk), FACCH1.encode,
    readBit_encodeBits_outside FACCH1.sound mem _ _ _ (Or.inr (Nat.le_trans (by decide) hk)), hfront k (by omega)]

/-- The bits where the second FACCH1 is looked for, in the order of the symbols. -/
def foundBits (facch : FACCH1) (front : Bytes) (k : Nat) : Bool :=
  readBit (releaseBody mem facch front) (9 * (k % 16) + k / 16 + FACCH1_2_OFFSET)

theorem foundBits_of_lt {k : Nat} (hk : k < 6) :
    foundBits mem facch front k = readBit (sentBits mem facch) (138 + k) := by
  have htable : ∀ k < 6, 9 * (k % 16) + k / 16 + FACCH1_2_OFFSET
      = FACCH1.coding.interleaveTable.getD (138 + k) 0 + 142 := by decide
  rw [foundBits, htable k hk, readBit_releaseBody mem (by omega)]

/-- The first five, but for what the last symbol became. -/
theorem foundBits_drained (front : Bytes) (v : Bool) (hv : foundBits mem facch front 4 = v) :
    let y := pathOf (codedOctets facch)
    ∀ k < 5, foundBits mem facch front k = [y 93 ^^ y 92, y 94 ^^ y 93, y 95 ^^ y 93, y 95 ^^ y 94, v].getD k false := by
  intro y k hk
  have hkept : ∀ p < 190, p ∉ FACCH1.coding.punctureList →
      readBit (sentBits mem facch) (rank FACCH1.coding.punctureList p) = symbol y p := (sent_coded mem).kept
  have h96 : y 96 = false := pathOf_coded_tail (by omega)
  have h97 : y 97 = false := pathOf_coded_tail (by omega)
  have h98 : y 98 = false := pathOf_coded_tail (by omega)
  interval_cases k
  · rw [foundBits_of_lt mem (by omega), ← show rank FACCH1.coding.punctureList 184 = 138 + 0 by decide,
      hkept 184 (by omega) (by decide)]
    show (y 96 ^^ y 93 ^^ y 92) = _
    rw [h96, Bool.false_xor]
    rfl
  · rw [foundBits_of_lt mem (by omega), ← show rank FACCH1.coding.punctureList 186 = 138 + 1 by decide,
      hkept 186 (by omega) (by decide)]
    show (y 97 ^^ y 94 ^^ y 93) = _
    rw [h97, Bool.false_xor]
    rfl
  · rw [foundBits_of_lt mem (by omega), ← show rank FACCH1.coding.punctureList 187 = 138 + 2 by decide,
      hkept 187 (by omega) (by decide)]
    show (y 97 ^^ y 96 ^^ y 95 ^^ y 93) = _
    rw [h97, h96, Bool.false_xor, Bool.false_xor]
    rfl
  · rw [foundBits_of_lt mem (by omega), ← show rank FACCH1.coding.punctureList 188 = 138 + 3 by decide,
      hkept 188 (by omega) (by decide)]
    show (y 98 ^^ y 95 ^^ y 94) = _
    rw [h98, Bool.false_xor]
    rfl
  · exact hv

include hrelease hfront in
/-- Behind the six there are zeros. -/
theorem foundBits_zero {k : Nat} (h6 : 6 ≤ k) (hk : k < 17) : foundBits mem facch front k = false := by
  by_cases h16 : k = 16
  · have htype : ∀ j < 8, readBit facch.m_data j = bitOf RTCH_MESSAGE_TYPE_TX_REL j := by
      intro j hj
      rw [readBit_eq, Nat.div_eq_of_lt hj, Nat.mod_eq_of_lt hj, hrelease]
    have hplace : 9 * (16 % 16) + 16 / 16 + FACCH1_2_OFFSET = FACCH1.coding.interleaveTable.getD 11 0 + 142 := by
      decide
    rw [h16, foundBits, hplace, readBit_releaseBody mem (by omega),
      ← show rank FACCH1.coding.punctureList 15 = 11 by decide,
      (sent_coded mem).kept 15 (by omega) (by decide)]
    show (pathOf (codedOctets facch) (7 + 4) ^^ pathOf (codedOctets facch) (6 + 4) ^^ pathOf (codedOctets facch) (5 + 4)
      ^^ pathOf (codedOctets facch) (3 + 4)) = false
    rw [pathOf_coded (by omega), pathOf_coded (by omega), pathOf_coded (by omega), pathOf_coded (by omega),
      htype 7 (by omega), htype 6 (by omega), htype 5 (by omega), htype 3 (by omega)]
    rfl
  · rw [foundBits]
    have hoffset : FACCH1_2_OFFSET = 240 := rfl
    exact readBit_releaseBody_behind mem hfront (by omega)

/-- **What is found**: the symbols of some register into which zeros enter, perhaps without the last one. -/
theorem exists_drained (facch : FACCH1) (front : Bytes) : ∃ c0 c1 c2 c3 : Bool,
    (∀ k < 5, foundBits mem facch front k = headOf (drained c0 c1 c2 c3) k) ∧
      (foundBits mem facch front 5 = c3 ∨ (c3 = true ∧ foundBits mem facch front 5 = false)) := by
  have hlast := lastBits_inside FACCH1.sound mem.past (codedOctets facch) FACCH1.endsInside fun _ hu =>
    pathOf_coded_tail hu
  have hrank : rank FACCH1.coding.punctureList (2 * 95) = 138 + 4 := by decide
  dsimp only at hlast
  rw [hrank] at hlast
  have h4 : foundBits mem facch front 4 = readBit (sentBits mem facch) (138 + 4) := foundBits_of_lt mem (by omega)
  have h5 : foundBits mem facch front 5 = readBit (sentBits mem facch) (138 + 5) := foundBits_of_lt mem (by omega)
  have hfound : ∀ {v : Bool}, readBit (sentBits mem facch) (138 + 4) = v → _ := fun hv =>
    foundBits_drained mem front _ (h4.trans hv)
  rcases hlast with ⟨hv4, hv5⟩ | ⟨hv4, hv5⟩ | ⟨hv4, hv5⟩
  · exact ⟨_, _, _, _, hfound hv4, Or.inl (h5.trans hv5)⟩
  · refine ⟨_, _, _, _, hfound hv4, ?_⟩
    cases hv : pathOf (codedOctets facch) 95 with
    | false => exact Or.inl (h5.trans hv5)
    | true => exact Or.inr ⟨rfl, h5.trans hv5⟩
  · cases hv : pathOf (codedOctets facch) 95 with
    | false => exact ⟨_, _, _, _, hfound (hv4.trans hv.symm), Or.inl (h5.trans (hv5.trans hv.symm))⟩
    | true =>
        -- the register with every bit inverted sends the same, but for the last symbol
        refine ⟨!pathOf (codedOctets facch) 92, !pathOf (codedOctets facch) 93, !pathOf (codedOctets facch) 94, false,
          fun k hk => ?_, Or.inl (h5.trans hv5)⟩
        rw [hfound hv4 k hk, hv]
        have hinvert : ∀ c0 c1 c2 : Bool, [c1 ^^ c0, c2 ^^ c1, true ^^ c1, true ^^ c2, false]
            = drained (!c0) (!c1) (!c2) false := by decide
        rw [hinvert]
        rfl

include hrelease hfront in
/-- **A release is not read.** The message type at the second place is not that of a release, in any receiver. -/
theorem not_release (mem' : Memory) (rx : FACCH1) :
    (rx.decode mem' (releaseBody mem facch front) FACCH1_2_OFFSET).2.m_data 0 &&& 0x3F ≠ RTCH_MESSAGE_TYPE_TX_REL := by
  intro htype
  have hsoft := soft_inside FACCH1.sound FACCH1.endsInside mem'.past FACCH1_2_OFFSET (releaseBody mem facch front)
    mem'.puncture
  obtain ⟨out, hout, hbits⟩ := decodeBits_of_soft FACCH1.sound mem' FACCH1_2_OFFSET (releaseBody mem facch front)
    mem'.puncture hsoft rx.m_data
  have hdata : (rx.decode mem' (releaseBody mem facch front) FACCH1_2_OFFSET).2.m_data = out := by
    unfold FACCH1.decode
    rw [hout]
    dsimp only
    split <;> rfl
  rw [hdata] at htype
  have hz : ∀ u, 6 ≤ u → u < 12 → chosen (trimmed 95 (symbolsOf FACCH1.coding mem'.past FACCH1_2_OFFSET
      (releaseBody mem facch front) mem'.puncture)) 100 u = decide (u = 8) := by
    intro u h6 h12
    obtain ⟨k, rfl⟩ : ∃ k, u = k + 4 := ⟨u - 4, by omega⟩
    rw [← hbits k (by omega), readBit_eq, Nat.div_eq_of_lt (by omega), Nat.mod_eq_of_lt (by omega)]
    have hbit := congrArg (bitOf · k) htype
    have hmask : ∀ k < 8, 2 ≤ k → bitOf 0x3F k = true ∧ bitOf RTCH_MESSAGE_TYPE_TX_REL k = decide (k + 4 = 8) := by
      decide
    obtain ⟨hmask, hrel⟩ := hmask k (by omega) (by omega)
    rw [bitOf_and, hmask, Bool.and_true, hrel] at hbit
    exact hbit
  obtain ⟨c0, c1, c2, c3, hdrained, hlast⟩ := exists_drained mem facch front
  obtain ⟨T, y, hT, hsame, hless⟩ := no_release hdrained (fun k h6 hk => foundBits_zero mem hrelease hfront h6 hk) hz
    hlast
  have hle := chosen_prefix_le hsoft (show T ≤ 100 by omega) hsame
  have hhead : ∀ p < 2 * T, (trimmed 95 (symbolsOf FACCH1.coding mem'.past FACCH1_2_OFFSET
      (releaseBody mem facch front) mem'.puncture) p).toNat = headSymbol (foundBits mem facch front) p := fun p hp =>
    headSymbol_facch1 mem'.past FACCH1_2_OFFSET (releaseBody mem facch front) mem'.puncture (by omega)
  rw [sum_stepCost hhead, sum_stepCost hhead] at hle
  omega

end Release

end DvmHost.Nxdn

import Mathlib.Data.Vector.Basic
import DvmHost.Lib.Sha256
import DvmHost.Lib.Streaming
import DvmHost.Common.Edac.SHA256

/-!
# `Common.Edac.Correctness.MessageDigest` — the digest is that of the standard, however the message comes in

Line `t` names the registers by a rotation where the standard moves them, and the window of sixteen words holds the
last words of the schedule, so the lines of a block are the rounds of `Lib.Sha256` (`blockTurn_eq`). The object is a
folder of `Lib.Streaming` over blocks of 64 octets: each of the three steps of `processBytes` keeps it holding what came
in, `conclude` puts the padding behind what waits, and `finish` writes the hash of the whole (`finish_spec`).
-/

namespace DvmHost

namespace SHA256

open Lib Lib.Streaming

/-! ## Words -/

theorem rol_eq (x : UInt32) : rol x 25 = Sha256.rotr x 7 ∧ rol x 14 = Sha256.rotr x 18 ∧ rol x 15 = Sha256.rotr x 17 ∧
    rol x 13 = Sha256.rotr x 19 ∧ rol x 30 = Sha256.rotr x 2 ∧ rol x 19 = Sha256.rotr x 13 ∧
    rol x 10 = Sha256.rotr x 22 ∧ rol x 26 = Sha256.rotr x 6 ∧ rol x 21 = Sha256.rotr x 11 ∧
    rol x 7 = Sha256.rotr x 25 :=
  ⟨UInt32.or_comm _ _, UInt32.or_comm _ _, UInt32.or_comm _ _, UInt32.or_comm _ _, UInt32.or_comm _ _,
    UInt32.or_comm _ _, UInt32.or_comm _ _, UInt32.or_comm _ _, UInt32.or_comm _ _, UInt32.or_comm _ _⟩

theorem S0_eq (x : UInt32) : S0 x = Sha256.sigma0 x := by
  obtain ⟨h25, h14, -⟩ := rol_eq x
  rw [S0, Sha256.sigma0, h25, h14]

theorem S1_eq (x : UInt32) : S1 x = Sha256.sigma1 x := by
  obtain ⟨-, -, h15, h13, -⟩ := rol_eq x
  rw [S1, Sha256.sigma1, h15, h13]

theorem SS0_eq (x : UInt32) : SS0 x = Sha256.bigSigma0 x := by
  obtain ⟨-, -, -, -, h30, h19, h10, -⟩ := rol_eq x
  rw [SS0, Sha256.bigSigma0, h30, h19, h10]

theorem SS1_eq (x : UInt32) : SS1 x = Sha256.bigSigma1 x := by
  obtain ⟨-, -, -, -, -, -, -, h26, h21, h7⟩ := rol_eq x
  rw [SS1, Sha256.bigSigma1, h26, h21, h7]

theorem F1_eq (e f g : UInt32) : F1 e f g = Sha256.ch e f g := by
  apply UInt32.toBitVec_inj.mp
  apply BitVec.eq_of_getLsbD_eq
  intro i hi
  simp only [F1, Sha256.ch, UInt32.toBitVec_xor, UInt32.toBitVec_and, UInt32.toBitVec_not, BitVec.getLsbD_xor,
    BitVec.getLsbD_and, BitVec.getLsbD_not, hi, decide_true, Bool.true_and]
  cases e.toBitVec.getLsbD i <;> cases f.toBitVec.getLsbD i <;> cases g.toBitVec.getLsbD i <;> rfl

theorem F2_eq (a b c : UInt32) : F2 a b c = Sha256.maj a b c := by
  apply UInt32.toBitVec_inj.mp
  apply BitVec.eq_of_getLsbD_eq
  intro i _
  simp only [F2, Sha256.maj, UInt32.toBitVec_xor, UInt32.toBitVec_and, UInt32.toBitVec_or, BitVec.getLsbD_xor,
    BitVec.getLsbD_and, BitVec.getLsbD_or]
  cases a.toBitVec.getLsbD i <;> cases b.toBitVec.getLsbD i <;> cases c.toBitVec.getLsbD i <;> rfl

theorem getLsbD_mask (i : Nat) : (0xFF00#32).getLsbD i = (decide (8 ≤ i) && decide (i < 16)) := by
  by_cases hi : i < 32
  · have h : ∀ i : Fin 32, (0xFF00#32).getLsbD i = (decide (8 ≤ i.val) && decide (i.val < 16)) := by decide
    exact h ⟨i, hi⟩
  · rw [BitVec.getLsbD_of_ge _ _ (by omega), decide_eq_false (p := i < 16) (by omega), Bool.and_false]

/-- `SWAP` turns the octets of a word round. -/
theorem SWAP_word32 (b0 b1 b2 b3 : UInt8) : SWAP (word32 b3 b2 b1 b0) = Sha256.beWord b0 b1 b2 b3 := by
  apply UInt32.toBitVec_inj.mp
  let w : BitVec 32 := b3.toBitVec.setWidth 32 <<< 24 ||| b2.toBitVec.setWidth 32 <<< 16 |||
    b1.toBitVec.setWidth 32 <<< 8 ||| b0.toBitVec.setWidth 32 <<< 0
  have hswap : (SWAP (word32 b3 b2 b1 b0)).toBitVec =
      w <<< 24 ||| (w &&& 0xFF00#32) <<< 8 ||| (w >>> 8 &&& 0xFF00#32) ||| w >>> 24 := rfl
  have hword : (Sha256.beWord b0 b1 b2 b3).toBitVec = b0.toBitVec.setWidth 32 <<< 24 |||
    b1.toBitVec.setWidth 32 <<< 16 ||| b2.toBitVec.setWidth 32 <<< 8 ||| b3.toBitVec.setWidth 32 := rfl
  rw [hswap, hword]
  apply BitVec.eq_of_getLsbD_eq
  intro i hi
  simp only [w, BitVec.getLsbD_or, BitVec.getLsbD_and, BitVec.getLsbD_shiftLeft, BitVec.getLsbD_ushiftRight,
    BitVec.getLsbD_setWidth, getLsbD_mask]
  have hb0 : ∀ k, 8 ≤ k → b0.toBitVec.getLsbD k = false := fun k hk => BitVec.getLsbD_of_ge _ _ hk
  have hb1 : ∀ k, 8 ≤ k → b1.toBitVec.getLsbD k = false := fun k hk => BitVec.getLsbD_of_ge _ _ hk
  have hb2 : ∀ k, 8 ≤ k → b2.toBitVec.getLsbD k = false := fun k hk => BitVec.getLsbD_of_ge _ _ hk
  have hb3 : ∀ k, 8 ≤ k → b3.toBitVec.getLsbD k = false := fun k hk => BitVec.getLsbD_of_ge _ _ hk
  grind

/-- A word that was turned round is stored with its most significant octet first. -/
theorem setWord_SWAP (p : Bytes) (i : Nat) (v : UInt32) (k : Nat) :
    setWord p i (SWAP v) k = if i ≤ k ∧ k < i + 4 then (Sha256.beOctets v).getD (k - i) 0 else p k := by
  have hbits : ∀ s d : Nat, s < 4 → d = 3 - s → ((SWAP v).toBitVec >>> (8 * s)).setWidth 8 =
      (v.toBitVec >>> (8 * d)).setWidth 8 := by
    intro s d hs hd
    have hswap : (SWAP v).toBitVec = v.toBitVec <<< 24 ||| (v.toBitVec &&& 0xFF00#32) <<< 8 |||
      (v.toBitVec >>> 8 &&& 0xFF00#32) ||| v.toBitVec >>> 24 := rfl
    apply BitVec.eq_of_getLsbD_eq
    intro j hj
    simp only [hswap, BitVec.getLsbD_setWidth, BitVec.getLsbD_ushiftRight, BitVec.getLsbD_or, BitVec.getLsbD_and,
      BitVec.getLsbD_shiftLeft, getLsbD_mask]
    have hv : ∀ k, 32 ≤ k → v.toBitVec.getLsbD k = false := fun k hk => BitVec.getLsbD_of_ge _ _ hk
    obtain rfl | rfl | rfl | rfl : s = 0 ∨ s = 1 ∨ s = 2 ∨ s = 3 := by omega
    all_goals subst hd
    all_goals grind
  have hoctets : [(SWAP v).toUInt8, (SWAP v >>> (8 : UInt32)).toUInt8, (SWAP v >>> (16 : UInt32)).toUInt8,
      (SWAP v >>> (24 : UInt32)).toUInt8] = Sha256.beOctets v := by
    unfold Sha256.beOctets
    congr 1
    · exact UInt8.toBitVec_inj.mp (hbits 0 3 (by decide) rfl)
    · congr 1
      · exact UInt8.toBitVec_inj.mp (hbits 1 2 (by decide) rfl)
      · congr 1
        · exact UInt8.toBitVec_inj.mp (hbits 2 1 (by decide) rfl)
        · congr 1
          exact UInt8.toBitVec_inj.mp (hbits 3 0 (by decide) rfl)
  unfold setWord memcpy
  rw [hoctets]

theorem SWAP_loadWord (p : Bytes) : SWAP (loadWord p) = Sha256.beWord (p 0) (p 1) (p 2) (p 3) :=
  SWAP_word32 (p 0) (p 1) (p 2) (p 3)

/-! ## The lines of a block -/

/-- The registers as the standard has them before round `t`. -/
def view (t : Nat) (v : Vector UInt32 8) : Vector UInt32 8 := Vector.ofFn fun j : Fin 8 => v[reg t j]

theorem reg_ne {t i j : Nat} (hi : i < 8) (hj : j < 8) (h : i ≠ j) : (reg t i).val ≠ (reg t j).val := by
  simp only [reg]
  omega

theorem reg_succ (t j : Nat) : reg (t + 1) (j + 1) = reg t j := by
  simp only [reg, Fin.mk.injEq]
  omega

theorem reg_succ_zero (t : Nat) : reg (t + 1) 0 = reg t 7 := by
  simp only [reg, Fin.mk.injEq]
  omega

/-- The registers after a line. -/
theorem getElem_R (t : Nat) (m : UInt32) (v : Vector UInt32 8) {j : Nat} (hj : j < 8) :
    (R t m v)[reg t j] =
      let t1 := v[reg t 7] + SS1 v[reg t 4] + F1 v[reg t 4] v[reg t 5] v[reg t 6] + K t + m
      if j = 7 then SS0 v[reg t 0] + F2 v[reg t 0] v[reg t 1] v[reg t 2] + t1
      else if j = 3 then v[reg t 3] + t1 else v[reg t j] := by
  unfold R
  simp only [Fin.getElem_fin, Vector.getElem_set]
  by_cases h7 : j = 7
  · subst h7
    rw [if_pos rfl, if_pos rfl]
  · rw [if_neg (reg_ne (by decide) hj (Ne.symm h7)), if_neg h7]
    by_cases h3 : j = 3
    · subst h3
      rw [if_pos rfl, if_pos rfl]
    · rw [if_neg (reg_ne (by decide) hj (Ne.symm h3)), if_neg h3]

/-- **A line is a round** on the registers as the standard has them. -/
theorem view_R (t : Nat) (m : UInt32) (v : Vector UInt32 8) :
    view (t + 1) (R t m v) = Sha256.round (K t) m (view t v) := by
  have hview : ∀ j < 8, (view t v).getD j 0 = v[reg t j] := fun j hj => by
    have hget : (view t v).getD j 0 = (view t v)[j] := dif_pos (lt_of_lt_of_eq hj (view t v).size_toArray.symm)
    rw [hget, view, Vector.getElem_ofFn]
  refine Vector.ext fun j hj => ?_
  rw [view, Vector.getElem_ofFn]
  unfold Sha256.round
  simp only [hview 0 (by decide), hview 1 (by decide), hview 2 (by decide), hview 3 (by decide), hview 4 (by decide),
    hview 5 (by decide), hview 6 (by decide), hview 7 (by decide), ← SS0_eq, ← SS1_eq, ← F1_eq, ← F2_eq]
  rcases j with _ | j
  · refine (congrArg (fun i : Fin 8 => (R t m v)[i]) (reg_succ_zero t)).trans ?_
    refine (getElem_R t m v (by decide)).trans ?_
    exact UInt32.add_comm _ _
  · refine (congrArg (fun i : Fin 8 => (R t m v)[i]) (reg_succ t j)).trans ?_
    refine (getElem_R t m v (by omega)).trans ?_
    have hcases : j = 0 ∨ j = 1 ∨ j = 2 ∨ j = 3 ∨ j = 4 ∨ j = 5 ∨ j = 6 := by omega
    rcases hcases with rfl | rfl | rfl | rfl | rfl | rfl | rfl <;> rfl

/-- The window before line `t` holds the last sixteen words of the schedule. -/
def Window (w : Nat → UInt32) (t : Nat) (x : Vector UInt32 16) : Prop :=
  ∀ k, k < max 16 t → t ≤ k + 16 → x.get (windowIdx k) = Sha256.schedule w k

/-- What a line uses is the word of the schedule, and the window moves on. -/
theorem Window.line {w : Nat → UInt32} {t : Nat} {s : Vector UInt32 8 × Vector UInt32 16} (h : Window w t s.2) :
    (SHA256.line s t).1 = R t (Sha256.schedule w t) s.1 ∧ Window w (t + 1) (SHA256.line s t).2 := by
  have hword : ∀ k, k < max 16 t → t ≤ k + 16 → s.2[windowIdx k] = Sha256.schedule w k := h
  unfold SHA256.line
  by_cases ht : t < 16
  · rw [if_pos ht]
    exact ⟨congrArg (R t · s.1) (hword t (by omega) (by omega)), fun k hk hk' => h k (by omega) (by omega)⟩
  · rw [if_neg ht]
    have hM : M s.2 t = Sha256.schedule w t := by
      have hidx : windowIdx t = windowIdx (t - 16) := by
        simp only [windowIdx, Fin.mk.injEq]
        omega
      have hlast : s.2[windowIdx t] = s.2[windowIdx (t - 16)] := congrArg (fun i : Fin 16 => s.2[i]) hidx
      rw [M, hlast, hword (t - 2) (by omega) (by omega), hword (t - 7) (by omega) (by omega),
        hword (t - 15) (by omega) (by omega), hword (t - 16) (by omega) (by omega), S0_eq, S1_eq]
      conv_rhs => rw [Sha256.schedule, if_neg ht]
    refine ⟨congrArg (R t · s.1) hM, fun k hk hk' => ?_⟩
    show (s.2.set (windowIdx t).val (M s.2 t) (windowIdx t).isLt)[windowIdx k] = Sha256.schedule w k
    simp only [Fin.getElem_fin, Vector.getElem_set]
    by_cases hkt : k = t
    · subst hkt
      rw [if_pos rfl, hM]
    · have hne : (windowIdx t).val ≠ (windowIdx k).val := by
        simp only [windowIdx]
        omega
      rw [if_neg hne]
      exact hword k (by omega) (by omega)

/-- **The lines are the rounds.** -/
theorem lines_eq {w : Nat → UInt32} {v : Vector UInt32 8} {x : Vector UInt32 16} (h : Window w 0 x) (n : Nat) :
    view n ((List.range n).foldl line (v, x)).1 = Sha256.rounds K w (view 0 v) n ∧
      Window w n ((List.range n).foldl line (v, x)).2 := by
  induction n with
  | zero => exact ⟨rfl, h⟩
  | succ n ih =>
      obtain ⟨hregs, hwindow⟩ := ih
      rw [List.range_succ, List.foldl_concat]
      obtain ⟨hline, hnext⟩ := hwindow.line
      refine ⟨?_, hnext⟩
      rw [hline, view_R, hregs, Sha256.rounds, Sha256.rounds, List.range_succ, List.foldl_concat]

theorem view_of_eight (q : Nat) (v : Vector UInt32 8) : view (8 * q) v = v := by
  refine Vector.ext fun j hj => ?_
  rw [view, Vector.getElem_ofFn]
  have hidx : (reg (8 * q) j).val = j := by
    simp only [reg]
    omega
  simp only [Fin.getElem_fin, hidx]

/-- The octets at `p`. -/
def octetsAt (p : Bytes) (n : Nat) : List UInt8 := (List.range n).map p

@[simp] theorem length_octetsAt (p : Bytes) (n : Nat) : (octetsAt p n).length = n := by
  simp [octetsAt]

theorem getD_octetsAt (p : Bytes) {n k : Nat} (hk : k < n) : (octetsAt p n).getD k 0 = p k := by
  simp [octetsAt, List.getD_eq_getElem?_getD, List.getElem?_range hk]

/-- **A turn of `processBlock` compresses its block.** -/
theorem blockTurn_eq (st : Vector UInt32 8) (p : Bytes) : blockTurn st p = Sha256.compress K st (octetsAt p 64) := by
  have hwindow : Window (Sha256.word (octetsAt p 64)) 0
      (Vector.ofFn fun t : Fin 16 => SWAP (loadWord (fromByte (4 * t) p))) := by
    intro k hk _
    show (Vector.ofFn fun t : Fin 16 => SWAP (loadWord (fromByte (4 * t) p)))[windowIdx k] = _
    have hk16 : k < 16 := by omega
    have hidx : (windowIdx k).val = k := Nat.mod_eq_of_lt hk16
    rw [Sha256.schedule, if_pos hk16, Sha256.word]
    simp only [Fin.getElem_fin, Vector.getElem_ofFn, hidx, SWAP_loadWord, fromByte]
    rw [getD_octetsAt p (by omega), getD_octetsAt p (by omega), getD_octetsAt p (by omega), getD_octetsAt p (by omega)]
    rfl
  have hlines := (lines_eq (v := st) hwindow 64).1
  rw [view_of_eight 8, view_of_eight 0] at hlines
  unfold blockTurn Sha256.compress
  refine Vector.ext fun j hj => ?_
  simp only [hlines, Vector.getElem_ofFn, Vector.getElem_zipWith, Fin.getElem_fin]

/-! ## What comes in -/

theorem octetsAt_add (p : Bytes) (m n : Nat) : octetsAt p (m + n) = octetsAt p m ++ octetsAt (fromByte m p) n := by
  unfold octetsAt
  rw [List.range_add, List.map_append, List.map_map]
  rfl

theorem octetsAt_congr {p q : Bytes} {n : Nat} (h : ∀ k < n, p k = q k) : octetsAt p n = octetsAt q n :=
  List.map_congr_left fun k hk => h k (List.mem_range.mp hk)

/-- The fold over the blocks in a buffer takes them where they are. -/
theorem foldBlocks_octetsAt {σ : Type} (f : σ → List UInt8 → σ) (s : σ) (p : Bytes) (q : Nat) :
    foldBlocks f 64 s (octetsAt p (64 * q)) =
      (List.range q).foldl (fun s i => f s (octetsAt (fromByte (64 * i) p) 64)) s := by
  unfold foldBlocks
  rw [length_octetsAt, Nat.mul_div_cancel_left q (by decide)]
  refine List.foldl_ext _ _ _ fun s i hi => ?_
  have hroom : 64 * i + 64 ≤ 64 * q := by
    have := List.mem_range.mp hi
    omega
  obtain ⟨r, hr⟩ := Nat.exists_eq_add_of_le hroom
  rw [hr, octetsAt_add, octetsAt_add, List.append_assoc, List.drop_left' (length_octetsAt p _),
    List.take_left' (length_octetsAt _ _)]

/-- The byte count is that of the octets processed, as far as two words hold it. -/
def Counted (total : UInt32 × UInt32) (n : Nat) : Prop := total.1.toNat + 2 ^ 32 * total.2.toNat = n % 2 ^ 64

theorem Counted.add {total : UInt32 × UInt32} {n : Nat} (h : Counted total n) (len : Nat) (hlen : len < 2 ^ 32) :
    Counted (addTotal total (UInt32.ofNat len)) (n + len) := by
  have h1 := total.1.toNat_lt
  have h2 := total.2.toNat_lt
  have hof : (UInt32.ofNat len).toNat = len := Nat.mod_eq_of_lt hlen
  have hsum : (total.1 + UInt32.ofNat len).toNat = (total.1.toNat + len) % 2 ^ 32 := by
    rw [UInt32.toNat_add, hof]
  have hcarry : (total.2 + 1).toNat = (total.2.toNat + 1) % 2 ^ 32 := UInt32.toNat_add _ _
  unfold Counted addTotal at *
  dsimp only
  split
  · next hlt =>
      rw [UInt32.lt_iff_toNat_lt, hsum, hof] at hlt
      rw [hsum, hcarry]
      omega
  · next hge =>
      rw [UInt32.lt_iff_toNat_lt, hsum, hof] at hge
      rw [hsum]
      omega

/-- The object has taken in the message `m`. -/
structure Reads (s : SHA256) (m : List UInt8) : Prop where
  holds : Holds (Sha256.compress K) 64 initState m s.m_state (octetsAt s.m_buffer s.m_buflen)
  counted : Counted s.m_total (m.length - s.m_buflen)
  room : s.m_buflen ≤ 64

theorem Reads.buflen_le {s : SHA256} {m : List UInt8} (h : Reads s m) : s.m_buflen ≤ m.length := by
  obtain ⟨p, hp, -⟩ := h.holds
  rw [← hp, List.length_append, length_octetsAt]
  omega

theorem reads_init (s : SHA256) : Reads s.init [] where
  holds := holds_start _ _ _
  counted := rfl
  room := Nat.zero_le 64

/-- **Whole blocks are compressed one after the other.** -/
theorem processBlock_eq (s : SHA256) (buffer : Bytes) (q : Nat) :
    s.processBlock buffer (64 * q) =
      { s with
        m_total := addTotal s.m_total (UInt32.ofNat (64 * q))
        m_state := foldBlocks (Sha256.compress K) 64 s.m_state (octetsAt buffer (64 * q)) } := by
  have hturns : (64 * q / 4 + 15) / 16 = q := by omega
  unfold processBlock
  dsimp only
  rw [hturns, foldBlocks_octetsAt]
  simp only [blockTurn_eq]

/-- The first step takes octets from the front, and when it leaves some, nothing waits. -/
theorem Reads.topUp {s : SHA256} {m : List UInt8} (h : Reads s m) (buffer : Bytes) {len : Nat} (hlen : len < 2 ^ 32) :
    Reads (s.topUp buffer len).1 (m ++ octetsAt buffer (s.topUp buffer len).2) ∧ (s.topUp buffer len).2 ≤ len ∧
      ((s.topUp buffer len).2 < len → (s.topUp buffer len).1.m_buflen = 0) := by
  have hle := h.buflen_le
  have hroom := h.room
  unfold SHA256.topUp
  by_cases hempty : s.m_buflen = 0
  · rw [if_pos hempty]
    refine ⟨?_, Nat.zero_le len, fun _ => hempty⟩
    change Reads s (m ++ [])
    rw [List.append_nil]
    exact h
  rw [if_neg hempty]
  dsimp only
  generalize hadd : (if 128 - s.m_buflen > len then len else 128 - s.m_buflen) = add
  have hbound : add ≤ len ∧ add ≤ 128 - s.m_buflen ∧ (add < len → s.m_buflen + add = 128) := by
    rw [← hadd]
    split <;> omega
  obtain ⟨haddlen, haddroom, hfull⟩ := hbound
  -- the buffer with what was added
  have hwaits : octetsAt (memcpy s.m_buffer s.m_buflen buffer add) (s.m_buflen + add) =
      octetsAt s.m_buffer s.m_buflen ++ octetsAt buffer add := by
    rw [octetsAt_add]
    congr 1
    · exact octetsAt_congr fun k hk => memcpy_of_lt _ _ _ hk
    · exact octetsAt_congr fun k hk => memcpy_add _ _ _ hk
  have hholds : Holds (Sha256.compress K) 64 initState (m ++ octetsAt buffer add) s.m_state
      (octetsAt (memcpy s.m_buffer s.m_buflen buffer add) (s.m_buflen + add)) := by
    rw [hwaits]
    exact h.holds.wait _
  by_cases hbig : s.m_buflen + add > 64
  · rw [if_pos hbig]
    refine ⟨?_, haddlen, fun hlt => by rw [whole, processBlock_eq]; dsimp only; have := hfull hlt; omega⟩
    generalize hq : (s.m_buflen + add) / 64 = q
    have hsplit : s.m_buflen + add = 64 * q + (s.m_buflen + add) % 64 := by omega
    unfold whole
    rw [hq, processBlock_eq]
    dsimp only
    rw [hsplit, octetsAt_add] at hholds
    refine ⟨?_, ?_, by dsimp only; omega⟩
    · have habsorb := hholds.absorb (by rw [length_octetsAt]; exact Nat.dvd_mul_right 64 q)
      have hmoved : octetsAt (memcpy (memcpy s.m_buffer s.m_buflen buffer add) 0
          (fromByte (64 * q) (memcpy s.m_buffer s.m_buflen buffer add)) ((s.m_buflen + add) % 64))
          ((s.m_buflen + add) % 64) =
          octetsAt (fromByte (64 * q) (memcpy s.m_buffer s.m_buflen buffer add)) ((s.m_buflen + add) % 64) := by
        refine octetsAt_congr fun k hk => ?_
        have hcell := memcpy_add (memcpy s.m_buffer s.m_buflen buffer add) 0
          (fromByte (64 * q) (memcpy s.m_buffer s.m_buflen buffer add)) hk
        rwa [Nat.zero_add] at hcell
      dsimp only
      rw [hmoved]
      exact habsorb
    · have hcount := h.counted.add (64 * q) (by omega)
      dsimp only
      rw [List.length_append, length_octetsAt]
      have hsame : m.length + add - (s.m_buflen + add) % 64 = m.length - s.m_buflen + 64 * q := by omega
      rw [hsame]
      exact hcount
  · rw [if_neg hbig]
    refine ⟨⟨hholds, ?_, by dsimp only; omega⟩, haddlen, fun hlt => by have := hfull hlt; omega⟩
    dsimp only
    rw [List.length_append, length_octetsAt, Nat.add_sub_add_right]
    exact h.counted

/-- The second step takes all complete blocks, when nothing waits. -/
theorem Reads.wholeBlocks {s : SHA256} {m : List UInt8} (h : Reads s m) (buffer : Bytes) (len : Nat)
    (hlen : len < 2 ^ 32) (hempty : 0 < len → s.m_buflen = 0) :
    Reads (s.wholeBlocks buffer len).1 (m ++ octetsAt buffer (s.wholeBlocks buffer len).2) ∧
      (s.wholeBlocks buffer len).2 ≤ len ∧ len - (s.wholeBlocks buffer len).2 < 64 ∧
      (s.wholeBlocks buffer len).1.m_buflen = s.m_buflen := by
  unfold SHA256.wholeBlocks
  by_cases hbig : len ≥ 64
  · rw [if_pos hbig]
    have hzero := hempty (by omega)
    have hholds : Holds (Sha256.compress K) 64 initState m s.m_state [] := by
      have := h.holds
      rwa [hzero] at this
    unfold whole
    generalize hq : len / 64 = q
    rw [processBlock_eq]
    refine ⟨⟨?_, ?_, by dsimp only; omega⟩, by omega, by omega, rfl⟩
    · dsimp only
      rw [hzero]
      have hwait : Holds (Sha256.compress K) 64 initState (m ++ octetsAt buffer (64 * q)) s.m_state
          (octetsAt buffer (64 * q) ++ []) := by
        rw [List.append_nil]
        exact hholds.wait (octetsAt buffer (64 * q))
      exact hwait.absorb (by rw [length_octetsAt]; exact Nat.dvd_mul_right 64 q)
    · have hcount := h.counted.add (64 * q) (by omega)
      dsimp only
      rw [List.length_append, length_octetsAt, hzero]
      rwa [hzero] at hcount
  · rw [if_neg hbig]
    refine ⟨?_, Nat.zero_le len, by dsimp only; omega, rfl⟩
    change Reads s (m ++ [])
    rw [List.append_nil]
    exact h

/-- The third step keeps the rest, when nothing waits. -/
theorem Reads.keepRest {s : SHA256} {m : List UInt8} (h : Reads s m) (buffer : Bytes) {len : Nat}
    (hlen : len < 64) (hempty : 0 < len → s.m_buflen = 0) : Reads (s.keepRest buffer len) (m ++ octetsAt buffer len) := by
  unfold SHA256.keepRest
  by_cases hpos : len > 0
  · have hzero := hempty hpos
    rw [if_pos hpos]
    dsimp only
    rw [if_neg (by omega), hzero, Nat.zero_add]
    have hwaits : octetsAt (memcpy s.m_buffer 0 buffer len) len = octetsAt buffer len := by
      refine octetsAt_congr fun k hk => ?_
      have hcell := memcpy_add s.m_buffer 0 buffer hk
      rwa [Nat.zero_add] at hcell
    have hholds := h.holds.wait (octetsAt buffer len)
    rw [hzero] at hholds
    refine ⟨?_, ?_, by dsimp only; omega⟩
    · dsimp only
      rw [hwaits]
      exact hholds
    · dsimp only
      rw [List.length_append, length_octetsAt, Nat.add_sub_cancel]
      have hcount := h.counted
      rwa [hzero] at hcount
  · have hnone : len = 0 := by omega
    rw [if_neg hpos, hnone]
    change Reads s (m ++ [])
    rw [List.append_nil]
    exact h

/-- **What comes in is appended to what came in before.** -/
theorem Reads.processBytes {s : SHA256} {m : List UInt8} (h : Reads s m) (buffer : Bytes) {len : Nat}
    (hlen : len < 2 ^ 32) : Reads (s.processBytes buffer len) (m ++ octetsAt buffer len) := by
  obtain ⟨hfirst, hadd, hempty⟩ := h.topUp buffer hlen
  unfold SHA256.processBytes
  generalize hs1 : s.topUp buffer len = r1 at hfirst hadd hempty
  obtain ⟨s1, add⟩ := r1
  dsimp only at hfirst hadd hempty ⊢
  obtain ⟨hsecond, htaken, hrest, hsame⟩ := hfirst.wholeBlocks (fromByte add buffer) (len - add) (by omega)
    fun hpos => hempty (by omega)
  generalize hs2 : s1.wholeBlocks (fromByte add buffer) (len - add) = r2 at hsecond htaken hrest hsame
  obtain ⟨s2, taken⟩ := r2
  dsimp only at hsecond htaken hrest hsame ⊢
  have hthird := hsecond.keepRest (fromByte taken (fromByte add buffer)) hrest fun hpos => by
    rw [hsame]
    exact hempty (by omega)
  have hparts : len = add + (taken + (len - add - taken)) := by omega
  conv_rhs => rw [hparts, octetsAt_add, octetsAt_add, ← List.append_assoc, ← List.append_assoc]
  exact hthird

/-! ## The end -/

/-- The two words that `conclude` stores are the length field. -/
theorem lengthField_eq {total : UInt32 × UInt32} {n : Nat} (h : Counted total n) :
    Sha256.beOctets (total.2 <<< (3 : UInt32) ||| total.1 >>> (29 : UInt32)) ++
      Sha256.beOctets (total.1 <<< (3 : UInt32)) = Sha256.lengthField n := by
  obtain ⟨t0, t1⟩ := total
  unfold Counted at h
  dsimp only at h ⊢
  have h0 := t0.toNat_lt
  have h1 := t1.toNat_lt
  have hhigh : (t1 <<< (3 : UInt32) ||| t0 >>> (29 : UInt32)).toNat = 8 * t1.toNat % 2 ^ 32 + t0.toNat / 2 ^ 29 := by
    have hup : 8 * t1.toNat % 2 ^ 32 = 2 ^ 3 * (t1.toNat % 2 ^ 29) := by omega
    rw [UInt32.toNat_or, UInt32.toNat_shiftLeft, UInt32.toNat_shiftRight]
    simp only [UInt32.reduceToNat, Nat.shiftLeft_eq, Nat.shiftRight_eq_div_pow, Nat.reduceMod]
    rw [Nat.mul_comm t1.toNat, show (2 ^ 3 * t1.toNat) % 2 ^ 32 = 8 * t1.toNat % 2 ^ 32 from rfl, hup]
    exact (Nat.two_pow_add_eq_or_of_lt (i := 3) (by omega) (t1.toNat % 2 ^ 29)).symm
  have hlow : (t0 <<< (3 : UInt32)).toNat = 8 * t0.toNat % 2 ^ 32 := by
    rw [UInt32.toNat_shiftLeft]
    simp only [UInt32.reduceToNat, Nat.shiftLeft_eq, Nat.reduceMod]
    rw [Nat.mul_comm]
  have hoctet : ∀ (v k : UInt32) (x : Nat), k.toNat < 32 → v.toNat / 2 ^ k.toNat % 256 = x % 256 →
      (v >>> k).toUInt8 = UInt8.ofNat x := by
    intro v k x hk hx
    apply UInt8.toNat_inj.mp
    rw [toNat_shiftRight_toUInt8 v k hk, hx, UInt8.toNat_ofNat']
  have hlast : ∀ (v : UInt32) (x : Nat), v.toNat % 256 = x % 256 → v.toUInt8 = UInt8.ofNat x := by
    intro v x hx
    apply UInt8.toNat_inj.mp
    rw [UInt32.toNat_toUInt8, hx, UInt8.toNat_ofNat']
  generalize (t1 <<< (3 : UInt32) ||| t0 >>> (29 : UInt32)) = high at hhigh
  generalize t0 <<< (3 : UInt32) = low at hlow
  have hfield : Sha256.lengthField n = [UInt8.ofNat (8 * n / 2 ^ 56), UInt8.ofNat (8 * n / 2 ^ 48),
      UInt8.ofNat (8 * n / 2 ^ 40), UInt8.ofNat (8 * n / 2 ^ 32), UInt8.ofNat (8 * n / 2 ^ 24),
      UInt8.ofNat (8 * n / 2 ^ 16), UInt8.ofNat (8 * n / 2 ^ 8), UInt8.ofNat (8 * n / 2 ^ 0)] := rfl
  rw [hfield]
  unfold Sha256.beOctets
  rw [hoctet high 24 (8 * n / 2 ^ 56) (by decide) (by simp only [UInt32.reduceToNat]; omega),
    hoctet high 16 (8 * n / 2 ^ 48) (by decide) (by simp only [UInt32.reduceToNat]; omega),
    hoctet high 8 (8 * n / 2 ^ 40) (by decide) (by simp only [UInt32.reduceToNat]; omega),
    hlast high (8 * n / 2 ^ 32) (by omega),
    hoctet low 24 (8 * n / 2 ^ 24) (by decide) (by simp only [UInt32.reduceToNat]; omega),
    hoctet low 16 (8 * n / 2 ^ 16) (by decide) (by simp only [UInt32.reduceToNat]; omega),
    hoctet low 8 (8 * n / 2 ^ 8) (by decide) (by simp only [UInt32.reduceToNat]; omega),
    hlast low (8 * n / 2 ^ 0) (by omega)]
  rfl

theorem octetsAt_fillbuf (z : Nat) : octetsAt fillbuf (z + 1) = 0x80 :: List.replicate z 0 := by
  unfold octetsAt
  rw [List.range_succ_eq_map, List.map_cons, List.map_map]
  refine congrArg (List.cons _) (List.eq_replicate_iff.mpr ⟨by rw [List.length_map, List.length_range], ?_⟩)
  intro x hx
  obtain ⟨k, -, rfl⟩ := List.mem_map.mp hx
  rfl

theorem octetsAt_word {p : Bytes} {v : UInt32} (h : ∀ k < 4, p k = (Sha256.beOctets v).getD k 0) :
    octetsAt p 4 = Sha256.beOctets v := by
  have hcells : octetsAt p 4 = [p 0, p 1, p 2, p 3] := rfl
  rw [hcells, h 0 (by decide), h 1 (by decide), h 2 (by decide), h 3 (by decide)]
  rfl

theorem memcpy_of_ge (dst : Bytes) {off n k : Nat} (src : Bytes) (hk : off + n ≤ k) : memcpy dst off src n k = dst k :=
  if_neg (by omega)

/-- The buffer that `conclude` processes: what waits, the padding and the length. -/
theorem octetsAt_concluded (p : Bytes) {b q : Nat} (hb : b + 9 ≤ 64 * q) (high low : UInt32) :
    octetsAt (memcpy (setWord (setWord p (4 * (16 * q - 2)) (SWAP high)) (4 * (16 * q - 1)) (SWAP low)) b fillbuf
      ((16 * q - 2) * 4 - b)) (64 * q) =
      octetsAt p b ++ (0x80 :: List.replicate (64 * q - 9 - b) 0 ++ (Sha256.beOctets high ++ Sha256.beOctets low)) := by
  have hparts : 64 * q = b + ((64 * q - 9 - b + 1) + (4 + 4)) := by omega
  conv_lhs => rw [hparts, octetsAt_add, octetsAt_add, octetsAt_add _ 4 4]
  congr 1
  · refine octetsAt_congr fun k hk => ?_
    rw [memcpy_of_lt _ _ _ hk, setWord_SWAP, if_neg (by omega), setWord_SWAP, if_neg (by omega)]
  congr 1
  · rw [← octetsAt_fillbuf]
    exact octetsAt_congr fun k hk => memcpy_add _ _ _ (by omega)
  congr 1
  · refine octetsAt_word fun k hk => ?_
    unfold fromByte
    rw [memcpy_of_ge _ _ (by omega), setWord_SWAP, if_neg (by omega), setWord_SWAP, if_pos (by omega)]
    congr 1
    omega
  · refine octetsAt_word fun k hk => ?_
    unfold fromByte
    rw [memcpy_of_ge _ _ (by omega), setWord_SWAP, if_pos (by omega)]
    congr 1
    omega

/-- **The hash of the padded message** is what `conclude` leaves. -/
theorem Reads.conclude {s : SHA256} {m : List UInt8} (h : Reads s m) :
    s.conclude.m_state = foldBlocks (Sha256.compress K) 64 initState (Sha256.pad m) := by
  have hle := h.buflen_le
  have hroom := h.room
  have hmod : m.length % 64 = s.m_buflen % 64 := by
    have := h.holds.length_mod
    rwa [length_octetsAt] at this
  obtain ⟨q, hsize, hfit, hzeros⟩ : ∃ q, (if s.m_buflen < 56 then 64 / 4 else 64 * 2 / 4) = 16 * q ∧
      s.m_buflen + 9 ≤ 64 * q ∧ 64 * q - 9 - s.m_buflen = Sha256.zeros m.length := by
    unfold Sha256.zeros
    split
    · exact ⟨1, rfl, by omega, by omega⟩
    · exact ⟨2, rfl, by omega, by omega⟩
  have hcount := h.counted.add s.m_buflen (by omega)
  rw [Nat.sub_add_cancel hle] at hcount
  have hwhole : 16 * q * 4 = 64 * q := by omega
  unfold SHA256.conclude
  dsimp only
  rw [hsize, hwhole, processBlock_eq]
  dsimp only
  rw [octetsAt_concluded _ hfit, lengthField_eq hcount, hzeros]
  have hheld := (h.holds.wait (0x80 :: List.replicate (Sha256.zeros m.length) 0 ++ Sha256.lengthField m.length))
  rw [← List.append_nil (octetsAt _ _ ++ _)] at hheld
  rw [(hheld.absorb ?_).eq_fold, Sha256.pad, List.append_assoc]
  obtain ⟨p, hp, hdvd, -⟩ := h.holds
  have hlen := congrArg List.length hp
  rw [List.length_append, length_octetsAt] at hlen
  simp only [List.length_append, length_octetsAt, List.length_cons, List.length_replicate, Sha256.lengthField,
    List.length_map, List.length_range]
  omega

/-- What `read` leaves in memory. -/
theorem read_apply (s : SHA256) (out : Bytes) :
    octetsAt (s.read out) 32 = s.m_state.toList.flatMap Sha256.beOctets ∧
      ∀ k, 32 ≤ k → s.read out k = out k := by
  have hcell : ∀ (l : List (Fin 8)) (p : Bytes) (k : Nat),
      (l.foldl (fun buffer (i : Fin 8) => setWord buffer (i * 4) (SWAP s.m_state[i])) p) k =
        if h : k < 32 then
          if (⟨k / 4, by omega⟩ : Fin 8) ∈ l then (Sha256.beOctets s.m_state[k / 4]).getD (k % 4) 0 else p k
        else p k := by
    intro l
    induction l with
    | nil => intro p k; simp
    | cons i l ih =>
        intro p k
        rw [List.foldl_cons, ih, setWord_SWAP]
        by_cases hk : k < 32
        · rw [dif_pos hk, dif_pos hk]
          by_cases hmem : (⟨k / 4, by omega⟩ : Fin 8) ∈ l
          · rw [if_pos hmem, if_pos (List.mem_cons_of_mem i hmem)]
          · rw [if_neg hmem]
            by_cases hi : (⟨k / 4, by omega⟩ : Fin 8) = i
            · have hval : i.val = k / 4 := (congrArg Fin.val hi).symm
              have hoff : k - k / 4 * 4 = k % 4 := by omega
              rw [if_pos (by omega), if_pos (hi ▸ List.mem_cons_self)]
              simp only [Fin.getElem_fin, hval, hoff]
            · have hval : i.val ≠ k / 4 := fun he => hi (Fin.ext he.symm)
              rw [if_neg (by omega), if_neg fun hm => (List.mem_cons.mp hm).elim hi hmem]
        · rw [dif_neg hk, dif_neg hk, if_neg (by omega)]
  refine ⟨?_, fun k hk => ?_⟩
  · have hword : ∀ j : Fin 8, octetsAt (fromByte (4 * j) (s.read out)) 4 = Sha256.beOctets s.m_state[j] := by
      intro j
      refine octetsAt_word fun k hk => ?_
      have hdiv : (4 * j.val + k) / 4 = j.val := by omega
      have hmod : (4 * j.val + k) % 4 = k := by omega
      unfold SHA256.read fromByte
      rw [hcell, dif_pos (by omega), if_pos (List.mem_finRange _)]
      simp only [hdiv, hmod, Fin.getElem_fin]
    have hlist : s.m_state.toList = (List.finRange 8).map fun j : Fin 8 => s.m_state[j] := by
      refine List.ext_getElem (by simp) fun i hi hi' => ?_
      simp
    rw [hlist, List.flatMap_map]
    simp only [← hword]
    rfl
  · unfold SHA256.read
    rw [hcell, dif_neg (by omega)]

/-- The first 64 primes. -/
def primes : List Nat :=
  [2, 3, 5, 7, 11, 13, 17, 19, 23, 29, 31, 37, 41, 43, 47, 53, 59, 61, 67, 71, 73, 79, 83, 89, 97, 101, 103,
   107, 109, 113, 127, 131, 137, 139, 149, 151, 157, 163, 167, 173, 179, 181, 191, 193, 197, 199, 211, 223, 227,
   229, 233, 239, 241, 251, 257, 263, 269, 271, 277, 281, 283, 293, 307, 311]

/-- `c` is the fraction, to 32 bits, of the root of `p` with the exponent `e`, whose integer part is `r`. -/
def IsFraction (e p r : Nat) (c : UInt32) : Prop :=
  (2 ^ 32 * r + c.toNat) ^ e ≤ p * 2 ^ (32 * e) ∧ p * 2 ^ (32 * e) < (2 ^ 32 * r + c.toNat + 1) ^ e

instance (e p r : Nat) (c : UInt32) : Decidable (IsFraction e p r c) := inferInstanceAs (Decidable (_ ∧ _))

/-- **The constants** are those of the standard: the fractions of the cube roots of the first 64 primes, and of the
    square roots of the first eight. -/
theorem constants_spec : (∀ pc ∈ primes.zip roundConstants, ∃ r < 7, IsFraction 3 pc.1 r pc.2) ∧
    ∀ pc ∈ (primes.take 8).zip initState.toList, ∃ r < 7, IsFraction 2 pc.1 r pc.2 := by
  decide

/-- **The digest is that of the standard.** Whatever the object was used for before, the calls of `processBytes` after
    `init` may cut the message anywhere; `finish` writes the digest of the whole message and nothing behind it. -/
theorem finish_spec (s : SHA256) (calls : List (Bytes × Fin (2 ^ 32))) (resblock : Bytes) :
    octetsAt ((calls.foldl (fun s c => s.processBytes c.1 c.2) s.init).finish resblock) 32 =
      Sha256.digest K initState (calls.flatMap fun c => octetsAt c.1 c.2) ∧
    ∀ k, 32 ≤ k → (calls.foldl (fun s c => s.processBytes c.1 c.2) s.init).finish resblock k = resblock k := by
  have hreads : ∀ (calls : List (Bytes × Fin (2 ^ 32))) (s : SHA256) (m : List UInt8), Reads s m →
      Reads (calls.foldl (fun s c => s.processBytes c.1 c.2) s) (m ++ calls.flatMap fun c => octetsAt c.1 c.2) := by
    intro calls
    induction calls with
    | nil =>
        intro s m h
        rw [List.flatMap_nil, List.append_nil]
        exact h
    | cons c calls ih =>
        intro s m h
        rw [List.foldl_cons, List.flatMap_cons, ← List.append_assoc]
        exact ih _ _ (h.processBytes c.1 c.2.isLt)
  have hall := hreads calls s.init [] (reads_init s)
  rw [List.nil_append] at hall
  obtain ⟨hdigest, hbehind⟩ := read_apply (calls.foldl (fun s c => s.processBytes c.1 c.2) s.init).conclude resblock
  refine ⟨?_, hbehind⟩
  unfold SHA256.finish Sha256.digest
  rw [hdigest, hall.conclude]

end SHA256

end DvmHost

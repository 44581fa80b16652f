import DvmHost.Common.Dmr.Lc.ShortLC
import Mathlib.Data.List.GetD

/-!
# `Common.Dmr.Lc.Correctness.ShortLcRows` — what the rows of a short link control survive

The line bit of bit `a` of the array is `linePos a`. Encoding makes three Hamming words over a row of parities
(`row_matrix`, `matrix_parity`), and one error in each word is corrected (`corrected_of_noisy`). A row that no single
error explains is kept as it is, and only the columns are asked afterwards: whether what is accepted has three words of
the code is a matter of the received rows (`rows_sound_iff`).
-/

namespace DvmHost

namespace Dmr.ShortLC

open Lib Lib.Blocks

/-! ## Words of the row code -/

/-- A word of the (17,12,3) code. -/
def InCode (w : Bits) : Prop := ParityCode.syndrome w 12 Hamming.checks17123 = 0

instance (w : Bits) : Decidable (InCode w) := inferInstanceAs (Decidable (_ = _))

/-- The word `c` with at most one error. -/
def OneOff (w c : Bits) : Prop := ∃ p < 17, ∀ i, i ≠ p → w i = c i

/-- At most one error away from the code. -/
def Near (w : Bits) : Prop := ∃ c, InCode c ∧ OneOff w c

/-- The word at most one error away, or the row itself where there is none. -/
def Repaired (w c : Bits) : Prop := InCode c ∧ OneOff w c ∨ ¬ Near w ∧ c = w

/-- What `decode17123` leaves. -/
def repair (w : Bits) : Bits := (Hamming.decode17123 w).2

theorem repair_eq (w : Bits) : repair w = (ParityCode.decode 12 Hamming.checks17123 Hamming.table17123 w).2 := by
  unfold repair Hamming.decode17123
  split
  · next h => rw [ParityCode.decode_codeword Hamming.corrects17123 h]
  · rfl

theorem oneOff_repair (w : Bits) : OneOff w (repair w) := by
  have hentries : ∀ e ∈ Hamming.table17123, e.2 < 17 := by decide
  obtain ⟨p, hp, h⟩ := ParityCode.decode_of_ne hentries (by decide) w
  refine ⟨p, hp, fun i hi => ?_⟩
  rw [repair_eq, h i hi]

theorem repair_near {w c : Bits} (hc : InCode c) (h : OneOff w c) : repair w = c := by
  obtain ⟨p, hp, h⟩ := h
  rw [repair_eq]
  exact ParityCode.decode_near Hamming.corrects17123 hc hp h

/-- **A row is repaired if and only if one error explains it.** -/
theorem inCode_repair_iff (w : Bits) : InCode (repair w) ↔ Near w := by
  constructor
  · intro h
    exact ⟨repair w, h, oneOff_repair w⟩
  · rintro ⟨c, hc, h⟩
    rw [repair_near hc h]
    exact hc

theorem repair_of_not_near {w : Bits} (h : ¬ Near w) : repair w = w := by
  rw [repair_eq]
  unfold ParityCode.decode
  cases hlook : Hamming.table17123.lookup (ParityCode.syndrome w 12 Hamming.checks17123) with
  | none => rfl
  | some p =>
      -- the table would have made a word of the code
      have hcode : InCode (ParityCode.flip w p) := ParityCode.syndrome_flip (by decide) hlook
      have hp : p < 17 := by
        obtain ⟨l₁, l₂, hsplit, -⟩ := List.lookup_eq_some_iff.mp hlook
        have hall : ∀ e ∈ Hamming.table17123, e.2 < 17 := by decide
        exact hall (_, p) (hsplit ▸ List.mem_append_right l₁ List.mem_cons_self)
      exact absurd ⟨_, hcode, p, hp, fun i hi => (if_neg hi).symm⟩ h

theorem repaired_iff {w c : Bits} : Repaired w c ↔ c = repair w := by
  constructor
  · rintro (⟨hc, h⟩ | ⟨hfar, rfl⟩)
    · exact (repair_near hc h).symm
    · exact (repair_of_not_near hfar).symm
  · intro h
    by_cases hnear : Near w
    · obtain ⟨c', hc', h'⟩ := hnear
      rw [h, repair_near hc' h']
      exact .inl ⟨hc', h'⟩
    · exact .inr ⟨hnear, h.trans (repair_of_not_near hnear)⟩

/-! ## The bits on the line -/

/-- The line bit of bit `a` of the array. -/
def linePos (a : Nat) : Nat := if a = 67 then 67 else interleaveSequence a

/-- The array as it is received. -/
def received (inp : Bytes) : Bits := decodeDeInterleave (decodeExtractBinary inp)

/-- The array as it is encoded. -/
def matrix (value : Bytes) : Bits := encodeErrorCheck (encodeExtractData value)

theorem interleaveSequence_lt (a : Nat) : interleaveSequence a < 67 := Nat.mod_lt _ (by decide)

theorem interleaveSequence_inj {a b : Nat} (ha : a < 67) (hb : b < 67)
    (h : interleaveSequence a = interleaveSequence b) : a = b := by
  unfold interleaveSequence at h
  omega

theorem linePos_lt (a : Nat) : linePos a < 68 := by
  have h := interleaveSequence_lt a
  unfold linePos
  split <;> omega

theorem received_apply (inp : Bytes) {a : Nat} (ha : a < 68) : received inp a = readBit inp (linePos a) := by
  have hraw : ∀ k < 68, decodeExtractBinary inp k = readBit inp k := by
    intro k hk
    unfold decodeExtractBinary
    rw [unpackBytes_apply, if_pos (by omega), readBit_eq, Nat.sub_zero, Nat.zero_add]
  unfold received decodeDeInterleave linePos
  split
  · exact hraw 67 (by decide)
  · have hscatter : scatter (List.range 67) id (fun a => decodeExtractBinary inp (interleaveSequence a))
        (fun _ => false) (id a) = decodeExtractBinary inp (interleaveSequence a) :=
      scatter_range (by omega) fun _ _ h => h
    exact hscatter.trans (hraw _ (Nat.lt_succ_of_lt (interleaveSequence_lt a)))

theorem readBit_encode (value out : Bytes) {a : Nat} (ha : a < 68) :
    readBit (encode value out) (linePos a) = matrix value a := by
  have hline := linePos_lt a
  show readBit (packBytes (encodeInterleave (matrix value)) 0 out 0 9) (linePos a) = _
  have hpos : 0 + 8 * (linePos a / 8 - 0) + linePos a % 8 = linePos a := by omega
  rw [readBit_eq, packBytes_apply, if_pos (by omega), bitOf_bitsToByteBE _ _ (Nat.mod_lt _ (by decide)), hpos]
  unfold encodeInterleave linePos
  by_cases h67 : a = 67
  · rw [if_pos h67, if_pos rfl, h67]
  · have hlt := interleaveSequence_lt a
    rw [if_neg h67, if_neg (by omega)]
    exact scatter_range (by omega) fun b hb h => interleaveSequence_inj hb (by omega) h

/-! ## The rows -/

/-- Row `r` of an array. -/
def row (d : Bits) (r : Nat) : Bits := gather false 17 (rowPos r) d

theorem rows_disjoint : Disjoint 17 rowPos (List.range 3) := by
  intro r _ r' _ i hi i' hi' h
  unfold rowPos at h
  omega

theorem exists_rowPos {a : Nat} (ha : a < 51) : ∃ r < 3, ∃ i < 17, a = rowPos r i := by
  refine ⟨a / 17, by omega, a % 17, Nat.mod_lt _ (by decide), ?_⟩
  unfold rowPos
  omega

theorem dataPositions_spec : ∀ b < 36, ∃ r < 3, ∃ i < 12, dataPositions.getD b 0 = rowPos r i := by decide

theorem dataPositions_inj {a b : Nat} (ha : a < 36) (hb : b < 36)
    (h : dataPositions.getD a 0 = dataPositions.getD b 0) : a = b := by
  have hnd : dataPositions.Nodup := by decide
  have hlen : dataPositions.length = 36 := by decide
  rw [← hlen] at ha hb
  rw [List.getD_eq_getElem _ _ ha, List.getD_eq_getElem _ _ hb] at h
  exact (hnd.getElem_inj_iff).mp h

/-- The array with its rows repaired. -/
def corrected (inp : Bytes) : Bits := (decodeErrorCheck (received inp)).2

theorem row_corrected (inp : Bytes) {r : Nat} (hr : r < 3) : row (corrected inp) r = repair (row (received inp) r) := by
  -- the rows are padded with zeros, and these are kept
  have hpad : ∀ (g : Bits) (a : Nat), 17 ≤ a → g a = false → (Hamming.decode17123 g).2 a = false := by
    intro g a ha hg
    obtain ⟨p, hp, h⟩ := oneOff_repair g
    rw [← hg]
    exact (h a (by omega)).symm
  exact gather_foldl_onBlock List.nodup_range rows_disjoint hpad (List.mem_range.mpr hr)

theorem corrected_above (inp : Bytes) (c : Nat) : corrected inp (c + 51) = received inp (c + 51) := by
  refine foldl_onBlock_of_not_mem fun r hr i hi => ?_
  have hlt := List.mem_range.mp hr
  unfold rowPos
  omega

/-- The array before the parities. -/
def encodedRows (value : Bytes) : Bits :=
  (List.range 3).foldl (fun d r => onBlock false 17 (rowPos r) Hamming.encode17123 d) (encodeExtractData value)

theorem matrix_of_lt (value : Bytes) {k : Nat} (hk : k < 51) : matrix value k = encodedRows value k := by
  refine scatter_of_not_mem fun c _ => ?_
  omega

theorem row_matrix (value : Bytes) {r : Nat} (hr : r < 3) :
    row (matrix value) r = Hamming.encode17123 (row (encodeExtractData value) r) := by
  have hpad : ∀ (g : Bits) (a : Nat), 17 ≤ a → g a = false → Hamming.encode17123 g a = false := by
    intro g a ha hg
    rw [← hg]
    exact ParityCode.encode_above ha
  have hrow : row (matrix value) r = row (encodedRows value) r := by
    apply gather_congr
    intro i hi
    apply matrix_of_lt
    unfold rowPos
    omega
  rw [hrow]
  exact gather_foldl_onBlock List.nodup_range rows_disjoint hpad (List.mem_range.mpr hr)

theorem inCode_matrix (value : Bytes) {r : Nat} (hr : r < 3) : InCode (row (matrix value) r) := by
  rw [row_matrix value hr]
  exact ParityCode.syndrome_encode (by decide) _

/-- The last row has the parities. -/
theorem matrix_parity (value : Bytes) {c : Nat} (hc : c < 17) :
    (matrix value c ^^ matrix value (c + 17) ^^ matrix value (c + 34)) = matrix value (c + 51) := by
  have hlast : matrix value (c + 51) =
      (encodedRows value (c + 0) ^^ encodedRows value (c + 17) ^^ encodedRows value (c + 34)) :=
    @scatter_range _ 17 (fun c => c + 51)
      (fun c => encodedRows value (c + 0) ^^ encodedRows value (c + 17) ^^ encodedRows value (c + 34)) _ c hc
      fun _ _ h => Nat.add_right_cancel h
  rw [matrix_of_lt value (by omega), matrix_of_lt value (by omega), matrix_of_lt value (by omega), hlast]
  rfl

/-- The payload stands in the rows. -/
theorem matrix_data (value : Bytes) {b : Nat} (hb : b < 36) :
    matrix value (dataPositions.getD b 0) = readBit value (4 + b) := by
  obtain ⟨r, hr, i, hi, he⟩ := dataPositions_spec b hb
  have hcell : row (matrix value) r i = encodeExtractData value (rowPos r i) := by
    rw [row_matrix value hr]
    unfold Hamming.encode17123
    rw [ParityCode.encode_data hi]
    exact gather_of_lt (by omega)
  have hbits : unpackBytes value 0 (fun _ => false) 0 5 (4 + b) = readBit value (4 + b) := by
    rw [unpackBytes_apply, if_pos (by omega), readBit_eq, Nat.sub_zero, Nat.zero_add]
  rw [he, ← hbits]
  refine (gather_of_lt (show i < 17 by omega)).symm.trans (hcell.trans ?_)
  rw [← he]
  exact scatter_range hb fun a ha h => dataPositions_inj ha hb h

/-! ## Decoding -/

/-- What is received has at most one error in each row of what was sent, and none in the parities. -/
structure Noisy (sent inp : Bytes) : Prop where
  rows : ∀ r < 3, ∃ p, ∀ i < 17, i ≠ p → readBit inp (linePos (rowPos r i)) = readBit sent (linePos (rowPos r i))
  parities : ∀ c < 17, readBit inp (linePos (c + 51)) = readBit sent (linePos (c + 51))

/-- The columns of an array sum to its last row. -/
def ColumnsOk (d : Bits) : Prop := ∀ c < 17, (d c ^^ d (c + 17) ^^ d (c + 34)) = d (c + 51)

theorem decode_eq (inp out : Bytes) : decode inp out =
    if !(decodeErrorCheck (received inp)).1 then (false, out) else (true, decodeExtractData (corrected inp) out) := rfl

theorem decode_true_iff (inp out : Bytes) : (decode inp out).1 = true ↔ ColumnsOk (corrected inp) := by
  have hchecked : (decode inp out).1 = (decodeErrorCheck (received inp)).1 := by
    rw [decode_eq]
    cases (decodeErrorCheck (received inp)).1 <;> rfl
  have hall : (decodeErrorCheck (received inp)).1 = (List.range 17).all fun c =>
      (corrected inp (c + 0) ^^ corrected inp (c + 17) ^^ corrected inp (c + 34)) == corrected inp (c + 51) := by
    simp only [corrected, decodeErrorCheck]
  rw [hchecked, hall, List.all_eq_true]
  constructor
  · intro h c hc
    exact eq_of_beq (h c (List.mem_range.mpr hc))
  · intro h c hc
    exact beq_iff_eq.mpr (h c (List.mem_range.mp hc))

theorem decode_of_true {inp out : Bytes} (h : (decode inp out).1 = true) {i : Nat} (hi : i < 40) :
    readBit (decode inp out).2 i = (decide (4 ≤ i) && corrected inp (dataPositions.getD (i - 4) 0)) := by
  have hout : (decode inp out).2 = decodeExtractData (corrected inp) out := by
    rw [decode_eq] at h ⊢
    cases hok : (decodeErrorCheck (received inp)).1 with
    | false =>
        rw [hok] at h
        exact absurd h Bool.false_ne_true
    | true => rfl
  have hpos : 0 + 8 * (i / 8 - 0) + i % 8 = i := by omega
  rw [hout, readBit_eq]
  unfold decodeExtractData
  rw [packBytes_apply, if_pos (by omega), bitOf_bitsToByteBE _ _ (Nat.mod_lt _ (by decide)), hpos]
  by_cases h4 : 4 ≤ i
  · have hcell : scatter (List.range 36) (fun a => 4 + a) (fun a => corrected inp (dataPositions.getD a 0))
        (fun _ => false) (4 + (i - 4)) = corrected inp (dataPositions.getD (i - 4) 0) :=
      @scatter_range _ 36 (fun a => 4 + a) _ _ (i - 4) (by omega) fun _ _ h => Nat.add_left_cancel h
    rw [decide_eq_true h4, Bool.true_and, ← hcell, Nat.add_sub_cancel' h4]
  · rw [decide_eq_false h4, Bool.false_and]
    refine scatter_of_not_mem fun a _ => ?_
    omega

/-- **One error in each row is corrected.** -/
theorem corrected_of_noisy {value sent inp : Bytes} (h : Noisy (encode value sent) inp) {a : Nat} (ha : a < 68) :
    corrected inp a = matrix value a := by
  by_cases hlow : a < 51
  · obtain ⟨r, hr, i, hi, rfl⟩ := exists_rowPos hlow
    obtain ⟨p, hp⟩ := h.rows r hr
    have hnear : OneOff (row (received inp) r) (row (matrix value) r) := by
      have hcells : ∀ j, j ≠ p → row (received inp) r j = row (matrix value) r j := by
        intro j hj
        by_cases hlt : j < 17
        · have hpos : rowPos r j < 68 := by
            unfold rowPos
            omega
          unfold row
          rw [gather_of_lt hlt, gather_of_lt hlt, received_apply inp hpos, hp j hlt hj, readBit_encode value sent hpos]
        · unfold row
          rw [gather_of_ge (Nat.not_lt.mp hlt), gather_of_ge (Nat.not_lt.mp hlt)]
      by_cases hlt : p < 17
      · exact ⟨p, hlt, hcells⟩
      · refine ⟨0, by decide, fun j _ => ?_⟩
        by_cases hj : j = p
        · unfold row
          rw [hj, gather_of_ge (Nat.not_lt.mp hlt), gather_of_ge (Nat.not_lt.mp hlt)]
        · exact hcells j hj
    have hrow : row (corrected inp) r = row (matrix value) r := by
      rw [row_corrected inp hr, repair_near (inCode_matrix value hr) hnear]
    exact (gather_of_lt hi).symm.trans ((congrFun hrow i).trans (gather_of_lt hi))
  · obtain ⟨c, rfl⟩ : ∃ c, a = c + 51 := ⟨a - 51, by omega⟩
    rw [corrected_above, received_apply inp ha, h.parities c (by omega), readBit_encode value sent ha]

/-- **Round trip**, through a line with at most one error in each row. -/
theorem decode_noisy {value sent inp : Bytes} (h : Noisy (encode value sent) inp) (out : Bytes) :
    (decode inp out).1 = true ∧ ∀ i < 40, readBit (decode inp out).2 i = (decide (4 ≤ i) && readBit value i) := by
  have htrue : (decode inp out).1 = true := by
    rw [decode_true_iff]
    intro c hc
    rw [corrected_of_noisy h (by omega), corrected_of_noisy h (by omega), corrected_of_noisy h (by omega),
      corrected_of_noisy h (by omega)]
    exact matrix_parity value hc
  refine ⟨htrue, fun i hi => ?_⟩
  rw [decode_of_true htrue hi]
  by_cases h4 : 4 ≤ i
  · have hdata : ∀ b < 36, dataPositions.getD b 0 < 68 := by decide
    rw [corrected_of_noisy h (hdata _ (by omega)), matrix_data value (by omega), Nat.add_sub_cancel' h4]
  · rw [decide_eq_false h4, Bool.false_and, Bool.false_and]

/-- The rows, each repaired where one error explains it, and the columns are then in order. -/
def Accepted (d : Bits) : Prop := ∃ w : Nat → Bits, (∀ r < 3, Repaired (row d r) (w r)) ∧
  ∀ c < 17, (w 0 c ^^ w 1 c ^^ w 2 c) = d (c + 51)

theorem columnsOk_corrected_iff (inp : Bytes) : ColumnsOk (corrected inp) ↔ Accepted (received inp) := by
  have hcell : ∀ r < 3, ∀ c < 17, corrected inp (rowPos r c) = repair (row (received inp) r) c := by
    intro r hr c hc
    rw [← row_corrected inp hr]
    exact (gather_of_lt hc).symm
  have hcolumn : ∀ c < 17, (corrected inp c ^^ corrected inp (c + 17) ^^ corrected inp (c + 34)) =
      (repair (row (received inp) 0) c ^^ repair (row (received inp) 1) c ^^ repair (row (received inp) 2) c) := by
    intro c hc
    have h0 : c = rowPos 0 c := by
      unfold rowPos
      omega
    have h1 : c + 17 = rowPos 1 c := Nat.add_comm c 17
    have h2 : c + 34 = rowPos 2 c := Nat.add_comm c 34
    rw [h1, h2, hcell 1 (by decide) c hc, hcell 2 (by decide) c hc, ← hcell 0 (by decide) c hc, ← h0]
  constructor
  · intro h
    refine ⟨fun r => repair (row (received inp) r), fun r _ => repaired_iff.mpr rfl, fun c hc => ?_⟩
    rw [← corrected_above, ← h c hc, hcolumn c hc]
  · rintro ⟨w, hw, hsum⟩ c hc
    rw [hcolumn c hc, corrected_above, ← hsum c hc, repaired_iff.mp (hw 0 (by decide)),
      repaired_iff.mp (hw 1 (by decide)), repaired_iff.mp (hw 2 (by decide))]

/-- **Short link control.** What was sent comes back through one error in each row. That what is accepted has three
    words of the code is so if and only if one error explains each of the received rows, or the columns are not in
    order after those that one error explains are corrected. -/
theorem rows_sound_iff (inp out : Bytes) :
    ((∀ value sent, Noisy (encode value sent) inp →
        (decode inp out).1 = true ∧ ∀ i < 40, readBit (decode inp out).2 i = (decide (4 ≤ i) && readBit value i)) ∧
      ((decode inp out).1 = true → (∀ r < 3, InCode (row (corrected inp) r)) ∧ ColumnsOk (corrected inp))) ↔
    ((∀ r < 3, Near (row (received inp) r)) ∨ ¬ Accepted (received inp)) := by
  have hrows : (∀ r < 3, InCode (row (corrected inp) r)) ↔ ∀ r < 3, Near (row (received inp) r) := by
    constructor
    · intro h r hr
      rw [← inCode_repair_iff, ← row_corrected inp hr]
      exact h r hr
    · intro h r hr
      rw [row_corrected inp hr, inCode_repair_iff]
      exact h r hr
  rw [hrows, decode_true_iff, columnsOk_corrected_iff]
  constructor
  · rintro ⟨-, hsound⟩
    by_cases haccepted : Accepted (received inp)
    · exact .inl (hsound haccepted).1
    · exact .inr haccepted
  · intro h
    refine ⟨fun value sent hnoisy => ?_, fun haccepted => ?_⟩
    · rw [← columnsOk_corrected_iff, ← decode_true_iff inp out]
      exact decode_noisy hnoisy out
    · rcases h with hnear | hnot
      · exact ⟨hnear, haccepted⟩
      · exact absurd haccepted hnot

/-- Two errors in the first row and the same two in the parities. -/
theorem accepted_outside_code :
    (decode (setByte (fun _ => 0x00) 6 0x99) fun _ => 0x00).1 = true ∧
      ¬ InCode (row (corrected (setByte (fun _ => 0x00) 6 0x99)) 0) := by
  decide +kernel

end Dmr.ShortLC

end DvmHost

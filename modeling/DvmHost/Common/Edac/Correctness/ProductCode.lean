import Mathlib.Data.List.GetD
import Mathlib.Data.List.Perm.Subperm
import DvmHost.Common.Edac.BPTC19696

/-!
# `Common.Edac.Correctness.ProductCode` — BPTC (196,96) corrects three errors

Among three errors only one column can hold two or more. The column pass repairs every other column, so
whatever it does to that one (a double error may become a triple), each row is left with at most one error,
and the row pass clears the nine rows that hold the payload. What remains lies in the check rows of the one
column; a further column pass may throw it back into a payload row, and the row pass then removes it again.
So after the first turn every turn ends with the payload rows clean (`decodePass_rows`), and five turns or
fewer make no difference.
-/

namespace DvmHost

namespace BPTC19696

open Lib Lib.Blocks

/-! ## The coded matrix -/

theorem rows_disjoint : Disjoint 15 rowPos (List.range 9) := by
  intro r _ r' _ i hi i' hi' h
  unfold rowPos at h
  omega

theorem columns_disjoint : Disjoint 13 columnPos (List.range 15) := by
  intro c hc c' hc' a _ a' _ h
  rw [List.mem_range] at hc hc'
  unfold columnPos at h
  omega

/-- A row meets a column in one cell. -/
theorem rowPos_eq_columnPos (r c : Nat) : rowPos r c = columnPos c r := by
  unfold rowPos columnPos
  omega

theorem encode15113_pad (g : Bits) (a : Nat) (ha : 15 ≤ a) (hg : g a = false) :
    Hamming.encode15113_2 g a = false := by
  unfold Hamming.encode15113_2
  rw [ParityCode.encode_above (by exact ha), hg]

theorem encode1393_pad (g : Bits) (a : Nat) (ha : 13 ≤ a) (hg : g a = false) :
    Hamming.encode1393 g a = false := by
  unfold Hamming.encode1393
  rw [ParityCode.encode_above (by exact ha), hg]

/-- The matrix after the rows of `encodeErrorCheck`. -/
def encodedRows (deInterData : Bits) : Bits :=
  (List.range 9).foldl (fun d r => onBlock false 15 (rowPos r) Hamming.encode15113_2 d) deInterData

theorem encodeErrorCheck_column (d : Bits) {c : Nat} (hc : c < 15) :
    gather false 13 (columnPos c) (encodeErrorCheck d) =
      Hamming.encode1393 (gather false 13 (columnPos c) (encodedRows d)) :=
  gather_foldl_onBlock List.nodup_range columns_disjoint encode1393_pad (List.mem_range.mpr hc)

/-- The columns write the check rows only. -/
theorem encodeErrorCheck_payloadRow (d : Bits) {r c : Nat} (hr : r < 9) (hc : c < 15) :
    encodeErrorCheck d (rowPos r c) = encodedRows d (rowPos r c) := by
  have hcol := congrFun (encodeErrorCheck_column d hc) r
  unfold Hamming.encode1393 at hcol
  rwa [ParityCode.encode_data hr, gather_of_lt (by omega), gather_of_lt (by omega),
    ← rowPos_eq_columnPos] at hcol

/-- **Every column of the coded matrix is a Hamming word.** -/
theorem column_codeword (d : Bits) {c : Nat} (hc : c < 15) :
    ParityCode.syndrome (gather false 13 (columnPos c) (encodeErrorCheck d)) 9 Hamming.checks1393 = 0 := by
  rw [encodeErrorCheck_column d hc]
  exact ParityCode.syndrome_encode (by decide) _

/-- **Every payload row of the coded matrix is a Hamming word.** -/
theorem row_codeword (d : Bits) {r : Nat} (hr : r < 9) :
    ParityCode.syndrome (gather false 15 (rowPos r) (encodeErrorCheck d)) 11 Hamming.checks15113_2 = 0 := by
  have hrow : gather false 15 (rowPos r) (encodeErrorCheck d) =
      Hamming.encode15113_2 (gather false 15 (rowPos r) d) := by
    rw [← gather_foldl_onBlock List.nodup_range rows_disjoint encode15113_pad (List.mem_range.mpr hr)]
    exact gather_congr fun c hc => encodeErrorCheck_payloadRow d hr hc
  rw [hrow]
  exact ParityCode.syndrome_encode (by decide) _

theorem length_dataPositions : dataPositions.length = 96 := by decide

/-- The payload positions are distinct and are data bits of the payload rows. -/
theorem dataPositions_spec : ∀ pos < 96, ∃ r < 9, ∃ i < 11, dataPositions.getD pos 0 = rowPos r i := by decide

theorem dataPositions_inj {a b : Nat} (ha : a < 96) (hb : b < 96)
    (h : dataPositions.getD a 0 = dataPositions.getD b 0) : a = b := by
  have hnd : dataPositions.Nodup := by decide
  have hla : a < dataPositions.length := by rw [length_dataPositions]; exact ha
  have hlb : b < dataPositions.length := by rw [length_dataPositions]; exact hb
  rw [List.getD_eq_getElem _ _ hla, List.getD_eq_getElem _ _ hlb] at h
  exact (hnd.getElem_inj_iff).mp h

/-- The coded matrix holds the payload. -/
theorem encodeErrorCheck_data (p : Bytes) {pos : Nat} (hpos : pos < 96) :
    encodeErrorCheck (encodeExtractData p) (dataPositions.getD pos 0) = bitOf (p (pos / 8)) (pos % 8) := by
  obtain ⟨r, hr, i, hi, he⟩ := dataPositions_spec pos hpos
  have hrow : encodedRows (encodeExtractData p) (rowPos r i) = encodeExtractData p (rowPos r i) := by
    have h := foldl_onBlock (z := false) (f := Hamming.encode15113_2) List.nodup_range rows_disjoint
      (m := encodeExtractData p) (List.mem_range.mpr hr) (a := i) (by omega)
    unfold Hamming.encode15113_2 at h
    rwa [ParityCode.encode_data hi, gather_of_lt (by omega)] at h
  rw [he, encodeErrorCheck_payloadRow _ hr (by omega), hrow, ← he]
  have hscatter : encodeExtractData p (dataPositions.getD pos 0) =
      unpackBytes p 0 (fun _ => false) 0 12 pos :=
    scatter_range hpos (fun b hb h => dataPositions_inj hb hpos h)
  rw [hscatter]
  rw [unpackBytes_apply, if_pos (by omega), Nat.zero_add, Nat.sub_zero]

/-! ## The decoding passes -/

/-- A column is the decoder's output whether or not it was reported. -/
theorem columnStep_fst (s : Bits × Bool) (c : Nat) :
    (columnStep s c).1 = onBlock false 13 (columnPos c) (fun col => (Hamming.decode1393 col).2) s.1 := by
  unfold columnStep onBlock
  dsimp only
  split
  · rfl
  · next hclean =>
      have hsame : (Hamming.decode1393 (gather false 13 (columnPos c) s.1)).2 =
          gather false 13 (columnPos c) s.1 :=
        ParityCode.decode_of_clean (Bool.not_eq_true _ ▸ hclean)
      rw [hsame, scatter_gather]

theorem rowStep_fst (s : Bits × Bool) (r : Nat) :
    (rowStep s r).1 = onBlock false 15 (rowPos r) (fun row => (Hamming.decode15113_2 row).2) s.1 := by
  unfold rowStep onBlock
  rfl

/-- The data of a loop that also carries a flag. -/
theorem foldl_fst {ι : Type} {step : Bits × Bool → ι → Bits × Bool} {f : Bits → ι → Bits}
    (h : ∀ s i, (step s i).1 = f s.1 i) (l : List ι) : ∀ s, (l.foldl step s).1 = l.foldl f s.1 := by
  induction l with
  | nil => intro s; rfl
  | cons i is ih => intro s; rw [List.foldl_cons, List.foldl_cons, ih, h]

/-- The columns of one turn. -/
def columnPass (d : Bits) : Bits :=
  (List.range 15).foldl
    (fun d c => onBlock false 13 (columnPos c) (fun col => (Hamming.decode1393 col).2) d) d

theorem decodePass_fst (d : Bits) : (decodePass d).1 =
    (List.range 9).foldl
      (fun d r => onBlock false 15 (rowPos r) (fun row => (Hamming.decode15113_2 row).2) d) (columnPass d) := by
  unfold decodePass columnPass
  rw [foldl_fst (f := fun d r => onBlock false 15 (rowPos r) (fun row => (Hamming.decode15113_2 row).2) d)
      rowStep_fst,
    foldl_fst (f := fun d c => onBlock false 13 (columnPos c) (fun col => (Hamming.decode1393 col).2) d)
      columnStep_fst]

/-- Apart from column `c₀`, every column differs from that of `m` in at most one cell. -/
def NearOff (m d : Bits) (c₀ : Nat) : Prop :=
  ∀ c < 15, c ≠ c₀ → ∃ p < 13, ∀ a < 13, a ≠ p → d (columnPos c a) = m (columnPos c a)

/-- The column pass repairs the columns with at most one error. -/
theorem columnPass_off {x d : Bits} {c₀ : Nat} (h : NearOff (encodeErrorCheck x) d c₀) {c a : Nat}
    (hc : c < 15) (hne : c ≠ c₀) (ha : a < 13) :
    columnPass d (columnPos c a) = encodeErrorCheck x (columnPos c a) := by
  obtain ⟨p, hp, hnear⟩ := h c hc hne
  have hcol := foldl_onBlock (z := false) (f := fun col => (Hamming.decode1393 col).2) List.nodup_range
    columns_disjoint (m := d) (List.mem_range.mpr hc) ha
  refine hcol.trans ?_
  have hdec : (Hamming.decode1393 (gather false 13 (columnPos c) d)).2 =
      gather false 13 (columnPos c) (encodeErrorCheck x) := by
    refine ParityCode.decode_near Hamming.corrects1393 (column_codeword x hc) hp fun a' ha' => ?_
    rcases Nat.lt_or_ge a' 13 with hlt | hge
    · rw [gather_of_lt hlt, gather_of_lt hlt]
      exact hnear a' hlt ha'
    · rw [gather_of_ge hge, gather_of_ge hge]
  rw [hdec, gather_of_lt ha]

/-- **One turn.** With all but one column within one error of the coded matrix, a turn makes those columns
    and all payload rows equal to it. -/
theorem decodePass_spec {x d : Bits} {c₀ : Nat} (hc₀ : c₀ < 15) (h : NearOff (encodeErrorCheck x) d c₀) :
    (∀ r < 9, ∀ i < 15, (decodePass d).1 (rowPos r i) = encodeErrorCheck x (rowPos r i)) ∧
      NearOff (encodeErrorCheck x) (decodePass d).1 c₀ := by
  have hrows : ∀ r < 9, ∀ i < 15, (decodePass d).1 (rowPos r i) = encodeErrorCheck x (rowPos r i) := by
    intro r hr i hi
    rw [decodePass_fst]
    have hrow := foldl_onBlock (z := false) (f := fun row => (Hamming.decode15113_2 row).2) List.nodup_range
      rows_disjoint (m := columnPass d) (List.mem_range.mpr hr) hi
    refine hrow.trans ?_
    have hdec : (Hamming.decode15113_2 (gather false 15 (rowPos r) (columnPass d))).2 =
        gather false 15 (rowPos r) (encodeErrorCheck x) := by
      refine ParityCode.decode_near Hamming.corrects15113_2 (row_codeword x hr) hc₀ fun i' hi' => ?_
      rcases Nat.lt_or_ge i' 15 with hlt | hge
      · rw [gather_of_lt hlt, gather_of_lt hlt, rowPos_eq_columnPos]
        exact columnPass_off h hlt hi' (by omega)
      · rw [gather_of_ge hge, gather_of_ge hge]
    rw [hdec, gather_of_lt hi]
  refine ⟨hrows, fun c hc hne => ⟨0, by decide, fun a ha _ => ?_⟩⟩
  rcases Nat.lt_or_ge a 9 with ha9 | ha9
  · rw [← rowPos_eq_columnPos]
    exact hrows a ha9 c hc
  · rw [decodePass_fst, foldl_onBlock_of_not_mem]
    · exact columnPass_off h hc hne ha
    · intro r hr i hi he
      rw [List.mem_range] at hr
      unfold columnPos rowPos at he
      omega

theorem errorCheckLoop_succ (n : Nat) (d : Bits) :
    errorCheckLoop (n + 1) d =
      if (decodePass d).2 then errorCheckLoop n (decodePass d).1 else (decodePass d).1 := by
  rw [errorCheckLoop]

/-- **The loop.** However many turns it takes, the payload rows end up those of the coded matrix. -/
theorem errorCheckLoop_rows {x : Bits} {c₀ : Nat} (hc₀ : c₀ < 15) (n : Nat) :
    ∀ {d : Bits}, NearOff (encodeErrorCheck x) d c₀ →
      ∀ r < 9, ∀ i < 15, errorCheckLoop (n + 1) d (rowPos r i) = encodeErrorCheck x (rowPos r i) := by
  induction n with
  | zero =>
      intro d h r hr i hi
      have hpass := (decodePass_spec hc₀ h).1 r hr i hi
      rw [errorCheckLoop_succ]
      split
      · exact hpass
      · exact hpass
  | succ n ih =>
      intro d h r hr i hi
      obtain ⟨hpass, hnear⟩ := decodePass_spec hc₀ h
      rw [errorCheckLoop_succ]
      split
      · exact ih hnear r hr i hi
      · exact hpass r hr i hi

/-! ## Three errors -/

/-- The burst bit of matrix position `k`. -/
def burstPos (k : Nat) : Nat := framePos (interleaveSequence k)

theorem burstPos_inj {j k : Nat} (hj : j < 196) (hk : k < 196) (h : burstPos j = burstPos k) : j = k :=
  interleaveSequence_inj hj hk (framePos_inj h)

/-- Fewer than four errors leave two or more of them in one column at most. -/
theorem exists_nearOff {m d : Bits} {S : List Nat} (hS : S.length ≤ 3)
    (herr : ∀ k < 196, d k ≠ m k → burstPos k ∈ S) : ∃ c₀ < 15, NearOff m d c₀ := by
  by_contra hcon
  -- a column that is not near has two errors
  have htwo : ∀ c₀ < 15, ∃ c < 15, c ≠ c₀ ∧ ∃ a < 13, ∃ b < 13, a ≠ b ∧
      d (columnPos c a) ≠ m (columnPos c a) ∧ d (columnPos c b) ≠ m (columnPos c b) := by
    intro c₀ hc₀
    by_contra hno
    refine hcon ⟨c₀, hc₀, fun c hc hne => ?_⟩
    by_cases hone : ∃ a < 13, d (columnPos c a) ≠ m (columnPos c a)
    · obtain ⟨a, ha, hda⟩ := hone
      refine ⟨a, ha, fun b hb hba => ?_⟩
      by_contra hdb
      exact hno ⟨c, hc, hne, a, ha, b, hb, hba.symm, hda, hdb⟩
    · refine ⟨0, by decide, fun a ha _ => ?_⟩
      by_contra hda
      exact hone ⟨a, ha, hda⟩
  obtain ⟨c, hc, -, a, ha, b, hb, hab, hda, hdb⟩ := htwo 0 (by decide)
  obtain ⟨c', hc', hcc, a', ha', b', hb', hab', hda', hdb'⟩ := htwo c hc
  have hlt : ∀ {c a : Nat}, c < 15 → a < 13 → columnPos c a < 196 := by
    intro c a hc ha
    unfold columnPos
    omega
  have hinj : ∀ {c a c' a' : Nat}, c < 15 → a < 13 → c' < 15 → a' < 13 → (c ≠ c' ∨ a ≠ a') →
      burstPos (columnPos c a) ≠ burstPos (columnPos c' a') := by
    intro c a c' a' hc ha hc' ha' hne he
    have hpos := burstPos_inj (hlt hc ha) (hlt hc' ha') he
    unfold columnPos at hpos
    omega
  have hnd : [burstPos (columnPos c a), burstPos (columnPos c b), burstPos (columnPos c' a'),
      burstPos (columnPos c' b')].Nodup := by
    simp only [List.nodup_cons, List.mem_cons, List.not_mem_nil, or_false, not_or, not_false_iff,
      List.nodup_nil, and_true]
    exact ⟨⟨hinj hc ha hc hb (Or.inr hab), hinj hc ha hc' ha' (Or.inl hcc.symm),
        hinj hc ha hc' hb' (Or.inl hcc.symm)⟩,
      ⟨hinj hc hb hc' ha' (Or.inl hcc.symm), hinj hc hb hc' hb' (Or.inl hcc.symm)⟩,
      hinj hc' ha' hc' hb' (Or.inr hab')⟩
  have hsub : [burstPos (columnPos c a), burstPos (columnPos c b), burstPos (columnPos c' a'),
      burstPos (columnPos c' b')] ⊆ S := by
    intro k hk
    simp only [List.mem_cons, List.not_mem_nil, or_false] at hk
    rcases hk with rfl | rfl | rfl | rfl
    · exact herr _ (hlt hc ha) hda
    · exact herr _ (hlt hc hb) hdb
    · exact herr _ (hlt hc' ha') hda'
    · exact herr _ (hlt hc' hb') hdb'
  have hlen := (List.subperm_of_subset hnd hsub).length_le
  simp only [List.length_cons, List.length_nil] at hlen
  omega

/-- Three or fewer inverted bits are repaired. -/
theorem decode_repaired (p f out : Bytes) {S : List Nat} (hS : S.length ≤ 3) {j : Nat} (hj : j < 12) :
    decode (flipBits S (encode p f)) out j = p j := by
  have hmatrix : ∀ k < 196, burstPos k ∉ S →
      decodeDeInterleave (decodeExtractBinary (flipBits S (encode p f))) k =
        encodeErrorCheck (encodeExtractData p) k := by
    intro k hk hclean
    have hseq := interleaveSequence_lt k
    have hcoded : readBit (encode p f) (burstPos k) =
        encodeInterleave (encodeErrorCheck (encodeExtractData p)) (interleaveSequence k) := by
      unfold encode burstPos
      rw [readBit_encodeExtractBinary _ _ (by unfold framePos; split <;> omega)]
      unfold framePos
      by_cases h98 : interleaveSequence k < 98
      · rw [if_pos h98, if_pos h98]
      · rw [if_neg h98, if_neg (by omega), if_neg (by omega), Nat.add_sub_cancel]
    rw [encodeInterleave_apply _ hk] at hcoded
    rw [decodeDeInterleave_apply _ hk, decodeExtractBinary_apply _ hseq, ← hcoded]
    exact readBit_flipBits_of_notMem hclean
  obtain ⟨c₀, hc₀, hnear⟩ := exists_nearOff hS fun k hk hne => by
    by_contra hclean
    exact hne (hmatrix k hk hclean)
  have hrows := errorCheckLoop_rows hc₀ 4 hnear
  unfold decode decodeExtractData decodeErrorCheck
  rw [packBytes_apply, if_pos (by omega)]
  refine bitsToByteBE_eq fun b hb => ?_
  have hpos : 0 + 8 * (j - 0) + b < 96 := by omega
  obtain ⟨r, hr, i, hi, he⟩ := dataPositions_spec _ hpos
  have hbyte : (0 + 8 * (j - 0) + b) / 8 = j := by omega
  have hbit : (0 + 8 * (j - 0) + b) % 8 = b := by omega
  have hdata := encodeErrorCheck_data p hpos
  rw [hbyte, hbit] at hdata
  rw [he] at hdata ⊢
  rw [hrows r hr i (by omega)]
  exact hdata

/-- A burst without errors gives the payload. -/
theorem decode_clean (p f out : Bytes) {j : Nat} (hj : j < 12) : decode (encode p f) out j = p j := by
  have hS : ([] : List Nat).length ≤ 3 := Nat.zero_le 3
  exact decode_repaired p f out hS hj

/-- **BPTC (196,96).** For every payload, every burst and every three or fewer inverted bits, decoding the
    coded burst with those errors gives the payload, and coding leaves the slot type and sync bits. -/
theorem decode_encode (p f out : Bytes) (S : List Nat) (hS : S.length ≤ 3) :
    (∀ j < 12, decode (flipBits S (encode p f)) out j = p j) ∧
      ∀ i, 98 ≤ i → i < 166 → readBit (encode p f) i = readBit f i := by
  constructor
  · intro j hj
    exact decode_repaired p f out hS hj
  · intro i hlow hhigh
    unfold encode
    rw [readBit_encodeExtractBinary _ _ (by omega), if_neg (by omega), if_pos hhigh]

/-- Three errors in one burst of a payload of `0x5A` octets. -/
theorem decode_encode_three :
    (∀ j < 12, decode (flipBits [1, 30, 230] (encode (fun _ => 0x5A) (fun _ => 0))) (fun _ => 0) j = 0x5A) ∧
      ∀ i, 98 ≤ i → i < 166 → readBit (encode (fun _ => 0x5A) (fun _ => 0)) i = readBit (fun _ => 0) i :=
  decode_encode (fun _ => 0x5A) (fun _ => 0) (fun _ => 0) [1, 30, 230] (by decide)

end BPTC19696

end DvmHost

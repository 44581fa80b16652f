import Mathlib.Data.List.Perm.Subperm
import DvmHost.Common.Edac.Correctness.GolayRepair
import DvmHost.Common.Edac.Correctness.ReedSolomon
import DvmHost.Common.P25.Lc.LC

/-!
# `Common.P25.Lc.Correctness.FrameCoding` — what is laid into a frame is read back from it

The Hamming words of a logical link data unit and the Golay words of a header data unit, with the status
symbols they are laid between. Every bit of link control has one place in a word and every bit of a word one
place in the frame, so the functions that decode are followed bit by bit back to the buffer that was encoded
(`readBit_decodeLDUParts`, `decodeHDUGolay_near`). The Golay words stand three wrong bits each.
-/

namespace DvmHost

open Lib Lib.Blocks

namespace LC

/-! ## Hamming words -/

theorem readBit_encodeLDUHamming (data raw : Bytes) {k : Nat} (hk : k < 40) :
    readBit (encodeLDUHamming data raw) k =
      Hamming.encode1063 (gather false 6 (fun j => 6 * (k / 10) + j) (readBit raw)) (k % 10) := by
  unfold encodeLDUHamming
  rw [readBit_writeBitRun _ (by decide), if_pos (by omega)]

/-- **Hexbits decode to what was encoded**, from any buffer that holds the forty bits of their words. -/
theorem readBit_decodeLDUHamming {data out raw z : Bytes}
    (h : ∀ k < 40, readBit data k = readBit (encodeLDUHamming z raw) k) (t : Nat) :
    readBit (decodeLDUHamming data out) t = if t < 24 then readBit raw t else readBit out t := by
  unfold decodeLDUHamming
  rw [readBit_writeBitRun _ (by decide)]
  split
  · next ht =>
      generalize hd : gather false 6 (fun j => 6 * (t / 6) + j) (readBit raw) = d
      -- the word that is read is the word that was written
      have hword : gather false 10 (fun j => 10 * (t / 6) + j) (readBit data) = Hamming.encode1063 d := by
        funext j
        rcases Nat.lt_or_ge j 10 with hj | hj
        · have hdiv : (10 * (t / 6) + j) / 10 = t / 6 := by omega
          have hmod : (10 * (t / 6) + j) % 10 = j := by omega
          rw [gather_of_lt hj, h _ (by omega), readBit_encodeLDUHamming _ _ (by omega), hdiv, hmod, hd]
        · have habove : Hamming.encode1063 d j = d j := ParityCode.encode_above hj
          rw [gather_of_ge hj, habove, ← hd, gather_of_ge (by omega)]
      have hclean : ParityCode.syndrome (Hamming.encode1063 d) 6 Hamming.checks1063 = 0 :=
        ParityCode.syndrome_encode (by decide) d
      have hdecode : (Hamming.decode1063 (Hamming.encode1063 d)).2 = Hamming.encode1063 d :=
        congrArg Prod.snd (ParityCode.decode_codeword Hamming.corrects1063 hclean)
      have hdata : Hamming.encode1063 d (t % 6) = d (t % 6) := ParityCode.encode_data (Nat.mod_lt t (by decide))
      have hpos : 6 * (t / 6) + t % 6 = t := Nat.div_add_mod t 6
      rw [hword, hdecode, hdata, ← hd, gather_of_lt (Nat.mod_lt t (by decide)), hpos]
  · rfl

/-! ## Logical link data units -/

/-- What makes a part of a frame hold three octets: it begins outside of a status symbol and carries 40 bits. -/
def PartOk (part : Nat × Nat × Nat) : Prop :=
  part.1 % 72 ≠ 71 ∧ (P25Utils.carried part.1 part.2.1).length = 40

instance (part : Nat × Nat × Nat) : Decidable (PartOk part) := inferInstanceAs (Decidable (_ ∧ _))

theorem lduParts_ok : ∀ part ∈ lduParts, PartOk part := by decide

/-- The parts follow each other in the frame, and their octets in the buffer. -/
theorem lduParts_ordered :
    lduParts.Pairwise fun part part' => part.2.1 ≤ part'.1 ∧ part.2.2 + 3 ≤ part'.2.2 := by decide

/-- One turn of `encodeLDUParts`. -/
def encodePart (rs : Bytes) (s : Bytes × Bytes) (part : Nat × Nat × Nat) : Bytes × Bytes :=
  let raw := encodeLDUHamming s.1 (fromByte part.2.2 rs)
  (raw, (P25Utils.encode raw s.2 part.1 part.2.1).2)

/-- One turn of `decodeLDUParts`. -/
def decodePart (data : Bytes) (s : Bytes × Bytes) (part : Nat × Nat × Nat) : Bytes × Bytes :=
  let raw := (P25Utils.decode data s.1 part.1 part.2.1).2
  (raw, onTail part.2.2 (decodeLDUHamming raw) s.2)

/-- Later parts leave the bits of an earlier one. -/
theorem readBit_foldl_encodePart_of_lt (rs : Bytes) {l : List (Nat × Nat × Nat)} {stop p : Nat} (hp : p < stop)
    (hl : ∀ part ∈ l, PartOk part ∧ stop ≤ part.1) (s : Bytes × Bytes) :
    readBit (l.foldl (encodePart rs) s).2 p = readBit s.2 p := by
  induction l generalizing s with
  | nil => rfl
  | cons part l ih =>
      obtain ⟨hok, hafter⟩ := hl part List.mem_cons_self
      rw [List.foldl_cons, ih fun part' h => hl part' (List.mem_cons_of_mem part h)]
      apply P25Utils.readBit_encode_of_notMem _ _ hok.1
      intro hmem
      have := (P25Utils.mem_carried.mp hmem).1
      omega

/-- The bits of a part are those of its Hamming words. -/
theorem readBit_foldl_encodePart (rs : Bytes) {l : List (Nat × Nat × Nat)} (hok : ∀ part ∈ l, PartOk part)
    (hord : l.Pairwise fun part part' => part.2.1 ≤ part'.1 ∧ part.2.2 + 3 ≤ part'.2.2) (s : Bytes × Bytes)
    {part : Nat × Nat × Nat} (hmem : part ∈ l) :
    ∃ z, ∀ k < 40, readBit (l.foldl (encodePart rs) s).2 ((P25Utils.carried part.1 part.2.1).getD k 0) =
      readBit (encodeLDUHamming z (fromByte part.2.2 rs)) k := by
  induction l generalizing s with
  | nil => exact absurd hmem List.not_mem_nil
  | cons first l ih =>
      obtain ⟨hfirst, hrest⟩ := List.pairwise_cons.mp hord
      have hok' : ∀ part' ∈ l, PartOk part' := fun part' h => hok part' (List.mem_cons_of_mem first h)
      rcases List.mem_cons.mp hmem with rfl | hin
      · refine ⟨s.1, fun k hk => ?_⟩
        obtain ⟨hstart, hlen⟩ := hok part List.mem_cons_self
        have hcarried : (P25Utils.carried part.1 part.2.1).getD k 0 ∈ P25Utils.carried part.1 part.2.1 := by
          rw [List.getD_eq_getElem _ _ (hlen ▸ hk)]
          exact List.getElem_mem _
        rw [List.foldl_cons, readBit_foldl_encodePart_of_lt rs (P25Utils.mem_carried.mp hcarried).1.2
          fun part' h => ⟨hok' part' h, (hfirst part' h).1⟩]
        exact P25Utils.readBit_encode _ _ hstart (hlen ▸ hk)
      · exact ih hok' hrest _ hin

/-- **A part decodes to its three octets**, and parts before and behind it leave them. -/
theorem readBit_foldl_decodePart {rs data : Bytes} {l : List (Nat × Nat × Nat)} (hok : ∀ part ∈ l, PartOk part)
    (hord : l.Pairwise fun part part' => part.2.1 ≤ part'.1 ∧ part.2.2 + 3 ≤ part'.2.2)
    (hdata : ∀ part ∈ l, ∃ z, ∀ k < 40, readBit data ((P25Utils.carried part.1 part.2.1).getD k 0) =
      readBit (encodeLDUHamming z (fromByte part.2.2 rs)) k) (s : Bytes × Bytes) (b : Nat) :
    readBit (l.foldl (decodePart data) s).2 b =
      if ∃ part ∈ l, 8 * part.2.2 ≤ b ∧ b < 8 * part.2.2 + 24 then readBit rs b else readBit s.2 b := by
  induction l generalizing s with
  | nil => rw [if_neg (by simp)]; rfl
  | cons part l ih =>
      obtain ⟨hstart, hlen⟩ := hok part List.mem_cons_self
      obtain ⟨z, hz⟩ := hdata part List.mem_cons_self
      have hraw : ∀ k < 40, readBit (P25Utils.decode data s.1 part.1 part.2.1).2 k =
          readBit (encodeLDUHamming z (fromByte part.2.2 rs)) k := by
        intro k hk
        rw [P25Utils.readBit_decode _ _ hstart, if_pos (by omega), hz k hk]
      have hturn : readBit (decodePart data s part).2 b =
          if 8 * part.2.2 ≤ b ∧ b < 8 * part.2.2 + 24 then readBit rs b else readBit s.2 b := by
        unfold decodePart
        dsimp only
        rw [readBit_onTail, readBit_decodeLDUHamming hraw, readBit_fromByte, readBit_fromByte]
        by_cases hbefore : b < 8 * part.2.2
        · rw [if_pos hbefore, if_neg (by omega)]
        · have hpos : 8 * part.2.2 + (b - 8 * part.2.2) = b := by omega
          rw [if_neg hbefore, hpos]
          by_cases hin : b - 8 * part.2.2 < 24
          · rw [if_pos hin, if_pos (by omega)]
          · rw [if_neg hin, if_neg (by omega)]
      rw [List.foldl_cons, ih (fun part' h => hok part' (List.mem_cons_of_mem part h))
        (List.pairwise_cons.mp hord).2
        (fun part' h => hdata part' (List.mem_cons_of_mem part h)), hturn]
      by_cases hlater : ∃ part' ∈ l, 8 * part'.2.2 ≤ b ∧ b < 8 * part'.2.2 + 24
      · obtain ⟨part', hin, hb⟩ := hlater
        rw [if_pos ⟨part', hin, hb⟩, if_pos ⟨part', List.mem_cons_of_mem part hin, hb⟩]
      · rw [if_neg hlater]
        by_cases hhere : 8 * part.2.2 ≤ b ∧ b < 8 * part.2.2 + 24
        · rw [if_pos hhere, if_pos ⟨part, List.mem_cons_self, hhere⟩]
        · rw [if_neg hhere, if_neg]
          rintro ⟨part', hmem, hb⟩
          rcases List.mem_cons.mp hmem with rfl | hin
          · exact hhere hb
          · exact hlater ⟨part', hin, hb⟩

/-- **The octets of a logical link data unit**: the first eighteen octets that `decodeLDUParts` reads out of a
    frame are those `encodeLDUParts` has put there. -/
theorem readBit_decodeLDUParts (rs data : Bytes) {b : Nat} (hb : b < 144) :
    readBit (decodeLDUParts (encodeLDUParts rs data)) b = readBit rs b := by
  have hpart : ∃ part ∈ lduParts, 8 * part.2.2 ≤ b ∧ b < 8 * part.2.2 + 24 := by
    have h6 : b / 24 = 0 ∨ b / 24 = 1 ∨ b / 24 = 2 ∨ b / 24 = 3 ∨ b / 24 = 4 ∨ b / 24 = 5 := by omega
    unfold lduParts
    simp only [List.exists_mem_cons_iff]
    omega
  exact (readBit_foldl_decodePart lduParts_ok lduParts_ordered
    (fun part h => readBit_foldl_encodePart rs lduParts_ok lduParts_ordered _ h) _ b).trans (if_pos hpart)

/-- **Under Reed-Solomon**: with any of the codes on 24 hexbits the frame is accepted, and the data octets are
    those that were encoded. -/
theorem decodeWith_decodeLDUParts {c : RS634717.Code} (hv : RS634717.Valid c) (hn : c.n = 24)
    (errata : RS.Errata)
    (octets frame : Bytes) :
    ∃ rs, RS634717.decodeWith errata c (decodeLDUParts (encodeLDUParts (RS634717.encodeWith c octets) frame)) =
      some (true, rs) ∧ ∀ n, 8 * n ≤ 6 * c.k → ∀ i < n, rs i = octets i := by
  refine ⟨_, RS634717.decodeWith_octets hv errata fun b hb => ?_⟩
  exact readBit_decodeLDUParts _ _ (by omega)

/-! ## Words and their bits -/

/-- One turn of a packing loop. -/
theorem shift_or_bit (x : Nat) (b : Bool) : (x <<< 1 ||| if b then 0x01 else 0x00) = 2 * x + b.toNat := by
  rw [Nat.shiftLeft_eq, Nat.mul_comm]
  cases b
  · exact Nat.or_zero _
  · exact (Nat.two_pow_add_eq_or_of_lt (i := 1) (by decide : 1 < 2 ^ 1) x).symm

theorem packWord_succ (w : Nat) (golay : Bits) :
    packWord (w + 1) golay = 2 * packWord w golay + (golay w).toNat := by
  unfold packWord
  rw [List.range_succ, List.foldl_append, List.foldl_cons, List.foldl_nil]
  exact shift_or_bit _ _

/-- The bits of a packed word, the first in front. -/
theorem testBit_packWord (w : Nat) (golay : Bits) (k : Nat) :
    (packWord w golay).testBit k = (decide (k < w) && golay (w - 1 - k)) := by
  induction w generalizing k with
  | zero => simp [packWord]
  | succ w ih =>
      have hbit := Bool.toNat_lt (golay w)
      rw [packWord_succ]
      cases k with
      | zero =>
          have hlow : (2 * packWord w golay + (golay w).toNat) % 2 = (golay w).toNat := by omega
          rw [Nat.testBit_zero, hlow, decide_eq_true (Nat.succ_pos w), Bool.true_and, Nat.sub_zero,
            Nat.add_sub_cancel]
          cases golay w <;> rfl
      | succ k =>
          have hrest : (2 * packWord w golay + (golay w).toNat) / 2 = packWord w golay := by omega
          have hpos : w - 1 - k = w + 1 - 1 - (k + 1) := by omega
          rw [Nat.testBit_succ, hrest, ih, hpos, decide_eq_decide.mpr Nat.add_lt_add_iff_right]

theorem packWord_lt (w : Nat) (golay : Bits) : packWord w golay < 2 ^ w := by
  apply Nat.lt_pow_two_of_testBit
  intro k hk
  rw [testBit_packWord, decide_eq_false (Nat.not_lt.mpr hk), Bool.false_and]

theorem packWord_xor (w : Nat) (a b : Bits) : packWord w (fun j => a j ^^ b j) =
    packWord w a ^^^ packWord w b := by
  apply Nat.eq_of_testBit_eq
  intro k
  rw [Nat.testBit_xor, testBit_packWord, testBit_packWord, testBit_packWord, Bool.and_xor_distrib_left]

theorem packWord_congr {w : Nat} {a b : Bits} (h : ∀ j < w, a j = b j) : packWord w a = packWord w b := by
  unfold packWord
  exact List.foldl_ext _ _ _ fun g j hj => by rw [h j (List.mem_range.mp hj)]

/-- The bits of an unpacked word. -/
theorem unpackWord_apply (w v : Nat) (golay : Bits) (j : Nat) :
    unpackWord w v golay j = if j < w then v.testBit (w - 1 - j) else golay j := by
  induction w generalizing v golay with
  | zero => rfl
  | succ w ih =>
      rw [unpackWord, ih]
      rcases Nat.lt_trichotomy j w with hlt | rfl | hgt
      · have hpos : 1 + (w - 1 - j) = w + 1 - 1 - j := by omega
        rw [if_pos hlt, if_pos (by omega), Nat.testBit_shiftRight, hpos]
      · rw [if_neg (Nat.lt_irrefl j), if_pos rfl, if_pos (Nat.lt_succ_self j), Nat.add_sub_cancel, Nat.sub_self,
          Nat.testBit_zero, Nat.and_one_is_mod]
      · rw [if_neg (by omega), if_neg (by omega), if_neg (by omega)]

/-- A word that fits is packed from its bits. -/
theorem packWord_unpackWord {w v : Nat} (hv : v < 2 ^ w) (golay : Bits) :
    packWord w (unpackWord w v golay) = v := by
  apply Nat.eq_of_testBit_eq
  intro k
  rw [testBit_packWord, unpackWord_apply]
  rcases Nat.lt_or_ge k w with hk | hk
  · have hpos : w - 1 - (w - 1 - k) = k := by omega
    rw [decide_eq_true hk, if_pos (by omega), hpos, Bool.true_and]
  · rw [decide_eq_false (Nat.not_lt.mpr hk), Bool.false_and,
      Nat.testBit_lt_two_pow (Nat.lt_of_lt_of_le hv (Nat.pow_le_pow_right (by decide) hk))]

/-- The weight of a packed word is the number of its bits that are set. -/
theorem weight_packWord (w : Nat) (golay : Bits) :
    Gf2Division.weight w (packWord w golay) = ((List.range w).filter golay).length := by
  induction w with
  | zero => rfl
  | succ w ih =>
      have hbit := Bool.toNat_lt (golay w)
      have hlow : (2 * packWord w golay + (golay w).toNat) % 2 = (golay w).toNat := by omega
      have hrest : (2 * packWord w golay + (golay w).toNat) / 2 = packWord w golay := by omega
      rw [packWord_succ, Gf2Division.weight, hlow, hrest, ih, List.range_succ, List.filter_append,
        List.length_append,
        Nat.add_comm]
      cases h : golay w <;> simp [h]

/-! ## Header data units -/

/-- The place in the frame of bit `k` of the Golay words. -/
def hduPos (k : Nat) : Nat := (P25Utils.carried 114 780).getD k 0

theorem length_hdu : (P25Utils.carried 114 780).length = 648 := by decide +kernel

/-- The number of bits in which Golay word `i` was received wrong. -/
def hduErrors (sent received : Bytes) (i : Nat) : Nat :=
  ((List.range 18).filter fun j =>
    readBit received (hduPos (18 * i + j)) ^^ readBit sent (hduPos (18 * i + j))).length

/-- A loop whose turns all give a result. -/
theorem foldlM_some {α β : Type} {f : β → α → Option β} {g : β → α → β} {l : List α}
    (h : ∀ a ∈ l, ∀ s, f s a = some (g s a)) (s : β) : l.foldlM f s = some (l.foldl g s) := by
  induction l generalizing s with
  | nil => rfl
  | cons a l ih =>
      rw [List.foldlM_cons, h a List.mem_cons_self, Option.bind_eq_bind, Option.bind_some,
        ih fun a' h' => h a' (List.mem_cons_of_mem a h'), List.foldl_cons]

/-- Hexbit `i` of a buffer. -/
def hexbit (raw : Bytes) (i : Nat) : Nat := packWord 6 (gather false 6 (fun j => 6 * i + j) (readBit raw))

theorem hexbit_lt (raw : Bytes) (i : Nat) : hexbit raw i < 4096 :=
  Nat.lt_of_lt_of_le (packWord_lt 6 _) (by decide)

/-- The Golay word that stands for hexbit `i`. -/
def golayWord (raw : Bytes) (i : Nat) : Nat := Golay24128.encode24128 (hexbit raw i)

theorem golayWord_lt (raw : Bytes) (i : Nat) : golayWord raw i < 2 ^ 18 := by
  have hc : hexbit raw i < 2 ^ 6 := packWord_lt 6 _
  have hdata := Golay24128.encode24128_data (hexbit_lt raw i)
  unfold golayWord
  rw [Nat.shiftRight_eq_div_pow] at hdata
  omega

theorem readBit_encodeHDUGolay (data raw : Bytes) {i j : Nat} (hi : i < 36) (hj : j < 18) :
    readBit (encodeHDUGolay data raw) (18 * i + j) = (golayWord raw i).testBit (17 - j) := by
  have hdiv : (18 * i + j) / 18 = i := by omega
  have hmod : (18 * i + j) % 18 = j := by omega
  unfold encodeHDUGolay
  dsimp only
  rw [readBit_writeBitRun _ (by decide), if_pos (by omega), hdiv, hmod, unpackWord_apply, if_pos hj]
  rfl

/-- **A Golay word with at most three wrong bits** decodes to its hexbit. -/
theorem decode24128_packWord {raw : Bytes} {i : Nat} {golay : Bits}
    (hw : ((List.range 18).filter fun j => golay j ^^ (golayWord raw i).testBit (17 - j)).length ≤ 3) :
    ∃ valid, Golay24128.decode24128 (packWord 18 golay) = some (valid, hexbit raw i) := by
  generalize he : packWord 18 (fun j => golay j ^^ (golayWord raw i).testBit (17 - j)) = e
  have helt : e < 2 ^ 18 := he ▸ packWord_lt 18 _
  have hweight : Gf2Division.weight 24 e ≤ 3 := by
    rw [Gf2Division.weight_of_lt helt 6, ← he, weight_packWord]
    exact hw
  -- the word received is the word sent with the wrong bits inverted
  have hword : packWord 18 golay = golayWord raw i ^^^ e := by
    have hsent : packWord 18 (fun j => (golayWord raw i).testBit (17 - j)) = golayWord raw i := by
      rw [← packWord_unpackWord (golayWord_lt raw i) fun _ => false]
      refine packWord_congr fun j hj => ?_
      rw [unpackWord_apply, if_pos hj, packWord_unpackWord (golayWord_lt raw i)]
    rw [← he, packWord_xor, hsent, Nat.xor_comm, Nat.xor_assoc, Nat.xor_self, Nat.xor_zero]
  rw [hword]
  exact Golay24128.decode24128_near (hexbit_lt raw i) (Nat.lt_of_lt_of_le helt (by decide)) hweight

/-- **The hexbits of a header data unit**: with at most three wrong bits in each Golay word, whatever the other
    bits of the frame, `decodeHDUGolay` reads out of a frame the hexbits that `encodeHDUGolay` has put there. -/
theorem decodeHDUGolay_near {raw frame received z : Bytes}
    (h : ∀ i < 36, hduErrors (P25Utils.encode (encodeHDUGolay (fun _ => 0) raw) frame 114 780).2 received i ≤
    3) :
    ∃ out, decodeHDUGolay (P25Utils.decode received z 114 780).2 (fun _ => 0) = some out ∧
      ∀ b < 216, readBit out b = readBit raw b := by
  have hturn : ∀ i < 36, ∃ valid, Golay24128.decode24128 (packWord 18
      (gather false 18 (fun j => 18 * i + j) (readBit (P25Utils.decode received z 114 780).2))) =
      some (valid, hexbit raw i) := by
    intro i hi
    apply decode24128_packWord
    refine Nat.le_trans (Nat.le_of_eq (congrArg List.length (List.filter_congr fun j hj => ?_))) (h i hi)
    have hj' := List.mem_range.mp hj
    have hk : 18 * i + j < (P25Utils.carried 114 780).length := by rw [length_hdu]; omega
    unfold hduPos
    rw [gather_of_lt hj', P25Utils.readBit_decode _ _ (by decide), if_pos hk,
      P25Utils.readBit_encode _ _ (by decide) hk, readBit_encodeHDUGolay _ _ hi hj']
  let golay : Nat → Bits := fun i => unpackWord 6 (hexbit raw i)
    (gather false 18 (fun j => 18 * i + j) (readBit (P25Utils.decode received z 114 780).2))
  refine ⟨writeBitRun (fun _ => 0) 6 36 golay, ?_, fun b hb => ?_⟩
  · apply foldlM_some (l := List.range 36)
      (g := fun out i => (List.range 6).foldl (fun out j => writeBit out (6 * i + j) (golay i j)) out)
    intro i hi out
    obtain ⟨valid, hdec⟩ := hturn i (List.mem_range.mp hi)
    dsimp only
    rw [hdec]
    rfl
  · have hpos : 6 * (b / 6) + b % 6 = b := Nat.div_add_mod b 6
    have hlast : 6 - 1 - (6 - 1 - b % 6) = b % 6 := by omega
    have hbit : golay (b / 6) (b % 6) = (hexbit raw (b / 6)).testBit (6 - 1 - b % 6) :=
      (unpackWord_apply 6 _ _ _).trans (if_pos (Nat.mod_lt b (by decide)))
    unfold hexbit at hbit
    rw [readBit_writeBitRun _ (by decide), if_pos hb, hbit, testBit_packWord, decide_eq_true (by omega),
      Bool.true_and, hlast, gather_of_lt (Nat.mod_lt b (by decide)), hpos]

/-- Bits of the Golay words have places of their own. -/
theorem hduPos_injective {k k' : Nat} (hk : k < 648) (hk' : k' < 648) (h : hduPos k = hduPos k') : k = k' := by
  rw [← length_hdu] at hk hk'
  unfold hduPos at h
  rw [List.getD_eq_getElem _ _ hk, List.getD_eq_getElem _ _ hk'] at h
  exact (List.Nodup.getElem_inj_iff (P25Utils.nodup_carried 114 780)).mp h

/-- A frame with the bits at the positions of `S` inverted has no more wrong bits in a Golay word. -/
theorem hduErrors_flipBits_le (S : List Nat) (frame : Bytes) {i : Nat} (hi : i < 36) :
    hduErrors frame (flipBits S frame) i ≤ S.length := by
  generalize hwrong : ((List.range 18).filter fun j =>
    readBit (flipBits S frame) (hduPos (18 * i + j)) ^^ readBit frame (hduPos (18 * i + j))) = wrong
  have hmem : ∀ j ∈ wrong, j < 18 ∧ hduPos (18 * i + j) ∈ S := by
    intro j hj
    rw [← hwrong, List.mem_filter, List.mem_range] at hj
    refine ⟨hj.1, ?_⟩
    by_contra hS
    rw [readBit_flipBits_of_notMem hS, Bool.xor_self] at hj
    exact absurd hj.2 Bool.false_ne_true
  have hnodup : (wrong.map fun j => hduPos (18 * i + j)).Nodup := by
    refine List.Nodup.map_on (fun j hj j' hj' he => ?_) (hwrong ▸ List.nodup_range.filter _)
    have hlt := (hmem j hj).1
    have hlt' := (hmem j' hj').1
    have := hduPos_injective (by omega) (by omega) he
    omega
  have hsub : (wrong.map fun j => hduPos (18 * i + j)) ⊆ S := by
    intro p hp
    obtain ⟨j, hj, rfl⟩ := List.mem_map.mp hp
    exact (hmem j hj).2
  have hle := (List.subperm_of_subset hnodup hsub).length_le
  rw [List.length_map] at hle
  unfold hduErrors
  rw [hwrong]
  exact hle

end LC

end DvmHost

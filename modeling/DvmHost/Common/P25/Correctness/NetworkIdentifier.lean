import DvmHost.Common.Edac.Correctness.BchDistance
import DvmHost.Common.P25.NID

/-!
# `Common.P25.Correctness.NetworkIdentifier` — which frames a network identifier accepts and sends

Identifiers of different NACs or data unit IDs differ in at least thirteen bits, so within six bits of one there
is no other, and the order in which `decode` tries the table does not matter. What `encode` sends is followed
through any calls of `setTxNAC`: the table in force is that of the last call with another number than the one
the object was built with (`sends_foldl_setTxNAC`), whatever was called after it.
-/

namespace DvmHost

open Lib

namespace NID

/-! ## The bits of an identifier -/

/-- The first sixteen bits of an entry. -/
def info (nac : UInt32) (duid : UInt8) : Bits := fun i =>
  if i < 12 then nac.toNat.testBit (11 - i) else bitOf duid (i - 8)

/-- The NAC as it is sent. -/
def nacField (nac : UInt32) : Nat := nac.toNat % 4096

theorem testBit_nacField (nac : UInt32) (i : Nat) :
    (nacField nac).testBit i = (decide (i < 12) && nac.toNat.testBit i) := Nat.testBit_mod_two_pow _ 12 i

theorem nacField_eq_iff {nac nac' : UInt32} :
    nacField nac = nacField nac' ↔ ∀ i < 12, nac.toNat.testBit (11 - i) = nac'.toNat.testBit (11 - i) := by
  constructor
  · intro h i hi
    have hbit := congrArg (Nat.testBit · (11 - i)) h
    simpa [testBit_nacField, show 11 - i < 12 by omega] using hbit
  · intro h
    apply Nat.eq_of_testBit_eq
    intro i
    rw [testBit_nacField, testBit_nacField]
    by_cases hi : i < 12
    · have hbit := h (11 - i) (by omega)
      have hpos : 11 - (11 - i) = i := by omega
      rw [hpos] at hbit
      rw [hbit]
    · rw [decide_eq_false hi, Bool.false_and, Bool.false_and]

theorem bitOf_toUInt8 (v : UInt32) {j : Nat} (hj : j < 8) : bitOf v.toUInt8 j = v.toNat.testBit (7 - j) := by
  unfold bitOf
  have hbits : v.toUInt8.toBitVec = v.toBitVec.setWidth 8 := rfl
  rw [hbits, BitVec.getMsbD, BitVec.getLsbD_setWidth, decide_eq_true hj, Bool.true_and]
  have hlow : 8 - 1 - j < 8 := by omega
  rw [decide_eq_true hlow, Bool.true_and]
  rfl

/-- The octet of the upper eight bits of the NAC. -/
theorem bitOf_nacHigh (nac : UInt32) {j : Nat} (hj : j < 8) :
    bitOf (nac >>> (4 : UInt32) &&& 0xFF).toUInt8 j = nac.toNat.testBit (11 - j) := by
  have hmask : ∀ i < 8, (0xFF : UInt32).toNat.testBit (7 - i) = true := by decide
  have hshift : (4 : UInt32).toNat % 32 = 4 := by decide
  have hpos : 4 + (7 - j) = 11 - j := by omega
  rw [bitOf_toUInt8 _ hj, UInt32.toNat_and, Nat.testBit_and, UInt32.toNat_shiftRight, hmask j hj, Bool.and_true,
    hshift, Nat.testBit_shiftRight, hpos]

/-- The octet of its lower four. -/
theorem bitOf_nacLow (nac : UInt32) {j : Nat} (hj : j < 8) :
    bitOf (nac <<< (4 : UInt32) &&& 0xF0).toUInt8 j = (decide (j < 4) && nac.toNat.testBit (3 - j)) := by
  have hmask : ∀ j < 8, (0xF0 : UInt32).toNat.testBit (7 - j) = decide (j < 4) := by decide
  have hshift : (4 : UInt32).toNat % 32 = 4 := by decide
  rw [bitOf_toUInt8 _ hj, UInt32.toNat_and, Nat.testBit_and, UInt32.toNat_shiftLeft, hmask j hj, hshift,
    Nat.testBit_mod_two_pow, Nat.testBit_shiftLeft, decide_eq_true (by omega), Bool.true_and, Bool.and_comm]
  by_cases h4 : j < 4
  · have hpos : 7 - j - 4 = 3 - j := by omega
    have hin : 7 - j ≥ 4 := by omega
    rw [decide_eq_true h4, decide_eq_true hin, hpos, Bool.true_and]
  · rw [decide_eq_false h4, Bool.false_and, Bool.false_and]

/-- The two octets that the NAC and the data unit ID are laid into. -/
theorem readBit_head (nac : UInt32) {duid : UInt8} (hduid : ∀ j < 4, bitOf duid j = false) {i : Nat}
    (hi : i < 16) :
    readBit (setByte (setByte (setByte (fun _ => 0) 0 (nac >>> (4 : UInt32) &&& 0xFF).toUInt8) 1
      (nac <<< (4 : UInt32) &&& 0xF0).toUInt8) 1 ((nac <<< (4 : UInt32) &&& 0xF0).toUInt8 ||| duid)) i =
      info nac duid i := by
  rw [readBit_eq]
  unfold info
  rcases Nat.lt_or_ge i 8 with hlow | hhigh
  · have hbyte : i / 8 = 0 := by omega
    have hbit : i % 8 = i := by omega
    rw [hbyte, hbit, if_pos (by omega), setByte_of_ne _ _ (by decide), setByte_of_ne _ _ (by decide),
      setByte_same, bitOf_nacHigh nac hlow]
  · have hbyte : i / 8 = 1 := by omega
    have hbit : i % 8 = i - 8 := by omega
    rw [hbyte, hbit, setByte_same, bitOf_or, bitOf_nacLow nac (by omega)]
    by_cases h12 : i < 12
    · have hpos : 3 - (i - 8) = 11 - i := by omega
      rw [if_pos h12, hpos, decide_eq_true (by omega), Bool.true_and, hduid _ (by omega), Bool.or_false]
    · rw [if_neg h12, decide_eq_false (by omega), Bool.false_and, Bool.false_or]

/-- Entries hold the NAC as it is sent, and no more of it. -/
theorem createEntry_congr {nac nac' : UInt32} (h : nacField nac = nacField nac') (duid : UInt8)
    (parity : Bool) : createEntry nac duid parity = createEntry nac' duid parity := by
  have hbits := nacField_eq_iff.mp h
  have hhigh : (nac >>> (4 : UInt32) &&& 0xFF).toUInt8 = (nac' >>> (4 : UInt32) &&& 0xFF).toUInt8 := by
    apply byte_ext
    intro j hj
    rw [bitOf_nacHigh nac hj, bitOf_nacHigh nac' hj, hbits j (by omega)]
  have hlow : (nac <<< (4 : UInt32) &&& 0xF0).toUInt8 = (nac' <<< (4 : UInt32) &&& 0xF0).toUInt8 := by
    apply byte_ext
    intro j hj
    rw [bitOf_nacLow nac hj, bitOf_nacLow nac' hj]
    by_cases h4 : j < 4
    · have hpos : 3 - j = 11 - (8 + j) := by omega
      rw [hpos, hbits (8 + j) (by omega)]
    · rw [decide_eq_false h4, Bool.false_and, Bool.false_and]
  unfold createEntry
  rw [hhigh, hlow]

/-- **The bits of an entry** before its parity bit are those of a codeword. -/
theorem readBit_createEntry (nac : UInt32) {duid : UInt8} (hduid : ∀ j < 4, bitOf duid j = false)
    (parity : Bool) {i : Nat} (hi : i < 63) :
    readBit (createEntry nac duid parity) i = BCH.codeword (info nac duid) i := by
  have hlast : ∀ (b : UInt8), ∀ j < 7,
      bitOf (if parity then b ||| 0x01 else b &&& 0xFE) j = bitOf b j := by
    have hor : ∀ j < 7, bitOf 0x01 j = false := by decide
    have hand : ∀ j < 7, bitOf 0xFE j = true := by decide
    intro b j hj
    cases parity
    · rw [if_neg Bool.false_ne_true, bitOf_and, hand j hj, Bool.and_true]
    · rw [if_pos rfl, bitOf_or, hor j hj, Bool.or_false]
  unfold createEntry
  dsimp only
  rw [setByte_same]
  generalize hhead : setByte (setByte (setByte (fun _ => 0) 0 (nac >>> (4 : UInt32) &&& 0xFF).toUInt8) 1
      (nac <<< (4 : UInt32) &&& 0xF0).toUInt8) 1 ((nac <<< (4 : UInt32) &&& 0xF0).toUInt8 ||| duid) = head
  have hinfo : ∀ i < 16, readBit head i = info nac duid i := by
    intro i hi
    rw [← hhead]
    exact readBit_head nac hduid hi
  have hkeep : ∀ b : UInt8, readBit (setByte (BCH.encode head) 7
      (if parity then BCH.encode head 7 ||| 0x01 else BCH.encode head 7 &&& 0xFE)) i =
      readBit (BCH.encode head) i := by
    intro _
    rw [readBit_eq, readBit_eq]
    by_cases h7 : i / 8 = 7
    · rw [setByte_of_eq _ _ h7, hlast _ _ (by omega), h7]
    · rw [setByte_of_ne _ _ h7]
  rw [hkeep 0, BCH.readBit_encode]
  unfold BCH.codeword BCH.k
  by_cases h16 : i < 16
  · rw [if_neg (by omega), if_pos h16, hinfo i h16]
  · rw [if_pos (by omega), if_neg h16, BCH.redundancy_congr hinfo]

/-! ## Distances -/

/-- The bits of an identifier as a number, the first in front. -/
def wordOf (p : Bytes) : Nat := LC.packWord 64 (readBit p)

/-- `compare` gives the weight of the difference. -/
theorem compare_eq_weight (p q : Bytes) :
    P25Utils.compare p q P25_NID_LENGTH_BYTES = Gf2Division.weight 64 (wordOf p ^^^ wordOf q) := by
  unfold wordOf
  rw [← LC.packWord_xor, LC.weight_packWord]
  exact P25Utils.compare_eq p q 8

theorem bitOf_duid {e : UInt8 × Bool} (he : e ∈ entries) : ∀ j < 4, bitOf e.1 j = false := by
  have hall : (entries.all fun e => decide (∀ j : Nat, j < 4 → bitOf e.1 j = false)) = true := by decide
  exact of_decide_eq_true (List.all_eq_true.mp hall e he)

/-- **Identifiers differ in at least thirteen bits.** -/
theorem lt_weight_entries {nac nac' : UInt32} {e e' : UInt8 × Bool} (he : e ∈ entries) (he' : e' ∈ entries)
    (hne : nacField nac ≠ nacField nac' ∨ e.1 ≠ e'.1) :
    12 < Gf2Division.weight 64 (wordOf (createEntry nac e.1 e.2) ^^^ wordOf (createEntry nac' e'.1 e'.2)) := by
  have hduid := bitOf_duid he
  have hduid' := bitOf_duid he'
  -- without the parity bit the difference is a word of the code
  have hword : (wordOf (createEntry nac e.1 e.2) ^^^ wordOf (createEntry nac' e'.1 e'.2)) / 2 =
      BCH.word fun i => info nac e.1 i ^^ info nac' e'.1 i := by
    have hhalf : ∀ p : Bytes, wordOf p / 2 = LC.packWord 63 (readBit p) := by
      intro p
      have hbit := Bool.toNat_lt (readBit p 63)
      unfold wordOf
      rw [LC.packWord_succ]
      omega
    rw [Nat.xor_div_two, hhalf, hhalf, BCH.word_xor]
    unfold BCH.word
    exact congrArg₂ _ (LC.packWord_congr fun i hi => readBit_createEntry nac hduid e.2 hi)
      (LC.packWord_congr fun i hi => readBit_createEntry nac' hduid' e'.2 hi)
  have hsome : ∃ i < BCH.k, (info nac e.1 i ^^ info nac' e'.1 i) = true := by
    by_contra hnone
    have hall : ∀ i < 16, info nac e.1 i = info nac' e'.1 i := by
      intro i hi
      by_contra hi'
      exact hnone ⟨i, hi, by simpa using hi'⟩
    rcases hne with hnac | hd
    · apply hnac
      rw [nacField_eq_iff]
      intro i hi
      have h := hall i (by omega)
      unfold info at h
      rwa [if_pos hi, if_pos hi] at h
    · apply hd
      apply byte_ext
      intro j hj
      rcases Nat.lt_or_ge j 4 with hlow | hhigh
      · rw [hduid j hlow, hduid' j hlow]
      · have h := hall (8 + j) (by omega)
        unfold info at h
        rwa [if_neg (by omega), if_neg (by omega), Nat.add_sub_cancel_left] at h
  have hheavy := BCH.lt_weight_word hsome
  have hle := Gf2Division.weight_half_le 63
    (wordOf (createEntry nac e.1 e.2) ^^^ wordOf (createEntry nac' e'.1 e'.2))
  rw [hword] at hle
  exact Nat.lt_of_lt_of_le hheavy hle

/-! ## Tables -/

/-- The table holds the entries of a NAC. -/
def Holds (table : UInt8 → Bytes) (nac : UInt32) : Prop := ∀ e ∈ entries, table e.1 = createEntry nac e.1 e.2

theorem holds_createTable (nac : UInt32) (table : UInt8 → Bytes) : Holds (createTable nac table) nac := by
  intro e he
  unfold entries at he
  simp only [List.mem_cons, List.not_mem_nil, or_false] at he
  rcases he with rfl | rfl | rfl | rfl | rfl | rfl | rfl <;> rfl

theorem mem_encodable_iff {duid : UInt8} : duid ∈ encodable ↔ ∃ e ∈ entries, e.1 = duid := by
  have hmap : encodable = entries.map Prod.fst := rfl
  rw [hmap, List.mem_map]

theorem mem_decodeOrder_iff {duid : UInt8} : duid ∈ decodeOrder ↔ duid ∈ encodable := by
  unfold decodeOrder encodable
  simp only [List.mem_cons, List.not_mem_nil, or_false]
  tauto

/-- The table that `encode` reads. -/
def txTable (s : NID) : UInt8 → Bytes := if s.splitNac then s.tx else s.rxTx

theorem encode_eq (s : NID) (data : Bytes) {duid : UInt8} (h : duid ∈ encodable) :
    encode s data duid = (P25Utils.encode (txTable s duid) data 48 114).2 := by
  unfold encode txTable
  rw [if_pos h, if_pos h]
  split <;> rfl

/-- The entry that alone is accepted is the one found. -/
theorem find?_eq_some_of_unique {α : Type} {p : α → Bool} {l : List α} {a : α} (hmem : a ∈ l)
    (hp : p a = true) (huniq : ∀ b ∈ l, p b = true → b = a) : l.find? p = some a := by
  cases hfind : l.find? p with
  | some b => rw [huniq b (List.mem_of_find?_eq_some hfind) (List.find?_some hfind)]
  | none => exact absurd hp (List.find?_eq_none.mp hfind a hmem)

/-! ## Frames -/

/-- The places of an identifier in a frame. -/
def nidBits : List Nat := P25Utils.carried 48 114

theorem length_nidBits : nidBits.length = 64 := by decide

/-- **What `decode` reads** of a frame with at most six bits of the identifier inverted is within six bits of the
    entry that was sent. -/
theorem weight_received (entry frame : Bytes) {S : List Nat} (hS : S.length ≤ 6) :
    Gf2Division.weight 64 (wordOf (P25Utils.decode (flipBits S (P25Utils.encode entry frame 48 114).2)
      (fun _ => 0) 48 114).2 ^^^ wordOf entry) ≤ 6 := by
  generalize hnid : (P25Utils.decode (flipBits S (P25Utils.encode entry frame 48 114).2)
    (fun _ => 0) 48 114).2 = nid
  have hread : ∀ k < 64, readBit nid k =
      readBit (flipBits S (P25Utils.encode entry frame 48 114).2) (nidBits.getD k 0) := by
    intro k hk
    rw [← hnid, P25Utils.readBit_decode _ _ (by decide)]
    exact if_pos (length_nidBits.symm ▸ hk)
  have hsent : ∀ k < 64, readBit (P25Utils.encode entry frame 48 114).2 (nidBits.getD k 0) = readBit entry k :=
    fun k hk => P25Utils.readBit_encode _ _ (by decide) (length_nidBits.symm ▸ hk)
  unfold wordOf
  rw [← LC.packWord_xor, LC.weight_packWord]
  -- a bit that differs is one of those inverted
  generalize hwrong : (List.range 64).filter (fun k => readBit nid k ^^ readBit entry k) = wrong
  have hmem : ∀ k ∈ wrong, k < 64 ∧ nidBits.getD k 0 ∈ S := by
    intro k hk
    rw [← hwrong, List.mem_filter, List.mem_range] at hk
    refine ⟨hk.1, ?_⟩
    by_contra hout
    rw [hread k hk.1, readBit_flipBits_of_notMem hout, hsent k hk.1, Bool.xor_self] at hk
    exact Bool.false_ne_true hk.2
  have hnodup : (wrong.map fun k => nidBits.getD k 0).Nodup := by
    refine List.Nodup.map_on (fun k hk k' hk' he => ?_) (hwrong ▸ List.nodup_range.filter _)
    have hlt : k < nidBits.length := length_nidBits.symm ▸ (hmem k hk).1
    have hlt' : k' < nidBits.length := length_nidBits.symm ▸ (hmem k' hk').1
    rw [List.getD_eq_getElem _ _ hlt, List.getD_eq_getElem _ _ hlt'] at he
    exact (List.Nodup.getElem_inj_iff (P25Utils.nodup_carried 48 114)).mp he
  have hsub : (wrong.map fun k => nidBits.getD k 0) ⊆ S := by
    intro p hp
    obtain ⟨k, hk, rfl⟩ := List.mem_map.mp hp
    exact (hmem k hk).2
  have hle := (List.subperm_of_subset hnodup hsub).length_le
  rw [List.length_map] at hle
  exact Nat.le_trans hle hS

/-- Within six bits of an entry `compare` accepts that entry and no other. -/
theorem compare_received {nac nac' : UInt32} {e e' : UInt8 × Bool} (he : e ∈ entries) (he' : e' ∈ entries)
    {nid : Bytes} (hnear : Gf2Division.weight 64 (wordOf nid ^^^ wordOf (createEntry nac e.1 e.2)) ≤ 6) :
    P25Utils.compare nid (createEntry nac' e'.1 e'.2) P25_NID_LENGTH_BYTES < MAX_NID_ERRS ↔
      nacField nac = nacField nac' ∧ e.1 = e'.1 := by
  rw [compare_eq_weight]
  constructor
  · intro hlt
    by_contra hne
    have hfar := lt_weight_entries he he' (not_and_or.mp hne)
    have htriangle := Gf2Division.weight_xor_le 64 (wordOf nid ^^^ wordOf (createEntry nac e.1 e.2))
      (wordOf nid ^^^ wordOf (createEntry nac' e'.1 e'.2))
    have hcancel : ∀ a b c : Nat, a ^^^ b ^^^ (a ^^^ c) = b ^^^ c := fun a b c => by
      rw [Nat.xor_comm a b, Nat.xor_assoc, ← Nat.xor_assoc a a, Nat.xor_self, Nat.zero_xor]
    rw [hcancel] at htriangle
    unfold MAX_NID_ERRS at hlt
    omega
  · rintro ⟨hnac, hduid⟩
    have hsame : e = e' := by
      have hall : (entries.all fun e => entries.all fun e' => e.1 = e'.1 → e = e') = true := by decide
      exact of_decide_eq_true (List.all_eq_true.mp (List.all_eq_true.mp hall e he) e' he') hduid
    have hentry : createEntry nac e.1 e.2 = createEntry nac' e.1 e.2 := createEntry_congr hnac e.1 e.2
    rw [← hsame, ← hentry]
    unfold MAX_NID_ERRS
    omega

/-- **Identifiers are accepted.** A frame with at most six bits inverted decodes to its data unit ID. -/
theorem decode_same (nac : UInt32) {duid : UInt8} (hduid : duid ∈ encodable) (frame : Bytes) {S : List Nat}
    (hS : S.length ≤ 6) :
    (decode (new nac) (flipBits S (encode (new nac) frame duid))).1 = true ∧
      (decode (new nac) (flipBits S (encode (new nac) frame duid))).2.duid = duid := by
  obtain ⟨e, he, rfl⟩ := mem_encodable_iff.mp hduid
  have hholds : Holds (new nac).rxTx nac := holds_createTable nac _
  have hsent : encode (new nac) frame e.1 = (P25Utils.encode (createEntry nac e.1 e.2) frame 48 114).2 := by
    rw [encode_eq _ _ hduid, ← hholds e he]
    rfl
  have hfind : decodeOrder.find? (fun d => P25Utils.compare
      (P25Utils.decode (flipBits S (encode (new nac) frame e.1)) (fun _ => 0) 48 114).2 ((new nac).rxTx d)
      P25_NID_LENGTH_BYTES < MAX_NID_ERRS) = some e.1 := by
    rw [hsent]
    have hnear := weight_received (createEntry nac e.1 e.2) frame hS
    apply find?_eq_some_of_unique (mem_decodeOrder_iff.mpr hduid)
    · rw [decide_eq_true_iff, hholds e he]
      exact (compare_received he he hnear).mpr ⟨rfl, rfl⟩
    · intro d hd hacc
      obtain ⟨e', he', rfl⟩ := mem_encodable_iff.mp (mem_decodeOrder_iff.mp hd)
      rw [decide_eq_true_iff, hholds e' he'] at hacc
      exact ((compare_received he he' hnear).mp hacc).2.symm
  unfold decode
  dsimp only
  rw [hfind]
  exact ⟨rfl, rfl⟩

/-- **Identifiers of other NACs are refused.** -/
theorem decode_other {nac other : UInt32} (hne : nacField other ≠ nacField nac) {duid : UInt8}
    (hduid : duid ∈ encodable) (frame : Bytes) {S : List Nat} (hS : S.length ≤ 6) :
    (decode (new nac) (flipBits S (encode (new other) frame duid))).1 = false := by
  obtain ⟨e, he, rfl⟩ := mem_encodable_iff.mp hduid
  have hholds : Holds (new nac).rxTx nac := holds_createTable nac _
  have hsent : encode (new other) frame e.1 = (P25Utils.encode (createEntry other e.1 e.2) frame 48 114).2 := by
    rw [encode_eq _ _ hduid, ← holds_createTable other (fun _ _ => 0) e he]
    rfl
  have hfind : decodeOrder.find? (fun d => P25Utils.compare
      (P25Utils.decode (flipBits S (encode (new other) frame e.1)) (fun _ => 0) 48 114).2 ((new nac).rxTx d)
      P25_NID_LENGTH_BYTES < MAX_NID_ERRS) = none := by
    rw [hsent]
    have hnear := weight_received (createEntry other e.1 e.2) frame hS
    rw [List.find?_eq_none]
    intro d hd hacc
    obtain ⟨e', he', rfl⟩ := mem_encodable_iff.mp (mem_decodeOrder_iff.mp hd)
    rw [decide_eq_true_iff, hholds e' he'] at hacc
    exact hne ((compare_received he he' hnear).mp hacc).1
  unfold decode
  dsimp only
  rw [hfind]

/-! ## What is sent after calls of `setTxNAC` -/

/-- What is sent carries this NAC. -/
def Sends (s : NID) (nac : UInt32) : Prop := Holds (txTable s) nac

theorem sends_new (nac : UInt32) : Sends (new nac) nac := holds_createTable nac _

/-- A call with another number than the one the object was built with takes effect. -/
theorem sends_setTxNAC {s : NID} {nac : UInt32} (h : nac ≠ s.nac) : Sends (setTxNAC s nac) nac := by
  unfold setTxNAC
  rw [if_neg h]
  exact holds_createTable nac _

/-- A call with the number it was built with has none. -/
theorem setTxNAC_own (s : NID) : setTxNAC s s.nac = s := if_pos rfl

theorem nac_setTxNAC (s : NID) (nac : UInt32) : (setTxNAC s nac).nac = s.nac := by
  unfold setTxNAC
  split <;> rfl

/-- The number in force after calls of `setTxNAC`: the last that is not `nac`. -/
def lastOther (nac : UInt32) (calls : List UInt32) : Option UInt32 := (calls.filter (· ≠ nac)).getLast?

theorem lastOther_append (nac : UInt32) (calls : List UInt32) (m : UInt32) :
    lastOther nac (calls ++ [m]) = if m = nac then lastOther nac calls else some m := by
  unfold lastOther
  rw [List.filter_append]
  split
  · next h => rw [List.filter_cons_of_neg (by simp [h]), List.filter_nil, List.append_nil]
  · next h => rw [List.filter_cons_of_pos (by simp [h]), List.filter_nil, List.getLast?_concat]

/-- **After any calls** the NAC sent is that of the last call with another number than the one the object was
    built with. The induction is on the calls, the last one first. -/
theorem sends_foldl_setTxNAC (nac : UInt32) (calls : List UInt32) :
    (calls.foldl setTxNAC (new nac)).nac = nac ∧
      Sends (calls.foldl setTxNAC (new nac)) ((lastOther nac calls).getD nac) := by
  induction calls using List.reverseRecOn with
  | nil => exact ⟨rfl, sends_new nac⟩
  | append_singleton calls m ih =>
      obtain ⟨hnac, hsends⟩ := ih
      rw [List.foldl_append, List.foldl_cons, List.foldl_nil, lastOther_append]
      refine ⟨(nac_setTxNAC _ m).trans hnac, ?_⟩
      by_cases hm : m = nac
      · rw [if_pos hm]
        have hown : setTxNAC (calls.foldl setTxNAC (new nac)) m = calls.foldl setTxNAC (new nac) := by
          rw [hm]
          exact if_pos hnac.symm
        rw [hown]
        exact hsends
      · rw [if_neg hm]
        exact sends_setTxNAC (by rw [hnac]; exact hm)

/-- The frame carries the NAC: its twelve bits stand behind the frame sync. -/
def CarriesNAC (data : Bytes) (nac : UInt32) : Prop :=
  ∀ i < 12, readBit data (48 + i) = (nacField nac).testBit (11 - i)

/-- **What is sent is what is carried**: the frames carry the NAC in force and, of twelve bits, no other. -/
theorem carriesNAC_encode_iff {s : NID} {m n : UInt32} (hsends : Sends s m) {duid : UInt8}
    (hduid : duid ∈ encodable) (data : Bytes) :
    CarriesNAC (encode s data duid) n ↔ nacField m = nacField n := by
  obtain ⟨e, he, rfl⟩ := mem_encodable_iff.mp hduid
  have hbit : ∀ i < 12, readBit (encode s data e.1) (48 + i) = (nacField m).testBit (11 - i) := by
    intro i hi
    have hplace : ∀ i < 12, nidBits.getD i 0 = 48 + i := by decide
    have hin : i < nidBits.length := length_nidBits.symm ▸ Nat.lt_trans hi (by decide)
    have hread : readBit (P25Utils.encode (txTable s e.1) data 48 114).2 (nidBits.getD i 0) =
        readBit (txTable s e.1) i := P25Utils.readBit_encode _ _ (by decide) hin
    rw [encode_eq s data hduid, ← hplace i hi, hread, hsends e he,
      readBit_createEntry m (bitOf_duid he) e.2 (by omega)]
    unfold BCH.codeword info
    rw [if_pos (Nat.lt_trans hi (by decide)), if_pos hi, testBit_nacField, decide_eq_true (by omega),
      Bool.true_and]
  constructor
  · intro h
    rw [nacField_eq_iff]
    intro i hi
    have hi' := (hbit i hi).symm.trans (h i hi)
    rwa [testBit_nacField, testBit_nacField, decide_eq_true (by omega), Bool.true_and, Bool.true_and] at hi'
  · intro h i hi
    rw [hbit i hi, h]

/-! ## What an identifier is to do -/

/-- What `NID` is for, with the NAC `nac`, when calls of `setTxNAC` with `calls` and then `n` were made: own
    identifiers are accepted and others refused with up to six wrong bits, and the NAC sent is `n`. -/
structure Identifies (nac : UInt32) (calls : List UInt32) (n : UInt32) : Prop where
  accepts : ∀ duid ∈ encodable, ∀ (frame : Bytes) (S : List Nat), S.Nodup → (∀ p ∈ S, p ∈ nidBits) →
    S.length ≤ 6 →
    (decode (new nac) (flipBits S (encode (new nac) frame duid))).1 = true ∧
      (decode (new nac) (flipBits S (encode (new nac) frame duid))).2.duid = duid
  rejects : ∀ other, nacField other ≠ nacField nac → ∀ duid ∈ encodable, ∀ (frame : Bytes) (S : List Nat),
    S.Nodup → (∀ p ∈ S, p ∈ nidBits) → S.length ≤ 6 →
    (decode (new nac) (flipBits S (encode (new other) frame duid))).1 = false
  sends : ∀ duid ∈ encodable, ∀ frame : Bytes,
    CarriesNAC (encode (setTxNAC (calls.foldl setTxNAC (new nac)) n) frame duid) n

/-- **When the NAC that was set is sent**: the number is not the one the object was built with, or no call with
    another NAC came before. -/
theorem identifies_iff (nac : UInt32) (calls : List UInt32) (n : UInt32) :
    Identifies nac calls n ↔ n = nac → ∀ m, lastOther nac calls = some m → nacField m = nacField n := by
  have hrun := sends_foldl_setTxNAC nac (calls ++ [n])
  rw [List.foldl_append, List.foldl_cons, List.foldl_nil, lastOther_append] at hrun
  constructor
  · intro h hn m hm
    have hcarries := h.sends P25_DUID_HDU (by decide) fun _ => 0
    rw [carriesNAC_encode_iff hrun.2 (by decide), if_pos hn, hm, Option.getD_some] at hcarries
    exact hcarries
  · intro h
    refine ⟨fun duid hduid frame S _ _ hS => decode_same nac hduid frame hS,
      fun other hne duid hduid frame S _ _ hS => decode_other hne hduid frame hS, fun duid hduid frame => ?_⟩
    rw [carriesNAC_encode_iff hrun.2 hduid]
    split
    · next hn =>
        cases hlast : lastOther nac calls with
        | some m => exact h hn m hlast
        | none => exact congrArg nacField hn.symm
    · rfl

/-- Set to `0x294` and back to its own `0x293`, an object goes on sending `0x294`. -/
theorem not_identifies_set_back : ¬Identifies 0x293 [0x294] 0x293 := by
  intro h
  have hcarries := h.sends P25_DUID_HDU (by decide) fun _ => 0
  have hsends : Sends (setTxNAC ([0x294].foldl setTxNAC (new 0x293)) 0x293) 0x294 :=
    (sends_foldl_setTxNAC 0x293 [0x294, 0x293]).2
  rw [carriesNAC_encode_iff hsends (by decide)] at hcarries
  exact absurd hcarries (by decide)

end NID

end DvmHost

import Mathlib.Data.List.GetD
import Mathlib.Data.List.Induction
import DvmHost.Common.Dmr.Data.EmbeddedData

/-!
# `Common.Dmr.Data.Correctness.EmbeddedLc` — what embedded link control exposes

Two results on `EmbeddedData`. Whatever is fed to it, a link control shows only after a first fragment, the next two
continuations and the next last fragment, with no restart since, and only when their 128 bits verify
(`exposed_of_run`); the invariant says in each state which fragments the raw bits are. And the fragments of a link
control with an error in each of the seven rows give it back (`addData_fragments`): every row is a Hamming word.
-/

namespace DvmHost

open Lib Lib.Blocks

namespace Dmr

namespace EmbeddedData

/-! ## Positions -/

theorem columnPos_eq {a : Nat} (ha : a < 128) : columnPos a = 16 * (a % 8) + a / 8 := by
  induction a with
  | zero => rfl
  | succ a ih =>
      rw [columnPos, ih (by omega)]
      unfold nextPos
      split <;> omega

/-- The turn in which the column loops visit position `k`. -/
def turnOf (k : Nat) : Nat := 8 * (k % 16) + k / 16

theorem turnOf_lt {k : Nat} (hk : k < 128) : turnOf k < 128 := by
  unfold turnOf
  omega

theorem columnPos_turnOf {k : Nat} (hk : k < 128) : columnPos (turnOf k) = k := by
  rw [columnPos_eq (turnOf_lt hk)]
  unfold turnOf
  omega

theorem columnPos_inj {a b : Nat} (ha : a < 128) (hb : b < 128) (h : columnPos a = columnPos b) : a = b := by
  rw [columnPos_eq ha, columnPos_eq hb] at h
  omega

theorem unpackColumns_apply (raw : Bits) {k : Nat} (hk : k < 128) : unpackColumns raw k = raw (turnOf k) := by
  have h : unpackColumns raw (columnPos (turnOf k)) = raw (turnOf k) :=
    scatter_range (turnOf_lt hk) fun b hb h => columnPos_inj hb (turnOf_lt hk) h
  rwa [columnPos_turnOf hk] at h

theorem unpackColumns_congr {raw raw' : Bits} (h : ∀ a < 128, raw a = raw' a) :
    unpackColumns raw = unpackColumns raw' := by
  funext k
  by_cases hk : k < 128
  · rw [unpackColumns_apply raw hk, unpackColumns_apply raw' hk, h _ (turnOf_lt hk)]
  · have hout : ∀ a ∈ List.range 128, k ≠ columnPos a := by
      intro a ha hka
      have ha' := List.mem_range.mp ha
      rw [columnPos_eq ha'] at hka
      omega
    unfold unpackColumns
    rw [scatter_of_not_mem hout, scatter_of_not_mem hout]

theorem rows_disjoint : Disjoint 16 rowPos (List.range 7) := by
  intro r _ r' _ i hi i' hi' h
  unfold rowPos at h
  omega

theorem dataPositions_spec : ∀ b < 72, ∃ r < 7, ∃ i < 11, dataPositions.getD b 0 = rowPos r i := by decide

theorem dataPositions_inj {a b : Nat} (ha : a < 72) (hb : b < 72)
    (h : dataPositions.getD a 0 = dataPositions.getD b 0) : a = b := by
  have hnd : dataPositions.Nodup := by decide
  have hlen : dataPositions.length = 72 := by decide
  rw [← hlen] at ha hb
  rw [List.getD_eq_getElem _ _ ha, List.getD_eq_getElem _ _ hb] at h
  exact (hnd.getElem_inj_iff).mp h

/-- The payload is read from the matrix. -/
theorem payload_apply (d bits : Bits) {b : Nat} (hb : b < 72) : payload d bits b = d (dataPositions.getD b 0) := by
  have hid : ∀ b' < 72, id b' = id b → b' = b := fun _ _ h => h
  exact scatter_range hb hid

/-! ## The encoded matrix -/

/-- The payload and the checksum in their places. -/
def placed (data : Bits) : Bits :=
  let crc := CRC.encodeFiveBit data
  scatter (List.range 72) (fun b => dataPositions.getD b 0) data fun k =>
    if k = 106 then decide (crc &&& 0x01 = 0x01) else if k = 90 then decide (crc &&& 0x02 = 0x02)
    else if k = 74 then decide (crc &&& 0x04 = 0x04) else if k = 58 then decide (crc &&& 0x08 = 0x08)
    else if k = 42 then decide (crc &&& 0x10 = 0x10) else false

/-- The matrix with its rows coded. -/
def encodedRows (data : Bits) : Bits :=
    (List.range 7).foldl (fun d r => onBlock false 16 (rowPos r) Hamming.encode16114 d) (placed data)

theorem encodeMatrix_eq (data : Bits) : encodeMatrix data =
    scatter (List.range 16) (fun a => a + 112) (fun a => encodedRows data (a + 0) ^^ encodedRows data (a + 16) ^^
      encodedRows data (a + 32) ^^ encodedRows data (a + 48) ^^ encodedRows data (a + 64) ^^
      encodedRows data (a + 80) ^^ encodedRows data (a + 96)) (encodedRows data) := rfl

theorem encodeMatrix_of_lt (data : Bits) {k : Nat} (hk : k < 112) : encodeMatrix data k = encodedRows data k := by
  rw [encodeMatrix_eq]
  exact scatter_of_not_mem fun a _ => by omega

theorem encodeMatrix_parity (data : Bits) {a : Nat} (ha : a < 16) : columnParity (encodeMatrix data) a = false := by
  have hlast : encodeMatrix data (a + 112) = (encodedRows data (a + 0) ^^ encodedRows data (a + 16) ^^
      encodedRows data (a + 32) ^^ encodedRows data (a + 48) ^^ encodedRows data (a + 64) ^^
      encodedRows data (a + 80) ^^ encodedRows data (a + 96)) := by
    rw [encodeMatrix_eq]
    exact scatter_range ha fun b _ h => by omega
  unfold columnParity
  rw [hlast, encodeMatrix_of_lt data (by omega), encodeMatrix_of_lt data (by omega),
    encodeMatrix_of_lt data (by omega), encodeMatrix_of_lt data (by omega), encodeMatrix_of_lt data (by omega),
    encodeMatrix_of_lt data (by omega), encodeMatrix_of_lt data (by omega)]
  exact Bool.xor_self _

theorem encode16114_pad (g : Bits) (a : Nat) (ha : 16 ≤ a) (hg : g a = false) : Hamming.encode16114 g a = false := by
  unfold Hamming.encode16114
  rw [ParityCode.encode_above (by exact ha), hg]

theorem encodedRows_row (data : Bits) {r : Nat} (hr : r < 7) :
    gather false 16 (rowPos r) (encodedRows data) = Hamming.encode16114 (gather false 16 (rowPos r) (placed data)) :=
  gather_foldl_onBlock List.nodup_range rows_disjoint encode16114_pad (List.mem_range.mpr hr)

/-- **Every row but the last is a Hamming word.** -/
theorem row_codeword (data : Bits) {r : Nat} (hr : r < 7) :
    ParityCode.syndrome (gather false 16 (rowPos r) (encodeMatrix data)) 11 Hamming.checks16114 = 0 := by
  have hrow : gather false 16 (rowPos r) (encodeMatrix data) = gather false 16 (rowPos r) (encodedRows data) := by
    apply gather_congr
    intro i hi
    apply encodeMatrix_of_lt
    unfold rowPos
    omega
  rw [hrow, encodedRows_row data hr]
  exact ParityCode.syndrome_encode (by decide) _

/-- The first eleven bits of a row are as they were placed. -/
theorem encodeMatrix_placed (data : Bits) {r i : Nat} (hr : r < 7) (hi : i < 11) :
    encodeMatrix data (rowPos r i) = placed data (rowPos r i) := by
  have hrow := congrFun (encodedRows_row data hr) i
  unfold Hamming.encode16114 at hrow
  rw [ParityCode.encode_data hi, gather_of_lt (by omega), gather_of_lt (by omega)] at hrow
  rw [encodeMatrix_of_lt data (by unfold rowPos; omega), hrow]

theorem encodeMatrix_data (data : Bits) {b : Nat} (hb : b < 72) :
    encodeMatrix data (dataPositions.getD b 0) = data b := by
  obtain ⟨r, hr, i, hi, he⟩ := dataPositions_spec b hb
  rw [he, encodeMatrix_placed data hr hi, ← he]
  exact scatter_range hb fun b' hb' h => dataPositions_inj hb' hb h

/-- The checksum is in its places. -/
theorem storedCrc_encodeMatrix (data : Bits) : storedCrc (encodeMatrix data) = CRC.encodeFiveBit data := by
  have hfree : ∀ k ∈ [42, 58, 74, 90, 106], ∀ b ∈ List.range 72, k ≠ dataPositions.getD b 0 := by decide
  have hplaced : ∀ k ∈ [42, 58, 74, 90, 106], ∃ r < 7, ∃ i < 11, k = rowPos r i := by decide
  have hbit : ∀ k ∈ [42, 58, 74, 90, 106], encodeMatrix data k = placed data k := by
    intro k hk
    obtain ⟨r, hr, i, hi, he⟩ := hplaced k hk
    rw [he]
    exact encodeMatrix_placed data hr hi
  have hsum : ∀ c : Fin 32, (if decide (UInt32.ofNat c &&& 0x10 = 0x10) then 16 else 0) +
      (if decide (UInt32.ofNat c &&& 0x08 = 0x08) then 8 else 0) +
      (if decide (UInt32.ofNat c &&& 0x04 = 0x04) then 4 else 0) +
      (if decide (UInt32.ofNat c &&& 0x02 = 0x02) then 2 else 0) +
      (if decide (UInt32.ofNat c &&& 0x01 = 0x01) then 1 else 0) = UInt32.ofNat c := by decide
  have hcrc := hsum ⟨_, CRC.encodeFiveBit_lt data⟩
  dsimp only at hcrc
  rw [UInt32.ofNat_toNat] at hcrc
  unfold storedCrc
  rw [hbit 42 (by decide), hbit 58 (by decide), hbit 74 (by decide), hbit 90 (by decide), hbit 106 (by decide)]
  unfold placed
  rw [scatter_of_not_mem (hfree 42 (by decide)), scatter_of_not_mem (hfree 58 (by decide)),
    scatter_of_not_mem (hfree 74 (by decide)), scatter_of_not_mem (hfree 90 (by decide)),
    scatter_of_not_mem (hfree 106 (by decide))]
  exact hcrc

/-! ## Decoding -/

/-- One error in a row is corrected. -/
theorem decode16114_near {c d : Bits} {p : Nat} (hc : ParityCode.syndrome c 11 Hamming.checks16114 = 0) (hp : p < 16)
    (h : ∀ i, i ≠ p → d i = c i) : Hamming.decode16114 d = (true, c) := by
  unfold Hamming.decode16114
  rcases ParityCode.eq_or_flip h with rfl | rfl
  · rw [if_pos hc]
  · obtain ⟨hzero, hunit⟩ := Hamming.corrects16114
    have hsyn : ParityCode.syndrome (ParityCode.flip c p) 11 Hamming.checks16114 =
        ParityCode.syndrome (ParityCode.unit p) 11 Hamming.checks16114 := by
      rw [ParityCode.flip_eq_xor, ParityCode.syndrome_xor hc]
    have hlook := hunit p hp
    rw [if_neg]
    · unfold ParityCode.decode
      rw [hsyn, hlook]
      dsimp only
      rw [ParityCode.flip_flip]
    · rw [hsyn]
      intro heq
      rw [heq, hzero] at hlook
      exact Option.some_ne_none p hlook.symm

/-- The rows of `d` that `decodeRows` visits differ from those of the coded matrix in at most one bit each. -/
def NearRows (data d : Bits) : Prop :=
  ∀ r < 7, ∃ p < 16, ∀ i < 16, i ≠ p → d (rowPos r i) = encodeMatrix data (rowPos r i)

/-- The rows that were visited are those of the coded matrix, the others are as they were. -/
theorem decodeRows_turns {data d : Bits} (h : NearRows data d) {n : Nat} (hn : n ≤ 7) :
    ∃ d', (List.range n).foldlM decodeRow d = some d' ∧
      (∀ k < 16 * n, d' k = encodeMatrix data k) ∧ ∀ k, 16 * n ≤ k → d' k = d k := by
  induction n with
  | zero => exact ⟨d, rfl, fun k hk => absurd hk (by omega), fun _ _ => rfl⟩
  | succ n ih =>
      obtain ⟨d', hd', hdone, hrest⟩ := ih (by omega)
      obtain ⟨p, hp, hnear⟩ := h n (by omega)
      have hdec : Hamming.decode16114 (gather false 16 (rowPos n) d') =
          (true, gather false 16 (rowPos n) (encodeMatrix data)) := by
        refine decode16114_near (row_codeword data (by omega)) hp fun i hi => ?_
        rcases Nat.lt_or_ge i 16 with hlt | hge
        · rw [gather_of_lt hlt, gather_of_lt hlt, hrest _ (by unfold rowPos; omega)]
          exact hnear i hlt hi
        · rw [gather_of_ge hge, gather_of_ge hge]
      refine ⟨scatter (List.range 16) (rowPos n) (gather false 16 (rowPos n) (encodeMatrix data)) d', ?_, ?_, ?_⟩
      · have hturn : decodeRow d' n =
            some (scatter (List.range 16) (rowPos n) (gather false 16 (rowPos n) (encodeMatrix data)) d') := by
          unfold decodeRow
          rw [hdec]
          rfl
        rw [List.range_succ (n := n), List.foldlM_append, hd', Option.bind_eq_bind, Option.bind_some,
          List.foldlM_cons, hturn]
        rfl
      · intro k hk
        by_cases hlast : 16 * n ≤ k
        · have hpos : rowPos n (k - 16 * n) = k := by
            unfold rowPos
            omega
          have hrow : scatter (List.range 16) (rowPos n) (gather false 16 (rowPos n) (encodeMatrix data)) d'
              (rowPos n (k - 16 * n)) = gather false 16 (rowPos n) (encodeMatrix data) (k - 16 * n) := by
            refine scatter_range (by omega) fun b _ hb => ?_
            unfold rowPos at hb
            omega
          rw [gather_of_lt (by omega), hpos] at hrow
          exact hrow
        · rw [scatter_of_not_mem fun i _ => by unfold rowPos; omega]
          exact hdone k (by omega)
      · intro k hk
        rw [scatter_of_not_mem fun i hi => by
          have hi' := List.mem_range.mp hi
          unfold rowPos
          omega]
        exact hrest k (by omega)

/-- **Decoding near the coded matrix** gives the payload back. -/
theorem decodeEmbeddedData_near {data : Bits} {e : EmbeddedData} (h : NearRows data (unpackColumns e.raw))
    (hparity : ∀ k, 112 ≤ k → k < 128 → unpackColumns e.raw k = encodeMatrix data k) :
    (decodeEmbeddedData e).valid = true ∧ (decodeEmbeddedData e).FLCO = bitsToByteBE data 0 &&& 0x3F ∧
      ∀ b < 72, (decodeEmbeddedData e).data b = data b := by
  obtain ⟨d, hd, hdone, hrest⟩ := decodeRows_turns h (Nat.le_refl 7)
  have hall : ∀ k < 128, d k = encodeMatrix data k := by
    intro k hk
    rcases Nat.lt_or_ge k 112 with hlt | hge
    · exact hdone k hlt
    · rw [hrest k hge, hparity k hge hk]
  have hcols : (List.range 16).any (columnParity d) = false := by
    rw [List.any_eq_false]
    intro a ha
    have ha' := List.mem_range.mp ha
    have hpar := encodeMatrix_parity data ha'
    unfold columnParity at hpar ⊢
    rw [hall _ (by omega), hall _ (by omega), hall _ (by omega), hall _ (by omega), hall _ (by omega),
      hall _ (by omega), hall _ (by omega), hall _ (by omega), hpar]
    exact Bool.false_ne_true
  have hpayload : ∀ b < 72, payload d e.data b = data b := by
    intro b hb
    obtain ⟨r, hr, i, hi, he⟩ := dataPositions_spec b hb
    rw [payload_apply d _ hb, hall _ (by rw [he]; unfold rowPos; omega), encodeMatrix_data data hb]
  have hcrc : CRC.checkFiveBit (payload d e.data) (storedCrc d) = true := by
    have hstored : storedCrc d = storedCrc (encodeMatrix data) := by
      unfold storedCrc
      rw [hall 42 (by decide), hall 58 (by decide), hall 74 (by decide), hall 90 (by decide), hall 106 (by decide)]
    unfold CRC.checkFiveBit
    rw [hstored, storedCrc_encodeMatrix, CRC.encodeFiveBit_congr hpayload]
    exact decide_eq_true rfl
  have hflco : bitsToByteBE (payload d e.data) 0 = bitsToByteBE data 0 := by
    apply bitsToByteBE_eq
    intro j hj
    rw [bitOf_bitsToByteBE data _ hj]
    exact hpayload _ (by omega)
  have hdec : decodeEmbeddedData e =
      { e with data := payload d e.data, valid := true, FLCO := bitsToByteBE data 0 &&& 0x3F } := by
    unfold decodeEmbeddedData decodeRows
    rw [hd]
    dsimp only
    rw [hcols, hcrc, hflco]
    rfl
  rw [hdec]
  exact ⟨rfl, rfl, hpayload⟩

/-! ## Fragments -/

theorem rawData_apply (data : Bytes) {a : Nat} (ha : a < 32) : rawData data (a + 4) = readBit data (116 + a) := by
  have hdiv : (116 + a) / 8 = 14 + (a + 4) / 8 := by omega
  have hmod : (116 + a) % 8 = (a + 4) % 8 := by omega
  unfold rawData
  rw [unpackBytes_apply, if_pos (by omega), readBit_eq, hdiv, hmod, Nat.sub_zero]

theorem store_apply (e : EmbeddedData) (data : Bytes) (off k : Nat) :
    e.store data off k = if off ≤ k ∧ k < off + 32 then readBit data (116 + (k - off)) else e.raw k := by
  unfold store
  split
  next hin =>
    have hpos : k - off + off = k := by omega
    have h : scatter (List.range 32) (fun a => a + off) (fun a => rawData data (a + 4)) e.raw (k - off + off) =
        rawData data (k - off + 4) := scatter_range (by omega) fun b _ hb => by omega
    rw [hpos] at h
    rw [h, rawData_apply data (by omega)]
  next hout =>
    refine scatter_of_not_mem fun a ha => ?_
    have ha' := List.mem_range.mp ha
    omega

/-- The 32 bits of a fragment. -/
theorem readBit_getData (e : EmbeddedData) (data : Bytes) {n : UInt8} (hn : 1 ≤ n ∧ n < 5) {i : Nat} (hi : i < 32) :
    readBit (e.getData data n).2 (116 + i) = e.raw ((n - 1).toNat * 32 + i) := by
  generalize hbits : (scatter (List.range 32) (fun a => 4 + a) (fun a => e.raw ((n - 1).toNat * 32 + a))
    fun _ => false : Bits) = bits
  have hbit : ∀ a < 32, bits (4 + a) = e.raw ((n - 1).toNat * 32 + a) := by
    intro a ha
    rw [← hbits]
    exact scatter_range ha fun b _ h => by omega
  have hmod : (116 + i) % 8 < 8 := Nat.mod_lt _ (by decide)
  have hoctet : (116 + i) / 8 = 14 ∨ (116 + i) / 8 = 15 ∨ (116 + i) / 8 = 16 ∨ (116 + i) / 8 = 17 ∨
      (116 + i) / 8 = 18 := by omega
  obtain ⟨hmF0, hm0F⟩ := bitOf_nibbles hmod
  have hpos : 8 * ((116 + i) / 8 - 14) + (116 + i) % 8 = 4 + i := by omega
  rw [← hbit i hi, ← hpos, readBit_eq]
  unfold getData
  rw [if_pos hn]
  dsimp only
  rw [hbits]
  rcases hoctet with h | h | h | h | h
  · rw [h]
    simp (disch := omega) only [setByte_of_ne, setByte_of_eq]
    rw [bitOf_or, bitOf_and, bitOf_and, bitOf_bitsToByteBE _ _ hmod, hmF0, hm0F, decide_eq_false (by omega),
      decide_eq_true (by omega), Bool.and_false, Bool.false_or, Bool.and_true]
  · rw [h]
    simp (disch := omega) only [setByte_of_ne, setByte_of_eq]
    rw [bitOf_bitsToByteBE _ _ hmod]
  · rw [h]
    simp (disch := omega) only [setByte_of_ne, setByte_of_eq]
    rw [bitOf_bitsToByteBE _ _ hmod]
  · rw [h]
    simp (disch := omega) only [setByte_of_ne, setByte_of_eq]
    rw [bitOf_bitsToByteBE _ _ hmod]
  · rw [h]
    simp (disch := omega) only [setByte_of_ne, setByte_of_eq]
    rw [bitOf_or, bitOf_and, bitOf_and, bitOf_bitsToByteBE _ _ hmod, hmF0, hm0F, decide_eq_false (by omega),
      decide_eq_true (by omega), Bool.and_false, Bool.false_or, Bool.and_true]

/-- Fragments show the first 128 raw bits only. -/
theorem getData_congr {e e' : EmbeddedData} (h : ∀ a < 128, e.raw a = e'.raw a) (data : Bytes) (n : UInt8) :
    e.getData data n = e'.getData data n := by
  by_cases hn : 1 ≤ n ∧ n < 5
  · have hlt : (n - 1).toNat < 4 := by
      have hall : ∀ v : BitVec 8, 1 ≤ UInt8.ofBitVec v ∧ UInt8.ofBitVec v < 5 → (UInt8.ofBitVec v - 1).toNat < 4 := by
        decide +kernel
      exact hall n.toBitVec hn
    have hbits : (scatter (List.range 32) (fun a => 4 + a) (fun a => e.raw ((n - 1).toNat * 32 + a))
        fun _ => false : Bits) =
        scatter (List.range 32) (fun a => 4 + a) (fun a => e'.raw ((n - 1).toNat * 32 + a)) fun _ => false := by
      refine scatter_congr (fun a ha => h _ ?_) _
      have ha' := List.mem_range.mp ha
      omega
    unfold getData
    rw [if_pos hn, if_pos hn]
    dsimp only
    rw [hbits]
  · unfold getData
    rw [if_neg hn, if_neg hn]

/-- Matrix position `k` as four bursts carry it, burst `n` for fragment `n`. -/
def received (b : UInt8 → Bytes) (k : Nat) : Bool :=
    readBit (b (UInt8.ofNat (turnOf k / 32 + 1))) (116 + turnOf k % 32)

/-- The raw bits are those of the first `n` bursts. -/
def Stored (e : EmbeddedData) (b : UInt8 → Bytes) (n : Nat) : Prop :=
    ∀ a < 32 * n, e.raw a = readBit (b (UInt8.ofNat (a / 32 + 1))) (116 + a % 32)

/-- One more burst is stored behind those before. -/
theorem Stored.store {e e' : EmbeddedData} {b : UInt8 → Bytes} {n off : Nat} {m : UInt8} (h : Stored e b n)
    (hoff : off = 32 * n) (hm : m = UInt8.ofNat (n + 1)) (he : e'.raw = e.store (b m) off) : Stored e' b (n + 1) := by
  intro a ha
  subst hoff hm
  rw [he, store_apply]
  split
  next hin =>
    have hdiv : a / 32 = n := by omega
    have hmod : a % 32 = a - 32 * n := by omega
    rw [hdiv, hmod]
  next hout => exact h a (by omega)

theorem Stored.unpackColumns {e : EmbeddedData} {b : UInt8 → Bytes} (h : Stored e b 4) {k : Nat} (hk : k < 128) :
    unpackColumns e.raw k = received b k := by
  rw [unpackColumns_apply _ hk, h _ (turnOf_lt hk)]
  rfl

/-- Only the raw bits are written when coding. -/
theorem encodeEmbeddedData_frame (e : EmbeddedData) :
    (encodeEmbeddedData e).valid = e.valid ∧ (encodeEmbeddedData e).state = e.state ∧
      (encodeEmbeddedData e).data = e.data := by
  unfold encodeEmbeddedData
  exact ⟨rfl, rfl, rfl⟩

/-- The raw bits that `encodeEmbeddedData` writes. -/
theorem raw_encodeEmbeddedData (e : EmbeddedData) {a : Nat} (ha : a < 128) :
    (encodeEmbeddedData e).raw a = encodeMatrix e.data (columnPos a) := by
  have h : scatter (List.range 128) id (fun a => encodeMatrix e.data (columnPos a)) e.raw (id a) =
      encodeMatrix e.data (columnPos a) := scatter_range ha fun _ _ h => h
  unfold encodeEmbeddedData
  dsimp only
  exact h

theorem placed_congr {data data' : Bits} (h : ∀ b < 72, data b = data' b) : placed data = placed data' := by
  unfold placed
  rw [CRC.encodeFiveBit_congr h]
  exact scatter_congr (fun b hb => h b (List.mem_range.mp hb)) _

theorem encodeMatrix_congr {data data' : Bits} (h : ∀ b < 72, data b = data' b) :
    encodeMatrix data = encodeMatrix data' := by
  rw [encodeMatrix_eq, encodeMatrix_eq]
  unfold encodedRows
  rw [placed_congr h]

/-- The fragments of `e`, in bursts with the other octets of `f`. -/
def fragments (e : EmbeddedData) (f : UInt8 → Bytes) (n : UInt8) : Bytes := (e.getData (f n) n).2

/-- The four fragments of `tx`, the octets of `f` around them, changed on the way to `b` and fed to `rx`. -/
def feed (tx rx : EmbeddedData) (f b : UInt8 → Bytes) : EmbeddedData :=
  let rx := (rx.addData (b 1) (tx.getData (f 1) 1).1).2
  let rx := (rx.addData (b 2) (tx.getData (f 2) 2).1).2
  let rx := (rx.addData (b 3) (tx.getData (f 3) 3).1).2
  (rx.addData (b 4) (tx.getData (f 4) 4).1).2

theorem addData_first (e : EmbeddedData) (data : Bytes) :
    (e.addData data 1).2 = { e with raw := e.store data 0, state := .first, valid := false } := by
  unfold addData
  rw [if_pos rfl]

theorem addData_second {e : EmbeddedData} (h : e.state = .first) (data : Bytes) :
    (e.addData data 3).2 = { e with raw := e.store data 32, state := .second } := by
  unfold addData
  rw [if_neg (by decide), if_pos ⟨rfl, h⟩]

theorem addData_third {e : EmbeddedData} (h : e.state = .second) (data : Bytes) :
    (e.addData data 3).2 = { e with raw := e.store data 64, state := .third } := by
  unfold addData
  rw [if_neg (by decide), if_neg (by rw [h]; decide), if_pos ⟨rfl, h⟩]

theorem addData_last {e : EmbeddedData} (h : e.state = .third) (data : Bytes) :
    (e.addData data 2).2 = finish { e with raw := e.store data 96, state := .none } := by
  unfold addData
  rw [if_neg (by decide), if_neg fun hc => absurd hc.1 (by decide), if_neg fun hc => absurd hc.1 (by decide),
    if_pos ⟨rfl, h⟩]

/-- A fragment out of order changes nothing. -/
theorem addData_ignored {e : EmbeddedData} (data : Bytes) {lcss : UInt8} (h1 : lcss ≠ 1)
    (h3 : lcss = 3 → e.state ≠ .first ∧ e.state ≠ .second) (h2 : lcss = 2 → e.state ≠ .third) :
    (e.addData data lcss).2 = e := by
  unfold addData
  rw [if_neg h1, if_neg fun h => (h3 h.1).1 h.2, if_neg fun h => (h3 h.1).2 h.2, if_neg fun h => h2 h.1 h.2]

/-- Four fragments in order are stored, checked, and coded again when they are valid. -/
theorem feed_eq (tx rx : EmbeddedData) (f b : UInt8 → Bytes) :
    ∃ e, Stored e b 4 ∧ feed tx rx f b = finish e := by
  let e1 : EmbeddedData := { rx with raw := rx.store (b 1) 0, state := .first, valid := false }
  let e2 : EmbeddedData := { e1 with raw := e1.store (b 2) 32, state := .second }
  let e3 : EmbeddedData := { e2 with raw := e2.store (b 3) 64, state := .third }
  let e4 : EmbeddedData := { e3 with raw := e3.store (b 4) 96, state := .none }
  have h0 : Stored rx b 0 := fun a ha => absurd ha (by omega)
  have h1 : Stored e1 b 1 := h0.store rfl rfl rfl
  have h2 : Stored e2 b 2 := h1.store rfl rfl rfl
  have h3 : Stored e3 b 3 := h2.store rfl rfl rfl
  have h4 : Stored e4 b 4 := h3.store rfl rfl rfl
  have hlcss : (tx.getData (f 1) 1).1 = 1 ∧ (tx.getData (f 2) 2).1 = 3 ∧ (tx.getData (f 3) 3).1 = 3 ∧
      (tx.getData (f 4) 4).1 = 2 := by
    unfold getData
    rw [if_pos (by decide), if_pos (by decide), if_pos (by decide), if_pos (by decide)]
    exact ⟨rfl, rfl, rfl, rfl⟩
  have s1 : (rx.addData (b 1) 1).2 = e1 := addData_first rx (b 1)
  have s2 : (e1.addData (b 2) 3).2 = e2 := addData_second rfl (b 2)
  have s3 : (e2.addData (b 3) 3).2 = e3 := addData_third rfl (b 3)
  have s4 : (e3.addData (b 4) 2).2 = finish e4 := addData_last rfl (b 4)
  refine ⟨e4, h4, ?_⟩
  unfold feed
  dsimp only
  rw [hlcss.1, hlcss.2.1, hlcss.2.2.1, hlcss.2.2.2, s1, s2, s3, s4]

/-- The number of bits of row `r` in which two sets of bursts differ. -/
def rowErrors (sent b : UInt8 → Bytes) (r : Nat) : Nat :=
    ((List.range 16).filter fun i => received b (rowPos r i) ^^ received sent (rowPos r i)).length

theorem nearRow_of_rowErrors {sent b : UInt8 → Bytes} {r : Nat} (h : rowErrors sent b r ≤ 1) :
    ∃ p < 16, ∀ i < 16, i ≠ p → received b (rowPos r i) = received sent (rowPos r i) := by
  unfold rowErrors at h
  generalize hwrong : ((List.range 16).filter fun i =>
    received b (rowPos r i) ^^ received sent (rowPos r i)) = wrong at h
  have hmem : ∀ i < 16, received b (rowPos r i) ≠ received sent (rowPos r i) → i ∈ wrong := by
    intro i hi hne
    rw [← hwrong, List.mem_filter, List.mem_range]
    exact ⟨hi, bne_iff_ne.mpr hne⟩
  have hlt : ∀ i ∈ wrong, i < 16 := by
    intro i hi
    rw [← hwrong, List.mem_filter, List.mem_range] at hi
    exact hi.1
  match wrong, h with
  | [], _ =>
      refine ⟨0, by decide, fun i hi _ => ?_⟩
      by_contra hne
      exact List.not_mem_nil (hmem i hi hne)
  | [p], _ =>
      refine ⟨p, hlt p List.mem_cons_self, fun i hi hip => ?_⟩
      by_contra hne
      exact hip (List.mem_singleton.mp (hmem i hi hne))

/-- The bits that the fragments of an encoded object carry. -/
theorem received_getData (e : EmbeddedData) (f : UInt8 → Bytes) {k : Nat} (hk : k < 128) :
    received (fragments (encodeEmbeddedData e) f) k = encodeMatrix e.data k := by
  have hlt := turnOf_lt hk
  have hn : ∀ m : Fin 4, (1 ≤ UInt8.ofNat (m + 1) ∧ UInt8.ofNat (m + 1) < 5) ∧
      (UInt8.ofNat (m + 1) - 1).toNat = m.val := by decide
  obtain ⟨hrange, hpred⟩ := hn ⟨turnOf k / 32, by omega⟩
  dsimp only at hrange hpred
  have hpos : turnOf k / 32 * 32 + turnOf k % 32 = turnOf k := by omega
  unfold received fragments
  rw [readBit_getData _ _ hrange (by omega), hpred, hpos, raw_encodeEmbeddedData e hlt, columnPos_turnOf hk]

/-- What a valid object shows. -/
theorem getLC_encodeEmbeddedData {e : EmbeddedData} (h : e.valid = true) : (encodeEmbeddedData e).getLC =
    if e.FLCO ≠ FLCO_GROUP ∧ e.FLCO ≠ FLCO_PRIVATE then none else some (LC.ofBits e.data) := by
  unfold getLC encodeEmbeddedData
  dsimp only
  rw [h]
  rfl

/-- **An error in each of the seven rows is undone.** The fragments of a link control that fits, changed in at most
    one bit of each coded row and in no column parity, are valid; the link control shows when its opcode is one of
    the two for voice, and the fragments sent on are those without the errors. -/
theorem addData_fragments {lc : LC} (hfits : lc.Fits) (tx rx : EmbeddedData) (f b : UInt8 → Bytes)
    (hrows : ∀ r < 7, rowErrors (fragments (tx.setLC lc) f) b r ≤ 1)
    (hparity : rowErrors (fragments (tx.setLC lc) f) b 7 = 0) :
    (feed (tx.setLC lc) rx f b).valid = true ∧
      (feed (tx.setLC lc) rx f b).getLC =
        (if lc.FLCO = FLCO_GROUP ∨ lc.FLCO = FLCO_PRIVATE then some lc else none) ∧
      ∀ data n, (feed (tx.setLC lc) rx f b).getData data n = (tx.setLC lc).getData data n := by
  obtain ⟨e, hstored, hfeed⟩ := feed_eq (tx.setLC lc) rx f b
  have hsent : ∀ k < 128, received (fragments (tx.setLC lc) f) k =
      encodeMatrix (lc.getBits tx.data) k := fun k hk => received_getData _ f hk
  have hset : ∀ a < 128, (tx.setLC lc).raw a = encodeMatrix (lc.getBits tx.data) (columnPos a) :=
    fun a ha => raw_encodeEmbeddedData _ ha
  have hgetBits : ∀ k < 72, lc.getBits tx.data k = lc.getBits (fun _ => false) k := fun k hk => by
    rw [LC.getBits_apply _ _ hk, LC.getBits_apply _ _ hk]
  generalize lc.getBits tx.data = bits at hsent hset hgetBits
  have hnear : NearRows bits (unpackColumns e.raw) := by
    intro r hr
    obtain ⟨p, hp, hpr⟩ := nearRow_of_rowErrors (hrows r hr)
    refine ⟨p, hp, fun i hi hne => ?_⟩
    have hlt : rowPos r i < 128 := by
      unfold rowPos
      omega
    rw [hstored.unpackColumns hlt, hpr i hi hne, hsent _ hlt]
  have hlast : ∀ k, 112 ≤ k → k < 128 → unpackColumns e.raw k = encodeMatrix bits k := by
    intro k hk hk'
    have hpos : rowPos 7 (k - 112) = k := by
      unfold rowPos
      omega
    rw [hstored.unpackColumns hk', ← hsent k hk']
    by_contra hne
    have hmem : k - 112 ∈ (List.range 16).filter fun i => received b (rowPos 7 i) ^^
        received (fragments (tx.setLC lc) f) (rowPos 7 i) := by
      rw [List.mem_filter, List.mem_range, hpos]
      exact ⟨by omega, bne_iff_ne.mpr hne⟩
    rw [List.length_eq_zero_iff.mp hparity] at hmem
    exact List.not_mem_nil hmem
  obtain ⟨hvalid, hflco, hdata⟩ := decodeEmbeddedData_near hnear hlast
  unfold finish at hfeed
  rw [if_pos hvalid] at hfeed
  -- the payload is the 72 bits of the link control
  have hbits : ∀ k < 72, (decodeEmbeddedData e).data k = lc.getBits (fun _ => false) k := by
    intro k hk
    rw [hdata k hk, hgetBits k hk]
  have hopcode : bitsToByteBE bits 0 &&& 0x3F = lc.FLCO := by
    have hoctet := LC.bitsToByteBE_getBits hgetBits (i := 0) (by decide)
    rw [Nat.mul_zero, lc.getData_octets.1] at hoctet
    rw [hoctet, (LC.opcodeOctet_fields hfits.FLCO).2.2]
  rw [hfeed]
  refine ⟨(encodeEmbeddedData_frame _).1.trans hvalid, ?_, ?_⟩
  · rw [getLC_encodeEmbeddedData hvalid, hflco, hopcode, LC.ofBits_getBits hfits hbits]
    by_cases hvoice : lc.FLCO = FLCO_GROUP ∨ lc.FLCO = FLCO_PRIVATE
    · rw [if_pos hvoice, if_neg]
      rintro ⟨hgroup, hprivate⟩
      exact hvoice.elim hgroup hprivate
    · rw [if_neg hvoice, if_pos (not_or.mp hvoice)]
  · intro data n
    refine getData_congr (fun a ha => ?_) data n
    rw [raw_encodeEmbeddedData _ ha, hset a ha, encodeMatrix_congr hdata]

/-! ## Histories -/

/-- The calls that change what has been collected. -/
inductive Call where
  | addData (data : Bytes) (lcss : UInt8)
  | reset

/-- A call on the object. -/
def exec (e : EmbeddedData) : Call → EmbeddedData
  | .addData data lcss => (e.addData data lcss).2
  | .reset => e.reset

/-- The call begins a new sequence or throws the collected one away. -/
def Restarts : Call → Prop
  | .addData _ lcss => lcss = 1
  | .reset => True

/-- The call is a fragment with the given link control start/stop bits. -/
def HasLcss (lcss : UInt8) : Call → Prop
  | .addData _ lcss' => lcss' = lcss
  | .reset => False

/-- The call `c` came after a history with `P`, and since then only calls with `Q`. -/
def After (P : List Call → Prop) (c : Call) (Q : Call → Prop) (calls : List Call) : Prop :=
    ∃ before since, calls = before ++ c :: since ∧ P before ∧ ∀ x ∈ since, Q x

theorem After.last {P : List Call → Prop} {Q : Call → Prop} {calls : List Call} (h : P calls) (c : Call) :
    After P c Q (calls ++ [c]) := ⟨calls, [], rfl, h, fun _ hx => absurd hx List.not_mem_nil⟩

theorem After.more {P : List Call → Prop} {c : Call} {Q : Call → Prop} {calls : List Call} (h : After P c Q calls)
    {x : Call} (hx : Q x) : After P c Q (calls ++ [x]) := by
  obtain ⟨before, since, rfl, hP, hQ⟩ := h
  refine ⟨before, since ++ [x], by rw [List.append_assoc, List.cons_append], hP, fun y hy => ?_⟩
  rcases List.mem_append.mp hy with hold | hnew
  · exact hQ y hold
  · rw [List.mem_singleton.mp hnew]
    exact hx

/-- A first fragment, and since then neither a restart nor a continuation. -/
def HasFirst (b : UInt8 → Bytes) : List Call → Prop :=
    After (fun _ => True) (.addData (b 1) 1) fun c => ¬ Restarts c ∧ ¬ HasLcss 3 c

/-- The next continuation as well. -/
def HasSecond (b : UInt8 → Bytes) : List Call → Prop :=
    After (HasFirst b) (.addData (b 2) 3) fun c => ¬ Restarts c ∧ ¬ HasLcss 3 c

/-- The next continuation again, and no last fragment yet. -/
def HasThird (b : UInt8 → Bytes) : List Call → Prop :=
    After (HasSecond b) (.addData (b 3) 3) fun c => ¬ Restarts c ∧ ¬ HasLcss 2 c

/-- The next last fragment as well, and since then no restart. -/
def Assembled (b : UInt8 → Bytes) : List Call → Prop :=
    After (HasThird b) (.addData (b 4) 2) fun c => ¬ Restarts c

/-- The matrix of four bursts verifies, `d` being what the rows are corrected to: the columns have even parity and
    the checksum is that of the payload. -/
def Verifies (b : UInt8 → Bytes) (d : Bits) : Prop :=
  decodeRows (unpackColumns fun a => readBit (b (UInt8.ofNat (a / 32 + 1))) (116 + a % 32)) = some d ∧
    (∀ a < 16, columnParity d a = false) ∧
    CRC.checkFiveBit (payload d fun _ => false) (storedCrc d) = true

/-- What a valid object shows was assembled and verified. -/
def Exposed (calls : List Call) (e : EmbeddedData) : Prop :=
  ∃ b d, Assembled b calls ∧ Verifies b d ∧ ∀ k < 72, e.data k = payload d (fun _ => false) k

/-- What holds after a history, in each state of the collection. -/
def Inv (calls : List Call) (e : EmbeddedData) : Prop :=
  match e.state with
  | .none => e.valid = true → Exposed calls e
  | .first => e.valid = false ∧ ∃ b, HasFirst b calls ∧ Stored e b 1
  | .second => e.valid = false ∧ ∃ b, HasSecond b calls ∧ Stored e b 2
  | .third => e.valid = false ∧ ∃ b, HasThird b calls ∧ Stored e b 3

theorem decodeEmbeddedData_state (e : EmbeddedData) : (decodeEmbeddedData e).state = e.state := by
  unfold decodeEmbeddedData
  cases decodeRows (unpackColumns e.raw) with
  | none => rfl
  | some d =>
      dsimp only
      split
      · rfl
      · split <;> rfl

theorem finish_state (e : EmbeddedData) : (finish e).state = e.state := by
  unfold finish
  dsimp only
  split
  · rw [(encodeEmbeddedData_frame _).2.1, decodeEmbeddedData_state]
  · exact decodeEmbeddedData_state e

/-- **What decoding accepts verifies.** -/
theorem verifies_of_finish {e : EmbeddedData} {b : UInt8 → Bytes} (h : Stored e b 4) (hv : e.valid = false)
    (hvalid : (finish e).valid = true) :
    ∃ d, Verifies b d ∧ ∀ k < 72, (finish e).data k = payload d (fun _ => false) k := by
  have hmatrix : unpackColumns e.raw = unpackColumns fun a => readBit (b (UInt8.ofNat (a / 32 + 1))) (116 + a % 32) :=
    unpackColumns_congr h
  have hdecoded : (decodeEmbeddedData e).valid = true := by
    unfold finish at hvalid
    dsimp only at hvalid
    split at hvalid
    next hc => exact hc
    next => exact hvalid
  have hdata : (finish e).data = (decodeEmbeddedData e).data := by
    unfold finish
    rw [if_pos hdecoded]
    exact (encodeEmbeddedData_frame _).2.2
  rw [hdata]
  unfold decodeEmbeddedData at hdecoded ⊢
  cases hrows : decodeRows (unpackColumns e.raw) with
  | none =>
      rw [hrows] at hdecoded
      exact absurd (hv.symm.trans hdecoded) Bool.false_ne_true
  | some d =>
      rw [hrows] at hdecoded
      dsimp only at hdecoded ⊢
      split at hdecoded
      next => exact absurd (hv.symm.trans hdecoded) Bool.false_ne_true
      next hcols =>
        split at hdecoded
        next => exact absurd (hv.symm.trans hdecoded) Bool.false_ne_true
        next hcrc =>
          have hpayload : ∀ k < 72, payload d e.data k = payload d (fun _ => false) k := by
            intro k hk
            rw [payload_apply d _ hk, payload_apply d _ hk]
          refine ⟨d, ⟨by rw [← hmatrix, hrows], fun a ha => ?_, ?_⟩, ?_⟩
          · rw [Bool.not_eq_true, List.any_eq_false] at hcols
            exact Bool.not_eq_true _ ▸ hcols a (List.mem_range.mpr ha)
          · rw [Bool.not_eq_true', Bool.not_eq_false] at hcrc
            unfold CRC.checkFiveBit at hcrc ⊢
            rwa [CRC.encodeFiveBit_congr hpayload] at hcrc
          · rw [if_neg hcols, if_neg hcrc]
            exact hpayload

/-- The bursts that were stored do not depend on the next. -/
theorem Stored.update {e : EmbeddedData} {b : UInt8 → Bytes} {n : Nat} (hn : n < 4) (h : Stored e b n) (data : Bytes) :
    Stored e (Function.update b (UInt8.ofNat (n + 1)) data) n := by
  intro a ha
  have hne : UInt8.ofNat (a / 32 + 1) ≠ UInt8.ofNat (n + 1) := by
    intro heq
    have hnat := congrArg UInt8.toNat heq
    rw [UInt8.toNat_ofNat', UInt8.toNat_ofNat'] at hnat
    omega
  rw [Function.update_of_ne hne]
  exact h a ha

section Step

variable {b : UInt8 → Bytes} {calls : List Call}

theorem HasFirst.congr (h : HasFirst b calls) (b' : UInt8 → Bytes) (h1 : b' 1 = b 1) : HasFirst b' calls := by
  unfold HasFirst at h ⊢
  rwa [h1]

theorem HasSecond.congr (h : HasSecond b calls) (b' : UInt8 → Bytes) (h1 : b' 1 = b 1) (h2 : b' 2 = b 2) :
    HasSecond b' calls := by
  have hfirst : HasFirst b' = HasFirst b := by
    unfold HasFirst
    rw [h1]
  unfold HasSecond at h ⊢
  rwa [hfirst, h2]

theorem HasThird.congr (h : HasThird b calls) (b' : UInt8 → Bytes) (h1 : b' 1 = b 1) (h2 : b' 2 = b 2)
    (h3 : b' 3 = b 3) : HasThird b' calls := by
  have hsecond : HasSecond b' = HasSecond b := by
    unfold HasSecond HasFirst
    rw [h1, h2]
  unfold HasThird at h ⊢
  rwa [hsecond, h3]

variable {e : EmbeddedData} (h : Inv calls e) (data : Bytes) {lcss : UInt8} (h1 : lcss ≠ 1)

include h h1

/-- A fragment when nothing is being collected. -/
theorem Inv.step_none (hs : e.state = .none) : Inv (calls ++ [.addData data lcss]) (e.addData data lcss).2 := by
  unfold Inv at h
  rw [hs] at h
  rw [addData_ignored data h1 (fun _ => by rw [hs]; decide) (fun _ => by rw [hs]; decide)]
  unfold Inv
  rw [hs]
  intro hv
  obtain ⟨b, d, hassembled, hver, hdata⟩ := h hv
  exact ⟨b, d, hassembled.more h1, hver, hdata⟩

/-- A fragment after the first. -/
theorem Inv.step_first (hs : e.state = .first) : Inv (calls ++ [.addData data lcss]) (e.addData data lcss).2 := by
  unfold Inv at h
  rw [hs] at h
  obtain ⟨hv, b, hfirst, hstored⟩ := h
  by_cases h3 : lcss = 3
  · subst h3
    rw [addData_second hs]
    have hown : Function.update b 2 data 2 = data := Function.update_self 2 data b
    refine ⟨hv, Function.update b 2 data, ?_, ?_⟩
    · have hold := hfirst.congr (Function.update b 2 data) (Function.update_of_ne (by decide) data b)
      have hlast := After.last (Q := fun c => ¬ Restarts c ∧ ¬ HasLcss 3 c) hold
        (.addData (Function.update b 2 data 2) 3)
      rwa [hown] at hlast
    · exact (hstored.update (by decide) data).store (m := 2) rfl rfl (by rw [hown])
  · rw [addData_ignored data h1 (fun hc => absurd hc h3) (fun _ => by rw [hs]; decide)]
    unfold Inv
    rw [hs]
    exact ⟨hv, b, hfirst.more ⟨h1, h3⟩, hstored⟩

/-- A fragment after the second. -/
theorem Inv.step_second (hs : e.state = .second) : Inv (calls ++ [.addData data lcss]) (e.addData data lcss).2 := by
  unfold Inv at h
  rw [hs] at h
  obtain ⟨hv, b, hsecond, hstored⟩ := h
  by_cases h3 : lcss = 3
  · subst h3
    rw [addData_third hs]
    have hown : Function.update b 3 data 3 = data := Function.update_self 3 data b
    refine ⟨hv, Function.update b 3 data, ?_, ?_⟩
    · have hold := hsecond.congr (Function.update b 3 data) (Function.update_of_ne (by decide) data b)
        (Function.update_of_ne (by decide) data b)
      have hlast := After.last (Q := fun c => ¬ Restarts c ∧ ¬ HasLcss 2 c) hold
        (.addData (Function.update b 3 data 3) 3)
      rwa [hown] at hlast
    · exact (hstored.update (by decide) data).store (m := 3) rfl rfl (by rw [hown])
  · rw [addData_ignored data h1 (fun hc => absurd hc h3) (fun _ => by rw [hs]; decide)]
    unfold Inv
    rw [hs]
    exact ⟨hv, b, hsecond.more ⟨h1, h3⟩, hstored⟩

/-- A fragment after the third: the last one makes the object valid only when the matrix verifies. -/
theorem Inv.step_third (hs : e.state = .third) : Inv (calls ++ [.addData data lcss]) (e.addData data lcss).2 := by
  unfold Inv at h
  rw [hs] at h
  obtain ⟨hv, b, hthird, hstored⟩ := h
  by_cases h2 : lcss = 2
  · subst h2
    rw [addData_last hs]
    have hown : Function.update b 4 data 4 = data := Function.update_self 4 data b
    unfold Inv
    rw [finish_state]
    intro hvalid
    have hfour : Stored { e with raw := e.store data 96, state := .none } (Function.update b 4 data) 4 :=
      (hstored.update (by decide) data).store (m := 4) rfl rfl (by rw [hown])
    obtain ⟨d, hver, hdata⟩ := verifies_of_finish hfour hv hvalid
    refine ⟨Function.update b 4 data, d, ?_, hver, hdata⟩
    have hold := hthird.congr (Function.update b 4 data) (Function.update_of_ne (by decide) data b)
      (Function.update_of_ne (by decide) data b) (Function.update_of_ne (by decide) data b)
    have hlast := After.last (Q := fun c => ¬ Restarts c) hold (.addData (Function.update b 4 data 4) 2)
    rwa [hown] at hlast
  · rw [addData_ignored data h1 (fun _ => by rw [hs]; decide) (fun hc => absurd hc h2)]
    unfold Inv
    rw [hs]
    exact ⟨hv, b, hthird.more ⟨h1, h2⟩, hstored⟩

end Step

/-- **A step of the history.** -/
theorem Inv.step {calls : List Call} {e : EmbeddedData} (h : Inv calls e) (c : Call) :
    Inv (calls ++ [c]) (exec e c) := by
  cases c with
  | reset => exact fun hv => absurd hv Bool.false_ne_true
  | addData data lcss =>
      have hexec : exec e (.addData data lcss) = (e.addData data lcss).2 := rfl
      rw [hexec]
      by_cases h1 : lcss = 1
      · subst h1
        rw [addData_first]
        have h0 : Stored e (fun _ => data) 0 := fun a ha => absurd ha (by omega)
        exact ⟨rfl, fun _ => data, After.last trivial _, h0.store (m := 1) rfl rfl rfl⟩
      · cases hs : e.state with
        | none => exact h.step_none data h1 hs
        | first => exact h.step_first data h1 hs
        | second => exact h.step_second data h1 hs
        | third => exact h.step_third data h1 hs

/-- **A history.** -/
theorem Inv.run (data raw : Bits) (calls : List Call) : Inv calls (calls.foldl exec (new data raw)) := by
  induction calls using List.reverseRecOn with
  | nil => exact fun hv => absurd hv Bool.false_ne_true
  | append_singleton calls c ih =>
      rw [List.foldl_append, List.foldl_cons, List.foldl_nil]
      exact ih.step c

theorem Inv.exposed {calls : List Call} {e : EmbeddedData} (h : Inv calls e) (hv : e.valid = true) :
    Exposed calls e := by
  unfold Inv at h
  cases hs : e.state with
  | none =>
      rw [hs] at h
      exact h hv
  | first =>
      rw [hs] at h
      exact absurd (h.1.symm.trans hv) Bool.false_ne_true
  | second =>
      rw [hs] at h
      exact absurd (h.1.symm.trans hv) Bool.false_ne_true
  | third =>
      rw [hs] at h
      exact absurd (h.1.symm.trans hv) Bool.false_ne_true

/-- A link control that shows is that of a valid object. -/
theorem valid_of_getLC {e : EmbeddedData} {lc : LC} (h : e.getLC = some lc) :
    e.valid = true ∧ lc = LC.ofBits e.data := by
  unfold getLC at h
  split at h
  next => cases h
  next hv =>
    split at h
    next => cases h
    next =>
      rw [Bool.not_eq_true', Bool.not_eq_false] at hv
      exact ⟨hv, (Option.some.inj h).symm⟩

/-- **Only what was assembled in order and verifies is exposed.** -/
theorem exposed_of_run (data raw : Bits) (calls : List Call) :
    ((calls.foldl exec (new data raw)).valid = true →
      ∃ b d, Assembled b calls ∧ Verifies b d) ∧
    ∀ lc, (calls.foldl exec (new data raw)).getLC = some lc →
      ∃ b d, Assembled b calls ∧ Verifies b d ∧ lc = LC.ofBits (payload d fun _ => false) := by
  have hinv := Inv.run data raw calls
  refine ⟨fun hv => ?_, fun lc hlc => ?_⟩
  · obtain ⟨b, d, hassembled, hver, -⟩ := hinv.exposed hv
    exact ⟨b, d, hassembled, hver⟩
  · obtain ⟨hv, rfl⟩ := valid_of_getLC hlc
    obtain ⟨b, d, hassembled, hver, hdata⟩ := hinv.exposed hv
    exact ⟨b, d, hassembled, hver, LC.ofBits_congr hdata⟩

/-! ## The embedded link control as a whole -/

/-- **Embedded link control.** After any calls on a new object, what shows was collected as a first fragment, two
    continuations and a last one, and verifies; and fragments of a link control that fits, with at most one error in
    each coded row, show it if its opcode is one of the two for voice and are regenerated without the errors. -/
theorem embedded_lc :
    (∀ data raw calls,
      ((calls.foldl exec (new data raw)).valid = true → ∃ b d, Assembled b calls ∧ Verifies b d) ∧
      ∀ lc, (calls.foldl exec (new data raw)).getLC = some lc →
        ∃ b d, Assembled b calls ∧ Verifies b d ∧ lc = LC.ofBits (payload d fun _ => false)) ∧
    ∀ (lc : LC) (tx rx : EmbeddedData) (f b : UInt8 → Bytes), lc.Fits →
      (∀ r < 7, rowErrors (fragments (tx.setLC lc) f) b r ≤ 1) →
      rowErrors (fragments (tx.setLC lc) f) b 7 = 0 →
      (feed (tx.setLC lc) rx f b).valid = true ∧
      (feed (tx.setLC lc) rx f b).getLC =
        (if lc.FLCO = FLCO_GROUP ∨ lc.FLCO = FLCO_PRIVATE then some lc else none) ∧
      ∀ data n, (feed (tx.setLC lc) rx f b).getData data n = (tx.setLC lc).getData data n :=
  ⟨exposed_of_run, fun _ tx rx f b hfits hrows hparity => addData_fragments hfits tx rx f b hrows hparity⟩

/-- Voice to a group. -/
def groupVoice : LC :=
  { PF := false, FLCO := FLCO_GROUP, FID := 0x10, srcId := 3100, dstId := 9, emergency := true, encrypted := false,
    broadcast := false, ovcm := true, priority := 2, R := false }

/-- Its fragments with the first bit inverted. -/
def oneError : UInt8 → Bytes := fun n =>
  let sent := fragments ((new (fun _ => false) fun _ => false).setLC groupVoice) (fun _ _ => 0x00) n
  if n = 1 then flipBit sent 116 else sent

theorem rowErrors_oneError {r : Nat} (hr : r < 8) :
    rowErrors (fragments ((new (fun _ => false) fun _ => false).setLC groupVoice) fun _ _ => 0x00) oneError r =
      ((List.range 16).filter fun i => decide (turnOf (rowPos r i) = 0)).length := by
  unfold rowErrors
  refine congrArg List.length (List.filter_congr fun i hi => ?_)
  have hlt : turnOf (rowPos r i) < 128 := by
    have hi' := List.mem_range.mp hi
    apply turnOf_lt
    unfold rowPos
    omega
  unfold received oneError
  generalize fragments ((new (fun _ => false) fun _ => false).setLC groupVoice) (fun _ _ => 0x00) = sent
  generalize turnOf (rowPos r i) = a at hlt
  by_cases ha : a = 0
  · subst ha
    dsimp only
    rw [if_pos (by decide), readBit_flipBit, if_pos rfl]
    cases readBit (sent (UInt8.ofNat (0 / 32 + 1))) (116 + 0 % 32) <;> rfl
  · rw [decide_eq_false ha]
    dsimp only
    split
    next hn =>
      have hnat : (a / 32 + 1) % 256 = 1 := congrArg UInt8.toNat hn
      rw [readBit_flipBit, if_neg (by omega)]
      exact Bool.xor_self _
    next => exact Bool.xor_self _

/-- A fragment of voice to a group with its first bit inverted. -/
theorem embedded_lc_oneError :
    (feed ((new (fun _ => false) fun _ => false).setLC groupVoice) (new (fun _ => false) fun _ => false)
      (fun _ _ => 0x00) oneError).getLC = some groupVoice := by
  have hfits : groupVoice.Fits := ⟨by decide, by decide, by decide, by decide⟩
  have hrows : ∀ r < 7, rowErrors (fragments ((new (fun _ => false) fun _ => false).setLC groupVoice)
      fun _ _ => 0x00) oneError r ≤ 1 := by
    have hall : ∀ r < 7, ((List.range 16).filter fun i => decide (turnOf (rowPos r i) = 0)).length ≤ 1 := by decide
    intro r hr
    rw [rowErrors_oneError (by omega)]
    exact hall r hr
  have hparity : rowErrors (fragments ((new (fun _ => false) fun _ => false).setLC groupVoice)
      fun _ _ => 0x00) oneError 7 = 0 := by
    rw [rowErrors_oneError (by decide)]
    decide
  exact (embedded_lc.2 groupVoice _ _ _ _ hfits hrows hparity).2.1.trans (if_pos (Or.inl rfl))

/-- A header of a talker alias. -/
def talkerAlias : LC := { groupVoice with FLCO := FLCO_TALKER_ALIAS_HEADER }

/-- A source of more than 24 bits. -/
def wideSource : LC := { groupVoice with srcId := 0x01000000 }

/-- What is exposed fits. -/
theorem fits_of_getLC {e : EmbeddedData} {lc : LC} (h : e.getLC = some lc) : lc.Fits := by
  obtain ⟨-, rfl⟩ := valid_of_getLC h
  exact LC.fits_ofBits e.data

/-- Fragments without errors that do not show the link control they were made from: its opcode is not one for
    voice, or it does not fit. -/
theorem not_exposed :
    (feed ((new (fun _ => false) fun _ => false).setLC talkerAlias) (new (fun _ => false) fun _ => false)
      (fun _ _ => 0x00) (fragments ((new (fun _ => false) fun _ => false).setLC talkerAlias) fun _ _ => 0x00)).getLC ≠
        some talkerAlias ∧
    (feed ((new (fun _ => false) fun _ => false).setLC wideSource) (new (fun _ => false) fun _ => false)
      (fun _ _ => 0x00) (fragments ((new (fun _ => false) fun _ => false).setLC wideSource) fun _ _ => 0x00)).getLC ≠
        some wideSource := by
  have hclean : ∀ (sent : UInt8 → Bytes) r, rowErrors sent sent r = 0 := by
    intro sent r
    unfold rowErrors
    rw [List.length_eq_zero_iff, List.filter_eq_nil_iff]
    intro i _
    rw [Bool.xor_self]
    exact Bool.false_ne_true
  constructor
  · have hfits : talkerAlias.Fits := ⟨by decide, by decide, by decide, by decide⟩
    rw [(addData_fragments hfits _ _ _ _ (fun r _ => Nat.le_of_lt_succ (by rw [hclean _ r]; decide)) (hclean _ 7)).2.1,
      if_neg (by decide)]
    exact Option.some_ne_none _ |>.symm
  · intro h
    exact absurd (fits_of_getLC h).srcId (by decide)

end EmbeddedData

end Dmr

end DvmHost

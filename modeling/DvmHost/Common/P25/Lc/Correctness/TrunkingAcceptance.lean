import DvmHost.Common.P25.Lc.AMBT

/-!
# `Common.P25.Lc.Correctness.TrunkingAcceptance` — which trunking messages are accepted

Behind the trellis `TSBK::decode` returns false when the CRC fails, unless it is told to warn only. In its raw branch the
outcome of the check is not looked at again, and `AMBT::decode` does not check the CRC-32 that `AMBT::encode` adds.
-/

namespace DvmHost

namespace P25

/-- The twelve octets that `TSBK::decode` reads: the raw ones, or those of the trellis. -/
def TSBK.octets (data : Bytes) (rawTSBK : Bool) : Option Bytes :=
  if rawTSBK then some (memcpy (fun _ => 0x00) 0 data P25_TSBK_LENGTH_BYTES)
  else Trellis.decode12 (P25Utils.decode data (fun _ => 0x00) 114 318).2 fun _ => 0x00

/-- The branches of `decode` by the octets. -/
theorem TSBK.decode_iff (t : TSBK) (warnCRC : Bool) (data payload : Bytes) (rawTSBK : Bool) :
    (t.decode warnCRC data payload rawTSBK).1 = true ↔
      ∃ tsbk, octets data rawTSBK = some tsbk ∧
        (rawTSBK = true ∨ warnCRC = true ∨ CRC.checkCCITT162 tsbk P25_TSBK_LENGTH_BYTES = true) := by
  unfold TSBK.decode octets
  cases rawTSBK with
  | true => simp
  | false =>
      simp only [Bool.false_eq_true, if_false, false_or]
      rcases Trellis.decode12 (P25Utils.decode data (fun _ => 0x00) 114 318).2 fun _ => 0x00 with _ | tsbk
      · simp
      · simp only [Option.some_inj, exists_eq_left']
        rcases hcrc : CRC.checkCCITT162 tsbk P25_TSBK_LENGTH_BYTES <;> cases warnCRC <;> simp

/-- A message that `TSBK::decode` takes although its CRC fails. -/
def TSBK.Unchecked (warnCRC : Bool) (data : Bytes) (rawTSBK : Bool) : Prop :=
  ∃ tsbk, octets data rawTSBK = some tsbk ∧ CRC.checkCCITT162 tsbk P25_TSBK_LENGTH_BYTES = false ∧
    (rawTSBK = true ∨ warnCRC = true)

/-- A message that `AMBT::decode` takes although its CRC-32 fails. -/
def AMBT.Unchecked (dataHeader : DataHeader) (blocks : Nat → DataBlock) : Prop :=
  Accepted dataHeader blocks ∧
    CRC.checkCRC32 (assembled blocks) (P25_PDU_UNCONFIRMED_LENGTH_BYTES * dataHeader.blocksToFollow.toNat) = false

theorem AMBT.length_pos {dataHeader : DataHeader} (h : dataHeader.blocksToFollow ≠ 0) :
    4 < P25_PDU_UNCONFIRMED_LENGTH_BYTES * dataHeader.blocksToFollow.toNat := by
  have hpos : dataHeader.blocksToFollow.toNat ≠ 0 := fun h0 => h (UInt8.toNat_inj.mp h0)
  show 4 < 12 * dataHeader.blocksToFollow.toNat
  omega

/-- The CRC-32 of the caller's buffer is that of the blocks. -/
theorem AMBT.checkCRC32_decode {dataHeader : DataHeader} {blocks : Nat → DataBlock} (h : Accepted dataHeader blocks)
    (t : TSBK) (pduUserData : Bytes) :
    CRC.checkCRC32 (decode t dataHeader blocks pduUserData).2.2
        (P25_PDU_UNCONFIRMED_LENGTH_BYTES * dataHeader.blocksToFollow.toNat)
      = CRC.checkCRC32 (assembled blocks) (P25_PDU_UNCONFIRMED_LENGTH_BYTES * dataHeader.blocksToFollow.toNat) :=
  CRC.checkCRC32_congr (length_pos h.blocksToFollow) fun i hi => by
    rw [decode_octets h, if_pos hi]

/-- **Trunking acceptance.** For every object and input: what `TSBK::decode` accepts passes the CRC, exactly when the
    input is not one that it takes unchecked; what `AMBT::decode` accepts passes the CRC-32 and fits the twelve octets a
    block of the caller's buffer, exactly when it is not one that it takes unchecked. The octets it accepts always fit. -/
theorem trunkingAcceptance_iff (t : TSBK) :
    (∀ (warnCRC : Bool) (data payload : Bytes) (rawTSBK : Bool),
      ((t.decode warnCRC data payload rawTSBK).1 = true → ∃ tsbk, TSBK.octets data rawTSBK = some tsbk ∧
        CRC.checkCCITT162 tsbk P25_TSBK_LENGTH_BYTES = true) ↔
      ¬ TSBK.Unchecked warnCRC data rawTSBK) ∧
    (∀ (dataHeader : DataHeader) (blocks : Nat → DataBlock) (pduUserData : Bytes),
      ((AMBT.decode t dataHeader blocks pduUserData).1 = true →
        CRC.checkCRC32 (AMBT.decode t dataHeader blocks pduUserData).2.2
          (P25_PDU_UNCONFIRMED_LENGTH_BYTES * dataHeader.blocksToFollow.toNat) = true ∧
        ∀ k, P25_PDU_UNCONFIRMED_LENGTH_BYTES * dataHeader.blocksToFollow.toNat ≤ k →
          (AMBT.decode t dataHeader blocks pduUserData).2.2 k = pduUserData k) ↔
      ¬ AMBT.Unchecked dataHeader blocks) ∧
    ∀ (dataHeader : DataHeader) (blocks : Nat → DataBlock) (pduUserData : Bytes),
      (AMBT.decode t dataHeader blocks pduUserData).1 = true →
        ∀ k, P25_PDU_UNCONFIRMED_LENGTH_BYTES * dataHeader.blocksToFollow.toNat ≤ k →
          (AMBT.decode t dataHeader blocks pduUserData).2.2 k = pduUserData k := by
  have hfits : ∀ (dataHeader : DataHeader) (blocks : Nat → DataBlock) (pduUserData : Bytes),
      (AMBT.decode t dataHeader blocks pduUserData).1 = true →
        ∀ k, P25_PDU_UNCONFIRMED_LENGTH_BYTES * dataHeader.blocksToFollow.toNat ≤ k →
          (AMBT.decode t dataHeader blocks pduUserData).2.2 k = pduUserData k := by
    intro dataHeader blocks pduUserData h k hk
    rw [AMBT.decode_octets ((AMBT.decode_iff ..).mp h), if_neg (Nat.not_lt.mpr hk)]
  refine ⟨fun warnCRC data payload rawTSBK => ?_, fun dataHeader blocks pduUserData => ?_, hfits⟩
  · rw [TSBK.decode_iff]
    constructor
    · rintro h ⟨tsbk, hoctets, hfail, hwhy⟩
      obtain ⟨tsbk', hoctets', hpass⟩ := h ⟨tsbk, hoctets, hwhy.imp id Or.inl⟩
      obtain rfl := Option.some_inj.mp (hoctets.symm.trans hoctets')
      exact Bool.false_ne_true (hfail.symm.trans hpass)
    · rintro h ⟨tsbk, hoctets, hwhy⟩
      refine ⟨tsbk, hoctets, ?_⟩
      by_contra hfail
      refine h ⟨tsbk, hoctets, Bool.not_eq_true _ ▸ hfail, ?_⟩
      rcases hwhy with hraw | hwarn | hpass
      · exact Or.inl hraw
      · exact Or.inr hwarn
      · exact absurd hpass hfail
  · rw [AMBT.decode_iff]
    constructor
    · rintro h ⟨haccepted, hfail⟩
      have hpass := (h haccepted).1
      rw [AMBT.checkCRC32_decode haccepted, hfail] at hpass
      cases hpass
    · intro h haccepted
      refine ⟨?_, hfits dataHeader blocks pduUserData ((AMBT.decode_iff ..).mpr haccepted)⟩
      rw [AMBT.checkCRC32_decode haccepted]
      by_contra hfail
      exact h ⟨haccepted, Bool.not_eq_true _ ▸ hfail⟩

/-- Twelve zero octets are taken raw, and a message of one block of twelve zero octets is taken; neither CRC is that of
    zeros. -/
theorem trunkingAcceptance_zeros :
    let t : TSBK := ⟨0, 0, false, 0⟩
    let block : DataBlock := { DataBlock.new (fun _ => 0) with fmt := PDU_FMT_AMBT }
    let dataHeader := { DataHeader.new with fmt := PDU_FMT_AMBT, blocksToFollow := 1 }
    (t.decode false (fun _ => 0) (fun _ => 0) true).1 = true ∧
    TSBK.octets (fun _ => 0) true = some (memcpy (fun _ => 0) 0 (fun _ => 0) 12) ∧
    CRC.checkCCITT162 (memcpy (fun _ => 0) 0 (fun _ => 0) 12) P25_TSBK_LENGTH_BYTES = false ∧
    (AMBT.decode t dataHeader (fun _ => block) fun _ => 0).1 = true ∧
    CRC.checkCRC32 (AMBT.decode t dataHeader (fun _ => block) fun _ => 0).2.2
      (P25_PDU_UNCONFIRMED_LENGTH_BYTES * dataHeader.blocksToFollow.toNat) = false := by
  refine ⟨rfl, rfl, by decide +kernel, by decide +kernel, by decide +kernel⟩

end P25

end DvmHost

import DvmHost.Common.P25.Lc.Correctness.FrameCoding

/-!
# `Common.P25.Lc.Correctness.EncryptionSync` — encryption parameters survive the header and LDU2

A receiver that decodes the header data unit or the second logical link data unit of a call takes over the
algorithm ID, key ID and message indicator of the sender, and from a header the manufacturer and the talkgroup
too. The octets come back bit by bit (`FrameCoding`), the Reed-Solomon decoder accepts them as they are
(`RS634717.decodeWith_octets`), and what is left is the arithmetic of octets and words. Nothing is asked of
how the receiver stood before, nor of the codec on words it has to repair.
-/

namespace DvmHost

open Lib Lib.Blocks

namespace LC

/-! ## Octets -/

/-- The low two octets of a word, put together again. -/
theorem low16_octets (v : UInt32) :
    (v >>> (8 : UInt32) &&& 0xFF).toUInt8.toUInt32 <<< (8 : UInt32) +
      (v >>> (0 : UInt32) &&& 0xFF).toUInt8.toUInt32 =
      v &&& 0xFFFF := by
  have h8 : ∀ n : Nat, n &&& 255 = n % 256 := fun n => Nat.and_two_pow_sub_one_eq_mod n 8
  have h16 : ∀ n : Nat, n &&& 65535 = n % 65536 := fun n => Nat.and_two_pow_sub_one_eq_mod n 16
  apply UInt32.toNat_inj.mp
  simp [h8, h16, Nat.shiftLeft_eq, Nat.shiftRight_eq_div_pow]
  omega

/-- The talkgroup that `decodeHDU` takes from three octets is in the last two. -/
theorem talkgroup_octets (v : UInt32) (b : UInt8) :
    (((b.toUInt64 <<< (8 : UInt64) + (v >>> (8 : UInt32) &&& 0xFF).toUInt8.toUInt64) <<< (8 : UInt64) +
      (v >>> (0 : UInt32) &&& 0xFF).toUInt8.toUInt64) &&& 0xFFFF).toUInt32 = v &&& 0xFFFF := by
  have h8 : ∀ n : Nat, n &&& 255 = n % 256 := fun n => Nat.and_two_pow_sub_one_eq_mod n 8
  have h16 : ∀ n : Nat, n &&& 65535 = n % 65536 := fun n => Nat.and_two_pow_sub_one_eq_mod n 16
  apply UInt32.toNat_inj.mp
  simp [h8, h16, Nat.shiftLeft_eq, Nat.shiftRight_eq_div_pow]
  omega

theorem miOctets_apply (lc : LC) (i : Fin P25_MI_LENGTH_BYTES) : lc.miOctets i = lc.mi i := dif_pos i.isLt

/-! ## What a receiver takes over -/

/-- The encryption parameters are in force: those given, or none when the algorithm is that of clear audio. -/
def Synced (lc : LC) (algId : UInt8) (kId : UInt32) (mi : Fin P25_MI_LENGTH_BYTES → UInt8) : Prop :=
  lc.algId = algId ∧
    if algId = P25_ALGO_UNENCRYPT then lc.encrypted = false ∧ lc.kId = 0 ∧ lc.mi = fun _ => 0
    else lc.encrypted = true ∧ lc.kId = kId ∧ lc.mi = mi

theorem setEncryption_synced (lc : LC) (algId : UInt8) (rs : Bytes) (kId : UInt32) :
    (lc.setEncryption algId rs kId).Synced algId kId fun i => rs i := by
  unfold setEncryption Synced
  by_cases halg : algId = P25_ALGO_UNENCRYPT
  · simp only [halg, ne_eq, not_true_eq_false, if_false, if_true]
    cases lc.encrypted <;> simp
  · simp only [halg, ne_eq, not_false_eq_true, if_true, if_false]
    cases lc.encrypted <;> simp

/-- The manufacturer is not touched. -/
theorem setEncryption_mfId (lc : LC) (algId : UInt8) (rs : Bytes) (kId : UInt32) :
    (lc.setEncryption algId rs kId).mfId = lc.mfId := by
  unfold setEncryption
  dsimp only
  split <;> split <;> rfl

/-! ## The second logical link data unit -/

/-- **LDU2.** The receiver takes over the parameters, of the key ID the sixteen bits that are sent. -/
theorem decodeLDU2_encodeLDU2 (errata : RS.Errata) (rx tx : LC) (frame : Bytes) :
    ∃ out, decodeLDU2 errata rx (encodeLDU2 tx frame) = (true, out) ∧
      out.Synced tx.algId (tx.kId &&& 0xFFFF) tx.mi := by
  obtain ⟨y, hdecode, hoctets⟩ := decodeWith_decodeLDUParts RS634717.valid_24169 rfl errata tx.ldu2Octets frame
  have hoctet : ∀ i < 12, y i = tx.ldu2Octets i := hoctets 12 (by decide)
  refine ⟨rx.setEncryption (y 9) y ((y 10).toUInt32 <<< (8 : UInt32) + (y 11).toUInt32), ?_, ?_⟩
  · unfold decodeLDU2 encodeLDU2 RS634717.decode24169 RS634717.encode24169
    rw [hdecode]
  · have hsync := setEncryption_synced rx (y 9) y ((y 10).toUInt32 <<< (8 : UInt32) + (y 11).toUInt32)
    have hmi : (fun i : Fin P25_MI_LENGTH_BYTES => y i) = tx.mi := by
      funext i
      have hi : i.val < 9 := i.isLt
      rw [hoctet i (by omega), ← miOctets_apply]
      unfold ldu2Octets
      simp (disch := omega) only [setByte_of_ne]
    have halg : y 9 = tx.algId := by rw [hoctet 9 (by decide)]; rfl
    have hkid : (y 10).toUInt32 <<< (8 : UInt32) + (y 11).toUInt32 = tx.kId &&& 0xFFFF := by
      rw [hoctet 10 (by decide), hoctet 11 (by decide)]
      exact low16_octets tx.kId
    rw [hmi, hkid] at hsync
    rw [hkid]
    exact halg ▸ hsync

/-! ## The header data unit -/

/-- **HDU.** Through a channel that inverts up to three bits in each Golay word the receiver takes over the
    parameters, the manufacturer and the talkgroup, of the key ID and the talkgroup the sixteen bits that are
    sent. -/
theorem decodeHDU_encodeHDU (errata : RS.Errata) (rx tx : LC) {frame received : Bytes}
    (h : ∀ i < 36, hduErrors (encodeHDU tx frame) received i ≤ 3) :
    ∃ out, decodeHDU errata rx received = some (true, out) ∧
      out.Synced tx.algId (tx.kId &&& 0xFFFF) tx.mi ∧ out.mfId = tx.mfId ∧ out.dstId = tx.dstId &&& 0xFFFF := by
  obtain ⟨y, hy, hsame⟩ := decodeHDUGolay_near (z := fun _ => 0) h
  obtain ⟨hdecode, hoctets⟩ := RS634717.decodeWith_octets RS634717.valid_362017 errata hsame
  have hoctet : ∀ i < 15, y i = tx.hduOctets i := hoctets 15 (by decide)
  have hmfId : y 9 = tx.mfId := by rw [hoctet 9 (by decide)]; rfl
  have halg : y 10 = tx.algId := by rw [hoctet 10 (by decide)]; rfl
  have hkid : (y 11).toUInt32 <<< (8 : UInt32) + (y 12).toUInt32 = tx.kId &&& 0xFFFF := by
    rw [hoctet 11 (by decide), hoctet 12 (by decide)]
    exact low16_octets tx.kId
  have htg : (((((y 12).toUInt64 <<< (8 : UInt64) + (y 13).toUInt64) <<< (8 : UInt64)) + (y 14).toUInt64) &&&
      0xFFFF).toUInt32 = tx.dstId &&& 0xFFFF := by
    rw [hoctet 13 (by decide), hoctet 14 (by decide)]
    exact talkgroup_octets tx.dstId (y 12)
  have hmi : (fun i : Fin P25_MI_LENGTH_BYTES => y i) = tx.mi := by
    funext i
    have hi : i.val < 9 := i.isLt
    rw [hoctet i (by omega), ← miOctets_apply]
    unfold hduOctets
    simp (disch := omega) only [setByte_of_ne]
  have hsync := setEncryption_synced { rx with mfId := y 9 } (y 10) y (tx.kId &&& 0xFFFF)
  rw [hmi, halg] at hsync
  refine ⟨{ setEncryption { rx with mfId := y 9 } (y 10) y (tx.kId &&& 0xFFFF) with
    dstId := tx.dstId &&& 0xFFFF }, ?_, ?_, ?_, rfl⟩
  · unfold decodeHDU
    dsimp only
    unfold RS634717.decode362017
    rw [hy, Option.bind_eq_bind, Option.bind_some, hdecode]
    dsimp only
    rw [hkid, htg]
  · rw [halg]
    exact hsync
  · exact (setEncryption_mfId _ _ _ _).trans hmfId

/-! ## What was set on the sender -/

theorem toUInt32_and_mask (v : UInt16) : v.toUInt32 &&& 0xFFFF = v.toUInt32 := by
  have h16 : ∀ n : Nat, n &&& 65535 = n % 65536 := fun n => Nat.and_two_pow_sub_one_eq_mod n 16
  have hlt := v.toNat_lt
  apply UInt32.toNat_inj.mp
  simp [h16]

/-- **Encryption sync.** Whatever talkgroup, manufacturer ID, algorithm ID, key ID and message indicator are set
    on the sender, a header received with at most three wrong bits in each Golay word and a second logical link
    data unit both bring the receiver in sync; the header brings the manufacturer ID and the talkgroup too. -/
theorem encryption_sync (errata : RS.Errata) (rx tx : LC) (talkgroup : UInt16) (mfId algId : UInt8)
    (kId : UInt16) (mi : Fin P25_MI_LENGTH_BYTES → UInt8) (frame frame' received : Bytes)
    (h : ∀ i < 36, hduErrors (encodeHDU
      { tx with
        dstId := talkgroup.toUInt32, mfId := mfId, algId := algId, kId := kId.toUInt32, mi := mi } frame)
      received i ≤ 3) :
    (∃ out, decodeHDU errata rx received = some (true, out) ∧ out.Synced algId kId.toUInt32 mi ∧
      out.mfId = mfId ∧ out.dstId = talkgroup.toUInt32) ∧
    ∃ out, decodeLDU2 errata rx (encodeLDU2
      { tx with
        dstId := talkgroup.toUInt32, mfId := mfId, algId := algId, kId := kId.toUInt32, mi := mi } frame') =
        (true, out) ∧ out.Synced algId kId.toUInt32 mi := by
  have hhdu := decodeHDU_encodeHDU errata rx _ h
  have hldu2 := decodeLDU2_encodeLDU2 errata rx
    { tx with dstId := talkgroup.toUInt32, mfId := mfId, algId := algId, kId := kId.toUInt32, mi := mi } frame'
  dsimp only at hhdu hldu2
  rw [toUInt32_and_mask, toUInt32_and_mask] at hhdu
  rw [toUInt32_and_mask] at hldu2
  exact ⟨hhdu, hldu2⟩

/-- A header with three wrong bits in its first Golay word. -/
theorem encryption_sync_voice :
    let tx : LC := { default with
      dstId := (2001 : UInt16).toUInt32, mfId := 0x00, algId := 0x84, kId := (0x1234 : UInt16).toUInt32,
      mi := fun i => [0xA1, 0x07, 0x00, 0xFF, 0x13, 0x80, 0x01, 0x5C, 0x3E].get i }
    let frame : Bytes := fun _ => 0
    (∃ out, decodeHDU (fun _ _ => none) default (flipBits [114, 115, 131] (encodeHDU tx frame)) =
        some (true, out) ∧
      out.Synced 0x84 (0x1234 : UInt16).toUInt32 tx.mi ∧ out.mfId = 0x00 ∧
      out.dstId = (2001 : UInt16).toUInt32) ∧
    ∃ out, decodeLDU2 (fun _ _ => none) default (encodeLDU2 tx frame) = (true, out) ∧
      out.Synced 0x84 (0x1234 : UInt16).toUInt32 tx.mi :=
  encryption_sync (fun _ _ => none) default default 2001 0x00 0x84 0x1234 _ _ _ _
    fun _ hi => hduErrors_flipBits_le [114, 115, 131] _ hi

end LC

end DvmHost

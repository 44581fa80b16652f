import DvmHost.Common.Dmr.Lc.CSBK
import DvmHost.Common.Dmr.Lc.FullLC
import DvmHost.Common.Dmr.Data.DataHeader
import DvmHost.Common.Edac.Correctness.ProductCode

/-!
# `Common.Dmr.Correctness.CrcAcceptance` — which bursts the DMR decoders accept

Three decoders check a CRC-CCITT under a mask of their own. `CSBK` always does. `FullLC::decodePI` and `DataHeader` mean to
let a burst pass whose CRC the network has zeroed, but their condition, that both octets are other than zero, leaves
out a burst with one zero octet too.
-/

namespace DvmHost

namespace Dmr

/-- The twelve octets of a burst. -/
def burstOctets (data : Bytes) : Bytes := BPTC19696.decode data fun _ => 0x00

/-- The CRC octets with a mask added. -/
def addMask (mask : UInt8) (octets : Bytes) : Bytes :=
  setByte (setByte octets 10 (octets 10 ^^^ mask)) 11 (octets 11 ^^^ mask)

/-- The CRC-CCITT under a mask is that of the ten octets before it. -/
def Verifies (mask : UInt8) (octets : Bytes) : Prop := CRC.checkCCITT162 (addMask mask octets) 12 = true

instance (mask : UInt8) (octets : Bytes) : Decidable (Verifies mask octets) :=
  inferInstanceAs (Decidable (CRC.checkCCITT162 (addMask mask octets) 12 = true))

/-- What is accepted has a CRC that verifies, or none. -/
def Checked (accepted : Prop) (mask : UInt8) (octets : Bytes) : Prop :=
  accepted → Verifies mask octets ∨ (octets 10 = 0x00 ∧ octets 11 = 0x00)

/-- One octet of the CRC is zero, and the CRC does not verify. -/
def HalfZero (mask : UInt8) (octets : Bytes) : Prop :=
  (octets 10 = 0x00 ∧ octets 11 ≠ 0x00 ∨ octets 10 ≠ 0x00 ∧ octets 11 = 0x00) ∧ ¬ Verifies mask octets

/-- The mask of a type of block. -/
def csbkMask (dataType : UInt8) : UInt8 :=
  if dataType = DT_CSBK then CSBK_CRC_MASK else if dataType = DT_MBC_HEADER then CSBK_MBC_CRC_MASK else 0x00

/-! ## The decoders -/

theorem maskCRC_csbk (dataType : UInt8) (octets : Bytes) :
    CSBK.maskCRC dataType octets = addMask (csbkMask dataType) octets := by
  unfold CSBK.maskCRC csbkMask addMask
  split
  · simp (disch := decide) only [setByte_of_ne]
  · split
    · simp (disch := decide) only [setByte_of_ne]
    · funext i
      by_cases h11 : i = 11
      · rw [setByte_of_eq _ _ h11, UInt8.xor_zero, h11]
      · rw [setByte_of_ne _ _ h11]
        by_cases h10 : i = 10
        · rw [setByte_of_eq _ _ h10, UInt8.xor_zero, h10]
        · rw [setByte_of_ne _ _ h10]

theorem maskCRC_header (octets : Bytes) : DataHeader.maskCRC octets = addMask DATA_HEADER_CRC_MASK octets := by
  unfold DataHeader.maskCRC addMask
  simp (disch := decide) only [setByte_of_ne]

theorem maskPI_eq (octets : Bytes) : FullLC.maskPI octets = addMask (PI_HEADER_CRC_MASK 0) octets := by
  unfold FullLC.maskPI addMask
  simp (disch := decide) only [setByte_of_ne]
  rfl

/-- The product code writes its twelve octets over whatever was there. -/
theorem decode_eq_burstOctets (data out : Bytes) {j : Nat} (hj : j < 12) :
    BPTC19696.decode data out j = burstOctets data j := by
  unfold burstOctets BPTC19696.decode BPTC19696.decodeExtractData
  rw [packBytes_apply, packBytes_apply, if_pos (by omega), if_pos (by omega)]

theorem verifies_congr {a b : Bytes} (h : ∀ j < 12, a j = b j) (mask : UInt8) : Verifies mask a ↔ Verifies mask b := by
  have hmask : ∀ j < 12, addMask mask a j = addMask mask b j := by
    intro j hj
    unfold addMask
    rw [h 10 (by decide), h 11 (by decide)]
    by_cases h11 : j = 11
    · rw [setByte_of_eq _ _ h11, setByte_of_eq _ _ h11]
    · rw [setByte_of_ne _ _ h11, setByte_of_ne _ _ h11]
      by_cases h10 : j = 10
      · rw [setByte_of_eq _ _ h10, setByte_of_eq _ _ h10]
      · rw [setByte_of_ne _ _ h10, setByte_of_ne _ _ h10, h j hj]
  unfold Verifies CRC.checkCCITT162
  dsimp only
  rw [CRC.ccitt162_congr fun i hi => hmask i (by omega), hmask (12 - 1) (by decide), hmask (12 - 2) (by decide)]

/-- A decoder that returns false where its check fails. -/
theorem fst_check {α : Type} (b : Bool) (x y : α) : (if !b then (false, x) else (true, y)).1 = b := by
  cases b <;> rfl

/-- `CSBK::decode` accepts what verifies. -/
theorem csbk_accepts (c : CSBK) (data payload : Bytes) :
    (c.decode data payload).1 = true ↔ Verifies (csbkMask c.dataType) (burstOctets data) := by
  unfold CSBK.decode
  rw [maskCRC_csbk]
  dsimp only
  rw [fst_check]
  rfl

/-- `decodePI` accepts what verifies, and what has a zero octet. -/
theorem decodePI_accepts (data : Bytes) :
    (FullLC.decodePI data).isSome = true ↔
      burstOctets data 10 = 0x00 ∨ burstOctets data 11 = 0x00 ∨ Verifies (PI_HEADER_CRC_MASK 0) (burstOctets data) := by
  have hcheck : ∀ (b : Bool) (x : PrivacyLC), (if !b then none else some x).isSome = b := fun b x => by
    cases b <;> rfl
  unfold FullLC.decodePI
  simp only [maskPI_eq]
  by_cases hzero : burstOctets data 10 ≠ 0x00 ∧ burstOctets data 11 ≠ 0x00
  · have hif : (BPTC19696.decode data fun _ => 0) 10 ≠ 0x00 ∧ (BPTC19696.decode data fun _ => 0) 11 ≠ 0x00 := hzero
    rw [if_pos hif, hcheck]
    simp only [hzero.1, hzero.2, false_or]
    rfl
  · have hif : ¬ ((BPTC19696.decode data fun _ => 0) 10 ≠ 0x00 ∧ (BPTC19696.decode data fun _ => 0) 11 ≠ 0x00) :=
      hzero
    rw [if_neg hif]
    simp only [Option.isSome_some, true_iff]
    by_cases h10 : burstOctets data 10 = 0x00
    · exact Or.inl h10
    · exact Or.inr (Or.inl (not_not.mp fun h11 => hzero ⟨h10, h11⟩))

/-- So does `DataHeader::decode`. -/
theorem header_accepts (h : DataHeader) (data : Bytes) :
    (h.decode data).1 = true ↔
      burstOctets data 10 = 0x00 ∨ burstOctets data 11 = 0x00 ∨ Verifies DATA_HEADER_CRC_MASK (burstOctets data) := by
  have hoctets : ∀ j < 12, BPTC19696.decode data h.data j = burstOctets data j := fun j hj =>
    decode_eq_burstOctets data h.data hj
  unfold DataHeader.decode
  simp only [maskCRC_header]
  rw [hoctets 10 (by decide), hoctets 11 (by decide)]
  by_cases hzero : burstOctets data 10 ≠ 0x00 ∧ burstOctets data 11 ≠ 0x00
  · rw [if_pos hzero, fst_check]
    simp only [hzero.1, hzero.2, false_or]
    exact verifies_congr hoctets _
  · rw [if_neg hzero]
    simp only [true_iff]
    by_cases h10 : burstOctets data 10 = 0x00
    · exact Or.inl h10
    · exact Or.inr (Or.inl (not_not.mp fun h11 => hzero ⟨h10, h11⟩))

/-- Where a decoder accepts what has a zero octet, it is as claimed but for these bursts. -/
theorem checked_iff {accepted : Prop} {mask : UInt8} {octets : Bytes}
    (h : accepted ↔ octets 10 = 0x00 ∨ octets 11 = 0x00 ∨ Verifies mask octets) :
    Checked accepted mask octets ↔ ¬ HalfZero mask octets := by
  unfold Checked HalfZero
  rw [h]
  tauto

/-- **CRC acceptance.** For every burst: a control signalling block is accepted only if its CRC verifies; a privacy
    header and a data header are accepted only if their CRC verifies or is absent, exactly when they are not bursts with
    one zero octet in a CRC that does not verify. -/
theorem crcAcceptance_iff (data : Bytes) :
    (∀ (c : CSBK) (payload : Bytes),
      (c.decode data payload).1 = true → Verifies (csbkMask c.dataType) (burstOctets data)) ∧
    (Checked ((FullLC.decodePI data).isSome = true) (PI_HEADER_CRC_MASK 0) (burstOctets data) ↔
      ¬ HalfZero (PI_HEADER_CRC_MASK 0) (burstOctets data)) ∧
    ∀ h : DataHeader, Checked ((h.decode data).1 = true) DATA_HEADER_CRC_MASK (burstOctets data) ↔
      ¬ HalfZero DATA_HEADER_CRC_MASK (burstOctets data) :=
  ⟨fun c payload => (csbk_accepts c data payload).mp, checked_iff (decodePI_accepts data),
    fun h => checked_iff (header_accepts h data)⟩

/-- Octets that are zero but for the last, with one. -/
def halfZeroOctets : Bytes := fun i => if i = 11 then 0x01 else 0x00

theorem halfZero_halfZeroOctets :
    HalfZero (PI_HEADER_CRC_MASK 0) halfZeroOctets ∧ HalfZero DATA_HEADER_CRC_MASK halfZeroOctets := by
  refine ⟨⟨Or.inl ⟨rfl, by decide⟩, by decide⟩, ⟨Or.inl ⟨rfl, by decide⟩, by decide⟩⟩

/-- A burst with the octets `00 01` for a CRC is accepted as a privacy header and as a data header. -/
theorem crcAcceptance_halfZero :
    let data := BPTC19696.encode halfZeroOctets fun _ => 0
    ¬ Checked ((FullLC.decodePI data).isSome = true) (PI_HEADER_CRC_MASK 0) (burstOctets data) ∧
    ¬ Checked (((DataHeader.new fun _ => 0).decode data).1 = true) DATA_HEADER_CRC_MASK (burstOctets data) := by
  intro data
  have hoctets : ∀ j < 12, burstOctets data j = halfZeroOctets j := fun j hj =>
    BPTC19696.decode_clean halfZeroOctets (fun _ => 0) (fun _ => 0x00) hj
  have hhalf : ∀ mask, HalfZero mask halfZeroOctets → HalfZero mask (burstOctets data) := by
    intro mask h
    unfold HalfZero at h ⊢
    rwa [hoctets 10 (by decide), hoctets 11 (by decide), verifies_congr hoctets]
  rw [checked_iff (decodePI_accepts data), checked_iff (header_accepts _ data), not_not, not_not]
  exact ⟨hhalf _ halfZero_halfZeroOctets.1, hhalf _ halfZero_halfZeroOctets.2⟩

end Dmr

end DvmHost

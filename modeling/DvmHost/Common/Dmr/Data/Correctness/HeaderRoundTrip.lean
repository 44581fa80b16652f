import DvmHost.Common.Edac.Correctness.ProductCode
import DvmHost.Common.Dmr.Data.DataHeader

/-!
# `Common.Dmr.Data.Correctness.HeaderRoundTrip` — data headers are read back

The octets come through the product code and the masked CRC (`decode_octets`), so a receiver reads `decodeFields` of
what was stored: one lemma for an octet of packed fields, one theorem for a format. Two fields do not always arrive:
the opcode of a unified data transport header loses its last bit, and the format of a defined short data header is
shifted the wrong way by its mask and loses its last two (`dataHeader_roundTrip_iff`).
-/

namespace DvmHost

namespace Dmr

namespace DataHeader

/-! ## Octets of packed fields -/

/-- The flags and the format of octet 0, below anything that goes into the two bits between them. -/
def flags (h : DataHeader) : UInt8 :=
    (if h.GI then 0x80 else 0x00) + (if h.A then 0x40 else 0x00) + (h.DPF &&& 0x0F)

theorem flags_fields {h : DataHeader} {x : UInt8} (hDPF : h.DPF < 16) (hx : x &&& 0x30 = x) :
    decide (flags h + x &&& 0x80 = 0x80) = h.GI ∧ decide (flags h + x &&& 0x40 = 0x40) = h.A ∧
      flags h + x &&& 0x0F = h.DPF ∧ flags h + x &&& 0x30 = x := by
  have hall : ∀ GI A : Bool, ∀ d : Fin 16, ∀ k : Fin 4,
      let octet := (if GI then 0x80 else 0x00) + (if A then 0x40 else 0x00) + (UInt8.ofNat d &&& 0x0F) +
        UInt8.ofNat (16 * k)
      decide (octet &&& 0x80 = 0x80) = GI ∧ decide (octet &&& 0x40 = 0x40) = A ∧
        octet &&& 0x0F = UInt8.ofNat d ∧ octet &&& 0x30 = UInt8.ofNat (16 * k) := by decide +kernel
  have hbits : ∀ v : BitVec 8, UInt8.ofBitVec v &&& 0x30 = UInt8.ofBitVec v →
      ∃ k : Fin 4, UInt8.ofBitVec v = UInt8.ofNat (16 * k) := by decide +kernel
  obtain ⟨k, hk⟩ := hbits x.toBitVec hx
  have h' := hall h.GI h.A ⟨h.DPF.toNat, UInt8.lt_iff_toNat_lt.mp hDPF⟩ k
  dsimp only at h'
  rw [UInt8.ofNat_toNat, ← hk] at h'
  exact h'

/-- The service access point over a field of four bits. -/
theorem nibble_fields {sap : UInt8} (x : UInt8) (hsap : sap < 16) :
    let octet := (sap &&& 0x0F) <<< (4 : UInt8) + (x &&& 0x0F)
    (octet &&& 0xF0) >>> (4 : UInt8) = sap ∧ octet &&& 0x0F = x &&& 0x0F := by
  have hall : ∀ s : Fin 16, ∀ w : BitVec 8,
      let octet := (UInt8.ofNat s &&& 0x0F) <<< (4 : UInt8) + (UInt8.ofBitVec w &&& 0x0F)
      (octet &&& 0xF0) >>> (4 : UInt8) = UInt8.ofNat s ∧ octet &&& 0x0F = UInt8.ofBitVec w &&& 0x0F := by
    decide +kernel
  have h := hall ⟨sap.toNat, UInt8.lt_iff_toNat_lt.mp hsap⟩ x.toBitVec
  dsimp only at h
  rwa [UInt8.ofNat_toNat] at h

/-- A field whose fifth and sixth bits are sent apart from the four below them. -/
theorem split_field {v : UInt8} (h : v < 64) : (v &&& 0x30) + (v &&& 0x0F) = v := by
  have hall : ∀ w : BitVec 8, UInt8.ofBitVec w < 64 →
      (UInt8.ofBitVec w &&& 0x30) + (UInt8.ofBitVec w &&& 0x0F) = UInt8.ofBitVec w := by decide
  exact hall v.toBitVec h

/-- A word that fits an octet. -/
theorem toUInt32_toUInt8 {v : UInt32} (h : v.toNat < 256) : v.toUInt8.toUInt32 = v := by
  apply UInt32.toNat_inj.mp
  rw [UInt8.toNat_toUInt32, UInt32.toNat_toUInt8, Nat.mod_eq_of_lt h]

/-- The pad count, of which octet 0 has the fifth bit. -/
theorem pad_split {octet0 octet1 v : UInt8} (h : v < 32) (h0 : octet0 &&& 0x30 = v &&& 0x10)
    (h1 : octet1 &&& 0x0F = v &&& 0x0F) : (octet0 &&& 0x10) + (octet1 &&& 0x0F) = v := by
  have hall : ∀ w : BitVec 8, UInt8.ofBitVec w < 32 →
      (UInt8.ofBitVec w &&& 0x10 &&& 0x10) + (UInt8.ofBitVec w &&& 0x0F) = UInt8.ofBitVec w := by decide
  have hbit : octet0 &&& 0x10 = octet0 &&& 0x30 &&& 0x10 := by
    rw [UInt8.and_assoc]
    rfl
  rw [hbit, h0, h1]
  exact hall v.toBitVec h

/-- Octet 8 of a unified data transport header. -/
theorem pad_fields {padCount more : UInt8} (hpad : padCount < 32) (hmore : more < 4) :
    let octet := (padCount &&& 0x1F) <<< (3 : UInt8) + more
    octet &&& 0x03 = more ∧ (octet &&& 0xF8) >>> (3 : UInt8) = padCount := by
  have hall : ∀ p : Fin 32, ∀ k : Fin 4,
      let octet := (UInt8.ofNat p &&& 0x1F) <<< (3 : UInt8) + UInt8.ofNat k
      octet &&& 0x03 = UInt8.ofNat k ∧ (octet &&& 0xF8) >>> (3 : UInt8) = UInt8.ofNat p := by decide
  have h := hall ⟨padCount.toNat, UInt8.lt_iff_toNat_lt.mp hpad⟩ ⟨more.toNat, UInt8.lt_iff_toNat_lt.mp hmore⟩
  dsimp only at h
  rwa [UInt8.ofNat_toNat, UInt8.ofNat_toNat] at h

/-- A stored octet that was summed in a word. -/
theorem toUInt8_shiftLeft_add (x : UInt8) (y : UInt32) {k : UInt8} (hk : k = 3 ∨ k = 4) (hx : x < 32) :
    (x.toUInt32 <<< k.toUInt32 + y).toUInt8 = x <<< k + y.toUInt8 := by
  have hall : ∀ w : BitVec 8, UInt8.ofBitVec w < 32 →
      ((UInt8.ofBitVec w).toUInt32 <<< (3 : UInt32)).toUInt8 = UInt8.ofBitVec w <<< (3 : UInt8) ∧
      ((UInt8.ofBitVec w).toUInt32 <<< (4 : UInt32)).toUInt8 = UInt8.ofBitVec w <<< (4 : UInt8) := by decide
  obtain ⟨h3, h4⟩ := hall x.toBitVec hx
  rw [UInt32.toUInt8_add]
  rcases hk with rfl | rfl
  · exact congrArg (· + y.toUInt8) h3
  · exact congrArg (· + y.toUInt8) h4

/-- The blocks that follow, one less than their number in two bits. -/
theorem more_fields {padCount : UInt8} {blocks : UInt32} (hpad : padCount < 32)
    (hblocks : 1 ≤ blocks.toNat ∧ blocks.toNat ≤ 4) :
    let octet := ((padCount &&& 0x1F).toUInt32 <<< (3 : UInt32) + (blocks - 1)).toUInt8
    (octet &&& 0x03).toUInt32 + 1 = blocks ∧ (octet &&& 0xF8) >>> (3 : UInt8) = padCount := by
  have hsub : (blocks - 1).toNat = blocks.toNat - 1 :=
    UInt32.toNat_sub_of_le _ _ (UInt32.le_iff_toNat_le.mpr hblocks.1)
  have hmore : (blocks - 1).toUInt8 < 4 := by
    have h4 : (4 : UInt8).toNat = 4 := rfl
    rw [UInt8.lt_iff_toNat_lt, UInt32.toNat_toUInt8, hsub, h4]
    omega
  have hmask : padCount &&& 0x1F = padCount := and_mask_of_lt (w := 5) rfl (UInt8.lt_iff_toNat_lt.mp hpad)
  obtain ⟨hlow, hhigh⟩ := pad_fields hpad hmore
  have hoctet := toUInt8_shiftLeft_add padCount (blocks - 1) (Or.inl rfl) hpad
  rw [hmask] at hlow hhigh
  dsimp only
  rw [hmask]
  refine ⟨?_, (congrArg (fun o => (o &&& 0xF8) >>> (3 : UInt8)) hoctet).trans hhigh⟩
  have hword := (congrArg (fun o => (o &&& 0x03).toUInt32 + 1) hoctet).trans
    (congrArg (fun o : UInt8 => o.toUInt32 + 1) hlow)
  refine hword.trans ?_
  rw [toUInt32_toUInt8 (by omega), UInt32.sub_add_cancel]

/-- The count of blocks of the short headers, of which octet 0 has the upper two bits. -/
theorem split_blocks (flags : UInt8) {sap : UInt8} (blocks : UInt32) (hsap : sap < 16) :
    (flags.toUInt32 + (blocks &&& 0x30)).toUInt8 = flags + (blocks.toUInt8 &&& 0x30) ∧
      ((sap &&& 0x0F).toUInt32 <<< (4 : UInt32) + (blocks &&& 0x0F)).toUInt8 =
        (sap &&& 0x0F) <<< (4 : UInt8) + (blocks.toUInt8 &&& 0x0F) := by
  have hmask : sap &&& 0x0F = sap := and_mask_of_lt (w := 4) rfl (UInt8.lt_iff_toNat_lt.mp hsap)
  have hlt : sap < 32 := UInt8.lt_trans hsap (by decide)
  constructor
  · rw [UInt32.toUInt8_add, UInt32.toUInt8_and, UInt8.toUInt8_toUInt32]
    rfl
  · rw [hmask]
    refine (toUInt8_shiftLeft_add sap _ (Or.inr rfl) hlt).trans ?_
    rw [UInt32.toUInt8_and]
    rfl

theorem split_word {octet0 octet1 : UInt8} {blocks : UInt32} (h : blocks.toNat < 64)
    (h0 : octet0 &&& 0x30 = blocks.toUInt8 &&& 0x30) (h1 : octet1 &&& 0x0F = blocks.toUInt8 &&& 0x0F) :
    ((octet0 &&& 0x30) + (octet1 &&& 0x0F)).toUInt32 = blocks := by
  have hlt : blocks.toUInt8 < 64 := by
    have h64 : (64 : UInt8).toNat = 64 := rfl
    rw [UInt8.lt_iff_toNat_lt, UInt32.toNat_toUInt8, h64]
    omega
  rw [h0, h1, split_field hlt, toUInt32_toUInt8 (by omega)]

/-- Octet 9 of a unified data transport header, after its last bit was cleared. -/
theorem opcode_fields (SF PF : Bool) {UDTO : UInt8} (h : UDTO < 64) :
    let octet := (if SF then 0x80 else 0x00) + (if PF then 0x40 else 0x00) + (UDTO &&& 0x3F) &&& 0xFE
    decide (octet &&& 0x80 = 0x80) = SF ∧ decide (octet &&& 0x40 = 0x40) = PF ∧
      (octet &&& 0x3F = UDTO ↔ UDTO &&& 0x01 = 0) := by
  have hall : ∀ SF PF : Bool, ∀ w : BitVec 8, UInt8.ofBitVec w < 64 →
      let octet := (if SF then 0x80 else 0x00) + (if PF then 0x40 else 0x00) + (UInt8.ofBitVec w &&& 0x3F) &&& 0xFE
      decide (octet &&& 0x80 = 0x80) = SF ∧ decide (octet &&& 0x40 = 0x40) = PF ∧
        (octet &&& 0x3F = UInt8.ofBitVec w ↔ UInt8.ofBitVec w &&& 0x01 = 0) := by decide
  exact hall SF PF UDTO.toBitVec h

/-- Octet 8 of the headers that count their blocks in seven bits. -/
theorem blocks_fields (F : Bool) {blocks : UInt32} (h : blocks.toNat < 128) :
    let octet := ((if F then 0x80 else 0x00) + (blocks &&& 0x7F)).toUInt8
    decide (octet &&& 0x80 = 0x80) = F ∧ (octet &&& 0x7F).toUInt32 = blocks := by
  have hlt : blocks.toUInt8 < 128 := by
    rw [UInt8.lt_iff_toNat_lt, UInt32.toNat_toUInt8, Nat.mod_eq_of_lt (by omega)]
    exact h
  have hoctet : ((if F then 0x80 else 0x00) + (blocks &&& 0x7F)).toUInt8 =
      (if F then 0x80 else 0x00) + (blocks.toUInt8 &&& 0x7F) := by
    rw [UInt32.toUInt8_add, UInt32.toUInt8_and]
    cases F <;> rfl
  obtain ⟨hF, hblocks⟩ := septet_fields F hlt
  dsimp only
  rw [hoctet]
  exact ⟨hF, (congrArg UInt8.toUInt32 hblocks).trans (toUInt32_toUInt8 (by omega))⟩

/-- Octet 9 of a confirmed header. -/
theorem sequence_fields (S : Bool) {Ns fsn : UInt8} (hN : Ns < 8) (hf : fsn < 16) :
    let octet := (if S then 0x80 else 0x00) + (Ns &&& 0x07) <<< (4 : UInt8) + (fsn &&& 0x0F)
    decide (octet &&& 0x80 = 0x80) = S ∧ octet >>> (4 : UInt8) &&& 0x07 = Ns ∧ octet &&& 0x0F = fsn := by
  have hall : ∀ S : Bool, ∀ n : Fin 8, ∀ f : Fin 16,
      let octet := (if S then 0x80 else 0x00) + (UInt8.ofNat n &&& 0x07) <<< (4 : UInt8) + (UInt8.ofNat f &&& 0x0F)
      decide (octet &&& 0x80 = 0x80) = S ∧ octet >>> (4 : UInt8) &&& 0x07 = UInt8.ofNat n ∧
        octet &&& 0x0F = UInt8.ofNat f := by decide
  have h := hall S ⟨Ns.toNat, UInt8.lt_iff_toNat_lt.mp hN⟩ ⟨fsn.toNat, UInt8.lt_iff_toNat_lt.mp hf⟩
  dsimp only at h
  rwa [UInt8.ofNat_toNat, UInt8.ofNat_toNat] at h

/-- Octet 8 of a defined short data header: the format arrives when its last two bits are clear. -/
theorem short_fields (F S : Bool) {dataFormat : UInt8} (h : dataFormat < 64) :
    let octet := (if F then 0x01 else 0x00) + (if S then 0x02 else 0x00) + (dataFormat &&& 0xFC) <<< (2 : UInt8)
    decide (octet &&& 0x01 = 0x01) = F ∧ decide (octet &&& 0x02 = 0x02) = S ∧
      ((octet &&& 0xFC) >>> (2 : UInt8) = dataFormat ↔ dataFormat &&& 0x03 = 0) := by
  have hall : ∀ F S : Bool, ∀ w : BitVec 8, UInt8.ofBitVec w < 64 →
      let octet := (if F then 0x01 else 0x00) + (if S then 0x02 else 0x00) +
        (UInt8.ofBitVec w &&& 0xFC) <<< (2 : UInt8)
      decide (octet &&& 0x01 = 0x01) = F ∧ decide (octet &&& 0x02 = 0x02) = S ∧
        ((octet &&& 0xFC) >>> (2 : UInt8) = UInt8.ofBitVec w ↔ UInt8.ofBitVec w &&& 0x03 = 0) := by decide +kernel
  exact hall F S dataFormat.toBitVec h

/-- Octet 8 of a raw data header. -/
theorem port_fields (F S : Bool) {dstPort srcPort : UInt8} (hd : dstPort < 8) (hs : srcPort < 8) :
    let octet := (if F then 0x01 else 0x00) + (if S then 0x02 else 0x00) + (dstPort &&& 0x07) <<< (2 : UInt8) +
      (srcPort &&& 0x07) <<< (5 : UInt8)
    decide (octet &&& 0x01 = 0x01) = F ∧ decide (octet &&& 0x02 = 0x02) = S ∧
      (octet &&& 0x1C) >>> (2 : UInt8) = dstPort ∧ (octet &&& 0xE0) >>> (5 : UInt8) = srcPort := by
  have hall : ∀ F S : Bool, ∀ d s : Fin 8,
      let octet := (if F then 0x01 else 0x00) + (if S then 0x02 else 0x00) +
        (UInt8.ofNat d &&& 0x07) <<< (2 : UInt8) + (UInt8.ofNat s &&& 0x07) <<< (5 : UInt8)
      decide (octet &&& 0x01 = 0x01) = F ∧ decide (octet &&& 0x02 = 0x02) = S ∧
        (octet &&& 0x1C) >>> (2 : UInt8) = UInt8.ofNat d ∧ (octet &&& 0xE0) >>> (5 : UInt8) = UInt8.ofNat s := by
    decide
  have h := hall F S ⟨dstPort.toNat, UInt8.lt_iff_toNat_lt.mp hd⟩ ⟨srcPort.toNat, UInt8.lt_iff_toNat_lt.mp hs⟩
  dsimp only at h
  rwa [UInt8.ofNat_toNat, UInt8.ofNat_toNat] at h

/-! ## Through the product code -/

/-- The octets that are stored before the CRC. -/
def octets (h : DataHeader) : Bytes :=
  if h.DPF = DPF_PROPRIETARY then h.data
  else
    let m_data := encodeFormat h (encodeCommon h)
    if h.DPF = DPF_UDT then setByte m_data 9 (m_data 9 &&& 0xFE) else m_data

theorem maskCRC_of_lt (m_data : Bytes) {i : Nat} (hi : i < 10) : maskCRC m_data i = m_data i := by
  unfold maskCRC
  simp (disch := omega) only [setByte_of_ne]

/-- The mask comes off again. -/
theorem maskCRC_maskCRC (m_data : Bytes) : maskCRC (maskCRC m_data) = m_data := by
  funext i
  unfold maskCRC
  by_cases h11 : i = 11
  · subst h11
    simp (disch := omega) only [setByte_of_ne, setByte_same, UInt8.xor_assoc, UInt8.xor_self, UInt8.xor_zero]
  · by_cases h10 : i = 10
    · subst h10
      simp (disch := omega) only [setByte_of_ne, setByte_same, UInt8.xor_assoc, UInt8.xor_self, UInt8.xor_zero]
    · simp (disch := omega) only [setByte_of_ne]

theorem maskCRC_congr {a b : Bytes} (h : ∀ i < 12, a i = b i) {i : Nat} (hi : i < 12) :
    maskCRC a i = maskCRC b i := by
  unfold maskCRC
  by_cases h11 : i = 11
  · subst h11
    simp (disch := omega) only [setByte_of_ne, setByte_same, h 11 (by decide)]
  · by_cases h10 : i = 10
    · subst h10
      simp (disch := omega) only [setByte_of_ne, setByte_same, h 10 (by decide)]
    · simp (disch := omega) only [setByte_of_ne, h i hi]

/-- What is stored is the octets, with the CRC over them under its mask. -/
theorem encodeData_eq (h : DataHeader) : ∃ m_data : Bytes, (∀ i < 10, m_data i = octets h i) ∧
    encodeData h = maskCRC (CRC.addCCITT162 m_data DMR_LC_HEADER_LENGTH_BYTES) := by
  unfold encodeData octets
  split
  next =>
    refine ⟨_, fun i hi => ?_, rfl⟩
    rw [maskCRC_of_lt _ hi, setByte_of_ne _ _ (by omega), setByte_of_ne _ _ (by omega)]
  next =>
    dsimp only
    split
    next => exact ⟨_, fun i _ => rfl, rfl⟩
    next => exact ⟨_, fun i hi => maskCRC_of_lt _ hi, rfl⟩

/-- **The octets arrive**: an encoded header is accepted, and its fields are read from the octets that were stored. -/
theorem decode_octets (h rx : DataHeader) (data : Bytes) :
    ∃ m_data : Bytes, (∀ i < 10, m_data i = octets h i) ∧
      decode rx (encode h data).2 = (true, decodeFields { rx with data := m_data }) := by
  obtain ⟨sent, hsent, henc⟩ := encodeData_eq h
  have hclean : ∀ i < 12, BPTC19696.decode (encode h data).2 rx.data i = encodeData h i :=
    fun i hi => BPTC19696.decode_clean (encodeData h) data rx.data hi
  generalize hgot : BPTC19696.decode (encode h data).2 rx.data = got at hclean
  have hmask : ∀ i < 12, maskCRC got i = CRC.addCCITT162 sent 12 i := by
    intro i hi
    rw [maskCRC_congr hclean hi, henc, maskCRC_maskCRC]
  have hcrc : CRC.checkCCITT162 (maskCRC got) DMR_LC_HEADER_LENGTH_BYTES = true :=
    CRC.checkCCITT162_add (by decide) hmask
  refine ⟨got, fun i hi => ?_, ?_⟩
  · rw [hclean i (by omega), henc, maskCRC_of_lt _ hi, CRC.addCCITT162_of_lt _ hi, hsent i hi]
  · unfold decode
    dsimp only
    rw [hgot, hcrc, maskCRC_maskCRC, Bool.not_true, if_neg Bool.false_ne_true, ite_self]

/-! ## Headers -/

/-- The packet formats of data headers. -/
def Supported (DPF : UInt8) : Prop :=
    DPF = DPF_UDT ∨ DPF = DPF_RESPONSE ∨ DPF = DPF_UNCONFIRMED_DATA ∨ DPF = DPF_CONFIRMED_DATA ∨
      DPF = DPF_DEFINED_SHORT ∨ DPF = DPF_DEFINED_RAW ∨ DPF = DPF_PROPRIETARY

/-- The fields fit the bits that the format sends them in. -/
structure Legal (h : DataHeader) : Prop where
  sap : h.sap < 16
  srcId : h.srcId.toNat < 2 ^ 24
  dstId : h.dstId.toNat < 2 ^ 24
  padCount : h.DPF ≠ DPF_DEFINED_SHORT → h.padCount < 32
  blocks : h.blocks.toNat < if h.DPF = DPF_DEFINED_SHORT ∨ h.DPF = DPF_DEFINED_RAW then 64 else 128
  blocks_udt : h.DPF = DPF_UDT → 1 ≤ h.blocks.toNat ∧ h.blocks.toNat ≤ 4
  dataFormat : h.dataFormat < if h.DPF = DPF_UDT then 16 else 64
  fsn : h.fsn < 16
  Ns : h.Ns < 8
  rspClass : h.rspClass < 4
  rspType : h.rspType < 8
  rspStatus : h.rspStatus < 8
  dstPort : h.dstPort < 8
  srcPort : h.srcPort < 8
  UDTO : h.UDTO < 64

theorem Legal.blocks_lt {h : DataHeader} (hlegal : h.Legal) : h.blocks.toNat < 128 := by
  have h' := hlegal.blocks
  split at h' <;> omega

/-- The header `got` has every field of `sent` that the format of `sent` carries. A proprietary header carries its
    stored octets. -/
def Recovered (sent got : DataHeader) : Prop :=
  got.GI = sent.GI ∧ got.A = sent.A ∧ got.DPF = sent.DPF ∧
  if sent.DPF = DPF_PROPRIETARY then ∀ i < 10, got.data i = sent.data i
  else (got.dstId = sent.dstId ∧ got.srcId = sent.srcId ∧ got.sap = sent.sap) ∧
    if sent.DPF = DPF_UDT then
      got.dataFormat = sent.dataFormat ∧ got.blocks = sent.blocks ∧ got.padCount = sent.padCount ∧
        got.SF = sent.SF ∧ got.PF = sent.PF ∧ got.UDTO = sent.UDTO
    else if sent.DPF = DPF_UNCONFIRMED_DATA then
      got.padCount = sent.padCount ∧ got.F = sent.F ∧ got.blocks = sent.blocks ∧ got.fsn = sent.fsn
    else if sent.DPF = DPF_CONFIRMED_DATA then
      got.padCount = sent.padCount ∧ got.F = sent.F ∧ got.blocks = sent.blocks ∧ got.S = sent.S ∧ got.Ns = sent.Ns ∧
        got.fsn = sent.fsn
    else if sent.DPF = DPF_RESPONSE then
      got.blocks = sent.blocks ∧ got.rspClass = sent.rspClass ∧ got.rspType = sent.rspType ∧
        got.rspStatus = sent.rspStatus
    else if sent.DPF = DPF_DEFINED_SHORT then
      got.blocks = sent.blocks ∧ got.F = sent.F ∧ got.S = sent.S ∧ got.dataFormat = sent.dataFormat ∧
        got.padCount = sent.padCount
    else got.blocks = sent.blocks ∧ got.F = sent.F ∧ got.S = sent.S ∧ got.dstPort = sent.dstPort ∧
      got.srcPort = sent.srcPort

/-- The stored octets of a header say what its flags and its format say. -/
def Stored (h : DataHeader) : Prop :=
    decide (h.data 0 &&& 0x80 = 0x80) = h.GI ∧ decide (h.data 0 &&& 0x40 = 0x40) = h.A ∧ h.data 0 &&& 0x0F = h.DPF

/-- No format changes what was read before it. -/
theorem decodeFields_kept (h : DataHeader) :
    (decodeFields h).GI = decide (h.data 0 &&& 0x80 = 0x80) ∧ (decodeFields h).A = decide (h.data 0 &&& 0x40 = 0x40) ∧
      (decodeFields h).DPF = h.data 0 &&& 0x0F ∧ (decodeFields h).data = h.data := by
  have hformat : ∀ h : DataHeader, (decodeFormat h).GI = h.GI ∧ (decodeFormat h).A = h.A ∧
      (decodeFormat h).DPF = h.DPF ∧ (decodeFormat h).data = h.data := by
    intro h
    unfold decodeFormat
    (repeat' split) <;> exact ⟨rfl, rfl, rfl, rfl⟩
  unfold decodeFields
  dsimp only
  split
  · exact ⟨rfl, rfl, rfl, rfl⟩
  · exact hformat _

/-- The octets of the identities, which no format writes over. -/
theorem octets_ids {h : DataHeader} (hne : h.DPF ≠ DPF_PROPRIETARY) :
    octets h 2 = (h.dstId >>> (16 : UInt32) &&& 0xFF).toUInt8 ∧
    octets h 3 = (h.dstId >>> (8 : UInt32) &&& 0xFF).toUInt8 ∧
    octets h 4 = (h.dstId >>> (0 : UInt32) &&& 0xFF).toUInt8 ∧
    octets h 5 = (h.srcId >>> (16 : UInt32) &&& 0xFF).toUInt8 ∧
    octets h 6 = (h.srcId >>> (8 : UInt32) &&& 0xFF).toUInt8 ∧
    octets h 7 = (h.srcId >>> (0 : UInt32) &&& 0xFF).toUInt8 := by
  have hformat : ∀ m_data : Bytes, ∀ i, 2 ≤ i → i < 8 → encodeFormat h m_data i = m_data i := by
    intro m_data i h2 h8
    unfold encodeFormat
    dsimp only
    (repeat' split) <;> simp (disch := omega) only [setByte_of_ne]
  have hoctets : ∀ i, 2 ≤ i → i < 8 → octets h i = encodeCommon h i := by
    intro i h2 h8
    unfold octets
    rw [if_neg hne]
    split
    next => rw [setByte_of_ne _ _ (by omega), hformat _ i h2 h8]
    next => exact hformat _ i h2 h8
  rw [hoctets 2 (by decide) (by decide), hoctets 3 (by decide) (by decide), hoctets 4 (by decide) (by decide),
    hoctets 5 (by decide) (by decide), hoctets 6 (by decide) (by decide), hoctets 7 (by decide) (by decide)]
  unfold encodeCommon
  simp (disch := omega) only [setByte_of_ne, setByte_same, and_self]

section Fields

variable {h : DataHeader} (hlegal : h.Legal) {m_data : Bytes} (hm : ∀ i < 10, m_data i = octets h i)

include hlegal hm

/-- What a receiver reads before the `switch`; `x` is what the format puts between the flags and the format. -/
theorem decodeFields_octets (hfmt : Supported h.DPF) (hne : h.DPF ≠ DPF_PROPRIETARY) {x : UInt8}
    (hx : x &&& 0x30 = x) (h0 : octets h 0 = flags h + x) (rx : DataHeader) :
    decodeFields { rx with data := m_data } = decodeFormat { rx with
      data := m_data, GI := h.GI, A := h.A, DPF := h.DPF, dstId := h.dstId, srcId := h.srcId } ∧
      m_data 0 &&& 0x30 = x := by
  have hlt : h.DPF < 16 := by
    rcases hfmt with hf | hf | hf | hf | hf | hf | hf <;> rw [hf] <;> decide
  have e0 := (hm 0 (by decide)).trans h0
  obtain ⟨hGI, hA, hDPF, hbits⟩ := flags_fields hlt hx
  rw [← e0] at hGI hA hDPF hbits
  obtain ⟨o2, o3, o4, o5, o6, o7⟩ := octets_ids hne
  have hdst : word24 (m_data 2) (m_data 3) (m_data 4) = h.dstId := by
    rw [hm 2 (by decide), hm 3 (by decide), hm 4 (by decide), o2, o3, o4, ← sum24_eq_word24]
    exact sum24_octets hlegal.dstId
  have hsrc : word24 (m_data 5) (m_data 6) (m_data 7) = h.srcId := by
    rw [hm 5 (by decide), hm 6 (by decide), hm 7 (by decide), o5, o6, o7, ← sum24_eq_word24]
    exact sum24_octets hlegal.srcId
  refine ⟨?_, hbits⟩
  unfold decodeFields
  dsimp only
  rw [hGI, hA, hDPF, hdst, hsrc, if_neg hne]

/-- **Confirmed headers arrive whole.** -/
theorem recovered_confirmed (hfmt : h.DPF = DPF_CONFIRMED_DATA) (rx : DataHeader) :
    Recovered h (decodeFields { rx with data := m_data }) := by
  have hoctets : octets h 0 = flags h + (h.padCount &&& 0x10) ∧
      octets h 1 = (h.sap &&& 0x0F) <<< (4 : UInt8) + (h.padCount &&& 0x0F) ∧
      octets h 8 = ((if h.F then 0x80 else 0x00) + (h.blocks &&& 0x7F)).toUInt8 ∧
      octets h 9 = (if h.S then 0x80 else 0x00) + (h.Ns &&& 0x07) <<< (4 : UInt8) + (h.fsn &&& 0x0F) := by
    unfold octets encodeFormat encodeCommon flags
    simp +decide (disch := omega) only [hfmt, if_true, if_false, setByte_of_ne, setByte_same, and_self]
  obtain ⟨o0, o1, o8, o9⟩ := hoctets
  obtain ⟨hdec, hpad⟩ := decodeFields_octets hlegal hm (by simp [Supported, hfmt]) (by rw [hfmt]; decide)
    (by rw [UInt8.and_assoc]; rfl) o0 rx
  obtain ⟨hsap, hlow⟩ := nibble_fields h.padCount hlegal.sap
  rw [← o1, ← hm 1 (by decide)] at hsap hlow
  obtain ⟨hF, hblocks⟩ := blocks_fields h.F hlegal.blocks_lt
  rw [← o8, ← hm 8 (by decide)] at hF hblocks
  obtain ⟨hS, hNs, hfsn⟩ := sequence_fields h.S hlegal.Ns hlegal.fsn
  rw [← o9, ← hm 9 (by decide)] at hS hNs hfsn
  have hpad' := pad_split (hlegal.padCount (by rw [hfmt]; decide)) hpad hlow
  rw [hdec]
  unfold Recovered decodeFormat
  simp +decide only [hfmt, if_true, if_false, hsap, hpad', hF, hblocks, hS, hNs, hfsn, and_self]

/-- **Unconfirmed headers arrive whole.** -/
theorem recovered_unconfirmed (hfmt : h.DPF = DPF_UNCONFIRMED_DATA) (rx : DataHeader) :
    Recovered h (decodeFields { rx with data := m_data }) := by
  have hoctets : octets h 0 = flags h + (h.padCount &&& 0x10) ∧
      octets h 1 = (h.sap &&& 0x0F) <<< (4 : UInt8) + (h.padCount &&& 0x0F) ∧
      octets h 8 = ((if h.F then 0x80 else 0x00) + (h.blocks &&& 0x7F)).toUInt8 ∧ octets h 9 = h.fsn := by
    unfold octets encodeFormat encodeCommon flags
    simp +decide (disch := omega) only [hfmt, if_true, if_false, setByte_of_ne, setByte_same, and_self]
  obtain ⟨o0, o1, o8, o9⟩ := hoctets
  obtain ⟨hdec, hpad⟩ := decodeFields_octets hlegal hm (by simp [Supported, hfmt]) (by rw [hfmt]; decide)
    (by rw [UInt8.and_assoc]; rfl) o0 rx
  obtain ⟨hsap, hlow⟩ := nibble_fields h.padCount hlegal.sap
  rw [← o1, ← hm 1 (by decide)] at hsap hlow
  obtain ⟨hF, hblocks⟩ := blocks_fields h.F hlegal.blocks_lt
  rw [← o8, ← hm 8 (by decide)] at hF hblocks
  have hfsn : m_data 9 &&& 0x0F = h.fsn := by
    rw [hm 9 (by decide), o9]
    exact and_mask_of_lt (w := 4) rfl (UInt8.lt_iff_toNat_lt.mp hlegal.fsn)
  have hpad' := pad_split (hlegal.padCount (by rw [hfmt]; decide)) hpad hlow
  rw [hdec]
  unfold Recovered decodeFormat
  simp +decide only [hfmt, if_true, if_false, hsap, hpad', hF, hblocks, hfsn, and_self]

/-- **Responses arrive whole.** -/
theorem recovered_response (hfmt : h.DPF = DPF_RESPONSE) (rx : DataHeader) :
    Recovered h (decodeFields { rx with data := m_data }) := by
  have hoctets : octets h 0 = flags h ∧ octets h 1 = (h.sap &&& 0x0F) <<< (4 : UInt8) ∧
      octets h 8 = (h.blocks &&& 0x7F).toUInt8 ∧
      octets h 9 = (h.rspClass &&& 0x03) <<< (6 : UInt8) + (h.rspType &&& 0x07) <<< (3 : UInt8) +
        (h.rspStatus &&& 0x07) := by
    unfold octets encodeFormat encodeCommon flags
    simp +decide (disch := omega) only [hfmt, if_true, if_false, setByte_of_ne, setByte_same, and_self]
  obtain ⟨o0, o1, o8, o9⟩ := hoctets
  obtain ⟨hdec, -⟩ := decodeFields_octets hlegal hm (by simp [Supported, hfmt]) (by rw [hfmt]; decide)
    (by rfl : (0 : UInt8) &&& 0x30 = 0) (by rw [o0, UInt8.add_zero]) rx
  obtain ⟨hsap, -⟩ := nibble_fields 0 hlegal.sap
  rw [UInt8.zero_and, UInt8.add_zero, ← o1, ← hm 1 (by decide)] at hsap
  obtain ⟨-, hblocks⟩ := blocks_fields false hlegal.blocks_lt
  rw [if_neg Bool.false_ne_true, UInt32.zero_add, ← o8, ← hm 8 (by decide)] at hblocks
  obtain ⟨hclass, htype, hstatus⟩ := response_fields hlegal.rspClass hlegal.rspType hlegal.rspStatus
  rw [← o9, ← hm 9 (by decide)] at hclass htype hstatus
  rw [hdec]
  unfold Recovered decodeFormat
  simp +decide only [hfmt, if_true, if_false, hsap, hblocks, hclass, htype, hstatus, and_self]

/-- **Raw data headers arrive whole.** -/
theorem recovered_raw (hfmt : h.DPF = DPF_DEFINED_RAW) (rx : DataHeader) :
    Recovered h (decodeFields { rx with data := m_data }) := by
  have hoctets : octets h 0 = ((flags h).toUInt32 + (h.blocks &&& 0x30)).toUInt8 ∧
      octets h 1 = ((h.sap &&& 0x0F).toUInt32 <<< (4 : UInt32) + (h.blocks &&& 0x0F)).toUInt8 ∧
      octets h 8 = (if h.F then 0x01 else 0x00) + (if h.S then 0x02 else 0x00) +
        (h.dstPort &&& 0x07) <<< (2 : UInt8) + (h.srcPort &&& 0x07) <<< (5 : UInt8) := by
    unfold octets encodeFormat encodeCommon flags
    simp +decide (disch := omega) only [hfmt, if_true, if_false, setByte_of_ne, setByte_same, and_self]
  obtain ⟨o0, o1, o8⟩ := hoctets
  have hlt : h.blocks.toNat < 64 := by
    have h' := hlegal.blocks
    rwa [if_pos (Or.inr hfmt)] at h'
  obtain ⟨hsplit0, hsplit1⟩ := split_blocks (flags h) h.blocks hlegal.sap
  obtain ⟨hdec, hhigh⟩ := decodeFields_octets hlegal hm (by simp [Supported, hfmt]) (by rw [hfmt]; decide)
    (by rw [UInt8.and_assoc]; rfl) (o0.trans hsplit0) rx
  obtain ⟨hsap, hlow⟩ := nibble_fields h.blocks.toUInt8 hlegal.sap
  rw [← hsplit1, ← o1, ← hm 1 (by decide)] at hsap hlow
  obtain ⟨hF, hS, hdst, hsrc⟩ := port_fields h.F h.S hlegal.dstPort hlegal.srcPort
  rw [← o8, ← hm 8 (by decide)] at hF hS hdst hsrc
  have hblocks := split_word hlt hhigh hlow
  rw [hdec]
  unfold Recovered decodeFormat
  simp +decide only [hfmt, if_true, if_false, hsap, hblocks, hF, hS, hdst, hsrc, and_self]

/-- **Defined short data headers arrive but for the last two bits of their format.** -/
theorem recovered_short (hfmt : h.DPF = DPF_DEFINED_SHORT) (rx : DataHeader) :
    Recovered h (decodeFields { rx with data := m_data }) ↔ h.dataFormat &&& 0x03 = 0 := by
  have hoctets : octets h 0 = ((flags h).toUInt32 + (h.blocks &&& 0x30)).toUInt8 ∧
      octets h 1 = ((h.sap &&& 0x0F).toUInt32 <<< (4 : UInt32) + (h.blocks &&& 0x0F)).toUInt8 ∧
      octets h 8 = (if h.F then 0x01 else 0x00) + (if h.S then 0x02 else 0x00) +
        (h.dataFormat &&& 0xFC) <<< (2 : UInt8) ∧ octets h 9 = h.padCount := by
    unfold octets encodeFormat encodeCommon flags
    simp +decide (disch := omega) only [hfmt, if_true, if_false, setByte_of_ne, setByte_same, and_self]
  obtain ⟨o0, o1, o8, o9⟩ := hoctets
  have hlt : h.blocks.toNat < 64 := by
    have h' := hlegal.blocks
    rwa [if_pos (Or.inl hfmt)] at h'
  have hformat : h.dataFormat < 64 := by
    have h' := hlegal.dataFormat
    rwa [if_neg (by rw [hfmt]; decide)] at h'
  obtain ⟨hsplit0, hsplit1⟩ := split_blocks (flags h) h.blocks hlegal.sap
  obtain ⟨hdec, hhigh⟩ := decodeFields_octets hlegal hm (by simp [Supported, hfmt]) (by rw [hfmt]; decide)
    (by rw [UInt8.and_assoc]; rfl) (o0.trans hsplit0) rx
  obtain ⟨hsap, hlow⟩ := nibble_fields h.blocks.toUInt8 hlegal.sap
  rw [← hsplit1, ← o1, ← hm 1 (by decide)] at hsap hlow
  obtain ⟨hF, hS, hfor⟩ := short_fields h.F h.S hformat
  rw [← o8, ← hm 8 (by decide)] at hF hS hfor
  have hblocks := split_word hlt hhigh hlow
  have hpad := (hm 9 (by decide)).trans o9
  rw [hdec]
  unfold Recovered decodeFormat
  simp +decide only [hfmt, if_true, if_false, hsap, hblocks, hF, hS, hpad, true_and, and_true]
  exact hfor

/-- **Unified data transport headers arrive but for the last bit of their opcode.** -/
theorem recovered_udt (hfmt : h.DPF = DPF_UDT) (rx : DataHeader) :
    Recovered h (decodeFields { rx with data := m_data }) ↔ h.UDTO &&& 0x01 = 0 := by
  have hoctets : octets h 0 = flags h ∧ octets h 1 = (h.sap &&& 0x0F) <<< (4 : UInt8) + (h.dataFormat &&& 0x0F) ∧
      octets h 8 = ((h.padCount &&& 0x1F).toUInt32 <<< (3 : UInt32) + (h.blocks - 1)).toUInt8 ∧
      octets h 9 =
        ((if h.SF then 0x80 else 0x00) + (if h.PF then 0x40 else 0x00) + (h.UDTO &&& 0x3F)) &&& 0xFE := by
    unfold octets encodeFormat encodeCommon flags
    simp +decide (disch := omega) only [hfmt, if_true, if_false, setByte_of_ne, setByte_same, and_self]
  obtain ⟨o0, o1, o8, o9⟩ := hoctets
  have hformat : h.dataFormat &&& 0x0F = h.dataFormat := by
    have h' := hlegal.dataFormat
    rw [if_pos hfmt] at h'
    exact and_mask_of_lt (w := 4) rfl (UInt8.lt_iff_toNat_lt.mp h')
  obtain ⟨hdec, -⟩ := decodeFields_octets hlegal hm (by simp [Supported, hfmt]) (by rw [hfmt]; decide)
    (by rfl : (0 : UInt8) &&& 0x30 = 0) (by rw [o0, UInt8.add_zero]) rx
  obtain ⟨hsap, hlow⟩ := nibble_fields h.dataFormat hlegal.sap
  rw [← o1, ← hm 1 (by decide)] at hsap hlow
  obtain ⟨hblocks, hpad⟩ := more_fields (hlegal.padCount (by rw [hfmt]; decide)) (hlegal.blocks_udt hfmt)
  rw [← o8, ← hm 8 (by decide)] at hblocks hpad
  obtain ⟨hSF, hPF, hopcode⟩ := opcode_fields h.SF h.PF hlegal.UDTO
  rw [← o9, ← hm 9 (by decide)] at hSF hPF hopcode
  rw [hdec]
  unfold Recovered decodeFormat
  simp +decide only [hfmt, if_true, if_false, hsap, hlow, hformat, hblocks, hpad, hSF, hPF, true_and]
  exact hopcode

omit hlegal in
/-- **A proprietary header arrives as its stored octets**, so with its flags and format where they say the same. -/
theorem recovered_proprietary (hfmt : h.DPF = DPF_PROPRIETARY) (rx : DataHeader) :
    Recovered h (decodeFields { rx with data := m_data }) ↔ Stored h := by
  have hoctets : ∀ i < 10, m_data i = h.data i := by
    intro i hi
    rw [hm i hi]
    exact congrFun (if_pos hfmt) i
  obtain ⟨hGI, hA, hDPF, hdata⟩ := decodeFields_kept { rx with data := m_data }
  simp only [hoctets 0 (by decide)] at hGI hA hDPF
  unfold Recovered Stored
  rw [hGI, hA, hDPF, hdata, if_pos hfmt]
  refine ⟨fun hrec => ⟨hrec.1, hrec.2.1, hrec.2.2.1⟩, fun hst => ⟨hst.1, hst.2.1, hst.2.2, hoctets⟩⟩

end Fields

/-- **Which headers are read back**: all but unified data transport ones with an odd opcode, defined short data ones
    with a format that is no multiple of four, and proprietary ones whose stored octets were not those of their flags. -/
theorem dataHeader_roundTrip_iff (h rx : DataHeader) (data : Bytes) (hlegal : h.Legal) (hfmt : Supported h.DPF) :
    (let received := decode rx (encode h data).2
     received.1 = true ∧ Recovered h received.2) ↔
      (h.DPF = DPF_UDT → h.UDTO &&& 0x01 = 0) ∧ (h.DPF = DPF_DEFINED_SHORT → h.dataFormat &&& 0x03 = 0) ∧
        (h.DPF = DPF_PROPRIETARY → Stored h) := by
  obtain ⟨m_data, hm, hdec⟩ := decode_octets h rx data
  dsimp only
  rw [hdec, eq_self_iff_true, true_and]
  rcases hfmt with hf | hf | hf | hf | hf | hf | hf
  · rw [recovered_udt hlegal hm hf rx]
    simp +decide only [hf, true_implies, false_implies, and_true]
  · simp +decide only [recovered_response hlegal hm hf rx, hf, false_implies, and_self]
  · simp +decide only [recovered_unconfirmed hlegal hm hf rx, hf, false_implies, and_self]
  · simp +decide only [recovered_confirmed hlegal hm hf rx, hf, false_implies, and_self]
  · rw [recovered_short hlegal hm hf rx]
    simp +decide only [hf, true_implies, false_implies, and_true, true_and]
  · simp +decide only [recovered_raw hlegal hm hf rx, hf, false_implies, and_self]
  · rw [recovered_proprietary hm hf rx]
    simp +decide only [hf, true_implies, false_implies, true_and]

/-- A defined short data header of one block. -/
def shortHeader (dataFormat : UInt8) : DataHeader :=
  { new (fun _ => 0) with DPF := DPF_DEFINED_SHORT, blocks := 1, dataFormat := dataFormat }

theorem legal_shortHeader {dataFormat : UInt8} (h : dataFormat < 64) : (shortHeader dataFormat).Legal := by
  have hblank : (shortHeader 0).Legal := by constructor <;> decide
  exact { hblank with dataFormat := h }

theorem dataHeader_roundTrip_short : (shortHeader 4).Legal ∧ Supported (shortHeader 4).DPF ∧
    ((let received := decode (new fun _ => 0) (encode (shortHeader 4) fun _ => 0).2
      received.1 = true ∧ Recovered (shortHeader 4) received.2) ↔
        ((shortHeader 4).DPF = DPF_UDT → (shortHeader 4).UDTO &&& 0x01 = 0) ∧
        ((shortHeader 4).DPF = DPF_DEFINED_SHORT → (shortHeader 4).dataFormat &&& 0x03 = 0) ∧
        ((shortHeader 4).DPF = DPF_PROPRIETARY → Stored (shortHeader 4))) :=
  ⟨legal_shortHeader (by decide), by unfold Supported; decide,
    dataHeader_roundTrip_iff (shortHeader 4) (new fun _ => 0) (fun _ => 0) (legal_shortHeader (by decide))
      (by unfold Supported; decide)⟩

/-- **The format does not arrive**: a defined short data header of format 1 is read as one of format 0. -/
theorem format_not_recovered : ¬ ∀ (h rx : DataHeader) (data : Bytes), h.Legal → Supported h.DPF →
    (decode rx (encode h data).2).1 = true ∧ Recovered h (decode rx (encode h data).2).2 := by
  intro hall
  have hlegal : (shortHeader 1).Legal := legal_shortHeader (by decide)
  have hrec := (hall (shortHeader 1) (new fun _ => 0) (fun _ => 0) hlegal (by unfold Supported; decide)).2
  obtain ⟨m_data, hm, hdec⟩ := decode_octets (shortHeader 1) (new fun _ => 0) fun _ => 0
  rw [hdec] at hrec
  exact absurd ((recovered_short hlegal hm rfl _).mp hrec) (by decide)

end DataHeader

end Dmr

end DvmHost

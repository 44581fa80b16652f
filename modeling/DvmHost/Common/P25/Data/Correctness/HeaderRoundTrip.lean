import DvmHost.Common.Edac.Correctness.TrellisRepair
import DvmHost.Common.P25.Data.DataHeader

/-!
# `Common.P25.Data.Correctness.HeaderRoundTrip` — packet data headers are read back

The twelve octets come through the trellis and the CRC as they were encoded (`decode_octets`), so a receiver reads
`decodeFormat` of what `encodeFormat` wrote: one lemma for an octet of packed fields, one theorem for a format. Two
fields that `encode` sends do not arrive: the offset of an unconfirmed header, and the acknowledgement bit of an
alternate trunking block, which `decode` both clears (`header_roundTrip_iff`).
-/

namespace DvmHost

namespace P25

namespace DataHeader

/-! ## Octets of packed fields -/

/-- The first octet: two flags over the format. -/
theorem octet0_fields (ackNeeded outbound : Bool) {fmt : UInt8} (h : fmt < 32) :
    let octet := (if ackNeeded then 0x40 else 0x00) + (if outbound then 0x20 else 0x00) + (fmt &&& 0x1F)
    decide (octet &&& 0x40 = 0x40) = ackNeeded ∧ decide (octet &&& 0x20 = 0x20) = outbound ∧ octet &&& 0x1F = fmt := by
  have hall : ∀ ackNeeded outbound : Bool, ∀ v : BitVec 8, UInt8.ofBitVec v < 32 →
      let octet := (if ackNeeded then 0x40 else 0x00) + (if outbound then 0x20 else 0x00) + (UInt8.ofBitVec v &&& 0x1F)
      decide (octet &&& 0x40 = 0x40) = ackNeeded ∧ decide (octet &&& 0x20 = 0x20) = outbound ∧
        octet &&& 0x1F = UInt8.ofBitVec v := by decide +kernel
  exact hall ackNeeded outbound fmt.toBitVec h

theorem octet1_sap {sap : UInt8} (h : sap < 64) : (sap &&& 0x3F ||| 0xC0) &&& 0x3F = sap := by
  have hall : ∀ v : BitVec 8, UInt8.ofBitVec v < 64 →
      (UInt8.ofBitVec v &&& 0x3F ||| 0xC0) &&& 0x3F = UInt8.ofBitVec v := by decide +kernel
  exact hall sap.toBitVec h

/-- The eighth octet of a confirmed header: sequence numbers and flags. -/
theorem octet8_fields (S lastFragment : Bool) {Ns fsn : UInt8} (hN : Ns < 8) (hf : fsn < 8) :
    let octet := (if S then 0x80 else 0x00) + (Ns &&& 0x07) <<< (4 : UInt8) + (if lastFragment then 0x08 else 0x00) +
      (fsn &&& 0x07)
    decide (octet &&& 0x80 = 0x80) = S ∧ octet >>> (4 : UInt8) &&& 0x07 = Ns ∧ octet &&& 0x07 = fsn ∧
      decide (octet &&& 0x08 = 0x08) = lastFragment := by
  have hall : ∀ S lastFragment : Bool, ∀ n f : Fin 8,
      let octet := (if S then 0x80 else 0x00) + (UInt8.ofNat n &&& 0x07) <<< (4 : UInt8) +
        (if lastFragment then 0x08 else 0x00) + (UInt8.ofNat f &&& 0x07)
      decide (octet &&& 0x80 = 0x80) = S ∧ octet >>> (4 : UInt8) &&& 0x07 = UInt8.ofNat n ∧
        octet &&& 0x07 = UInt8.ofNat f ∧ decide (octet &&& 0x08 = 0x08) = lastFragment := by decide +kernel
  have h := hall S lastFragment ⟨Ns.toNat, UInt8.lt_iff_toNat_lt.mp hN⟩ ⟨fsn.toNat, UInt8.lt_iff_toNat_lt.mp hf⟩
  dsimp only at h
  rwa [UInt8.ofNat_toNat, UInt8.ofNat_toNat] at h

/-! ## Through the trellis -/

/-- The ten octets that are encoded before the CRC. -/
def octets (h : DataHeader) : Bytes := encodeFormat (normalize h) (encodeCommon (normalize h))

/-- **The octets arrive**: an encoded header is accepted, and read from the octets that were encoded. -/
theorem decode_octets (h rx : DataHeader) (warnCRC noTrellis : Bool) (data : Bytes) :
    ∃ m_data : Bytes, (∀ i < 10, m_data i = octets h i) ∧
      decode rx warnCRC (encode h data noTrellis).2 noTrellis =
        (true, decodeFormat (decodeCommon { rx with data := m_data })) := by
  have haccept : ∀ m_data : Bytes, (∀ i < 12, m_data i = CRC.addCCITT162 (octets h) 12 i) →
      CRC.checkCCITT162 m_data P25_PDU_HEADER_LENGTH_BYTES = true :=
    fun m_data hm => CRC.checkCCITT162_add (by decide) hm
  cases noTrellis with
  | true =>
      have hm : ∀ i < 12, (if i < 12 then (encode h data true).2 i else rx.data i) =
          CRC.addCCITT162 (octets h) 12 i := by
        intro i hi
        rw [if_pos hi]
        exact if_pos hi
      refine ⟨fun i => if i < 12 then (encode h data true).2 i else rx.data i, fun i hi => ?_, ?_⟩
      · exact (hm i (by omega)).trans (CRC.addCCITT162_of_lt (octets h) hi)
      · unfold decode
        dsimp only
        rw [if_pos rfl]
        dsimp only
        rw [haccept _ hm]
        rfl
  | false =>
      obtain ⟨m_data, hdec, hm⟩ := Trellis.decode12_clean (CRC.addCCITT162 (octets h) 12) data rx.data
      have hsent : (encode h data false).2 = Trellis.encode12 (CRC.addCCITT162 (octets h) 12) data := rfl
      refine ⟨m_data, fun i hi => (hm i (by omega)).trans (CRC.addCCITT162_of_lt (octets h) hi), ?_⟩
      unfold decode
      dsimp only
      rw [hsent, hdec, if_neg Bool.false_ne_true]
      dsimp only
      rw [haccept m_data hm]
      rfl

/-! ## Headers -/

/-- The fields fit the bits they are sent in. -/
structure Legal (h : DataHeader) : Prop where
  sap : h.sap < 64
  llId : h.llId.toNat < 2 ^ 24
  blocksToFollow : 1 ≤ h.blocksToFollow ∧ h.blocksToFollow < 128
  padCount : h.padCount < 32
  Ns : h.Ns < 8
  fsn : h.fsn < 8
  headerOffset : h.headerOffset < 64
  srcLlId : h.srcLlId.toNat < 2 ^ 24
  rspClass : h.rspClass < 4
  rspType : h.rspType < 8
  rspStatus : h.rspStatus < 8
  ambtOpcode : h.ambtOpcode < 64

/-- The formats of packet data headers. -/
def Supported (fmt : UInt8) : Prop :=
    fmt = PDU_FMT_CONFIRMED ∨ fmt = PDU_FMT_UNCONFIRMED ∨ fmt = PDU_FMT_RSP ∨ fmt = PDU_FMT_AMBT

/-- The header `got` has every field of `sent` that the format of `sent` carries. -/
structure Recovered (sent got : DataHeader) : Prop where
  ackNeeded : got.ackNeeded = sent.ackNeeded
  outbound : got.outbound = sent.outbound
  fmt : got.fmt = sent.fmt
  mfId : got.mfId = sent.mfId
  llId : got.llId = sent.llId
  F : got.F = sent.F
  blocksToFollow : got.blocksToFollow = sent.blocksToFollow
  sap : sent.fmt ≠ PDU_FMT_RSP → got.sap = sent.sap
  confirmed : sent.fmt = PDU_FMT_CONFIRMED → got.padCount = sent.padCount ∧ got.S = sent.S ∧ got.Ns = sent.Ns ∧
    got.fsn = sent.fsn ∧ got.lastFragment = sent.lastFragment ∧ got.headerOffset = sent.headerOffset
  unconfirmed : sent.fmt = PDU_FMT_UNCONFIRMED → got.padCount = sent.padCount ∧ got.headerOffset = sent.headerOffset
  response : sent.fmt = PDU_FMT_RSP → got.rspClass = sent.rspClass ∧ got.rspType = sent.rspType ∧
    got.rspStatus = sent.rspStatus ∧ (sent.F = false → got.srcLlId = sent.srcLlId)
  ambt : sent.fmt = PDU_FMT_AMBT → got.ambtOpcode = sent.ambtOpcode ∧ got.ambtField8 = sent.ambtField8 ∧
    got.ambtField9 = sent.ambtField9

/-- The common octets. -/
theorem encodeCommon_octets (h : DataHeader) :
    encodeCommon h 0 = (if h.ackNeeded then 0x40 else 0x00) + (if h.outbound then 0x20 else 0x00) + (h.fmt &&& 0x1F) ∧
    encodeCommon h 1 = (h.sap &&& 0x3F ||| 0xC0) ∧ encodeCommon h 2 = h.mfId ∧
    encodeCommon h 3 = (h.llId >>> (16 : UInt32) &&& 0xFF).toUInt8 ∧
    encodeCommon h 4 = (h.llId >>> (8 : UInt32) &&& 0xFF).toUInt8 ∧
    encodeCommon h 5 = (h.llId >>> (0 : UInt32) &&& 0xFF).toUInt8 ∧
    encodeCommon h 6 = (if h.F then 0x80 else 0x00) + (h.blocksToFollow &&& 0x7F) := by
  unfold encodeCommon
  simp (disch := omega) only [setByte_of_ne, setByte_same, and_self]

/-- `encodeFormat` leaves the common octets, but for the service access point of a response. -/
theorem encodeFormat_of_lt (h : DataHeader) (header : Bytes) {i : Nat} (hi : i < 7)
    (h1 : i ≠ 1 ∨ h.fmt ≠ PDU_FMT_RSP) : encodeFormat h header i = header i := by
  unfold encodeFormat
  dsimp only
  split
  · simp (disch := omega) only [setByte_of_ne]
  · split
    next hrsp =>
      have hne : i ≠ 1 := h1.resolve_right (not_not.mpr hrsp)
      split <;> simp (disch := omega) only [setByte_of_ne]
    next =>
      split <;> simp (disch := omega) only [setByte_of_ne]

theorem normalize_fields (h : DataHeader) :
    normalize h = { h with ackNeeded := (normalize h).ackNeeded } := by
  unfold normalize
  dsimp only
  split <;> split <;> rfl

theorem normalize_ackNeeded (h : DataHeader) : (normalize h).ackNeeded =
    if h.fmt = PDU_FMT_UNCONFIRMED ∨ h.fmt = PDU_FMT_RSP then false else h.fmt = PDU_FMT_CONFIRMED || h.ackNeeded := by
  unfold normalize
  dsimp only
  by_cases hu : h.fmt = PDU_FMT_UNCONFIRMED ∨ h.fmt = PDU_FMT_RSP
  · have hc : h.fmt ≠ PDU_FMT_CONFIRMED := by
      rcases hu with hf | hf <;> rw [hf] <;> decide
    rw [if_pos hu, if_pos hu, if_neg fun h' => hc h'.1]
  · rw [if_neg hu, if_neg hu]
    by_cases hc : h.fmt = PDU_FMT_CONFIRMED
    · rw [decide_eq_true hc, Bool.true_or]
      cases ha : h.ackNeeded
      · rw [if_pos ⟨hc, rfl⟩]
      · rw [if_neg fun h' => Bool.false_ne_true h'.2]
        exact ha
    · rw [decide_eq_false hc, Bool.false_or, if_neg fun h' => hc h'.1]

section Fields

variable {h : DataHeader} (hlegal : h.Legal) {m_data : Bytes} (hm : ∀ i < 10, m_data i = octets h i)

include hlegal hm

/-- What a receiver reads before the `switch`: the padding and the acknowledgement are still to be seen to. -/
theorem decodeCommon_octets (hfmt : Supported h.fmt) (rx : DataHeader) :
    let got := decodeCommon { rx with data := m_data }
    got.ackNeeded = (normalize h).ackNeeded ∧ got.outbound = h.outbound ∧ got.fmt = h.fmt ∧ got.mfId = h.mfId ∧
      got.llId = h.llId ∧ got.F = h.F ∧ got.blocksToFollow = h.blocksToFollow ∧
      (h.fmt ≠ PDU_FMT_RSP → got.sap = h.sap) ∧
      (h.fmt ≠ PDU_FMT_RSP → h.fmt ≠ PDU_FMT_AMBT → got.padCount = m_data 7 &&& 0x1F) := by
  have hlt : h.fmt < 32 := by
    rcases hfmt with hf | hf | hf | hf <;> rw [hf] <;> decide
  have hnorm := normalize_fields h
  generalize (normalize h).ackNeeded = ackNeeded at hnorm ⊢
  have hoctet : ∀ i < 7, (i ≠ 1 ∨ h.fmt ≠ PDU_FMT_RSP) →
      m_data i = encodeCommon { h with ackNeeded := ackNeeded } i := by
    intro i hi h1
    rw [hm i (by omega)]
    unfold octets
    rw [hnorm]
    exact encodeFormat_of_lt _ _ hi h1
  obtain ⟨o0, o1, o2, o3, o4, o5, o6⟩ := encodeCommon_octets { h with ackNeeded := ackNeeded }
  dsimp only at o0 o1 o2 o3 o4 o5 o6
  obtain ⟨hack, hout, hf⟩ := octet0_fields ackNeeded h.outbound hlt
  obtain ⟨hF, hblocks⟩ := septet_fields h.F hlegal.blocksToFollow.2
  have e0 := (hoctet 0 (by decide) (Or.inl (by decide))).trans o0
  have e2 := (hoctet 2 (by decide) (Or.inl (by decide))).trans o2
  have e6 := (hoctet 6 (by decide) (Or.inl (by decide))).trans o6
  have hllId : sum24 (m_data 3) (m_data 4) (m_data 5) = h.llId := by
    have e3 := (hoctet 3 (by decide) (Or.inl (by decide))).trans o3
    have e4 := (hoctet 4 (by decide) (Or.inl (by decide))).trans o4
    have e5 := (hoctet 5 (by decide) (Or.inl (by decide))).trans o5
    rw [e3, e4, e5]
    exact sum24_octets hlegal.llId
  refine ⟨(congrArg (fun b => decide (b &&& 0x40 = 0x40)) e0).trans hack,
    (congrArg (fun b => decide (b &&& 0x20 = 0x20)) e0).trans hout, (congrArg (· &&& 0x1F) e0).trans hf, e2, hllId,
    (congrArg (fun b => decide (b &&& 0x80 = 0x80)) e6).trans hF, (congrArg (· &&& 0x7F) e6).trans hblocks,
    fun hrsp => ?_, fun hrsp hambt => ?_⟩
  · have e1 := (hoctet 1 (by decide) (Or.inr hrsp)).trans o1
    exact (congrArg (· &&& 0x3F) e1).trans (octet1_sap hlegal.sap)
  · have efmt : m_data 0 &&& 0x1F = h.fmt := (congrArg (· &&& 0x1F) e0).trans hf
    refine if_neg ?_
    dsimp only
    rw [efmt]
    rintro (hc | hc)
    · exact hrsp hc
    · exact hambt hc

/-- **A confirmed header arrives whole.** -/
theorem recovered_confirmed (hfmt : h.fmt = PDU_FMT_CONFIRMED) (rx : DataHeader) :
    Recovered (normalize h) (decodeFormat (decodeCommon { rx with data := m_data })) := by
  have hoctets : octets h 7 = h.padCount &&& 0x1F ∧
      octets h 8 = (if h.S then 0x80 else 0x00) + (h.Ns &&& 0x07) <<< (4 : UInt8) +
        (if h.lastFragment then 0x08 else 0x00) + (h.fsn &&& 0x07) ∧ octets h 9 = h.headerOffset &&& 0x3F := by
    unfold octets encodeFormat
    rw [normalize_fields h]
    dsimp only
    rw [if_pos hfmt]
    simp (disch := omega) only [setByte_of_ne, setByte_same, and_self]
  obtain ⟨hack, hout, hf, hmf, hll, hF, hblocks, hsap, hpad⟩ := decodeCommon_octets hlegal hm (Or.inl hfmt) rx
  have hdata : (decodeCommon { rx with data := m_data }).data = m_data := rfl
  generalize decodeCommon { rx with data := m_data } = got at *
  have hdec : decodeFormat got = { got with
      S := decide (m_data 8 &&& 0x80 = 0x80), Ns := m_data 8 >>> (4 : UInt8) &&& 0x07, fsn := m_data 8 &&& 0x07,
      lastFragment := decide (m_data 8 &&& 0x08 = 0x08), headerOffset := m_data 9 &&& 0x3F } := by
    unfold decodeFormat
    rw [if_pos (hf.trans hfmt), hdata]
  obtain ⟨hS, hNs, hfsn, hlast⟩ := octet8_fields h.S h.lastFragment hlegal.Ns hlegal.fsn
  have hpad' : got.padCount = h.padCount := by
    rw [hpad (by rw [hfmt]; decide) (by rw [hfmt]; decide), hm 7 (by decide), hoctets.1]
    have hlt := UInt8.lt_iff_toNat_lt.mp hlegal.padCount
    rw [and_mask_of_lt (w := 5) rfl hlt, and_mask_of_lt (w := 5) rfl hlt]
  have hoff : m_data 9 &&& 0x3F = h.headerOffset := by
    rw [hm 9 (by decide), hoctets.2.2]
    have hlt := UInt8.lt_iff_toNat_lt.mp hlegal.headerOffset
    rw [and_mask_of_lt (w := 6) rfl hlt, and_mask_of_lt (w := 6) rfl hlt]
  have e8 := (hm 8 (by decide)).trans hoctets.2.1
  rw [hdec, normalize_fields h]
  refine ⟨hack, hout, hf, hmf, hll, hF, hblocks, fun hne => hsap hne, fun _ => ⟨hpad', ?_, ?_, ?_, ?_, hoff⟩, ?_, ?_, ?_⟩
  · exact (congrArg (fun b => decide (b &&& 0x80 = 0x80)) e8).trans hS
  · exact (congrArg (fun b => b >>> (4 : UInt8) &&& 0x07) e8).trans hNs
  · exact (congrArg (· &&& 0x07) e8).trans hfsn
  · exact (congrArg (fun b => decide (b &&& 0x08 = 0x08)) e8).trans hlast
  · intro hc
    exact absurd (hfmt.symm.trans hc) (by decide)
  · intro hc
    exact absurd (hfmt.symm.trans hc) (by decide)
  · intro hc
    exact absurd (hfmt.symm.trans hc) (by decide)

/-- **A response arrives whole**, with the source it answers when it is no full message. -/
theorem recovered_response (hfmt : h.fmt = PDU_FMT_RSP) (rx : DataHeader) :
    Recovered (normalize h) (decodeFormat (decodeCommon { rx with data := m_data })) := by
  have hoctet1 : octets h 1 =
      (h.rspClass &&& 0x03) <<< (6 : UInt8) + (h.rspType &&& 0x07) <<< (3 : UInt8) + (h.rspStatus &&& 0x07) := by
    unfold octets encodeFormat
    rw [normalize_fields h]
    dsimp only
    rw [if_neg (by rw [hfmt]; decide), if_pos hfmt]
    split <;> simp (disch := omega) only [setByte_of_ne, setByte_same]
  have hsource : h.F = false → octets h 7 = (h.srcLlId >>> (16 : UInt32) &&& 0xFF).toUInt8 ∧
      octets h 8 = (h.srcLlId >>> (8 : UInt32) &&& 0xFF).toUInt8 ∧
      octets h 9 = (h.srcLlId >>> (0 : UInt32) &&& 0xFF).toUInt8 := by
    intro hF
    unfold octets encodeFormat
    rw [normalize_fields h]
    dsimp only
    rw [if_neg (by rw [hfmt]; decide), if_pos hfmt, hF, Bool.not_false, if_pos rfl]
    simp (disch := omega) only [setByte_of_ne, setByte_same, and_self]
  have hack' : (normalize h).ackNeeded = false := by
    rw [normalize_ackNeeded, if_pos (Or.inr hfmt)]
  obtain ⟨-, hout, hf, hmf, hll, hF, hblocks, -, -⟩ :=
    decodeCommon_octets hlegal hm (Or.inr (Or.inr (Or.inl hfmt))) rx
  have hdata : (decodeCommon { rx with data := m_data }).data = m_data := rfl
  generalize decodeCommon { rx with data := m_data } = got at *
  obtain ⟨hclass, htype, hstatus⟩ := response_fields hlegal.rspClass hlegal.rspType hlegal.rspStatus
  have e1 := (hm 1 (by decide)).trans hoctet1
  have hdec : ∃ srcLlId : UInt32, (h.F = false → srcLlId = h.srcLlId) ∧ decodeFormat got = { got with
      ackNeeded := false, sap := PDU_SAP_USER_DATA, rspClass := h.rspClass, rspType := h.rspType,
      rspStatus := h.rspStatus, srcLlId := srcLlId } := by
    have eclass := (congrArg (fun b => b >>> (6 : UInt8) &&& 0x03) e1).trans hclass
    have etype := (congrArg (fun b => b >>> (3 : UInt8) &&& 0x07) e1).trans htype
    have estatus := (congrArg (· &&& 0x07) e1).trans hstatus
    unfold decodeFormat
    rw [if_neg (by rw [hf, hfmt]; decide), if_pos (hf.trans hfmt)]
    dsimp only
    rw [hF, hdata, eclass, etype, estatus]
    cases hfull : h.F with
    | true => exact ⟨got.srcLlId, fun h' => absurd h' (by decide), rfl⟩
    | false =>
        obtain ⟨e7, e8, e9⟩ := hsource hfull
        refine ⟨_, fun _ => ?_, rfl⟩
        rw [hm 7 (by decide), hm 8 (by decide), hm 9 (by decide), e7, e8, e9]
        exact sum24_octets hlegal.srcLlId
  obtain ⟨srcLlId, hsrc, hdec⟩ := hdec
  rw [hdec, normalize_fields h]
  refine ⟨hack'.symm, hout, hf, hmf, hll, hF, hblocks, fun hne => absurd hfmt hne, ?_, ?_, fun _ => ⟨rfl, rfl, rfl, hsrc⟩, ?_⟩
  · intro hc
    exact absurd (hfmt.symm.trans hc) (by decide)
  · intro hc
    exact absurd (hfmt.symm.trans hc) (by decide)
  · intro hc
    exact absurd (hfmt.symm.trans hc) (by decide)

/-- **An unconfirmed header arrives but for its offset**, which is read as 0. -/
theorem recovered_unconfirmed (hfmt : h.fmt = PDU_FMT_UNCONFIRMED) (rx : DataHeader) :
    Recovered (normalize h) (decodeFormat (decodeCommon { rx with data := m_data })) ↔ h.headerOffset = 0 := by
  have hoctet7 : octets h 7 = h.padCount &&& 0x1F := by
    unfold octets encodeFormat
    rw [normalize_fields h]
    dsimp only
    rw [if_neg (by rw [hfmt]; decide), if_neg (by rw [hfmt]; decide), if_neg (by rw [hfmt]; decide)]
    simp (disch := omega) only [setByte_of_ne, setByte_same]
  have hack' : (normalize h).ackNeeded = false := by
    rw [normalize_ackNeeded, if_pos (Or.inl hfmt)]
  obtain ⟨-, hout, hf, hmf, hll, hF, hblocks, hsap, hpad⟩ :=
    decodeCommon_octets hlegal hm (Or.inr (Or.inl hfmt)) rx
  generalize decodeCommon { rx with data := m_data } = got at *
  have hdec : decodeFormat got = decodeDefault got := by
    unfold decodeFormat
    rw [if_neg (by rw [hf, hfmt]; decide), if_neg (by rw [hf, hfmt]; decide), if_neg (by rw [hf, hfmt]; decide)]
  have hpad' : got.padCount = h.padCount := by
    rw [hpad (by rw [hfmt]; decide) (by rw [hfmt]; decide), hm 7 (by decide), hoctet7]
    have hlt := UInt8.lt_iff_toNat_lt.mp hlegal.padCount
    rw [and_mask_of_lt (w := 5) rfl hlt, and_mask_of_lt (w := 5) rfl hlt]
  rw [hdec]
  constructor
  · intro hrec
    have hoff := (hrec.unconfirmed (by rw [normalize_fields h]; exact hfmt)).2
    rw [normalize_fields h] at hoff
    exact hoff.symm
  · intro hoff
    rw [normalize_fields h]
    refine ⟨hack'.symm, hout, hf, hmf, hll, hF, hblocks, fun hne => hsap hne, ?_, fun _ => ⟨hpad', hoff.symm⟩, ?_, ?_⟩
    · intro hc
      exact absurd (hfmt.symm.trans hc) (by decide)
    · intro hc
      exact absurd (hfmt.symm.trans hc) (by decide)
    · intro hc
      exact absurd (hfmt.symm.trans hc) (by decide)

/-- **An alternate trunking block arrives but for its acknowledgement bit**, which is read as clear. -/
theorem recovered_ambt (hfmt : h.fmt = PDU_FMT_AMBT) (rx : DataHeader) :
    Recovered (normalize h) (decodeFormat (decodeCommon { rx with data := m_data })) ↔ h.ackNeeded = false := by
  have hoctets : octets h 7 = h.ambtOpcode &&& 0x3F ∧ octets h 8 = h.ambtField8 ∧ octets h 9 = h.ambtField9 := by
    unfold octets encodeFormat
    rw [normalize_fields h]
    dsimp only
    rw [if_neg (by rw [hfmt]; decide), if_neg (by rw [hfmt]; decide), if_pos hfmt]
    simp (disch := omega) only [setByte_of_ne, setByte_same, and_self]
  have hack' : (normalize h).ackNeeded = h.ackNeeded := by
    rw [normalize_ackNeeded, if_neg (by rw [hfmt]; decide), hfmt]
    rfl
  obtain ⟨-, hout, hf, hmf, hll, hF, hblocks, hsap, -⟩ :=
    decodeCommon_octets hlegal hm (Or.inr (Or.inr (Or.inr hfmt))) rx
  have hdata : (decodeCommon { rx with data := m_data }).data = m_data := rfl
  generalize decodeCommon { rx with data := m_data } = got at *
  have hopcode : m_data 7 &&& 0x3F = h.ambtOpcode := by
    rw [hm 7 (by decide), hoctets.1]
    have hlt := UInt8.lt_iff_toNat_lt.mp hlegal.ambtOpcode
    rw [and_mask_of_lt (w := 6) rfl hlt, and_mask_of_lt (w := 6) rfl hlt]
  have hdec : decodeFormat got = decodeDefault { got with
      ambtOpcode := h.ambtOpcode, ambtField8 := h.ambtField8, ambtField9 := h.ambtField9 } := by
    unfold decodeFormat
    rw [if_neg (by rw [hf, hfmt]; decide), if_neg (by rw [hf, hfmt]; decide), if_pos (hf.trans hfmt), hdata, hopcode,
      hm 8 (by decide), hm 9 (by decide), hoctets.2.1, hoctets.2.2]
  rw [hdec]
  constructor
  · intro hrec
    exact hack'.symm.trans hrec.ackNeeded.symm
  · intro hclear
    rw [normalize_fields h]
    refine ⟨(hack'.trans hclear).symm, hout, hf, hmf, hll, hF, hblocks, fun hne => hsap hne, ?_, ?_, ?_, fun _ => ⟨rfl, rfl, rfl⟩⟩
    · intro hc
      exact absurd (hfmt.symm.trans hc) (by decide)
    · intro hc
      exact absurd (hfmt.symm.trans hc) (by decide)
    · intro hc
      exact absurd (hfmt.symm.trans hc) (by decide)

end Fields

/-- **Which headers are read back**: all but unconfirmed ones with an offset, and alternate trunking blocks that ask
    for an acknowledgement. -/
theorem header_roundTrip_iff (h rx : DataHeader) (warnCRC noTrellis : Bool) (data : Bytes) (hlegal : h.Legal)
    (hfmt : Supported h.fmt) :
    (let sent := encode h data noTrellis
     let received := decode rx warnCRC sent.2 noTrellis
     received.1 = true ∧ Recovered sent.1 received.2) ↔
      (h.fmt = PDU_FMT_UNCONFIRMED → h.headerOffset = 0) ∧ (h.fmt = PDU_FMT_AMBT → h.ackNeeded = false) := by
  obtain ⟨m_data, hm, hdec⟩ := decode_octets h rx warnCRC noTrellis data
  have hsent : (encode h data noTrellis).1 = normalize h := rfl
  dsimp only
  rw [hdec, hsent]
  dsimp only
  rw [eq_self_iff_true, true_and]
  rcases hfmt with hc | hu | hr | ha
  · refine iff_of_true (recovered_confirmed hlegal hm hc rx) ⟨fun h' => ?_, fun h' => ?_⟩
    · exact absurd (hc.symm.trans h') (by decide)
    · exact absurd (hc.symm.trans h') (by decide)
  · rw [recovered_unconfirmed hlegal hm hu rx]
    refine ⟨fun h' => ⟨fun _ => h', fun ha => ?_⟩, fun h' => h'.1 hu⟩
    exact absurd (hu.symm.trans ha) (by decide)
  · refine iff_of_true (recovered_response hlegal hm hr rx) ⟨fun h' => ?_, fun h' => ?_⟩
    · exact absurd (hr.symm.trans h') (by decide)
    · exact absurd (hr.symm.trans h') (by decide)
  · rw [recovered_ambt hlegal hm ha rx]
    refine ⟨fun h' => ⟨fun hu => ?_, fun _ => h'⟩, fun h' => h'.2 ha⟩
    exact absurd (ha.symm.trans hu) (by decide)

/-- A header of one block with every other field 0. -/
def blankHeader : DataHeader := { new with fmt := PDU_FMT_UNCONFIRMED, blocksToFollow := 1 }

theorem legal_blankHeader : blankHeader.Legal := by
  constructor <;> decide

/-- An unconfirmed header of one block. -/
def unconfirmedHeader (headerOffset : UInt8) : DataHeader := { blankHeader with headerOffset := headerOffset }

theorem legal_unconfirmedHeader {headerOffset : UInt8} (h : headerOffset < 64) :
    (unconfirmedHeader headerOffset).Legal :=
  { legal_blankHeader with headerOffset := h }

theorem header_roundTrip_unconfirmed : (unconfirmedHeader 0).Legal ∧ Supported (unconfirmedHeader 0).fmt ∧
    ((let sent := encode (unconfirmedHeader 0) (fun _ => 0) false
      let received := decode new false sent.2 false
      received.1 = true ∧ Recovered sent.1 received.2) ↔
        ((unconfirmedHeader 0).fmt = PDU_FMT_UNCONFIRMED → (unconfirmedHeader 0).headerOffset = 0) ∧
        ((unconfirmedHeader 0).fmt = PDU_FMT_AMBT → (unconfirmedHeader 0).ackNeeded = false)) :=
  ⟨legal_unconfirmedHeader (by decide), Or.inr (Or.inl rfl),
    header_roundTrip_iff (unconfirmedHeader 0) new false false (fun _ => 0) (legal_unconfirmedHeader (by decide))
      (Or.inr (Or.inl rfl))⟩

/-- **The offset does not arrive**: an unconfirmed header with offset 8 is not read back. -/
theorem offset_not_recovered : ¬ ∀ (h rx : DataHeader) (warnCRC noTrellis : Bool) (data : Bytes), h.Legal →
    Supported h.fmt →
    (decode rx warnCRC (encode h data noTrellis).2 noTrellis).1 = true ∧
      Recovered (encode h data noTrellis).1 (decode rx warnCRC (encode h data noTrellis).2 noTrellis).2 := by
  intro hall
  have hlegal : (unconfirmedHeader 8).Legal := legal_unconfirmedHeader (by decide)
  have hrec := (hall (unconfirmedHeader 8) new false false (fun _ => 0) hlegal (Or.inr (Or.inl rfl))).2
  obtain ⟨m_data, hm, hdec⟩ := decode_octets (unconfirmedHeader 8) new false false (fun _ => 0)
  rw [hdec] at hrec
  exact absurd ((recovered_unconfirmed hlegal hm rfl new).mp hrec) (by decide)

end DataHeader

end P25

end DvmHost

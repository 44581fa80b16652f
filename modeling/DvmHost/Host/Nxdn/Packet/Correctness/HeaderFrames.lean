import DvmHost.Common.Nxdn.Channel.Correctness.FrameParts
import DvmHost.Common.Nxdn.Lc.Correctness.RtchRoundTrip
import DvmHost.Host.Nxdn.Packet.Correctness.VoiceSides

/-!
# `Host.Nxdn.Packet.Correctness.HeaderFrames` — the frames that a site builds, as a site reads them

A frame is `Readable` when, taken out of the scrambler, its LICH, its SACCH and both of its FACCH1 are valid and say
what was intended. The frames of `headerFrame` are, whatever link control is in their FACCH1 (`readable_headerFrame`).
-/

namespace DvmHost

namespace Nxdn

namespace RTCH

/-- The message types of a header. -/
def IsHeader (messageType : UInt8) : Prop :=
  messageType = RTCH_MESSAGE_TYPE_VCALL ∨ messageType = RTCH_MESSAGE_TYPE_TX_REL

/-- Two link controls with one type, one source and one destination. -/
structure SameCall (a b : RTCH) : Prop where
  messageType : a.messageType = b.messageType
  srcId : a.srcId = b.srcId
  dstId : a.dstId = b.dstId

theorem SameCall.symm {a b : RTCH} (h : SameCall a b) : SameCall b a :=
  ⟨h.messageType.symm, h.srcId.symm, h.dstId.symm⟩

theorem SameCall.trans {a b d : RTCH} (h : SameCall a b) (h' : SameCall b d) : SameCall a d :=
  ⟨h.messageType.trans h'.messageType, h.srcId.trans h'.srcId, h.dstId.trans h'.dstId⟩

/-- What a header is decoded to. -/
theorem decodeLC_header (m : RTCH) (data : Bytes) (hheader : IsHeader (data 0 &&& 0x3F)) :
    (decodeLC m data).2.srcId = word16 (data 3) (data 4) ∧ (decodeLC m data).2.dstId = word16 (data 5) (data 6) := by
  unfold decodeLC
  dsimp only
  rcases hheader with hvcall | hrelease
  · rw [if_pos hvcall]
    exact ⟨rfl, rfl⟩
  · rw [if_neg (by rw [hrelease]; decide), if_neg (by rw [hrelease]; decide), if_pos hrelease]
    exact ⟨rfl, rfl⟩

/-- What a header is encoded to. -/
theorem encodeLC_header {m : RTCH} (hheader : IsHeader m.messageType) :
    encodeLC m 0 &&& 0x3F = m.messageType ∧ word16 (encodeLC m 3) (encodeLC m 4) = m.srcId ∧
      word16 (encodeLC m 5) (encodeLC m 6) = m.dstId := by
  obtain ⟨-, -, h3, h4, h5, h6⟩ := encodeCall_octets m (typeOctet m)
  have htype : encodeLC m 0 &&& 0x3F = m.messageType := by
    rw [encodeLC_typeOctet, UInt8.and_assoc]
    rcases hheader with h | h <;> rw [h] <;> rfl
  have hcall : ∀ i, 3 ≤ i → i < 7 → encodeLC m i = encodeCall m (typeOctet m) i := by
    intro i h3 h7
    unfold encodeLC encodeCipher encodeMode encodeType
    dsimp only
    rcases hheader with hvcall | hrelease
    · rw [if_pos hvcall]
      simp (disch := omega) only [setByte_of_ne]
      rfl
    · rw [if_neg (by rw [hrelease]; decide), if_neg (by rw [hrelease]; decide), if_pos hrelease]
      simp (disch := omega) only [setByte_of_ne]
      rfl
  rw [hcall 3 (by omega) (by omega), hcall 4 (by omega) (by omega), hcall 5 (by omega) (by omega),
    hcall 6 (by omega) (by omega), h3, h4, h5, h6]
  exact ⟨htype, word16_octets m.srcId, word16_octets m.dstId⟩

end RTCH

namespace Voice

open Control RTCH

/-! ## The link control in a FACCH1 -/

/-- The link control that a receiver takes from a FACCH1. -/
def received (buffer : Bytes) (facch : FACCH1) : RTCH :=
  RTCH.new.decode (facch.getData buffer) NXDN_FACCH1_FEC_LENGTH_BITS 0

/-- Ten octets of it are those of the FACCH1. -/
theorem octet_received (buffer : Bytes) (facch : FACCH1) {i : Nat} (hi : i < 10) :
    copyBits (fun _ => 0x00) 0 (facch.getData buffer) 0 NXDN_FACCH1_FEC_LENGTH_BITS i = facch.m_data i := by
  have hcopy : copyBits (fun _ => 0x00) 0 (facch.getData buffer) 0 NXDN_FACCH1_FEC_LENGTH_BITS i
      = facch.getData buffer i := by
    refine byte_of_bits (n := 10) (fun k hk => ?_) hi
    rw [readBit_copyBits, if_pos ⟨Nat.zero_le k, by unfold NXDN_FACCH1_FEC_LENGTH_BITS; omega⟩, Nat.sub_zero,
      Nat.zero_add]
  have hdata := memcpy_add buffer 0 facch.m_data hi
  rw [Nat.zero_add] at hdata
  rw [hcopy, FACCH1.getData, hdata]

theorem messageType_received (buffer : Bytes) (facch : FACCH1) :
    (received buffer facch).messageType = facch.m_data 0 &&& 0x3F := by
  rw [received, RTCH.decode, messageType_decodeLC, octet_received buffer facch (by omega)]

/-- The addresses of a header that was received. -/
theorem addresses_received (buffer : Bytes) {facch : FACCH1} (hheader : IsHeader (facch.m_data 0 &&& 0x3F)) :
    (received buffer facch).srcId = word16 (facch.m_data 3) (facch.m_data 4) ∧
      (received buffer facch).dstId = word16 (facch.m_data 5) (facch.m_data 6) := by
  have h := decodeLC_header RTCH.new
    (copyBits (fun _ => 0x00) 0 (facch.getData buffer) 0 NXDN_FACCH1_FEC_LENGTH_BITS)
    (by rw [octet_received buffer facch (by omega)]; exact hheader)
  rw [octet_received buffer facch (by omega), octet_received buffer facch (by omega),
    octet_received buffer facch (by omega), octet_received buffer facch (by omega)] at h
  exact h

/-- Receivers of the same ten octets read the same header. -/
theorem sameCall_received {tx rx : FACCH1} (hholds : rx.Holds tx) (hheader : IsHeader (tx.m_data 0 &&& 0x3F))
    (buffer buffer' : Bytes) : SameCall (received buffer rx) (received buffer' tx) := by
  have hrx : IsHeader (rx.m_data 0 &&& 0x3F) := by rwa [hholds 0 (by omega)]
  obtain ⟨hsrc, hdst⟩ := addresses_received buffer' hheader
  obtain ⟨hsrc', hdst'⟩ := addresses_received buffer hrx
  refine ⟨?_, ?_, ?_⟩
  · rw [messageType_received, messageType_received, hholds 0 (by omega)]
  · rw [hsrc, hsrc', hholds 3 (by omega), hholds 4 (by omega)]
  · rw [hdst, hdst', hholds 5 (by omega), hholds 6 (by omega)]

theorem octet_setData (facch : FACCH1) (data : Bytes) {i : Nat} (hi : i < 10) : (facch.setData data).m_data i = data i := by
  have hdata := memcpy_add facch.m_data 0 data hi
  rw [Nat.zero_add] at hdata
  exact hdata

/-- A link control that a site puts into a FACCH1. -/
theorem sameCall_setData {lc : RTCH} (hheader : IsHeader lc.messageType) (buffer : Bytes) (facch : FACCH1) :
    SameCall (received buffer (facch.setData (lc.encode (fun _ => 0x00) NXDN_RTCH_LC_LENGTH_BITS 0))) lc := by
  have hoctet : ∀ i < 10,
      (facch.setData (lc.encode (fun _ => 0x00) NXDN_RTCH_LC_LENGTH_BITS 0)).m_data i = encodeLC lc i := by
    intro i hi
    rw [octet_setData _ _ hi]
    refine byte_of_bits (n := 10) (fun k hk => ?_) hi
    rw [RTCH.encode, readBit_copyBits, if_pos ⟨Nat.zero_le k, by unfold NXDN_RTCH_LC_LENGTH_BITS; omega⟩, Nat.sub_zero,
      Nat.zero_add]
  obtain ⟨htype, hsrc, hdst⟩ := encodeLC_header hheader
  generalize facch.setData (lc.encode (fun _ => 0x00) NXDN_RTCH_LC_LENGTH_BITS 0) = facch' at *
  have haddresses := addresses_received buffer
    (show IsHeader (facch'.m_data 0 &&& 0x3F) by rw [hoctet 0 (by omega), htype]; exact hheader)
  refine ⟨?_, ?_, ?_⟩
  · rw [messageType_received, hoctet 0 (by omega), htype]
  · rw [haddresses.1, hoctet 3 (by omega), hoctet 4 (by omega), hsrc]
  · rw [haddresses.2, hoctet 5 (by omega), hoctet 6 (by omega), hdst]

/-! ## Readable frames -/

/-- A FACCH1 that is valid, with a link control of this call. -/
structure ReadsCall (buffer : Bytes) (lc : RTCH) (decoded : Bool × FACCH1) : Prop where
  valid : decoded.1 = true
  call : SameCall (received buffer decoded.2) lc

/-- **Readable.** What a receiver finds in a frame: a LICH with these fields, the site's RAN, and in both FACCH1 a link
    control with the type, the source and the destination of `lc`. -/
structure Readable (c : Settings) (stack : Stack) (rfct : UInt8) (lc : RTCH) (data : Bytes) : Prop where
  lich : (LICH.decode (scrambler data)).1 = true
  rfct : (LICH.decode (scrambler data)).2.m_rfct = rfct
  fct : (LICH.decode (scrambler data)).2.m_fct = NXDN_LICH_USC_SACCH_NS
  option : (LICH.decode (scrambler data)).2.m_option = NXDN_LICH_STEAL_FACCH
  sacch : (SACCH.new.decode stack.mem (scrambler data)).1 = true
  ran : (SACCH.new.decode stack.mem (scrambler data)).2.m_ran.toUInt32 = c.ran
  first : ReadsCall stack.buffer lc (FACCH1.new.decode stack.mem (scrambler data) FACCH1_1_OFFSET)
  second : ReadsCall stack.buffer lc (FACCH1.new.decode stack.mem (scrambler data) FACCH1_2_OFFSET)

variable (c : Settings)

/-- The LICH of a header. -/
def headerLICH (outbound : Bool) : LICH :=
  { LICH.new with
    m_rfct := NXDN_LICH_RFCT_RDCH
    m_fct := NXDN_LICH_USC_SACCH_NS
    m_option := NXDN_LICH_STEAL_FACCH
    m_outbound := outbound }

section HeaderFrame

variable (mem : Channel.Memory) (outbound : Bool) (facch : FACCH1) (data : Bytes)

/-- The frame in front of the two FACCH1. -/
def headerFront : Bytes := ((idleSACCH c).encode mem ((headerLICH outbound).encode (addNXDNSync data))).2

theorem scrambler_headerFrame : scrambler (headerFrame c mem outbound facch data)
    = facch.encode mem (facch.encode mem (headerFront c mem outbound data) FACCH1_1_OFFSET) FACCH1_2_OFFSET :=
  scrambler_scrambler _

/-- Neither FACCH1 touches what is in front of them. -/
theorem agree_headerFront {first length : Nat} (hfront : first + length ≤ 96) :
    Agree first length (scrambler (headerFrame c mem outbound facch data)) (headerFront c mem outbound data) := by
  have hfirst : first + length ≤ FACCH1_1_OFFSET := hfront
  have hsecond : first + length ≤ FACCH1_2_OFFSET := Nat.le_trans hfront (by decide)
  rw [scrambler_headerFrame]
  unfold FACCH1.encode
  exact (Agree.of_encodeBits FACCH1.sound mem _ _ _ (Or.inl hsecond)).trans
    (Agree.of_encodeBits FACCH1.sound mem _ _ _ (Or.inl hfirst))

/-- **The parts of a header**, as any receiver reads them. -/
theorem headerFrame_parts {mem' : Channel.Memory} (hpast : mem'.past = mem.past) :
    let frame := scrambler (headerFrame c mem outbound facch data)
    ((LICH.decode frame).1 = true ∧ (LICH.decode frame).2.m_rfct = NXDN_LICH_RFCT_RDCH ∧
      (LICH.decode frame).2.m_fct = NXDN_LICH_USC_SACCH_NS ∧
      (LICH.decode frame).2.m_option = NXDN_LICH_STEAL_FACCH) ∧
    ((SACCH.new.decode mem' frame).1 = true ∧ (SACCH.new.decode mem' frame).2.m_ran = c.ran.toUInt8 &&& 0x3F) ∧
    ∀ offset, offset = FACCH1_1_OFFSET ∨ offset = FACCH1_2_OFFSET →
      (FACCH1.new.decode mem' frame offset).1 = true ∧ (FACCH1.new.decode mem' frame offset).2.Holds facch := by
  intro frame
  refine ⟨?_, ?_, ?_⟩
  · have hagree : Agree 20 16 frame ((headerLICH outbound).encode (addNXDNSync data)) := by
      refine (agree_headerFront c mem outbound facch data (by omega)).trans ?_
      unfold headerFront SACCH.encode
      exact Agree.of_encodeBits SACCH.sound mem _ _ _ (Or.inl (Nat.le_refl _))
    obtain ⟨hok, hrfct, hfct, hoption, -⟩ := LICH.decode_of_agree hagree
    exact ⟨hok, hrfct.trans (show NXDN_LICH_RFCT_RDCH &&& 0x03 = NXDN_LICH_RFCT_RDCH by decide),
      hfct.trans (show NXDN_LICH_USC_SACCH_NS &&& 0x03 = NXDN_LICH_USC_SACCH_NS by decide),
      hoption.trans (show NXDN_LICH_STEAL_FACCH &&& 0x03 = NXDN_LICH_STEAL_FACCH by decide)⟩
  · obtain ⟨hok, hran, -⟩ := SACCH.recover_of_agree hpast (idleSACCH c) SACCH.new
      (agree_headerFront c mem outbound facch data (show 36 + 60 ≤ 96 by omega))
    exact ⟨hok, hran⟩
  · rintro offset (rfl | rfl)
    · refine FACCH1.recover_of_agree hpast facch FACCH1.new _ (?_ : Agree _ 144 frame
        (facch.encode mem (headerFront c mem outbound data) FACCH1_1_OFFSET))
      show Agree _ _ (scrambler _) _
      rw [scrambler_headerFrame]
      exact Agree.of_encodeBits FACCH1.sound mem _ _ _ (Or.inl (Nat.le_refl _))
    · refine FACCH1.recover_of_agree hpast facch FACCH1.new _ (?_ : Agree _ 144 frame
        (facch.encode mem (facch.encode mem (headerFront c mem outbound data) FACCH1_1_OFFSET) FACCH1_2_OFFSET))
      show Agree _ _ (scrambler _) _
      rw [scrambler_headerFrame]
      exact fun _ _ _ => rfl

end HeaderFrame

/-- A RAN of six bits is sent whole. -/
theorem ran_iff (ran : UInt32) : (ran.toUInt8 &&& 0x3F).toUInt32 = ran ↔ ran < 64 := by
  have hmask : ran.toUInt8.toNat &&& 63 = ran.toNat % 64 := by
    rw [show (63 : Nat) = 2 ^ 6 - 1 from rfl, Nat.and_two_pow_sub_one_eq_mod, UInt32.toNat_toUInt8]
    omega
  rw [← UInt32.toNat_inj, UInt8.toNat_toUInt32, UInt8.toNat_and, UInt32.lt_iff_toNat_lt]
  show ran.toUInt8.toNat &&& 63 = ran.toNat ↔ ran.toNat < 64
  rw [hmask]
  exact Nat.mod_eq_iff_lt (by decide)

/-- **A header is readable exactly when its FACCH1 has the call and the RAN six bits.** -/
theorem readable_headerFrame {mem : Channel.Memory} {stack : Stack} (hpast : stack.mem.past = mem.past)
    (outbound : Bool) {facch : FACCH1} (data : Bytes) {lc : RTCH} (hheader : IsHeader lc.messageType) :
    Readable c stack NXDN_LICH_RFCT_RDCH lc (headerFrame c mem outbound facch data)
      ↔ c.ran < 64 ∧ SameCall (received stack.buffer facch) lc := by
  obtain ⟨⟨hlich, hrfct, hfct, hoption⟩, ⟨hsacch, hran⟩, hfacch⟩ :=
    headerFrame_parts c mem outbound facch data hpast
  obtain ⟨hok1, hholds1⟩ := hfacch _ (Or.inl rfl)
  obtain ⟨hok2, hholds2⟩ := hfacch _ (Or.inr rfl)
  have hreads : ∀ {decoded : Bool × FACCH1}, decoded.1 = true → decoded.2.Holds facch →
      (ReadsCall stack.buffer lc decoded ↔ SameCall (received stack.buffer facch) lc) := by
    intro decoded hok hholds
    constructor
    · intro hread
      have htype : IsHeader (facch.m_data 0 &&& 0x3F) := by
        rw [← hholds 0 (by omega), ← messageType_received stack.buffer, hread.call.messageType]
        exact hheader
      exact (sameCall_received hholds htype stack.buffer stack.buffer).symm.trans hread.call
    · intro hcall
      have htype : IsHeader (facch.m_data 0 &&& 0x3F) := by
        rw [← messageType_received stack.buffer, hcall.messageType]
        exact hheader
      exact ⟨hok, (sameCall_received hholds htype stack.buffer stack.buffer).trans hcall⟩
  constructor
  · intro hreadable
    have hsame := hreadable.ran
    rw [hran] at hsame
    exact ⟨(ran_iff c.ran).mp hsame, (hreads hok1 hholds1).mp hreadable.first⟩
  · rintro ⟨hlt, hcall⟩
    refine ⟨hlich, hrfct, hfct, hoption, hsacch, ?_, (hreads hok1 hholds1).mpr hcall, (hreads hok2 hholds2).mpr hcall⟩
    rw [hran]
    exact (ran_iff c.ran).mpr hlt

end Voice

end Nxdn

end DvmHost

import Mathlib.Data.Nat.Bitwise
import DvmHost.Common.Nxdn.Lc.RTCH

/-!
# `Common.Nxdn.Lc.Correctness.RtchRoundTrip` — which layer 3 messages are read back

What a receiver is given is the buffer `encodeLC` filled (`decode_encodeLC`), so a message comes back whole where the
two `switch`es agree on its type. They disagree on the counts of packet information, which overlap, on what a shift
binds closer than a mask takes away, and on the two types that only one of them has.
-/

namespace DvmHost

namespace Nxdn

/-! ## Packet information -/

namespace PacketInformation

/-- The first octet of a header: the block count runs into the flags from sixteen blocks on. -/
theorem blockCount_fields (delivery selectiveRetry : Bool) (blockCount : UInt8) :
    let octet := (if delivery then 0x80 else 0x00) + (if selectiveRetry then 0x20 else 0x00) + blockCount
    (decide (octet &&& 0x80 = 0x80) = delivery ∧ decide (octet &&& 0x20 = 0x20) = selectiveRetry ∧
      octet &&& 0x0F = blockCount) ↔ blockCount < 16 := by
  have hall : ∀ d s : Bool, ∀ v : BitVec 8,
      let octet := (if d then 0x80 else 0x00) + (if s then 0x20 else 0x00) + UInt8.ofBitVec v
      (decide (octet &&& 0x80 = 0x80) = d ∧ decide (octet &&& 0x20 = 0x20) = s ∧
        octet &&& 0x0F = UInt8.ofBitVec v) ↔ UInt8.ofBitVec v < 16 := by decide +kernel
  exact hall delivery selectiveRetry blockCount.toBitVec

/-- The second octet: the flag of the first fragment is the last bit of the pad count. -/
theorem padCount_fields (padCount : UInt8) (start circular high : Bool) :
    let octet := padCount <<< (3 : UInt8) + (if start then 0x08 else 0x00) + (if circular then 0x04 else 0x00) +
      (if high then 0x01 else 0x00)
    ((octet >>> (3 : UInt8) &&& 0x1F = padCount ∧ decide (octet &&& 0x08 = 0x08) = start ∧
      decide (octet &&& 0x04 = 0x04) = circular) ↔ padCount < 32 ∧ padCount &&& 0x01 = 0 ∧ start = false) ∧
    octet &&& 0x01 = if high then 0x01 else 0x00 := by
  have hall : ∀ v : BitVec 8, ∀ s c h : Bool,
      let octet := UInt8.ofBitVec v <<< (3 : UInt8) + (if s then 0x08 else 0x00) + (if c then 0x04 else 0x00) +
        (if h then 0x01 else 0x00)
      ((octet >>> (3 : UInt8) &&& 0x1F = UInt8.ofBitVec v ∧ decide (octet &&& 0x08 = 0x08) = s ∧
        decide (octet &&& 0x04 = 0x04) = c) ↔
          UInt8.ofBitVec v < 32 ∧ UInt8.ofBitVec v &&& 0x01 = 0 ∧ s = false) ∧
      octet &&& 0x01 = if h then 0x01 else 0x00 := by decide +kernel
  exact hall padCount.toBitVec start circular high

/-- The first octet of a response: the masks that were shifted take the class and the type away. -/
theorem response_octet (rspClass rspType : UInt8) (high : Bool) :
    let octet := (rspClass &&& (0x03 : UInt8) <<< (4 : UInt8)) + (rspType &&& (0x07 : UInt8) <<< (1 : UInt8)) +
      (if high then 0x01 else 0x00)
    (octet >>> (4 : UInt8) &&& 0x03 = rspClass ↔ rspClass = 0) ∧
      (octet >>> (1 : UInt8) &&& 0x07 = rspType ↔ rspType = 0) ∧ octet &&& 0x01 = if high then 0x01 else 0x00 := by
  have hall : ∀ k : Fin 4, ∀ j : Fin 8, ∀ h : Bool,
      let octet := UInt8.ofNat (16 * k) + UInt8.ofNat (2 * j) + (if h then 0x01 else 0x00)
      octet >>> (4 : UInt8) &&& 0x03 = UInt8.ofNat k ∧ octet >>> (1 : UInt8) &&& 0x07 = UInt8.ofNat j ∧
        octet &&& 0x01 = if h then 0x01 else 0x00 := by decide
  have hclass : ∀ v : BitVec 8,
      UInt8.ofBitVec v &&& (0x03 : UInt8) <<< (4 : UInt8) = UInt8.ofNat (16 * (v.toNat / 16 % 4)) ∧
        (UInt8.ofNat (v.toNat / 16 % 4) = UInt8.ofBitVec v ↔ UInt8.ofBitVec v = 0) := by decide
  have htype : ∀ v : BitVec 8,
      UInt8.ofBitVec v &&& (0x07 : UInt8) <<< (1 : UInt8) = UInt8.ofNat (2 * (v.toNat / 2 % 8)) ∧
        (UInt8.ofNat (v.toNat / 2 % 8) = UInt8.ofBitVec v ↔ UInt8.ofBitVec v = 0) := by decide
  obtain ⟨hk, hk0⟩ := hclass rspClass.toBitVec
  obtain ⟨hj, hj0⟩ := htype rspType.toBitVec
  obtain ⟨h4, h1, h0⟩ := hall ⟨rspClass.toBitVec.toNat / 16 % 4, by omega⟩
    ⟨rspType.toBitVec.toNat / 2 % 8, by omega⟩ high
  dsimp only at hk hj h4 h1 h0 ⊢
  rw [hk, hj, h4, h1, h0]
  exact ⟨hk0, hj0, rfl⟩

/-- The ninth bit of a fragment count. -/
theorem toNat_highFragCount (p : PacketInformation) : p.highFragCount.toNat = p.fragmentCount.toNat / 256 % 2 := by
  have hbit : p.fragmentCount &&& 0x100 = 0x100 ↔ p.fragmentCount.toNat / 256 % 2 = 1 := by
    have hand : p.fragmentCount.toNat &&& 256 = p.fragmentCount.toNat / 256 % 2 * 256 := by
      have h := Nat.and_two_pow p.fragmentCount.toNat 8
      rw [Nat.toNat_testBit] at h
      exact h
    have h256 : (0x100 : UInt16).toNat = 256 := rfl
    rw [← UInt16.toNat_inj, UInt16.toNat_and, h256, hand]
    omega
  unfold highFragCount
  split
  next h => exact (hbit.mp h).symm
  next h =>
    have hne := mt hbit.mpr h
    have hzero : (0x00 : UInt8).toNat = 0 := rfl
    omega

/-- **A fragment count of nine bits is kept.** -/
theorem fragments_iff (p : PacketInformation) {high : UInt8} (h : high &&& 0x01 = p.highFragCount) :
    fragments high (p.fragmentCount &&& 0xFF).toUInt8 = p.fragmentCount ↔ p.fragmentCount.toNat < 512 := by
  have hlow : (p.fragmentCount &&& 0xFF).toUInt8.toNat = p.fragmentCount.toNat % 256 := by
    have hand : p.fragmentCount.toNat &&& 255 = p.fragmentCount.toNat % 256 := Nat.and_two_pow_sub_one_eq_mod _ 8
    have h255 : (0xFF : UInt16).toNat = 255 := rfl
    rw [UInt16.toNat_toUInt8, UInt16.toNat_and, h255, hand, Nat.mod_mod]
  have hhigh := p.toNat_highFragCount
  have hsum : (fragments high (p.fragmentCount &&& 0xFF).toUInt8).toNat = p.fragmentCount.toNat % 512 := by
    unfold fragments
    rw [h]
    simp only [UInt16.toNat_add, UInt16.toNat_shiftLeft, UInt8.toNat_toUInt16, hlow, hhigh, UInt16.reduceToNat,
      Nat.shiftLeft_eq, Nat.reduceMod, Nat.reducePow]
    omega
  rw [← UInt16.toNat_inj, hsum]
  omega

/-- The two headers carry the delivery and the counts of blocks and padding. -/
def HeaderCarried (sent got : PacketInformation) : Prop :=
    got.delivery = sent.delivery ∧ got.selectiveRetry = sent.selectiveRetry ∧ got.blockCount = sent.blockCount ∧
      got.padCount = sent.padCount ∧ got.start = sent.start ∧ got.circular = sent.circular

/-- The header whose counts do not run into other fields. -/
def HeaderFits (p : PacketInformation) : Prop :=
    p.blockCount < 16 ∧ p.padCount < 32 ∧ p.padCount &&& 0x01 = 0 ∧ p.start = false

/-- An acknowledgement carries the response and the count of fragments. -/
def ResponseCarried (sent got : PacketInformation) : Prop :=
    got.rspClass = sent.rspClass ∧ got.rspType = sent.rspType ∧ got.fragmentCount = sent.fragmentCount

theorem encodeHeader_congr {sent got : PacketInformation} (h : HeaderCarried sent got) (data : Bytes) :
    got.encodeHeader data = sent.encodeHeader data := by
  obtain ⟨h1, h2, h3, h4, h5, h6⟩ := h
  unfold encodeHeader
  rw [h1, h2, h3, h4, h5, h6]

theorem highFragCount_congr {sent got : PacketInformation} (h : got.fragmentCount = sent.fragmentCount) :
    got.highFragCount = sent.highFragCount := by
  unfold highFragCount
  rw [h]

theorem encodeHeader_octets (p : PacketInformation) (data : Bytes) :
    p.encodeHeader data 0 = (if p.delivery then 0x80 else 0x00) + (if p.selectiveRetry then 0x20 else 0x00) +
      p.blockCount ∧
    p.encodeHeader data 1 = p.padCount <<< (3 : UInt8) + (if p.start then 0x08 else 0x00) +
      (if p.circular then 0x04 else 0x00) ∧
    p.encodeHeader data 2 = 0x00 := by
  unfold encodeHeader
  simp (disch := omega) only [setByte_of_ne, setByte_same, true_and]
  exact if_pos (by decide)

/-- `highFragCount` as the flag it is added for. -/
theorem highFragCount_eq (p : PacketInformation) : ∃ high : Bool, p.highFragCount = if high then 0x01 else 0x00 := by
  refine ⟨decide (p.fragmentCount &&& 0x100 = 0x100), ?_⟩
  unfold highFragCount
  by_cases h : p.fragmentCount &&& 0x100 = 0x100
  · rw [if_pos h, decide_eq_true h, if_pos rfl]
  · rw [if_neg h, decide_eq_false h, if_neg Bool.false_ne_true]

/-- **Which headers are read back**, given their octets with what the count of fragments adds to the second. -/
theorem headerCarried_iff (p got : PacketInformation) {data : Bytes} {high : Bool}
    (h0 : data 0 = (if p.delivery then 0x80 else 0x00) + (if p.selectiveRetry then 0x20 else 0x00) + p.blockCount)
    (h1 : data 1 = p.padCount <<< (3 : UInt8) + (if p.start then 0x08 else 0x00) +
      (if p.circular then 0x04 else 0x00) + (if high then 0x01 else 0x00)) :
    HeaderCarried p (decodeHeader got data) ↔ HeaderFits p := by
  have hblock := blockCount_fields p.delivery p.selectiveRetry p.blockCount
  have hpad := (padCount_fields p.padCount p.start p.circular high).1
  dsimp only at hblock hpad
  rw [← h0] at hblock
  rw [← h1] at hpad
  unfold HeaderFits
  rw [← hblock, ← hpad]
  exact ⟨fun h => ⟨⟨h.1, h.2.1, h.2.2.1⟩, h.2.2.2⟩, fun h => ⟨h.1.1, h.1.2.1, h.1.2.2, h.2⟩⟩

/-- A data call header is read back when its counts fit. -/
theorem decode_encode_dcall (p got : PacketInformation) (data : Bytes) :
    let received := (got.decode RTCH_MESSAGE_TYPE_DCALL_HDR (p.encode RTCH_MESSAGE_TYPE_DCALL_HDR data)).2
    (HeaderCarried p received ∧ received.fragmentCount = p.fragmentCount) ↔
      HeaderFits p ∧ p.fragmentCount.toNat < 512 := by
  obtain ⟨high, hhigh⟩ := p.highFragCount_eq
  obtain ⟨o0, o1, -⟩ := encodeHeader_octets p data
  have henc : ∀ i, p.encode RTCH_MESSAGE_TYPE_DCALL_HDR data i =
      setByte (setByte (p.encodeHeader data) 1 (p.encodeHeader data 1 + p.highFragCount)) 2
        (p.fragmentCount &&& 0xFF).toUInt8 i := fun i => congrFun (if_pos rfl) i
  have e0 := (henc 0).trans (setByte_of_ne _ _ (by decide)) |>.trans (setByte_of_ne _ _ (by decide)) |>.trans o0
  have e1 : p.encode RTCH_MESSAGE_TYPE_DCALL_HDR data 1 = p.padCount <<< (3 : UInt8) +
      (if p.start then 0x08 else 0x00) + (if p.circular then 0x04 else 0x00) + (if high then 0x01 else 0x00) := by
    rw [henc, setByte_of_ne _ _ (by decide), setByte_same, o1, hhigh]
  have e2 := (henc 2).trans (setByte_same _ _ _)
  have hbit : p.encode RTCH_MESSAGE_TYPE_DCALL_HDR data 1 &&& 0x01 = p.highFragCount := by
    rw [e1, hhigh]
    exact (padCount_fields p.padCount p.start p.circular high).2
  have hcount := p.fragments_iff hbit
  rw [← e2] at hcount
  dsimp only
  rw [← hcount, ← headerCarried_iff p got e0 e1]
  rfl

/-- A short data call header is read back when its counts fit. -/
theorem decode_encode_sdcall (p got : PacketInformation) (data : Bytes) :
    HeaderCarried p
      (got.decode RTCH_MESSAGE_TYPE_SDCALL_REQ_HDR (p.encode RTCH_MESSAGE_TYPE_SDCALL_REQ_HDR data)).2 ↔
      HeaderFits p := by
  obtain ⟨o0, o1, -⟩ := encodeHeader_octets p data
  have henc : p.encode RTCH_MESSAGE_TYPE_SDCALL_REQ_HDR data = p.encodeHeader data := rfl
  have e1 : p.encode RTCH_MESSAGE_TYPE_SDCALL_REQ_HDR data 1 = p.padCount <<< (3 : UInt8) +
      (if p.start then 0x08 else 0x00) + (if p.circular then 0x04 else 0x00) +
      (if false then 0x01 else 0x00) := by
    rw [henc, o1, if_neg Bool.false_ne_true, UInt8.add_zero]
  exact headerCarried_iff p got ((congrFun henc 0).trans o0) e1

/-- A response is read back when there is none. -/
theorem decode_encode_ack (p got : PacketInformation) (data : Bytes) :
    ResponseCarried p (got.decode RTCH_MESSAGE_TYPE_DCALL_ACK (p.encode RTCH_MESSAGE_TYPE_DCALL_ACK data)).2 ↔
      p.rspClass = 0 ∧ p.rspType = 0 ∧ p.fragmentCount.toNat < 512 := by
  obtain ⟨high, hhigh⟩ := p.highFragCount_eq
  have henc : p.encode RTCH_MESSAGE_TYPE_DCALL_ACK data 0 =
      (p.rspClass &&& (0x03 : UInt8) <<< (4 : UInt8)) + (p.rspType &&& (0x07 : UInt8) <<< (1 : UInt8)) +
        (if high then 0x01 else 0x00) ∧
      p.encode RTCH_MESSAGE_TYPE_DCALL_ACK data 1 = (p.fragmentCount &&& 0xFF).toUInt8 := by
    unfold encode
    rw [if_neg (by decide), if_pos rfl, hhigh]
    simp (disch := omega) only [setByte_of_ne, setByte_same, and_self]
  obtain ⟨e0, e1⟩ := henc
  obtain ⟨hclass, htype, hbit⟩ := response_octet p.rspClass p.rspType high
  rw [← e0] at hclass htype hbit
  have hcount := p.fragments_iff (hbit.trans hhigh.symm)
  rw [← e1] at hcount
  rw [← hclass, ← htype, ← hcount]
  rfl

theorem encodeHeader_of_ge (p : PacketInformation) (data : Bytes) {k : Nat} (hk : 3 ≤ k) :
    p.encodeHeader data k = data k := by
  unfold encodeHeader
  simp (disch := omega) only [setByte_of_ne]
  exact if_neg (Nat.not_lt.mpr hk)

/-- Packet information has no more than three octets, that of an acknowledgement two. -/
theorem encode_of_ge (p : PacketInformation) (messageType : UInt8) (data : Bytes) {k : Nat}
    (hk : 2 ≤ k) (h3 : 3 ≤ k ∨ messageType = RTCH_MESSAGE_TYPE_DCALL_ACK) : p.encode messageType data k = data k := by
  unfold encode
  split
  next h =>
    have hge : 3 ≤ k := h3.resolve_right fun h' => absurd (h.symm.trans h') (by decide)
    simp (disch := omega) only [setByte_of_ne]
    exact encodeHeader_of_ge p data hge
  next =>
    split
    next => simp (disch := omega) only [setByte_of_ne]
    next hne =>
      have hge : 3 ≤ k := h3.resolve_right hne
      split
      next => exact encodeHeader_of_ge p data hge
      next => rfl

end PacketInformation

namespace RTCH

/-! ## Octets of packed fields -/

theorem octet1_fields (emergency priority : Bool) :
    let octet := (if emergency then 0x80 else 0x00) + (if priority then 0x20 else (0x00 : UInt8))
    decide (octet &&& 0x80 = 0x80) = emergency ∧ decide (octet &&& 0x20 = 0x20) = priority := by
  cases emergency <;> cases priority <;> decide

/-- Octet 2: the call type, and the mode where there is one. -/
theorem octet2_fields (callType transmissionMode : UInt8) (duplex : Bool) :
    let octet := (callType &&& 0x07) <<< (5 : UInt8) + (if duplex then 0x10 else 0x00) + (transmissionMode &&& 0x07)
    octet >>> (5 : UInt8) &&& 0x07 = callType &&& 0x07 ∧ decide (octet &&& 0x10 = 0x10) = duplex ∧
      octet &&& 0x07 = transmissionMode &&& 0x07 := by
  have hall : ∀ k j : Fin 8, ∀ d : Bool,
      let octet := UInt8.ofNat k <<< (5 : UInt8) + (if d then 0x10 else 0x00) + UInt8.ofNat j
      octet >>> (5 : UInt8) &&& 0x07 = UInt8.ofNat k ∧ decide (octet &&& 0x10 = 0x10) = d ∧
        octet &&& 0x07 = UInt8.ofNat j := by decide
  have hmask : (0x07 : UInt8).toNat = 2 ^ 3 - 1 := rfl
  obtain ⟨k, hk⟩ := exists_and_mask callType hmask
  obtain ⟨j, hj⟩ := exists_and_mask transmissionMode hmask
  dsimp only
  rw [hk, hj]
  exact hall k j duplex

/-- Octet 7: the cipher and its key. -/
theorem octet7_fields (algId kId : UInt8) :
    let octet := (algId &&& 0x03) <<< (6 : UInt8) + (kId &&& 0x3F)
    octet >>> (6 : UInt8) &&& 0x03 = algId &&& 0x03 ∧ octet &&& 0x3F = kId &&& 0x3F := by
  have hall : ∀ k : Fin 4, ∀ j : Fin 64,
      let octet := UInt8.ofNat k <<< (6 : UInt8) + UInt8.ofNat j
      octet >>> (6 : UInt8) &&& 0x03 = UInt8.ofNat k ∧ octet &&& 0x3F = UInt8.ofNat j := by decide
  obtain ⟨k, hk⟩ := exists_and_mask algId (show (0x03 : UInt8).toNat = 2 ^ 2 - 1 from rfl)
  obtain ⟨j, hj⟩ := exists_and_mask kId (show (0x3F : UInt8).toNat = 2 ^ 6 - 1 from rfl)
  dsimp only
  rw [hk, hj]
  exact hall k j

/-- Octet 1 of a data message: the mask that was shifted leaves nothing of a frame number. -/
theorem number_fields (frameNumber blockNumber : UInt8) :
    let octet := (frameNumber &&& (0x0F : UInt8) <<< (4 : UInt8)) + (blockNumber &&& 0x0F)
    (octet >>> (4 : UInt8) &&& 0x0F = frameNumber ↔ frameNumber = 0) ∧ octet &&& 0x0F = blockNumber &&& 0x0F := by
  have hall : ∀ k j : Fin 16,
      let octet := UInt8.ofNat (16 * k) + UInt8.ofNat j
      octet >>> (4 : UInt8) &&& 0x0F = UInt8.ofNat k ∧ octet &&& 0x0F = UInt8.ofNat j := by decide
  have hframe : ∀ v : BitVec 8,
      UInt8.ofBitVec v &&& (0x0F : UInt8) <<< (4 : UInt8) = UInt8.ofNat (16 * (v.toNat / 16)) ∧
        (UInt8.ofNat (v.toNat / 16) = UInt8.ofBitVec v ↔ UInt8.ofBitVec v = 0) := by decide
  obtain ⟨hk, hk0⟩ := hframe frameNumber.toBitVec
  obtain ⟨j, hj⟩ := exists_and_mask blockNumber (show (0x0F : UInt8).toNat = 2 ^ 4 - 1 from rfl)
  obtain ⟨h4, h0⟩ := hall ⟨frameNumber.toBitVec.toNat / 16, by omega⟩ j
  dsimp only at hk h4 h0 ⊢
  rw [hk, hj, h4, h0]
  exact ⟨hk0, rfl⟩

/-! ## What a message carries -/

/-- The call. -/
def CallCarried (sent got : RTCH) : Prop :=
    got.callType = sent.callType ∧ got.emergency = sent.emergency ∧ got.priority = sent.priority ∧
      got.srcId = sent.srcId ∧ got.dstId = sent.dstId

/-- The mode. -/
def ModeCarried (sent got : RTCH) : Prop :=
    got.duplex = sent.duplex ∧ got.transmissionMode = sent.transmissionMode

/-- The cipher. -/
def CipherCarried (sent got : RTCH) : Prop := got.algId = sent.algId ∧ got.kId = sent.kId

/-- The message indicator, where a cipher is in use. -/
def MiCarried (sent got : RTCH) : Prop := sent.Enciphered → ∀ i < 8, got.mi i = sent.mi i

/-- The message types that either side handles, and the extension that neither does. -/
def Handled (messageType : UInt8) : Prop :=
    messageType = RTCH_MESSAGE_TYPE_VCALL ∨ messageType = RTCH_MESSAGE_TYPE_VCALL_IV ∨
    messageType = RTCH_MESSAGE_TYPE_SDCALL_IV ∨ messageType = RTCH_MESSAGE_TYPE_TX_REL ∨
    messageType = RTCH_MESSAGE_TYPE_TX_REL_EX ∨ messageType = RTCH_MESSAGE_TYPE_DCALL_HDR ∨
    messageType = RTCH_MESSAGE_TYPE_DCALL_DATA ∨ messageType = RTCH_MESSAGE_TYPE_SDCALL_REQ_DATA ∨
    messageType = RTCH_MESSAGE_TYPE_DCALL_ACK ∨ messageType = RTCH_MESSAGE_TYPE_HEAD_DLY ∨
    messageType = MESSAGE_TYPE_IDLE ∨ messageType = RTCH_MESSAGE_TYPE_SDCALL_REQ_HDR ∨
    messageType = RTCH_MESSAGE_TYPE_SDCALL_RESP

/-- The message `got` has every field of `sent` that the type of `sent` carries. -/
def Recovered (sent got : RTCH) : Prop :=
  got.messageType = sent.messageType ∧
  if sent.messageType = RTCH_MESSAGE_TYPE_VCALL then
    CallCarried sent got ∧ ModeCarried sent got ∧ CipherCarried sent got
  else if sent.messageType = RTCH_MESSAGE_TYPE_VCALL_IV ∨ sent.messageType = RTCH_MESSAGE_TYPE_SDCALL_IV then
    MiCarried sent got
  else if sent.messageType = RTCH_MESSAGE_TYPE_TX_REL then CallCarried sent got
  else if sent.messageType = RTCH_MESSAGE_TYPE_DCALL_HDR then
    (CallCarried sent got ∧ ModeCarried sent got ∧ CipherCarried sent got) ∧
      (sent.packetInfo.HeaderCarried got.packetInfo ∧
        got.packetInfo.fragmentCount = sent.packetInfo.fragmentCount) ∧ MiCarried sent got
  else if sent.messageType = RTCH_MESSAGE_TYPE_DCALL_DATA ∨ sent.messageType = RTCH_MESSAGE_TYPE_SDCALL_REQ_DATA then
    got.dataFrameNumber = sent.dataFrameNumber ∧ got.dataBlockNumber = sent.dataBlockNumber
  else if sent.messageType = RTCH_MESSAGE_TYPE_DCALL_ACK then
    CallCarried sent got ∧ ModeCarried sent got ∧ sent.rsp.ResponseCarried got.rsp
  else if sent.messageType = RTCH_MESSAGE_TYPE_HEAD_DLY then
    CallCarried sent got ∧ got.delayCount = sent.delayCount
  else if sent.messageType = RTCH_MESSAGE_TYPE_SDCALL_REQ_HDR then
    (CallCarried sent got ∧ ModeCarried sent got ∧ CipherCarried sent got) ∧
      sent.packetInfo.HeaderCarried got.packetInfo
  else if sent.messageType = RTCH_MESSAGE_TYPE_SDCALL_RESP then
    CallCarried sent got ∧ ModeCarried sent got ∧ got.causeRsp = sent.causeRsp
  else True

/-- A message that a receiver in the state `rx` gets whole.

    The counts of packet information must not run into each other, frame numbers and responses must be 0, and what
    only the receiver handles must be what it makes of an empty buffer. An initialization vector needs a receiver
    that knows of the cipher. -/
def Intact (sent rx : RTCH) : Prop :=
  if sent.messageType = RTCH_MESSAGE_TYPE_VCALL then
    sent.callType < 8 ∧ sent.transmissionMode < 8 ∧ sent.algId < 4 ∧ sent.kId < 64
  else if sent.messageType = RTCH_MESSAGE_TYPE_VCALL_IV then
    sent.Enciphered → rx.Enciphered ∨ ∀ i < 8, sent.mi i = 0 ∧ rx.mi i = 0
  else if sent.messageType = RTCH_MESSAGE_TYPE_SDCALL_IV then
    sent.Enciphered → ∀ i < 8, sent.mi i = if rx.Enciphered then 0 else rx.mi i
  else if sent.messageType = RTCH_MESSAGE_TYPE_TX_REL then sent.callType < 8
  else if sent.messageType = RTCH_MESSAGE_TYPE_DCALL_HDR then
    (sent.callType < 8 ∧ sent.transmissionMode < 8 ∧ sent.algId < 4 ∧ sent.kId < 64) ∧
      sent.packetInfo.HeaderFits ∧ sent.packetInfo.fragmentCount.toNat < 512
  else if sent.messageType = RTCH_MESSAGE_TYPE_DCALL_DATA ∨ sent.messageType = RTCH_MESSAGE_TYPE_SDCALL_REQ_DATA then
    sent.dataFrameNumber = 0 ∧ sent.dataBlockNumber < 16
  else if sent.messageType = RTCH_MESSAGE_TYPE_DCALL_ACK then
    (sent.callType < 8 ∧ sent.transmissionMode < 8) ∧
      sent.rsp.rspClass = 0 ∧ sent.rsp.rspType = 0 ∧ sent.rsp.fragmentCount.toNat < 512
  else if sent.messageType = RTCH_MESSAGE_TYPE_HEAD_DLY then sent.callType < 8
  else if sent.messageType = RTCH_MESSAGE_TYPE_SDCALL_REQ_HDR then
    (sent.callType < 8 ∧ sent.transmissionMode < 8 ∧ sent.algId < 4 ∧ sent.kId < 64) ∧ sent.packetInfo.HeaderFits
  else if sent.messageType = RTCH_MESSAGE_TYPE_SDCALL_RESP then
    (sent.callType = 0 ∧ sent.emergency = false ∧ sent.priority = false ∧ sent.srcId = 0 ∧ sent.dstId = 0) ∧
      (sent.duplex = false ∧ sent.transmissionMode = 0) ∧ sent.causeRsp = 0
  else True

/-- The octets of a message. -/
def octetCount (messageType : UInt8) : Nat :=
  if messageType = RTCH_MESSAGE_TYPE_VCALL then 8
  else if messageType = RTCH_MESSAGE_TYPE_VCALL_IV ∨ messageType = RTCH_MESSAGE_TYPE_SDCALL_IV then 9
  else if messageType = RTCH_MESSAGE_TYPE_TX_REL then 7
  else if messageType = RTCH_MESSAGE_TYPE_DCALL_HDR then 19
  else if messageType = RTCH_MESSAGE_TYPE_DCALL_DATA ∨ messageType = RTCH_MESSAGE_TYPE_SDCALL_REQ_DATA then 2
  else if messageType = RTCH_MESSAGE_TYPE_DCALL_ACK ∨ messageType = RTCH_MESSAGE_TYPE_HEAD_DLY then 9
  else if messageType = RTCH_MESSAGE_TYPE_SDCALL_REQ_HDR then 11
  else if messageType = RTCH_MESSAGE_TYPE_SDCALL_RESP then 8
  else 1

/-! ## Through the bits of a frame -/

theorem encodeCall_of_ge (m : RTCH) (data : Bytes) {k : Nat} (hk : 7 ≤ k) : encodeCall m data k = data k := by
  unfold encodeCall
  simp (disch := omega) only [setByte_of_ne]

/-- An encoded message is 0 behind its octets. -/
theorem encodeLC_of_ge (m : RTCH) {k : Nat} (hk : octetCount m.messageType ≤ k) (h1 : 1 ≤ k) : encodeLC m k = 0x00 := by
  have htail : ∀ (p : PacketInformation) (n : Nat) (data : Bytes), n + 2 ≤ k →
      (n + 3 ≤ k ∨ m.messageType = RTCH_MESSAGE_TYPE_DCALL_ACK) →
      onTail n (p.encode m.messageType) data k = data k := by
    intro p n data h2 h3
    have hpos : n + (k - n) = k := by omega
    unfold onTail
    rw [if_neg (by omega), p.encode_of_ge _ _ (by omega) (h3.imp_left fun h => by omega)]
    exact congrArg data hpos
  have hmi : ∀ (data : Bytes) (n : Nat), n + 8 ≤ k → encodeMi m data n k = data k := by
    intro data n h8
    unfold encodeMi
    split
    · exact if_neg fun h => absurd h.2 (by unfold NXDN_MI_LENGTH_BYTES; omega)
    · rfl
  have h0 : setByte (fun _ => 0x00) 0 (m.messageType &&& 0x3F) k = 0x00 := setByte_of_ne _ _ (by omega)
  have hlen : ∀ {t : UInt8}, m.messageType = t → octetCount t ≤ k := fun h => h ▸ hk
  unfold encodeLC encodeCipher encodeMode encodeType
  dsimp only
  split
  next h =>
    have hge : 8 ≤ k := hlen h
    simp (disch := omega) only [setByte_of_ne, encodeCall_of_ge]
  next =>
    split
    next h =>
      have hge : 9 ≤ k := hlen h
      rw [hmi _ _ hge, h0]
    next =>
      split
      next h =>
        have hge : 7 ≤ k := hlen h
        simp (disch := omega) only [setByte_of_ne, encodeCall_of_ge]
      next =>
        split
        next h =>
          have hge : 19 ≤ k := hlen h
          rw [hmi _ _ (by omega), htail _ _ _ (by omega) (Or.inl (by omega))]
          simp (disch := omega) only [setByte_of_ne, encodeCall_of_ge]
        next =>
          split
          next h =>
            have hge : 2 ≤ k := h.elim (fun h => hlen h) fun h => hlen h
            simp (disch := omega) only [setByte_of_ne]
          next =>
            split
            next h =>
              have hge : 9 ≤ k := hlen h
              rw [htail _ _ _ hge (Or.inr h)]
              simp (disch := omega) only [setByte_of_ne, encodeCall_of_ge]
            next =>
              split
              next h =>
                have hge : 9 ≤ k := hlen h
                simp (disch := omega) only [setByte_of_ne, encodeCall_of_ge]
              next =>
                split
                next => exact h0
                next =>
                  split
                  next h =>
                    have hge : 11 ≤ k := hlen h
                    rw [htail _ _ _ (by omega) (Or.inl hge)]
                    simp (disch := omega) only [setByte_of_ne, encodeCall_of_ge]
                  next => exact h0

/-- **The octets arrive**: a receiver of enough bits is given what the sender filled in. -/
theorem decode_encodeLC (m rx : RTCH) (data : Bytes) {length : Nat} (offset : Nat)
    (hlen : 8 * octetCount m.messageType ≤ length) (h8 : 8 ≤ length) :
    decode rx (encode m data length offset) length offset = (decodeLC rx (encodeLC m)).2 := by
  have hbuffer : copyBits (fun _ => 0x00) 0 (encode m data length offset) offset length = encodeLC m := by
    apply bytes_ext
    intro k
    unfold encode
    rw [readBit_copyBits, readBit_copyBits]
    by_cases hk : k < length
    · rw [if_pos (by omega), if_pos (by omega)]
      congr 1
      omega
    · rw [if_neg (by omega), readBit_eq, readBit_eq, encodeLC_of_ge m (by omega) (by omega)]
  unfold decode
  rw [hbuffer]

/-! ## Calls -/

/-- Octet 0 of every message. -/
def typeOctet (m : RTCH) : Bytes := setByte (fun _ => 0x00) 0 (m.messageType &&& 0x3F)

theorem encodeCall_octets (m : RTCH) (data : Bytes) :
    encodeCall m data 0 = data 0 ∧
    encodeCall m data 1 = (if m.emergency then 0x80 else 0x00) + (if m.priority then 0x20 else 0x00) ∧
    encodeCall m data 3 = (m.srcId >>> (8 : UInt16) &&& 0xFF).toUInt8 ∧
    encodeCall m data 4 = (m.srcId >>> (0 : UInt16) &&& 0xFF).toUInt8 ∧
    encodeCall m data 5 = (m.dstId >>> (8 : UInt16) &&& 0xFF).toUInt8 ∧
    encodeCall m data 6 = (m.dstId >>> (0 : UInt16) &&& 0xFF).toUInt8 := by
  unfold encodeCall
  simp (disch := omega) only [setByte_of_ne, setByte_same, and_self]

/-- A three-bit field is kept. -/
theorem and_0x07_iff (v : UInt8) : v &&& 0x07 = v ↔ v < 8 := by
  rw [UInt8.lt_iff_toNat_lt]
  exact and_mask_iff (w := 3) rfl

section Call

variable {sent : RTCH} {data : Bytes}

/-- A call is read back when its type fits. -/
theorem call_iff (hoctets : ∀ i < 7, i ≠ 2 → data i = encodeCall sent (typeOctet sent) i)
    (h2 : data 2 >>> (5 : UInt8) &&& 0x07 = sent.callType &&& 0x07) (m : RTCH) :
    CallCarried sent (decodeCall m data) ↔ sent.callType < 8 := by
  obtain ⟨-, o1, o3, o4, o5, o6⟩ := encodeCall_octets sent (typeOctet sent)
  have e1 := (hoctets 1 (by decide) (by decide)).trans o1
  obtain ⟨hemergency, hpriority⟩ := octet1_fields sent.emergency sent.priority
  rw [← e1] at hemergency hpriority
  have hsrc : word16 (data 3) (data 4) = sent.srcId := by
    rw [hoctets 3 (by decide) (by decide), hoctets 4 (by decide) (by decide), o3, o4]
    exact word16_octets sent.srcId
  have hdst : word16 (data 5) (data 6) = sent.dstId := by
    rw [hoctets 5 (by decide) (by decide), hoctets 6 (by decide) (by decide), o5, o6]
    exact word16_octets sent.dstId
  rw [← and_0x07_iff, ← h2]
  exact ⟨fun h => h.1, fun h => ⟨h, hemergency, hpriority, hsrc, hdst⟩⟩

/-- A call without a mode. -/
theorem type_iff (hoctets : ∀ i < 7, data i = encodeType sent (encodeCall sent (typeOctet sent)) i) (m : RTCH) :
    CallCarried sent (decodeCall m data) ↔ sent.callType < 8 := by
  have h2 := (hoctets 2 (by decide)).trans (setByte_same _ _ _)
  have htype := (octet2_fields sent.callType 0 false).1
  rw [if_neg Bool.false_ne_true, UInt8.zero_and, UInt8.add_zero, UInt8.add_zero, ← h2] at htype
  exact call_iff (fun i hi hne => (hoctets i hi).trans (setByte_of_ne _ _ hne)) htype m

/-- A call with a mode. -/
theorem mode_iff (hoctets : ∀ i < 7, data i = encodeMode sent (encodeCall sent (typeOctet sent)) i) (m : RTCH) :
    (CallCarried sent (decodeMode (decodeCall m data) data) ∧ ModeCarried sent (decodeMode (decodeCall m data) data)) ↔
      sent.callType < 8 ∧ sent.transmissionMode < 8 := by
  have h2 := (hoctets 2 (by decide)).trans (setByte_same _ _ _)
  obtain ⟨htype, hduplex, hmode⟩ := octet2_fields sent.callType sent.transmissionMode sent.duplex
  rw [← h2] at htype hduplex hmode
  have hcall := call_iff (fun i hi hne => (hoctets i hi).trans (setByte_of_ne _ _ hne)) htype m
  have hmode' : ModeCarried sent (decodeMode (decodeCall m data) data) ↔ sent.transmissionMode < 8 := by
    rw [← and_0x07_iff, ← hmode]
    exact ⟨fun h => h.2, fun h => ⟨hduplex, h⟩⟩
  exact and_congr hcall hmode'

/-- A call with a mode and a cipher. -/
theorem cipher_iff
    (hoctets : ∀ i < 8, data i = encodeCipher sent (encodeMode sent (encodeCall sent (typeOctet sent))) i) (m : RTCH) :
    let got := decodeCipher (decodeMode (decodeCall m data) data) data
    (CallCarried sent got ∧ ModeCarried sent got ∧ CipherCarried sent got) ↔
      sent.callType < 8 ∧ sent.transmissionMode < 8 ∧ sent.algId < 4 ∧ sent.kId < 64 := by
  have h7 := (hoctets 7 (by decide)).trans (setByte_same _ _ _)
  obtain ⟨halg, hkey⟩ := octet7_fields sent.algId sent.kId
  rw [← h7] at halg hkey
  have hmode := mode_iff (fun i hi => (hoctets i (by omega)).trans (setByte_of_ne _ _ (by omega))) m
  have hcipher : CipherCarried sent (decodeCipher (decodeMode (decodeCall m data) data) data) ↔
      sent.algId < 4 ∧ sent.kId < 64 := by
    have halg' : sent.algId &&& 0x03 = sent.algId ↔ sent.algId < 4 := by
      rw [UInt8.lt_iff_toNat_lt]
      exact and_mask_iff (w := 2) rfl
    have hkey' : sent.kId &&& 0x3F = sent.kId ↔ sent.kId < 64 := by
      rw [UInt8.lt_iff_toNat_lt]
      exact and_mask_iff (w := 6) rfl
    rw [← halg', ← hkey', ← halg, ← hkey]
    exact Iff.rfl
  dsimp only
  rw [← and_assoc, ← and_assoc]
  exact and_congr hmode hcipher

end Call

/-! ## Messages -/

theorem encodeMi_of_lt (m : RTCH) (data : Bytes) {n i : Nat} (hi : i < n) : encodeMi m data n i = data i := by
  unfold encodeMi
  split
  · exact memcpy_of_lt _ _ _ hi
  · rfl

/-- The message indicator is read under the receiver's cipher. -/
theorem decodeMi_mi (m : RTCH) (data : Bytes) (n : Nat) {i : Nat} (hi : i < 8) :
    (decodeMi m data n).mi i = if m.Enciphered then data (n + i) else m.mi i := by
  have hcopy := memcpy_add (fun _ => 0x00) 0 (fromByte n data) hi
  rw [Nat.zero_add] at hcopy
  unfold decodeMi
  split
  · exact hcopy
  · rfl

/-- Nothing else changes with it. -/
theorem decodeMi_kept (m : RTCH) (data : Bytes) (n : Nat) : ∃ mi : Bytes, decodeMi m data n = { m with mi := mi } := by
  unfold decodeMi
  split
  · exact ⟨_, rfl⟩
  · exact ⟨m.mi, rfl⟩

theorem encodeLC_typeOctet (m : RTCH) : encodeLC m 0 = m.messageType &&& 0x3F := by
  have htype : typeOctet m 0 = m.messageType &&& 0x3F := setByte_same _ _ _
  have hcall : encodeCall m (typeOctet m) 0 = m.messageType &&& 0x3F := (encodeCall_octets m _).1.trans htype
  have htail : ∀ (n : Nat) (f : Bytes → Bytes) (data : Bytes), 0 < n → onTail n f data 0 = data 0 :=
    fun n f data hn => if_pos hn
  unfold encodeLC encodeCipher encodeMode encodeType
  dsimp only
  (repeat' split) <;> first | exact htype | (simp (disch := omega) only [setByte_of_ne, encodeMi_of_lt, htail]; exact hcall)

theorem and_0x3F_of_handled {messageType : UInt8} (h : Handled messageType) : messageType &&& 0x3F = messageType := by
  rcases h with h | h | h | h | h | h | h | h | h | h | h | h | h <;> rw [h] <;> decide

section Messages

/-- What a receiver takes for the type. -/
theorem received_type (sent : RTCH) (hfmt : Handled sent.messageType) : encodeLC sent 0 &&& 0x3F = sent.messageType := by
  rw [encodeLC_typeOctet, UInt8.and_assoc]
  exact and_0x3F_of_handled hfmt

variable {sent : RTCH} (rx : RTCH)

/-- **Voice calls.** -/
theorem recovered_vcall (hfmt : sent.messageType = RTCH_MESSAGE_TYPE_VCALL) :
    Recovered sent (decodeLC rx (encodeLC sent)).2 ↔ Intact sent rx := by
  have htype := received_type sent (by simp only [hfmt, Handled, true_or])
  have henc : encodeLC sent = encodeCipher sent (encodeMode sent (encodeCall sent (typeOctet sent))) := if_pos hfmt
  have hdec : (decodeLC rx (encodeLC sent)).2 = decodeCipher (decodeMode (decodeCall
      { rx with messageType := sent.messageType } (encodeLC sent)) (encodeLC sent)) (encodeLC sent) := by
    unfold decodeLC
    simp +decide only [htype, hfmt, if_true]
  have hiff := cipher_iff (fun i _ => congrFun henc i) { rx with messageType := sent.messageType }
  unfold Recovered Intact
  simp +decide only [hfmt, if_true]
  rw [hdec]
  exact ⟨fun h => hiff.mp h.2, fun h => ⟨hfmt, hiff.mpr h⟩⟩

/-- **Releases.** -/
theorem recovered_release (hfmt : sent.messageType = RTCH_MESSAGE_TYPE_TX_REL) :
    Recovered sent (decodeLC rx (encodeLC sent)).2 ↔ Intact sent rx := by
  have htype := received_type sent (by simp only [hfmt, Handled, true_or, or_true])
  have henc : encodeLC sent = encodeType sent (encodeCall sent (typeOctet sent)) := by
    unfold encodeLC
    simp +decide only [hfmt, if_true, if_false]
    rw [typeOctet, hfmt]
  have hdec : (decodeLC rx (encodeLC sent)).2 =
      decodeCall { rx with messageType := sent.messageType } (encodeLC sent) := by
    unfold decodeLC
    simp +decide only [htype, hfmt, if_true, if_false]
  have hiff := type_iff (fun i _ => congrFun henc i) { rx with messageType := sent.messageType }
  unfold Recovered Intact
  simp +decide only [hfmt, if_true, if_false]
  rw [hdec]
  exact ⟨fun h => hiff.mp h.2, fun h => ⟨hfmt, hiff.mpr h⟩⟩

/-- **Header delays.** -/
theorem recovered_delay (hfmt : sent.messageType = RTCH_MESSAGE_TYPE_HEAD_DLY) :
    Recovered sent (decodeLC rx (encodeLC sent)).2 ↔ Intact sent rx := by
  have htype := received_type sent (by simp only [hfmt, Handled, true_or, or_true])
  have henc : encodeLC sent = setByte (setByte (encodeType sent (encodeCall sent (typeOctet sent))) 7
      (sent.delayCount >>> (8 : UInt16) &&& 0xFF).toUInt8) 8 (sent.delayCount >>> (0 : UInt16) &&& 0xFF).toUInt8 := by
    unfold encodeLC
    simp +decide only [hfmt, if_true, if_false]
    rw [typeOctet, hfmt]
  have hdec : (decodeLC rx (encodeLC sent)).2 =
      { decodeCall { rx with messageType := sent.messageType } (encodeLC sent) with
        delayCount := word16 (encodeLC sent 7) (encodeLC sent 8) } := by
    unfold decodeLC
    simp +decide only [htype, hfmt, if_true, if_false]
  have hdelay : word16 (encodeLC sent 7) (encodeLC sent 8) = sent.delayCount := by
    rw [henc, setByte_of_ne _ _ (by decide), setByte_same, setByte_same]
    exact word16_octets sent.delayCount
  have hoctets : ∀ i < 7, encodeLC sent i = encodeType sent (encodeCall sent (typeOctet sent)) i := by
    intro i hi
    rw [henc, setByte_of_ne _ _ (by omega), setByte_of_ne _ _ (by omega)]
  have hiff := type_iff hoctets { rx with messageType := sent.messageType }
  unfold Recovered Intact
  simp +decide only [hfmt, if_true, if_false]
  rw [hdec]
  exact ⟨fun h => hiff.mp h.2.1, fun h => ⟨hfmt, hiff.mpr h, hdelay⟩⟩

/-- **User data.** -/
theorem recovered_data
    (hfmt : sent.messageType = RTCH_MESSAGE_TYPE_DCALL_DATA ∨ sent.messageType = RTCH_MESSAGE_TYPE_SDCALL_REQ_DATA) :
    Recovered sent (decodeLC rx (encodeLC sent)).2 ↔ Intact sent rx := by
  have htype := received_type sent (by
    rcases hfmt with h | h <;> simp only [h, Handled, true_or, or_true])
  have henc : encodeLC sent 1 = (sent.dataFrameNumber &&& (0x0F : UInt8) <<< (4 : UInt8)) +
      (sent.dataBlockNumber &&& 0x0F) := by
    unfold encodeLC
    rcases hfmt with h | h <;> simp +decide only [h, if_true, if_false, setByte_same]
  have hdec : (decodeLC rx (encodeLC sent)).2 = { rx with
      messageType := sent.messageType, dataFrameNumber := encodeLC sent 1 >>> (4 : UInt8) &&& 0x0F,
      dataBlockNumber := encodeLC sent 1 &&& 0x0F } := by
    unfold decodeLC
    rcases hfmt with h | h <;> simp +decide only [htype, h, if_true, if_false]
  obtain ⟨hframe, hblock⟩ := number_fields sent.dataFrameNumber sent.dataBlockNumber
  rw [← henc] at hframe hblock
  have hblock' : encodeLC sent 1 &&& 0x0F = sent.dataBlockNumber ↔ sent.dataBlockNumber < 16 := by
    rw [hblock, UInt8.lt_iff_toNat_lt]
    exact and_mask_iff (w := 4) rfl
  rw [hdec]
  unfold Recovered Intact
  rcases hfmt with h | h <;> simp +decide only [h, if_true, if_false, hframe, hblock', true_and]

/-- **Acknowledgements.** -/
theorem recovered_ack (hfmt : sent.messageType = RTCH_MESSAGE_TYPE_DCALL_ACK) :
    Recovered sent (decodeLC rx (encodeLC sent)).2 ↔ Intact sent rx := by
  have htype := received_type sent (by simp only [hfmt, Handled, true_or, or_true])
  have henc : encodeLC sent = onTail 7 (sent.rsp.encode RTCH_MESSAGE_TYPE_DCALL_ACK)
      (encodeMode sent (encodeCall sent (typeOctet sent))) := by
    unfold encodeLC
    simp +decide only [hfmt, if_true, if_false]
    rw [typeOctet, hfmt]
  have hdec : (decodeLC rx (encodeLC sent)).2 =
      { decodeMode (decodeCall { rx with messageType := sent.messageType } (encodeLC sent)) (encodeLC sent) with
        rsp := (PacketInformation.new.decode RTCH_MESSAGE_TYPE_DCALL_ACK (fromByte 7 (encodeLC sent))).2 } := by
    unfold decodeLC
    simp +decide only [htype, hfmt, if_true, if_false]
    rfl
  have hoctets : ∀ i < 7, encodeLC sent i = encodeMode sent (encodeCall sent (typeOctet sent)) i := by
    intro i hi
    rw [henc]
    exact if_pos hi
  have htail : fromByte 7 (encodeLC sent) = sent.rsp.encode RTCH_MESSAGE_TYPE_DCALL_ACK
      (fromByte 7 (encodeMode sent (encodeCall sent (typeOctet sent)))) := by
    rw [henc]
    exact fromByte_onTail 7 _ _
  have hiff := mode_iff hoctets { rx with messageType := sent.messageType }
  have hrsp := sent.rsp.decode_encode_ack PacketInformation.new
    (fromByte 7 (encodeMode sent (encodeCall sent (typeOctet sent))))
  rw [← htail] at hrsp
  unfold Recovered Intact
  simp +decide only [hfmt, if_true, if_false]
  rw [hdec]
  exact ⟨fun h => ⟨hiff.mp ⟨h.2.1, h.2.2.1⟩, hrsp.mp h.2.2.2⟩,
    fun h => ⟨hfmt, (hiff.mpr h.1).1, (hiff.mpr h.1).2, hrsp.mpr h.2⟩⟩

/-- **Data call headers.** -/
theorem recovered_header (hfmt : sent.messageType = RTCH_MESSAGE_TYPE_DCALL_HDR) :
    Recovered sent (decodeLC rx (encodeLC sent)).2 ↔ Intact sent rx := by
  have htype := received_type sent (by simp only [hfmt, Handled, true_or, or_true])
  generalize hcall : encodeCipher sent (encodeMode sent (encodeCall sent (typeOctet sent))) = call
  have henc : encodeLC sent =
      encodeMi sent (onTail 8 (sent.packetInfo.encode RTCH_MESSAGE_TYPE_DCALL_HDR) call) 11 := by
    rw [← hcall]
    unfold encodeLC
    simp +decide only [hfmt, if_true, if_false]
    rw [typeOctet, hfmt]
  have hbefore : ∀ i < 11, encodeLC sent i =
      onTail 8 (sent.packetInfo.encode RTCH_MESSAGE_TYPE_DCALL_HDR) call i := by
    intro i hi
    rw [henc, encodeMi_of_lt _ _ hi]
  have hoctets : ∀ i < 8, encodeLC sent i =
      encodeCipher sent (encodeMode sent (encodeCall sent (typeOctet sent))) i := by
    intro i hi
    rw [hbefore i (by omega), hcall]
    exact if_pos hi
  generalize hgot : decodeCipher (decodeMode (decodeCall { rx with messageType := sent.messageType } (encodeLC sent))
    (encodeLC sent)) (encodeLC sent) = got
  have hiff := cipher_iff hoctets { rx with messageType := sent.messageType }
  dsimp only at hiff
  rw [hgot] at hiff
  -- the packet information is read from the three octets it was written to
  have hinfo : ∀ i < 3, fromByte 8 (encodeLC sent) i =
      sent.packetInfo.encode RTCH_MESSAGE_TYPE_DCALL_HDR (fromByte 8 call) i := by
    intro i hi
    rw [← fromByte_onTail 8 (sent.packetInfo.encode RTCH_MESSAGE_TYPE_DCALL_HDR)]
    exact hbefore _ (by omega)
  have hpacket := sent.packetInfo.decode_encode_dcall PacketInformation.new (fromByte 8 call)
  have hread : PacketInformation.new.decode RTCH_MESSAGE_TYPE_DCALL_HDR (fromByte 8 (encodeLC sent)) =
      PacketInformation.new.decode RTCH_MESSAGE_TYPE_DCALL_HDR
        (sent.packetInfo.encode RTCH_MESSAGE_TYPE_DCALL_HDR (fromByte 8 call)) := by
    unfold PacketInformation.decode PacketInformation.decodeHeader
    rw [if_pos rfl, if_pos rfl]
    simp only [hinfo 0 (by decide), hinfo 1 (by decide), hinfo 2 (by decide)]
  dsimp only at hpacket
  rw [← hread] at hpacket
  have hdec : (decodeLC rx (encodeLC sent)).2 = decodeMi { got with
      packetInfo := (PacketInformation.new.decode RTCH_MESSAGE_TYPE_DCALL_HDR (fromByte 8 (encodeLC sent))).2 }
      (encodeLC sent) 11 := by
    rw [← hgot]
    unfold decodeLC
    simp +decide only [htype, hfmt, if_true, if_false]
    rfl
  -- and the message indicator under the cipher that was read
  have hmi : CipherCarried sent got → MiCarried sent (decodeLC rx (encodeLC sent)).2 := by
    intro hcipher hon i hi
    have hgoton : got.Enciphered := by
      unfold Enciphered at hon ⊢
      rwa [hcipher.1, hcipher.2]
    rw [hdec, decodeMi_mi _ _ _ hi]
    refine (if_pos hgoton).trans ?_
    rw [henc, encodeMi_add _ _ _ hi, if_pos hon]
  obtain ⟨mi, hkept⟩ := decodeMi_kept { got with
    packetInfo := (PacketInformation.new.decode RTCH_MESSAGE_TYPE_DCALL_HDR (fromByte 8 (encodeLC sent))).2 }
    (encodeLC sent) 11
  have hgottype : got.messageType = sent.messageType := by
    rw [← hgot]
    rfl
  unfold Recovered Intact
  simp +decide only [hfmt, if_true, if_false]
  rw [hdec, hkept] at hmi ⊢
  rw [← hiff, ← hpacket]
  exact ⟨fun h => ⟨h.2.1, h.2.2.1⟩, fun h => ⟨hgottype.trans hfmt, h.1, h.2, hmi h.1.2.2⟩⟩

/-- **Short data call headers.** -/
theorem recovered_short (hfmt : sent.messageType = RTCH_MESSAGE_TYPE_SDCALL_REQ_HDR) :
    Recovered sent (decodeLC rx (encodeLC sent)).2 ↔ Intact sent rx := by
  have htype := received_type sent (by simp only [hfmt, Handled, true_or, or_true])
  generalize hcall : encodeCipher sent (encodeMode sent (encodeCall sent (typeOctet sent))) = call
  have henc : encodeLC sent = onTail 8 (sent.packetInfo.encode RTCH_MESSAGE_TYPE_SDCALL_REQ_HDR) call := by
    rw [← hcall]
    unfold encodeLC
    simp +decide only [hfmt, if_true, if_false]
    rw [typeOctet, hfmt]
  have hoctets : ∀ i < 8, encodeLC sent i =
      encodeCipher sent (encodeMode sent (encodeCall sent (typeOctet sent))) i := by
    intro i hi
    rw [henc, hcall]
    exact if_pos hi
  have htail : fromByte 8 (encodeLC sent) =
      sent.packetInfo.encode RTCH_MESSAGE_TYPE_SDCALL_REQ_HDR (fromByte 8 call) := by
    rw [henc]
    exact fromByte_onTail 8 _ _
  have hdec : (decodeLC rx (encodeLC sent)).2 =
      { decodeCipher (decodeMode (decodeCall { rx with messageType := sent.messageType } (encodeLC sent))
          (encodeLC sent)) (encodeLC sent) with
        packetInfo :=
          (PacketInformation.new.decode RTCH_MESSAGE_TYPE_SDCALL_REQ_HDR (fromByte 8 (encodeLC sent))).2 } := by
    unfold decodeLC
    simp +decide only [htype, hfmt, if_true, if_false]
    rfl
  have hiff := cipher_iff hoctets { rx with messageType := sent.messageType }
  have hpacket := sent.packetInfo.decode_encode_sdcall PacketInformation.new (fromByte 8 call)
  rw [← htail] at hpacket
  unfold Recovered Intact
  simp +decide only [hfmt, if_true, if_false]
  rw [hdec]
  exact ⟨fun h => ⟨hiff.mp h.2.1, hpacket.mp h.2.2⟩, fun h => ⟨hfmt, hiff.mpr h.1, hpacket.mpr h.2⟩⟩

/-- **Short data call responses**, which `encodeLC` leaves empty. -/
theorem recovered_emptyResponse (hfmt : sent.messageType = RTCH_MESSAGE_TYPE_SDCALL_RESP) :
    Recovered sent (decodeLC rx (encodeLC sent)).2 ↔ Intact sent rx := by
  have htype := received_type sent (by simp only [hfmt, Handled, or_true])
  have henc : ∀ k, 1 ≤ k → encodeLC sent k = 0x00 := by
    intro k hk
    unfold encodeLC
    simp +decide only [hfmt, if_false]
    exact setByte_of_ne _ _ (by omega)
  have hdec : (decodeLC rx (encodeLC sent)).2 = { rx with
      messageType := sent.messageType, callType := 0, emergency := false, priority := false, srcId := 0, dstId := 0,
      duplex := false, transmissionMode := 0, causeRsp := 0 } := by
    unfold decodeLC decodeMode decodeCall
    simp +decide only [htype, hfmt, if_true, if_false, henc 1 (by decide), henc 2 (by decide), henc 3 (by decide),
      henc 4 (by decide), henc 5 (by decide), henc 6 (by decide), henc 7 (by decide)]
    rfl
  rw [hdec]
  unfold Recovered Intact CallCarried ModeCarried
  simp +decide only [hfmt, if_true, if_false, true_and]
  simp only [eq_comm]

/-- What a receiver makes of an initialization vector. -/
theorem received_vector
    (hfmt : sent.messageType = RTCH_MESSAGE_TYPE_VCALL_IV ∨ sent.messageType = RTCH_MESSAGE_TYPE_SDCALL_IV) :
    let got := (decodeLC rx (encodeLC sent)).2
    got.messageType = sent.messageType ∧ (got.Enciphered ↔ rx.Enciphered) ∧
      ∀ i < 8, got.mi i = if rx.Enciphered then encodeLC sent (1 + i) else rx.mi i := by
  have htype := received_type sent (by rcases hfmt with h | h <;> simp only [h, Handled, true_or, or_true])
  have hdec : (decodeLC rx (encodeLC sent)).2 =
      decodeMi { rx with messageType := sent.messageType } (encodeLC sent) 1 := by
    unfold decodeLC
    rcases hfmt with h | h <;> simp +decide only [htype, h, if_true, if_false]
  obtain ⟨mi, hkept⟩ := decodeMi_kept { rx with messageType := sent.messageType } (encodeLC sent) 1
  dsimp only
  refine ⟨?_, ?_, fun i hi => ?_⟩
  · rw [hdec, hkept]
  · rw [hdec, hkept]
    exact Iff.rfl
  · rw [hdec, decodeMi_mi _ _ _ hi]
    exact if_congr Iff.rfl rfl rfl

/-- **Initialization vectors of short data calls**, which `encodeLC` leaves empty. -/
theorem recovered_emptyVector (hfmt : sent.messageType = RTCH_MESSAGE_TYPE_SDCALL_IV) :
    Recovered sent (decodeLC rx (encodeLC sent)).2 ↔ Intact sent rx := by
  have henc : ∀ k, 1 ≤ k → encodeLC sent k = 0x00 := by
    intro k hk
    unfold encodeLC
    simp +decide only [hfmt, if_false]
    exact setByte_of_ne _ _ (by omega)
  obtain ⟨htype, -, hmi⟩ := received_vector rx (Or.inr hfmt)
  have hread : ∀ i < 8, (decodeLC rx (encodeLC sent)).2.mi i = if rx.Enciphered then 0 else rx.mi i := by
    intro i hi
    rw [hmi i hi, henc (1 + i) (by omega)]
  unfold Recovered Intact MiCarried
  rw [htype]
  simp +decide only [hfmt, if_true, if_false, true_and]
  constructor
  · intro h hon i hi
    rw [← hread i hi, h hon i hi]
  · intro h hon i hi
    rw [hread i hi, h hon i hi]

/-- **Initialization vectors of voice calls.** -/
theorem recovered_vector (hfmt : sent.messageType = RTCH_MESSAGE_TYPE_VCALL_IV) :
    Recovered sent (decodeLC rx (encodeLC sent)).2 ↔
      (sent.Enciphered → rx.Enciphered ∨ ∀ i < 8, rx.mi i = sent.mi i) := by
  have henc : encodeLC sent = encodeMi sent (typeOctet sent) 1 := by
    unfold encodeLC
    simp +decide only [hfmt, if_true, if_false]
    rw [typeOctet, hfmt]
  obtain ⟨htype, -, hmi⟩ := received_vector rx (Or.inl hfmt)
  unfold Recovered MiCarried
  rw [htype]
  simp +decide only [hfmt, if_true, if_false, true_and]
  constructor
  · intro h hon
    by_cases hrx : rx.Enciphered
    · exact Or.inl hrx
    · refine Or.inr fun i hi => ?_
      rw [← h hon i hi, hmi i hi, if_neg hrx]
  · intro h hon i hi
    rw [hmi i hi]
    rcases h hon with hrx | hsame
    · rw [if_pos hrx, henc, encodeMi_add _ _ _ hi, if_pos hon]
    · split
      · rw [henc, encodeMi_add _ _ _ hi, if_pos hon]
      · exact hsame i hi

/-- **Messages without fields.** -/
theorem recovered_blank (hfmt : sent.messageType = MESSAGE_TYPE_IDLE ∨ sent.messageType = RTCH_MESSAGE_TYPE_TX_REL_EX) :
    Recovered sent (decodeLC rx (encodeLC sent)).2 ∧ Intact sent rx := by
  have htype := received_type sent (by rcases hfmt with h | h <;> simp only [h, Handled, true_or, or_true])
  have hdec : (decodeLC rx (encodeLC sent)).2 = { rx with messageType := sent.messageType } := by
    unfold decodeLC
    rcases hfmt with h | h <;> simp +decide only [htype, h, if_true, if_false]
  rw [hdec]
  unfold Recovered Intact
  rcases hfmt with h | h <;> simp +decide only [h, if_false, and_self]

/-! ## Encoding again -/

/-- What a message carries is what it is encoded from; the vector of a voice call also needs the cipher. -/
theorem encodeLC_congr {sent got : RTCH} (h : Recovered sent got)
    (hvector : sent.messageType = RTCH_MESSAGE_TYPE_VCALL_IV →
      ∀ data, encodeMi got data 1 = encodeMi sent data 1) :
    encodeLC got = encodeLC sent := by
  obtain ⟨htype, h⟩ := h
  have hcall : CallCarried sent got → ∀ data, encodeCall got data = encodeCall sent data := by
    rintro ⟨-, h1, h2, h3, h4⟩ data
    unfold encodeCall
    rw [h1, h2, h3, h4]
  have hmode : CallCarried sent got → ModeCarried sent got → ∀ data, encodeMode got data = encodeMode sent data := by
    rintro ⟨h1, -⟩ ⟨h2, h3⟩ data
    unfold encodeMode
    rw [h1, h2, h3]
  have hcipher : CipherCarried sent got → ∀ data, encodeCipher got data = encodeCipher sent data := by
    rintro ⟨h1, h2⟩ data
    unfold encodeCipher
    rw [h1, h2]
  have hcalltype : CallCarried sent got → ∀ data, encodeType got data = encodeType sent data := by
    rintro ⟨h1, -⟩ data
    unfold encodeType
    rw [h1]
  unfold encodeLC
  rw [htype]
  dsimp only
  split at h
  next hfmt =>
    obtain ⟨h1, h2, h3⟩ := h
    rw [if_pos hfmt, if_pos hfmt, hcall h1, hmode h1 h2, hcipher h3]
  next hne1 =>
    rw [if_neg hne1, if_neg hne1]
    split at h
    next hfmt =>
      rcases hfmt with hfmt | hfmt
      · rw [if_pos hfmt, if_pos hfmt, hvector hfmt]
      · simp +decide only [hfmt, if_false]
    next hne2 =>
      rw [if_neg (not_or.mp hne2).1, if_neg (not_or.mp hne2).1]
      split at h
      next hfmt => rw [if_pos hfmt, if_pos hfmt, hcall h, hcalltype h]
      next hne3 =>
        rw [if_neg hne3, if_neg hne3]
        split at h
        next hfmt =>
          obtain ⟨⟨h1, h2, h3⟩, ⟨h4, h5⟩, h6⟩ := h
          have hpacket : got.packetInfo.encode RTCH_MESSAGE_TYPE_DCALL_HDR =
              sent.packetInfo.encode RTCH_MESSAGE_TYPE_DCALL_HDR := by
            funext data
            unfold PacketInformation.encode
            rw [if_pos rfl, if_pos rfl, PacketInformation.encodeHeader_congr h4,
              PacketInformation.highFragCount_congr h5, h5]
          have hon : got.Enciphered ↔ sent.Enciphered := by
            unfold Enciphered
            rw [h3.1, h3.2]
          rw [if_pos hfmt, if_pos hfmt, hcall h1, hmode h1 h2, hcipher h3, encodeMi_congr hon h6, hfmt, hpacket]
        next hne4 =>
          rw [if_neg hne4, if_neg hne4]
          split at h
          next hfmt => rw [if_pos hfmt, if_pos hfmt, h.1, h.2]
          next hne5 =>
            rw [if_neg hne5, if_neg hne5]
            split at h
            next hfmt =>
              obtain ⟨h1, h2, h3, h4, h5⟩ := h
              have hrsp : got.rsp.encode RTCH_MESSAGE_TYPE_DCALL_ACK =
                  sent.rsp.encode RTCH_MESSAGE_TYPE_DCALL_ACK := by
                funext data
                unfold PacketInformation.encode
                rw [if_neg (by decide), if_pos rfl, if_neg (by decide), if_pos rfl, h3, h4,
                  PacketInformation.highFragCount_congr h5, h5]
              rw [if_pos hfmt, if_pos hfmt, hcall h1, hmode h1 h2, hfmt, hrsp]
            next hne6 =>
              rw [if_neg hne6, if_neg hne6]
              split at h
              next hfmt => rw [if_pos hfmt, if_pos hfmt, hcall h.1, hcalltype h.1, h.2]
              next hne7 =>
                rw [if_neg hne7, if_neg hne7]
                split at h
                next hfmt =>
                  obtain ⟨⟨h1, h2, h3⟩, h4⟩ := h
                  have hpacket : got.packetInfo.encode RTCH_MESSAGE_TYPE_SDCALL_REQ_HDR =
                      sent.packetInfo.encode RTCH_MESSAGE_TYPE_SDCALL_REQ_HDR :=
                    funext fun data => PacketInformation.encodeHeader_congr h4 data
                  simp +decide only [hfmt, if_true, if_false]
                  rw [hcall h1, hmode h1 h2, hcipher h3, hpacket]
                next hne8 => rw [if_neg hne8, if_neg hne8]

/-- The vector of a voice call is encoded again as it was when the receiver knew of the cipher. -/
theorem vector_iff (hfmt : sent.messageType = RTCH_MESSAGE_TYPE_VCALL_IV) :
    (Recovered sent (decodeLC rx (encodeLC sent)).2 ∧
      ∀ k < 9, encodeLC (decodeLC rx (encodeLC sent)).2 k = encodeLC sent k) ↔ Intact sent rx := by
  have henc : ∀ m : RTCH, m.messageType = RTCH_MESSAGE_TYPE_VCALL_IV → ∀ i < 8,
      encodeLC m (1 + i) = if m.Enciphered then m.mi i else 0 := by
    intro m hm i hi
    have hlc : encodeLC m = encodeMi m (setByte (fun _ => 0x00) 0 (m.messageType &&& 0x3F)) 1 := by
      unfold encodeLC
      simp +decide only [hm, if_true, if_false]
    rw [hlc, encodeMi_add _ _ _ hi, setByte_of_ne _ _ (by omega)]
  obtain ⟨htype, hon, hmi⟩ := received_vector rx (Or.inl hfmt)
  have hintact : Intact sent rx ↔
      (sent.Enciphered → rx.Enciphered ∨ ∀ i < 8, sent.mi i = 0 ∧ rx.mi i = 0) := by
    unfold Intact
    simp +decide only [hfmt, if_true, if_false]
  have hmi' : ∀ i < 8, (decodeLC rx (encodeLC sent)).2.mi i =
      if rx.Enciphered then (if sent.Enciphered then sent.mi i else 0) else rx.mi i := by
    intro i hi
    rw [hmi i hi, henc sent hfmt i hi]
  rw [recovered_vector rx hfmt, hintact]
  constructor
  · rintro ⟨hrec, hagain⟩ hsent
    by_cases hrx : rx.Enciphered
    · exact Or.inl hrx
    · refine Or.inr fun i hi => ?_
      have hsame := (hrec hsent).resolve_left hrx i hi
      have hzero := hagain (1 + i) (by omega)
      rw [henc _ (htype.trans hfmt) i hi, henc sent hfmt i hi, if_neg (hrx ∘ hon.mp), if_pos hsent] at hzero
      exact ⟨hzero.symm, hsame.trans hzero.symm⟩
  · intro h
    refine ⟨fun hsent => (h hsent).imp_right fun hzero i hi => ?_, fun k hk => ?_⟩
    · rw [(hzero i hi).1, (hzero i hi).2]
    · cases k with
      | zero => rw [encodeLC_typeOctet, encodeLC_typeOctet, htype]
      | succ i =>
          rw [Nat.add_comm, henc _ (htype.trans hfmt) i (by omega), henc sent hfmt i (by omega), hmi' i (by omega)]
          by_cases hrx : rx.Enciphered
          · rw [if_pos (hon.mpr hrx), if_pos hrx]
          · rw [if_neg (hrx ∘ hon.mp)]
            split
            next hsent => exact ((h hsent).resolve_left hrx i (by omega)).1.symm
            next => rfl

end Messages

/-- The types of the messages, one case for each layout. -/
theorem recovered_again_iff (sent rx : RTCH) (hfmt : Handled sent.messageType) :
    (Recovered sent (decodeLC rx (encodeLC sent)).2 ∧
      ∀ k < octetCount sent.messageType, encodeLC (decodeLC rx (encodeLC sent)).2 k = encodeLC sent k) ↔
      Intact sent rx := by
  have hagain : ∀ {P : Prop}, sent.messageType ≠ RTCH_MESSAGE_TYPE_VCALL_IV →
      (Recovered sent (decodeLC rx (encodeLC sent)).2 ↔ P) →
      ((Recovered sent (decodeLC rx (encodeLC sent)).2 ∧
        ∀ k < octetCount sent.messageType, encodeLC (decodeLC rx (encodeLC sent)).2 k = encodeLC sent k) ↔ P) := by
    intro P hne hiff
    refine ⟨fun h => hiff.mp h.1, fun h => ⟨hiff.mpr h, fun k _ => ?_⟩⟩
    rw [encodeLC_congr (hiff.mpr h) fun hiv => absurd hiv hne]
  rcases hfmt with h | h | h | h | h | h | h | h | h | h | h | h | h
  · exact hagain (by rw [h]; decide) (recovered_vcall rx h)
  · have hcount : octetCount sent.messageType = 9 := by
      rw [h]
      rfl
    rw [hcount]
    exact vector_iff rx h
  · exact hagain (by rw [h]; decide) (recovered_emptyVector rx h)
  · exact hagain (by rw [h]; decide) (recovered_release rx h)
  · exact hagain (by rw [h]; decide) (iff_of_true (recovered_blank rx (Or.inr h)).1 (recovered_blank rx (Or.inr h)).2)
  · exact hagain (by rw [h]; decide) (recovered_header rx h)
  · exact hagain (by rw [h]; decide) (recovered_data rx (Or.inl h))
  · exact hagain (by rw [h]; decide) (recovered_data rx (Or.inr h))
  · exact hagain (by rw [h]; decide) (recovered_ack rx h)
  · exact hagain (by rw [h]; decide) (recovered_delay rx h)
  · exact hagain (by rw [h]; decide) (iff_of_true (recovered_blank rx (Or.inl h)).1 (recovered_blank rx (Or.inl h)).2)
  · exact hagain (by rw [h]; decide) (recovered_short rx h)
  · exact hagain (by rw [h]; decide) (recovered_emptyResponse rx h)

theorem octetCount_pos (messageType : UInt8) : 1 ≤ octetCount messageType := by
  unfold octetCount
  (repeat' split) <;> decide

/-- **Which messages are read back**, in any run of bits that has room for them, and encoded again as they were. The
    buffer on either side has 176 bits. -/
theorem message_roundTrip_iff (sent rx : RTCH) (data : Bytes) (length offset : Nat) (hfmt : Handled sent.messageType)
    (hroom : 8 * octetCount sent.messageType ≤ length) (_hlength : length ≤ NXDN_RTCH_LC_LENGTH_BITS) :
    (let got := decode rx (encode sent data length offset) length offset
     Recovered sent got ∧ ∀ frame, encode got frame length offset = encode sent frame length offset) ↔
      Intact sent rx := by
  have hpos := octetCount_pos sent.messageType
  rw [← recovered_again_iff sent rx hfmt]
  dsimp only
  rw [decode_encodeLC sent rx data offset hroom (by omega)]
  refine and_congr_right fun hrec => ⟨fun h k hk => ?_, fun h frame => ?_⟩
  · -- the bits of the run are the bits of the octets
    refine byte_of_bits (n := octetCount sent.messageType) (fun b hb => ?_) hk
    have hbit := congrArg (fun p => readBit p (offset + b)) (h fun _ => 0)
    unfold encode at hbit
    rw [readBit_copyBits, readBit_copyBits, if_pos (by omega), if_pos (by omega), Nat.add_sub_cancel_left,
      Nat.zero_add] at hbit
    exact hbit
  · have hsame : encodeLC (decodeLC rx (encodeLC sent)).2 = encodeLC sent := by
      funext k
      by_cases hk : k < octetCount sent.messageType
      · exact h k hk
      · rw [encodeLC_of_ge sent (by omega) (by omega), encodeLC_of_ge _ (by rw [hrec.1]; omega) (by omega)]
    unfold encode
    rw [hsame]

/-- User data of a data call. -/
def userData (frameNumber blockNumber : UInt8) : RTCH :=
  { new with
    messageType := RTCH_MESSAGE_TYPE_DCALL_DATA, dataFrameNumber := frameNumber, dataBlockNumber := blockNumber }

theorem message_roundTrip_first : Handled (userData 0 3).messageType ∧
    8 * octetCount (userData 0 3).messageType ≤ 176 ∧ 176 ≤ NXDN_RTCH_LC_LENGTH_BITS ∧
    ((let got := decode new (encode (userData 0 3) (fun _ => 0) 176 0) 176 0
      Recovered (userData 0 3) got ∧ ∀ frame, encode got frame 176 0 = encode (userData 0 3) frame 176 0) ↔
        Intact (userData 0 3) new) :=
  ⟨by unfold Handled; decide, by decide, by decide,
    message_roundTrip_iff (userData 0 3) new (fun _ => 0) 176 0 (by unfold Handled; decide) (by decide) (by decide)⟩

/-- **Frame numbers do not arrive**: the second frame is read as the first. -/
theorem frameNumber_not_recovered : ¬ ∀ (sent rx : RTCH) (data : Bytes) (length offset : Nat),
    Handled sent.messageType → 8 * octetCount sent.messageType ≤ length → length ≤ NXDN_RTCH_LC_LENGTH_BITS →
    sent.dataFrameNumber < 16 → sent.dataBlockNumber < 16 →
    Recovered sent (decode rx (encode sent data length offset) length offset) ∧
      ∀ frame, encode (decode rx (encode sent data length offset) length offset) frame length offset =
        encode sent frame length offset := by
  intro hall
  have hrec := (hall (userData 1 0) new (fun _ => 0) 176 0 (by unfold Handled; decide) (by decide) (by decide)
    (by decide) (by decide)).1
  rw [decode_encodeLC _ _ _ _ (by decide) (by decide)] at hrec
  have hintact := (recovered_data new (Or.inl rfl)).mp hrec
  unfold Intact at hintact
  rw [if_neg (by decide), if_neg (by decide), if_neg (by decide), if_neg (by decide), if_neg (by decide),
    if_pos (by decide)] at hintact
  exact absurd hintact.1 (by decide)

end RTCH

end Nxdn

end DvmHost

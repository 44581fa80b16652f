import DvmHost.Common.Utils

/-!
# `Common.Network.RTPHeader` — the three headers of a network frame

`src/common/network/RTPHeader.{h,cpp}`, `RTPExtensionHeader.{h,cpp}` and `RTPFNEHeader.{h,cpp}`. A `decode`
reads the receive buffer from a base address on and gives the header, or `none` where the source returns
`false`; an `encode` writes into a buffer from a base address on. `value_decode_encode` of each header is the
round trip of its fields.
-/

namespace DvmHost

open Lib

/-- `INVALID_TS`. -/
def INVALID_TS : UInt32 := 0xFFFFFFFF

/-- `RTP_HEADER_LENGTH_BYTES`. -/
abbrev RTP_HEADER_LENGTH_BYTES : Nat := 12

/-- `RTP_EXTENSION_HEADER_LENGTH_BYTES`. -/
abbrev RTP_EXTENSION_HEADER_LENGTH_BYTES : Nat := 4

/-- `RTP_FNE_HEADER_LENGTH_BYTES`. -/
abbrev RTP_FNE_HEADER_LENGTH_BYTES : Nat := 16

/-- `RTP_FNE_HEADER_LENGTH_EXT_LEN`. -/
def RTP_FNE_HEADER_LENGTH_EXT_LEN : UInt16 := 4

/-- `RTP_GENERIC_CLOCK_RATE`. -/
def RTP_GENERIC_CLOCK_RATE : Nat := 8000

/-- `DVM_FRAME_START`. -/
def DVM_FRAME_START : UInt16 := 0xFE

/-- `class RTPHeader`. -/
structure RTPHeader where
  version : UInt8 := 2
  padding : Bool := false
  extension : Bool := false
  cc : UInt8 := 0
  marker : Bool := false
  payloadType : UInt8 := 0
  seq : UInt16 := 0
  timestamp : UInt32 := INVALID_TS
  ssrc : UInt32 := 0
deriving DecidableEq

/-- `class RTPExtensionHeader`. -/
structure RTPExtensionHeader where
  payloadType : UInt16 := 0
  payloadLength : UInt16 := 0
deriving DecidableEq

/-- `class RTPFNEHeader`. -/
structure RTPFNEHeader extends RTPExtensionHeader where
  crc16 : UInt16 := 0
  func : UInt8 := 0
  subFunc : UInt8 := 0
  streamId : UInt32 := 0
  peerId : UInt32 := 0
  messageLength : UInt32 := 0
deriving DecidableEq

/-! ## The RTP header -/

namespace RTPHeader

/-- `decode`. -/
def decode (base : Nat) : Access UInt8 (Option RTPHeader) := do
  let d0 ← Access.cell (base + 0)
  if (d0 >>> (6 : UInt8)) &&& 0x03 ≠ 0x02 then pure none
  else do
    let d1 ← Access.cell (base + 1)
    let d2 ← Access.cell (base + 2)
    let d3 ← Access.cell (base + 3)
    let timestamp ← getUInt32 (base + 4)
    let ssrc ← getUInt32 (base + 8)
    pure (some {
      version := (d0 >>> (6 : UInt8)) &&& 0x03
      padding := d0 &&& 0x20 = 0x20
      extension := d0 &&& 0x10 = 0x10
      cc := d0 &&& 0x0F
      marker := d1 &&& 0x80 = 0x80
      payloadType := d1 &&& 0x7F
      seq := word16 d2 d3
      timestamp, ssrc })

/-- The first octet of `encode`. -/
def flagOctet (h : RTPHeader) : UInt8 :=
  (h.version <<< (6 : UInt8)) + (if h.padding then 0x20 else 0x00) + (if h.extension then 0x10 else 0x00) +
    (h.cc &&& 0x0F)

/-- The second octet of `encode`. -/
def typeOctet (h : RTPHeader) : UInt8 := (if h.marker then 0x80 else 0x00) + (h.payloadType &&& 0x7F)

/-- The timestamp of `encode`: an invalid one is replaced by the media clock, `diffNow` microseconds after
    the start. -/
def stamped (h : RTPHeader) (diffNow : UInt64) : RTPHeader :=
  { h with timestamp :=
      if h.timestamp = INVALID_TS then (diffNow * RTP_GENERIC_CLOCK_RATE.toUInt64 / 1000000).toUInt32
      else h.timestamp }

/-- `encode`: the header with its timestamp set and the buffer written. -/
def encode (h : RTPHeader) (diffNow : UInt64) (data : Bytes) : RTPHeader × Bytes :=
  let data := setByte data 0 h.flagOctet
  let data := setByte data 1 h.typeOctet
  let data := setByte data 2 (h.seq >>> (8 : UInt16) &&& 0xFF).toUInt8
  let data := setByte data 3 (h.seq >>> (0 : UInt16) &&& 0xFF).toUInt8
  let h := h.stamped diffNow
  (h, setUInt32 h.ssrc (setUInt32 h.timestamp data 4) 8)

theorem decode_local (base : Nat) : Access.Local (decode base) := by
  unfold decode
  refine Access.local_bind (Access.local_cell _) fun d0 => ?_
  split
  · exact Access.local_pure _
  · refine Access.local_bind (Access.local_cell _) fun _ => Access.local_bind (Access.local_cell _) fun _ => ?_
    refine Access.local_bind (Access.local_cell _) fun _ => Access.local_bind (local_getUInt32 _) fun _ => ?_
    exact Access.local_bind (local_getUInt32 _) fun _ => Access.local_pure _

/-- The header is read from its twelve octets. -/
theorem decode_within {m : Bytes} {base n : Nat} (h : base + 12 ≤ n) :
    (decode base).Within m n := by
  unfold decode
  rw [Access.within_bind, Access.within_cell]
  refine ⟨by omega, ?_⟩
  split
  · exact Access.within_pure _
  · simp only [Access.within_bind, Access.within_cell, within_getUInt32, Access.within_pure, and_true]
    omega

/-- The header that the octets of `m` give, whatever its version. -/
def fields (m : Bytes) (base : Nat) : RTPHeader where
  version := (m (base + 0) >>> (6 : UInt8)) &&& 0x03
  padding := m (base + 0) &&& 0x20 = 0x20
  extension := m (base + 0) &&& 0x10 = 0x10
  cc := m (base + 0) &&& 0x0F
  marker := m (base + 1) &&& 0x80 = 0x80
  payloadType := m (base + 1) &&& 0x7F
  seq := word16 (m (base + 2)) (m (base + 3))
  timestamp := (getUInt32 (base + 4)).value m
  ssrc := (getUInt32 (base + 8)).value m

theorem fields_congr {m m' : Bytes} {base : Nat} (h : ∀ i, base ≤ i → i < base + 12 → m i = m' i) :
    fields m base = fields m' base := by
  unfold fields
  simp only [value_getUInt32]
  simp (disch := omega) only [h]

/-- Only the version can be wrong. -/
theorem value_decode (m : Bytes) (base : Nat) :
    (decode base).value m = if (fields m base).version = 0x02 then some (fields m base) else none := by
  unfold decode
  rw [Access.value_bind, Access.value_cell]
  by_cases hv : (m (base + 0) >>> (6 : UInt8)) &&& 0x03 = 0x02
  · rw [if_neg (not_not_intro hv), if_pos (show (fields m base).version = 0x02 from hv)]
    rfl
  · rw [if_pos hv, if_neg (show ¬ (fields m base).version = 0x02 from hv)]
    rfl

/-- The flag octet gives back its four fields. -/
theorem flagOctet_fields {h : RTPHeader} (hv : h.version = 2) (hcc : h.cc < 16) :
    (h.flagOctet >>> (6 : UInt8)) &&& 0x03 = h.version ∧ (decide (h.flagOctet &&& 0x20 = 0x20)) = h.padding ∧
      (decide (h.flagOctet &&& 0x10 = 0x10)) = h.extension ∧ h.flagOctet &&& 0x0F = h.cc := by
  unfold flagOctet
  rw [hv]
  have hall : ∀ (pad ext : Bool) (v : Fin 16), ∀ octet : UInt8,
      octet = ((2 : UInt8) <<< (6 : UInt8)) + (if pad then 0x20 else 0x00) + (if ext then 0x10 else 0x00) +
        (UInt8.ofNat v &&& 0x0F) →
      (octet >>> (6 : UInt8)) &&& 0x03 = 2 ∧ (decide (octet &&& 0x20 = 0x20)) = pad ∧
        (decide (octet &&& 0x10 = 0x10)) = ext ∧ octet &&& 0x0F = UInt8.ofNat v := by
    intro pad ext v octet hoctet
    subst hoctet
    revert pad ext v
    decide
  have hcc' : UInt8.ofNat h.cc.toNat = h.cc := UInt8.ofNat_toNat
  have := hall h.padding h.extension ⟨h.cc.toNat, UInt8.lt_iff_toNat_lt.mp hcc⟩ _ rfl
  rwa [hcc'] at this

/-- The type octet gives back its two fields. -/
theorem typeOctet_fields {h : RTPHeader} (hpt : h.payloadType < 128) :
    (decide (h.typeOctet &&& 0x80 = 0x80)) = h.marker ∧ h.typeOctet &&& 0x7F = h.payloadType := by
  unfold typeOctet
  have hall : ∀ (marker : Bool) (v : Fin 128), ∀ octet : UInt8,
      octet = (if marker then 0x80 else 0x00) + (UInt8.ofNat v &&& 0x7F) →
      (decide (octet &&& 0x80 = 0x80)) = marker ∧ octet &&& 0x7F = UInt8.ofNat v := by
    intro marker v octet hoctet
    subst hoctet
    revert marker v
    decide
  have hpt' : UInt8.ofNat h.payloadType.toNat = h.payloadType := UInt8.ofNat_toNat
  have := hall h.marker ⟨h.payloadType.toNat, UInt8.lt_iff_toNat_lt.mp hpt⟩ _ rfl
  rwa [hpt'] at this

/-- The header occupies its twelve octets. -/
theorem encode_of_ge (h : RTPHeader) (diffNow : UInt64) (p : Bytes) {k : Nat} (hk : 12 ≤ k) :
    (encode h diffNow p).2 k = p k := by
  unfold encode
  simp (disch := omega) only [setUInt32_of_notMem, setByte_of_ne]

/-- What the octets of an encoded header hold. -/
theorem fields_encode {h : RTPHeader} (hv : h.version = 2) (hcc : h.cc < 16) (hpt : h.payloadType < 128)
    (diffNow : UInt64) (p : Bytes) : fields (encode h diffNow p).2 0 = (encode h diffNow p).1 := by
  obtain ⟨hversion, hpad, hext, hccBits⟩ := flagOctet_fields hv hcc
  obtain ⟨hmarker, hptBits⟩ := typeOctet_fields hpt
  unfold fields encode
  simp (disch := omega) only [setUInt32_of_notMem, setByte_of_ne, setByte_of_eq, value_getUInt32_setUInt32,
    value_getUInt32_of_disjoint, hversion, hpad, hext, hccBits, hmarker, hptBits, word16_octets]
  rfl

/-- **Decoding an encoded header gives it back**, with the timestamp it was sent with. -/
theorem value_decode_encode {h : RTPHeader} (hv : h.version = 2) (hcc : h.cc < 16) (hpt : h.payloadType < 128)
    (diffNow : UInt64) (p : Bytes) :
    (decode 0).value (encode h diffNow p).2 = some (encode h diffNow p).1 := by
  have hversion : (encode h diffNow p).1.version = 0x02 := hv
  rw [value_decode, fields_encode hv hcc hpt, if_pos hversion]

end RTPHeader

/-! ## The extension and FNE headers -/

namespace RTPExtensionHeader

/-- `decode`, which never fails. -/
def decode (base : Nat) : Access UInt8 RTPExtensionHeader := do
  let d0 ← Access.cell (base + 0)
  let d1 ← Access.cell (base + 1)
  let d2 ← Access.cell (base + 2)
  let d3 ← Access.cell (base + 3)
  pure { payloadType := word16 d0 d1, payloadLength := word16 d2 d3 }

/-- `encode`. -/
def encode (h : RTPExtensionHeader) (data : Bytes) (base : Nat) : Bytes :=
  let data := setByte data (base + 0) (h.payloadType >>> (8 : UInt16) &&& 0xFF).toUInt8
  let data := setByte data (base + 1) (h.payloadType >>> (0 : UInt16) &&& 0xFF).toUInt8
  let data := setByte data (base + 2) (h.payloadLength >>> (8 : UInt16) &&& 0xFF).toUInt8
  setByte data (base + 3) (h.payloadLength >>> (0 : UInt16) &&& 0xFF).toUInt8

theorem decode_local (base : Nat) : Access.Local (decode base) := by
  unfold decode
  refine Access.local_bind (Access.local_cell _) fun _ => Access.local_bind (Access.local_cell _) fun _ => ?_
  refine Access.local_bind (Access.local_cell _) fun _ => Access.local_bind (Access.local_cell _) fun _ => ?_
  exact Access.local_pure _

theorem decode_within {m : Bytes} {base n : Nat} : (decode base).Within m n ↔ base + 4 ≤ n := by
  unfold decode
  simp only [Access.within_bind, Access.within_cell, Access.within_pure, and_true]
  omega

theorem value_decode (m : Bytes) (base : Nat) : (decode base).value m =
    { payloadType := word16 (m (base + 0)) (m (base + 1)),
      payloadLength := word16 (m (base + 2)) (m (base + 3)) } := rfl

theorem encode_of_notMem (h : RTPExtensionHeader) (p : Bytes) {base k : Nat} (hk : k < base ∨ base + 4 ≤ k) :
    encode h p base k = p k := by
  unfold encode
  simp (disch := omega) only [setByte_of_ne]

/-- **Decoding an encoded extension header gives it back.** -/
theorem value_decode_encode (h : RTPExtensionHeader) (p : Bytes) (base : Nat) :
    (decode base).value (encode h p base) = h := by
  rw [value_decode]
  unfold encode
  simp (disch := omega) only [setByte_of_ne, setByte_of_eq, word16_octets]

end RTPExtensionHeader

namespace RTPFNEHeader

/-- `decode`. -/
def decode (base : Nat) : Access UInt8 (Option RTPFNEHeader) := do
  let ext ← RTPExtensionHeader.decode base
  if ext.payloadLength ≠ RTP_FNE_HEADER_LENGTH_EXT_LEN then pure none
  else if ext.payloadType ≠ DVM_FRAME_START then pure none
  else do
    let d4 ← Access.cell (base + 4)
    let d5 ← Access.cell (base + 5)
    let func ← Access.cell (base + 6)
    let subFunc ← Access.cell (base + 7)
    let streamId ← getUInt32 (base + 8)
    let peerId ← getUInt32 (base + 12)
    let messageLength ← getUInt32 (base + 16)
    pure (some { ext with crc16 := word16 d4 d5, func, subFunc, streamId, peerId, messageLength })

/-- `encode`, which sets the two fields of the extension header first. -/
def encode (h : RTPFNEHeader) (data : Bytes) (base : Nat) : RTPFNEHeader × Bytes :=
  let h := { h with payloadType := DVM_FRAME_START, payloadLength := RTP_FNE_HEADER_LENGTH_EXT_LEN }
  let data := h.toRTPExtensionHeader.encode data base
  let data := setByte data (base + 4) (h.crc16 >>> (8 : UInt16) &&& 0xFF).toUInt8
  let data := setByte data (base + 5) (h.crc16 >>> (0 : UInt16) &&& 0xFF).toUInt8
  let data := setByte data (base + 6) h.func
  let data := setByte data (base + 7) h.subFunc
  (h, setUInt32 h.messageLength (setUInt32 h.peerId (setUInt32 h.streamId data (base + 8)) (base + 12))
  (base + 16))

theorem decode_local (base : Nat) : Access.Local (decode base) := by
  unfold decode
  refine Access.local_bind (RTPExtensionHeader.decode_local _) fun ext => ?_
  split
  · exact Access.local_pure _
  split
  · exact Access.local_pure _
  · refine Access.local_bind (Access.local_cell _) fun _ => Access.local_bind (Access.local_cell _) fun _ => ?_
    refine Access.local_bind (Access.local_cell _) fun _ => Access.local_bind (Access.local_cell _) fun _ => ?_
    refine Access.local_bind (local_getUInt32 _) fun _ => Access.local_bind (local_getUInt32 _) fun _ => ?_
    exact Access.local_bind (local_getUInt32 _) fun _ => Access.local_pure _

/-- The extension header announces an FNE header. -/
def Announced (m : Bytes) (base : Nat) : Prop :=
  word16 (m (base + 2)) (m (base + 3)) = RTP_FNE_HEADER_LENGTH_EXT_LEN ∧
    word16 (m (base + 0)) (m (base + 1)) = DVM_FRAME_START

instance (m : Bytes) (base : Nat) : Decidable (Announced m base) := inferInstanceAs (Decidable (_ ∧ _))

/-- The header that the octets of `m` give. -/
def fields (m : Bytes) (base : Nat) : RTPFNEHeader where
  payloadType := word16 (m (base + 0)) (m (base + 1))
  payloadLength := word16 (m (base + 2)) (m (base + 3))
  crc16 := word16 (m (base + 4)) (m (base + 5))
  func := m (base + 6)
  subFunc := m (base + 7)
  streamId := (getUInt32 (base + 8)).value m
  peerId := (getUInt32 (base + 12)).value m
  messageLength := (getUInt32 (base + 16)).value m

theorem fields_congr {m m' : Bytes} (base : Nat) (h : ∀ i, base ≤ i → i < base + 20 → m i = m' i) :
    fields m base = fields m' base := by
  unfold fields
  simp only [value_getUInt32]
  simp (disch := omega) only [h]

/-- Only the announcement is checked. -/
theorem value_decode (m : Bytes) (base : Nat) :
    (decode base).value m = if Announced m base then some (fields m base) else none := by
  unfold decode
  rw [Access.value_bind, RTPExtensionHeader.value_decode]
  by_cases hlen : word16 (m (base + 2)) (m (base + 3)) = RTP_FNE_HEADER_LENGTH_EXT_LEN
  · rw [if_neg (not_not_intro hlen)]
    by_cases htype : word16 (m (base + 0)) (m (base + 1)) = DVM_FRAME_START
    · rw [if_neg (not_not_intro htype), if_pos (show Announced m base from ⟨hlen, htype⟩)]
      rfl
    · rw [if_pos htype, if_neg (fun h : Announced m base => htype h.2)]
      rfl
  · rw [if_pos hlen, if_neg (fun h : Announced m base => hlen h.1)]
    rfl

/-- **How far the header is read**: four octets, and all twenty once it is announced. The source checks no
    length in between. -/
theorem decode_within {m : Bytes} {base n : Nat} :
    (decode base).Within m n ↔ base + 4 ≤ n ∧ (Announced m base → base + 20 ≤ n) := by
  unfold decode
  rw [Access.within_bind, RTPExtensionHeader.decode_within, RTPExtensionHeader.value_decode]
  refine and_congr_right fun hext => ?_
  by_cases hlen : word16 (m (base + 2)) (m (base + 3)) = RTP_FNE_HEADER_LENGTH_EXT_LEN
  · rw [if_neg (not_not_intro hlen)]
    by_cases htype : word16 (m (base + 0)) (m (base + 1)) = DVM_FRAME_START
    · rw [if_neg (not_not_intro htype)]
      simp only [Access.within_bind, Access.within_cell, within_getUInt32, Access.within_pure, and_true]
      constructor
      · intro h _
        omega
      · intro h
        have := h ⟨hlen, htype⟩
        omega
    · rw [if_pos htype]
      exact iff_of_true (Access.within_pure _) fun h => absurd h.2 htype
  · rw [if_pos hlen]
    exact iff_of_true (Access.within_pure _) fun h => absurd h.1 hlen

/-- The header occupies its twenty octets. -/
theorem encode_of_notMem (h : RTPFNEHeader) (p : Bytes) {base k : Nat} (hk : k < base ∨ base + 20 ≤ k) :
    (encode h p base).2 k = p k := by
  unfold encode
  simp (disch := omega) only [setUInt32_of_notMem, setByte_of_ne, RTPExtensionHeader.encode_of_notMem]

/-- What the octets of an encoded header hold. -/
theorem fields_encode (h : RTPFNEHeader) (p : Bytes) (base : Nat) :
    fields (encode h p base).2 base = (encode h p base).1 := by
  unfold fields encode RTPExtensionHeader.encode
  simp (disch := omega) only [setUInt32_of_notMem, setByte_of_ne, setByte_of_eq, value_getUInt32_setUInt32,
    value_getUInt32_of_disjoint, word16_octets]

theorem announced_iff (m : Bytes) (base : Nat) :
    Announced m base ↔ (fields m base).payloadLength = RTP_FNE_HEADER_LENGTH_EXT_LEN ∧
      (fields m base).payloadType = DVM_FRAME_START := Iff.rfl

/-- An encoded header is announced. -/
theorem announced_encode (h : RTPFNEHeader) (p : Bytes) (base : Nat) : Announced (encode h p base).2 base := by
  rw [announced_iff, fields_encode]
  exact ⟨rfl, rfl⟩

/-- **Decoding an encoded header gives it back.** -/
theorem value_decode_encode (h : RTPFNEHeader) (p : Bytes) (base : Nat) :
    (decode base).value (encode h p base).2 = some (encode h p base).1 := by
  rw [value_decode, if_pos (announced_encode h p base), fields_encode]

end RTPFNEHeader

end DvmHost

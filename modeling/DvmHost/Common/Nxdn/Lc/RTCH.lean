import DvmHost.Common.Nxdn.Lc.PacketInformation

/-!
# `Common.Nxdn.Lc.RTCH` — NXDN layer 3 messages of the traffic channel

`src/common/nxdn/lc/RTCH.cpp`: 22 octets whose layout the message type chooses. The call, its mode and its cipher sit
in the same octets of every message that has them; the lines for each are one definition here.
-/

namespace DvmHost

namespace Nxdn

/-- `MESSAGE_TYPE_IDLE`. -/
def MESSAGE_TYPE_IDLE : UInt8 := 0x10

/-- `RTCH_MESSAGE_TYPE_VCALL`. -/
def RTCH_MESSAGE_TYPE_VCALL : UInt8 := 0x01

/-- `RTCH_MESSAGE_TYPE_VCALL_IV`. -/
def RTCH_MESSAGE_TYPE_VCALL_IV : UInt8 := 0x03

/-- `RTCH_MESSAGE_TYPE_TX_REL_EX`. -/
def RTCH_MESSAGE_TYPE_TX_REL_EX : UInt8 := 0x07

/-- `RTCH_MESSAGE_TYPE_TX_REL`. -/
def RTCH_MESSAGE_TYPE_TX_REL : UInt8 := 0x08

/-- `RTCH_MESSAGE_TYPE_DCALL_DATA`. -/
def RTCH_MESSAGE_TYPE_DCALL_DATA : UInt8 := 0x0B

/-- `RTCH_MESSAGE_TYPE_HEAD_DLY`. -/
def RTCH_MESSAGE_TYPE_HEAD_DLY : UInt8 := 0x0F

/-- `RTCH_MESSAGE_TYPE_SDCALL_REQ_DATA`. -/
def RTCH_MESSAGE_TYPE_SDCALL_REQ_DATA : UInt8 := 0x39

/-- `RTCH_MESSAGE_TYPE_SDCALL_IV`. -/
def RTCH_MESSAGE_TYPE_SDCALL_IV : UInt8 := 0x3A

/-- `RTCH_MESSAGE_TYPE_SDCALL_RESP`. -/
def RTCH_MESSAGE_TYPE_SDCALL_RESP : UInt8 := 0x3B

/-- `NXDN_CIPHER_TYPE_NONE`. -/
def NXDN_CIPHER_TYPE_NONE : UInt8 := 0x00

/-- `NXDN_MI_LENGTH_BYTES`. -/
abbrev NXDN_MI_LENGTH_BYTES : Nat := 8

/-- `NXDN_RTCH_LC_LENGTH_BITS`. -/
abbrev NXDN_RTCH_LC_LENGTH_BITS : Nat := 176

/-- The members of `RTCH`. No message carries `encrypted` or `group`. -/
structure RTCH where
  messageType : UInt8
  callType : UInt8
  srcId : UInt16
  dstId : UInt16
  emergency : Bool
  encrypted : Bool
  priority : Bool
  group : Bool
  duplex : Bool
  transmissionMode : UInt8
  packetInfo : PacketInformation
  rsp : PacketInformation
  dataFrameNumber : UInt8
  dataBlockNumber : UInt8
  delayCount : UInt16
  algId : UInt8
  kId : UInt8
  causeRsp : UInt8
  mi : Bytes

namespace RTCH

/-- `RTCH()`. -/
def new : RTCH :=
  { messageType := MESSAGE_TYPE_IDLE, callType := 0x02, srcId := 0, dstId := 0, emergency := false,
    encrypted := false, priority := false, group := true, duplex := false, transmissionMode := 0,
    packetInfo := PacketInformation.new, rsp := PacketInformation.new, dataFrameNumber := 0, dataBlockNumber := 0,
    delayCount := 0, algId := NXDN_CIPHER_TYPE_NONE, kId := 0, causeRsp := 0x10, mi := fun _ => 0x00 }

/-- `reset`. The octets of `m_mi` stay. -/
def reset (m : RTCH) : RTCH := { new with mi := m.mi }

/-- `m_algId != NXDN_CIPHER_TYPE_NONE && m_kId > 0U`. -/
def Enciphered (m : RTCH) : Prop := m.algId ≠ NXDN_CIPHER_TYPE_NONE ∧ m.kId > 0

instance (m : RTCH) : Decidable m.Enciphered := inferInstanceAs (Decidable (_ ∧ _))

/-! ## Decoding -/

/-- The call: its type and flags, and the two addresses. -/
def decodeCall (m : RTCH) (data : Bytes) : RTCH :=
  { m with
    callType := data 2 >>> (5 : UInt8) &&& 0x07, emergency := decide (data 1 &&& 0x80 = 0x80),
    priority := decide (data 1 &&& 0x20 = 0x20), srcId := word16 (data 3) (data 4), dstId := word16 (data 5) (data 6) }

/-- The duplex flag and the transmission mode. -/
def decodeMode (m : RTCH) (data : Bytes) : RTCH :=
  { m with duplex := decide (data 2 &&& 0x10 = 0x10), transmissionMode := data 2 &&& 0x07 }

/-- The cipher and its key. -/
def decodeCipher (m : RTCH) (data : Bytes) : RTCH :=
  { m with algId := data 7 >>> (6 : UInt8) &&& 0x03, kId := data 7 &&& 0x3F }

/-- The message indicator at `data + n`, where a cipher is in use. -/
def decodeMi (m : RTCH) (data : Bytes) (n : Nat) : RTCH :=
  if m.Enciphered then { m with mi := memcpy (fun _ => 0x00) 0 (fromByte n data) NXDN_MI_LENGTH_BYTES } else m

/-- `decodeLC`. -/
def decodeLC (m : RTCH) (data : Bytes) : Bool × RTCH :=
  let m := { m with messageType := data 0 &&& 0x3F }
  if m.messageType = RTCH_MESSAGE_TYPE_VCALL then
    (true, decodeCipher (decodeMode (decodeCall m data) data) data)
  else if m.messageType = RTCH_MESSAGE_TYPE_VCALL_IV ∨ m.messageType = RTCH_MESSAGE_TYPE_SDCALL_IV then
    (true, decodeMi m data 1)
  else if m.messageType = RTCH_MESSAGE_TYPE_TX_REL then (true, decodeCall m data)
  else if m.messageType = RTCH_MESSAGE_TYPE_DCALL_HDR then
    let m := decodeCipher (decodeMode (decodeCall m data) data) data
    let m := { m with packetInfo := (PacketInformation.new.decode m.messageType (fromByte 8 data)).2 }
    (true, decodeMi m data 11)
  else if m.messageType = RTCH_MESSAGE_TYPE_DCALL_DATA ∨ m.messageType = RTCH_MESSAGE_TYPE_SDCALL_REQ_DATA then
    (true, { m with
      dataFrameNumber := data 1 >>> (4 : UInt8) &&& 0x0F, dataBlockNumber := data 1 &&& 0x0F })
  else if m.messageType = RTCH_MESSAGE_TYPE_DCALL_ACK then
    let m := decodeMode (decodeCall m data) data
    (true, { m with rsp := (PacketInformation.new.decode m.messageType (fromByte 7 data)).2 })
  else if m.messageType = RTCH_MESSAGE_TYPE_HEAD_DLY then
    (true, { decodeCall m data with delayCount := word16 (data 7) (data 8) })
  else if m.messageType = MESSAGE_TYPE_IDLE then (true, m)
  else if m.messageType = RTCH_MESSAGE_TYPE_SDCALL_REQ_HDR then
    let m := decodeCipher (decodeMode (decodeCall m data) data) data
    (true, { m with packetInfo := (PacketInformation.new.decode m.messageType (fromByte 8 data)).2 })
  else if m.messageType = RTCH_MESSAGE_TYPE_SDCALL_RESP then
    (true, { decodeMode (decodeCall m data) data with causeRsp := data 7 })
  else (false, m)

/-- `decode`. -/
def decode (m : RTCH) (data : Bytes) (length offset : Nat) : RTCH :=
  (decodeLC m (copyBits (fun _ => 0x00) 0 data offset length)).2

/-! ## Encoding -/

/-- Octet 1 and the addresses of a call. -/
def encodeCall (m : RTCH) (data : Bytes) : Bytes :=
  let data := setByte data 1 ((if m.emergency then 0x80 else 0x00) + (if m.priority then 0x20 else 0x00))
  let data := setByte data 3 (m.srcId >>> (8 : UInt16) &&& 0xFF).toUInt8
  let data := setByte data 4 (m.srcId >>> (0 : UInt16) &&& 0xFF).toUInt8
  let data := setByte data 5 (m.dstId >>> (8 : UInt16) &&& 0xFF).toUInt8
  setByte data 6 (m.dstId >>> (0 : UInt16) &&& 0xFF).toUInt8

/-- The type of a call without a mode. -/
def encodeType (m : RTCH) (data : Bytes) : Bytes := setByte data 2 ((m.callType &&& 0x07) <<< (5 : UInt8))

/-- The type of a call and its mode. -/
def encodeMode (m : RTCH) (data : Bytes) : Bytes :=
  setByte data 2 ((m.callType &&& 0x07) <<< (5 : UInt8) + (if m.duplex then 0x10 else 0x00) +
    (m.transmissionMode &&& 0x07))

/-- The cipher and its key. -/
def encodeCipher (m : RTCH) (data : Bytes) : Bytes :=
  setByte data 7 ((m.algId &&& 0x03) <<< (6 : UInt8) + (m.kId &&& 0x3F))

/-- The message indicator at `data + n`, where a cipher is in use. -/
def encodeMi (m : RTCH) (data : Bytes) (n : Nat) : Bytes :=
  if m.Enciphered then memcpy data n m.mi NXDN_MI_LENGTH_BYTES else data

theorem encodeMi_add (m : RTCH) (data : Bytes) (n : Nat) {i : Nat} (hi : i < 8) :
    encodeMi m data n (n + i) = if m.Enciphered then m.mi i else data (n + i) := by
  unfold encodeMi
  split
  · exact memcpy_add _ _ _ hi
  · rfl

theorem encodeMi_congr {sent got : RTCH} (hon : got.Enciphered ↔ sent.Enciphered)
    (hmi : sent.Enciphered → ∀ i < NXDN_MI_LENGTH_BYTES, got.mi i = sent.mi i) (data : Bytes) (n : Nat) :
    encodeMi got data n = encodeMi sent data n := by
  unfold encodeMi
  by_cases h : sent.Enciphered
  · rw [if_pos h, if_pos (hon.mpr h)]
    exact memcpy_congr _ _ (hmi h)
  · rw [if_neg h, if_neg (h ∘ hon.mp)]

/-- `encodeLC`, on a cleared buffer. In `m_dataFrameNumber & 0x0FU << 4` the shift binds closer than the mask;
    `RTCH_MESSAGE_TYPE_SDCALL_IV` and `RTCH_MESSAGE_TYPE_SDCALL_RESP` have no case. -/
def encodeLC (m : RTCH) : Bytes :=
  let data := setByte (fun _ => 0x00) 0 (m.messageType &&& 0x3F)
  if m.messageType = RTCH_MESSAGE_TYPE_VCALL then encodeCipher m (encodeMode m (encodeCall m data))
  else if m.messageType = RTCH_MESSAGE_TYPE_VCALL_IV then encodeMi m data 1
  else if m.messageType = RTCH_MESSAGE_TYPE_TX_REL then encodeType m (encodeCall m data)
  else if m.messageType = RTCH_MESSAGE_TYPE_DCALL_HDR then
    let data := encodeCipher m (encodeMode m (encodeCall m data))
    let data := onTail 8 (m.packetInfo.encode m.messageType) data
    encodeMi m data 11
  else if m.messageType = RTCH_MESSAGE_TYPE_DCALL_DATA ∨ m.messageType = RTCH_MESSAGE_TYPE_SDCALL_REQ_DATA then
    setByte data 1 ((m.dataFrameNumber &&& (0x0F : UInt8) <<< (4 : UInt8)) + (m.dataBlockNumber &&& 0x0F))
  else if m.messageType = RTCH_MESSAGE_TYPE_DCALL_ACK then
    onTail 7 (m.rsp.encode m.messageType) (encodeMode m (encodeCall m data))
  else if m.messageType = RTCH_MESSAGE_TYPE_HEAD_DLY then
    let data := encodeType m (encodeCall m data)
    let data := setByte data 7 (m.delayCount >>> (8 : UInt16) &&& 0xFF).toUInt8
    setByte data 8 (m.delayCount >>> (0 : UInt16) &&& 0xFF).toUInt8
  else if m.messageType = MESSAGE_TYPE_IDLE then data
  else if m.messageType = RTCH_MESSAGE_TYPE_SDCALL_REQ_HDR then
    let data := encodeCipher m (encodeMode m (encodeCall m data))
    onTail 8 (m.packetInfo.encode m.messageType) data
  else data

/-- `encode`. -/
def encode (m : RTCH) (data : Bytes) (length offset : Nat) : Bytes := copyBits data offset (encodeLC m) 0 length

/-! ## Copying -/

/-- `copy`. The octets that `m_mi` points at are left as they are. -/
def copy (m data : RTCH) : RTCH :=
  { m with
    messageType := data.messageType
    callType := data.callType
    srcId := data.srcId
    dstId := data.dstId
    emergency := data.emergency
    encrypted := data.encrypted
    priority := data.priority
    group := data.group
    duplex := data.duplex
    transmissionMode := data.transmissionMode
    packetInfo := data.packetInfo
    -- the response is taken from the packet information as well
    rsp := data.packetInfo
    dataFrameNumber := data.dataFrameNumber
    dataBlockNumber := data.dataBlockNumber
    delayCount := data.delayCount
    algId := data.algId
    kId := data.kId
    causeRsp := data.causeRsp }

/-- `RTCH(const RTCH&)`. It gives `m_mi` no value, so `mi` is whatever the pointer happens to lead to. -/
def copyConstruct (mi : Bytes) (data : RTCH) : RTCH := copy { new with mi := mi } data

end RTCH

end Nxdn

end DvmHost

import DvmHost.Common.Utils

/-!
# `Common.Nxdn.Channel.LICH` — the link information channel

`src/common/nxdn/channel/LICH.{h,cpp}`: an octet whose bits are sent in the bits 20, 22, … 34 of the frame, each with a
one behind it. Its last bit is a parity that the RF channel type and the functional channel type decide.
-/

namespace DvmHost.Nxdn

/-- `NXDN_LICH_RFCT_RCCH`. -/
def NXDN_LICH_RFCT_RCCH : UInt8 := 0

/-- `NXDN_LICH_RFCT_RTCH`. -/
def NXDN_LICH_RFCT_RTCH : UInt8 := 1

/-- `NXDN_LICH_RFCT_RDCH`. -/
def NXDN_LICH_RFCT_RDCH : UInt8 := 2

/-- `NXDN_LICH_USC_SACCH_NS`. -/
def NXDN_LICH_USC_SACCH_NS : UInt8 := 0

/-- `NXDN_LICH_USC_UDCH`. -/
def NXDN_LICH_USC_UDCH : UInt8 := 1

/-- `NXDN_LICH_USC_SACCH_SS`. -/
def NXDN_LICH_USC_SACCH_SS : UInt8 := 2

/-- `NXDN_LICH_STEAL_NONE`. -/
def NXDN_LICH_STEAL_NONE : UInt8 := 3

/-- `NXDN_LICH_STEAL_FACCH1_2`. -/
def NXDN_LICH_STEAL_FACCH1_2 : UInt8 := 2

/-- `NXDN_LICH_STEAL_FACCH1_1`. -/
def NXDN_LICH_STEAL_FACCH1_1 : UInt8 := 1

/-- `NXDN_LICH_STEAL_FACCH`. -/
def NXDN_LICH_STEAL_FACCH : UInt8 := 0

/-- `LICH`. -/
structure LICH where
  m_rfct : UInt8
  m_fct : UInt8
  m_option : UInt8
  m_outbound : Bool
  m_lich : UInt8
deriving DecidableEq

namespace LICH

/-- `LICH()`. -/
def new : LICH :=
  { m_rfct := NXDN_LICH_RFCT_RCCH, m_fct := NXDN_LICH_USC_SACCH_NS, m_option := 0, m_outbound := true, m_lich := 0 }

/-- `getParity`, of `m_lich`. -/
def getParity (m_lich : UInt8) : Bool := m_lich &&& 0xF0 = 0x80 ∨ m_lich &&& 0xF0 = 0xB0

/-- `NXDN_FSW_LENGTH_BITS`. -/
def NXDN_FSW_LENGTH_BITS : Nat := 20

/-- `NXDN_LICH_LENGTH_BITS`. -/
def NXDN_LICH_LENGTH_BITS : Nat := 16

/-- The loop of `decode`. -/
def readLICH (data : Bytes) : UInt8 :=
  (List.range (NXDN_LICH_LENGTH_BITS / 2)).foldl (fun lich i =>
    writeBit lich i (readBit data (NXDN_FSW_LENGTH_BITS + 2 * i))) (fun _ => 0x00) 0

/-- `decode`: whether the parity is right, and the object, which is set in either case. -/
def decode (data : Bytes) : Bool × LICH :=
  let m_lich := readLICH data
  (decide (m_lich &&& 0x01 = 0x01) == getParity m_lich,
    { m_rfct := m_lich >>> (6 : UInt8) &&& 0x03
      m_fct := m_lich >>> (4 : UInt8) &&& 0x03
      m_option := m_lich >>> (2 : UInt8) &&& 0x03
      m_outbound := decide (m_lich >>> (1 : UInt8) &&& 0x01 = 0x01)
      m_lich })

/-- The octet that `encode` makes of the fields. -/
def octet (l : LICH) : UInt8 :=
  let m_lich := ((0x00 : UInt8) &&& 0x3F) ||| (l.m_rfct &&& 0x03) <<< (6 : UInt8)
  let m_lich := (m_lich &&& 0xCF) ||| (l.m_fct &&& 0x03) <<< (4 : UInt8)
  let m_lich := (m_lich &&& 0xF3) ||| (l.m_option &&& 0x03) <<< (2 : UInt8)
  let m_lich := (m_lich &&& 0xFD) ||| (if l.m_outbound then 0x01 else 0x00 : UInt8) <<< (1 : UInt8)
  if getParity m_lich then m_lich ||| 0x01 else m_lich &&& 0xFE

/-- A turn of the loop of `encode`. -/
def writeTurn (lich : UInt8) (data : Bytes) (i : Nat) : Bytes :=
  let data := writeBit data (NXDN_FSW_LENGTH_BITS + 2 * i) (readBit (fun _ => lich) i)
  writeBit data (NXDN_FSW_LENGTH_BITS + 2 * i + 1) true

/-- `encode`, into the frame. -/
def encode (l : LICH) (data : Bytes) : Bytes :=
  (List.range (NXDN_LICH_LENGTH_BITS / 2)).foldl (writeTurn l.octet) data

end LICH

end DvmHost.Nxdn

import DvmHost.Common.Edac.CRC
import DvmHost.Common.Nxdn.Channel.Puncture

/-!
# `Common.Nxdn.Channel.SACCH` — the slow associated control channel

`src/common/nxdn/channel/SACCH.cpp`. The first octet of `m_data` is the structure and the RAN; with 18 bits of payload,
a CRC-6 and four zeros it makes 36 bits, of whose 72 symbols 60 are sent in bits 36 to 95 of the frame.
-/

namespace DvmHost.Nxdn

open Channel

/-- `SACCH`. -/
structure SACCH where
  m_ran : UInt8
  m_structure : UInt8
  m_data : Bytes

namespace SACCH

/-- `INTERLEAVE_TABLE`. -/
def INTERLEAVE_TABLE : List Nat :=
  [0, 5, 10, 15, 20, 25, 30, 35, 40, 45, 50, 55, 1, 6, 11, 16, 21, 26, 31, 36, 41, 46, 51, 56, 2, 7, 12, 17,
   22, 27, 32, 37, 42, 47, 52, 57, 3, 8, 13, 18, 23, 28, 33, 38, 43, 48, 53, 58, 4, 9, 14, 19, 24, 29, 34, 39,
   44, 49, 54, 59]

/-- `PUNCTURE_LIST`. -/
def PUNCTURE_LIST : List Nat :=
  [5, 11, 17, 23, 29, 35, 41, 47, 53, 59, 65, 71]

/-- `NXDN_SACCH_LENGTH_BITS`. -/
def NXDN_SACCH_LENGTH_BITS : Nat := 26

/-- The tables, with the `NXDN_SACCH_` lengths. -/
def coding : Coding where
  interleaveTable := INTERLEAVE_TABLE
  punctureList := PUNCTURE_LIST
  fecBits := 60
  convBits := 72
  crcBits := 36

/-- `NXDN_SR_SINGLE`. -/
def NXDN_SR_SINGLE : UInt8 := 0

/-- `NXDN_SR_4_4`. -/
def NXDN_SR_4_4 : UInt8 := 0

/-- `NXDN_SR_3_4`. -/
def NXDN_SR_3_4 : UInt8 := 1

/-- `NXDN_SR_2_4`. -/
def NXDN_SR_2_4 : UInt8 := 2

/-- `NXDN_SR_1_4`. -/
def NXDN_SR_1_4 : UInt8 := 3

/-- `SACCH_IDLE`. -/
def SACCH_IDLE : Bytes := fun i => [0x10, 0x00, 0x00].getD i 0

/-- `SACCH()`. -/
def new : SACCH := { m_ran := 0, m_structure := NXDN_SR_SINGLE, m_data := fun _ => 0x00 }

/-- `getData`: 18 bits. -/
def getData (ch : SACCH) (data : Bytes) : Bytes := copyBits data 0 ch.m_data 8 (NXDN_SACCH_LENGTH_BITS - 8)

/-- `setData`. -/
def setData (ch : SACCH) (data : Bytes) : SACCH :=
  { ch with m_data := copyBits ch.m_data 8 data 0 (NXDN_SACCH_LENGTH_BITS - 8) }

/-- `NXDN_FSW_LENGTH_BITS + NXDN_LICH_LENGTH_BITS`. -/
def base : Nat := 20 + 16

/-- `decode`. The symbols are cleared first. -/
def decode (ch : SACCH) (mem : Memory) (data : Bytes) : Bool × SACCH :=
  match decodeBits coding mem base data (fun _ => 0) ch.m_data with
  | none => (false, ch)
  | some m_data =>
      if CRC.checkCRC6 m_data NXDN_SACCH_LENGTH_BITS then
        (true, { m_ran := m_data 0 &&& 0x3F, m_structure := m_data 0 >>> 6 &&& 0x03, m_data })
      else (false, { ch with m_data })

/-- The lines of `encode` that set the first octet of `m_data`. -/
def withHeader (ch : SACCH) : Bytes :=
  let m_data := setByte ch.m_data 0 (ch.m_data 0 &&& 0xC0)
  let m_data := setByte m_data 0 (m_data 0 ||| ch.m_ran)
  let m_data := setByte m_data 0 (m_data 0 &&& 0x3F)
  setByte m_data 0 (m_data 0 ||| ch.m_structure <<< 6 &&& 0xC0)

/-- `encode`: the object, whose `m_data` it changes, and the frame. -/
def encode (ch : SACCH) (mem : Memory) (data : Bytes) : SACCH × Bytes :=
  let m_data := withHeader ch
  let buffer := copyBits (fun _ => 0) 0 m_data 0 NXDN_SACCH_LENGTH_BITS
  let buffer := CRC.addCRC6 buffer NXDN_SACCH_LENGTH_BITS
  ({ ch with m_data }, encodeBits coding mem base buffer data)

end SACCH

end DvmHost.Nxdn

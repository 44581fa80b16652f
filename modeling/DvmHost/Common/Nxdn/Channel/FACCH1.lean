import DvmHost.Common.Edac.CRC
import DvmHost.Common.Nxdn.Channel.Puncture

/-!
# `Common.Nxdn.Channel.FACCH1` — the fast associated control channel 1

`src/common/nxdn/channel/FACCH1.cpp`. Ten octets, a CRC-12 and four zeros make 96 bits, of whose 192 symbols 144 are
sent, at an offset that the caller gives.
-/

namespace DvmHost.Nxdn

open Channel

/-- `FACCH1`. -/
structure FACCH1 where
  m_data : Bytes

namespace FACCH1

/-- `INTERLEAVE_TABLE`. -/
def INTERLEAVE_TABLE : List Nat :=
  [0, 9, 18, 27, 36, 45, 54, 63, 72, 81, 90, 99, 108, 117, 126, 135, 1, 10, 19, 28, 37, 46, 55, 64, 73, 82,
   91, 100, 109, 118, 127, 136, 2, 11, 20, 29, 38, 47, 56, 65, 74, 83, 92, 101, 110, 119, 128, 137, 3, 12, 21,
   30, 39, 48, 57, 66, 75, 84, 93, 102, 111, 120, 129, 138, 4, 13, 22, 31, 40, 49, 58, 67, 76, 85, 94, 103,
   112, 121, 130, 139, 5, 14, 23, 32, 41, 50, 59, 68, 77, 86, 95, 104, 113, 122, 131, 140, 6, 15, 24, 33, 42,
   51, 60, 69, 78, 87, 96, 105, 114, 123, 132, 141, 7, 16, 25, 34, 43, 52, 61, 70, 79, 88, 97, 106, 115, 124,
   133, 142, 8, 17, 26, 35, 44, 53, 62, 71, 80, 89, 98, 107, 116, 125, 134, 143]

/-- `PUNCTURE_LIST`. -/
def PUNCTURE_LIST : List Nat :=
  [1, 5, 9, 13, 17, 21, 25, 29, 33, 37, 41, 45, 49, 53, 57, 61, 65, 69, 73, 77, 81, 85, 89, 93, 97, 101, 105,
   109, 113, 117, 121, 125, 129, 133, 137, 141, 145, 149, 153, 157, 161, 165, 169, 173, 177, 181, 185, 189]

/-- `NXDN_FACCH1_LENGTH_BITS`. -/
def NXDN_FACCH1_LENGTH_BITS : Nat := 80

/-- The tables, with the `NXDN_FACCH1_` lengths. -/
def coding : Coding where
  interleaveTable := INTERLEAVE_TABLE
  punctureList := PUNCTURE_LIST
  fecBits := 144
  convBits := 192
  crcBits := 96

/-- `FACCH1()`. -/
def new : FACCH1 := { m_data := fun _ => 0x00 }

/-- `getData`. -/
def getData (ch : FACCH1) (data : Bytes) : Bytes := memcpy data 0 ch.m_data 10

/-- `setData`. -/
def setData (ch : FACCH1) (data : Bytes) : FACCH1 := { m_data := memcpy ch.m_data 0 data 10 }

/-- `decode`. -/
def decode (ch : FACCH1) (mem : Memory) (data : Bytes) (offset : Nat) : Bool × FACCH1 :=
  match decodeBits coding mem offset data mem.puncture ch.m_data with
  | none => (false, ch)
  | some m_data =>
      if CRC.checkCRC12 m_data NXDN_FACCH1_LENGTH_BITS then (true, { m_data }) else (false, { m_data })

/-- `encode`. -/
def encode (ch : FACCH1) (mem : Memory) (data : Bytes) (offset : Nat) : Bytes :=
  let buffer := memcpy (fun _ => 0) 0 ch.m_data 10
  let buffer := CRC.addCRC12 buffer NXDN_FACCH1_LENGTH_BITS
  encodeBits coding mem offset buffer data

end FACCH1

end DvmHost.Nxdn

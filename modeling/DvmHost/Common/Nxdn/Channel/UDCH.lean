import DvmHost.Common.Edac.CRC
import DvmHost.Common.Nxdn.Channel.Puncture

/-!
# `Common.Nxdn.Channel.UDCH` — the user data channel

`src/common/nxdn/channel/UDCH.cpp`. The RAN and 22 octets of payload, a CRC-15 and four zeros make 203 bits, of whose
406 symbols 348 are sent in bits 36 to 383 of the frame.
-/

namespace DvmHost.Nxdn

open Channel

/-- `UDCH`. -/
structure UDCH where
  m_ran : UInt8
  m_data : Bytes

namespace UDCH

/-- `INTERLEAVE_TABLE`. -/
def INTERLEAVE_TABLE : List Nat :=
  [0, 29, 58, 87, 116, 145, 174, 203, 232, 261, 290, 319, 1, 30, 59, 88, 117, 146, 175, 204, 233, 262, 291,
   320, 2, 31, 60, 89, 118, 147, 176, 205, 234, 263, 292, 321, 3, 32, 61, 90, 119, 148, 177, 206, 235, 264,
   293, 322, 4, 33, 62, 91, 120, 149, 178, 207, 236, 265, 294, 323, 5, 34, 63, 92, 121, 150, 179, 208, 237,
   266, 295, 324, 6, 35, 64, 93, 122, 151, 180, 209, 238, 267, 296, 325, 7, 36, 65, 94, 123, 152, 181, 210,
   239, 268, 297, 326, 8, 37, 66, 95, 124, 153, 182, 211, 240, 269, 298, 327, 9, 38, 67, 96, 125, 154, 183,
   212, 241, 270, 299, 328, 10, 39, 68, 97, 126, 155, 184, 213, 242, 271, 300, 329, 11, 40, 69, 98, 127, 156,
   185, 214, 243, 272, 301, 330, 12, 41, 70, 99, 128, 157, 186, 215, 244, 273, 302, 331, 13, 42, 71, 100, 129,
   158, 187, 216, 245, 274, 303, 332, 14, 43, 72, 101, 130, 159, 188, 217, 246, 275, 304, 333, 15, 44, 73,
   102, 131, 160, 189, 218, 247, 276, 305, 334, 16, 45, 74, 103, 132, 161, 190, 219, 248, 277, 306, 335, 17,
   46, 75, 104, 133, 162, 191, 220, 249, 278, 307, 336, 18, 47, 76, 105, 134, 163, 192, 221, 250, 279, 308,
   337, 19, 48, 77, 106, 135, 164, 193, 222, 251, 280, 309, 338, 20, 49, 78, 107, 136, 165, 194, 223, 252,
   281, 310, 339, 21, 50, 79, 108, 137, 166, 195, 224, 253, 282, 311, 340, 22, 51, 80, 109, 138, 167, 196,
   225, 254, 283, 312, 341, 23, 52, 81, 110, 139, 168, 197, 226, 255, 284, 313, 342, 24, 53, 82, 111, 140,
   169, 198, 227, 256, 285, 314, 343, 25, 54, 83, 112, 141, 170, 199, 228, 257, 286, 315, 344, 26, 55, 84,
   113, 142, 171, 200, 229, 258, 287, 316, 345, 27, 56, 85, 114, 143, 172, 201, 230, 259, 288, 317, 346, 28,
   57, 86, 115, 144, 173, 202, 231, 260, 289, 318, 347]

/-- `PUNCTURE_LIST`. -/
def PUNCTURE_LIST : List Nat :=
  [3, 11, 17, 25, 31, 39, 45, 53, 59, 67, 73, 81, 87, 95, 101, 109, 115, 123, 129, 137, 143, 151, 157, 165,
   171, 179, 185, 193, 199, 207, 213, 221, 227, 235, 241, 249, 255, 263, 269, 277, 283, 291, 297, 305, 311,
   319, 325, 333, 339, 347, 353, 361, 367, 375, 381, 389, 395, 403]

/-- `NXDN_UDCH_LENGTH_BITS`. -/
def NXDN_UDCH_LENGTH_BITS : Nat := 184

/-- The tables, with the `NXDN_UDCH_` lengths. -/
def coding : Coding where
  interleaveTable := INTERLEAVE_TABLE
  punctureList := PUNCTURE_LIST
  fecBits := 348
  convBits := 406
  crcBits := 203

/-- `NXDN_FSW_LENGTH_BITS + NXDN_LICH_LENGTH_BITS`. -/
def base : Nat := 20 + 16

/-- `UDCH()`. -/
def new : UDCH := { m_ran := 0, m_data := fun _ => 0x00 }

/-- `getData`. -/
def getData (ch : UDCH) (data : Bytes) : Bytes := memcpy data 0 (fromByte 1 ch.m_data) 22

/-- `decode`. -/
def decode (ch : UDCH) (mem : Memory) (data : Bytes) : Bool × UDCH :=
  match decodeBits coding mem base data mem.puncture ch.m_data with
  | none => (false, ch)
  | some m_data =>
      if CRC.checkCRC15 m_data NXDN_UDCH_LENGTH_BITS then (true, { m_ran := m_data 0 &&& 0x3F, m_data })
      else (false, { ch with m_data })

/-- `encode`: the object, whose `m_data` it changes, and the frame. -/
def encode (ch : UDCH) (mem : Memory) (data : Bytes) : UDCH × Bytes :=
  let m_data := setByte ch.m_data 0 ch.m_ran
  let buffer := memcpy (fun _ => 0) 0 m_data 23
  let buffer := CRC.addCRC15 buffer NXDN_UDCH_LENGTH_BITS
  ({ ch with m_data }, encodeBits coding mem base buffer data)

end UDCH

end DvmHost.Nxdn

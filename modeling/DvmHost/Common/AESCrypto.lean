import DvmHost.Common.Utils
import Mathlib.RingTheory.AdjoinRoot
import Mathlib.Data.Matrix.Mul
import Mathlib.Tactic.LinearCombination
import DvmHost.Lib.Mealy
import DvmHost.Lib.Remainder

/-!
# `Common.AESCrypto` — the AES block cipher

`src/common/AESCrypto.{h,cpp}`. The state is four rows of `AES_NB` octets, filled column by column; the products of the
two column mixings are looked up in `GF_MUL_TABLE`. The three modes take whole blocks only and otherwise throw.

An octet stands for an element of the ring of polynomials over two elements modulo `x^8 + x^4 + x^3 + x + 1`, and the
rows of `GF_MUL_TABLE` multiply by the element of their number. The two column mixings are then products with the
matrices `CMDS` and `INV_CMDS` over that ring, which are inverse to each other. With the inverse tables and shifts every
round is undone (`decryptBlock_encryptBlock`), and the modes are machines of `Lib.Mealy` that undo each other.
-/

namespace DvmHost

namespace AES

/-- `AES_NB`. -/
def AES_NB : Nat := 4

/-- `m_blockBytesLen`. -/
def m_blockBytesLen : Nat := 4 * AES_NB

/-- `AESKeyLength`. -/
inductive AESKeyLength
  | AES_128
  | AES_192
  | AES_256
  deriving DecidableEq, Repr

namespace AESKeyLength

/-- `m_Nk`, the words of the key. -/
def m_Nk : AESKeyLength → Nat
  | AES_128 => 4
  | AES_192 => 6
  | AES_256 => 8

/-- `m_Nr`, the rounds. -/
def m_Nr : AESKeyLength → Nat
  | AES_128 => 10
  | AES_192 => 12
  | AES_256 => 14

end AESKeyLength

/-- `SBOX`. -/
def SBOX : List (List UInt8) :=
  [[0x63, 0x7C, 0x77, 0x7B, 0xF2, 0x6B, 0x6F, 0xC5, 0x30, 0x01, 0x67, 0x2B, 0xFE, 0xD7, 0xAB, 0x76],
   [0xCA, 0x82, 0xC9, 0x7D, 0xFA, 0x59, 0x47, 0xF0, 0xAD, 0xD4, 0xA2, 0xAF, 0x9C, 0xA4, 0x72, 0xC0],
   [0xB7, 0xFD, 0x93, 0x26, 0x36, 0x3F, 0xF7, 0xCC, 0x34, 0xA5, 0xE5, 0xF1, 0x71, 0xD8, 0x31, 0x15],
   [0x04, 0xC7, 0x23, 0xC3, 0x18, 0x96, 0x05, 0x9A, 0x07, 0x12, 0x80, 0xE2, 0xEB, 0x27, 0xB2, 0x75],
   [0x09, 0x83, 0x2C, 0x1A, 0x1B, 0x6E, 0x5A, 0xA0, 0x52, 0x3B, 0xD6, 0xB3, 0x29, 0xE3, 0x2F, 0x84],
   [0x53, 0xD1, 0x00, 0xED, 0x20, 0xFC, 0xB1, 0x5B, 0x6A, 0xCB, 0xBE, 0x39, 0x4A, 0x4C, 0x58, 0xCF],
   [0xD0, 0xEF, 0xAA, 0xFB, 0x43, 0x4D, 0x33, 0x85, 0x45, 0xF9, 0x02, 0x7F, 0x50, 0x3C, 0x9F, 0xA8],
   [0x51, 0xA3, 0x40, 0x8F, 0x92, 0x9D, 0x38, 0xF5, 0xBC, 0xB6, 0xDA, 0x21, 0x10, 0xFF, 0xF3, 0xD2],
   [0xCD, 0x0C, 0x13, 0xEC, 0x5F, 0x97, 0x44, 0x17, 0xC4, 0xA7, 0x7E, 0x3D, 0x64, 0x5D, 0x19, 0x73],
   [0x60, 0x81, 0x4F, 0xDC, 0x22, 0x2A, 0x90, 0x88, 0x46, 0xEE, 0xB8, 0x14, 0xDE, 0x5E, 0x0B, 0xDB],
   [0xE0, 0x32, 0x3A, 0x0A, 0x49, 0x06, 0x24, 0x5C, 0xC2, 0xD3, 0xAC, 0x62, 0x91, 0x95, 0xE4, 0x79],
   [0xE7, 0xC8, 0x37, 0x6D, 0x8D, 0xD5, 0x4E, 0xA9, 0x6C, 0x56, 0xF4, 0xEA, 0x65, 0x7A, 0xAE, 0x08],
   [0xBA, 0x78, 0x25, 0x2E, 0x1C, 0xA6, 0xB4, 0xC6, 0xE8, 0xDD, 0x74, 0x1F, 0x4B, 0xBD, 0x8B, 0x8A],
   [0x70, 0x3E, 0xB5, 0x66, 0x48, 0x03, 0xF6, 0x0E, 0x61, 0x35, 0x57, 0xB9, 0x86, 0xC1, 0x1D, 0x9E],
   [0xE1, 0xF8, 0x98, 0x11, 0x69, 0xD9, 0x8E, 0x94, 0x9B, 0x1E, 0x87, 0xE9, 0xCE, 0x55, 0x28, 0xDF],
   [0x8C, 0xA1, 0x89, 0x0D, 0xBF, 0xE6, 0x42, 0x68, 0x41, 0x99, 0x2D, 0x0F, 0xB0, 0x54, 0xBB, 0x16]]

/-- `INV_SBOX`. -/
def INV_SBOX : List (List UInt8) :=
  [[0x52, 0x09, 0x6A, 0xD5, 0x30, 0x36, 0xA5, 0x38, 0xBF, 0x40, 0xA3, 0x9E, 0x81, 0xF3, 0xD7, 0xFB],
   [0x7C, 0xE3, 0x39, 0x82, 0x9B, 0x2F, 0xFF, 0x87, 0x34, 0x8E, 0x43, 0x44, 0xC4, 0xDE, 0xE9, 0xCB],
   [0x54, 0x7B, 0x94, 0x32, 0xA6, 0xC2, 0x23, 0x3D, 0xEE, 0x4C, 0x95, 0x0B, 0x42, 0xFA, 0xC3, 0x4E],
   [0x08, 0x2E, 0xA1, 0x66, 0x28, 0xD9, 0x24, 0xB2, 0x76, 0x5B, 0xA2, 0x49, 0x6D, 0x8B, 0xD1, 0x25],
   [0x72, 0xF8, 0xF6, 0x64, 0x86, 0x68, 0x98, 0x16, 0xD4, 0xA4, 0x5C, 0xCC, 0x5D, 0x65, 0xB6, 0x92],
   [0x6C, 0x70, 0x48, 0x50, 0xFD, 0xED, 0xB9, 0xDA, 0x5E, 0x15, 0x46, 0x57, 0xA7, 0x8D, 0x9D, 0x84],
   [0x90, 0xD8, 0xAB, 0x00, 0x8C, 0xBC, 0xD3, 0x0A, 0xF7, 0xE4, 0x58, 0x05, 0xB8, 0xB3, 0x45, 0x06],
   [0xD0, 0x2C, 0x1E, 0x8F, 0xCA, 0x3F, 0x0F, 0x02, 0xC1, 0xAF, 0xBD, 0x03, 0x01, 0x13, 0x8A, 0x6B],
   [0x3A, 0x91, 0x11, 0x41, 0x4F, 0x67, 0xDC, 0xEA, 0x97, 0xF2, 0xCF, 0xCE, 0xF0, 0xB4, 0xE6, 0x73],
   [0x96, 0xAC, 0x74, 0x22, 0xE7, 0xAD, 0x35, 0x85, 0xE2, 0xF9, 0x37, 0xE8, 0x1C, 0x75, 0xDF, 0x6E],
   [0x47, 0xF1, 0x1A, 0x71, 0x1D, 0x29, 0xC5, 0x89, 0x6F, 0xB7, 0x62, 0x0E, 0xAA, 0x18, 0xBE, 0x1B],
   [0xFC, 0x56, 0x3E, 0x4B, 0xC6, 0xD2, 0x79, 0x20, 0x9A, 0xDB, 0xC0, 0xFE, 0x78, 0xCD, 0x5A, 0xF4],
   [0x1F, 0xDD, 0xA8, 0x33, 0x88, 0x07, 0xC7, 0x31, 0xB1, 0x12, 0x10, 0x59, 0x27, 0x80, 0xEC, 0x5F],
   [0x60, 0x51, 0x7F, 0xA9, 0x19, 0xB5, 0x4A, 0x0D, 0x2D, 0xE5, 0x7A, 0x9F, 0x93, 0xC9, 0x9C, 0xEF],
   [0xA0, 0xE0, 0x3B, 0x4D, 0xAE, 0x2A, 0xF5, 0xB0, 0xC8, 0xEB, 0xBB, 0x3C, 0x83, 0x53, 0x99, 0x61],
   [0x17, 0x2B, 0x04, 0x7E, 0xBA, 0x77, 0xD6, 0x26, 0xE1, 0x69, 0x14, 0x63, 0x55, 0x21, 0x0C, 0x7D]]

/-- `GF_MUL_TABLE[2]`. -/
def gfMul2 : List UInt8 :=
  [0x00, 0x02, 0x04, 0x06, 0x08, 0x0A, 0x0C, 0x0E, 0x10, 0x12, 0x14, 0x16, 0x18, 0x1A, 0x1C, 0x1E,
   0x20, 0x22, 0x24, 0x26, 0x28, 0x2A, 0x2C, 0x2E, 0x30, 0x32, 0x34, 0x36, 0x38, 0x3A, 0x3C, 0x3E,
   0x40, 0x42, 0x44, 0x46, 0x48, 0x4A, 0x4C, 0x4E, 0x50, 0x52, 0x54, 0x56, 0x58, 0x5A, 0x5C, 0x5E,
   0x60, 0x62, 0x64, 0x66, 0x68, 0x6A, 0x6C, 0x6E, 0x70, 0x72, 0x74, 0x76, 0x78, 0x7A, 0x7C, 0x7E,
   0x80, 0x82, 0x84, 0x86, 0x88, 0x8A, 0x8C, 0x8E, 0x90, 0x92, 0x94, 0x96, 0x98, 0x9A, 0x9C, 0x9E,
   0xA0, 0xA2, 0xA4, 0xA6, 0xA8, 0xAA, 0xAC, 0xAE, 0xB0, 0xB2, 0xB4, 0xB6, 0xB8, 0xBA, 0xBC, 0xBE,
   0xC0, 0xC2, 0xC4, 0xC6, 0xC8, 0xCA, 0xCC, 0xCE, 0xD0, 0xD2, 0xD4, 0xD6, 0xD8, 0xDA, 0xDC, 0xDE,
   0xE0, 0xE2, 0xE4, 0xE6, 0xE8, 0xEA, 0xEC, 0xEE, 0xF0, 0xF2, 0xF4, 0xF6, 0xF8, 0xFA, 0xFC, 0xFE,
   0x1B, 0x19, 0x1F, 0x1D, 0x13, 0x11, 0x17, 0x15, 0x0B, 0x09, 0x0F, 0x0D, 0x03, 0x01, 0x07, 0x05,
   0x3B, 0x39, 0x3F, 0x3D, 0x33, 0x31, 0x37, 0x35, 0x2B, 0x29, 0x2F, 0x2D, 0x23, 0x21, 0x27, 0x25,
   0x5B, 0x59, 0x5F, 0x5D, 0x53, 0x51, 0x57, 0x55, 0x4B, 0x49, 0x4F, 0x4D, 0x43, 0x41, 0x47, 0x45,
   0x7B, 0x79, 0x7F, 0x7D, 0x73, 0x71, 0x77, 0x75, 0x6B, 0x69, 0x6F, 0x6D, 0x63, 0x61, 0x67, 0x65,
   0x9B, 0x99, 0x9F, 0x9D, 0x93, 0x91, 0x97, 0x95, 0x8B, 0x89, 0x8F, 0x8D, 0x83, 0x81, 0x87, 0x85,
   0xBB, 0xB9, 0xBF, 0xBD, 0xB3, 0xB1, 0xB7, 0xB5, 0xAB, 0xA9, 0xAF, 0xAD, 0xA3, 0xA1, 0xA7, 0xA5,
   0xDB, 0xD9, 0xDF, 0xDD, 0xD3, 0xD1, 0xD7, 0xD5, 0xCB, 0xC9, 0xCF, 0xCD, 0xC3, 0xC1, 0xC7, 0xC5,
   0xFB, 0xF9, 0xFF, 0xFD, 0xF3, 0xF1, 0xF7, 0xF5, 0xEB, 0xE9, 0xEF, 0xED, 0xE3, 0xE1, 0xE7, 0xE5]

/-- `GF_MUL_TABLE[3]`. -/
def gfMul3 : List UInt8 :=
  [0x00, 0x03, 0x06, 0x05, 0x0C, 0x0F, 0x0A, 0x09, 0x18, 0x1B, 0x1E, 0x1D, 0x14, 0x17, 0x12, 0x11,
   0x30, 0x33, 0x36, 0x35, 0x3C, 0x3F, 0x3A, 0x39, 0x28, 0x2B, 0x2E, 0x2D, 0x24, 0x27, 0x22, 0x21,
   0x60, 0x63, 0x66, 0x65, 0x6C, 0x6F, 0x6A, 0x69, 0x78, 0x7B, 0x7E, 0x7D, 0x74, 0x77, 0x72, 0x71,
   0x50, 0x53, 0x56, 0x55, 0x5C, 0x5F, 0x5A, 0x59, 0x48, 0x4B, 0x4E, 0x4D, 0x44, 0x47, 0x42, 0x41,
   0xC0, 0xC3, 0xC6, 0xC5, 0xCC, 0xCF, 0xCA, 0xC9, 0xD8, 0xDB, 0xDE, 0xDD, 0xD4, 0xD7, 0xD2, 0xD1,
   0xF0, 0xF3, 0xF6, 0xF5, 0xFC, 0xFF, 0xFA, 0xF9, 0xE8, 0xEB, 0xEE, 0xED, 0xE4, 0xE7, 0xE2, 0xE1,
   0xA0, 0xA3, 0xA6, 0xA5, 0xAC, 0xAF, 0xAA, 0xA9, 0xB8, 0xBB, 0xBE, 0xBD, 0xB4, 0xB7, 0xB2, 0xB1,
   0x90, 0x93, 0x96, 0x95, 0x9C, 0x9F, 0x9A, 0x99, 0x88, 0x8B, 0x8E, 0x8D, 0x84, 0x87, 0x82, 0x81,
   0x9B, 0x98, 0x9D, 0x9E, 0x97, 0x94, 0x91, 0x92, 0x83, 0x80, 0x85, 0x86, 0x8F, 0x8C, 0x89, 0x8A,
   0xAB, 0xA8, 0xAD, 0xAE, 0xA7, 0xA4, 0xA1, 0xA2, 0xB3, 0xB0, 0xB5, 0xB6, 0xBF, 0xBC, 0xB9, 0xBA,
   0xFB, 0xF8, 0xFD, 0xFE, 0xF7, 0xF4, 0xF1, 0xF2, 0xE3, 0xE0, 0xE5, 0xE6, 0xEF, 0xEC, 0xE9, 0xEA,
   0xCB, 0xC8, 0xCD, 0xCE, 0xC7, 0xC4, 0xC1, 0xC2, 0xD3, 0xD0, 0xD5, 0xD6, 0xDF, 0xDC, 0xD9, 0xDA,
   0x5B, 0x58, 0x5D, 0x5E, 0x57, 0x54, 0x51, 0x52, 0x43, 0x40, 0x45, 0x46, 0x4F, 0x4C, 0x49, 0x4A,
   0x6B, 0x68, 0x6D, 0x6E, 0x67, 0x64, 0x61, 0x62, 0x73, 0x70, 0x75, 0x76, 0x7F, 0x7C, 0x79, 0x7A,
   0x3B, 0x38, 0x3D, 0x3E, 0x37, 0x34, 0x31, 0x32, 0x23, 0x20, 0x25, 0x26, 0x2F, 0x2C, 0x29, 0x2A,
   0x0B, 0x08, 0x0D, 0x0E, 0x07, 0x04, 0x01, 0x02, 0x13, 0x10, 0x15, 0x16, 0x1F, 0x1C, 0x19, 0x1A]

/-- `GF_MUL_TABLE[9]`. -/
def gfMul9 : List UInt8 :=
  [0x00, 0x09, 0x12, 0x1B, 0x24, 0x2D, 0x36, 0x3F, 0x48, 0x41, 0x5A, 0x53, 0x6C, 0x65, 0x7E, 0x77,
   0x90, 0x99, 0x82, 0x8B, 0xB4, 0xBD, 0xA6, 0xAF, 0xD8, 0xD1, 0xCA, 0xC3, 0xFC, 0xF5, 0xEE, 0xE7,
   0x3B, 0x32, 0x29, 0x20, 0x1F, 0x16, 0x0D, 0x04, 0x73, 0x7A, 0x61, 0x68, 0x57, 0x5E, 0x45, 0x4C,
   0xAB, 0xA2, 0xB9, 0xB0, 0x8F, 0x86, 0x9D, 0x94, 0xE3, 0xEA, 0xF1, 0xF8, 0xC7, 0xCE, 0xD5, 0xDC,
   0x76, 0x7F, 0x64, 0x6D, 0x52, 0x5B, 0x40, 0x49, 0x3E, 0x37, 0x2C, 0x25, 0x1A, 0x13, 0x08, 0x01,
   0xE6, 0xEF, 0xF4, 0xFD, 0xC2, 0xCB, 0xD0, 0xD9, 0xAE, 0xA7, 0xBC, 0xB5, 0x8A, 0x83, 0x98, 0x91,
   0x4D, 0x44, 0x5F, 0x56, 0x69, 0x60, 0x7B, 0x72, 0x05, 0x0C, 0x17, 0x1E, 0x21, 0x28, 0x33, 0x3A,
   0xDD, 0xD4, 0xCF, 0xC6, 0xF9, 0xF0, 0xEB, 0xE2, 0x95, 0x9C, 0x87, 0x8E, 0xB1, 0xB8, 0xA3, 0xAA,
   0xEC, 0xE5, 0xFE, 0xF7, 0xC8, 0xC1, 0xDA, 0xD3, 0xA4, 0xAD, 0xB6, 0xBF, 0x80, 0x89, 0x92, 0x9B,
   0x7C, 0x75, 0x6E, 0x67, 0x58, 0x51, 0x4A, 0x43, 0x34, 0x3D, 0x26, 0x2F, 0x10, 0x19, 0x02, 0x0B,
   0xD7, 0xDE, 0xC5, 0xCC, 0xF3, 0xFA, 0xE1, 0xE8, 0x9F, 0x96, 0x8D, 0x84, 0xBB, 0xB2, 0xA9, 0xA0,
   0x47, 0x4E, 0x55, 0x5C, 0x63, 0x6A, 0x71, 0x78, 0x0F, 0x06, 0x1D, 0x14, 0x2B, 0x22, 0x39, 0x30,
   0x9A, 0x93, 0x88, 0x81, 0xBE, 0xB7, 0xAC, 0xA5, 0xD2, 0xDB, 0xC0, 0xC9, 0xF6, 0xFF, 0xE4, 0xED,
   0x0A, 0x03, 0x18, 0x11, 0x2E, 0x27, 0x3C, 0x35, 0x42, 0x4B, 0x50, 0x59, 0x66, 0x6F, 0x74, 0x7D,
   0xA1, 0xA8, 0xB3, 0xBA, 0x85, 0x8C, 0x97, 0x9E, 0xE9, 0xE0, 0xFB, 0xF2, 0xCD, 0xC4, 0xDF, 0xD6,
   0x31, 0x38, 0x23, 0x2A, 0x15, 0x1C, 0x07, 0x0E, 0x79, 0x70, 0x6B, 0x62, 0x5D, 0x54, 0x4F, 0x46]

/-- `GF_MUL_TABLE[11]`. -/
def gfMul11 : List UInt8 :=
  [0x00, 0x0B, 0x16, 0x1D, 0x2C, 0x27, 0x3A, 0x31, 0x58, 0x53, 0x4E, 0x45, 0x74, 0x7F, 0x62, 0x69,
   0xB0, 0xBB, 0xA6, 0xAD, 0x9C, 0x97, 0x8A, 0x81, 0xE8, 0xE3, 0xFE, 0xF5, 0xC4, 0xCF, 0xD2, 0xD9,
   0x7B, 0x70, 0x6D, 0x66, 0x57, 0x5C, 0x41, 0x4A, 0x23, 0x28, 0x35, 0x3E, 0x0F, 0x04, 0x19, 0x12,
   0xCB, 0xC0, 0xDD, 0xD6, 0xE7, 0xEC, 0xF1, 0xFA, 0x93, 0x98, 0x85, 0x8E, 0xBF, 0xB4, 0xA9, 0xA2,
   0xF6, 0xFD, 0xE0, 0xEB, 0xDA, 0xD1, 0xCC, 0xC7, 0xAE, 0xA5, 0xB8, 0xB3, 0x82, 0x89, 0x94, 0x9F,
   0x46, 0x4D, 0x50, 0x5B, 0x6A, 0x61, 0x7C, 0x77, 0x1E, 0x15, 0x08, 0x03, 0x32, 0x39, 0x24, 0x2F,
   0x8D, 0x86, 0x9B, 0x90, 0xA1, 0xAA, 0xB7, 0xBC, 0xD5, 0xDE, 0xC3, 0xC8, 0xF9, 0xF2, 0xEF, 0xE4,
   0x3D, 0x36, 0x2B, 0x20, 0x11, 0x1A, 0x07, 0x0C, 0x65, 0x6E, 0x73, 0x78, 0x49, 0x42, 0x5F, 0x54,
   0xF7, 0xFC, 0xE1, 0xEA, 0xDB, 0xD0, 0xCD, 0xC6, 0xAF, 0xA4, 0xB9, 0xB2, 0x83, 0x88, 0x95, 0x9E,
   0x47, 0x4C, 0x51, 0x5A, 0x6B, 0x60, 0x7D, 0x76, 0x1F, 0x14, 0x09, 0x02, 0x33, 0x38, 0x25, 0x2E,
   0x8C, 0x87, 0x9A, 0x91, 0xA0, 0xAB, 0xB6, 0xBD, 0xD4, 0xDF, 0xC2, 0xC9, 0xF8, 0xF3, 0xEE, 0xE5,
   0x3C, 0x37, 0x2A, 0x21, 0x10, 0x1B, 0x06, 0x0D, 0x64, 0x6F, 0x72, 0x79, 0x48, 0x43, 0x5E, 0x55,
   0x01, 0x0A, 0x17, 0x1C, 0x2D, 0x26, 0x3B, 0x30, 0x59, 0x52, 0x4F, 0x44, 0x75, 0x7E, 0x63, 0x68,
   0xB1, 0xBA, 0xA7, 0xAC, 0x9D, 0x96, 0x8B, 0x80, 0xE9, 0xE2, 0xFF, 0xF4, 0xC5, 0xCE, 0xD3, 0xD8,
   0x7A, 0x71, 0x6C, 0x67, 0x56, 0x5D, 0x40, 0x4B, 0x22, 0x29, 0x34, 0x3F, 0x0E, 0x05, 0x18, 0x13,
   0xCA, 0xC1, 0xDC, 0xD7, 0xE6, 0xED, 0xF0, 0xFB, 0x92, 0x99, 0x84, 0x8F, 0xBE, 0xB5, 0xA8, 0xA3]

/-- `GF_MUL_TABLE[13]`. -/
def gfMul13 : List UInt8 :=
  [0x00, 0x0D, 0x1A, 0x17, 0x34, 0x39, 0x2E, 0x23, 0x68, 0x65, 0x72, 0x7F, 0x5C, 0x51, 0x46, 0x4B,
   0xD0, 0xDD, 0xCA, 0xC7, 0xE4, 0xE9, 0xFE, 0xF3, 0xB8, 0xB5, 0xA2, 0xAF, 0x8C, 0x81, 0x96, 0x9B,
   0xBB, 0xB6, 0xA1, 0xAC, 0x8F, 0x82, 0x95, 0x98, 0xD3, 0xDE, 0xC9, 0xC4, 0xE7, 0xEA, 0xFD, 0xF0,
   0x6B, 0x66, 0x71, 0x7C, 0x5F, 0x52, 0x45, 0x48, 0x03, 0x0E, 0x19, 0x14, 0x37, 0x3A, 0x2D, 0x20,
   0x6D, 0x60, 0x77, 0x7A, 0x59, 0x54, 0x43, 0x4E, 0x05, 0x08, 0x1F, 0x12, 0x31, 0x3C, 0x2B, 0x26,
   0xBD, 0xB0, 0xA7, 0xAA, 0x89, 0x84, 0x93, 0x9E, 0xD5, 0xD8, 0xCF, 0xC2, 0xE1, 0xEC, 0xFB, 0xF6,
   0xD6, 0xDB, 0xCC, 0xC1, 0xE2, 0xEF, 0xF8, 0xF5, 0xBE, 0xB3, 0xA4, 0xA9, 0x8A, 0x87, 0x90, 0x9D,
   0x06, 0x0B, 0x1C, 0x11, 0x32, 0x3F, 0x28, 0x25, 0x6E, 0x63, 0x74, 0x79, 0x5A, 0x57, 0x40, 0x4D,
   0xDA, 0xD7, 0xC0, 0xCD, 0xEE, 0xE3, 0xF4, 0xF9, 0xB2, 0xBF, 0xA8, 0xA5, 0x86, 0x8B, 0x9C, 0x91,
   0x0A, 0x07, 0x10, 0x1D, 0x3E, 0x33, 0x24, 0x29, 0x62, 0x6F, 0x78, 0x75, 0x56, 0x5B, 0x4C, 0x41,
   0x61, 0x6C, 0x7B, 0x76, 0x55, 0x58, 0x4F, 0x42, 0x09, 0x04, 0x13, 0x1E, 0x3D, 0x30, 0x27, 0x2A,
   0xB1, 0xBC, 0xAB, 0xA6, 0x85, 0x88, 0x9F, 0x92, 0xD9, 0xD4, 0xC3, 0xCE, 0xED, 0xE0, 0xF7, 0xFA,
   0xB7, 0xBA, 0xAD, 0xA0, 0x83, 0x8E, 0x99, 0x94, 0xDF, 0xD2, 0xC5, 0xC8, 0xEB, 0xE6, 0xF1, 0xFC,
   0x67, 0x6A, 0x7D, 0x70, 0x53, 0x5E, 0x49, 0x44, 0x0F, 0x02, 0x15, 0x18, 0x3B, 0x36, 0x21, 0x2C,
   0x0C, 0x01, 0x16, 0x1B, 0x38, 0x35, 0x22, 0x2F, 0x64, 0x69, 0x7E, 0x73, 0x50, 0x5D, 0x4A, 0x47,
   0xDC, 0xD1, 0xC6, 0xCB, 0xE8, 0xE5, 0xF2, 0xFF, 0xB4, 0xB9, 0xAE, 0xA3, 0x80, 0x8D, 0x9A, 0x97]

/-- `GF_MUL_TABLE[14]`. -/
def gfMul14 : List UInt8 :=
  [0x00, 0x0E, 0x1C, 0x12, 0x38, 0x36, 0x24, 0x2A, 0x70, 0x7E, 0x6C, 0x62, 0x48, 0x46, 0x54, 0x5A,
   0xE0, 0xEE, 0xFC, 0xF2, 0xD8, 0xD6, 0xC4, 0xCA, 0x90, 0x9E, 0x8C, 0x82, 0xA8, 0xA6, 0xB4, 0xBA,
   0xDB, 0xD5, 0xC7, 0xC9, 0xE3, 0xED, 0xFF, 0xF1, 0xAB, 0xA5, 0xB7, 0xB9, 0x93, 0x9D, 0x8F, 0x81,
   0x3B, 0x35, 0x27, 0x29, 0x03, 0x0D, 0x1F, 0x11, 0x4B, 0x45, 0x57, 0x59, 0x73, 0x7D, 0x6F, 0x61,
   0xAD, 0xA3, 0xB1, 0xBF, 0x95, 0x9B, 0x89, 0x87, 0xDD, 0xD3, 0xC1, 0xCF, 0xE5, 0xEB, 0xF9, 0xF7,
   0x4D, 0x43, 0x51, 0x5F, 0x75, 0x7B, 0x69, 0x67, 0x3D, 0x33, 0x21, 0x2F, 0x05, 0x0B, 0x19, 0x17,
   0x76, 0x78, 0x6A, 0x64, 0x4E, 0x40, 0x52, 0x5C, 0x06, 0x08, 0x1A, 0x14, 0x3E, 0x30, 0x22, 0x2C,
   0x96, 0x98, 0x8A, 0x84, 0xAE, 0xA0, 0xB2, 0xBC, 0xE6, 0xE8, 0xFA, 0xF4, 0xDE, 0xD0, 0xC2, 0xCC,
   0x41, 0x4F, 0x5D, 0x53, 0x79, 0x77, 0x65, 0x6B, 0x31, 0x3F, 0x2D, 0x23, 0x09, 0x07, 0x15, 0x1B,
   0xA1, 0xAF, 0xBD, 0xB3, 0x99, 0x97, 0x85, 0x8B, 0xD1, 0xDF, 0xCD, 0xC3, 0xE9, 0xE7, 0xF5, 0xFB,
   0x9A, 0x94, 0x86, 0x88, 0xA2, 0xAC, 0xBE, 0xB0, 0xEA, 0xE4, 0xF6, 0xF8, 0xD2, 0xDC, 0xCE, 0xC0,
   0x7A, 0x74, 0x66, 0x68, 0x42, 0x4C, 0x5E, 0x50, 0x0A, 0x04, 0x16, 0x18, 0x32, 0x3C, 0x2E, 0x20,
   0xEC, 0xE2, 0xF0, 0xFE, 0xD4, 0xDA, 0xC8, 0xC6, 0x9C, 0x92, 0x80, 0x8E, 0xA4, 0xAA, 0xB8, 0xB6,
   0x0C, 0x02, 0x10, 0x1E, 0x34, 0x3A, 0x28, 0x26, 0x7C, 0x72, 0x60, 0x6E, 0x44, 0x4A, 0x58, 0x56,
   0x37, 0x39, 0x2B, 0x25, 0x0F, 0x01, 0x13, 0x1D, 0x47, 0x49, 0x5B, 0x55, 0x7F, 0x71, 0x63, 0x6D,
   0xD7, 0xD9, 0xCB, 0xC5, 0xEF, 0xE1, 0xF3, 0xFD, 0xA7, 0xA9, 0xBB, 0xB5, 0x9F, 0x91, 0x83, 0x8D]

/-- `GF_MUL_TABLE`, whose other rows are empty. -/
def GF_MUL_TABLE (k : Nat) : List UInt8 :=
  match k with
  | 2 => gfMul2
  | 3 => gfMul3
  | 9 => gfMul9
  | 11 => gfMul11
  | 13 => gfMul13
  | 14 => gfMul14
  | _ => []

/-- `CMDS`. -/
def CMDS : Vector (Vector Nat 4) 4 := #v[#v[2, 3, 1, 1], #v[1, 2, 3, 1], #v[1, 1, 2, 3], #v[3, 1, 1, 2]]

/-- `INV_CMDS`. -/
def INV_CMDS : Vector (Vector Nat 4) 4 :=
  #v[#v[14, 11, 13, 9], #v[9, 14, 11, 13], #v[13, 9, 14, 11], #v[11, 13, 9, 14]]

/-! ## The state and its steps -/

/-- `uint8_t state[4][AES_NB]`. -/
abbrev State := Vector (Vector UInt8 4) 4

/-- The state whose octet in row `i` and column `j` is `f i j`. -/
def State.of (f : Fin 4 → Fin 4 → UInt8) : State := Vector.ofFn fun i => Vector.ofFn fun j => f i j

/-- `SBOX[t / 16][t % 16]`. -/
def sub (t : UInt8) : UInt8 := (SBOX.getD (t / 16).toNat []).getD (t % 16).toNat 0

/-- `INV_SBOX[t / 16][t % 16]`. -/
def invSub (t : UInt8) : UInt8 := (INV_SBOX.getD (t / 16).toNat []).getD (t % 16).toNat 0

/-- `subBytes`. -/
def subBytes (state : State) : State := State.of fun i j => sub state[i][j]

/-- `invSubBytes`. -/
def invSubBytes (state : State) : State := State.of fun i j => invSub state[i][j]

/-- `shiftRow`. -/
def shiftRow (state : State) (i : Fin 4) (n : Nat) : State :=
  state.set i (Vector.ofFn fun j : Fin 4 => state[i].get ⟨(j.val + n) % AES_NB, Nat.mod_lt _ (by decide)⟩)

/-- `shiftRows`. -/
def shiftRows (state : State) : State := shiftRow (shiftRow (shiftRow state 1 1) 2 2) 3 3

/-- `invShiftRows`. -/
def invShiftRows (state : State) : State :=
  shiftRow (shiftRow (shiftRow state 1 (AES_NB - 1)) 2 (AES_NB - 2)) 3 (AES_NB - 3)

/-- The product of an entry of `CMDS` and an octet: by 1 it is the octet, otherwise it is looked up. -/
def mul (c : Nat) (x : UInt8) : UInt8 := if c = 1 then x else (GF_MUL_TABLE c).getD x.toNat 0

/-- `mixColumns`, its three loops. -/
def mixColumns (state : State) : State :=
  State.of fun i j => (List.finRange 4).foldl (fun t k => t ^^^ mul CMDS[i][k] state[k][j]) 0

/-- `invMixColumns`. -/
def invMixColumns (state : State) : State :=
  State.of fun i j =>
    (List.finRange 4).foldl (fun t k => t ^^^ (GF_MUL_TABLE INV_CMDS[i][k]).getD state[k][j].toNat 0) 0

/-- `addRoundKey`. -/
def addRoundKey (state : State) (key : List UInt8) : State :=
  State.of fun i j => state[i][j] ^^^ key.getD (i + 4 * j) 0

/-! ## The key schedule -/

/-- `xtime`. -/
def xtime (b : UInt8) : UInt8 := b <<< (1 : UInt8) ^^^ (b >>> (7 : UInt8) &&& 1) * 0x1B

/-- `rcon`, the octet it puts first; the others are 0. -/
def rcon (n : Nat) : UInt8 := (List.range (n - 1)).foldl (fun c _ => xtime c) 1

/-- `subWord`. -/
def subWord (a : Vector UInt8 4) : Vector UInt8 4 := a.map sub

/-- `rotWord`. -/
def rotWord (a : Vector UInt8 4) : Vector UInt8 4 := #v[a[1], a[2], a[3], a[0]]

/-- `xorWords`. -/
def xorWords (a b : Vector UInt8 4) : Vector UInt8 4 := Vector.ofFn fun i : Fin 4 => a[i] ^^^ b[i]

/-- A turn of the second loop of `keyExpansion`, at the octet `i`, on the octets before it. -/
def expandTurn (keyLength : AESKeyLength) (w : List UInt8) (i : Nat) : List UInt8 :=
  let temp := #v[w.getD (i - 4 + 0) 0, w.getD (i - 4 + 1) 0, w.getD (i - 4 + 2) 0, w.getD (i - 4 + 3) 0]
  let temp :=
    if i / 4 % keyLength.m_Nk = 0 then
      xorWords (subWord (rotWord temp)) #v[rcon (i / (keyLength.m_Nk * 4)), 0, 0, 0]
    else if keyLength.m_Nk > 6 ∧ i / 4 % keyLength.m_Nk = 4 then subWord temp
    else temp
  w ++ [w.getD (i - 4 * keyLength.m_Nk) 0 ^^^ temp[0], w.getD (i + 1 - 4 * keyLength.m_Nk) 0 ^^^ temp[1],
    w.getD (i + 2 - 4 * keyLength.m_Nk) 0 ^^^ temp[2], w.getD (i + 3 - 4 * keyLength.m_Nk) 0 ^^^ temp[3]]

/-- `keyExpansion`: the key, and after it one word after the other. -/
def keyExpansion (keyLength : AESKeyLength) (key : Bytes) : List UInt8 :=
  let w := (List.range (4 * keyLength.m_Nk)).map key
  (List.range (AES_NB * (keyLength.m_Nr + 1) - keyLength.m_Nk)).foldl
    (fun w n => expandTurn keyLength w (4 * keyLength.m_Nk + 4 * n)) w

/-! ## A block -/

/-- A block, `m_blockBytesLen` octets. -/
abbrev Block := Vector UInt8 16

/-- The block at the pointer `p + i`. -/
def blockAt (p : Bytes) (i : Nat) : Block := Vector.ofFn fun k : Fin 16 => p (i + k)

/-- The block put at the pointer `p + i`. -/
def putBlock (p : Bytes) (i : Nat) (b : Block) : Bytes := fun k =>
  if h : i ≤ k ∧ k < i + 16 then b[k - i] else p k

/-- The state filled from a block. -/
def load (inp : Block) : State := State.of fun i j => inp[i.val + 4 * j.val]

/-- The block of a state. -/
def store (state : State) : Block := Vector.ofFn fun k : Fin 16 => state[k.val % 4][k.val / 4]

/-- `encryptBlock`. -/
def encryptBlock (m_Nr : Nat) (roundKeys : List UInt8) (inp : Block) : Block :=
  let state := addRoundKey (load inp) roundKeys
  let state := (List.range (m_Nr - 1)).foldl
    (fun state r => addRoundKey (mixColumns (shiftRows (subBytes state))) (roundKeys.drop ((r + 1) * 4 * AES_NB)))
    state
  store (addRoundKey (shiftRows (subBytes state)) (roundKeys.drop (m_Nr * 4 * AES_NB)))

/-- `decryptBlock`; its loop counts `round` from `m_Nr - 1` down to 1. -/
def decryptBlock (m_Nr : Nat) (roundKeys : List UInt8) (inp : Block) : Block :=
  let state := addRoundKey (load inp) (roundKeys.drop (m_Nr * 4 * AES_NB))
  let state := (List.range (m_Nr - 1)).foldr
    (fun r state =>
      invMixColumns (addRoundKey (invShiftRows (invSubBytes state)) (roundKeys.drop ((r + 1) * 4 * AES_NB))))
    state
  store (addRoundKey (invShiftRows (invSubBytes state)) roundKeys)

/-- `xorBlocks`. -/
def xorBlocks (a b : Block) : Block := Vector.ofFn fun i : Fin 16 => a[i] ^^^ b[i]

/-! ## The modes -/

/-- The text of the `length_error` that all six throw. -/
def lengthError : String := "Plaintext length must be divisible by " ++ toString m_blockBytesLen

/-- The loop `for (i = 0; i < inLen; i += m_blockBytesLen)` of a mode over `n` blocks. A turn takes `block` and the block
    at `in + i` to the one it puts at `out + i` and the next `block`. -/
def modeLoop (turn : Block → Block → Block × Block) (inp : Bytes) (n : Nat) (block : Block) : Bytes × Block :=
  (List.range n).foldl
    (fun (out, block) i =>
      let (o, block) := turn block (blockAt inp (m_blockBytesLen * i))
      (putBlock out (m_blockBytesLen * i) o, block))
    (fun _ => 0, block)

/-- A mode: the length is checked, and the loop runs over the blocks. -/
def runMode (turn : Block → Block → Block × Block) (inp : Bytes) (inLen : Nat) (block : Block) : Except String Bytes :=
  if inLen % m_blockBytesLen ≠ 0 then .error lengthError
  else .ok (modeLoop turn inp (inLen / m_blockBytesLen) block).1

section Modes

variable (keyLength : AESKeyLength)

/-- A turn of `encryptECB`, which has no `block`. -/
def turnEncryptECB (roundKeys : List UInt8) (block inp : Block) : Block × Block :=
  (encryptBlock keyLength.m_Nr roundKeys inp, block)

/-- A turn of `decryptECB`. -/
def turnDecryptECB (roundKeys : List UInt8) (block inp : Block) : Block × Block :=
  (decryptBlock keyLength.m_Nr roundKeys inp, block)

/-- A turn of `encryptCBC`. -/
def turnEncryptCBC (roundKeys : List UInt8) (block inp : Block) : Block × Block :=
  let block := xorBlocks block inp
  let out := encryptBlock keyLength.m_Nr roundKeys block
  (out, out)

/-- A turn of `decryptCBC`. -/
def turnDecryptCBC (roundKeys : List UInt8) (block inp : Block) : Block × Block :=
  let out := decryptBlock keyLength.m_Nr roundKeys inp
  (xorBlocks block out, inp)

/-- A turn of `encryptCFB`. -/
def turnEncryptCFB (roundKeys : List UInt8) (block inp : Block) : Block × Block :=
  let encryptedBlock := encryptBlock keyLength.m_Nr roundKeys block
  let out := xorBlocks inp encryptedBlock
  (out, out)

/-- A turn of `decryptCFB`. -/
def turnDecryptCFB (roundKeys : List UInt8) (block inp : Block) : Block × Block :=
  let encryptedBlock := encryptBlock keyLength.m_Nr roundKeys block
  (xorBlocks inp encryptedBlock, inp)

/-- `encryptECB`. -/
def encryptECB (inp : Bytes) (inLen : Nat) (key : Bytes) : Except String Bytes :=
  runMode (turnEncryptECB keyLength (keyExpansion keyLength key)) inp inLen (Vector.replicate 16 0)

/-- `decryptECB`. -/
def decryptECB (inp : Bytes) (inLen : Nat) (key : Bytes) : Except String Bytes :=
  runMode (turnDecryptECB keyLength (keyExpansion keyLength key)) inp inLen (Vector.replicate 16 0)

/-- `encryptCBC`. -/
def encryptCBC (inp : Bytes) (inLen : Nat) (key iv : Bytes) : Except String Bytes :=
  runMode (turnEncryptCBC keyLength (keyExpansion keyLength key)) inp inLen (blockAt iv 0)

/-- `decryptCBC`. -/
def decryptCBC (inp : Bytes) (inLen : Nat) (key iv : Bytes) : Except String Bytes :=
  runMode (turnDecryptCBC keyLength (keyExpansion keyLength key)) inp inLen (blockAt iv 0)

/-- `encryptCFB`. -/
def encryptCFB (inp : Bytes) (inLen : Nat) (key iv : Bytes) : Except String Bytes :=
  runMode (turnEncryptCFB keyLength (keyExpansion keyLength key)) inp inLen (blockAt iv 0)

/-- `decryptCFB`. -/
def decryptCFB (inp : Bytes) (inLen : Nat) (key iv : Bytes) : Except String Bytes :=
  runMode (turnDecryptCFB keyLength (keyExpansion keyLength key)) inp inLen (blockAt iv 0)

end Modes

open Polynomial Lib Lib.Remainder Lib.Gf2Division

/-! ## Octets as polynomials -/

/-- The polynomial by which the octets are reduced. -/
noncomputable def modulus : (ZMod 2)[X] := ofNat 0x11B

/-- The ring of the octets. -/
abbrev Octets : Type := AdjoinRoot modulus

/-- The element of a number. -/
noncomputable def elem (n : Nat) : Octets := AdjoinRoot.mk modulus (ofNat n)

/-- The element `x`. -/
noncomputable def root : Octets := AdjoinRoot.root modulus

theorem elem_xor (m n : Nat) : elem (m ^^^ n) = elem m + elem n := by
  unfold elem
  rw [ofNat_xor, map_add]

theorem elem_two_mul (n : Nat) : elem (2 * n) = root * elem n := by
  unfold elem root
  rw [ofNat_two_mul, map_mul, AdjoinRoot.mk_X]

theorem elem_zero : elem 0 = 0 := by
  have h := elem_xor 0 0
  rw [Nat.xor_self] at h
  exact left_eq_add.mp h

theorem elem_one : elem 1 = 1 := by
  have h : ofNat 1 = 1 := by
    ext n
    rw [coeff_ofNat, coeff_one]
    rcases n with _ | n
    · rfl
    · rw [if_neg (Nat.succ_ne_zero n), Nat.testBit_succ]
      simp
  unfold elem
  rw [h, map_one]

/-- The elements of octets differ. -/
theorem elem_injective {a b : UInt8} (h : elem a.toNat = elem b.toNat) : a = b := by
  have hdvd : modulus ∣ ofNat a.toNat - ofNat b.toNat := AdjoinRoot.mk_eq_mk.mp h
  have hdeg : (ofNat a.toNat - ofNat b.toNat).degree < modulus.degree := by
    rw [modulus, degree_ofNat (d := 8) (by decide) (by decide)]
    exact (degree_sub_le _ _).trans_lt
      (max_lt (degree_ofNat_lt a.toNat_lt) (degree_ofNat_lt b.toNat_lt))
  have heq : ofNat a.toNat = ofNat b.toNat := sub_eq_zero.mp (eq_zero_of_dvd_of_degree_lt hdvd hdeg)
  refine UInt8.toNat_inj.mp (Nat.eq_of_testBit_eq fun i => bit_injective ?_)
  rw [← coeff_ofNat, ← coeff_ofNat, heq]

theorem elem_modulus : elem 0x11B = 0 := AdjoinRoot.mk_self

/-! ## The tables -/

/-- An octet times `x`, reduced. -/
def double (n : Nat) : Nat := if n < 128 then 2 * n else 2 * n ^^^ 0x11B

/-- The product of an octet with a number of at most `n` bits, the highest bit first. -/
def times : Nat → Nat → Nat → Nat
  | 0, _, _ => 0
  | n + 1, c, x => double (times n (c / 2) x) ^^^ if c % 2 = 1 then x else 0

theorem elem_double (n : Nat) : elem (double n) = root * elem n := by
  unfold double
  split
  · exact elem_two_mul n
  · rw [elem_xor, elem_two_mul, elem_modulus, add_zero]

theorem elem_times {n c : Nat} (hc : c < 2 ^ n) (x : Nat) : elem (times n c x) = elem c * elem x := by
  induction n generalizing c with
  | zero =>
      have h0 : c = 0 := by omega
      rw [h0, elem_zero, zero_mul, times, elem_zero]
  | succ n ih =>
      have hpow : 2 ^ (n + 1) = 2 * 2 ^ n := by rw [Nat.pow_succ, Nat.mul_comm]
      have hbit : elem (if c % 2 = 1 then x else 0) = elem (c % 2) * elem x := by
        rcases Nat.mod_two_eq_zero_or_one c with h | h
        · rw [h, if_neg (by decide), elem_zero, zero_mul]
        · rw [h, if_pos rfl, elem_one, one_mul]
      have hsplit : elem c = root * elem (c / 2) + elem (c % 2) := by
        rw [← elem_two_mul, ← elem_xor, two_mul_half_xor]
      rw [times, elem_xor, elem_double, ih (by omega), hbit, hsplit]
      ring

set_option maxRecDepth 4000 in
/-- A row holds the products with its number. -/
theorem row_eq : ∀ c ∈ [2, 3, 9, 11, 13, 14],
    (GF_MUL_TABLE c).map UInt8.toNat = (List.range 256).map (times 4 c) := by
  decide

/-- **The rows of the table multiply.** -/
theorem elem_table {c : Nat} (hc : c ∈ [2, 3, 9, 11, 13, 14]) (x : UInt8) :
    elem ((GF_MUL_TABLE c).getD x.toNat 0).toNat = elem c * elem x.toNat := by
  have hentry : ((GF_MUL_TABLE c).getD x.toNat 0).toNat = times 4 c x.toNat := by
    calc ((GF_MUL_TABLE c).getD x.toNat 0).toNat
        = ((GF_MUL_TABLE c).map UInt8.toNat).getD x.toNat 0 := (List.getD_map _ _ UInt8.toNat).symm
      _ = ((List.range 256).map (times 4 c)).getD x.toNat 0 := by rw [row_eq c hc]
      _ = times 4 c x.toNat := by simp [List.getD_eq_getElem?_getD, List.getElem?_range x.toNat_lt]
  have hc16 : ∀ c ∈ [2, 3, 9, 11, 13, 14], c < 2 ^ 4 := by decide
  rw [hentry, elem_times (hc16 c hc)]

theorem elem_mul {c : Nat} (hc : c ∈ [1, 2, 3]) (x : UInt8) : elem (mul c x).toNat = elem c * elem x.toNat := by
  unfold mul
  split
  · next h => rw [h, elem_one, one_mul]
  · next h =>
      have hmem : c ∈ [2, 3, 9, 11, 13, 14] := by
        rcases List.mem_cons.mp hc with rfl | hc
        · exact absurd rfl h
        · exact List.mem_of_mem_take (i := 2) hc
      exact elem_table hmem x

set_option maxRecDepth 2000 in
theorem invSub_sub (x : UInt8) : invSub (sub x) = x := by
  have h : ∀ n < 256, invSub (sub (UInt8.ofNat n)) = UInt8.ofNat n := by decide
  have hx := h x.toNat x.toNat_lt
  rwa [UInt8.ofNat_toNat] at hx

/-! ## The steps of a round -/

@[simp] theorem getElem_of (f : Fin 4 → Fin 4 → UInt8) (i j : Fin 4) : (State.of f)[i][j] = f i j := by
  simp [State.of]

theorem state_ext {s t : State} (h : ∀ i j : Fin 4, s[i][j] = t[i][j]) : s = t := by
  refine Vector.ext fun i hi => Vector.ext fun j hj => ?_
  exact h ⟨i, hi⟩ ⟨j, hj⟩

/-- The matrix of a state. -/
noncomputable def toMatrix (state : State) : Matrix (Fin 4) (Fin 4) Octets :=
  Matrix.of fun i j => elem state[i][j].toNat

/-- The matrix of a table of coefficients. -/
noncomputable def coefficients (v : Vector (Vector Nat 4) 4) : Matrix (Fin 4) (Fin 4) Octets :=
  Matrix.of fun i k => elem v[i][k]

theorem toMatrix_injective {s t : State} (h : toMatrix s = toMatrix t) : s = t :=
  state_ext fun i j => elem_injective (congrFun (congrFun h i) j)

theorem elem_foldl {ι : Type} (f : ι → UInt8) (l : List ι) (a : UInt8) :
    elem (l.foldl (fun t k => t ^^^ f k) a).toNat = elem a.toNat + (l.map fun k => elem (f k).toNat).sum := by
  induction l generalizing a with
  | nil => rw [List.foldl_nil, List.map_nil, List.sum_nil, add_zero]
  | cons k l ih => rw [List.foldl_cons, ih, UInt8.toNat_xor, elem_xor, List.map_cons, List.sum_cons, add_assoc]

/-- A loop over the columns of a table is a product of matrices. -/
theorem toMatrix_mix {v : Vector (Vector Nat 4) 4} (prod : Nat → UInt8 → UInt8) (state : State)
    (hprod : ∀ (i k : Fin 4) (x : UInt8), elem (prod v[i][k] x).toNat = elem v[i][k] * elem x.toNat) :
    toMatrix (State.of fun i j => (List.finRange 4).foldl (fun t k => t ^^^ prod v[i][k] state[k][j]) 0) =
      coefficients v * toMatrix state := by
  ext i j
  rw [Matrix.mul_apply, Fin.sum_univ_def, toMatrix, Matrix.of_apply, getElem_of, elem_foldl]
  rw [show (0 : UInt8).toNat = 0 from rfl, elem_zero, zero_add]
  exact congrArg List.sum (List.map_congr_left fun k _ => hprod i k state[k][j])

theorem toMatrix_mixColumns (state : State) : toMatrix (mixColumns state) = coefficients CMDS * toMatrix state := by
  have hmem : ∀ i k : Fin 4, CMDS[i][k] ∈ [1, 2, 3] := by decide
  exact toMatrix_mix mul state fun i k x => elem_mul (hmem i k) x

theorem toMatrix_invMixColumns (state : State) :
    toMatrix (invMixColumns state) = coefficients INV_CMDS * toMatrix state := by
  have hmem : ∀ i k : Fin 4, INV_CMDS[i][k] ∈ [2, 3, 9, 11, 13, 14] := by decide
  exact toMatrix_mix (fun c x => (GF_MUL_TABLE c).getD x.toNat 0) state fun i k x => elem_table (hmem i k) x

/-- **The two matrices are inverse.** Their product is that of polynomials, without a reduction. -/
theorem inv_mul_cmds : coefficients INV_CMDS * coefficients CMDS = 1 := by
  have hlt : ∀ i k : Fin 4, INV_CMDS[i][k] < 2 ^ 4 := by decide
  have hentry : ∀ i j : Fin 4, times 4 INV_CMDS[i][(0 : Fin 4)] CMDS[(0 : Fin 4)][j] ^^^
      times 4 INV_CMDS[i][(1 : Fin 4)] CMDS[(1 : Fin 4)][j] ^^^
      times 4 INV_CMDS[i][(2 : Fin 4)] CMDS[(2 : Fin 4)][j] ^^^
      times 4 INV_CMDS[i][(3 : Fin 4)] CMDS[(3 : Fin 4)][j] = if i = j then 1 else 0 := by decide
  ext i j
  rw [Matrix.mul_apply, Fin.sum_univ_four]
  simp only [coefficients, Matrix.of_apply]
  rw [← elem_times (hlt i 0), ← elem_times (hlt i 1), ← elem_times (hlt i 2), ← elem_times (hlt i 3), ← elem_xor,
    ← elem_xor, ← elem_xor, hentry, Matrix.one_apply]
  split
  · exact elem_one
  · exact elem_zero

theorem invMixColumns_mixColumns (state : State) : invMixColumns (mixColumns state) = state := by
  refine toMatrix_injective ?_
  rw [toMatrix_invMixColumns, toMatrix_mixColumns, ← Matrix.mul_assoc, inv_mul_cmds, Matrix.one_mul]

theorem addRoundKey_addRoundKey (state : State) (key : List UInt8) :
    addRoundKey (addRoundKey state key) key = state := by
  refine state_ext fun i j => ?_
  rw [addRoundKey, addRoundKey, getElem_of, getElem_of, UInt8.xor_assoc, UInt8.xor_self, UInt8.xor_zero]

theorem getElem_shiftRow (state : State) (i r j : Fin 4) (n : Nat) :
    (shiftRow state i n)[r][j] = state[r][if i = r then j + Fin.ofNat 4 n else j] := by
  unfold shiftRow
  by_cases h : i = r
  · subst h
    have hcol : (j.val + n) % AES_NB = (j + Fin.ofNat 4 n).val := by
      rw [Fin.val_add, Fin.val_ofNat, Nat.add_mod_mod]
      rfl
    simp only [if_true, Fin.getElem_fin, Vector.getElem_set_self, Vector.getElem_ofFn]
    simp only [hcol]
    rfl
  · have hne : i.val ≠ r.val := fun he => h (Fin.ext he)
    simp only [if_neg h, Fin.getElem_fin, Vector.getElem_set_ne _ _ hne]

/-- The column that the two shifts of a row bring back. -/
theorem shifted_back : ∀ r j : Fin 4,
    (let c k n (j : Fin 4) := if k = r then j + Fin.ofNat 4 n else j
     c 1 1 (c 2 2 (c 3 3 (c 1 (AES_NB - 1) (c 2 (AES_NB - 2) (c 3 (AES_NB - 3) j)))))) = j := by
  decide

theorem invShiftRows_shiftRows (state : State) : invShiftRows (shiftRows state) = state := by
  refine state_ext fun r j => ?_
  unfold invShiftRows shiftRows
  simp only [getElem_shiftRow]
  exact congrArg (fun k : Fin 4 => state[r][k]) (shifted_back r j)

theorem invSubBytes_shiftRows (state : State) : invSubBytes (shiftRows state) = shiftRows (invSubBytes state) := by
  refine state_ext fun r j => ?_
  unfold invSubBytes shiftRows
  simp only [getElem_shiftRow, getElem_of]

theorem invSubBytes_subBytes (state : State) : invSubBytes (subBytes state) = state := by
  refine state_ext fun r j => ?_
  rw [invSubBytes, getElem_of, subBytes, getElem_of, invSub_sub]

/-- The half of a round that needs no key is undone. -/
theorem unshift_unsub (state : State) : invShiftRows (invSubBytes (shiftRows (subBytes state))) = state := by
  rw [invSubBytes_shiftRows, invSubBytes_subBytes, invShiftRows_shiftRows]

/-! ## A block -/

theorem load_store (state : State) : load (store state) = state := by
  refine state_ext fun i j => ?_
  have hrow : (i.val + 4 * j.val) % 4 = i.val := by omega
  have hcol : (i.val + 4 * j.val) / 4 = j.val := by omega
  rw [load, getElem_of, store, Vector.getElem_ofFn]
  simp only [hrow, hcol]
  rfl

theorem store_load (b : Block) : store (load b) = b := by
  refine Vector.ext fun k hk => ?_
  have hsum : k % 4 + 4 * (k / 4) = k := Nat.mod_add_div k 4
  have hentry : (load b)[k % 4][k / 4] = b[k % 4 + 4 * (k / 4)] :=
    getElem_of _ ⟨k % 4, Nat.mod_lt _ (by decide)⟩ ⟨k / 4, by omega⟩
  rw [store, Vector.getElem_ofFn]
  refine hentry.trans ?_
  simp only [hsum]

/-- Turns that undo each other behind `h`, one after the other. -/
theorem foldr_foldl {α ι : Type} {f g : ι → α → α} {h : α → α} (hstep : ∀ r s, g r (h (f r s)) = h s) (l : List ι) (s : α) :
    l.foldr g (h (l.foldl (fun s r => f r s) s)) = h s := by
  induction l generalizing s with
  | nil => rfl
  | cons r l ih => rw [List.foldl_cons, List.foldr_cons, ih, hstep]

/-- **A block is decrypted to what was encrypted**, whatever the round keys are. -/
theorem decryptBlock_encryptBlock (m_Nr : Nat) (roundKeys : List UInt8) (inp : Block) :
    decryptBlock m_Nr roundKeys (encryptBlock m_Nr roundKeys inp) = inp := by
  have hrounds := foldr_foldl (h := fun state => shiftRows (subBytes state))
    (f := fun r state => addRoundKey (mixColumns (shiftRows (subBytes state))) (roundKeys.drop ((r + 1) * 4 * AES_NB)))
    (g := fun r state =>
      invMixColumns (addRoundKey (invShiftRows (invSubBytes state)) (roundKeys.drop ((r + 1) * 4 * AES_NB))))
    (fun r state => by rw [unshift_unsub, addRoundKey_addRoundKey, invMixColumns_mixColumns])
    (List.range (m_Nr - 1)) (addRoundKey (load inp) roundKeys)
  unfold decryptBlock encryptBlock
  dsimp only at hrounds ⊢
  rw [load_store, addRoundKey_addRoundKey, hrounds, unshift_unsub, addRoundKey_addRoundKey, store_load]

/-! ## The modes -/

theorem xorBlocks_cancel (a b : Block) : xorBlocks a (xorBlocks a b) = b := by
  refine Vector.ext fun k hk => ?_
  simp [xorBlocks]

theorem xorBlocks_cancel_right (a b : Block) : xorBlocks (xorBlocks a b) b = a := by
  refine Vector.ext fun k hk => ?_
  simp [xorBlocks]

section Modes

variable (keyLength : AESKeyLength) (roundKeys : List UInt8)

theorem undoes_ECB : Mealy.Undoes (turnDecryptECB keyLength roundKeys) (turnEncryptECB keyLength roundKeys) :=
  fun block inp => congrArg (fun b => (b, block)) (decryptBlock_encryptBlock _ _ inp)

theorem undoes_CBC : Mealy.Undoes (turnDecryptCBC keyLength roundKeys) (turnEncryptCBC keyLength roundKeys) := by
  intro block inp
  simp only [turnDecryptCBC, turnEncryptCBC, decryptBlock_encryptBlock, xorBlocks_cancel]

theorem undoes_CFB : Mealy.Undoes (turnDecryptCFB keyLength roundKeys) (turnEncryptCFB keyLength roundKeys) := by
  intro block inp
  simp only [turnDecryptCFB, turnEncryptCFB, xorBlocks_cancel_right]

end Modes

theorem blockAt_putBlock (p : Bytes) (i : Nat) (b : Block) : blockAt (putBlock p i b) i = b := by
  refine Vector.ext fun k hk => ?_
  rw [blockAt, Vector.getElem_ofFn, putBlock, dif_pos ⟨by omega, by omega⟩]
  simp only [Nat.add_sub_cancel_left]

theorem blockAt_putBlock_of_ne (p : Bytes) {i j : Nat} (b : Block) (h : i ≠ j) :
    blockAt (putBlock p (16 * i) b) (16 * j) = blockAt p (16 * j) := by
  refine Vector.ext fun k hk => ?_
  rw [blockAt, blockAt, Vector.getElem_ofFn, Vector.getElem_ofFn, putBlock, dif_neg (by omega)]

/-- **The loop of a mode is the machine of its turns** on the blocks of the input. -/
theorem modeLoop_eq (turn : Block → Block → Block × Block) (inp : Bytes) (n : Nat) (block : Block) :
    (modeLoop turn inp n block).2 = Mealy.stateAt turn block (fun i => blockAt inp (16 * i)) n ∧
      ∀ i < n, blockAt (modeLoop turn inp n block).1 (16 * i) =
        Mealy.answerAt turn block (fun i => blockAt inp (16 * i)) i := by
  induction n with
  | zero => exact ⟨rfl, fun i hi => absurd hi (Nat.not_lt_zero i)⟩
  | succ n ih =>
      obtain ⟨hstate, hout⟩ := ih
      have hstep : modeLoop turn inp (n + 1) block =
          (putBlock (modeLoop turn inp n block).1 (16 * n)
            (turn (modeLoop turn inp n block).2 (blockAt inp (16 * n))).1,
            (turn (modeLoop turn inp n block).2 (blockAt inp (16 * n))).2) := by
        unfold modeLoop
        rw [List.range_succ, List.foldl_concat]
        rfl
      rw [hstep, hstate]
      refine ⟨rfl, fun i hi => ?_⟩
      by_cases hin : i = n
      · rw [hin, blockAt_putBlock]
        rfl
      · rw [blockAt_putBlock_of_ne _ _ (Ne.symm hin), hout i (by omega)]

theorem eq_of_blockAt {p q : Bytes} {n : Nat} (h : ∀ i < n, blockAt p (16 * i) = blockAt q (16 * i)) {k : Nat}
    (hk : k < 16 * n) : p k = q k := by
  have hblock := h (k / 16) (by omega)
  have hoctet := congrArg (fun b : Block => b[(⟨k % 16, Nat.mod_lt _ (by decide)⟩ : Fin 16)]) hblock
  simp only [blockAt, Fin.getElem_fin, Vector.getElem_ofFn] at hoctet
  rwa [Nat.div_add_mod] at hoctet

/-- Two modes refuse the lengths that are no whole blocks, and otherwise `dec` gives back what `enc` was given. -/
def Recovers (enc dec : Bytes → Nat → Except String Bytes) : Prop :=
  ∀ inp inLen,
    (inLen % m_blockBytesLen ≠ 0 → enc inp inLen = .error lengthError ∧ dec inp inLen = .error lengthError) ∧
    (inLen % m_blockBytesLen = 0 → ∃ out out', enc inp inLen = .ok out ∧ dec out inLen = .ok out' ∧
      ∀ k < inLen, out' k = inp k)

theorem recovers_of_undoes {back turn : Block → Block → Block × Block} (h : Mealy.Undoes back turn) (block : Block) :
    Recovers (fun inp inLen => runMode turn inp inLen block) (fun inp inLen => runMode back inp inLen block) := by
  intro inp inLen
  unfold runMode
  refine ⟨fun hlen => ⟨if_pos hlen, if_pos hlen⟩, fun hzero => ?_⟩
  refine ⟨_, _, if_neg (not_not.mpr hzero), if_neg (not_not.mpr hzero), fun k hk => ?_⟩
  have hwhole : inLen = 16 * (inLen / 16) := by
    have h16 : inLen % 16 = 0 := hzero
    omega
  refine eq_of_blockAt (n := inLen / 16) (fun i hi => ?_) (hwhole ▸ hk)
  have hin : ∀ j < inLen / 16, blockAt (modeLoop turn inp (inLen / 16) block).1 (16 * j) =
      Mealy.answerAt turn block (fun i => blockAt inp (16 * i)) j := (modeLoop_eq turn inp _ block).2
  refine ((modeLoop_eq back _ _ block).2 i hi).trans ?_
  change Mealy.answerAt back block (fun j => blockAt (modeLoop turn inp (inLen / 16) block).1 (16 * j)) i = _
  rw [Mealy.answerAt_congr back block (y := Mealy.answerAt turn block fun i => blockAt inp (16 * i))
    fun j hj => hin j (Nat.lt_of_le_of_lt hj hi)]
  exact Mealy.answerAt_undo h block _ i

/-- **Every mode is undone** by its counterpart under the same key and initialisation vector. -/
theorem decrypt_encrypt (keyLength : AESKeyLength) (key iv : Bytes) :
    Recovers (fun inp inLen => encryptECB keyLength inp inLen key) (fun inp inLen => decryptECB keyLength inp inLen key) ∧
    Recovers (fun inp inLen => encryptCBC keyLength inp inLen key iv)
      (fun inp inLen => decryptCBC keyLength inp inLen key iv) ∧
    Recovers (fun inp inLen => encryptCFB keyLength inp inLen key iv)
      (fun inp inLen => decryptCFB keyLength inp inLen key iv) :=
  ⟨recovers_of_undoes (undoes_ECB keyLength _) _, recovers_of_undoes (undoes_CBC keyLength _) _,
    recovers_of_undoes (undoes_CFB keyLength _) _⟩

/-! ## Damaged messages -/

/-- What a mode makes of two messages is the same in every block behind two blocks in which they agree. -/
def Heals (dec : Bytes → Nat → Bytes → Except String Bytes) : Prop :=
  ∀ inp inp' inLen iv iv' out out', dec inp inLen iv = .ok out → dec inp' inLen iv' = .ok out' →
    ∀ i, 16 * (i + 2) ≤ inLen → (∀ k, 16 * i ≤ k → k < 16 * (i + 2) → inp k = inp' k) →
      ∀ k, 16 * (i + 1) ≤ k → k < 16 * (i + 2) → out k = out' k

theorem runMode_block {turn : Block → Block → Block × Block} {inp out : Bytes} {inLen : Nat} {block : Block}
    (h : runMode turn inp inLen block = .ok out) {i : Nat} (hi : 16 * (i + 1) ≤ inLen) :
    blockAt out (16 * i) = Mealy.answerAt turn block (fun i => blockAt inp (16 * i)) i := by
  unfold runMode at h
  split at h
  · cases h
  · injection h with h
    subst h
    have hlt : i < inLen / 16 := by omega
    exact (modeLoop_eq turn inp (inLen / 16) block).2 i hlt

theorem blockAt_congr {p q : Bytes} {n : Nat} (h : ∀ k, n ≤ k → k < n + 16 → p k = q k) : blockAt p n = blockAt q n := by
  refine Vector.ext fun k hk => ?_
  rw [blockAt, blockAt, Vector.getElem_ofFn, Vector.getElem_ofFn]
  exact h (n + k) (by omega) (by omega)

theorem heals_of_forgets {turn : Block → Block → Block × Block} (h : ∀ block inp, (turn block inp).2 = inp) :
    Heals fun inp inLen iv => runMode turn inp inLen (blockAt iv 0) := by
  intro inp inp' inLen iv iv' out out' hout hout' i hi hsame k hlo hhi
  have hblock : blockAt out (16 * (i + 1)) = blockAt out' (16 * (i + 1)) := by
    rw [runMode_block hout hi, runMode_block hout' hi, Mealy.answerAt_of_forgets h, Mealy.answerAt_of_forgets h,
      blockAt_congr fun k hk hk' => hsame k hk (by omega), blockAt_congr fun k hk hk' => hsame k (by omega) (by omega)]
  have hoctet := congrArg (fun b : Block => b[(⟨k - 16 * (i + 1), by omega⟩ : Fin 16)]) hblock
  simp only [blockAt, Fin.getElem_fin, Vector.getElem_ofFn] at hoctet
  rwa [Nat.add_sub_cancel' hlo] at hoctet

/-- **The two chained modes heal**: what is decrypted behind two intact blocks does not depend on anything before them,
    the initialisation vector included. -/
theorem decrypt_heals (keyLength : AESKeyLength) (key : Bytes) :
    Heals (fun inp inLen iv => decryptCBC keyLength inp inLen key iv) ∧
    Heals (fun inp inLen iv => decryptCFB keyLength inp inLen key iv) :=
  ⟨heals_of_forgets fun _ _ => rfl, heals_of_forgets fun _ _ => rfl⟩

end AES

end DvmHost

import DvmHost.Common.P25.P25Utils

/-!
# `Common.P25.Data.LowSpeedData` — low speed data in an LDU

`src/common/p25/data/LowSpeedData.{h,cpp}`. Two octets, each with a parity octet, travel behind the eighth voice frame
of an LDU. What is received is replaced by the first codeword that has fewer than `MAX_CCS_ERRS` other bits, in the
order of the octets.
-/

namespace DvmHost

namespace P25

/-- `class LowSpeedData`. -/
structure LowSpeedData where
  lsd1 : UInt8 := 0x00
  lsd2 : UInt8 := 0x00

namespace LowSpeedData

/-- `CCS_PARITY`. -/
def CCS_PARITY : List UInt8 := [
    0x00, 0x39, 0x72, 0x4B, 0xE4, 0xDD, 0x96, 0xAF, 0xF1, 0xC8, 0x83, 0xBA, 0x15, 0x2C, 0x67, 0x5E,
    0xDB, 0xE2, 0xA9, 0x90, 0x3F, 0x06, 0x4D, 0x74, 0x2A, 0x13, 0x58, 0x61, 0xCE, 0xF7, 0xBC, 0x85,
    0x8F, 0xB6, 0xFD, 0xC4, 0x6B, 0x52, 0x19, 0x20, 0x7E, 0x47, 0x0C, 0x35, 0x9A, 0xA3, 0xE8, 0xD1,
    0x54, 0x6D, 0x26, 0x1F, 0xB0, 0x89, 0xC2, 0xFB, 0xA5, 0x9C, 0xD7, 0xEE, 0x41, 0x78, 0x33, 0x0A,
    0x27, 0x1E, 0x55, 0x6C, 0xC3, 0xFA, 0xB1, 0x88, 0xD6, 0xEF, 0xA4, 0x9D, 0x32, 0x0B, 0x40, 0x79,
    0xFC, 0xC5, 0x8E, 0xB7, 0x18, 0x21, 0x6A, 0x53, 0x0D, 0x34, 0x7F, 0x46, 0xE9, 0xD0, 0x9B, 0xA2,
    0xA8, 0x91, 0xDA, 0xE3, 0x4C, 0x75, 0x3E, 0x07, 0x59, 0x60, 0x2B, 0x12, 0xBD, 0x84, 0xCF, 0xF6,
    0x73, 0x4A, 0x01, 0x38, 0x97, 0xAE, 0xE5, 0xDC, 0x82, 0xBB, 0xF0, 0xC9, 0x66, 0x5F, 0x14, 0x2D,
    0x4E, 0x77, 0x3C, 0x05, 0xAA, 0x93, 0xD8, 0xE1, 0xBF, 0x86, 0xCD, 0xF4, 0x5B, 0x62, 0x29, 0x10,
    0x95, 0xAC, 0xE7, 0xDE, 0x71, 0x48, 0x03, 0x3A, 0x64, 0x5D, 0x16, 0x2F, 0x80, 0xB9, 0xF2, 0xCB,
    0xC1, 0xF8, 0xB3, 0x8A, 0x25, 0x1C, 0x57, 0x6E, 0x30, 0x09, 0x42, 0x7B, 0xD4, 0xED, 0xA6, 0x9F,
    0x1A, 0x23, 0x68, 0x51, 0xFE, 0xC7, 0x8C, 0xB5, 0xEB, 0xD2, 0x99, 0xA0, 0x0F, 0x36, 0x7D, 0x44,
    0x69, 0x50, 0x1B, 0x22, 0x8D, 0xB4, 0xFF, 0xC6, 0x98, 0xA1, 0xEA, 0xD3, 0x7C, 0x45, 0x0E, 0x37,
    0xB2, 0x8B, 0xC0, 0xF9, 0x56, 0x6F, 0x24, 0x1D, 0x43, 0x7A, 0x31, 0x08, 0xA7, 0x9E, 0xD5, 0xEC,
    0xE6, 0xDF, 0x94, 0xAD, 0x02, 0x3B, 0x70, 0x49, 0x17, 0x2E, 0x65, 0x5C, 0xF3, 0xCA, 0x81, 0xB8,
    0x3D, 0x04, 0x4F, 0x76, 0xD9, 0xE0, 0xAB, 0x92, 0xCC, 0xF5, 0xBE, 0x87, 0x28, 0x11, 0x5A, 0x63]

/-- `MAX_CCS_ERRS`. -/
def MAX_CCS_ERRS : Nat := 4

/-- `encode` of an octet. -/
def encodeByte (inp : UInt8) : UInt8 := CCS_PARITY.getD inp.toNat 0

/-- The array `ccs` of an octet. -/
def ccs (a : UInt8) : Bytes := setByte (setByte (fun _ => 0) 0 a) 1 (encodeByte a)

/-- One of the two loops of `process`, on the octets at `off`. -/
def correct (lsd : Bytes) (off : Nat) : Bytes :=
  match (List.range 0x100).find? fun a =>
      P25Utils.compare (ccs (UInt8.ofNat a)) (fromByte off lsd) 2 < MAX_CCS_ERRS with
  | some a => setByte (setByte lsd (off + 0) (ccs (UInt8.ofNat a) 0)) (off + 1) (ccs (UInt8.ofNat a) 1)
  | none => lsd

/-- `process`: the members, and the data. -/
def process (data : Bytes) : LowSpeedData × Bytes :=
  let lsd := (P25Utils.decode data (fun _ => 0) 1546 1578).2
  let lsd := correct lsd 0
  let lsd := correct lsd 2
  (⟨lsd 0, lsd 2⟩, (P25Utils.encode lsd data 1546 1578).2)

/-- `encode`: the data. -/
def encode (s : LowSpeedData) (data : Bytes) : Bytes :=
  let lsd := setByte (fun _ => 0) 0 s.lsd1
  let lsd := setByte lsd 1 (encodeByte s.lsd1)
  let lsd := setByte lsd 2 s.lsd2
  let lsd := setByte lsd 3 (encodeByte s.lsd2)
  (P25Utils.encode lsd data 1546 1578).2

end LowSpeedData

end P25

end DvmHost

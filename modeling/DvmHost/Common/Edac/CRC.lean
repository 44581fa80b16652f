import DvmHost.Common.Utils
import DvmHost.Lib.Lfsr

/-!
# `Common.Edac.CRC` — checksums

`src/common/edac/CRC.cpp`. `CRC::createCRC16` of the network frames is the register of `Lib.Lfsr` with polynomial
`0x1021`, started at `0xFFFF` and fed the bits of the buffer in order; the 5-bit checksum is a sum of octets; the 9-bit
one of data blocks is a sum of table entries, one for a bit; the CCITT-162 of data headers takes an octet at a time
through a table, and so do the CCITT-161 and the 32-bit one of packets. The CRCs of 6, 12 and 15 bits are registers
too, and are written and read behind the data bit by bit.
-/

namespace DvmHost

open Lib

namespace CRC

/-- One turn of the loop of `createCRC16`. -/
def crcBit (crc : UInt16) (bit1 : Bool) : UInt16 :=
  let bit2 : Bool := crc &&& 0x8000 = 0x8000
  let crc := crc <<< (1 : UInt16)
  if bit1 ^^ bit2 then crc ^^^ 0x1021 else crc

/-- `createCRC16`. -/
def createCRC16 (inp : Bytes) (bitLength : Nat) : UInt16 :=
  (List.range bitLength).foldl (fun crc i => crcBit crc (readBit inp i)) 0xFFFF &&& 0xFFFF

/-- `encodeFiveBit`: the nine octets of the bit array, summed modulo 31. -/
def encodeFiveBit (inp : Bits) : UInt32 :=
  let total : UInt16 :=
    (List.range 9).foldl (fun total i => total + (bitsToByteBE inp (8 * i)).toUInt16) 0
  (total % 31).toUInt32

/-- `checkFiveBit`. -/
def checkFiveBit (inp : Bits) (tcrc : UInt32) : Bool := encodeFiveBit inp = tcrc

theorem encodeFiveBit_lt (inp : Bits) : (encodeFiveBit inp).toNat < 32 := by
  unfold encodeFiveBit
  dsimp only
  rw [UInt16.toNat_toUInt32, UInt16.toNat_mod]
  exact Nat.lt_of_lt_of_le (Nat.mod_lt _ (by decide)) (by decide)

theorem encodeFiveBit_congr {a b : Bits} (h : ∀ k < 72, a k = b k) : encodeFiveBit a = encodeFiveBit b := by
  have hbyte : ∀ i < 9, bitsToByteBE a (8 * i) = bitsToByteBE b (8 * i) := by
    intro i hi
    apply bitsToByteBE_eq
    intro j hj
    rw [bitOf_bitsToByteBE b _ hj]
    exact h _ (by omega)
  unfold encodeFiveBit
  rw [List.foldl_ext _ _ _ fun total i hi => by rw [hbyte i (List.mem_range.mp hi)]]

/-- `CRC9_TABLE`. -/
def CRC9_TABLE : List UInt16 :=
  [0x1E7, 0x1F3, 0x1F9, 0x1FC, 0x0D2, 0x045, 0x122, 0x0BD, 0x15E, 0x083, 0x141, 0x1A0, 0x0FC,
   0x052, 0x005, 0x102, 0x0AD, 0x156, 0x087, 0x143, 0x1A1, 0x1D0, 0x0C4, 0x04E, 0x00B, 0x105,
   0x182, 0x0ED, 0x176, 0x097, 0x14B, 0x1A5, 0x1D2, 0x0C5, 0x162, 0x09D, 0x14E, 0x08B, 0x145,
   0x1A2, 0x0FD, 0x17E, 0x093, 0x149, 0x1A4, 0x0FE, 0x053, 0x129, 0x194, 0x0E6, 0x05F, 0x12F,
   0x197, 0x1CB, 0x1E5, 0x1F2, 0x0D5, 0x16A, 0x099, 0x14C, 0x08A, 0x069, 0x134, 0x0B6, 0x077,
   0x13B, 0x19D, 0x1CE, 0x0CB, 0x165, 0x1B2, 0x0F5, 0x17A, 0x091, 0x148, 0x088, 0x068, 0x018,
   0x020, 0x03C, 0x032, 0x035, 0x11A, 0x0A1, 0x150, 0x084, 0x06E, 0x01B, 0x10D, 0x186, 0x0EF,
   0x177, 0x1BB, 0x1DD, 0x1EE, 0x0DB, 0x16D, 0x1B6, 0x0F7, 0x17B, 0x1BD, 0x1DE, 0x0C3, 0x161,
   0x1B0, 0x0F4, 0x056, 0x007, 0x103, 0x181, 0x1C0, 0x0CC, 0x04A, 0x009, 0x104, 0x0AE, 0x07B,
   0x13D, 0x19E, 0x0E3, 0x171, 0x1B8, 0x0F0, 0x054, 0x006, 0x02F, 0x117, 0x18B, 0x1C5, 0x1E2,
   0x0DD, 0x16E, 0x09B, 0x14D, 0x1A6]

/-- What a set bit `i` adds to `crc` in `crc9`: the bits 7 to 15, where the checksum goes, add nothing. -/
def crc9Bit (i : Nat) : UInt16 :=
  if i < 7 then CRC9_TABLE.getD i 0 else if i > 15 then CRC9_TABLE.getD (i - 9) 0 else 0

/-- `crc9`. -/
def crc9 (inp : Bytes) (bitLength : Nat) : UInt16 :=
  (List.range bitLength).foldl (fun crc i => if readBit inp i then crc ^^^ crc9Bit i else crc) 0 &&& 0x1FF

/-- `CCITT16_TABLE2`. -/
def CCITT16_TABLE2 : List UInt16 :=
  [0x0000, 0x1021, 0x2042, 0x3063, 0x4084, 0x50A5, 0x60C6, 0x70E7, 0x8108, 0x9129, 0xA14A, 0xB16B,
   0xC18C, 0xD1AD, 0xE1CE, 0xF1EF, 0x1231, 0x0210, 0x3273, 0x2252, 0x52B5, 0x4294, 0x72F7, 0x62D6,
   0x9339, 0x8318, 0xB37B, 0xA35A, 0xD3BD, 0xC39C, 0xF3FF, 0xE3DE, 0x2462, 0x3443, 0x0420, 0x1401,
   0x64E6, 0x74C7, 0x44A4, 0x5485, 0xA56A, 0xB54B, 0x8528, 0x9509, 0xE5EE, 0xF5CF, 0xC5AC, 0xD58D,
   0x3653, 0x2672, 0x1611, 0x0630, 0x76D7, 0x66F6, 0x5695, 0x46B4, 0xB75B, 0xA77A, 0x9719, 0x8738,
   0xF7DF, 0xE7FE, 0xD79D, 0xC7BC, 0x48C4, 0x58E5, 0x6886, 0x78A7, 0x0840, 0x1861, 0x2802, 0x3823,
   0xC9CC, 0xD9ED, 0xE98E, 0xF9AF, 0x8948, 0x9969, 0xA90A, 0xB92B, 0x5AF5, 0x4AD4, 0x7AB7, 0x6A96,
   0x1A71, 0x0A50, 0x3A33, 0x2A12, 0xDBFD, 0xCBDC, 0xFBBF, 0xEB9E, 0x9B79, 0x8B58, 0xBB3B, 0xAB1A,
   0x6CA6, 0x7C87, 0x4CE4, 0x5CC5, 0x2C22, 0x3C03, 0x0C60, 0x1C41, 0xEDAE, 0xFD8F, 0xCDEC, 0xDDCD,
   0xAD2A, 0xBD0B, 0x8D68, 0x9D49, 0x7E97, 0x6EB6, 0x5ED5, 0x4EF4, 0x3E13, 0x2E32, 0x1E51, 0x0E70,
   0xFF9F, 0xEFBE, 0xDFDD, 0xCFFC, 0xBF1B, 0xAF3A, 0x9F59, 0x8F78, 0x9188, 0x81A9, 0xB1CA, 0xA1EB,
   0xD10C, 0xC12D, 0xF14E, 0xE16F, 0x1080, 0x00A1, 0x30C2, 0x20E3, 0x5004, 0x4025, 0x7046, 0x6067,
   0x83B9, 0x9398, 0xA3FB, 0xB3DA, 0xC33D, 0xD31C, 0xE37F, 0xF35E, 0x02B1, 0x1290, 0x22F3, 0x32D2,
   0x4235, 0x5214, 0x6277, 0x7256, 0xB5EA, 0xA5CB, 0x95A8, 0x8589, 0xF56E, 0xE54F, 0xD52C, 0xC50D,
   0x34E2, 0x24C3, 0x14A0, 0x0481, 0x7466, 0x6447, 0x5424, 0x4405, 0xA7DB, 0xB7FA, 0x8799, 0x97B8,
   0xE75F, 0xF77E, 0xC71D, 0xD73C, 0x26D3, 0x36F2, 0x0691, 0x16B0, 0x6657, 0x7676, 0x4615, 0x5634,
   0xD94C, 0xC96D, 0xF90E, 0xE92F, 0x99C8, 0x89E9, 0xB98A, 0xA9AB, 0x5844, 0x4865, 0x7806, 0x6827,
   0x18C0, 0x08E1, 0x3882, 0x28A3, 0xCB7D, 0xDB5C, 0xEB3F, 0xFB1E, 0x8BF9, 0x9BD8, 0xABBB, 0xBB9A,
   0x4A75, 0x5A54, 0x6A37, 0x7A16, 0x0AF1, 0x1AD0, 0x2AB3, 0x3A92, 0xFD2E, 0xED0F, 0xDD6C, 0xCD4D,
   0xBDAA, 0xAD8B, 0x9DE8, 0x8DC9, 0x7C26, 0x6C07, 0x5C64, 0x4C45, 0x3CA2, 0x2C83, 0x1CE0, 0x0CC1,
   0xEF1F, 0xFF3E, 0xCF5D, 0xDF7C, 0xAF9B, 0xBFBA, 0x8FD9, 0x9FF8, 0x6E17, 0x7E36, 0x4E55, 0x5E74,
   0x2E93, 0x3EB2, 0x0ED1, 0x1EF0]

/-- One turn of the loops over `crc16`, whose low octet is `crc8[0]` and whose high octet is `crc8[1]`. -/
def ccitt162Step (crc : UInt16) (octet : UInt8) : UInt16 :=
  crc.toUInt8.toUInt16 <<< (8 : UInt16) ^^^ CCITT16_TABLE2.getD ((crc >>> (8 : UInt16)).toUInt8 ^^^ octet).toNat 0

/-- The value `crc16` of `checkCCITT162` and `addCCITT162` after the inversion. -/
def ccitt162 (inp : Bytes) (length : Nat) : UInt16 :=
    ~~~(List.range (length - 2)).foldl (fun crc i => ccitt162Step crc (inp i)) 0

/-- `checkCCITT162`. -/
def checkCCITT162 (inp : Bytes) (length : Nat) : Bool :=
  let crc := ccitt162 inp length
  crc.toUInt8 = inp (length - 1) ∧ (crc >>> (8 : UInt16)).toUInt8 = inp (length - 2)

/-- `addCCITT162`. -/
def addCCITT162 (inp : Bytes) (length : Nat) : Bytes :=
  let crc := ccitt162 inp length
  setByte (setByte inp (length - 1) crc.toUInt8) (length - 2) (crc >>> (8 : UInt16)).toUInt8

theorem ccitt162_congr {a b : Bytes} {length : Nat} (h : ∀ i < length - 2, a i = b i) :
    ccitt162 a length = ccitt162 b length := by
  unfold ccitt162
  rw [List.foldl_ext _ _ _ fun crc i hi => by rw [h i (List.mem_range.mp hi)]]

/-- The octets before the checksum stay. -/
theorem addCCITT162_of_lt (inp : Bytes) {length i : Nat} (hi : i < length - 2) :
    addCCITT162 inp length i = inp i := by
  unfold addCCITT162
  rw [setByte_of_ne _ _ (by omega), setByte_of_ne _ _ (by omega)]

/-- **A stamped buffer checks.** -/
theorem checkCCITT162_add {inp out : Bytes} {length : Nat} (hlen : 2 ≤ length)
    (h : ∀ i < length, out i = addCCITT162 inp length i) : checkCCITT162 out length = true := by
  have hcrc : ccitt162 out length = ccitt162 inp length :=
    ccitt162_congr fun i hi => (h i (by omega)).trans (addCCITT162_of_lt inp hi)
  have hlow : out (length - 1) = (ccitt162 inp length).toUInt8 := by
    rw [h _ (by omega)]
    unfold addCCITT162
    rw [setByte_of_ne _ _ (by omega), setByte_same]
  have hhigh : out (length - 2) = (ccitt162 inp length >>> (8 : UInt16)).toUInt8 := by
    rw [h _ (by omega)]
    exact setByte_same _ _ _
  unfold checkCCITT162
  dsimp only
  rw [hcrc, hlow, hhigh]
  exact decide_eq_true ⟨rfl, rfl⟩

/-- `CCITT16_TABLE1`. -/
def CCITT16_TABLE1 : List UInt16 :=
  [0x0000, 0x1189, 0x2312, 0x329B, 0x4624, 0x57AD, 0x6536, 0x74BF, 0x8C48, 0x9DC1, 0xAF5A, 0xBED3,
   0xCA6C, 0xDBE5, 0xE97E, 0xF8F7, 0x1081, 0x0108, 0x3393, 0x221A, 0x56A5, 0x472C, 0x75B7, 0x643E,
   0x9CC9, 0x8D40, 0xBFDB, 0xAE52, 0xDAED, 0xCB64, 0xF9FF, 0xE876, 0x2102, 0x308B, 0x0210, 0x1399,
   0x6726, 0x76AF, 0x4434, 0x55BD, 0xAD4A, 0xBCC3, 0x8E58, 0x9FD1, 0xEB6E, 0xFAE7, 0xC87C, 0xD9F5,
   0x3183, 0x200A, 0x1291, 0x0318, 0x77A7, 0x662E, 0x54B5, 0x453C, 0xBDCB, 0xAC42, 0x9ED9, 0x8F50,
   0xFBEF, 0xEA66, 0xD8FD, 0xC974, 0x4204, 0x538D, 0x6116, 0x709F, 0x0420, 0x15A9, 0x2732, 0x36BB,
   0xCE4C, 0xDFC5, 0xED5E, 0xFCD7, 0x8868, 0x99E1, 0xAB7A, 0xBAF3, 0x5285, 0x430C, 0x7197, 0x601E,
   0x14A1, 0x0528, 0x37B3, 0x263A, 0xDECD, 0xCF44, 0xFDDF, 0xEC56, 0x98E9, 0x8960, 0xBBFB, 0xAA72,
   0x6306, 0x728F, 0x4014, 0x519D, 0x2522, 0x34AB, 0x0630, 0x17B9, 0xEF4E, 0xFEC7, 0xCC5C, 0xDDD5,
   0xA96A, 0xB8E3, 0x8A78, 0x9BF1, 0x7387, 0x620E, 0x5095, 0x411C, 0x35A3, 0x242A, 0x16B1, 0x0738,
   0xFFCF, 0xEE46, 0xDCDD, 0xCD54, 0xB9EB, 0xA862, 0x9AF9, 0x8B70, 0x8408, 0x9581, 0xA71A, 0xB693,
   0xC22C, 0xD3A5, 0xE13E, 0xF0B7, 0x0840, 0x19C9, 0x2B52, 0x3ADB, 0x4E64, 0x5FED, 0x6D76, 0x7CFF,
   0x9489, 0x8500, 0xB79B, 0xA612, 0xD2AD, 0xC324, 0xF1BF, 0xE036, 0x18C1, 0x0948, 0x3BD3, 0x2A5A,
   0x5EE5, 0x4F6C, 0x7DF7, 0x6C7E, 0xA50A, 0xB483, 0x8618, 0x9791, 0xE32E, 0xF2A7, 0xC03C, 0xD1B5,
   0x2942, 0x38CB, 0x0A50, 0x1BD9, 0x6F66, 0x7EEF, 0x4C74, 0x5DFD, 0xB58B, 0xA402, 0x9699, 0x8710,
   0xF3AF, 0xE226, 0xD0BD, 0xC134, 0x39C3, 0x284A, 0x1AD1, 0x0B58, 0x7FE7, 0x6E6E, 0x5CF5, 0x4D7C,
   0xC60C, 0xD785, 0xE51E, 0xF497, 0x8028, 0x91A1, 0xA33A, 0xB2B3, 0x4A44, 0x5BCD, 0x6956, 0x78DF,
   0x0C60, 0x1DE9, 0x2F72, 0x3EFB, 0xD68D, 0xC704, 0xF59F, 0xE416, 0x90A9, 0x8120, 0xB3BB, 0xA232,
   0x5AC5, 0x4B4C, 0x79D7, 0x685E, 0x1CE1, 0x0D68, 0x3FF3, 0x2E7A, 0xE70E, 0xF687, 0xC41C, 0xD595,
   0xA12A, 0xB0A3, 0x8238, 0x93B1, 0x6B46, 0x7ACF, 0x4854, 0x59DD, 0x2D62, 0x3CEB, 0x0E70, 0x1FF9,
   0xF78F, 0xE606, 0xD49D, 0xC514, 0xB1AB, 0xA022, 0x92B9, 0x8330, 0x7BC7, 0x6A4E, 0x58D5, 0x495C,
   0x3DE3, 0x2C6A, 0x1EF1, 0x0F78]

/-- One turn of the loops of the CCITT-161 over `crc16`: the low octet chooses the entry. -/
def ccitt161Step (crc : UInt16) (octet : UInt8) : UInt16 :=
  (crc >>> (8 : UInt16)).toUInt8.toUInt16 ^^^ CCITT16_TABLE1.getD (crc.toUInt8 ^^^ octet).toNat 0

/-- The value `crc16` of `checkCCITT161` and `addCCITT161` after the inversion. -/
def ccitt161 (inp : Bytes) (length : Nat) : UInt16 :=
    ~~~(List.range (length - 2)).foldl (fun crc i => ccitt161Step crc (inp i)) 0xFFFF

/-- `checkCCITT161`; the octets stand the other way round than those of the CCITT-162. -/
def checkCCITT161 (inp : Bytes) (length : Nat) : Bool :=
  let crc := ccitt161 inp length
  crc.toUInt8 = inp (length - 2) ∧ (crc >>> (8 : UInt16)).toUInt8 = inp (length - 1)

/-- `addCCITT161`. -/
def addCCITT161 (inp : Bytes) (length : Nat) : Bytes :=
  let crc := ccitt161 inp length
  setByte (setByte inp (length - 2) crc.toUInt8) (length - 1) (crc >>> (8 : UInt16)).toUInt8

/-- `CRC32_TABLE`. -/
def CRC32_TABLE : List UInt32 :=
  [0x00000000, 0x04C11DB7, 0x09823B6E, 0x0D4326D9, 0x130476DC, 0x17C56B6B, 0x1A864DB2, 0x1E475005,
   0x2608EDB8, 0x22C9F00F, 0x2F8AD6D6, 0x2B4BCB61, 0x350C9B64, 0x31CD86D3, 0x3C8EA00A, 0x384FBDBD,
   0x4C11DB70, 0x48D0C6C7, 0x4593E01E, 0x4152FDA9, 0x5F15ADAC, 0x5BD4B01B, 0x569796C2, 0x52568B75,
   0x6A1936C8, 0x6ED82B7F, 0x639B0DA6, 0x675A1011, 0x791D4014, 0x7DDC5DA3, 0x709F7B7A, 0x745E66CD,
   0x9823B6E0, 0x9CE2AB57, 0x91A18D8E, 0x95609039, 0x8B27C03C, 0x8FE6DD8B, 0x82A5FB52, 0x8664E6E5,
   0xBE2B5B58, 0xBAEA46EF, 0xB7A96036, 0xB3687D81, 0xAD2F2D84, 0xA9EE3033, 0xA4AD16EA, 0xA06C0B5D,
   0xD4326D90, 0xD0F37027, 0xDDB056FE, 0xD9714B49, 0xC7361B4C, 0xC3F706FB, 0xCEB42022, 0xCA753D95,
   0xF23A8028, 0xF6FB9D9F, 0xFBB8BB46, 0xFF79A6F1, 0xE13EF6F4, 0xE5FFEB43, 0xE8BCCD9A, 0xEC7DD02D,
   0x34867077, 0x30476DC0, 0x3D044B19, 0x39C556AE, 0x278206AB, 0x23431B1C, 0x2E003DC5, 0x2AC12072,
   0x128E9DCF, 0x164F8078, 0x1B0CA6A1, 0x1FCDBB16, 0x018AEB13, 0x054BF6A4, 0x0808D07D, 0x0CC9CDCA,
   0x7897AB07, 0x7C56B6B0, 0x71159069, 0x75D48DDE, 0x6B93DDDB, 0x6F52C06C, 0x6211E6B5, 0x66D0FB02,
   0x5E9F46BF, 0x5A5E5B08, 0x571D7DD1, 0x53DC6066, 0x4D9B3063, 0x495A2DD4, 0x44190B0D, 0x40D816BA,
   0xACA5C697, 0xA864DB20, 0xA527FDF9, 0xA1E6E04E, 0xBFA1B04B, 0xBB60ADFC, 0xB6238B25, 0xB2E29692,
   0x8AAD2B2F, 0x8E6C3698, 0x832F1041, 0x87EE0DF6, 0x99A95DF3, 0x9D684044, 0x902B669D, 0x94EA7B2A,
   0xE0B41DE7, 0xE4750050, 0xE9362689, 0xEDF73B3E, 0xF3B06B3B, 0xF771768C, 0xFA325055, 0xFEF34DE2,
   0xC6BCF05F, 0xC27DEDE8, 0xCF3ECB31, 0xCBFFD686, 0xD5B88683, 0xD1799B34, 0xDC3ABDED, 0xD8FBA05A,
   0x690CE0EE, 0x6DCDFD59, 0x608EDB80, 0x644FC637, 0x7A089632, 0x7EC98B85, 0x738AAD5C, 0x774BB0EB,
   0x4F040D56, 0x4BC510E1, 0x46863638, 0x42472B8F, 0x5C007B8A, 0x58C1663D, 0x558240E4, 0x51435D53,
   0x251D3B9E, 0x21DC2629, 0x2C9F00F0, 0x285E1D47, 0x36194D42, 0x32D850F5, 0x3F9B762C, 0x3B5A6B9B,
   0x0315D626, 0x07D4CB91, 0x0A97ED48, 0x0E56F0FF, 0x1011A0FA, 0x14D0BD4D, 0x19939B94, 0x1D528623,
   0xF12F560E, 0xF5EE4BB9, 0xF8AD6D60, 0xFC6C70D7, 0xE22B20D2, 0xE6EA3D65, 0xEBA91BBC, 0xEF68060B,
   0xD727BBB6, 0xD3E6A601, 0xDEA580D8, 0xDA649D6F, 0xC423CD6A, 0xC0E2D0DD, 0xCDA1F604, 0xC960EBB3,
   0xBD3E8D7E, 0xB9FF90C9, 0xB4BCB610, 0xB07DABA7, 0xAE3AFBA2, 0xAAFBE615, 0xA7B8C0CC, 0xA379DD7B,
   0x9B3660C6, 0x9FF77D71, 0x92B45BA8, 0x9675461F, 0x8832161A, 0x8CF30BAD, 0x81B02D74, 0x857130C3,
   0x5D8A9099, 0x594B8D2E, 0x5408ABF7, 0x50C9B640, 0x4E8EE645, 0x4A4FFBF2, 0x470CDD2B, 0x43CDC09C,
   0x7B827D21, 0x7F436096, 0x7200464F, 0x76C15BF8, 0x68860BFD, 0x6C47164A, 0x61043093, 0x65C52D24,
   0x119B4BE9, 0x155A565E, 0x18197087, 0x1CD86D30, 0x029F3D35, 0x065E2082, 0x0B1D065B, 0x0FDC1BEC,
   0x3793A651, 0x3352BBE6, 0x3E119D3F, 0x3AD08088, 0x2497D08D, 0x2056CD3A, 0x2D15EBE3, 0x29D4F654,
   0xC5A92679, 0xC1683BCE, 0xCC2B1D17, 0xC8EA00A0, 0xD6AD50A5, 0xD26C4D12, 0xDF2F6BCB, 0xDBEE767C,
   0xE3A1CBC1, 0xE760D676, 0xEA23F0AF, 0xEEE2ED18, 0xF0A5BD1D, 0xF464A0AA, 0xF9278673, 0xFDE69BC4,
   0x89B8FD09, 0x8D79E0BE, 0x803AC667, 0x84FBDBD0, 0x9ABC8BD5, 0x9E7D9662, 0x933EB0BB, 0x97FFAD0C,
   0xAFB010B1, 0xAB710D06, 0xA6322BDF, 0xA2F33668, 0xBCB4666D, 0xB8757BDA, 0xB5365D03, 0xB1F740B4]

/-- The value `crc32` of `checkCRC32` and `addCRC32` after the inversion. -/
def crc32 (inp : Bytes) (length : Nat) : UInt32 :=
    ~~~(List.range (length - 4)).foldl (fun crc i =>
      CRC32_TABLE.getD ((crc >>> (24 : UInt32) ^^^ (inp i).toUInt32) &&& 0xFF).toNat 0 ^^^ crc <<< (8 : UInt32)) 0

/-- `checkCRC32`; `crc8[0]` is the low octet. -/
def checkCRC32 (inp : Bytes) (length : Nat) : Bool :=
  let crc := crc32 inp length
  crc.toUInt8 = inp (length - 1) ∧ (crc >>> (8 : UInt32)).toUInt8 = inp (length - 2) ∧
    (crc >>> (16 : UInt32)).toUInt8 = inp (length - 3) ∧ (crc >>> (24 : UInt32)).toUInt8 = inp (length - 4)

/-- `addCRC32`. -/
def addCRC32 (inp : Bytes) (length : Nat) : Bytes :=
  let crc := crc32 inp length
  let inp := setByte inp (length - 1) crc.toUInt8
  let inp := setByte inp (length - 2) (crc >>> (8 : UInt32)).toUInt8
  let inp := setByte inp (length - 3) (crc >>> (16 : UInt32)).toUInt8
  setByte inp (length - 4) (crc >>> (24 : UInt32)).toUInt8

/-- Only the octets checked count. -/
theorem checkCRC32_congr {a b : Bytes} {length : Nat} (hlen : 4 < length) (h : ∀ i < length, a i = b i) :
    checkCRC32 a length = checkCRC32 b length := by
  have hcrc : crc32 a length = crc32 b length := by
    unfold crc32
    rw [List.foldl_ext _ _ _ fun crc i hi => by rw [h i (by have := List.mem_range.mp hi; omega)]]
  unfold checkCRC32
  rw [hcrc, h _ (by omega), h _ (by omega), h _ (by omega), h _ (by omega)]

/-- The first `n` bits of a buffer. -/
def bitList (inp : Bytes) (n : Nat) : List Bool := (List.range n).map (readBit inp)

/-- The polynomial of the register. -/
def poly16 : BitVec 16 := 0x1021

/-- The mask of the top bit. -/
theorem and_topMask_eq (v : BitVec 16) : decide (v &&& 0x8000#16 = 0x8000#16) = v.msb := by
  rw [BitVec.msb_eq_getLsbD_last]
  by_cases hv : v.getLsbD 15 = true
  · rw [hv, decide_eq_true_eq]
    apply BitVec.eq_of_getLsbD_eq
    intro i hi
    have hmask : ∀ j : Fin 16, (0x8000#16).getLsbD j = decide (j.val = 15) := by decide
    rw [BitVec.getLsbD_and, hmask ⟨i, hi⟩]
    by_cases h15 : i = 15
    · simp [h15, hv]
    · simp [h15]
  · rw [Bool.not_eq_true] at hv
    rw [hv, decide_eq_false_iff_not]
    intro habs
    have hbit : (v &&& 0x8000#16).getLsbD 15 = true := by
      rw [habs]
      rfl
    rw [BitVec.getLsbD_and, hv] at hbit
    exact Bool.false_ne_true hbit

/-- A turn of the loop is a step of the register. -/
theorem toBitVec_crcBit (crc : UInt16) (b : Bool) :
    (crcBit crc b).toBitVec = Lfsr.step poly16 crc.toBitVec b := by
  have htop : decide (crc &&& 0x8000 = 0x8000) = crc.toBitVec.msb := by
    rw [← and_topMask_eq]
    exact decide_eq_decide.mpr ⟨fun h => congrArg UInt16.toBitVec h, fun h => UInt16.toBitVec_inj.mp h⟩
  unfold crcBit Lfsr.step
  dsimp only
  rw [htop]
  split
  · rfl
  · rfl

/-- The CRC is the register after the bits of the buffer. -/
theorem toBitVec_createCRC16 (inp : Bytes) (n : Nat) :
    (createCRC16 inp n).toBitVec = Lfsr.run poly16 0xFFFF (bitList inp n) := by
  have hfold : ∀ (l : List Nat) (crc : UInt16),
      (l.foldl (fun crc i => crcBit crc (readBit inp i)) crc).toBitVec =
        Lfsr.run poly16 crc.toBitVec (l.map (readBit inp)) := by
    intro l
    induction l with
    | nil => intro crc; rfl
    | cons i l ih =>
        intro crc
        rw [List.foldl_cons, ih, toBitVec_crcBit]
        rfl
  have hmask : ∀ v : UInt16, v &&& 0xFFFF = v := by
    intro v
    exact UInt16.toBitVec_inj.mp (BitVec.and_allOnes (x := v.toBitVec))
  unfold createCRC16 bitList
  rw [hmask]
  exact hfold _ _

/-- The CRC reads only the bits it is given. -/
theorem createCRC16_congr {inp inp' : Bytes} {n : Nat} (h : ∀ i < n, readBit inp i = readBit inp' i) :
    createCRC16 inp n = createCRC16 inp' n := by
  apply UInt16.toBitVec_inj.mp
  rw [toBitVec_createCRC16, toBitVec_createCRC16]
  unfold bitList
  rw [List.map_congr_left fun i hi => h i (List.mem_range.mp hi)]

/-- **A burst changes the CRC.** Buffers that differ among their first `n` bits, and there only within a
    stretch of 16, have different CRCs. -/
theorem createCRC16_ne_of_burst {inp inp' : Bytes} {n i : Nat} (start : Nat) (hi : i < n)
    (hdiff : readBit inp i ≠ readBit inp' i)
    (hout : ∀ j < n, j < start ∨ start + 16 ≤ j → readBit inp j = readBit inp' j) :
    createCRC16 inp n ≠ createCRC16 inp' n := by
  intro hcrc
  have hburst : Lfsr.Burst 16 n (readBit inp) (readBit inp') := by
    refine ⟨⟨i, hi, hdiff⟩, start, fun j hj hne => ?_⟩
    by_contra hwin
    exact hne (hout j hj (by omega))
  have hregs := congrArg UInt16.toBitVec hcrc
  rw [toBitVec_createCRC16, toBitVec_createCRC16] at hregs
  exact Lfsr.run_ne_of_burst (by decide) _ hburst hregs

/-! ## Checksums written bit by bit -/

/-- The loop of the CRCs of 12, 15 and 16 bits, with its start, the top bit, the polynomial and the mask. -/
def createCRC (init top poly mask : UInt16) (inp : Bytes) (bitLength : Nat) : UInt16 :=
  (List.range bitLength).foldl (fun crc i =>
    let bit1 := readBit inp i
    let bit2 : Bool := crc &&& top = top
    let crc := crc <<< (1 : UInt16)
    if bit1 ^^ bit2 then crc ^^^ poly else crc) init &&& mask

/-- `createCRC6`. -/
def createCRC6 (inp : Bytes) (bitLength : Nat) : UInt8 :=
  (List.range bitLength).foldl (fun crc i =>
    let bit1 := readBit inp i
    let bit2 : Bool := crc &&& 0x20 = 0x20
    let crc := crc <<< (1 : UInt8)
    if bit1 ^^ bit2 then crc ^^^ 0x27 else crc) 0x3F &&& 0x3F

/-- `createCRC12`. -/
def createCRC12 : Bytes → Nat → UInt16 := createCRC 0x0FFF 0x0800 0x080F 0x0FFF

/-- `createCRC15`. -/
def createCRC15 : Bytes → Nat → UInt16 := createCRC 0x7FFF 0x4000 0x4CC5 0x7FFF

/-- The octets `temp1` of a CRC. -/
def crcOctets (crc : UInt16) : Bytes :=
  setByte (setByte (fun _ => 0) 0 (crc >>> (8 : UInt16) &&& 0xFF).toUInt8) 1 (crc >>> (0 : UInt16) &&& 0xFF).toUInt8

/-- The loop `for i from first below last, j from bitLength` that reads the CRC behind the data. -/
def readCRC (inp : Bytes) (bitLength first last : Nat) : Bytes :=
  copyBits (fun _ => 0) first inp bitLength (last - first)

/-- The loop that writes it there. -/
def writeCRC (inp : Bytes) (bitLength : Nat) (crc : Bytes) (first last : Nat) : Bytes :=
  copyBits inp bitLength crc first (last - first)

/-- `checkCRC12`, `checkCRC15` and `checkCRC16`, with the first of the 16 bits that is sent. -/
def checkCRC (create : Bytes → Nat → UInt16) (first : Nat) (inp : Bytes) (bitLength : Nat) : Bool :=
  let temp1 := crcOctets (create inp bitLength)
  let temp2 := readCRC inp bitLength first 16
  temp1 0 = temp2 0 ∧ temp1 1 = temp2 1

/-- `addCRC12`, `addCRC15` and `addCRC16`. -/
def addCRC (create : Bytes → Nat → UInt16) (first : Nat) (inp : Bytes) (bitLength : Nat) : Bytes :=
  writeCRC inp bitLength (crcOctets (create inp bitLength)) first 16

/-- `checkCRC6`. -/
def checkCRC6 (inp : Bytes) (bitLength : Nat) : Bool := createCRC6 inp bitLength = readCRC inp bitLength 2 8 0

/-- `addCRC6`. -/
def addCRC6 (inp : Bytes) (bitLength : Nat) : Bytes :=
  writeCRC inp bitLength (fun _ => createCRC6 inp bitLength) 2 8

/-- `checkCRC12`. -/
def checkCRC12 : Bytes → Nat → Bool := checkCRC createCRC12 4

/-- `addCRC12`. -/
def addCRC12 : Bytes → Nat → Bytes := addCRC createCRC12 4

/-- `checkCRC15`. -/
def checkCRC15 : Bytes → Nat → Bool := checkCRC createCRC15 1

/-- `addCRC15`. -/
def addCRC15 : Bytes → Nat → Bytes := addCRC createCRC15 1

/-- `checkCRC16`. -/
def checkCRC16 : Bytes → Nat → Bool := checkCRC createCRC16 0

/-- `addCRC16`. -/
def addCRC16 : Bytes → Nat → Bytes := addCRC createCRC16 0

theorem createCRC_congr (init top poly mask : UInt16) {a b : Bytes} {n : Nat}
    (h : ∀ i < n, readBit a i = readBit b i) :
    createCRC init top poly mask a n = createCRC init top poly mask b n := by
  unfold createCRC
  rw [List.foldl_ext _ _ _ fun crc i hi => by rw [h i (List.mem_range.mp hi)]]

theorem createCRC6_congr {a b : Bytes} {n : Nat} (h : ∀ i < n, readBit a i = readBit b i) :
    createCRC6 a n = createCRC6 b n := by
  unfold createCRC6
  rw [List.foldl_ext _ _ _ fun crc i hi => by rw [h i (List.mem_range.mp hi)]]

/-- The high bits of a small octet are clear. -/
theorem bitOf_of_lt {b : UInt8} {w j : Nat} (hb : b.toNat < 2 ^ w) (hj : j + w < 8) : bitOf b j = false := by
  unfold bitOf
  rw [BitVec.getMsbD_eq_getLsbD, ← BitVec.testBit_toNat]
  have hlt : b.toBitVec.toNat < 2 ^ (8 - 1 - j) := lt_of_lt_of_le hb (Nat.pow_le_pow_right (by omega) (by omega))
  rw [Nat.testBit_lt_two_pow hlt, Bool.and_false]

/-- The bits behind the data are read back as they were written, where the CRC has none before `first`. -/
theorem octet_readCRC {inp out crc : Bytes} {bitLength first last : Nat} (hfirst : first ≤ last)
    (h : ∀ k, bitLength ≤ k → k < bitLength + (last - first) →
      readBit out k = readBit (writeCRC inp bitLength crc first last) k)
    (hzero : ∀ k < first, readBit crc k = false) {j : Nat} (hj : 8 * (j + 1) ≤ last) :
    readCRC out bitLength first last j = crc j := by
  refine byte_of_bits (n := j + 1) (fun k hk => ?_) (Nat.lt_succ_self j)
  rw [readCRC, readBit_copyBits]
  by_cases hlt : k < first
  · rw [if_neg (by omega), hzero k hlt]
    rw [readBit_eq]
    exact bitOf_zero _
  · rw [if_pos (by omega), h _ (by omega) (by omega), writeCRC, readBit_copyBits, if_pos (by omega)]
    congr 1
    omega

theorem createCRC_lt (init top poly : UInt16) {mask : UInt16} {w : Nat} (hmask : mask.toNat < 2 ^ w) (inp : Bytes)
    (n : Nat) : (createCRC init top poly mask inp n).toNat < 2 ^ w := by
  unfold createCRC
  rw [UInt16.toNat_and]
  exact lt_of_le_of_lt Nat.and_le_right hmask

/-- The bits of the octets of a CRC of `w` bits, before the first it has. -/
theorem readBit_crcOctets {crc : UInt16} {w k : Nat} (hw : 8 ≤ w) (hcrc : crc.toNat < 2 ^ w) (hk : k + w < 16) :
    readBit (crcOctets crc) k = false := by
  have hoctet : crcOctets crc 0 = (crc >>> (8 : UInt16) &&& 0xFF).toUInt8 := rfl
  have hdiv : k / 8 = 0 := by omega
  have hmod : k % 8 = k := by omega
  have hpow : 2 ^ w = 2 ^ (w - 8) * 256 := by
    rw [show (256 : Nat) = 2 ^ 8 from rfl, ← Nat.pow_add, Nat.sub_add_cancel hw]
  have hlt : ((crc >>> (8 : UInt16) &&& 0xFF).toUInt8).toNat < 2 ^ (w - 8) := by
    rw [UInt16.toNat_toUInt8, UInt16.toNat_and, UInt16.toNat_shiftRight]
    calc (crc.toNat >>> ((8 : UInt16).toNat % 16) &&& (0xFF : UInt16).toNat) % 2 ^ 8
        ≤ crc.toNat >>> ((8 : UInt16).toNat % 16) := le_trans (Nat.mod_le _ _) Nat.and_le_left
      _ = crc.toNat / 256 := Nat.shiftRight_eq_div_pow _ _
      _ < 2 ^ (w - 8) := Nat.div_lt_of_lt_mul (by omega)
  rw [readBit_eq, hdiv, hmod, hoctet]
  exact bitOf_of_lt hlt (by omega)

theorem readBit_writeCRC (inp : Bytes) {bitLength : Nat} (crc : Bytes) (first last : Nat) {k : Nat}
    (hk : k < bitLength) : readBit (writeCRC inp bitLength crc first last) k = readBit inp k := by
  rw [writeCRC, readBit_copyBits, if_neg (by omega)]

/-- **A stamped buffer checks**, whatever follows the CRC. -/
theorem checkCRC_of_add {create : Bytes → Nat → UInt16} {first w : Nat} (hw : w + first = 16) (hw8 : 8 ≤ w)
    (hcongr : ∀ {a b : Bytes} {n : Nat}, (∀ i < n, readBit a i = readBit b i) → create a n = create b n)
    (hsmall : ∀ inp n, (create inp n).toNat < 2 ^ w) {inp out : Bytes} {bitLength : Nat}
    (h : ∀ k < bitLength + w, readBit out k = readBit (addCRC create first inp bitLength) k) :
    checkCRC create first out bitLength = true := by
  have hcrc : create out bitLength = create inp bitLength :=
    hcongr fun i hi => by rw [h i (by omega), addCRC, readBit_writeCRC _ _ _ _ hi]
  have hback : ∀ j < 2, readCRC out bitLength first 16 j = crcOctets (create inp bitLength) j := fun j hj =>
    octet_readCRC (by omega) (fun k _ hk => h k (by omega))
      (fun k hk => readBit_crcOctets hw8 (hsmall inp bitLength) (by omega)) (by omega)
  unfold checkCRC
  dsimp only
  rw [hcrc, hback 0 (by omega), hback 1 (by omega)]
  exact decide_eq_true ⟨rfl, rfl⟩

theorem checkCRC12_of_add {inp out : Bytes} {bitLength : Nat}
    (h : ∀ k < bitLength + 12, readBit out k = readBit (addCRC12 inp bitLength) k) :
    checkCRC12 out bitLength = true :=
  checkCRC_of_add (w := 12) rfl (by decide) (createCRC_congr _ _ _ _) (createCRC_lt _ _ _ (by decide)) h

theorem checkCRC15_of_add {inp out : Bytes} {bitLength : Nat}
    (h : ∀ k < bitLength + 15, readBit out k = readBit (addCRC15 inp bitLength) k) :
    checkCRC15 out bitLength = true :=
  checkCRC_of_add (w := 15) rfl (by decide) (createCRC_congr _ _ _ _) (createCRC_lt _ _ _ (by decide)) h

theorem checkCRC6_of_add {inp out : Bytes} {bitLength : Nat}
    (h : ∀ k < bitLength + 6, readBit out k = readBit (addCRC6 inp bitLength) k) :
    checkCRC6 out bitLength = true := by
  have hcrc : createCRC6 out bitLength = createCRC6 inp bitLength :=
    createCRC6_congr fun i hi => by rw [h i (by omega), addCRC6, readBit_writeCRC _ _ _ _ hi]
  have hsmall : (createCRC6 inp bitLength).toNat < 2 ^ 6 := by
    unfold createCRC6
    rw [UInt8.toNat_and]
    exact lt_of_le_of_lt Nat.and_le_right (by decide)
  have hback : readCRC out bitLength 2 8 0 = createCRC6 inp bitLength :=
    octet_readCRC (j := 0) (by omega) (fun k _ hk => h k (by omega))
      (fun k hk => by rw [readBit_eq]; exact bitOf_of_lt hsmall (by omega)) (by omega)
  unfold checkCRC6
  rw [hcrc, hback]
  exact decide_eq_true rfl

end CRC

end DvmHost

import DvmHost.Common.Edac.Golay24128
import DvmHost.Common.Edac.Hamming
import DvmHost.Common.Edac.RS634717
import DvmHost.Common.P25.P25Utils

/-!
# `Common.P25.Lc.LC` — P25 link control

`src/common/p25/lc/LC.cpp`: the link control of the header data unit (HDU) and of the two logical link data
units (LDU1, LDU2), into a frame and out of it. Octets of link control are packed as hexbits, coded with
Reed-Solomon, each hexbit (or word of one) once more with Golay or Hamming, and laid into the frame between
the status symbols.

The local arrays of the source that it leaves uninitialised begin as zeros here; every bit of them that is
read has been written before. A decoder of the Reed-Solomon codec that throws is one of the cases in which
`decodeHDU`, `decodeLDU1` and `decodeLDU2` answer false, and `decodeHDU` gives no result if the division loop
of the Golay decoder did not end.
-/

namespace DvmHost

open Lib Lib.Blocks

/-! ## Constants -/

/-- `LC_GROUP`. -/
def LC_GROUP : UInt8 := 0x00

/-- `LC_GROUP_UPDT`. -/
def LC_GROUP_UPDT : UInt8 := 0x02

/-- `LC_PRIVATE`. -/
def LC_PRIVATE : UInt8 := 0x03

/-- `LC_TEL_INT_VCH_USER`. -/
def LC_TEL_INT_VCH_USER : UInt8 := 0x06

/-- `LC_EXPLICIT_SOURCE_ID`. -/
def LC_EXPLICIT_SOURCE_ID : UInt8 := 0x09

/-- `LC_RFSS_STS_BCAST`. -/
def LC_RFSS_STS_BCAST : UInt8 := 0x23

/-- `P25_MFG_STANDARD`. -/
def P25_MFG_STANDARD : UInt8 := 0x00

/-- `P25_MFG_MOT`. -/
def P25_MFG_MOT : UInt8 := 0x90

/-- `P25_ALGO_UNENCRYPT`. -/
def P25_ALGO_UNENCRYPT : UInt8 := 0x80

/-- `P25_WACN_STD_DEFAULT`. -/
def P25_WACN_STD_DEFAULT : UInt32 := 0xBB800

/-- `P25_SID_STD_DEFAULT`. -/
def P25_SID_STD_DEFAULT : UInt32 := 0x001

/-- `P25_MI_LENGTH_BYTES`. -/
abbrev P25_MI_LENGTH_BYTES : Nat := 9

/-! ## The state -/

/-- The members of `SiteData` that link control and trunking messages are encoded from. -/
structure SiteData where
  lra : UInt8
  sysId : UInt32
  rfssId : UInt8
  siteId : UInt8
  channelId : UInt8
  channelNo : UInt32
  serviceClass : UInt8
  netId : UInt32 := P25_WACN_STD_DEFAULT

/-- `SiteData()`. -/
def SiteData.default : SiteData :=
  { lra := 0, sysId := P25_SID_STD_DEFAULT, rfssId := 1, siteId := 1, channelId := 1, channelNo := 1,
    serviceClass := 0x10 ||| 0x20 }

/-- The members of `LC`. -/
structure LC where
  protect : Bool
  lco : UInt8
  mfId : UInt8
  srcId : UInt32
  dstId : UInt32
  grpVchNo : UInt32
  explicitId : Bool
  netId : UInt32
  sysId : UInt32
  emergency : Bool
  encrypted : Bool
  priority : UInt8
  group : Bool
  algId : UInt8
  kId : UInt32
  encryptOverride : Bool
  callTimer : UInt32
  rsValue : UInt64
  mi : Fin P25_MI_LENGTH_BYTES → UInt8

namespace LC

/-- `LC()`. -/
def default : LC :=
  { protect := false, lco := LC_GROUP, mfId := P25_MFG_STANDARD, srcId := 0, dstId := 0, grpVchNo := 0,
    explicitId := false, netId := P25_WACN_STD_DEFAULT, sysId := P25_SID_STD_DEFAULT, emergency := false,
    encrypted := false, priority := 4, group := true, algId := P25_ALGO_UNENCRYPT, kId := 0,
    encryptOverride := false, callTimer := 0, rsValue := 0, mi := fun _ => 0 }

/-! ## Link control octets -/

/-- `if (m_priority == 0) m_priority = 4U;` -/
def sanePriority (lc : LC) : LC := if lc.priority = 0 then { lc with priority := 4 } else lc

/-- The eight octets of `rs` from the second on, combined into a word. -/
def combine (rs : Bytes) : UInt64 :=
  let rsValue := (rs 1).toUInt64
  let rsValue := rsValue <<< (8 : UInt64) + (rs 2).toUInt64
  let rsValue := rsValue <<< (8 : UInt64) + (rs 3).toUInt64
  let rsValue := rsValue <<< (8 : UInt64) + (rs 4).toUInt64
  let rsValue := rsValue <<< (8 : UInt64) + (rs 5).toUInt64
  let rsValue := rsValue <<< (8 : UInt64) + (rs 6).toUInt64
  let rsValue := rsValue <<< (8 : UInt64) + (rs 7).toUInt64
  rsValue <<< (8 : UInt64) + (rs 8).toUInt64

/-- `decodeLC`: whether the opcode is one it knows, and the new state. -/
def decodeLC (lc : LC) (rs : Bytes) : Bool × LC :=
  let rsValue := combine rs
  let lc := { lc with protect := decide (rs 0 &&& 0x80 = 0x80), lco := rs 0 &&& 0x3F, mfId := rs 1 }
  let emergency := decide (rs 2 &&& 0x80 = 0x80)
  let encrypted := if !lc.encryptOverride then decide (rs 2 &&& 0x40 = 0x40) else lc.encrypted
  let priority := rs 2 &&& 0x07
  if lc.mfId = P25_MFG_MOT then
    -- vendor opcodes are only detected for passthru
    if lc.lco = LC_TEL_INT_VCH_USER then (true, { lc with rsValue := rsValue }) else (true, lc)
  else if lc.lco = LC_GROUP then
    (true, sanePriority { lc with
      group := true, emergency := emergency, encrypted := encrypted, priority := priority,
      explicitId := decide (rs 3 &&& 0x01 = 0x01),
      dstId := (rsValue >>> (24 : UInt64) &&& 0xFFFF).toUInt32, srcId := (rsValue &&& 0xFFFFFF).toUInt32 })
  else if lc.lco = LC_PRIVATE then
    (true, sanePriority { lc with
      group := false, emergency := emergency, encrypted := encrypted, priority := priority,
      dstId := (rsValue >>> (24 : UInt64) &&& 0xFFFFFF).toUInt32, srcId := (rsValue &&& 0xFFFFFF).toUInt32 })
  else if lc.lco = LC_TEL_INT_VCH_USER then
    (true, sanePriority { lc with
      emergency := emergency, encrypted := encrypted, priority := priority,
      callTimer := (rsValue >>> (24 : UInt64) &&& 0xFFFF).toUInt32,
      srcId := if lc.srcId = 0 then (rsValue &&& 0xFFFFFF).toUInt32 else lc.srcId })
  else if lc.lco = LC_EXPLICIT_SOURCE_ID then
    (true, sanePriority { lc with
      netId := (rsValue >>> (36 : UInt64) &&& 0xFFFFF).toUInt32,
      sysId := (rsValue >>> (24 : UInt64) &&& 0xFFF).toUInt32,
      srcId := (rsValue &&& 0xFFFFFF).toUInt32 })
  else (false, lc)

/-- The sum of the service options. -/
def serviceOptions (lc : LC) : UInt64 :=
  (if lc.emergency then 0x80 else 0x00) + (if lc.encrypted then 0x40 else 0x00) +
  (lc.priority &&& 0x07).toUInt64

/-- The first `switch` of `encodeLC`: `rs[0]` and `rsValue`. -/
def opcodeValue (siteData : SiteData) (lc : LC) : UInt8 × UInt64 :=
  if lc.lco = LC_GROUP then
    let rsValue := lc.mfId.toUInt64
    let rsValue := rsValue <<< (8 : UInt64) + lc.serviceOptions
    let rsValue := rsValue <<< (24 : UInt64) + lc.dstId.toUInt64
    (lc.lco, rsValue <<< (24 : UInt64) + lc.srcId.toUInt64)
  else if lc.lco = LC_GROUP_UPDT then
    let rsValue := siteData.channelId.toUInt64
    let rsValue := rsValue <<< (12 : UInt64) + lc.grpVchNo.toUInt64
    let rsValue := rsValue <<< (16 : UInt64) + lc.dstId.toUInt64
    let rsValue := rsValue <<< (4 : UInt64) + siteData.channelId.toUInt64
    let rsValue := rsValue <<< (12 : UInt64) + lc.grpVchNo.toUInt64
    (lc.lco ||| 0x40, rsValue <<< (16 : UInt64) + lc.dstId.toUInt64)
  else if lc.lco = LC_PRIVATE then
    let rsValue := lc.mfId.toUInt64
    let rsValue := rsValue <<< (8 : UInt64) + lc.serviceOptions
    let rsValue := rsValue <<< (24 : UInt64) + lc.dstId.toUInt64
    (lc.lco, rsValue <<< (24 : UInt64) + lc.srcId.toUInt64)
  else if lc.lco = LC_TEL_INT_VCH_USER then
    -- the word begins as zero here: no manufacturer is put in front of the options
    let rsValue := (0 : UInt64) <<< (8 : UInt64) + lc.serviceOptions
    let rsValue := rsValue <<< (16 : UInt64) + lc.callTimer.toUInt64
    (lc.lco ||| 0x40, rsValue <<< (24 : UInt64) + lc.srcId.toUInt64)
  else if lc.lco = LC_EXPLICIT_SOURCE_ID then
    let rsValue := lc.netId.toUInt64
    let rsValue := rsValue <<< (12 : UInt64) + (lc.sysId &&& 0xFFF).toUInt64
    (lc.lco, rsValue <<< (24 : UInt64) + lc.srcId.toUInt64)
  else if lc.lco = LC_RFSS_STS_BCAST then
    let rsValue := siteData.lra.toUInt64
    let rsValue := rsValue <<< (12 : UInt64) + siteData.sysId.toUInt64
    let rsValue := rsValue <<< (8 : UInt64) + siteData.rfssId.toUInt64
    let rsValue := rsValue <<< (8 : UInt64) + siteData.siteId.toUInt64
    let rsValue := rsValue <<< (4 : UInt64) + siteData.channelId.toUInt64
    let rsValue := rsValue <<< (12 : UInt64) + siteData.channelNo.toUInt64
    (lc.lco ||| 0x40, rsValue <<< (8 : UInt64) + siteData.serviceClass.toUInt64)
  else (lc.lco, 0)

/-- `rsValue` split into the eight octets of `rs` from the second on. -/
def split (rsValue : UInt64) (rs : Bytes) : Bytes :=
  let rs := setByte rs 1 (rsValue >>> (56 : UInt64) &&& 0xFF).toUInt8
  let rs := setByte rs 2 (rsValue >>> (48 : UInt64) &&& 0xFF).toUInt8
  let rs := setByte rs 3 (rsValue >>> (40 : UInt64) &&& 0xFF).toUInt8
  let rs := setByte rs 4 (rsValue >>> (32 : UInt64) &&& 0xFF).toUInt8
  let rs := setByte rs 5 (rsValue >>> (24 : UInt64) &&& 0xFF).toUInt8
  let rs := setByte rs 6 (rsValue >>> (16 : UInt64) &&& 0xFF).toUInt8
  let rs := setByte rs 7 (rsValue >>> (8 : UInt64) &&& 0xFF).toUInt8
  setByte rs 8 (rsValue >>> (0 : UInt64) &&& 0xFF).toUInt8

/-- `encodeLC`. -/
def encodeLC (siteData : SiteData) (lc : LC) (rs : Bytes) : Bytes :=
  let value := opcodeValue siteData lc
  -- vendor opcodes replace the word
  let rsValue :=
    if lc.mfId = P25_MFG_MOT then if lc.lco = LC_TEL_INT_VCH_USER then lc.rsValue else 0 else value.2
  split rsValue (setByte rs 0 value.1)

/-! ## Hamming words of a logical link data unit -/

/-- `decodeLDUHamming`. -/
def decodeLDUHamming (data raw : Bytes) : Bytes :=
  writeBitRun raw 6 4 fun i => (Hamming.decode1063 (gather false 10 (fun j => 10 * i + j) (readBit data))).2

/-- `encodeLDUHamming`. -/
def encodeLDUHamming (data raw : Bytes) : Bytes :=
  writeBitRun data 10 4 fun i => Hamming.encode1063 (gather false 6 (fun j => 6 * i + j) (readBit raw))

/-- The six parts of link control in a frame: `start`, `stop` and the offset into `rs`. -/
def lduParts : List (Nat × Nat × Nat) :=
  [(410, 452, 0), (600, 640, 3), (788, 830, 6), (978, 1020, 9), (1168, 1208, 12), (1356, 1398, 15)]

/-- The lines of `decodeLDU1` and `decodeLDU2` that fill `rs`. -/
def decodeLDUParts (data : Bytes) : Bytes :=
  (lduParts.foldl (fun s part =>
    let raw := (P25Utils.decode data s.1 part.1 part.2.1).2
    (raw, onTail part.2.2 (decodeLDUHamming raw) s.2)) (fun _ => 0, fun _ => 0)).2

/-- The lines of `encodeLDU1` and `encodeLDU2` that lay `rs` into the frame. -/
def encodeLDUParts (rs data : Bytes) : Bytes :=
  (lduParts.foldl (fun s part =>
    let raw := encodeLDUHamming s.1 (fromByte part.2.2 rs)
    (raw, (P25Utils.encode raw s.2 part.1 part.2.1).2)) (fun _ => 0, data)).2

/-! ## Golay words of a header data unit -/

/-- The loop `for j < w { g = (g << 1) | (golay[j] ? 1 : 0); }` from 0. -/
def packWord (w : Nat) (golay : Bits) : Nat :=
  (List.range w).foldl (fun g j => g <<< 1 ||| (if golay j then 0x01 else 0x00)) 0

/-- The loop `for (j = w - 1; j >= 0; j--) { golay[j] = (v & 1) == 1; v >>= 1; }`. -/
def unpackWord : Nat → Nat → Bits → Bits
  | 0, _, golay => golay
  | w + 1, v, golay => unpackWord w (v >>> 1) fun j => if j = w then decide (v &&& 0x01 = 0x01) else golay j

/-- `decodeHDUGolay`. -/
def decodeHDUGolay (data raw : Bytes) : Option Bytes :=
  (List.range 36).foldlM (fun raw i => do
    let golay := gather false 18 (fun j => 18 * i + j) (readBit data)
    let g0 := packWord 18 golay
    let c0data ← Golay24128.decode24128 g0
    let golay := unpackWord 6 c0data.2 golay
    some ((List.range 6).foldl (fun raw j => writeBit raw (6 * i + j) (golay j)) raw)) raw

/-- `encodeHDUGolay`. -/
def encodeHDUGolay (data raw : Bytes) : Bytes :=
  writeBitRun data 18 36 fun i =>
    let golay := gather false 6 (fun j => 6 * i + j) (readBit raw)
    let c0data := packWord 6 golay
    let g0 := Golay24128.encode24128 c0data
    unpackWord 18 g0 golay

/-! ## Data units -/

/-- What `decodeHDU` and `decodeLDU2` do with the algorithm ID, the octets of the message indicator and the
    key ID. -/
def setEncryption (lc : LC) (algId : UInt8) (rs : Bytes) (kId : UInt32) : LC :=
  let lc := { lc with algId := algId }
  if lc.algId ≠ P25_ALGO_UNENCRYPT then
    let lc := { lc with mi := fun i => rs i, kId := kId }
    if !lc.encrypted then { lc with encryptOverride := true, encrypted := true } else lc
  else
    let lc := { lc with mi := fun _ => 0, kId := 0x0000 }
    if lc.encrypted then { lc with encryptOverride := true, encrypted := false } else lc

/-- The octets of the message indicator in an array of zeros. -/
def miOctets (lc : LC) : Bytes := fun k => if h : k < P25_MI_LENGTH_BYTES then lc.mi ⟨k, h⟩ else 0x00

/-- `decodeHDU`: whether it was decoded, and the new state. -/
def decodeHDU (errata : RS.Errata) (lc : LC) (data : Bytes) : Option (Bool × LC) := do
  let raw := (P25Utils.decode data (fun _ => 0) 114 780).2
  let rs ← decodeHDUGolay raw fun _ => 0
  match RS634717.decode362017 errata rs with
  | some (true, rs) =>
      let lc := { lc with mfId := rs 9 }
      let lc := lc.setEncryption (rs 10) rs ((rs 11).toUInt32 <<< (8 : UInt32) + (rs 12).toUInt32)
      let rsValue := (rs 12).toUInt64
      let rsValue := rsValue <<< (8 : UInt64) + (rs 13).toUInt64
      let rsValue := rsValue <<< (8 : UInt64) + (rs 14).toUInt64
      some (true, { lc with dstId := (rsValue &&& 0xFFFF).toUInt32 })
  | _ => some (false, lc)

/-- The octets of `encodeHDU` before the coding. -/
def hduOctets (lc : LC) : Bytes :=
  let rs := setByte lc.miOctets 9 lc.mfId
  let rs := setByte rs 10 lc.algId
  let rs := setByte rs 11 (lc.kId >>> (8 : UInt32) &&& 0xFF).toUInt8
  let rs := setByte rs 12 (lc.kId >>> (0 : UInt32) &&& 0xFF).toUInt8
  let rs := setByte rs 13 (lc.dstId >>> (8 : UInt32) &&& 0xFF).toUInt8
  setByte rs 14 (lc.dstId >>> (0 : UInt32) &&& 0xFF).toUInt8

/-- `encodeHDU`. -/
def encodeHDU (lc : LC) (data : Bytes) : Bytes :=
  let raw := encodeHDUGolay (fun _ => 0) (RS634717.encode362017 lc.hduOctets)
  (P25Utils.encode raw data 114 780).2

/-- `decodeLDU1`. -/
def decodeLDU1 (errata : RS.Errata) (lc : LC) (data : Bytes) : Bool × LC :=
  match RS634717.decode241213 errata (decodeLDUParts data) with
  | some (true, rs) => lc.decodeLC rs
  | _ => (false, lc)

/-- `encodeLDU1`. -/
def encodeLDU1 (siteData : SiteData) (lc : LC) (data : Bytes) : Bytes :=
  encodeLDUParts (RS634717.encode241213 (lc.encodeLC siteData fun _ => 0)) data

/-- `decodeLDU2`. -/
def decodeLDU2 (errata : RS.Errata) (lc : LC) (data : Bytes) : Bool × LC :=
  match RS634717.decode24169 errata (decodeLDUParts data) with
  | some (true, rs) =>
      (true, lc.setEncryption (rs 9) rs ((rs 10).toUInt32 <<< (8 : UInt32) + (rs 11).toUInt32))
  | _ => (false, lc)

/-- The octets of `encodeLDU2` before the coding. -/
def ldu2Octets (lc : LC) : Bytes :=
  let rs := setByte lc.miOctets 9 lc.algId
  let rs := setByte rs 10 (lc.kId >>> (8 : UInt32) &&& 0xFF).toUInt8
  setByte rs 11 (lc.kId >>> (0 : UInt32) &&& 0xFF).toUInt8

/-- `encodeLDU2`. -/
def encodeLDU2 (lc : LC) (data : Bytes) : Bytes := encodeLDUParts (RS634717.encode24169 lc.ldu2Octets) data

/-! ## Copying -/

/-- `copy`. The opcode is not on its list, and what it does with the algorithm ID is what the decoders do. -/
def copy (lc data : LC) : LC :=
  let lc := { lc with
    protect := data.protect
    mfId := data.mfId
    srcId := data.srcId
    dstId := data.dstId
    grpVchNo := data.grpVchNo
    explicitId := data.explicitId
    netId := data.netId
    sysId := data.sysId
    emergency := data.emergency
    encrypted := data.encrypted
    priority := data.priority
    group := data.group
    callTimer := data.callTimer
    rsValue := data.rsValue }
  lc.setEncryption data.algId data.miOctets data.kId

/-- `LC(const LC&)`. -/
def copyConstruct (data : LC) : LC := copy default data

end LC

end DvmHost

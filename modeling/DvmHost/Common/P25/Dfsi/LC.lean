import DvmHost.Common.P25.Data.LowSpeedData
import DvmHost.Common.P25.Lc.LC

/-!
# `Common.P25.Dfsi.LC` — link control in the voice frames of the network

`src/common/p25/dfsi/LC.cpp`. A logical link data unit travels in nine voice frames, each with the 88 bits of an IMBE
codeword and a part of the link control, the encryption or the low speed data. The octets of a frame that nothing is
written to are what stood on the stack.
-/

namespace DvmHost

namespace P25

/-! ## Constants -/

/-- `P25_RAW_IMBE_LENGTH_BYTES`. -/
abbrev P25_RAW_IMBE_LENGTH_BYTES : Nat := 11

/-- `P25_DFSI_LDU1_VOICE1` to `P25_DFSI_LDU1_VOICE9`. -/
def P25_DFSI_LDU1_VOICE (n : Fin 9) : UInt8 := 0x62 + UInt8.ofNat n.val

/-- `P25_DFSI_LDU2_VOICE10` to `P25_DFSI_LDU2_VOICE18`. -/
def P25_DFSI_LDU2_VOICE (n : Fin 9) : UInt8 := 0x6B + UInt8.ofNat n.val

/-- `P25_DFSI_LDU1_VOICE1_FRAME_LENGTH_BYTES` to `P25_DFSI_LDU1_VOICE9_FRAME_LENGTH_BYTES`; those of an LDU2 are the
    same. -/
def VOICE_FRAME_LENGTH_BYTES (n : Fin 9) : Nat := [22, 14, 17, 17, 17, 17, 17, 17, 16].get n

/-- Where the IMBE codeword of a frame is. -/
def VOICE_IMBE_OFFSET (n : Fin 9) : Nat := [10, 1, 5, 5, 5, 5, 5, 5, 4].get n

namespace Dfsi

/-- The members of `dfsi::LC`. -/
structure LC where
  frameType : UInt8
  rssi : UInt8
  control : DvmHost.LC
  lsd : LowSpeedData
  mi : Bytes

namespace LC

/-- `LC()`. The frame type is not set. -/
def default (frameType : UInt8) : LC where
  frameType := frameType
  rssi := 0
  control := .default
  lsd := {}
  mi := fun _ => 0x00

/-- `LC(control, lsd)`. The frame type is set before it is used. -/
def new (control : DvmHost.LC) (lsd : LowSpeedData) : LC where
  frameType := P25_DFSI_LDU1_VOICE 0
  rssi := 0
  control := .copyConstruct control
  lsd := lsd
  mi := fun _ => 0x00

/-! ## Decoding -/

/-- The three octets of an ID. -/
def id (data : Bytes) : UInt32 :=
  (data 1).toUInt32 <<< (16 : UInt32) ||| (data 2).toUInt32 <<< (8 : UInt32) ||| (data 3).toUInt32

/-- The 11 octets of the codeword, in the frame. -/
def codeword (n : Fin 9) (data imbe : Bytes) : Bytes :=
  memcpy imbe 0 (fromByte (VOICE_IMBE_OFFSET n) data) P25_RAW_IMBE_LENGTH_BYTES

/-- `decodeLDU1`: the codeword is laid over the octets of `imbe`. -/
def decodeLDU1 (lc : LC) (data imbe : Bytes) : Bool × LC × Bytes :=
  let lc := { lc with frameType := data 0 }
  if lc.frameType = P25_DFSI_LDU1_VOICE 0 then
    (true, { lc with control := .default, lsd := {}, rssi := data 6 }, codeword 0 data imbe)
  else if lc.frameType = P25_DFSI_LDU1_VOICE 1 then (true, lc, codeword 1 data imbe)
  else if lc.frameType = P25_DFSI_LDU1_VOICE 2 then
    let serviceOptions := data 3
    (true, { lc with control := { lc.control with
      lco := data 1
      mfId := data 2
      emergency := decide (serviceOptions &&& 0x80 = 0x80)
      encrypted := decide (serviceOptions &&& 0x40 = 0x40)
      priority := serviceOptions &&& 0x07 } }, codeword 2 data imbe)
  else if lc.frameType = P25_DFSI_LDU1_VOICE 3 then
    (true, { lc with control := { lc.control with dstId := id data } }, codeword 3 data imbe)
  else if lc.frameType = P25_DFSI_LDU1_VOICE 4 then
    (true, { lc with control := { lc.control with srcId := id data } }, codeword 4 data imbe)
  else if lc.frameType = P25_DFSI_LDU1_VOICE 5 then (true, lc, codeword 5 data imbe)
  else if lc.frameType = P25_DFSI_LDU1_VOICE 6 then (true, lc, codeword 6 data imbe)
  else if lc.frameType = P25_DFSI_LDU1_VOICE 7 then (true, lc, codeword 7 data imbe)
  else if lc.frameType = P25_DFSI_LDU1_VOICE 8 then
    (true, { lc with lsd := ⟨data 1, data 2⟩ }, codeword 8 data imbe)
  else (false, lc, imbe)

/-- Three octets of the message indicator. -/
def indicator (mi : Bytes) (at_ : Nat) (data : Bytes) : Bytes :=
  setByte (setByte (setByte mi at_ (data 1)) (at_ + 1) (data 2)) (at_ + 2) (data 3)

/-- `decodeLDU2`. -/
def decodeLDU2 (lc : LC) (data imbe : Bytes) : Bool × LC × Bytes :=
  let lc := { lc with frameType := data 0 }
  if lc.frameType = P25_DFSI_LDU2_VOICE 0 then
    (true, { lc with mi := fun _ => 0x00, lsd := {}, rssi := data 6 }, codeword 0 data imbe)
  else if lc.frameType = P25_DFSI_LDU2_VOICE 1 then (true, lc, codeword 1 data imbe)
  else if lc.frameType = P25_DFSI_LDU2_VOICE 2 then
    (true, { lc with mi := indicator lc.mi 0 data }, codeword 2 data imbe)
  else if lc.frameType = P25_DFSI_LDU2_VOICE 3 then
    (true, { lc with mi := indicator lc.mi 3 data }, codeword 3 data imbe)
  else if lc.frameType = P25_DFSI_LDU2_VOICE 4 then
    let mi := indicator lc.mi 6 data
    (true, { lc with mi := mi, control := { lc.control with mi := fun i => mi i } }, codeword 4 data imbe)
  else if lc.frameType = P25_DFSI_LDU2_VOICE 5 then
    (true, { lc with control := { lc.control with
      algId := data 1
      kId := (data 2).toUInt32 <<< (8 : UInt32) ||| (data 3).toUInt32 } }, codeword 5 data imbe)
  else if lc.frameType = P25_DFSI_LDU2_VOICE 6 then (true, lc, codeword 6 data imbe)
  else if lc.frameType = P25_DFSI_LDU2_VOICE 7 then (true, lc, codeword 7 data imbe)
  else if lc.frameType = P25_DFSI_LDU2_VOICE 8 then
    (true, { lc with lsd := ⟨data 1, data 2⟩ }, codeword 8 data imbe)
  else (false, lc, imbe)

/-! ## Encoding -/

/-- The octets of `encodeLDU1` before the coding. -/
def ldu1Octets (control : DvmHost.LC) : Bytes :=
  let serviceOptions : UInt8 :=
    (if control.emergency then 0x80 else 0x00) + (if control.encrypted then 0x40 else 0x00) + (control.priority &&& 0x07)
  let rs : Bytes := fun _ => 0x00
  let rs := setByte rs 0 control.lco
  let rs := setByte rs 1 control.mfId
  let rs := setByte rs 2 serviceOptions
  let rs := setByte rs 3 (control.dstId >>> (16 : UInt32) &&& 0xFF).toUInt8
  let rs := setByte rs 4 (control.dstId >>> (8 : UInt32) &&& 0xFF).toUInt8
  let rs := setByte rs 5 (control.dstId >>> (0 : UInt32) &&& 0xFF).toUInt8
  let rs := setByte rs 6 (control.srcId >>> (16 : UInt32) &&& 0xFF).toUInt8
  let rs := setByte rs 7 (control.srcId >>> (8 : UInt32) &&& 0xFF).toUInt8
  setByte rs 8 (control.srcId >>> (0 : UInt32) &&& 0xFF).toUInt8

/-- Three octets of `rs`, in the frame. -/
def layOctets (rs : Bytes) (at_ : Nat) (dfsiFrame : Bytes) : Bytes :=
  setByte (setByte (setByte dfsiFrame 1 (rs at_)) 2 (rs (at_ + 1))) 3 (rs (at_ + 2))

/-- The two `switch`es of an encoder, which differ in the frame types alone. `dfsiFrame` begins as what stood on the
    stack, and nothing is written for any other frame type. -/
def encodeFrame (voice : Fin 9 → UInt8) (rs : Bytes) (lc : LC) (stack data imbe : Bytes) : Bytes :=
  match (List.finRange 9).find? fun n => lc.frameType = voice n with
  | none => data
  | some n =>
      let dfsiFrame := setByte stack 0 lc.frameType
      let dfsiFrame :=
        if n = 1 then dfsiFrame
        else if n = 2 then layOctets rs 0 dfsiFrame
        else if n = 3 then layOctets rs 3 dfsiFrame
        else if n = 4 then layOctets rs 6 dfsiFrame
        else if n = 5 then layOctets rs 9 dfsiFrame
        else if n = 6 then layOctets rs 12 dfsiFrame
        else if n = 7 then layOctets rs 15 dfsiFrame
        else if n = 8 then setByte (setByte dfsiFrame 1 lc.lsd.lsd1) 2 lc.lsd.lsd2
        else setByte dfsiFrame 6 lc.rssi
      let dfsiFrame := memcpy dfsiFrame (VOICE_IMBE_OFFSET n) imbe P25_RAW_IMBE_LENGTH_BYTES
      memcpy data 0 dfsiFrame (VOICE_FRAME_LENGTH_BYTES n)

/-- `encodeLDU1`. -/
def encodeLDU1 (lc : LC) (stack data imbe : Bytes) : Bytes :=
  encodeFrame P25_DFSI_LDU1_VOICE (RS634717.encode241213 (ldu1Octets lc.control)) lc stack data imbe

/-- `encodeLDU2`. Its octets before the coding are those of the encoder for the air. -/
def encodeLDU2 (lc : LC) (stack data imbe : Bytes) : Bytes :=
  encodeFrame P25_DFSI_LDU2_VOICE (RS634717.encode24169 lc.control.ldu2Octets) lc stack data imbe

end LC

end Dfsi

end P25

end DvmHost

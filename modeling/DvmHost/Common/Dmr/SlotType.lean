import DvmHost.Common.Edac.Golay2087

/-!
# `Common.Dmr.SlotType` — the slot type of a DMR burst

`src/common/dmr/SlotType.cpp`. The twenty bits of the word stand on both sides of the middle of a burst, ten on each.
-/

namespace DvmHost

namespace Dmr

/-- The members of `SlotType`. -/
structure SlotType where
  colorCode : UInt8 := 0
  dataType : UInt8 := 0
deriving DecidableEq

namespace SlotType

/-- The lines of `decode` that fill `DMRSlotType`. -/
def gather (data : Bytes) : Bytes :=
  let DMRSlotType := setByte (fun _ => 0) 0 (data 12 <<< (2 : UInt8) &&& 0xFC)
  let DMRSlotType := setByte DMRSlotType 0 (DMRSlotType 0 ||| data 13 >>> (6 : UInt8) &&& 0x03)
  let DMRSlotType := setByte DMRSlotType 1 (data 13 <<< (2 : UInt8) &&& 0xC0)
  let DMRSlotType := setByte DMRSlotType 1 (DMRSlotType 1 ||| data 19 <<< (2 : UInt8) &&& 0x3C)
  let DMRSlotType := setByte DMRSlotType 1 (DMRSlotType 1 ||| data 20 >>> (6 : UInt8) &&& 0x03)
  setByte DMRSlotType 2 (data 20 <<< (2 : UInt8) &&& 0xF0)

/-- `decode`. -/
def decode (data : Bytes) : Option SlotType := do
  let code ← Golay2087.decode (gather data)
  some { colorCode := code >>> (4 : UInt8) &&& 0x0F, dataType := code >>> (0 : UInt8) &&& 0x0F }

/-- The lines of `encode` that make `DMRSlotType`. -/
def word (s : SlotType) : Bytes :=
  let DMRSlotType := setByte (fun _ => 0) 0 (s.colorCode <<< (4 : UInt8) &&& 0xF0)
  let DMRSlotType := setByte DMRSlotType 0 (DMRSlotType 0 ||| s.dataType <<< (0 : UInt8) &&& 0x0F)
  let DMRSlotType := setByte DMRSlotType 1 0x00
  let DMRSlotType := setByte DMRSlotType 2 0x00
  Golay2087.encode DMRSlotType

/-- `encode`. -/
def encode (s : SlotType) (data : Bytes) : Bytes :=
  let DMRSlotType := s.word
  let data := setByte data 12 (data 12 &&& 0xC0 ||| DMRSlotType 0 >>> (2 : UInt8) &&& 0x3F)
  let data := setByte data 13 (data 13 &&& 0x0F ||| DMRSlotType 0 <<< (6 : UInt8) &&& 0xC0 |||
    DMRSlotType 1 >>> (2 : UInt8) &&& 0x30)
  let data := setByte data 19 (data 19 &&& 0xF0 ||| DMRSlotType 1 >>> (2 : UInt8) &&& 0x0F)
  setByte data 20 (data 20 &&& 0x03 ||| DMRSlotType 1 <<< (6 : UInt8) &&& 0xC0 |||
    DMRSlotType 2 >>> (2 : UInt8) &&& 0x3C)

end SlotType

end Dmr

end DvmHost

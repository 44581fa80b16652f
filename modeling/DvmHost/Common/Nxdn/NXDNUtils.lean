import DvmHost.Common.Utils

/-!
# `Common.Nxdn.NXDNUtils` — the sync and the scrambler of NXDN frames

`Sync::addNXDNSync` of `src/common/nxdn/Sync.cpp` and `NXDNUtils::scrambler` of `src/common/nxdn/NXDNUtils.cpp`.
-/

namespace DvmHost.Nxdn

/-- `NXDN_FRAME_LENGTH_BYTES`. -/
def NXDN_FRAME_LENGTH_BYTES : Nat := 48

/-- `NXDN_FSW_BYTES`. -/
def NXDN_FSW_BYTES : List UInt8 := [0xCD, 0xF5, 0x90]

/-- `NXDN_FSW_BYTES_MASK`. -/
def NXDN_FSW_BYTES_MASK : List UInt8 := [0xFF, 0xFF, 0xF0]

/-- `NXDN_FSW_BYTES_LENGTH`. -/
def NXDN_FSW_BYTES_LENGTH : Nat := 3

/-- `SCRAMBLER`. -/
def SCRAMBLER : List UInt8 := [
  0x00, 0x00, 0x00, 0x82, 0xA0, 0x88, 0x8A, 0x00, 0xA2, 0xA8, 0x82, 0x8A, 0x82, 0x02,
  0x20, 0x08, 0x8A, 0x20, 0xAA, 0xA2, 0x82, 0x08, 0x22, 0x8A, 0xAA, 0x08, 0x28, 0x88,
  0x28, 0x28, 0x00, 0x0A, 0x02, 0x82, 0x20, 0x28, 0x82, 0x2A, 0xAA, 0x20, 0x22, 0x80,
  0xA8, 0x8A, 0x08, 0xA0, 0xAA, 0x02]

/-- `Sync::addNXDNSync`. -/
def addNXDNSync (data : Bytes) : Bytes :=
  (List.range NXDN_FSW_BYTES_LENGTH).foldl (fun data i =>
    setByte data i (data i &&& ~~~(NXDN_FSW_BYTES_MASK.getD i 0) ||| NXDN_FSW_BYTES.getD i 0)) data

/-- `NXDNUtils::scrambler`. -/
def scrambler (data : Bytes) : Bytes :=
  (List.range NXDN_FRAME_LENGTH_BYTES).foldl (fun data i => setByte data i (data i ^^^ SCRAMBLER.getD i 0)) data

end DvmHost.Nxdn

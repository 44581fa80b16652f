import DvmHost.Common.Edac.BPTC19696
import DvmHost.Common.Edac.CRC
import DvmHost.Common.Edac.RS129
import DvmHost.Common.Dmr.Lc.LC
import DvmHost.Common.Dmr.Lc.PrivacyLC

/-!
# `Common.Dmr.Lc.FullLC` — link control in a burst of its own

`src/common/dmr/lc/FullLC.cpp`. A voice header and a terminator carry a link control under the Reed-Solomon (12,9) code,
whose three parity octets are masked by the type of the burst; a privacy header carries ten octets under a masked
CRC-CCITT. `m_bptc` holds nothing between two calls.
-/

namespace DvmHost

namespace Dmr

/-- `DT_VOICE_LC_HEADER`. -/
def DT_VOICE_LC_HEADER : UInt8 := 0x01

/-- `DT_TERMINATOR_WITH_LC`. -/
def DT_TERMINATOR_WITH_LC : UInt8 := 0x02

/-- `VOICE_LC_HEADER_CRC_MASK`. -/
def VOICE_LC_HEADER_CRC_MASK : Bytes := fun i => [0x96, 0x96, 0x96].getD i 0

/-- `TERMINATOR_WITH_LC_CRC_MASK`. -/
def TERMINATOR_WITH_LC_CRC_MASK : Bytes := fun i => [0x99, 0x99, 0x99].getD i 0

/-- `PI_HEADER_CRC_MASK`. -/
def PI_HEADER_CRC_MASK : Bytes := fun i => [0x69, 0x69].getD i 0

namespace FullLC

/-- The mask that the `switch` of `decode` and `encode` takes; none for an unsupported type. -/
def crcMask (type : UInt8) : Option Bytes :=
  if type = DT_VOICE_LC_HEADER then some VOICE_LC_HEADER_CRC_MASK
  else if type = DT_TERMINATOR_WITH_LC then some TERMINATOR_WITH_LC_CRC_MASK
  else none

/-- The three octets of parity with the mask added. -/
def unmask (mask lcData : Bytes) : Bytes :=
  let lcData := setByte lcData 9 (lcData 9 ^^^ mask 0)
  let lcData := setByte lcData 10 (lcData 10 ^^^ mask 1)
  setByte lcData 11 (lcData 11 ^^^ mask 2)

/-- `decode`. The twelve octets of `lcData` are all written by the product code. -/
def decode (data : Bytes) (type : UInt8) : Option LC :=
  let lcData := BPTC19696.decode data fun _ => 0
  match crcMask type with
  | none => none
  | some mask =>
      let lcData := unmask mask lcData
      if RS129.check lcData then some (LC.ofData lcData) else none

/-- The parity that `encode` adds, masked. -/
def addParity (mask lcData : Bytes) : Bytes :=
  let parity := RS129.encode lcData 9 fun _ => 0
  let lcData := setByte lcData 9 (parity 2 ^^^ mask 0)
  let lcData := setByte lcData 10 (parity 1 ^^^ mask 1)
  setByte lcData 11 (parity 0 ^^^ mask 2)

/-- `encode`; a burst of an unsupported type stays as it was. -/
def encode (lc : LC) (data : Bytes) (type : UInt8) : Bytes :=
  match crcMask type with
  | none => data
  | some mask => BPTC19696.encode (addParity mask lc.getData) data

/-- The two octets of the CRC with the mask of a privacy header added. -/
def maskPI (lcData : Bytes) : Bytes :=
  let lcData := setByte lcData 10 (lcData 10 ^^^ PI_HEADER_CRC_MASK 0)
  setByte lcData 11 (lcData 11 ^^^ PI_HEADER_CRC_MASK 1)

/-- `decodePI`: a CRC with a zero octet is not checked. -/
def decodePI (data : Bytes) : Option PrivacyLC :=
  let lcData := BPTC19696.decode data fun _ => 0
  if lcData 10 ≠ 0x00 ∧ lcData 11 ≠ 0x00 then
    let lcData := maskPI lcData
    if !CRC.checkCCITT162 lcData 12 then none else some (PrivacyLC.ofData (maskPI lcData))
  else some (PrivacyLC.ofData lcData)

/-- `encodePI`. The CRC octets of `lcData` are not set before the mask is added to them, but `addCCITT162` sets them. -/
def encodePI (lc : PrivacyLC) (lcData data : Bytes) : Bytes :=
  let lcData := lc.getData lcData
  BPTC19696.encode (maskPI (CRC.addCCITT162 (maskPI lcData) 12)) data

end FullLC

end Dmr

end DvmHost

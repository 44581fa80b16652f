import DvmHost.Common.Utils

/-!
# `Common.Dmr.Lc.PrivacyLC` — DMR privacy control

`src/common/dmr/lc/PrivacyLC.cpp`: the ten octets of a privacy header, with the message indicator.
-/

namespace DvmHost

namespace Dmr

/-- The members of `PrivacyLC`; `mi` is the array of `DMR_MI_LENGTH_BYTES`. -/
structure PrivacyLC where
  FID : UInt8
  dstId : UInt32
  group : Bool
  algId : UInt8
  kId : UInt8
  mi : List UInt8
deriving DecidableEq, Repr

namespace PrivacyLC

/-- `PrivacyLC(const uint8_t* data)`. -/
def ofData (data : Bytes) : PrivacyLC where
  FID := data 1
  dstId := word24 (data 7) (data 8) (data 9)
  group := decide (data 0 &&& 0x20 = 0x20)
  algId := data 0 &&& 7
  kId := data 2
  mi := [data 3, data 4, data 5, data 6]

/-- `getData`, into the octets `data`. -/
def getData (lc : PrivacyLC) (data : Bytes) : Bytes :=
  let data := setByte data 0 ((if lc.group then 0x20 else 0x00) + (lc.algId &&& 0x07))
  let data := setByte data 1 lc.FID
  let data := setByte data 2 lc.kId
  let data := setByte data 3 (lc.mi.getD 0 0)
  let data := setByte data 4 (lc.mi.getD 1 0)
  let data := setByte data 5 (lc.mi.getD 2 0)
  let data := setByte data 6 (lc.mi.getD 3 0)
  let data := setByte data 7 (lc.dstId >>> (16 : UInt32)).toUInt8
  let data := setByte data 8 (lc.dstId >>> (8 : UInt32)).toUInt8
  setByte data 9 (lc.dstId >>> (0 : UInt32)).toUInt8

end PrivacyLC

end Dmr

end DvmHost

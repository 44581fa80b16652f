import DvmHost.Common.Edac.QR1676

/-!
# `Common.Dmr.Data.EMB` — the embedded signalling word of a DMR burst

`src/common/dmr/data/EMB.cpp`. The word of 16 bits stands in the four half octets around the 32 bits that
`EmbeddedData` uses, and leaves those alone (`readBit_encode`). `decode` calls `QR1676::decode` on the word and drops
what that returns, so nothing is corrected.
-/

namespace DvmHost

namespace Dmr

/-- The members of `EMB`. -/
structure EMB where
  colorCode : UInt8 := 0
  PI : Bool := false
  LCSS : UInt8 := 0
deriving DecidableEq

namespace EMB

/-- The lines of `decode` that fill `DMREMB`, which `QR1676::decode` is called on. -/
def gather (data : Bytes) : UInt8 × UInt8 :=
  ((data 13 <<< (4 : UInt8) &&& 0xF0) ||| (data 14 >>> (4 : UInt8) &&& 0x0F),
    (data 18 <<< (4 : UInt8) &&& 0xF0) ||| (data 19 >>> (4 : UInt8) &&& 0x0F))

/-- `decode`. -/
def decode (data : Bytes) : EMB :=
  let DMREMB := (data 13 <<< (4 : UInt8) &&& 0xF0) ||| (data 14 >>> (4 : UInt8) &&& 0x0F)
  { colorCode := DMREMB >>> (4 : UInt8) &&& 0x0F
    PI := decide (DMREMB &&& 0x08 = 0x08)
    LCSS := DMREMB >>> (1 : UInt8) &&& 0x03 }

/-- `encode`. -/
def encode (emb : EMB) (data : Bytes) : Bytes :=
  let DMREMB := (emb.colorCode <<< (4 : UInt8) &&& 0xF0) ||| (if emb.PI then 0x08 else 0x00) |||
    (emb.LCSS <<< (1 : UInt8) &&& 0x06)
  let DMREMB := QR1676.encode DMREMB
  let data := setByte data 13 (data 13 &&& 0xF0 ||| DMREMB.1 >>> (4 : UInt8) &&& 0x0F)
  let data := setByte data 14 (data 14 &&& 0x0F ||| DMREMB.1 <<< (4 : UInt8) &&& 0xF0)
  let data := setByte data 18 (data 18 &&& 0xF0 ||| DMREMB.2 >>> (4 : UInt8) &&& 0x0F)
  setByte data 19 (data 19 &&& 0x0F ||| DMREMB.2 <<< (4 : UInt8) &&& 0xF0)

end EMB

end Dmr

end DvmHost

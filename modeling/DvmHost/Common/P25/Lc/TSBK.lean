import DvmHost.Common.Edac.CRC
import DvmHost.Common.Edac.Trellis
import DvmHost.Common.P25.P25Utils

/-!
# `Common.P25.Lc.TSBK` — P25 trunking signalling blocks

`src/common/p25/lc/TSBK.cpp`: twelve octets, of which two are a CRC-CCITT and eight the `payload` of the derived class,
raw or under the rate 1/2 trellis of a data unit.
-/

namespace DvmHost

namespace P25

/-- `P25_TSBK_LENGTH_BYTES`. -/
abbrev P25_TSBK_LENGTH_BYTES : Nat := 12

/-- `P25_TSBK_FEC_LENGTH_BYTES`. -/
abbrev P25_TSBK_FEC_LENGTH_BYTES : Nat := 25

/-- The members of `TSBK` that its own `decode` and `encode` use, with the source ID of `AMBT::encode`. -/
structure TSBK where
  lco : UInt8
  mfId : UInt8
  lastBlock : Bool
  srcId : UInt32

namespace TSBK

/-- The lines of `decode` behind its two branches: the object, and the payload for the derived class. -/
def readOctets (t : TSBK) (tsbk payload : Bytes) : TSBK × Bytes :=
  ({ t with lco := tsbk 0 &&& 0x3F, lastBlock := decide (tsbk 0 &&& 0x80 = 0x80), mfId := tsbk 1 },
    memcpy payload 0 (fun i => tsbk (2 + i)) (P25_TSBK_LENGTH_BYTES - 4))

/-- `decode`, whose static member `m_warnCRC` is an argument. The 196 bits of `raw` that the trellis reads are all
    written. -/
def decode (t : TSBK) (warnCRC : Bool) (data payload : Bytes) (rawTSBK : Bool) : Bool × TSBK × Bytes :=
  let tsbk : Bytes := fun _ => 0x00
  if rawTSBK then
    -- the outcome of the check goes to the log and into a variable that is not read again
    (true, t.readOctets (memcpy tsbk 0 data P25_TSBK_LENGTH_BYTES) payload)
  else
    let raw := (P25Utils.decode data (fun _ => 0x00) 114 318).2
    match Trellis.decode12 raw tsbk with
    | none => (false, t, payload)
    | some tsbk =>
        if !CRC.checkCCITT162 tsbk P25_TSBK_LENGTH_BYTES && !warnCRC then (false, t, payload)
        else (true, t.readOctets tsbk payload)

/-- `encode`, of the payload of the derived class. -/
def encode (t : TSBK) (data payload : Bytes) (rawTSBK noTrellis : Bool) : Bytes :=
  let tsbk := memcpy (fun _ => 0x00) 2 payload (P25_TSBK_LENGTH_BYTES - 4)
  let tsbk := setByte tsbk 0 t.lco
  let tsbk := setByte tsbk 0 (tsbk 0 ||| if t.lastBlock then 0x80 else 0x00)
  let tsbk := setByte tsbk 1 t.mfId
  let tsbk := CRC.addCCITT162 tsbk P25_TSBK_LENGTH_BYTES
  let raw := Trellis.encode12 tsbk fun _ => 0x00
  if rawTSBK then
    if noTrellis then memcpy data 0 tsbk P25_TSBK_LENGTH_BYTES else memcpy data 0 raw P25_TSBK_FEC_LENGTH_BYTES
  else (P25Utils.encode raw data 114 318).2

end TSBK

end P25

end DvmHost

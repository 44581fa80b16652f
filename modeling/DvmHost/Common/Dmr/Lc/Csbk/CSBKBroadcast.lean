import DvmHost.Common.Dmr.Lc.Csbk.CSBKClasses

/-!
# `Common.Dmr.Lc.Csbk.CSBKBroadcast` — the announcements of a trunking site

`src/common/dmr/lc/csbk/CSBK_BROADCAST.{h,cpp}`, and of `src/common/dmr/SiteData.h` what it reads. The object is only ever
sent: its `decode` is a stub. The two floats that an announcement of a channel reads, the spacing and the transmit
offset of the band plan, come as the whole numbers of Hz that they stand for.
-/

namespace DvmHost

namespace Dmr

/-! ## Constants -/

/-- `CSBKO_BROADCAST`. -/
def CSBKO_BROADCAST : UInt8 := 0x28

/-- `BCAST_ANNC_ANN_WD_TSCC`. -/
def BCAST_ANNC_ANN_WD_TSCC : UInt8 := 0x00

/-- `BCAST_ANNC_CHAN_FREQ`. -/
def BCAST_ANNC_CHAN_FREQ : UInt8 := 0x05

/-- `BCAST_ANNC_SITE_PARMS`. -/
def BCAST_ANNC_SITE_PARMS : UInt8 := 0x07

/-- `SITE_MODEL_TINY`. -/
def SITE_MODEL_TINY : UInt8 := 0x00

/-- `SITE_MODEL_SMALL`. -/
def SITE_MODEL_SMALL : UInt8 := 0x01

/-- `SITE_MODEL_LARGE`. -/
def SITE_MODEL_LARGE : UInt8 := 0x02

/-- `SITE_MODEL_HUGE`. -/
def SITE_MODEL_HUGE : UInt8 := 0x03

/-! ## The site -/

/-- The members of `dmr::SiteData` that an announcement reads. -/
structure SiteData where
  siteModel : UInt8
  netId : UInt16
  siteId : UInt16
  parId : UInt8
  requireReg : Bool
deriving DecidableEq, Repr

namespace SiteData

/-- `SiteData()`. -/
def new : SiteData where
  siteModel := SITE_MODEL_SMALL
  netId := 1
  siteId := 1
  parId := 3
  requireReg := false

/-- `systemIdentity(msb)`: the model of the site shares twelve bits out to the network and the site. -/
def systemIdentity (s : SiteData) (msb : Bool) : UInt32 :=
  let value := s.siteModel.toUInt32
  let value :=
    if s.siteModel = SITE_MODEL_TINY then
      let value := value <<< (9 : UInt32) + (s.netId &&& 0x1FF).toUInt32
      value <<< (3 : UInt32) + (s.siteId &&& 0x07).toUInt32
    else if s.siteModel = SITE_MODEL_SMALL then
      let value := value <<< (7 : UInt32) + (s.netId &&& 0x7F).toUInt32
      value <<< (5 : UInt32) + (s.siteId &&& 0x1F).toUInt32
    else if s.siteModel = SITE_MODEL_LARGE then
      let value := value <<< (5 : UInt32) + (s.netId &&& 0x1F).toUInt32
      value <<< (7 : UInt32) + (s.siteId &&& 0x7F).toUInt32
    else if s.siteModel = SITE_MODEL_HUGE then
      let value := value <<< (2 : UInt32) + (s.netId &&& 0x03).toUInt32
      value <<< (10 : UInt32) + (s.siteId &&& 0x3FF).toUInt32
    else value
  let value := if !msb then value <<< (2 : UInt32) + (s.parId &&& 0x03).toUInt32 else value
  value &&& 0xFFFF

end SiteData

/-! ## The object -/

/-- The members of `CSBK_BROADCAST`. -/
structure CSBK_BROADCAST extends CSBK where
  anncType : UInt8
  hibernating : Bool
  annWdCh1 : Bool
  annWdCh2 : Bool
  backoffNo : UInt8
deriving DecidableEq, Repr

namespace CSBK_BROADCAST

/-- `CSBK_BROADCAST()`. -/
def new : CSBK_BROADCAST :=
  { CSBK.new with
    CSBKO := CSBKO_BROADCAST
    anncType := BCAST_ANNC_SITE_PARMS
    hibernating := false
    annWdCh1 := false
    annWdCh2 := false
    backoffNo := 1 }

/-! ## The frequencies of a channel -/

section Frequencies

variable (chSpaceHz : Nat) (txOffsetHz : Int) (c : CSBK_BROADCAST)

/-- `calcSpace`: `chSpaceKhz() / 0.125`, cut to whole steps of 125 Hz. -/
def calcSpace : UInt32 := UInt32.ofNat (chSpaceHz / 125)

/-- `txFrequency`, of the logical channel in the band plan. -/
def txFrequency : UInt32 :=
  c.siteIdenEntry.baseFrequency + calcSpace chSpaceHz * 125 * c.logicalCh1.toUInt32

/-- The sum that is converted to `rxFrequency`. -/
def rxSum : Int := (txFrequency chSpaceHz c).toNat + txOffsetHz

/-- `rxFrequency`. The conversion of a sum that is no `uint32_t` is not defined. -/
def rxFrequency : UInt32 := UInt32.ofNat (rxSum chSpaceHz txOffsetHz c).toNat

end Frequencies

/-- `multiple`. -/
def multiple : UInt32 := 100000

/-- `rxFreqMhz` and `txFreqMhz`: the frequency is rounded to a multiple before it is cut. -/
def freqMhz (frequency : UInt32) : UInt32 :=
  let freqMhz := frequency + multiple / 2
  let freqMhz := freqMhz - freqMhz % multiple
  freqMhz / (multiple * 10)

/-- `rxFreqKhz` and `txFreqKhz`. -/
def freqKhz (frequency : UInt32) : UInt32 := frequency - freqMhz frequency * 1000000

/-! ## The word -/

/-- The announcement of `BCAST_ANNC_ANN_WD_TSCC`. -/
def annWdTscc (siteData : SiteData) (c : CSBK_BROADCAST) (csbkValue : UInt64) : UInt64 :=
  let csbkValue := csbkValue <<< (4 : UInt64) + 0
  let csbkValue := csbkValue <<< (4 : UInt64) + (c.colorCode &&& 0x0F).toUInt64
  let csbkValue := csbkValue <<< (4 : UInt64) + (c.colorCode &&& 0x0F).toUInt64
  let csbkValue := csbkValue <<< (1 : UInt64) + if c.annWdCh1 then 1 else 0
  let csbkValue := csbkValue <<< (1 : UInt64) + if c.annWdCh2 then 1 else 0
  let csbkValue := csbkValue <<< (1 : UInt64) + if siteData.requireReg then 1 else 0
  let csbkValue := csbkValue <<< (4 : UInt64) + (c.backoffNo &&& 0x0F).toUInt64
  let csbkValue := csbkValue <<< (16 : UInt64) + (siteData.systemIdentity false).toUInt64
  let csbkValue := csbkValue <<< (12 : UInt64) + (c.logicalCh1 &&& 0xFFF).toUInt64
  csbkValue <<< (12 : UInt64) + (c.logicalCh2 &&& 0xFFF).toUInt64

/-- The announcement of `BCAST_ANNC_CHAN_FREQ`: it begins with a word of its own. -/
def chanFreq (chSpaceHz : Nat) (txOffsetHz : Int) (c : CSBK_BROADCAST) : UInt64 :=
  let rx := rxFrequency chSpaceHz txOffsetHz c
  let tx := txFrequency chSpaceHz c
  let csbkValue : UInt64 := 0
  let csbkValue := csbkValue <<< (2 : UInt64) + 0
  let csbkValue := csbkValue <<< (12 : UInt64) + (c.logicalCh1 &&& 0xFFF).toUInt64
  let csbkValue := csbkValue <<< (10 : UInt64) + (freqMhz tx &&& 0x7FF).toUInt64
  let csbkValue := csbkValue <<< (13 : UInt64) + (freqKhz tx &&& 0x3FFF).toUInt64
  let csbkValue := csbkValue <<< (10 : UInt64) + (freqMhz rx &&& 0x7FF).toUInt64
  csbkValue <<< (13 : UInt64) + (freqKhz rx &&& 0x3FFF).toUInt64

/-- The announcement of `BCAST_ANNC_SITE_PARMS`. -/
def siteParms (siteData : SiteData) (c : CSBK_BROADCAST) (csbkValue : UInt64) : UInt64 :=
  let csbkValue := csbkValue <<< (14 : UInt64) + (siteData.systemIdentity true).toUInt64
  let csbkValue := csbkValue <<< (1 : UInt64) + if siteData.requireReg then 1 else 0
  let csbkValue := csbkValue <<< (4 : UInt64) + (c.backoffNo &&& 0x0F).toUInt64
  let csbkValue := csbkValue <<< (16 : UInt64) + (siteData.systemIdentity false).toUInt64
  let csbkValue := csbkValue <<< (1 : UInt64) + 0
  let csbkValue := csbkValue <<< (1 : UInt64) + if c.hibernating then 1 else 0
  csbkValue <<< (22 : UInt64) + 0

/-- The word that `encode` makes. -/
def encodeValue (siteData : SiteData) (chSpaceHz : Nat) (txOffsetHz : Int) (c : CSBK_BROADCAST) : UInt64 :=
  let csbkValue : UInt64 := if !c.Cdef then c.anncType.toUInt64 else 0
  if c.anncType = BCAST_ANNC_ANN_WD_TSCC then annWdTscc siteData c csbkValue
  else if c.anncType = BCAST_ANNC_CHAN_FREQ then chanFreq chSpaceHz txOffsetHz c
  else if c.anncType = BCAST_ANNC_SITE_PARMS then siteParms siteData c csbkValue
  else csbkValue

/-- `encode`; `siteData` is a static member. -/
def encode (siteData : SiteData) (chSpaceHz : Nat) (txOffsetHz : Int) (c : CSBK_BROADCAST) (data : Bytes) : Bytes :=
  c.toCSBK.encode data (CSBK.fromValue (c.encodeValue siteData chSpaceHz txOffsetHz))

end CSBK_BROADCAST

end Dmr

end DvmHost

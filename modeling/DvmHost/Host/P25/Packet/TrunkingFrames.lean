import DvmHost.Common.P25.Lc.LC
import DvmHost.Common.P25.Lc.TSBK
import DvmHost.Common.P25.NID

/-!
# `Host.P25.Packet.TrunkingFrames` — the data units that carry trunking messages

The end of `src/host/p25/packet/ControlSignaling.cpp` that leads to the air: the three functions that build a data unit
with one message, the one that collects three (`writeRF_TSDU_MBF`), and the broadcasts of a control channel
(`queueRF_TSBK_Ctrl`, `writeRF_ControlData`).

What is passed to `addFrame` is entered in `added`, and so is what clears the queue in front of it; the messages that
`writeRF_TSDU_MBF` is called with are entered in `handed`. The copies for the
network are left out, and the terminators of conventional fallback. A message is what its `encode` hands on to
`TSBK::encode`; what the classes of the broadcasts make of the tables of the site is a parameter.
-/

namespace DvmHost

namespace P25

/-! ## Constants -/

/-- `P25_SYNC_LENGTH_BYTES`. -/
def P25_SYNC_LENGTH_BYTES : Nat := 6

/-- `P25_SYNC_BYTES`. -/
def P25_SYNC_BYTES : Bytes := fun i => [0x55, 0x75, 0xF5, 0xFF, 0x77, 0xFF].getD i 0

/-- `P25_TSDU_FRAME_LENGTH_BYTES`. -/
def P25_TSDU_FRAME_LENGTH_BYTES : Nat := 45

/-- `P25_TSDU_FRAME_LENGTH_BITS`. -/
def P25_TSDU_FRAME_LENGTH_BITS : Nat := 360

/-- `P25_TSDU_TRIPLE_FRAME_LENGTH_BITS`. -/
def P25_TSDU_TRIPLE_FRAME_LENGTH_BITS : Nat := 720

/-- `P25_TSBK_FEC_LENGTH_BITS`. -/
def P25_TSBK_FEC_LENGTH_BITS : Nat := 196

/-- `TSBK_MBF_CNT`. -/
def TSBK_MBF_CNT : Nat := 3

/-- `P25_CFVA_NETWORK`, `P25_CFVA_VALID` and `P25_CFVA_FAILURE`, as they are combined for a neighbour. -/
def cfvaOf (updates : UInt8) : UInt8 := 0x01 ||| if updates = 0 then 0x04 else 0x02

/-- `Sync::addP25Sync`. -/
def addP25Sync (data : Bytes) : Bytes := memcpy data 0 P25_SYNC_BYTES P25_SYNC_LENGTH_BYTES

/-! ## Messages -/

/-- A message: what its class hands on to `TSBK::encode`, if anything. -/
structure TSBKBlock where
  tsbk : TSBK
  payload : Option Bytes

/-- `setLastBlock`, and `encode` into a buffer. -/
def TSBKBlock.encode (b : TSBKBlock) (lastBlock : Bool) (data : Bytes) (rawTSBK : Bool) : Bytes :=
  match b.payload with
  | none => data
  | some payload => { b.tsbk with lastBlock }.encode data payload rawTSBK false

/-! ## Data units with one message -/

variable (nid : NID)

/-- The lines of `writeRF_TSDU_SBF` that build the frame. -/
def rfTsduSbf (b : TSBKBlock) : Bytes :=
  let data := addP25Sync fun _ => 0x00
  let data := nid.encode data P25_DUID_TSDU
  let data := b.encode true data false
  let data := P25Utils.addBusyBits data P25_TSDU_FRAME_LENGTH_BITS true false
  P25Utils.setBusyBits data P25Utils.P25_SS0_START true true

/-- The lines of `writeNet_TSDU` that build the frame: the length is passed in octets. -/
def netTsdu (b : TSBKBlock) : Bytes :=
  let data := addP25Sync fun _ => 0x00
  let data := nid.encode data P25_DUID_TSDU
  let data := b.encode true data false
  let data := P25Utils.addBusyBits data P25_TSDU_FRAME_LENGTH_BYTES true false
  P25Utils.setBusyBits data P25Utils.P25_SS0_START true true

/-- `writeNet_TSDU_From_RF`, into a buffer of the caller's. -/
def netTsduFromRF (b : TSBKBlock) (data : Bytes) : Bytes :=
  let data := memcpy data 0 (fun _ => 0x00) P25_TSDU_FRAME_LENGTH_BYTES
  let data := addP25Sync data
  let data := nid.encode data P25_DUID_TSDU
  let data := b.encode true data false
  let data := P25Utils.addBusyBits data P25_TSDU_FRAME_LENGTH_BYTES true false
  P25Utils.setBusyBits data P25Utils.P25_SS0_START true true

/-! ## The state -/

/-- A broadcast, with what of the site goes into it. -/
inductive Announcement where
  | idenUp (vu : Bool) (i : Nat)
  | netStsBcast
  | rfssStsBcast
  | adjStsBcast (cfva : UInt8) (site : SiteData)
  | sccbExp (site : SiteData)
  | sndcpChAnn
  | syncBcast (microslotCount : UInt16)
  | timeDateAnn
  | motPshCch
  | motCcBsi
  | dvmGitHash

/-- The options of the site, and the messages that its broadcasts are. -/
structure TrunkingSettings where
  enableControl : Bool
  duplex : Bool
  dedicatedControl : Bool
  redundantImmediate : Bool
  ctrlTSDUMBF : Bool
  ctrlTimeDateAnn : Bool
  nid : NID
  siteData : SiteData
  block : Announcement → TSBKBlock

/-- What is done to the transmit queue. -/
inductive AirEvent where
  | cleared
  | single (data : Bytes) (imm : Bool)
  | triple (data : Bytes)

/-- The members of `ControlSignaling` that the blocks and the broadcasts work on. The table of identities is its
    list, of which the base frequencies matter here. -/
structure TrunkingFrames where
  ccRunning : Bool
  convFallback : Bool
  rfMBF : Bytes
  mbfCnt : UInt8
  mbfIdenCnt : UInt8
  mbfAdjSSCnt : UInt8
  mbfSCCBCnt : UInt8
  microslotCount : UInt16
  idenTable : List UInt32
  adjSiteTable : List SiteData
  adjSiteUpdateCnt : UInt8 → UInt8
  sccbTable : List SiteData
  added : List AirEvent
  handed : List TSBKBlock

namespace TrunkingFrames

variable (c : TrunkingSettings)

/-! ## Data units with three messages -/

/-- `addIdleBits`. -/
def addIdleBits (data : Bytes) (length : Nat) (b1 b2 : Bool) : Bytes :=
  P25Utils.writeSymbols data length (P25Utils.P25_SS_INCREMENT * 5) b1 b2

/-- The loop that copies the blocks of `m_rfMBF` into `tsdu`, with `frame` in between. -/
def copyBlocks (rfMBF : Bytes) (blocks : Nat) : Bytes :=
  (List.range blocks).foldl (fun tsdu i =>
    let offset := i * P25_TSBK_FEC_LENGTH_BITS
    let frame := copyBits (fun _ => 0x00) 0 rfMBF offset P25_TSBK_FEC_LENGTH_BITS
    copyBits tsdu offset frame 0 P25_TSBK_FEC_LENGTH_BITS) fun _ => 0x00

/-- The lines that build the frame of three blocks. -/
def tripleFrame (tsdu : Bytes) : Bytes :=
  let data := addP25Sync fun _ => 0x00
  let data := c.nid.encode data P25_DUID_TSDU
  let data := (P25Utils.encode tsdu data 114 720).2
  let data := P25Utils.addBusyBits data P25_TSDU_TRIPLE_FRAME_LENGTH_BITS true false
  addIdleBits data P25_TSDU_TRIPLE_FRAME_LENGTH_BITS true true

/-- `writeRF_TSDU_MBF`. The buffer is long enough for every block that is ever put there. -/
def writeRfTsduMbf (s : TrunkingFrames) (b : TSBKBlock) (clearBeforeWrite : Bool) : TrunkingFrames :=
  let s := { s with handed := s.handed ++ [b] }
  if !c.enableControl then { s with rfMBF := fun _ => 0x00, mbfCnt := 0 }
  else if !c.duplex then { s with rfMBF := fun _ => 0x00, mbfCnt := 0 }
  else
    let rfMBF :=
      if s.mbfCnt = 0 then memcpy s.rfMBF 0 (fun _ => 0x00) (P25_TSBK_FEC_LENGTH_BYTES * TSBK_MBF_CNT) else s.rfMBF
    let offset := s.mbfCnt.toNat * P25_TSBK_FEC_LENGTH_BITS
    if s.mbfCnt.toNat + 1 = TSBK_MBF_CNT then
      let rfMBF := copyBits rfMBF offset (b.encode true (fun _ => 0x00) true) 0 P25_TSBK_FEC_LENGTH_BITS
      let data := tripleFrame c (copyBlocks rfMBF (s.mbfCnt.toNat + 1))
      let added := if clearBeforeWrite then s.added ++ [.cleared] else s.added
      { s with rfMBF := fun _ => 0x00, mbfCnt := 0, added := added ++ [.triple data] }
    else
      let rfMBF := copyBits rfMBF offset (b.encode false (fun _ => 0x00) true) 0 P25_TSBK_FEC_LENGTH_BITS
      { s with rfMBF := rfMBF, mbfCnt := s.mbfCnt + 1 }

/-- The blocks of a site that signals go out three at a time. -/
def collects (s : TrunkingFrames) (force imm : Bool) : Bool :=
  !(force || imm) && (c.dedicatedControl || s.ccRunning) && c.ctrlTSDUMBF

/-- `writeRF_TSDU_SBF`. -/
def writeRfTsduSbf (s : TrunkingFrames) (b : TSBKBlock) (clearBeforeWrite force imm : Bool) : TrunkingFrames :=
  if !c.enableControl then s
  else if s.collects c force imm then s.writeRfTsduMbf c b clearBeforeWrite
  else
    let s := if !(force || imm) && clearBeforeWrite then { s with added := s.added ++ [.cleared] } else s
    let frame : AirEvent := .single (rfTsduSbf c.nid b) imm
    if c.duplex then
      { s with added := s.added ++ if imm && c.redundantImmediate then [frame, frame] else [frame] }
    else s

/-! ## Broadcasts -/

/-- The opcodes that `queueRF_TSBK_Ctrl` has a case for. -/
inductive CtrlOpcode where
  | IDEN_UP | NET_STS_BCAST | RFSS_STS_BCAST | ADJ_STS_BCAST | SCCB_EXP | SNDCP_CH_ANN | SYNC_BCAST | TIME_DATE_ANN
  | MOT_PSH_CCH | MOT_CC_BSI | DVM_GIT_HASH

/-- The case of `TSBK_OSP_IDEN_UP`. -/
def idenUp (s : TrunkingFrames) : Option Announcement × TrunkingFrames :=
  let s := if s.mbfIdenCnt.toNat ≥ s.idenTable.length then { s with mbfIdenCnt := 0 } else s
  match s.idenTable[s.mbfIdenCnt.toNat]? with
  | none => (none, s)
  | some baseFrequency =>
      (some (.idenUp (baseFrequency < 762000000) s.mbfIdenCnt.toNat), { s with mbfIdenCnt := s.mbfIdenCnt + 1 })

/-- The case of `TSBK_OSP_ADJ_STS_BCAST`: the site itself is passed over. -/
def adjStsBcast (s : TrunkingFrames) : Option Announcement × TrunkingFrames :=
  if s.adjSiteTable.length > 0 then
    let s := if s.mbfAdjSSCnt.toNat ≥ s.adjSiteTable.length then { s with mbfAdjSSCnt := 0 } else s
    let isSelf (site : SiteData) : Bool := site.channelId = c.siteData.channelId ∧
      site.channelNo = c.siteData.channelNo ∧ site.siteId = c.siteData.siteId ∧ site.sysId = c.siteData.sysId
    match (s.adjSiteTable.drop s.mbfAdjSSCnt.toNat).find? fun site => !isSelf site with
    | none => (none, s)
    | some site =>
        (some (.adjStsBcast (cfvaOf (s.adjSiteUpdateCnt site.siteId)) site), { s with mbfAdjSSCnt := s.mbfAdjSSCnt + 1 })
  else (none, s)

/-- The case of `TSBK_OSP_SCCB_EXP`. -/
def sccbExp (s : TrunkingFrames) : Option Announcement × TrunkingFrames :=
  if s.sccbTable.length > 0 then
    let s := if s.mbfSCCBCnt.toNat ≥ s.sccbTable.length then { s with mbfSCCBCnt := 0 } else s
    match s.sccbTable[s.mbfSCCBCnt.toNat]? with
    | none => (none, s)
    | some site => (some (.sccbExp site), { s with mbfSCCBCnt := s.mbfSCCBCnt + 1 })
  else (none, s)

/-- The `switch` of `queueRF_TSBK_Ctrl`: the broadcast, if there is one. -/
def announcement (s : TrunkingFrames) : CtrlOpcode → Option Announcement × TrunkingFrames
  | .IDEN_UP => s.idenUp
  | .NET_STS_BCAST => (some .netStsBcast, s)
  | .RFSS_STS_BCAST => (some .rfssStsBcast, s)
  | .ADJ_STS_BCAST => s.adjStsBcast c
  | .SCCB_EXP => s.sccbExp
  | .SNDCP_CH_ANN => (some .sndcpChAnn, s)
  | .SYNC_BCAST => (some (.syncBcast s.microslotCount), s)
  | .TIME_DATE_ANN => (if c.ctrlTimeDateAnn then some .timeDateAnn else none, s)
  | .MOT_PSH_CCH => (some .motPshCch, s)
  | .MOT_CC_BSI => (some .motCcBsi, s)
  | .DVM_GIT_HASH => (some .dvmGitHash, s)

/-- `queueRF_TSBK_Ctrl`. -/
def queueRfTsbkCtrl (s : TrunkingFrames) (lco : CtrlOpcode) : TrunkingFrames :=
  if !c.enableControl then s
  else
    match s.announcement c lco with
    | (none, s) => s
    | (some a, s) =>
        if c.ctrlTSDUMBF then s.writeRfTsduMbf c (c.block a) false
        else s.writeRfTsduSbf c (c.block a) false false false

/-! ## The schedule -/

/-- The broadcast that the sequence number stands for. -/
def required (alt adjSS : Bool) (s : TrunkingFrames) : UInt8 → Option CtrlOpcode
  | 1 => some (if alt then .RFSS_STS_BCAST else .NET_STS_BCAST)
  | 2 => some (if alt then .NET_STS_BCAST else .RFSS_STS_BCAST)
  | 3 => some (if alt then .RFSS_STS_BCAST else .NET_STS_BCAST)
  | 4 => some .SYNC_BCAST
  | 5 => none
  | 6 => some .SNDCP_CH_ANN
  | 7 => if adjSS && decide (s.adjSiteTable.length > 0) then some .ADJ_STS_BCAST else none
  | 8 => if adjSS && decide (s.sccbTable.length > 0) then some .SCCB_EXP else none
  | _ => some .IDEN_UP

/-- The broadcasts that follow at times: date and time, the identification of the base station, and the version. -/
def extras (frameCnt n : UInt8) : List CtrlOpcode :=
  (if c.ctrlTimeDateAnn && decide (frameCnt % 64 = 0) && decide (n > 4) then [.TIME_DATE_ANN] else []) ++
    (if decide (frameCnt % 127 = 0) && decide (n > 4) then [.MOT_CC_BSI] else []) ++
    if decide (frameCnt % 125 = 0) && decide (n > 4) then [.DVM_GIT_HASH] else []

/-- The padding behind the last of a sequence, and the reset of the count. -/
def pad (s : TrunkingFrames) : TrunkingFrames :=
  let s :=
    if s.mbfCnt = 1 then (s.queueRfTsbkCtrl c .RFSS_STS_BCAST).queueRfTsbkCtrl c .NET_STS_BCAST else s
  let s :=
    if s.mbfCnt = 2 then
      if s.idenTable.length > 1 then s.queueRfTsbkCtrl c .IDEN_UP else s.queueRfTsbkCtrl c .RFSS_STS_BCAST
    else s
  { s with mbfCnt := 0 }

/-- `writeRF_ControlData`. `update` is the message of `writeRF_TSDU_Grant_Update`, if there is a grant to tell of. -/
def writeRfControlData (s : TrunkingFrames) (update : Option TSBKBlock) (frameCnt n : UInt8) (adjSS : Bool) :
    TrunkingFrames :=
  if !c.enableControl then s
  else if s.convFallback then s
  else
    let s := { s with microslotCount := if s.microslotCount + 1 > 7999 then 0 else s.microslotCount + 1 }
    let forcePad := n = 7 ∧ ¬ (adjSS = true ∧ s.adjSiteTable.length > 0)
    let s := match required (decide (frameCnt % 2 > 0)) adjSS s n with
      | some lco => s.queueRfTsbkCtrl c lco
      | none => s
    let s := match n, update with
      | 5, some b => s.writeRfTsduSbf c b false false true
      | _, _ => s
    let s := (extras c frameCnt n).foldl (queueRfTsbkCtrl c) s
    if (n ≥ 4 ∨ forcePad) ∧ c.ctrlTSDUMBF = true then s.pad c else s

end TrunkingFrames

end P25

end DvmHost

import DvmHost.Common.Lookups.LookupTable
import DvmHost.Common.P25.Lc.Tsbk.TSBKClasses
import DvmHost.Fne.Network.Fne.TagDMRData
import DvmHost.Fne.Network.Fne.TagNXDNData
import DvmHost.Fne.Network.Fne.TagP25Data
import DvmHost.Host.Dmr.Packet.Voice
import DvmHost.Host.P25.Packet.TrunkingFrames

/-!
# `Fne.Network.Fne.RouteRewrite` — the rewriting of talkgroups

`TalkgroupRulesLookup::findByRewrite`, and `peerRewrite` and `routeRewrite` of the three traffic handlers of
`src/fne/network/fne/`. A frame of an upstream peer is rewritten before it is repeated, and the copy for an upstream peer
before it is sent; what is decided about the frame is decided from the octets that were received.
-/

namespace DvmHost

open Lib

/-! ## The table -/

namespace Rules

/-- The rules of a configuration, as `load` leaves them. -/
def loadedRules (num : Yaml.YamlNumbers) (root : Yaml.Node) : List TalkgroupRuleGroupVoice :=
  (root.getKey "groupVoice").visited.map (groupVoiceOf num)

/-- The table without the names and the rewrites. -/
def plainRules (groupVoice : List TalkgroupRuleGroupVoice) : List DvmHost.TalkgroupRuleGroupVoice :=
  groupVoice.map fun tg => { config := tg.config.toTalkgroupRuleConfig, source := tg.source }

/-- `findByRewrite`: the slot counts when it is not zero. The source compares iterators of two copies of a list that is
    not empty, which is undefined; here such a list is searched. -/
def findByRewrite (groupVoice : List TalkgroupRuleGroupVoice) (peerId id : UInt32) (slot : UInt8) :
    TalkgroupRuleGroupVoice :=
  let it := groupVoice.find? fun x => x.config.rewrite.any fun y =>
    if slot ≠ 0 then y.peerId = peerId && y.tgId = id && y.tgSlot = slot else y.peerId = peerId && y.tgId = id
  match it with
  | some it => TalkgroupRuleGroupVoice.assign {} it
  | none => TalkgroupRuleGroupVoice.assign {} {}

/-- `peerRewrite`: the destination and the slot, if the rule has a rewrite for the peer. -/
def peerRewrite (groupVoice : List TalkgroupRuleGroupVoice) (peerId dstId : UInt32) (slotNo : UInt8) (outbound : Bool) :
    Option (UInt32 × UInt8) :=
  let tg := TalkgroupRuleGroupVoice.assign {}
    (if outbound then find groupVoice dstId slotNo else findByRewrite groupVoice peerId dstId slotNo)
  (tg.config.rewrite.find? fun entry => entry.peerId = peerId).map fun entry =>
    if outbound then tg.key else (entry.tgId, entry.tgSlot)

end Rules

open Rules (peerRewrite)

/-- `__SET_UINT16(val, buffer, offset)`. -/
def setUInt16 (val : UInt32) (buffer : Bytes) (offset : Nat) : Bytes :=
  let buffer := setByte buffer (0 + offset) (val >>> (16 : UInt32) &&& 0xFF).toUInt8
  let buffer := setByte buffer (1 + offset) (val >>> (8 : UInt32) &&& 0xFF).toUInt8
  setByte buffer (2 + offset) (val >>> (0 : UInt32) &&& 0xFF).toUInt8

/-! ## DMR -/

namespace TagDMRData

open Dmr

/-- `PrivacyLC()`. The octets of its message indicator are not set. -/
def newPrivacyLC (mi : List UInt8) : PrivacyLC :=
  { FID := FID_ETSI, dstId := 0, group := false, algId := 0, kId := 0, mi := mi }

/-- The burst of a frame, with the link control rewritten. `mi` and `lcData` are what a new privacy control and the
    octets of its encoder hold. -/
def rewriteBurst (mi : List UInt8) (lcData data : Bytes) (FLCO : UInt8) (srcId : UInt32) (dataType : UInt8)
    (rewriteDstId : UInt32) : Bytes :=
  if dataType = DT_VOICE_LC_HEADER ∨ dataType = DT_TERMINATOR_WITH_LC then
    let lc := (FullLC.decode data dataType).getD (LC.new FLCO srcId rewriteDstId)
    FullLC.encode { lc with dstId := rewriteDstId } data dataType
  else if dataType = DT_VOICE_PI_HEADER then
    let lc := (FullLC.decodePI data).getD (newPrivacyLC mi)
    FullLC.encodePI { lc with dstId := rewriteDstId } lcData data
  else data

/-- `routeRewrite`. The burst is the one that was received, and the data type is compared without a look at the sync. -/
def routeRewrite (mi : List UInt8) (lcData : Bytes) (rules : List Rules.TalkgroupRuleGroupVoice) (buffer : Bytes)
    (peerId : UInt32) (received : Bytes) (outbound : Bool) : Bytes :=
  let f := Frame.read received
  match peerRewrite rules peerId f.dstId f.slotNo outbound with
  | none => buffer
  | some (rewriteDstId, rewriteSlotNo) =>
      let buffer := setUInt16 rewriteDstId buffer 8
      let buffer :=
        if rewriteSlotNo = 2 ∧ buffer 15 &&& 0x80 = 0x00 then setByte buffer 15 (buffer 15 ||| 0x80) else buffer
      let buffer :=
        if rewriteSlotNo = 1 ∧ buffer 15 &&& 0x80 = 0x80 then setByte buffer 15 (buffer 15 &&& 0x7F) else buffer
      let FLCO := if received 15 &&& 0x40 = 0x40 then FLCO_PRIVATE else FLCO_GROUP
      memcpy buffer 20 (rewriteBurst mi lcData (fromByte 20 received) FLCO f.srcId f.dataType rewriteDstId)
        DMR_FRAME_LENGTH_BYTES

end TagDMRData

/-! ## P25 -/

namespace TagP25Data

open P25

/-- What a trunking block is regenerated with: the static members of `TSBK` and of its factory, and what stands on the
    stack behind the frame that is copied. -/
structure TsbkSettings where
  siteData : SiteData
  warnCRC : Bool
  factoryWarnCRC : Bool
  beyond : Bytes

/-- The trunking block of a TSDU, with a voice grant or request rewritten. -/
def rewriteTSDU (tsbk : TSBKObject) (siteData : SiteData) (rewriteDstId : UInt32) : Bytes :=
  let tsbk := if tsbk.lco = TSBK_IOSP_GRP_VCH then { tsbk with dstId := rewriteDstId } else tsbk
  let data := addP25Sync fun _ => 0x00
  { tsbk with lastBlock := true }.encode siteData data false false

/-- `routeRewrite`. -/
def routeRewrite (settings : TsbkSettings) (rules : List Rules.TalkgroupRuleGroupVoice) (buffer : Bytes)
    (peerId : UInt32) (received : Bytes) (outbound : Bool) : Bytes :=
  let f := Frame.read received
  let frameLength := (buffer 23).toNat
  match peerRewrite rules peerId f.dstId 0 outbound with
  | none => buffer
  | some (rewriteDstId, _) =>
      let buffer := setUInt16 rewriteDstId buffer 8
      if f.duid = P25_DUID_TSDU then
        let data := memcpy settings.beyond 0 (fromByte 24 buffer) frameLength
        match TSBKFactory.createTSBK settings.factoryWarnCRC settings.warnCRC data false with
        | some tsbk => memcpy buffer 24 (rewriteTSDU tsbk settings.siteData rewriteDstId) P25_TSDU_FRAME_LENGTH_BYTES
        | none => buffer
      else buffer

end TagP25Data

/-! ## NXDN -/

namespace TagNXDNData

/-- `routeRewrite`. -/
def routeRewrite (rules : List Rules.TalkgroupRuleGroupVoice) (buffer : Bytes) (peerId : UInt32) (received : Bytes)
    (outbound : Bool) : Bytes :=
  match peerRewrite rules peerId (Frame.read received).dstId 0 outbound with
  | none => buffer
  | some (rewriteDstId, _) => setUInt16 rewriteDstId buffer 8

end TagNXDNData

/-! ## The frames that are sent -/

/-- What `processFrame` sends: the frame to the connected peers, and a copy to each upstream peer. -/
structure Relayed (S : Type) extends Processed S where
  buffer : Bytes
  outbound : List (UInt32 × Bytes)

/-- `processFrame` of a handler with the buffers it works on: `process` is what it decides, `rewrite` its
    `routeRewrite`. -/
def relayFrame {S : Type} (process : TrafficContext → UnorderedMap UInt32 S → Bytes → UInt32 → UInt32 → Processed S)
    (rewrite : List Rules.TalkgroupRuleGroupVoice → Bytes → UInt32 → Bytes → Bool → Bytes)
    (rules : List Rules.TalkgroupRuleGroupVoice) (ctx : TrafficContext) (m_status : UnorderedMap UInt32 S) (data : Bytes)
    (peerId streamId : UInt32) (fromPeer : Bool) : Relayed S :=
  let ctx := { ctx with m_tidLookup := { ctx.m_tidLookup with groupVoice := Rules.plainRules rules } }
  let processed := process ctx m_status data peerId streamId
  let buffer := if fromPeer then rewrite rules data peerId data false else data
  { toProcessed := processed
    buffer := buffer
    outbound := processed.upstream.map fun peer => (peer, rewrite rules buffer peer data true) }

end DvmHost

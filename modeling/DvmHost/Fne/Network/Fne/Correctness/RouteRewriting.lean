import DvmHost.Common.Lookups.Correctness.TableReload
import DvmHost.Fne.Network.Fne.RouteRewrite

/-!
# `Fne.Network.Fne.Correctness.RouteRewriting` — talkgroups are not rewritten

A rule lists rewrites: for a peer, the talkgroup and the slot that the rule's own talkgroup has there. Assigning a rule
passes over the list, and between the configuration and `peerRewrite` a rule is assigned three times, so no frame is
rewritten (`peerRewrite_eq_none`). What a handler does with a frame is then what the rules say if and only if the frame
goes where it should as it is (`routes_iff`).
-/

namespace DvmHost

open Lib

open Rules (TalkgroupRuleRewrite peerRewrite listedRules loadedRules)

/-- **No rule has a rewrite for a peer**, whatever the table. -/
theorem peerRewrite_eq_none (rules : List Rules.TalkgroupRuleGroupVoice) (peerId dstId : UInt32) (slotNo : UInt8)
    (outbound : Bool) : peerRewrite rules peerId dstId slotNo outbound = none := by
  unfold peerRewrite
  -- the list is the one of a new rule, to which the rule that was found is assigned
  rfl

/-! ## Routers -/

/-- A place: a talkgroup and a slot. -/
abbrev Place : Type := UInt32 × UInt8

/-- A traffic handler: what the protocol knows of a place, where a frame goes, whether its link control names a place,
    and which frames differ in their places alone. Decisions are made from what is read. -/
structure Router (S : Type) where
  key : Place → Place
  target : Bytes → Place
  group : Bytes → Bool
  names : Bytes → Place → Prop
  like : Bytes → Bytes → Prop
  process : TrafficContext → UnorderedMap UInt32 S → Bytes → UInt32 → UInt32 → Processed S
  rewrite : List Rules.TalkgroupRuleGroupVoice → Bytes → UInt32 → Bytes → Bool → Bytes
  process_like : ∀ {data data' : Bytes}, like data data' → target data' = target data →
    ∀ ctx m_status peerId streamId, process ctx m_status data' peerId streamId = process ctx m_status data peerId streamId
  rewrite_eq : ∀ rules buffer peerId received outbound, rewrite rules buffer peerId received outbound = buffer

namespace TagDMRData

open Dmr

/-- The DMR handler. The link control of a header or a terminator names its destination. -/
def router (mi : List UInt8) (lcData : Bytes) : Router RxStatus where
  key := id
  target data := ((Frame.read data).dstId, (Frame.read data).slotNo)
  group data := data 15 &&& 0x40 = 0x00
  names data k := (Frame.read data).isHeader ∨ (Frame.read data).isTerminator →
    ∃ lc, FullLC.decode (fromByte 20 data) (Frame.read data).dataType = some lc ∧ lc.dstId = k.1
  like data data' := Frame.read data' =
    { Frame.read data with dstId := (Frame.read data').dstId, slotNo := (Frame.read data').slotNo }
  process := processFrame
  rewrite := routeRewrite mi lcData
  process_like := by
    intro data data' hlike htarget ctx m_status peerId streamId
    obtain ⟨hdst, hslot⟩ := Prod.mk.inj htarget
    have hread : Frame.read data' = Frame.read data := by
      rw [hlike, hdst, hslot]
    unfold processFrame
    rw [hread]
  rewrite_eq := by
    intro rules buffer peerId received outbound
    unfold routeRewrite
    dsimp only
    rw [peerRewrite_eq_none]

end TagDMRData

namespace TagP25Data

open P25

/-- The P25 handler. A voice grant or request in the trunking block names its talkgroup. -/
def router (settings : TsbkSettings) : Router RxStatus where
  key k := (k.1, 0)
  target data := ((Frame.read data).dstId, 0)
  group data := (Frame.read data).lco ≠ LC_PRIVATE
  names data k := (Frame.read data).duid = P25_DUID_TSDU → ∀ tsbk,
    TSBKFactory.createTSBK settings.factoryWarnCRC settings.warnCRC (fromByte 24 data) false = some tsbk →
      tsbk.lco = TSBK_IOSP_GRP_VCH → tsbk.dstId = k.1
  like data data' := Frame.read data' = { Frame.read data with dstId := (Frame.read data').dstId }
  process := processFrame
  rewrite := routeRewrite settings
  process_like := by
    intro data data' hlike htarget ctx m_status peerId streamId
    have hread : Frame.read data' = Frame.read data := by
      rw [hlike, (Prod.mk.inj htarget).1]
    unfold processFrame
    rw [hread]
  rewrite_eq := by
    intro rules buffer peerId received outbound
    unfold routeRewrite
    dsimp only
    rw [peerRewrite_eq_none]

end TagP25Data

namespace TagNXDNData

/-- The NXDN handler; nothing but the header names the destination. -/
def router : Router RxStatus where
  key k := (k.1, 0)
  target data := ((Frame.read data).dstId, 0)
  group data := (Frame.read data).group
  names _ _ := True
  like data data' := Frame.read data' = { Frame.read data with dstId := (Frame.read data').dstId }
  process := processFrame
  rewrite := routeRewrite
  process_like := by
    intro data data' hlike htarget ctx m_status peerId streamId
    have hread : Frame.read data' = Frame.read data := by
      rw [hlike, (Prod.mk.inj htarget).1]
    unfold processFrame
    rw [hread]
  rewrite_eq := by
    intro rules buffer peerId received outbound
    unfold routeRewrite
    rw [peerRewrite_eq_none]

end TagNXDNData

/-! ## Frames -/

/-- A frame that a handler is given. -/
structure RoutedFrame (S : Type) where
  ctx : TrafficContext
  m_status : UnorderedMap UInt32 S
  data : Bytes
  peerId : UInt32
  streamId : UInt32
  fromPeer : Bool

/-- The context of a handler, with the rules in it. -/
def RoutedFrame.context {S : Type} (f : RoutedFrame S) (rules : List Rules.TalkgroupRuleGroupVoice) : TrafficContext :=
  { f.ctx with m_tidLookup := { f.ctx.m_tidLookup with groupVoice := Rules.plainRules rules } }

namespace Router

variable {S : Type} (R : Router S)

/-- What is sent. -/
def relay (rules : List Rules.TalkgroupRuleGroupVoice) (f : RoutedFrame S) : Relayed S :=
  relayFrame R.process R.rewrite rules f.ctx f.m_status f.data f.peerId f.streamId f.fromPeer

/-- A frame carries a place, in its header and in its link control. -/
def Carries (data : Bytes) (k : Place) : Prop := R.target data = R.key k ∧ R.names data k

/-- **What a rewrite `e` of the rule `tg` asks** of the handling of a frame. -/
structure Routes (rules : List Rules.TalkgroupRuleGroupVoice) (tg : Rules.TalkgroupRuleGroupVoice)
    (e : TalkgroupRuleRewrite) (f : RoutedFrame S) : Prop where
  outbound : R.group f.data → R.target f.data = R.key tg.key →
    ∀ sent, (e.peerId, sent) ∈ (R.relay rules f).outbound → R.Carries sent (e.tgId, e.tgSlot)
  inbound : R.group f.data → f.fromPeer → f.peerId = e.peerId → R.target f.data = R.key (e.tgId, e.tgSlot) →
    R.Carries (R.relay rules f).buffer tg.key ∧
      ∀ data', R.like f.data data' → R.target data' = R.key tg.key →
        (R.relay rules f).toProcessed = R.process (f.context rules) f.m_status data' f.peerId f.streamId
  others : ∀ peer sent, (∀ e' ∈ tg.config.rewrite, e'.peerId ≠ peer) → (peer, sent) ∈ (R.relay rules f).outbound →
    sent = (R.relay rules f).buffer
  strangers : (∀ e' ∈ tg.config.rewrite, e'.peerId ≠ f.peerId) → (R.relay rules f).buffer = f.data
  inverse : R.target f.data = R.key tg.key →
    let sent := R.rewrite rules f.data e.peerId f.data true
    R.rewrite rules sent e.peerId sent false = f.data

/-- The frame goes where the rewrite sends it as it is. -/
structure GoesThere (rules : List Rules.TalkgroupRuleGroupVoice) (tg : Rules.TalkgroupRuleGroupVoice)
    (e : TalkgroupRuleRewrite) (f : RoutedFrame S) : Prop where
  outbound : R.group f.data → R.target f.data = R.key tg.key → e.peerId ∈ (R.relay rules f).upstream →
    R.key tg.key = R.key (e.tgId, e.tgSlot) ∧ R.names f.data (e.tgId, e.tgSlot)
  inbound : R.group f.data → f.fromPeer → f.peerId = e.peerId → R.target f.data = R.key (e.tgId, e.tgSlot) →
    R.key (e.tgId, e.tgSlot) = R.key tg.key ∧ R.names f.data tg.key

theorem relay_eq (rules : List Rules.TalkgroupRuleGroupVoice) (f : RoutedFrame S) :
    R.relay rules f =
      { toProcessed := R.process (f.context rules) f.m_status f.data f.peerId f.streamId
        buffer := f.data
        outbound := (R.process (f.context rules) f.m_status f.data f.peerId f.streamId).upstream.map
          fun peer => (peer, f.data) } := by
  unfold relay relayFrame RoutedFrame.context
  simp only [R.rewrite_eq, ite_self]

/-- Every copy is the frame that was received. -/
theorem mem_outbound_iff {rules : List Rules.TalkgroupRuleGroupVoice} {f : RoutedFrame S} {peer : UInt32}
    {sent : Bytes} :
    (peer, sent) ∈ (R.relay rules f).outbound ↔ peer ∈ (R.relay rules f).upstream ∧ sent = f.data := by
  rw [relay_eq]
  simp only [List.mem_map, Prod.mk.injEq]
  constructor
  · rintro ⟨p, hp, rfl, rfl⟩
    exact ⟨hp, rfl⟩
  · rintro ⟨hp, rfl⟩
    exact ⟨peer, hp, rfl, rfl⟩

/-- **A frame is routed by a rewrite exactly if it goes there as it is.** -/
theorem routes_iff_goesThere (rules : List Rules.TalkgroupRuleGroupVoice) (tg : Rules.TalkgroupRuleGroupVoice)
    (e : TalkgroupRuleRewrite) (f : RoutedFrame S) : R.Routes rules tg e f ↔ R.GoesThere rules tg e f := by
  have hbuffer : (R.relay rules f).buffer = f.data := by rw [relay_eq]
  have hprocessed : (R.relay rules f).toProcessed =
      R.process (f.context rules) f.m_status f.data f.peerId f.streamId := by rw [relay_eq]
  constructor
  · intro h
    refine ⟨fun hgroup htarget hsent => ?_, fun hgroup hpeer hid htarget => ?_⟩
    · obtain ⟨hkey, hnames⟩ := h.outbound hgroup htarget f.data (R.mem_outbound_iff.mpr ⟨hsent, rfl⟩)
      exact ⟨htarget.symm.trans hkey, hnames⟩
    · obtain ⟨⟨hkey, hnames⟩, -⟩ := h.inbound hgroup hpeer hid htarget
      rw [hbuffer] at hkey hnames
      exact ⟨htarget.symm.trans hkey, hnames⟩
  · intro h
    refine ⟨fun hgroup htarget sent hsent => ?_, fun hgroup hpeer hid htarget => ?_, fun peer sent _ hsent => ?_,
      fun _ => hbuffer, fun _ => ?_⟩
    · obtain ⟨hupstream, rfl⟩ := R.mem_outbound_iff.mp hsent
      obtain ⟨hkey, hnames⟩ := h.outbound hgroup htarget hupstream
      exact ⟨htarget.trans hkey, hnames⟩
    · obtain ⟨hkey, hnames⟩ := h.inbound hgroup hpeer hid htarget
      refine ⟨hbuffer ▸ ⟨htarget.trans hkey, hnames⟩, fun data' hlike htarget' => ?_⟩
      have hsame : R.target data' = R.target f.data := htarget'.trans (htarget.trans hkey).symm
      rw [hprocessed]
      exact (R.process_like hlike hsame _ _ _ _).symm
    · rw [hbuffer]
      exact (R.mem_outbound_iff.mp hsent).2
    · dsimp only
      rw [R.rewrite_eq, R.rewrite_eq]

/-- All rewrites that a configuration lists. -/
def RoutesAll (num : Yaml.YamlNumbers) (root : Yaml.Node) (f : RoutedFrame S) : Prop :=
  ∀ tg ∈ listedRules num (some root), ∀ e ∈ tg.config.rewrite, R.Routes (loadedRules num root) tg e f

def GoesAll (num : Yaml.YamlNumbers) (root : Yaml.Node) (f : RoutedFrame S) : Prop :=
  ∀ tg ∈ listedRules num (some root), ∀ e ∈ tg.config.rewrite, R.GoesThere (loadedRules num root) tg e f

theorem routesAll_iff (num : Yaml.YamlNumbers) (root : Yaml.Node) (f : RoutedFrame S) :
    R.RoutesAll num root f ↔ R.GoesAll num root f :=
  forall₄_congr fun tg _ e _ => R.routes_iff_goesThere (loadedRules num root) tg e f

end Router

/-- A load leaves the rules that the handlers search. -/
theorem Rules.load_loadedRules {num : Yaml.YamlNumbers} {t t' : Rules.RulesLookup} (hfree : t.locked = false)
    {root : Yaml.Node} (h : t.load num (some root) = some (.loaded true, t')) :
    t'.groupVoice = loadedRules num root := by
  rw [Rules.RulesLookup.load_some num hfree] at h
  split at h
  · exact absurd h (by simp)
  · obtain ⟨-, rfl⟩ := Prod.mk.inj (Option.some.inj h)
    rfl

/-- **Talkgroups are rewritten as listed exactly where that changes nothing**, in the three protocols. -/
theorem routes_iff (num : Yaml.YamlNumbers) (root : Yaml.Node) :
    (∀ mi lcData f, (TagDMRData.router mi lcData).RoutesAll num root f ↔
      (TagDMRData.router mi lcData).GoesAll num root f) ∧
    (∀ settings f, (TagP25Data.router settings).RoutesAll num root f ↔ (TagP25Data.router settings).GoesAll num root f) ∧
    ∀ f, TagNXDNData.router.RoutesAll num root f ↔ TagNXDNData.router.GoesAll num root f :=
  ⟨fun mi lcData f => (TagDMRData.router mi lcData).routesAll_iff num root f,
    fun settings f => (TagP25Data.router settings).routesAll_iff num root f,
    fun f => TagNXDNData.router.routesAll_iff num root f⟩

/-! ## A rewrite that is lost -/

/-- A rule of the talkgroup 100 on slot 1, which the peer 9 has as 200. -/
def rewriteRoot : Yaml.Node :=
  .map [("groupVoice", .sequence [.map
    [("name", .scalar "rewritten"),
      ("config", .map [("active", .scalar "true"),
        ("rewrite", .sequence [.map [("peerId", .scalar "9"), ("tgid", .scalar "200"), ("slot", .scalar "1")]])]),
      ("source", .map [("tgid", .scalar "100"), ("slot", .scalar "1")])]])]

/-- The numbers of that file. -/
def smallNumbers : Yaml.YamlNumbers :=
  ⟨fun text defaultValue =>
    if text = "9" then 9 else if text = "200" then 200 else if text = "100" then 100 else if text = "1" then 1
    else defaultValue⟩

/-- A voice frame of the radio 1 for the talkgroup 100, from a connected peer. -/
def groupFrame : RoutedFrame RxStatus where
  ctx := { m_ridLookup := ⟨∅⟩, m_tidLookup := {}, m_peers := [], m_peerNetworks := [9] }
  m_status := ∅
  data := fun i => if i = 4 then Nxdn.RTCH_MESSAGE_TYPE_VCALL else if i = 7 then 1 else if i = 10 then 100 else 0
  peerId := 1
  streamId := 1
  fromPeer := false

/-- **The frame for the peer is not rewritten.** -/
theorem rewrite_lost : ¬ ∀ (num : Yaml.YamlNumbers) (root : Yaml.Node) (f : RoutedFrame RxStatus),
    TagNXDNData.router.RoutesAll num root f := by
  intro hall
  have hactive : (Yaml.Node.scalar "true").asBool false = true := by decide +kernel
  have hrules : loadedRules smallNumbers rewriteRoot = [
      { name := "rewritten"
        config := { active := (Yaml.Node.scalar "true").asBool false }
        source := { tgId := 100, tgSlot := 1 } }] := rfl
  have hlisted : listedRules smallNumbers (some rewriteRoot) = [
      { name := "rewritten"
        config :=
          { active := (Yaml.Node.scalar "true").asBool false
            rewrite := [{ peerId := 9, tgId := 200, tgSlot := 1 }] }
        source := { tgId := 100, tgSlot := 1 } }] := rfl
  have hroutes := hall smallNumbers rewriteRoot groupFrame _ (hlisted ▸ List.mem_singleton_self _)
    { peerId := 9, tgId := 200, tgSlot := 1 } (List.mem_singleton_self _)
  rw [hrules, hactive] at hroutes
  have hsent := hroutes.outbound rfl rfl groupFrame.data
    (TagNXDNData.router.mem_outbound_iff.mpr ⟨by decide, rfl⟩)
  exact absurd hsent.1 (by decide)

end DvmHost

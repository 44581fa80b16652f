import DvmHost.Host.Nxdn.Packet.Correctness.ReleaseFrame

/-!
# `Host.Nxdn.Packet.Correctness.BuiltFrames` — every frame that a site builds, and whether a site can read it

`Built` lists the builders: the headers of radios (`Voice::process`, and the frame with which it enters a call late),
the frame with which `Voice::processNetwork` enters one, the headers that it relays, and `writeRF_Message_Tx_Rel`.
-/

namespace DvmHost

namespace Nxdn

namespace Voice

open Control RTCH

/-! ## The release frame -/

theorem addNXDNSync_of_ge (data : Bytes) {i : Nat} (hi : 3 ≤ i) : addNXDNSync data i = data i := by
  unfold addNXDNSync
  rw [NXDN_FSW_BYTES_LENGTH, List.range_succ, List.range_succ, List.range_succ, List.range_zero]
  simp only [List.nil_append, List.foldl_append, List.foldl_cons, List.foldl_nil]
  rw [setByte_of_ne _ _ (by omega), setByte_of_ne _ _ (by omega), setByte_of_ne _ _ (by omega)]

variable (c : Settings) (s : Control) (mem : Channel.Memory)

/-- The frame in front of the FACCH1 of a release. -/
def releaseFront : Bytes :=
  ((idleSACCH c).encode mem (LICH.encode
    { LICH.new with
      m_rfct := NXDN_LICH_RFCT_RTCH
      m_fct := NXDN_LICH_USC_SACCH_NS
      m_option := NXDN_LICH_STEAL_FACCH
      m_outbound := true } (addNXDNSync fun _ => 0x00))).2

theorem readBit_releaseFront {k : Nat} (hk : 96 ≤ k) : readBit (releaseFront c mem) k = false := by
  unfold releaseFront SACCH.encode
  dsimp only
  rw [Channel.readBit_encodeBits_outside SACCH.sound mem SACCH.base _ _ (Or.inr hk)]
  rw [LICH.agree_encode _ _ (Or.inr (show 36 ≤ k by omega)) k (Nat.le_refl k) (show k < k + 1 by omega), readBit_eq,
    addNXDNSync_of_ge _ (by omega)]
  exact bitOf_zero _

/-- The link control of a release. -/
def releaseLC : RTCH := { s.rfLC with messageType := RTCH_MESSAGE_TYPE_TX_REL }

/-- What is put into the FACCH1 of a release. -/
def releaseFACCH1 : FACCH1 := FACCH1.new.setData ((releaseLC s).encode (fun _ => 0x00) 184 0)

theorem scrambler_txRelFrame : scrambler (txRelFrame c s mem).1.data
    = releaseBody mem (releaseFACCH1 s) (releaseFront c mem) := by
  have hoffsets : ∀ (facch : FACCH1) (front : Bytes),
      facch.encode mem (facch.encode mem front (LICH.NXDN_FSW_LENGTH_BITS + LICH.NXDN_LICH_LENGTH_BITS
          + SACCH.NXDN_SACCH_LENGTH_BITS))
        (LICH.NXDN_FSW_LENGTH_BITS + LICH.NXDN_LICH_LENGTH_BITS + SACCH.NXDN_SACCH_LENGTH_BITS
          + FACCH1.NXDN_FACCH1_LENGTH_BITS) = releaseBody mem facch front := fun _ _ => rfl
  unfold txRelFrame encodeRTCH
  dsimp only
  rw [scrambler_scrambler, hoffsets]
  unfold releaseFACCH1 releaseFront releaseLC
  dsimp only

theorem typeOctet_releaseFACCH1 : (releaseFACCH1 s).m_data 0 = RTCH_MESSAGE_TYPE_TX_REL := by
  have hoctet : (releaseLC s).encode (fun _ => 0x00) 184 0 0 = encodeLC (releaseLC s) 0 := by
    refine byte_of_bits (n := 1) (fun k hk => ?_) (by omega)
    rw [RTCH.encode, readBit_copyBits, if_pos ⟨Nat.zero_le k, by omega⟩, Nat.sub_zero, Nat.zero_add]
  rw [releaseFACCH1, octet_setData _ _ (by omega), hoctet, encodeLC_typeOctet]
  show RTCH_MESSAGE_TYPE_TX_REL &&& 0x3F = RTCH_MESSAGE_TYPE_TX_REL
  decide

/-- No receiver reads a release. -/
theorem not_readable_release (stack : Stack) (rfct : UInt8) :
    ¬ Readable c stack rfct (releaseLC s) (txRelFrame c s mem).1.data := by
  intro hreadable
  have htype := hreadable.second.call.messageType
  rw [messageType_received, scrambler_txRelFrame] at htype
  exact not_release mem (typeOctet_releaseFACCH1 s) (fun k hk => readBit_releaseFront c mem hk) stack.mem FACCH1.new
    htype

/-! ## The builders -/

/-- A frame that the site builds, with what it is built from. -/
inductive Built where
  | header (outbound : Bool) (lc : RTCH) (hheader : IsHeader lc.messageType) (facch : FACCH1) (data : Bytes)
  | start (rfLC netLC : RTCH) (hvcall : netLC.messageType = RTCH_MESSAGE_TYPE_VCALL) (facch : FACCH1)
  | relayed (buffer : Bytes) (facch : FACCH1) (hheader : IsHeader (received buffer facch).messageType) (dstId : UInt16)
      (data : Bytes)
  | release

namespace Built

/-- The frame, as it is sent. -/
def frame : Built → Bytes
  | header outbound lc _ facch data => (openingFrame c s mem outbound lc facch data).1
  | start rfLC _ _ facch => (openingFrame c s mem true rfLC facch fun _ => 0x00).1
  | relayed _ facch _ _ data => headerFrame c mem true facch data
  | release => (txRelFrame c s mem).1.data

/-- The link control of the call that the frame is for. -/
def intended : Built → RTCH
  | header _ lc _ _ _ => lc
  | start _ netLC _ _ => netLC
  | relayed buffer facch _ dstId _ => { received buffer facch with dstId }
  | release => releaseLC s

/-- The RF channel type. -/
def rfct : Built → UInt8
  | header .. => NXDN_LICH_RFCT_RDCH
  | start .. => NXDN_LICH_RFCT_RDCH
  | relayed .. => NXDN_LICH_RFCT_RDCH
  | release => NXDN_LICH_RFCT_RTCH

/-- What a link control is read back as from a FACCH1. -/
def readBack (lc : RTCH) : RTCH :=
  received (fun _ => 0x00) (FACCH1.new.setData (lc.encode (fun _ => 0x00) NXDN_RTCH_LC_LENGTH_BITS 0))

/-- A header of a radio; a start with the call of the network; a header that is relayed to its own destination. -/
def Kept : Built → Prop
  | header .. => True
  | start rfLC netLC _ _ => SameCall (readBack rfLC) netLC
  | relayed buffer facch _ dstId _ => dstId = (received buffer facch).dstId
  | release => False

end Built

/-- **Readable frames.** A frame that the site builds can be read by a receiver with the same tables exactly when the
    RAN has six bits and the builder keeps the call. -/
theorem readable_iff {stack : Stack} (hpast : stack.mem.past = mem.past) (b : Built) :
    Readable c stack b.rfct (b.intended s) (b.frame c s mem) ↔ c.ran < 64 ∧ b.Kept := by
  cases b with
  | header outbound lc hheader facch data =>
      have hcall := sameCall_setData hheader stack.buffer facch
      refine (readable_headerFrame c hpast outbound data hheader).trans ?_
      exact ⟨fun h => ⟨h.1, trivial⟩, fun h => ⟨h.1, hcall⟩⟩
  | start rfLC netLC hvcall facch =>
      have hheader : IsHeader netLC.messageType := Or.inl hvcall
      have hoctets : (facch.setData (rfLC.encode (fun _ => 0x00) NXDN_RTCH_LC_LENGTH_BITS 0)).Holds
          (FACCH1.new.setData (rfLC.encode (fun _ => 0x00) NXDN_RTCH_LC_LENGTH_BITS 0)) := fun i hi =>
        (octet_setData _ _ hi).trans (octet_setData _ _ hi).symm
      refine (readable_headerFrame c hpast true (fun _ => 0x00) hheader).trans (and_congr_right fun _ => ?_)
      have hsame : ∀ {tx rx : FACCH1} {buffer buffer' : Bytes}, rx.Holds tx → SameCall (received buffer' tx) netLC →
          SameCall (received buffer rx) netLC := by
        intro tx rx buffer buffer' hholds hcall
        have htype : IsHeader (tx.m_data 0 &&& 0x3F) := by
          rw [← messageType_received buffer', hcall.messageType]
          exact hheader
        exact (sameCall_received hholds htype buffer buffer').trans hcall
      exact ⟨hsame fun i hi => (hoctets i hi).symm, hsame hoctets⟩
  | relayed buffer facch hheader dstId data =>
      have hintended : IsHeader { received buffer facch with dstId }.messageType := hheader
      refine (readable_headerFrame c hpast true data hintended).trans (and_congr_right fun _ => ?_)
      have htype : IsHeader (facch.m_data 0 &&& 0x3F) := by rwa [messageType_received] at hheader
      have hsame := sameCall_received (fun _ _ => rfl : facch.Holds facch) htype stack.buffer buffer
      constructor
      · exact fun h => h.dstId.symm.trans hsame.dstId
      · exact fun h => ⟨hsame.messageType, hsame.srcId, hsame.dstId.trans h.symm⟩
  | release =>
      exact ⟨fun h => absurd h (not_readable_release c s mem stack _), fun h => h.2.elim⟩

/-- A site that listens, with the link control of a call behind it. -/
def endedSite : Control :=
  { freshSite with rfLC := { RTCH.new with messageType := RTCH_MESSAGE_TYPE_VCALL, srcId := 1, dstId := 2 } }

/-- The release of that call cannot be read. -/
theorem release_unreadable : ¬ Readable openSettings quietStack (Built.rfct .release) (Built.intended endedSite .release)
    (Built.frame openSettings endedSite quietStack.mem .release) :=
  not_readable_release openSettings endedSite quietStack.mem quietStack _

/-- Its header can. -/
theorem header_readable :
    quietStack.mem.past = quietStack.mem.past ∧
      Readable openSettings quietStack NXDN_LICH_RFCT_RDCH endedSite.rfLC
        (Built.frame openSettings endedSite quietStack.mem
          (.header true endedSite.rfLC (Or.inl rfl) FACCH1.new fun _ => 0x00)) :=
  ⟨rfl, (readable_iff openSettings endedSite quietStack.mem rfl
    (.header true endedSite.rfLC (Or.inl rfl) FACCH1.new fun _ => 0x00)).mpr ⟨by decide, trivial⟩⟩

end Voice

end Nxdn

end DvmHost

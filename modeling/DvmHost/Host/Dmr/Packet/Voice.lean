import DvmHost.Common.Defines
import DvmHost.Common.Acl.AccessControl
import DvmHost.Common.Dmr.Data.EMB
import DvmHost.Common.Dmr.Data.EmbeddedData
import DvmHost.Common.Dmr.Lc.CSBK
import DvmHost.Common.Dmr.Lc.FullLC
import DvmHost.Common.Edac.AMBEFEC
import DvmHost.Common.Timer

/-!
# `Host.Dmr.Packet.Voice` — voice calls on a slot of a DMR host

`src/host/dmr/packet/Voice.{h,cpp}`, with the members of `dmr::Slot` that it works on and `Slot::processNetwork` and
`Slot::addFrame` of `src/host/dmr/Slot.cpp`: what a slot does with a voice frame from a radio (`process`) or from the
network (`processNetwork`), and how it fills in for bursts that do not come (`insertSilence`).

A frame is the 33 octets behind the two of the modem. The bursts that are queued for the air or written to the network
are entered in a log of each direction, with the starts of the calls, the starts of the superframes and the embedded
data that is received completely; of the transmit queue only its length and its fill are kept. The headers' own octets,
the privacy headers, the counters of errors and signal strength and the talker IDs, which only the texts of the log
show, are left out.
-/

namespace DvmHost

open RPT_RF_STATE RPT_NET_STATE

namespace Dmr

/-! ## Constants -/

/-- `DMR_SYNC_VOICE`. -/
def DMR_SYNC_VOICE : UInt8 := 0x20

/-- `DMR_SYNC_DATA`. -/
def DMR_SYNC_DATA : UInt8 := 0x40

/-- `DT_VOICE_PI_HEADER`. -/
def DT_VOICE_PI_HEADER : UInt8 := 0x00

/-- `DT_VOICE_SYNC`. -/
def DT_VOICE_SYNC : UInt8 := 0xF0

/-- `DT_VOICE`. -/
def DT_VOICE : UInt8 := 0xF1

/-- `FID_ETSI`. -/
def FID_ETSI : UInt8 := 0x00

/-- `CALL_PRIORITY_2`. -/
def CALL_PRIORITY_2 : UInt8 := 0x02

/-- `NO_HEADERS_SIMPLEX`. -/
def NO_HEADERS_SIMPLEX : Nat := 8

/-- `NO_HEADERS_DUPLEX`. -/
def NO_HEADERS_DUPLEX : Nat := 3

/-- `DMR_FRAME_LENGTH_BYTES`. -/
def DMR_FRAME_LENGTH_BYTES : Nat := 33

/-- `SYNC_MASK`. -/
def SYNC_MASK : List UInt8 := [0x0F, 0xFF, 0xFF, 0xFF, 0xFF, 0xFF, 0xF0]

/-- `BS_SOURCED_AUDIO_SYNC`. -/
def BS_SOURCED_AUDIO_SYNC : List UInt8 := [0x07, 0x55, 0xFD, 0x7D, 0xF7, 0x5F, 0x70]

/-- `MS_SOURCED_AUDIO_SYNC`. -/
def MS_SOURCED_AUDIO_SYNC : List UInt8 := [0x07, 0xF7, 0xD5, 0xDD, 0x57, 0xDF, 0xD0]

/-- `DMR_SILENCE_DATA`, without its first two octets. -/
def DMR_SILENCE_DATA : Bytes := fun i => [
  0xB9, 0xE8, 0x81, 0x52, 0x61, 0x73, 0x00, 0x2A, 0x6B, 0xB9, 0xE8,
  0x81, 0x52, 0x60, 0x00, 0x00, 0x00, 0x00, 0x00, 0x01, 0x73, 0x00,
  0x2A, 0x6B, 0xB9, 0xE8, 0x81, 0x52, 0x61, 0x73, 0x00, 0x2A, 0x6B].getD i 0

/-- `DMR_NULL_AMBE`. -/
def DMR_NULL_AMBE : Bytes := fun i => [0xB1, 0xA8, 0x22, 0x25, 0x6B, 0xD1, 0x6C, 0xCF, 0x67].getD i 0

/-! ## Frames -/

/-- `LC(flco, srcId, dstId)`. -/
def LC.new (flco : UInt8) (srcId dstId : UInt32) : LC where
  PF := false
  FLCO := flco
  FID := FID_ETSI
  srcId := srcId
  dstId := dstId
  emergency := false
  encrypted := false
  broadcast := false
  ovcm := false
  priority := CALL_PRIORITY_2
  R := false

/-- The test of the feature set for audio that can be regenerated. -/
def LC.hasAMBE (lc : LC) : Bool := lc.FID = FID_ETSI || lc.FID = FID_DMRA

/-- `Sync::addDMRAudioSync`. -/
def addDMRAudioSync (data : Bytes) (duplex : Bool) : Bytes :=
  let sync := if duplex then BS_SOURCED_AUDIO_SYNC else MS_SOURCED_AUDIO_SYNC
  (List.range 7).foldl (fun data i =>
    setByte data (i + 13) (data (i + 13) &&& ~~~(SYNC_MASK.getD i 0) ||| sync.getD i 0)) data

/-- `insertNullAudio`. -/
def insertNullAudio (data : Bytes) : Bytes :=
  let ambeBuffer : Bytes := fun i => DMR_NULL_AMBE (i % 9)
  let data := memcpy data 0 ambeBuffer 13
  let data := setByte data 13 (ambeBuffer 13 &&& 0xF0)
  let data := setByte data 19 (ambeBuffer 13 &&& 0x0F)
  memcpy data 20 (fromByte 14 ambeBuffer) 13

/-- What the members of `data::Data` are that `processNetwork` reads. -/
structure NetData where
  dataType : UInt8
  n : UInt8
  FLCO : UInt8
  srcId : UInt32
  dstId : UInt32
  data : Bytes

/-! ## Embedded signalling -/

/-- The members `m_rfEmbeddedLC`, `m_rfEmbeddedData`, `m_rfEmbeddedReadN` and `m_rfEmbeddedWriteN`, and those of the
    network. -/
structure Embedded where
  embeddedLC : EmbeddedData
  embeddedData : Fin 2 → EmbeddedData
  readN : Fin 2
  writeN : Fin 2

namespace Embedded

/-- The standby LC data: `setLC` of all three. -/
def setLC (e : Embedded) (lc : LC) : Embedded :=
  { e with embeddedLC := e.embeddedLC.setLC lc, embeddedData := fun i => (e.embeddedData i).setLC lc }

/-- By name, so that the numerals of `Fin 2` carry no proof of their own. -/
local instance neZero_two : NeZero 2 := ⟨by decide⟩

/-- `m_rfEmbeddedReadN = 0U; m_rfEmbeddedWriteN = 1U;` -/
def restart (e : Embedded) : Embedded := { e with readN := 0, writeN := 1 }

/-- The lines of a burst with sync: the two change places, and what is received now is reset. -/
def swap (e : Embedded) : Embedded :=
  let readN := e.readN + 1
  let writeN := e.writeN + 1
  { e with
    readN := readN
    writeN := writeN
    embeddedData := Function.update e.embeddedData writeN (e.embeddedData writeN).reset }

/-- `m_rfEmbeddedData[m_rfEmbeddedWriteN].addData(data, lcss)`. -/
def addData (e : Embedded) (data : Bytes) (lcss : UInt8) : Bool × Embedded :=
  let added := (e.embeddedData e.writeN).addData data lcss
  (added.1, { e with embeddedData := Function.update e.embeddedData e.writeN added.2 })

/-- The previous superframe's embedded data, or the LC for it. -/
def source (e : Embedded) : EmbeddedData :=
  if (e.embeddedData e.readN).valid then e.embeddedData e.readN else e.embeddedLC

end Embedded

/-! ## The state -/

/-- What is entered in the log of a direction. -/
inductive VoiceEvent where
  /-- A call starts with this link control. -/
  | started (lc : LC)
  /-- A superframe starts. -/
  | sync
  /-- Embedded data is received completely. -/
  | embedded (data : Bits)
  /-- A burst is put into the transmit queue; it is received, or it fills in. -/
  | queued (n : UInt8) (data : Bytes) (inserted : Bool)
  /-- A burst is written to the network. -/
  | written (n : UInt8) (data : Bytes)

/-- The members of `dmr::Slot` and of its `Voice` that voice calls work on. -/
structure Slot where
  slotNo : UInt8
  duplex : Bool
  colorCode : UInt8
  authoritative : Bool
  embeddedLCOnly : Bool
  silenceThreshold : Nat
  jitterSlots : Nat
  enableTSCC : Bool
  dedicatedTSCC : Bool
  tsccSlotNo : UInt8
  hasNetwork : Bool
  acl : AccessControl
  isNetGranted : UInt32 → Bool
  permittedDstId : UInt32
  rfState : RPT_RF_STATE
  rfLastDstId : UInt32
  rfLastSrcId : UInt32
  netState : RPT_NET_STATE
  netLastDstId : UInt32
  netLastSrcId : UInt32
  rfLC : Option LC
  netLC : Option LC
  rfTGHang : Timer
  netTGHang : Timer
  rfTimeout : Bool
  netTimeout : Bool
  netFrames : UInt32
  netLost : UInt32
  txLength : Nat
  txUsed : Nat
  lastFrame : Bytes
  lastFrameValid : Bool
  rfN : UInt8
  lastRfN : UInt8
  netN : UInt8
  rfEmbedded : Embedded
  netEmbedded : Embedded
  rfLog : List VoiceEvent
  netLog : List VoiceEvent

namespace Slot

/-- `m_txQueue.clear()`. -/
def clearQueue (s : Slot) : Slot := { s with txUsed := 0 }

/-- `addFrame`, into `m_txQueue`: whether the frame is there. Its 35 octets and their length need more than 36 free
    cells; with just as many the ring overflows and is empty, and with fewer the frame is dropped. -/
def addFrame (s : Slot) (net : Bool) : Bool × Slot :=
  if !net ∧ s.netState ≠ RS_NET_IDLE then (false, s)
  else
    let space := s.txLength - s.txUsed
    if space < DMR_FRAME_LENGTH_BYTES + 2 + 1 then
      if !net then (false, { s with txLength := s.txLength + (DMR_FRAME_LENGTH_BYTES + 2), txUsed := 0 })
      else (false, s)
    else if space = DMR_FRAME_LENGTH_BYTES + 2 + 1 then (false, { s with txUsed := 0 })
    else (true, { s with txUsed := s.txUsed + (DMR_FRAME_LENGTH_BYTES + 2 + 1) })

/-- `addFrame` of frames that are no bursts. -/
def addFrames (s : Slot) (net : Bool) (count : Nat) : Slot :=
  (List.range count).foldl (fun s _ => (s.addFrame net).2) s

/-- `addFrame` of a burst of the network. -/
def addNetBurst (s : Slot) (n : UInt8) (data : Bytes) (inserted : Bool) : Slot :=
  let added := s.addFrame true
  if added.1 then { added.2 with netLog := added.2.netLog ++ [.queued n data inserted] } else added.2

/-- `addFrame` of a burst of a radio. -/
def addRFBurst (s : Slot) (n : UInt8) (data : Bytes) : Slot :=
  let added := s.addFrame false
  if added.1 then { added.2 with rfLog := added.2.rfLog ++ [.queued n data false] } else added.2

/-- `writeNetwork` of a burst. -/
def writeNetwork (s : Slot) (n : UInt8) (data : Bytes) : Slot :=
  if s.netState ≠ RS_NET_IDLE ∨ !s.hasNetwork then s
  else { s with rfLog := s.rfLog ++ [.written n data] }

/-! ## Audio -/

variable (PRNG_TABLE : Nat → Nat)

/-- `m_fec.regenerateDMR`. -/
def regenerateDMR (data : Bytes) : Nat × Bytes := (AMBEFEC.regenerateDMR PRNG_TABLE data).getD (0, data)

/-- The audio of a burst of a radio: it is regenerated, and silence when it has too many errors. A burst without sync
    keeps its embedded signalling. -/
def regenerateAudio (s : Slot) (lc : LC) (sync : Bool) (data : Bytes) : Bytes :=
  if lc.hasAMBE then
    let (errors, data) := regenerateDMR PRNG_TABLE data
    if errors > s.silenceThreshold then
      let emb := EMB.decode data
      let data := (regenerateDMR PRNG_TABLE (insertNullAudio data)).2
      if sync then data else emb.encode data
    else data
  else data

/-! ## Calls of radios -/

/-- `CHECK_AUTHORITATIVE` and `CHECK_TRAFFIC_COLLISION`. -/
def isRFRefused (s : Slot) (dstId : UInt32) : Bool :=
  (!s.authoritative && s.permittedDstId ≠ dstId) ||
    (s.netState ≠ RS_NET_IDLE && dstId = s.netLastDstId) ||
    (s.enableTSCC && dstId = s.netLastDstId && s.isNetGranted dstId)

/-- The checks of the access lists. -/
def isRejected (s : Slot) (lc : LC) : Bool :=
  !s.acl.validateSrcId lc.srcId || (lc.FLCO = FLCO_GROUP && !s.acl.validateTGId s.slotNo lc.dstId)

/-- The lines with which a call of a radio starts, to the header that is queued. -/
def startRF (s : Slot) (lc : LC) : Slot :=
  let s := { s with
    rfLC := some lc
    rfEmbedded := (s.rfEmbedded.setLC lc).restart
    rfTimeout := false
    rfLog := s.rfLog ++ [VoiceEvent.started lc] }
  if s.duplex then s.clearQueue.addFrames false NO_HEADERS_DUPLEX else s

/-- `process` of `DT_VOICE_LC_HEADER`. -/
def processHeader (s : Slot) (data : Bytes) : Bool × Slot :=
  if s.rfState = RS_RF_AUDIO then (true, s)
  else match FullLC.decode data DT_VOICE_LC_HEADER with
    | none => (false, s)
    | some lc =>
        if s.isRFRefused lc.dstId then (false, { s with rfState := RS_RF_LISTENING })
        else if s.isRejected lc then
          (false, { s with
            rfLastDstId := 0
            rfLastSrcId := 0
            rfTGHang := s.rfTGHang.stop
            rfState := RS_RF_REJECTED })
        else
          let s := s.startRF lc
          (true, { s with rfState := RS_RF_AUDIO, rfLastDstId := lc.dstId, rfLastSrcId := lc.srcId })

/-- `process` of `DT_VOICE_PI_HEADER`. -/
def processPIHeader (s : Slot) : Bool × Slot :=
  if s.rfState ≠ RS_RF_AUDIO then (false, s) else (true, if s.duplex then s.addFrames false 1 else s)

/-- The lines of a burst in a call: the hang timers and the last IDs. -/
def touchRF (s : Slot) (lc : LC) : Slot :=
  { s with
    rfTGHang := s.rfTGHang.start
    netTGHang := s.netTGHang.stop
    rfLastDstId := lc.dstId
    rfLastSrcId := lc.srcId }

/-- The lines of a burst with sync in a call, between its audio and its frames. -/
def syncRF (s : Slot) (lc : LC) : Slot :=
  { s.touchRF lc with rfEmbedded := s.rfEmbedded.swap, rfLog := s.rfLog ++ [VoiceEvent.sync] }

/-- The frames of a burst. A burst without sync is written before it is queued; neither hinders the other. -/
def repeatBurst (s : Slot) (n : UInt8) (queued written : Bytes) : Slot :=
  (if s.duplex then s.addRFBurst n queued else s).writeNetwork n written

/-- `process` of a burst with sync in a call. -/
def processSync (s : Slot) (lc : LC) (data : Bytes) : Bool × Slot :=
  let data := regenerateAudio PRNG_TABLE s lc true (addDMRAudioSync data s.duplex)
  let s := ({ s with lastRfN := 0 }).syncRF lc
  if !s.rfTimeout then (true, s.repeatBurst 0 data data) else (false, s)

/-- `emb.setColorCode(m_slot->m_colorCode); emb.setLCSS(lcss); emb.encode(data);` -/
def encodeEMB (s : Slot) (emb : EMB) (burst : UInt8 × Bytes) : Bytes :=
  { emb with colorCode := s.colorCode, LCSS := burst.1 }.encode burst.2

/-- What is written when embedded data is received completely. -/
def embeddedEvent (e : Embedded) (complete : Bool) : List VoiceEvent :=
  if complete then [.embedded (e.embeddedData e.writeN).data] else []

/-- The lines of a burst without sync in a call, between its audio and its frames. -/
def receiveRF (s : Slot) (lc : LC) (data : Bytes) : Slot :=
  let added := s.rfEmbedded.addData data (EMB.decode data).LCSS
  { s.touchRF lc with rfEmbedded := added.2, rfLog := s.rfLog ++ embeddedEvent added.2 added.1 }

/-- `process` of a burst without sync in a call. -/
def processBurst (s : Slot) (lc : LC) (control : UInt8) (data : Bytes) : Bool × Slot :=
  let n := control &&& 0x0F
  let s := { s with rfN := n }
  if n > 5 then (false, s)
  else if n = s.lastRfN then (false, s)
  else if n ≠ s.lastRfN + 1 then (false, s)
  else
    let data := regenerateAudio PRNG_TABLE s lc false data
    let emb := EMB.decode data
    let s := ({ s with lastRfN := n }).receiveRF lc data
    let written := s.encodeEMB emb (s.rfEmbedded.source.getData data n)
    let queued :=
      if s.embeddedLCOnly then s.encodeEMB emb (s.rfEmbedded.embeddedLC.getData written n) else written
    if !s.rfTimeout then (true, s.repeatBurst n queued written) else (false, s)

/-- A fragment for the link control that the slot waits for. -/
def collectLC (s : Slot) (data : Bytes) : Slot :=
  { s with rfEmbedded :=
    { s.rfEmbedded with embeddedLC := (s.rfEmbedded.embeddedLC.addData data (EMB.decode data).LCSS).2 } }

/-- The first burst of a call that is joined late: its own embedded signalling is kept. -/
def enterLate (s : Slot) (lc : LC) (control : UInt8) (data : Bytes) : Bool × Slot :=
  let n := control &&& 0x0F
  let s := s.startRF lc
  let s := { s with rfN := n }
  if n > 5 then (false, s)
  else if n = s.lastRfN then (false, s)
  else
    let data := regenerateAudio PRNG_TABLE s lc false ((EMB.decode data).encode data)
    let s := ({ s with lastRfN := n }).repeatBurst n data data
    (true, { s.touchRF lc with rfState := RS_RF_AUDIO })

/-- `process` of a burst without sync while the slot waits for the link control of a call. -/
def processLateEntry (s : Slot) (control : UInt8) (data : Bytes) : Bool × Slot :=
  if (EMB.decode data).colorCode ≠ s.colorCode then (false, s)
  else
    let s := s.collectLC data
    match s.rfEmbedded.embeddedLC.getLC with
    | none => (false, s)
    | some lc =>
        if s.isRFRefused lc.dstId then (false, { s with rfState := RS_RF_LISTENING })
        else if s.isRejected lc then (false, { s with rfState := RS_RF_REJECTED })
        else enterLate PRNG_TABLE s lc control data

/-- `process`, of a frame and the octet of the modem in front of it. -/
def process (s : Slot) (control : UInt8) (data : Bytes) : Bool × Slot :=
  if control &&& DMR_SYNC_DATA = DMR_SYNC_DATA then
    let dataType := control &&& 0x0F
    if dataType = DT_VOICE_LC_HEADER then s.processHeader data
    else if dataType = DT_VOICE_PI_HEADER then s.processPIHeader
    else (false, s)
  else
    match s.rfState, s.rfLC with
    | RS_RF_AUDIO, some lc =>
        if control &&& DMR_SYNC_VOICE = DMR_SYNC_VOICE then processSync PRNG_TABLE s lc data
        else processBurst PRNG_TABLE s lc control data
    | RS_RF_LISTENING, _ =>
        if control &&& DMR_SYNC_VOICE = DMR_SYNC_VOICE then
          (false, { s with
            rfEmbedded := { s.rfEmbedded with embeddedLC := s.rfEmbedded.embeddedLC.reset }
            rfState := RS_RF_LATE_ENTRY })
        else (false, s)
    | RS_RF_LATE_ENTRY, _ =>
        if control &&& DMR_SYNC_VOICE = DMR_SYNC_VOICE then (false, s)
        else processLateEntry PRNG_TABLE s control data
    | _, _ => (false, s)

/-! ## Filling in -/

/-- The silence before the loop: the last audio block three times, in the octets that these have; the others are what
    stood on the stack. -/
def silence (s : Slot) (stack : Bytes) : Bytes :=
  if s.lastFrameValid then
    let data := memcpy stack 0 (fromByte 24 s.lastFrame) 9
    let data := memcpy data 24 data 9
    let data := memcpy data 9 data 5
    memcpy data 19 (fromByte 4 data) 5
  else DMR_SILENCE_DATA

/-- The frame of a turn of the loop: after the first it is the silence, if the audio is AMBE. -/
def nextFiller (lc : LC) (turn : Nat) (sd : Slot × Bytes) : Slot × Bytes :=
  if lc.hasAMBE ∧ turn > 0 then ({ sd.1 with lastFrameValid := false }, DMR_SILENCE_DATA) else sd

/-- The sync or the embedded signalling of a burst that fills in. -/
def fillerBurst (s : Slot) (n : UInt8) (data : Bytes) : Bytes :=
  if n = 0 then addDMRAudioSync data s.duplex else s.encodeEMB {} (s.netEmbedded.embeddedLC.getData data n)

/-- Number 0 starts a superframe. -/
def markSync (s : Slot) (n : UInt8) : Slot := if n = 0 then { s with netLog := s.netLog ++ [.sync] } else s

/-- `m_netN = n; m_slot->m_netFrames++; m_slot->m_netLost++;` -/
def countLost (s : Slot) (n : UInt8) : Slot :=
  { s with netN := n, netFrames := s.netFrames + 1, netLost := s.netLost + 1 }

/-- A turn of the loop of `insertSilence`, on the slot and the frame. -/
def insertOne (lc : LC) (turn : Nat) (sd : Slot × Bytes) : Slot × Bytes :=
  let sd := nextFiller lc turn sd
  let n := (sd.1.netN + 1) % 6
  let data := sd.1.fillerBurst n sd.2
  ((((sd.1.markSync n).addNetBurst n data true).countLost n), data)

/-- `insertSilence(count)`. -/
def insertCount (s : Slot) (lc : LC) (stack : Bytes) (count : Nat) : Slot :=
  ((List.range count).foldl (fun sd turn => insertOne lc turn sd) (s, s.silence stack)).1

/-- The bursts that are missing before one of number `seqNo`. -/
def missing (s : Slot) (seqNo : UInt8) : Nat := (seqNo.toNat + 6 - ((s.netN + 1) % 6).toNat) % 6

/-- `insertSilence(data, seqNo)`. -/
def insertSilence (s : Slot) (lc : LC) (stack data : Bytes) (seqNo : UInt8) : Bool × Slot :=
  if seqNo = s.netN then (false, s)
  else
    let s := if (s.netN + 1) % 6 = seqNo then s else s.insertCount lc stack (s.missing seqNo)
    (true, { s with lastFrame := data, lastFrameValid := true })

/-! ## Calls of the network -/

/-- A hang timer that runs for another destination. -/
def isHanging (lastDstId : UInt32) (hang : Timer) (dstId : UInt32) : Bool :=
  lastDstId ≠ 0 && lastDstId ≠ dstId && hang.isRunning && !hang.hasExpired

/-- `CHECK_NET_AUTHORITATIVE`. -/
def isNetUnpermitted (s : Slot) (dstId : UInt32) : Bool := !s.authoritative && s.permittedDstId ≠ dstId

/-- `CHECK_NET_TRAFFIC_COLLISION`. -/
def isNetCollision (s : Slot) (dstId : UInt32) : Bool :=
  isHanging s.rfLastDstId s.rfTGHang dstId || isHanging s.netLastDstId s.netTGHang dstId

/-- The standby LC data of a call. -/
def standby (s : Slot) (lc : LC) : Slot := { s with netEmbedded := (s.netEmbedded.setLC lc).restart }

/-- The other lines with which a call of the network starts; `net` is the flag of the headers' `addFrame`. -/
def startNet (s : Slot) (lc : LC) (net : Bool) : Slot :=
  let s := { s with
    netLC := some lc
    lastFrameValid := false
    netTimeout := false
    netFrames := 0
    netLost := 0
    netLog := s.netLog ++ [VoiceEvent.started lc] }
  let s := if s.duplex then s.clearQueue else s
  let s := s.addFrames true s.jitterSlots
  let s := s.addFrames net (if s.duplex then NO_HEADERS_DUPLEX else NO_HEADERS_SIMPLEX)
  { s with
    netState := RS_NET_AUDIO
    netLastDstId := lc.dstId
    netLastSrcId := lc.srcId
    netTGHang := s.netTGHang.start }

/-- `processNetwork` of `DT_VOICE_LC_HEADER`: a header that cannot be decoded is replaced. -/
def netHeader (s : Slot) (d : NetData) : Slot :=
  if s.netState = RS_NET_AUDIO then s
  else
    let lc := (FullLC.decode d.data DT_VOICE_LC_HEADER).getD (LC.new d.FLCO d.srcId d.dstId)
    if s.isNetUnpermitted lc.dstId || s.isNetCollision lc.dstId then s
    else (s.standby lc).startNet lc true

/-- `processNetwork` of `DT_VOICE_PI_HEADER`. It starts a call without the standby LC data. -/
def netPIHeader (s : Slot) (d : NetData) : Slot :=
  if s.netState ≠ RS_NET_AUDIO then
    let lc := LC.new d.FLCO d.srcId d.dstId
    if s.isNetUnpermitted lc.dstId || s.isNetCollision lc.dstId then s
    else (s.startNet lc false).addFrames true 1
  else s.addFrames true 1

/-- The audio of a burst of the network. -/
def netAudio (lc : LC) (data : Bytes) : Bytes := if lc.hasAMBE then (regenerateDMR PRNG_TABLE data).2 else data

/-- The lost packet data of the first burst of a call. -/
def initialise (s : Slot) (data : Bytes) : Slot :=
  if s.netFrames = 0 then { s with lastFrame := data, lastFrameValid := true, netN := 5, netLost := 0 } else s

/-- The lines of a burst with sync in a call. -/
def netSyncBurst (s : Slot) (lc : LC) (d : NetData) : Slot :=
  let data := addDMRAudioSync (netAudio PRNG_TABLE lc d.data) s.duplex
  let s := s.initialise data
  let s := { s with netEmbedded := s.netEmbedded.swap, netLog := s.netLog ++ [VoiceEvent.sync] }
  let s := if s.netTimeout then s else s.addNetBurst 0 data false
  { s with netFrames := s.netFrames + 1, netN := d.n }

/-- The lines of `DT_VOICE_SYNC` before those of the burst: a call that is joined late starts here. -/
def enterSync (s : Slot) (d : NetData) : Option (Slot × LC) :=
  match s.netState, s.netLC with
  | RS_NET_IDLE, _ =>
      let lc := LC.new d.FLCO d.srcId d.dstId
      if s.isNetUnpermitted lc.dstId then none else some ((s.standby lc).startNet lc false, lc)
  | RS_NET_AUDIO, some lc => some (s, lc)
  | _, _ => none

/-- `processNetwork` of `DT_VOICE_SYNC`. -/
def netSync (s : Slot) (d : NetData) : Slot :=
  match s.enterSync d with
  | some (s, lc) => netSyncBurst PRNG_TABLE s lc d
  | none => s

/-- The lines of a burst without sync in a call, to its embedded data. -/
def receiveNet (s : Slot) (data : Bytes) : Slot :=
  let added := s.netEmbedded.addData data (EMB.decode data).LCSS
  { s with
    netTGHang := s.netTGHang.start
    netEmbedded := added.2
    netLog := s.netLog ++ embeddedEvent added.2 added.1 }

/-- Where the embedded signalling of a burst comes from. -/
def netSource (s : Slot) : EmbeddedData :=
  if s.embeddedLCOnly then s.netEmbedded.embeddedLC else s.netEmbedded.source

/-- The lines of a burst without sync in a call. -/
def netVoiceBurst (s : Slot) (lc : LC) (stack : Bytes) (d : NetData) : Slot :=
  let data := netAudio PRNG_TABLE lc d.data
  let s := s.receiveNet data
  let data := s.encodeEMB (EMB.decode data) (s.netSource.getData data d.n)
  let inserted := (s.initialise data).insertSilence lc stack data d.n
  let s := if inserted.1 ∧ !inserted.2.netTimeout then inserted.2.addNetBurst d.n data false else inserted.2
  { s with netFrames := s.netFrames + 1, netN := d.n }

/-- `processNetwork` of `DT_VOICE`. -/
def netVoice (s : Slot) (stack : Bytes) (d : NetData) : Slot :=
  match s.netState, s.netLC with
  | RS_NET_AUDIO, some lc => netVoiceBurst PRNG_TABLE s lc stack d
  | _, _ => s

/-- `Voice::processNetwork`. -/
def voiceNetwork (s : Slot) (stack : Bytes) (d : NetData) : Slot :=
  if d.dataType = DT_VOICE_LC_HEADER then s.netHeader d
  else if d.dataType = DT_VOICE_PI_HEADER then s.netPIHeader d
  else if d.dataType = DT_VOICE_SYNC then netSync PRNG_TABLE s d
  else if d.dataType = DT_VOICE then netVoice PRNG_TABLE s stack d
  else s

/-- A hang timer that runs for the destination starts again. -/
def renewed (lastDstId : UInt32) (hang : Timer) (dstId : UInt32) : Timer :=
  if lastDstId = dstId ∧ hang.isRunning ∧ !hang.hasExpired then hang.start else hang

/-- The hang timer of the radio's destination. -/
def renewRF (s : Slot) (dstId : UInt32) : Slot :=
  if s.rfLastDstId ≠ 0 then { s with rfTGHang := renewed s.rfLastDstId s.rfTGHang dstId } else s

/-- Whether the network's destination is checked. -/
def isNetChecked (s : Slot) (dstId : UInt32) : Bool :=
  s.authoritative && s.netLastDstId ≠ 0 && dstId ≠ 0 && s.netState ≠ RS_NET_IDLE

/-- The hang timer of the network's destination. -/
def renewNet (s : Slot) (dstId : UInt32) : Slot :=
  if s.isNetChecked dstId then { s with netTGHang := renewed s.netLastDstId s.netTGHang dstId } else s

/-- The checks of `Slot::processNetwork`: whether the frame is processed. -/
def gate (s : Slot) (d : NetData) : Bool × Slot :=
  if s.rfState ≠ RS_RF_LISTENING then (false, s)
  else if isHanging s.rfLastDstId s.rfTGHang d.dstId then (false, s)
  else
    let s := s.renewRF d.dstId
    if s.isNetChecked d.dstId ∧ isHanging s.netLastDstId s.netTGHang d.dstId then (false, s)
    else
      let s := s.renewNet d.dstId
      if s.isNetUnpermitted d.dstId then (false, s)
      else if s.enableTSCC ∧ s.dedicatedTSCC ∧ s.slotNo = s.tsccSlotNo then (false, s)
      else (true, s)

/-- `Slot::processNetwork`, of a voice frame. -/
def processNetwork (s : Slot) (stack : Bytes) (d : NetData) : Slot :=
  let gated := s.gate d
  if gated.1 then voiceNetwork PRNG_TABLE gated.2 stack d else gated.2

/-- The lines of `clock` that fill in for audio that is lost. -/
def fillIn (s : Slot) (stack : Bytes) : Slot :=
  match s.netState, s.netLC with
  | RS_NET_AUDIO, some lc => s.insertCount lc stack s.jitterSlots
  | _, _ => s

end Slot

end Dmr

end DvmHost

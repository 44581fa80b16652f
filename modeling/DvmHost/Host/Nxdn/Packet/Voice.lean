import DvmHost.Common.Edac.AMBEFEC
import DvmHost.Host.Nxdn.Control

/-!
# `Host.Nxdn.Packet.Voice` — voice calls of an NXDN host

`src/host/nxdn/packet/Voice.{h,cpp}`: what the host does with a voice frame from a radio (`process`) or from the
network (`processNetwork`). Frames come here without the scrambler. The log and the signal strength are left out.
-/

namespace DvmHost

open RPT_RF_STATE RPT_NET_STATE

namespace Nxdn

/-- `NXDN_NULL_AMBE`. -/
def NXDN_NULL_AMBE : Bytes := fun i => [0xB1, 0xA8, 0x22, 0x25, 0x6B, 0xD1, 0x6C, 0xCF, 0x67].getD i 0

/-- `NXDN_FSW_LICH_SACCH_LENGTH_BYTES`. -/
def NXDN_FSW_LICH_SACCH_LENGTH_BYTES : Nat := 12

namespace Voice

open Control

variable (c : Settings)

/-! ## The FACCH1 -/

/-- `valid = facch.decode(data, first); if (!valid) valid = facch.decode(data, second);` -/
def decodeEither (mem : Channel.Memory) (first second : Nat) (data : Bytes) : Bool × FACCH1 :=
  let decoded := FACCH1.new.decode mem data first
  if decoded.1 then decoded else decoded.2.decode mem data second

/-- `NXDN_FSW_LENGTH_BITS + NXDN_LICH_LENGTH_BITS + NXDN_SACCH_LENGTH_BITS + NXDN_FACCH1_FEC_LENGTH_BITS`. -/
def LATE_FACCH1_2_OFFSET : Nat :=
  LICH.NXDN_FSW_LENGTH_BITS + LICH.NXDN_LICH_LENGTH_BITS + SACCH.NXDN_SACCH_LENGTH_BITS + NXDN_FACCH1_FEC_LENGTH_BITS

/-- The FACCH1 of a frame in which a call is entered late. `second` is where the second of two is looked for. -/
def decodeStolen (mem : Channel.Memory) (second : Nat) (option : UInt8) (data : Bytes) : Bool × FACCH1 :=
  if option = NXDN_LICH_STEAL_FACCH then decodeEither mem FACCH1_1_OFFSET second data
  else if option = NXDN_LICH_STEAL_FACCH1_1 then FACCH1.new.decode mem data FACCH1_1_OFFSET
  else if option = NXDN_LICH_STEAL_FACCH1_2 then FACCH1.new.decode mem data FACCH1_2_OFFSET
  else (false, FACCH1.new)

/-- The link control in a FACCH1: ten octets of `buffer` are from there. -/
def linkControl (s : Control) (stack : Stack) (facch : FACCH1) : RTCH × Control :=
  s.decodeRTCH RTCH.new 10 (facch.getData stack.buffer) NXDN_FACCH1_FEC_LENGTH_BITS 0

/-- The frame that opens a call with this link control, made of the octets in `data`. -/
def openingFrame (s : Control) (mem : Channel.Memory) (outbound : Bool) (lc : RTCH) (facch : FACCH1) (data : Bytes) :
    Bytes × Control :=
  let encoded := s.encodeRTCH lc 22 (fun _ => 0x00) NXDN_RTCH_LC_LENGTH_BITS
  (headerFrame c mem outbound (facch.setData encoded.1) data, encoded.2)

/-! ## The superframe of the SACCH -/

/-- Where a quarter is read, `none` for what is no quarter. -/
def quarterOffset (structure_ : UInt8) : Option Nat :=
  if structure_ = SACCH.NXDN_SR_1_4 then some 0
  else if structure_ = SACCH.NXDN_SR_2_4 then some 18
  else if structure_ = SACCH.NXDN_SR_3_4 then some 36
  else if structure_ = SACCH.NXDN_SR_4_4 then some 54
  else none

/-- The mask behind a quarter: the first one sets it, by the message type that was read there. -/
def quarterMask (mask structure_ messageType : UInt8) : UInt8 :=
  if structure_ = SACCH.NXDN_SR_1_4 then if messageType = RTCH_MESSAGE_TYPE_VCALL then 0x01 else 0x00
  else if structure_ = SACCH.NXDN_SR_2_4 then mask ||| 0x02
  else if structure_ = SACCH.NXDN_SR_3_4 then mask ||| 0x04
  else if structure_ = SACCH.NXDN_SR_4_4 then mask ||| 0x08
  else mask

/-- The switch over the structure: the link control and the mask of a side. `message` has three octets, of which 18 bits
    are the quarter. -/
def takeQuarter (s : Control) (stack : Stack) (sacch : SACCH) (lc : RTCH) (mask : UInt8) :
    (RTCH × UInt8) × Control :=
  match quarterOffset sacch.m_structure with
  | none => ((lc, mask), s)
  | some offset =>
      let decoded := s.decodeRTCH lc 3 (sacch.getData stack.message) 18 offset
      ((decoded.1, quarterMask mask sacch.m_structure decoded.1.messageType), decoded.2)

/-! ## The audio -/

/-- `ambe.regenerateNXDN(data + 2U + NXDN_FSW_LICH_SACCH_LENGTH_BYTES + n)`. -/
def regenerateAt (n : Nat) (data : Bytes) : Nat × Bytes :=
  let bytes := fromByte (NXDN_FSW_LICH_SACCH_LENGTH_BYTES + n) data
  let regenerated := (AMBEFEC.regenerateNXDN c.PRNG_TABLE bytes).getD (0, bytes)
  (regenerated.1, memcpy data (NXDN_FSW_LICH_SACCH_LENGTH_BYTES + n) regenerated.2 9)

/-- The audio at these places: the errors, and the frame, with silence there when they are too many. -/
def regenerateAudio (places : List Nat) (threshold : Option UInt32) (data : Bytes) : Nat × Bytes :=
  let audio := places.foldl (fun audio n =>
    let regenerated := regenerateAt c n audio.2
    (audio.1 + regenerated.1, regenerated.2)) (0, data)
  let silent := match threshold with
    | some threshold => decide (audio.1 > threshold.toNat)
    | none => false
  (audio.1,
    if silent then
      places.foldl (fun data n => memcpy data (NXDN_FSW_LICH_SACCH_LENGTH_BYTES + n) NXDN_NULL_AMBE 9) audio.2
    else audio.2)

/-- `valid = facch1.decode(data, offset); if (valid) facch1.encode(data, offset);` -/
def regenerateFACCH1 (mem : Channel.Memory) (offset : Nat) (data : Bytes) : Bytes :=
  let decoded := FACCH1.new.decode mem data offset
  if decoded.1 then decoded.2.encode mem data offset else data

/-- The lines `// regenerate the audio and interpret the FACCH1 data`: the errors, the bits, and the frame. Only the
    audio of radios is replaced by silence. -/
def regenerateVoice (mem : Channel.Memory) (threshold : Option UInt32) (option : UInt8) (data : Bytes) :
    Nat × Nat × Bytes :=
  if option = NXDN_LICH_STEAL_NONE then
    let audio := regenerateAudio c [0, 9, 18, 27] threshold data
    (audio.1, 188, audio.2)
  else if option = NXDN_LICH_STEAL_FACCH1_1 then
    let audio := regenerateAudio c [18, 27] (threshold.map (· / 2)) (regenerateFACCH1 mem FACCH1_1_OFFSET data)
    (audio.1, 94, audio.2)
  else if option = NXDN_LICH_STEAL_FACCH1_2 then
    let audio := regenerateAudio c [0, 9] (threshold.map (· / 2)) data
    (audio.1, 94, regenerateFACCH1 mem FACCH1_2_OFFSET audio.2)
  else (0, 0, regenerateFACCH1 mem FACCH1_2_OFFSET (regenerateFACCH1 mem FACCH1_1_OFFSET data))

/-- The frame of a call, to the scrambler: the sync, the LICH, the SACCH if it is valid, and the voice. -/
def regenerate (mem : Channel.Memory) (outbound : Bool) (threshold : Option UInt32) (option : UInt8) (data : Bytes) :
    Nat × Nat × Bytes :=
  let data := addNXDNSync data
  let lich : LICH := { LICH.new with
    m_rfct := NXDN_LICH_RFCT_RDCH
    m_fct := NXDN_LICH_USC_SACCH_SS
    m_option := option
    m_outbound := outbound }
  let data := lich.encode data
  let sacch := SACCH.new.decode mem data
  let data := if sacch.1 then (SACCH.encode { sacch.2 with m_ran := c.ran.toUInt8 } mem data).2 else data
  let voice := regenerateVoice c mem threshold option data
  (voice.1, voice.2.1, scrambler voice.2.2)

/-! ## Checks -/

/-- `m_nxdn->m_rfState = RS_RF_REJECTED`, and the lines around it. -/
def reject (s : Control) (id : UInt16) : Control :=
  { s with
    lastRejectId := id.toUInt32
    rfLastDstId := 0
    rfLastSrcId := 0
    rfTGHang := s.rfTGHang.stop
    rfState := RS_RF_REJECTED }

/-- `VALID_SRCID` and `VALID_DSTID`: whether the frame goes on, and the state. -/
def validateIDs (s : Control) (srcId dstId : UInt16) (group : Bool) : Bool × Control :=
  if !s.acl.validateSrcId srcId.toUInt32 then (false, reject s srcId)
  else if !group && !s.acl.validateSrcId dstId.toUInt32 then (false, reject s dstId)
  else if group && !s.acl.validateTGId dstId.toUInt32 then (false, reject s dstId)
  else (true, s)

/-- `CHECK_TRAFFIC_COLLISION`. The tests for the network's destination behind the first one cannot succeed any more. -/
def checkTrafficCollision (s : Control) (dstId : UInt16) : Bool × Control :=
  if s.netState ≠ RS_NET_IDLE then
    if dstId.toUInt32 = s.netLastDstId then (false, { s.resetRF with rfState := RS_RF_LISTENING })
    else (true, s.resetNet)
  else (true, s)

/-- The checks of a call of a radio. -/
def admitRF (s : Control) (lc : RTCH) : Bool × Control :=
  let checked := checkTrafficCollision s lc.dstId
  if !checked.1 then checked else validateIDs checked.2 lc.srcId lc.dstId lc.group

/-- The hang timer of the radios, in `CHECK_NET_TRAFFIC_COLLISION`. -/
def checkRFHang (s : Control) (dstId : UInt16) : Bool × Control :=
  if s.rfLastDstId ≠ 0 ∧ isHanging s.rfTGHang then
    if s.rfLastDstId ≠ dstId.toUInt32 then (false, s.resetNet)
    else (true, { s with rfTGHang := s.rfTGHang.start })
  else (true, s)

/-- The hang timer of the network, in `CHECK_NET_TRAFFIC_COLLISION`. -/
def checkNetHang (s : Control) (dstId : UInt16) : Bool × Control :=
  if s.netLastDstId ≠ 0 ∧ isHanging s.netTGHang then
    if s.netLastDstId ≠ dstId.toUInt32 then (false, s)
    else (true, { s with netTGHang := s.netTGHang.start })
  else (true, s)

/-- `CHECK_NET_TRAFFIC_COLLISION`. -/
def checkNetTrafficCollision (s : Control) (dstId : UInt16) : Bool × Control :=
  let rf := checkRFHang s dstId
  if !rf.1 then rf
  else if c.authoritative then
    let net := checkNetHang rf.2 dstId
    if !net.1 then net
    else if net.2.rfState ≠ RS_RF_LISTENING then (false, net.2.resetNet)
    else net
  else if rf.2.permittedDstId ≠ dstId.toUInt32 then (false, rf.2.resetNet)
  else rf

/-- The checks of a call of the network. -/
def admitNet (s : Control) (lc : RTCH) : Bool × Control :=
  let checked := checkNetTrafficCollision c s lc.dstId
  if !checked.1 then checked else validateIDs checked.2 lc.srcId lc.dstId lc.group

/-- The test whether the site may take this destination. -/
def isUnpermitted (s : Control) (dstId : UInt16) : Bool := !c.authoritative && s.permittedDstId ≠ dstId.toUInt32

/-! ## Calls of radios -/

/-- The lines with which a frame of a radio takes the channel. -/
def touchRF (s : Control) (lc : RTCH) : Control :=
  { s with
    rfTGHang := s.rfTGHang.start
    netTGHang := s.netTGHang.stop
    rfLastDstId := lc.dstId.toUInt32
    rfLastSrcId := lc.srcId.toUInt32 }

/-- The lines with which a call of a radio starts. -/
def startRF (s : Control) : Control :=
  { s with rfFrames := 0, rfErrs := 0, rfBits := 1, rfTimeout := s.rfTimeout.start, rfState := RS_RF_AUDIO }

/-- `addFrame(data, NXDN_FRAME_LENGTH_BYTES + 2U)`: the length is taken for `net`. -/
def repeatFrame (s : Control) (frame : Frame) : Control := if c.duplex then s.addFrame frame true false else s

/-- The frame of a header of a radio, and what the end of a call or the start of one changes. -/
def relayHeader (s : Control) (stack : Stack) (lc : RTCH) (facch : FACCH1) (frame : Frame) : Control :=
  let s := touchRF s lc
  let s := { s with rfLC := s.rfLC.copy lc }
  let header := openingFrame c s stack.mem c.duplex s.rfLC facch frame.data
  let s := writeNetwork c header.2 { frame with data := header.1 }
  let tag := if c.duplex then if lc.messageType = RTCH_MESSAGE_TYPE_TX_REL then TAG_EOT else TAG_DATA else frame.tag
  let s := repeatFrame c s { tag, data := header.1 }
  if tag = TAG_EOT then { s with rfFrames := s.rfFrames + 1 }.writeEndRF else startRF s

/-- `process` of a header. -/
def processHeader (s : Control) (stack : Stack) (frame : Frame) : Bool × Control :=
  let decoded := decodeEither stack.mem FACCH1_1_OFFSET FACCH1_2_OFFSET frame.data
  if !decoded.1 then (false, s)
  else
    let received := linkControl s stack decoded.2
    let lc := received.1
    let s := received.2
    if isUnpermitted c s lc.dstId ∧ s.rfState ≠ RS_RF_AUDIO then
      (false, { s with rfState := RS_RF_LISTENING, rfMask := 0x00, rfLC := s.rfLC.reset })
    else if lc.messageType = RTCH_MESSAGE_TYPE_TX_REL then
      if s.rfState ≠ RS_RF_AUDIO then
        (false, { s with rfState := RS_RF_LISTENING, rfMask := 0x00, rfLC := s.rfLC.reset, frameLossCnt := 0 })
      else (true, relayHeader c s stack lc decoded.2 frame)
    else if lc.messageType = RTCH_MESSAGE_TYPE_VCALL then
      let admitted := admitRF s lc
      if !admitted.1 then admitted else (true, relayHeader c admitted.2 stack lc decoded.2 frame)
    else (false, s)

/-- A call of a radio starts with the link control that is there. The network is written the frame that was received,
    and not the one that opens the call. -/
def enterRF (s : Control) (stack : Stack) (facch : FACCH1) (frame : Frame) : Bool × Control :=
  let admitted := admitRF s s.rfLC
  if !admitted.1 then admitted
  else
    let s := startRF (touchRF admitted.2 s.rfLC)
    let start := openingFrame c s stack.mem c.duplex s.rfLC facch fun _ => 0x00
    let s := writeNetwork c start.2 frame
    (true, repeatFrame c s { tag := TAG_DATA, data := start.1 })

/-- The late entry of `process`: whether a call has started, and the state. The second of two FACCH1 is looked for 34
    bits before its place. -/
def lateEntry (s : Control) (stack : Stack) (option : UInt8) (sacch : SACCH) (frame : Frame) : Bool × Control :=
  let stolen := decodeStolen stack.mem LATE_FACCH1_2_OFFSET option frame.data
  if stolen.1 then
    let received := linkControl s stack stolen.2
    let s := received.2
    if received.1.messageType ≠ RTCH_MESSAGE_TYPE_VCALL then (false, s)
    else enterRF c { s with rfLC := s.rfLC.copy received.1 } stack stolen.2 frame
  else
    let quarter := takeQuarter s stack sacch s.rfLC s.rfMask
    let s : Control := { quarter.2 with rfLC := quarter.1.1, rfMask := quarter.1.2 }
    if s.rfMask ≠ 0x0F then (false, s)
    else if s.rfLC.messageType ≠ RTCH_MESSAGE_TYPE_VCALL then (false, s)
    else enterRF c s stack stolen.2 frame

/-- The frame of a call of a radio. -/
def relayVoice (s : Control) (stack : Stack) (option : UInt8) (frame : Frame) : Control :=
  if s.rfState = RS_RF_AUDIO then
    let s := (s.encodeRTCH s.rfLC 22 (fun _ => 0x00) NXDN_RTCH_LC_LENGTH_BITS).2
    let voice := regenerate c stack.mem c.duplex (some c.silenceThreshold) option frame.data
    let s := { s with rfErrs := s.rfErrs + voice.1.toUInt32, rfBits := s.rfBits + voice.2.1.toUInt32 }
    let s := writeNetwork c s { tag := TAG_DATA, data := voice.2.2 }
    let s := repeatFrame c s { tag := TAG_DATA, data := voice.2.2 }
    { s with rfFrames := s.rfFrames + 1 }
  else s

/-- `process`, of a frame with this functional channel type and option. -/
def process (s : Control) (stack : Stack) (fct option : UInt8) (frame : Frame) : Bool × Control :=
  let sacch := SACCH.new.decode stack.mem frame.data
  if sacch.1 ∧ sacch.2.m_ran.toUInt32 ≠ c.ran ∧ sacch.2.m_ran ≠ 0 then (false, s)
  else if !sacch.1 ∧ s.rfState = RS_RF_LISTENING then (false, s)
  else if fct = NXDN_LICH_USC_SACCH_NS then processHeader c s stack frame
  else if s.rfState = RS_RF_LISTENING then
    let entered := lateEntry c s stack option sacch.2 frame
    if entered.1 then (true, relayVoice c entered.2 stack option frame) else (false, entered.2)
  else (true, relayVoice c s stack option frame)

/-! ## Calls of the network -/

/-- The lines with which a frame of the network takes the channel. -/
def touchNet (s : Control) (lc : RTCH) : Control :=
  { s with
    netTGHang := s.netTGHang.start
    netLastDstId := lc.dstId.toUInt32
    netLastSrcId := lc.srcId.toUInt32 }

/-- `addFrame(data, NXDN_FRAME_LENGTH_BYTES + 2U, true)`: the length is taken for `net` and the flag for `imm`. -/
def repeatNetHeader (s : Control) (frame : Frame) : Control := if c.duplex then s.addFrame frame true true else s

/-- The frame of a header of the network, and what the end of a call or the start of one changes. The FACCH1 is the one
    that was received. -/
def relayNetHeader (s : Control) (stack : Stack) (lc : RTCH) (facch : FACCH1) (frame : Frame) : Control :=
  let s := touchNet s lc
  let s := { s with netLC := s.netLC.copy lc }
  let data := headerFrame c stack.mem true facch frame.data
  let tag := if c.duplex then if lc.messageType = RTCH_MESSAGE_TYPE_TX_REL then TAG_EOT else TAG_DATA else frame.tag
  let s := repeatNetHeader c s { tag, data }
  if tag = TAG_EOT then { s with netFrames := s.netFrames + 1 }.writeEndNet
  else { s with netFrames := 0, netTimeout := s.netTimeout.start, netState := RS_NET_AUDIO }

/-- `processNetwork` of a header. `dstId` is the destination in the header of the message; the checks are made for the
    one in the frame. -/
def processNetHeader (s : Control) (stack : Stack) (dstId : UInt16) (frame : Frame) : Bool × Control :=
  let decoded := decodeEither stack.mem FACCH1_1_OFFSET FACCH1_2_OFFSET frame.data
  if !decoded.1 then (false, s)
  else
    let decodedLC := linkControl s stack decoded.2
    let received := decodedLC.1
    let s := decodedLC.2
    let lc := { received with dstId }
    if isUnpermitted c s received.dstId ∧ s.netState ≠ RS_NET_AUDIO then
      (false, { s with netState := RS_NET_IDLE, netMask := 0x00, netLC := s.netLC.reset })
    else if lc.messageType = RTCH_MESSAGE_TYPE_TX_REL then
      if s.netState ≠ RS_NET_AUDIO then
        (false, { s with
          netState := RS_NET_IDLE
          netMask := 0x00
          netLC := s.netLC.reset
          netLastDstId := 0
          netLastSrcId := 0 })
      else (true, relayNetHeader c s stack lc decoded.2 frame)
    else if lc.messageType = RTCH_MESSAGE_TYPE_VCALL then
      let admitted := admitNet c s received
      if !admitted.1 then admitted else (true, relayNetHeader c admitted.2 stack lc decoded.2 frame)
    else (false, s)

/-- The lines with which a call of the network is entered late. The counters that start again are those of the radios. -/
def startNet (s : Control) : Control :=
  { s with
    rfFrames := 0
    rfErrs := 0
    rfBits := 1
    netTimeout := s.netTimeout.start
    netState := RS_NET_AUDIO }

/-- A call of the network starts with the link control that is there. The frame that opens the call has the link control
    of the radios. -/
def enterNet (s : Control) (stack : Stack) (facch : FACCH1) : Bool × Control :=
  let admitted := admitNet c s s.netLC
  if !admitted.1 then admitted
  else
    let s := startNet (touchNet admitted.2 s.netLC)
    let start := openingFrame c s stack.mem true s.rfLC facch fun _ => 0x00
    (true, repeatNetHeader c start.2 { tag := TAG_DATA, data := start.1 })

/-- The late entry of `processNetwork`. -/
def lateEntryNet (s : Control) (stack : Stack) (option : UInt8) (sacch : SACCH) (frame : Frame) : Bool × Control :=
  let stolen := decodeStolen stack.mem FACCH1_2_OFFSET option frame.data
  if stolen.1 then
    let received := linkControl s stack stolen.2
    let s := received.2
    if received.1.messageType ≠ RTCH_MESSAGE_TYPE_VCALL then (false, s)
    else enterNet c { s with netLC := s.netLC.copy received.1 } stack stolen.2
  else
    let quarter := takeQuarter s stack sacch s.netLC s.netMask
    let s : Control := { quarter.2 with netLC := quarter.1.1, netMask := quarter.1.2 }
    if s.netMask ≠ 0x0F then (false, s)
    else if s.netLC.messageType ≠ RTCH_MESSAGE_TYPE_VCALL then (false, s)
    else enterNet c s stack stolen.2

/-- The frame of a call of the network, which goes out when a radio is calling. -/
def relayNetVoice (s : Control) (stack : Stack) (option : UInt8) (frame : Frame) : Control :=
  if s.rfState = RS_RF_AUDIO then
    let voice := regenerate c stack.mem true none option frame.data
    let s := { s with rfErrs := s.rfErrs + voice.1.toUInt32, rfBits := s.rfBits + voice.2.1.toUInt32 }
    let s := repeatFrame c s { tag := TAG_DATA, data := voice.2.2 }
    { s with netFrames := s.netFrames + 1 }
  else s

/-- The lines of `processNetwork` in front of everything else. -/
def clearNet (s : Control) : Control :=
  if s.netState = RS_NET_IDLE then ({ s with txQueue := s.txQueue.clear }.resetRF).resetNet else s

/-- `processNetwork`, of a frame whose message names this destination. -/
def processNetwork (s : Control) (stack : Stack) (fct option : UInt8) (dstId : UInt16) (frame : Frame) :
    Bool × Control :=
  let s := clearNet s
  let sacch := (SACCH.new.decode stack.mem frame.data).2
  if fct = NXDN_LICH_USC_SACCH_NS then processNetHeader c s stack dstId frame
  else if s.netState = RS_NET_IDLE then
    let entered := lateEntryNet c s stack option sacch frame
    if entered.1 then (true, relayNetVoice c entered.2 stack option frame) else (false, entered.2)
  else (true, relayNetVoice c s stack option frame)

end Voice

end Nxdn

end DvmHost

import DvmHost.Host.Nxdn.Packet.Correctness.LateEntry
import DvmHost.Host.Nxdn.Packet.Correctness.VoiceRelay

/-!
# `Host.Nxdn.Packet.Correctness.RelayRuns` — what a site relays, over whole runs

The frame that opens a call which a radio is heard in the middle of is built and queued with the link control of the
call, but the network is written the frame that was received, as it came out of the scrambler
(`entry_process`). Together with the outcomes of the frames of the network this tells every step of a run: the site
relays as it should only while nothing that it accepts is owed to the queue (`relays_iff`).
-/

namespace DvmHost

open Lib

open RPT_RF_STATE RPT_NET_STATE

namespace Nxdn

namespace Voice

open Control

variable (c : Settings)

/-! ## The frame that opens a call -/

/-- Both FACCH1 of a frame that is sent have the link control of this call, to every receiver. -/
def CarriesCall (mem : Channel.Memory) (lc : RTCH) (data : Bytes) : Prop :=
  ∀ stack : Stack, stack.mem.past = mem.past →
    ReadsCall stack.buffer lc (FACCH1.new.decode stack.mem (scrambler data) FACCH1_1_OFFSET) ∧
      ReadsCall stack.buffer lc (FACCH1.new.decode stack.mem (scrambler data) FACCH1_2_OFFSET)

theorem CarriesCall.congr {mem : Channel.Memory} {lc lc' : RTCH} {data : Bytes} (h : RTCH.SameCall lc lc') :
    CarriesCall mem lc data ↔ CarriesCall mem lc' data := by
  have himp : ∀ {a b : RTCH}, RTCH.SameCall a b → CarriesCall mem a data → CarriesCall mem b data :=
    fun hab hcarries stack hpast =>
      ⟨⟨(hcarries stack hpast).1.valid, (hcarries stack hpast).1.call.trans hab⟩,
        ⟨(hcarries stack hpast).2.valid, (hcarries stack hpast).2.call.trans hab⟩⟩
  exact ⟨himp h, himp h.symm⟩

/-- **The opening frame** carries the link control that it is built with. -/
theorem carriesCall_openingFrame (s : Control) (mem : Channel.Memory) (outbound : Bool) {lc : RTCH}
    (hheader : RTCH.IsHeader lc.messageType) (facch : FACCH1) (data : Bytes) :
    CarriesCall mem lc (openingFrame c s mem outbound lc facch data).1 := by
  intro stack hpast
  have hopen : (openingFrame c s mem outbound lc facch data).1 = headerFrame c mem outbound
      (facch.setData (lc.encode (fun _ => 0x00) NXDN_RTCH_LC_LENGTH_BITS 0)) data := by
    unfold openingFrame encodeRTCH
    dsimp only
  have hcall := sameCall_setData hheader stack.buffer facch
  rw [hopen]
  generalize facch.setData (lc.encode (fun _ => 0x00) NXDN_RTCH_LC_LENGTH_BITS 0) = sent at *
  obtain ⟨-, -, hfacch⟩ := headerFrame_parts c mem outbound sent data hpast
  have htype : RTCH.IsHeader (sent.m_data 0 &&& 0x3F) := by
    rw [← messageType_received stack.buffer, hcall.messageType]
    exact hheader
  have hreads : ∀ offset, offset = FACCH1_1_OFFSET ∨ offset = FACCH1_2_OFFSET →
      ReadsCall stack.buffer lc (FACCH1.new.decode stack.mem (scrambler (headerFrame c mem outbound sent data))
        offset) := by
    intro offset hoffset
    obtain ⟨hok, hholds⟩ := hfacch offset hoffset
    exact ⟨hok, (sameCall_received hholds htype stack.buffer stack.buffer).trans hcall⟩
  exact ⟨hreads _ (Or.inl rfl), hreads _ (Or.inr rfl)⟩

/-! ## Calls that a radio is heard in -/

/-- The link control of a voice call that a frame of a radio brings to the checks while the site listens. -/
def radioCall (s : Control) (stack : Stack) (option : UInt8) (frame : Frame) : Option RTCH :=
  let stolen := decodeStolen stack.mem LATE_FACCH1_2_OFFSET option frame.data
  if stolen.1 then
    let lc := received stack.buffer stolen.2
    if lc.messageType = RTCH_MESSAGE_TYPE_VCALL then some lc else none
  else
    let quarter := (takeQuarter s stack (SACCH.new.decode stack.mem frame.data).2 s.rfLC s.rfMask).1
    if quarter.2 = 0x0F ∧ quarter.1.messageType = RTCH_MESSAGE_TYPE_VCALL then some quarter.1 else none

/-- A call of a radio that passes the checks. -/
def AdmitsRF (s : Control) (lc : RTCH) : Prop :=
  ¬ (s.netState ≠ RS_NET_IDLE ∧ lc.dstId.toUInt32 = s.netLastDstId) ∧ KnownIDs s.acl lc

/-- The frame of a radio is not turned away by its SACCH. -/
def HeardRAN (stack : Stack) (frame : Frame) : Prop :=
  let sacch := SACCH.new.decode stack.mem frame.data
  sacch.1 = true ∧ ¬ (sacch.2.m_ran.toUInt32 ≠ c.ran ∧ sacch.2.m_ran ≠ 0)

theorem admitRF_fst (s : Control) (lc : RTCH) : (admitRF s lc).1 = true ↔ AdmitsRF s lc := by
  have hknown := validateIDs_fst (checkTrafficCollision s lc.dstId).2 lc
  have hacl : (checkTrafficCollision s lc.dstId).2.acl = s.acl := by
    unfold checkTrafficCollision
    split_ifs <;> rfl
  have hfree : (checkTrafficCollision s lc.dstId).1 = true
      ↔ ¬ (s.netState ≠ RS_NET_IDLE ∧ lc.dstId.toUInt32 = s.netLastDstId) := by
    unfold checkTrafficCollision
    split_ifs with hbusy hsame
    · exact iff_of_false not_false fun h => h ⟨hbusy, hsame⟩
    · exact iff_of_true rfl fun h => hsame h.2
    · exact iff_of_true rfl fun h => hbusy h.1
  rw [hacl] at hknown
  unfold admitRF AdmitsRF
  dsimp only
  rw [← hfree, ← hknown]
  split
  · rename_i hnot
    have hfalse : (checkTrafficCollision s lc.dstId).1 = false := by simpa using hnot
    rw [hfalse]
    exact iff_of_false Bool.false_ne_true fun h => Bool.false_ne_true h.1
  · rename_i hok
    have htrue : (checkTrafficCollision s lc.dstId).1 = true := by simpa using hok
    exact ⟨fun h => ⟨htrue, h⟩, fun h => h.2⟩

/-- `s` and `t` have the same call of a radio, the same clocks, and have sent the same. -/
structure SameSent (s t : Control) : Prop where
  rfLC : t.rfLC = s.rfLC
  rfTimeout : t.rfTimeout = s.rfTimeout
  netTimeout : t.netTimeout = s.netTimeout
  txQueue : t.txQueue = s.txQueue
  written : t.written = s.written

theorem sameSent_admitRF (s : Control) (lc : RTCH) : SameSent s (admitRF s lc).2 := by
  have hchecked : SameSent s (checkTrafficCollision s lc.dstId).2 := by
    unfold checkTrafficCollision
    split_ifs <;> exact ⟨rfl, rfl, rfl, rfl, rfl⟩
  have hvalid (t : Control) : SameSent t (validateIDs t lc.srcId lc.dstId lc.group).2 := by
    unfold validateIDs
    split_ifs <;> exact ⟨rfl, rfl, rfl, rfl, rfl⟩
  have h := hvalid (checkTrafficCollision s lc.dstId).2
  unfold admitRF
  dsimp only
  split
  · exact hchecked
  · exact ⟨h.1.trans hchecked.1, h.2.trans hchecked.2, h.3.trans hchecked.3, h.4.trans hchecked.4,
      h.5.trans hchecked.5⟩

/-- `t` is `s` behind a frame that was written to the network with the call of the radio and one that was queued. -/
structure Sent (s : Control) (written queued : Frame) (t : Control) : Prop where
  rfLC : t.rfLC = s.rfLC
  rfTimeout : t.rfTimeout = s.rfTimeout
  netTimeout : t.netTimeout = s.netTimeout
  rfState : t.rfState = s.rfState
  txQueue : t.txQueue
    = if c.duplex = true ∧ ¬ isTimedOut s.netTimeout = true then s.txQueue.add queued true else s.txQueue
  written : t.written
    = if c.hasNetwork = true ∧ ¬ isTimedOut s.rfTimeout = true then s.written ++ [(s.rfLC, written)] else s.written

/-- The two calls with which a frame of a radio is sent on. -/
theorem sent_repeatFrame (s : Control) (written queued : Frame) :
    Sent c s written queued (repeatFrame c (writeNetwork c s written) queued) := by
  have hwrite : (writeNetwork c s written).rfLC = s.rfLC ∧ (writeNetwork c s written).rfTimeout = s.rfTimeout ∧
      (writeNetwork c s written).netTimeout = s.netTimeout ∧ (writeNetwork c s written).rfState = s.rfState ∧
      (writeNetwork c s written).txQueue = s.txQueue ∧ (writeNetwork c s written).written
        = if c.hasNetwork = true ∧ ¬ isTimedOut s.rfTimeout = true then s.written ++ [(s.rfLC, written)]
          else s.written := by
    unfold writeNetwork
    split_ifs <;> simp_all
  have hqueue (t : Control) : repeatFrame c t queued
      = { t with txQueue := if c.duplex = true ∧ ¬ isTimedOut t.netTimeout = true then t.txQueue.add queued true
          else t.txQueue } := by
    unfold repeatFrame
    by_cases hduplex : c.duplex = true
    · rw [if_pos hduplex]
      show (if isTimedOut t.netTimeout = true then t else { t with txQueue := t.txQueue.add queued true }) = _
      by_cases hlate : isTimedOut t.netTimeout = true
      · rw [if_pos hlate, if_neg fun h => h.2 hlate]
      · rw [if_neg hlate, if_pos ⟨hduplex, hlate⟩]
    · rw [if_neg hduplex, if_neg fun h => hduplex h.1]
  obtain ⟨hlc, hrf, hnet, hstate, htx, hwritten⟩ := hwrite
  rw [hqueue]
  refine ⟨hlc, hrf, hnet, hstate, ?_, hwritten⟩
  dsimp only
  rw [hnet, htx]

/-- A frame of a call of a radio is sent on. -/
theorem sent_relayVoice {s : Control} (hcalling : s.rfState = RS_RF_AUDIO) (stack : Stack) (option : UInt8)
    (frame : Frame) : ∃ voice, Sent c s voice voice (relayVoice c s stack option frame) := by
  have hrelay : relayVoice c s stack option frame = _ := if_pos hcalling
  rw [hrelay]
  generalize regenerate c stack.mem c.duplex (some c.silenceThreshold) option frame.data = voice
  refine ⟨{ tag := TAG_DATA, data := voice.2.2 }, ?_⟩
  have hsent := sent_repeatFrame c { (s.encodeRTCH s.rfLC 22 (fun _ => 0x00) NXDN_RTCH_LC_LENGTH_BITS).2 with
      rfErrs := s.rfErrs + voice.1.toUInt32, rfBits := s.rfBits + voice.2.1.toUInt32 }
    { tag := TAG_DATA, data := voice.2.2 } { tag := TAG_DATA, data := voice.2.2 }
  exact ⟨hsent.1, hsent.2, hsent.3, hsent.4, hsent.5, hsent.6⟩

/-- What the entry of a call with the link control `lc` leaves behind: on the air a frame that carries it, and to the
    network `frame`, each with a frame of the call behind it. -/
structure Entry (s : Control) (mem : Channel.Memory) (lc : RTCH) (frame : Frame) (t : Control) : Prop where
  call : t.rfLC = lc
  air : ∃ start voice, CarriesCall mem lc start.data ∧ t.txQueue
    = if c.duplex = true ∧ ¬ isTimedOut s.netTimeout = true then (s.txQueue.add start true).add voice true
      else s.txQueue
  network : ∃ voice, t.written
    = if c.hasNetwork = true ∧ ¬ isTimedOut s.rfTimeout.start = true then s.written ++ [(lc, frame), (lc, voice)]
      else s.written

theorem Entry.of_same {s s' : Control} (h : SameSent s s') {mem : Channel.Memory} {lc : RTCH} {frame : Frame}
    {t : Control} (hentry : Entry c s' mem lc frame t) : Entry c s mem lc frame t := by
  obtain ⟨hcall, hair, hnetwork⟩ := hentry
  rw [h.netTimeout, h.txQueue] at hair
  rw [h.rfTimeout, h.written] at hnetwork
  exact ⟨hcall, hair, hnetwork⟩

theorem sameSent_openingFrame (s : Control) (mem : Channel.Memory) (outbound : Bool) (lc : RTCH) (facch : FACCH1)
    (data : Bytes) : SameSent s (openingFrame c s mem outbound lc facch data).2 ∧
      (openingFrame c s mem outbound lc facch data).2.rfState = s.rfState :=
  ⟨⟨rfl, rfl, rfl, rfl, rfl⟩, rfl⟩

/-- **The entry of a call** with the link control that is there, and the frame behind it. -/
theorem entry_enterRF (s : Control) (stack : Stack) (facch : FACCH1) (frame : Frame)
    (hheader : RTCH.IsHeader s.rfLC.messageType) :
    ((enterRF c s stack facch frame).1 = true ↔ AdmitsRF s s.rfLC) ∧
      ((enterRF c s stack facch frame).1 = true → ∀ option,
        Entry c s stack.mem s.rfLC frame (relayVoice c (enterRF c s stack facch frame).2 stack option frame)) := by
  have hadmits := admitRF_fst s s.rfLC
  have hsame := sameSent_admitRF s s.rfLC
  unfold enterRF
  dsimp only
  generalize admitRF s s.rfLC = admitted at *
  by_cases hok : admitted.1 = true
  · rw [if_neg (by rw [hok]; exact Bool.false_ne_true)]
    refine ⟨iff_of_true rfl (hadmits.mp hok), fun _ option => ?_⟩
    have hs : SameSent { admitted.2 with rfTimeout := admitted.2.rfTimeout.start } (startRF (touchRF admitted.2 s.rfLC)) :=
      ⟨rfl, rfl, rfl, rfl, rfl⟩
    have hcalling : (startRF (touchRF admitted.2 s.rfLC)).rfState = RS_RF_AUDIO := rfl
    have hlc := hs.rfLC.trans hsame.rfLC
    generalize startRF (touchRF admitted.2 s.rfLC) = started at *
    have hcarries := carriesCall_openingFrame c started stack.mem c.duplex (hlc ▸ hheader) facch fun _ => 0x00
    obtain ⟨ho, hostate⟩ := sameSent_openingFrame c started stack.mem c.duplex started.rfLC facch fun _ => 0x00
    generalize openingFrame c started stack.mem c.duplex started.rfLC facch (fun _ => 0x00) = start at *
    have hstate := hostate.trans hcalling
    have hslc := ho.rfLC.trans hlc
    have hrf : start.2.rfTimeout = s.rfTimeout.start :=
      (ho.rfTimeout.trans hs.rfTimeout).trans (congrArg Timer.start hsame.rfTimeout)
    have hnet := (ho.netTimeout.trans hs.netTimeout).trans hsame.netTimeout
    have htx := (ho.txQueue.trans hs.txQueue).trans hsame.txQueue
    have hwritten := (ho.written.trans hs.written).trans hsame.written
    rw [hlc] at hcarries
    have hsent := sent_repeatFrame c start.2 frame { tag := TAG_DATA, data := start.1 }
    generalize repeatFrame c (writeNetwork c start.2 frame) { tag := TAG_DATA, data := start.1 } = entered at *
    obtain ⟨voice, hvoice⟩ := sent_relayVoice c (hsent.rfState.trans hstate) stack option frame
    show Entry c s stack.mem s.rfLC frame (relayVoice c entered stack option frame)
    generalize relayVoice c entered stack option frame = t at *
    refine ⟨hvoice.rfLC.trans (hsent.rfLC.trans hslc), ⟨{ tag := TAG_DATA, data := start.1 }, voice, hcarries, ?_⟩, ⟨voice, ?_⟩⟩
    · have htimeout := hsent.netTimeout.trans hnet
      rw [hvoice.txQueue, hsent.txQueue, htimeout, hnet, htx]
      split <;> rfl
    · have htimeout := hsent.rfTimeout.trans hrf
      rw [hvoice.written, hsent.written, htimeout, hrf, hwritten, hsent.rfLC, hslc]
      split
      · rw [List.append_assoc]
        rfl
      · rfl
  · rw [if_pos (by rw [Bool.eq_false_iff.mpr hok]; rfl)]
    exact ⟨hadmits, fun h => absurd h hok⟩

/-- A call that a frame of a radio enters late. -/
def EntersRF (s : Control) (stack : Stack) (option : UInt8) (frame : Frame) (lc : RTCH) : Prop :=
  HeardRAN c stack frame ∧ radioCall s stack option frame = some lc ∧ AdmitsRF s lc

theorem entry_lateEntry (s : Control) (stack : Stack) (option : UInt8) (frame : Frame) :
    let entered := lateEntry c s stack option (SACCH.new.decode stack.mem frame.data).2 frame
    (entered.1 = true ↔ ∃ lc, radioCall s stack option frame = some lc ∧ AdmitsRF s lc) ∧
      (entered.1 = true → ∃ lc lc', radioCall s stack option frame = some lc ∧ RTCH.SameCall lc' lc ∧
        Entry c s stack.mem lc' frame (relayVoice c entered.2 stack option frame)) := by
  by_cases hstolen : (decodeStolen stack.mem LATE_FACCH1_2_OFFSET option frame.data).1 = true
  · have hcall : radioCall s stack option frame
        = if (received stack.buffer (decodeStolen stack.mem LATE_FACCH1_2_OFFSET option frame.data).2).messageType
              = RTCH_MESSAGE_TYPE_VCALL
          then some (received stack.buffer (decodeStolen stack.mem LATE_FACCH1_2_OFFSET option frame.data).2)
          else none := if_pos hstolen
    unfold lateEntry
    dsimp only
    rw [if_pos hstolen, linkControl_fst]
    generalize (decodeStolen stack.mem LATE_FACCH1_2_OFFSET option frame.data).2 = facch at *
    generalize received stack.buffer facch = lc at *
    by_cases hvcall : lc.messageType = RTCH_MESSAGE_TYPE_VCALL
    · have hset : SameSent { s with rfLC := s.rfLC.copy lc } { (linkControl s stack facch).2 with
          rfLC := (linkControl s stack facch).2.rfLC.copy lc } := ⟨rfl, rfl, rfl, rfl, rfl⟩
      have hadmits : AdmitsRF { (linkControl s stack facch).2 with
          rfLC := (linkControl s stack facch).2.rfLC.copy lc } (s.rfLC.copy lc) ↔ AdmitsRF s lc := Iff.rfl
      obtain ⟨hiff, hentry⟩ := entry_enterRF c { (linkControl s stack facch).2 with
        rfLC := (linkControl s stack facch).2.rfLC.copy lc } stack facch frame (Or.inl hvcall)
      rw [hcall.trans (if_pos hvcall), exists_some_iff, if_neg (not_not.mpr hvcall)]
      refine ⟨hiff.trans hadmits, fun hok => ⟨lc, s.rfLC.copy lc, rfl, ⟨rfl, rfl, rfl⟩, ?_⟩⟩
      obtain ⟨h1, h2, h3⟩ := hentry hok option
      exact ⟨h1, h2, h3⟩
    · rw [hcall.trans (if_neg hvcall), if_pos hvcall]
      exact ⟨iff_of_false Bool.false_ne_true not_exists_none, fun h => absurd h Bool.false_ne_true⟩
  · have hcall : radioCall s stack option frame
        = if (takeQuarter s stack (SACCH.new.decode stack.mem frame.data).2 s.rfLC s.rfMask).1.2 = 0x0F ∧
              (takeQuarter s stack (SACCH.new.decode stack.mem frame.data).2 s.rfLC s.rfMask).1.1.messageType
                = RTCH_MESSAGE_TYPE_VCALL
          then some (takeQuarter s stack (SACCH.new.decode stack.mem frame.data).2 s.rfLC s.rfMask).1.1
          else none := if_neg hstolen
    unfold lateEntry
    dsimp only
    rw [if_neg hstolen]
    have hquarter : ∀ sacch lc mask, SameSent s (takeQuarter s stack sacch lc mask).2 ∧
        ∀ lc', AdmitsRF (takeQuarter s stack sacch lc mask).2 lc' ↔ AdmitsRF s lc' := by
      intro sacch lc mask
      unfold takeQuarter
      split <;> exact ⟨⟨rfl, rfl, rfl, rfl, rfl⟩, fun _ => Iff.rfl⟩
    have hsame := hquarter (SACCH.new.decode stack.mem frame.data).2 s.rfLC s.rfMask
    generalize takeQuarter s stack (SACCH.new.decode stack.mem frame.data).2 s.rfLC s.rfMask = quarter at *
    by_cases hwhole : quarter.1.2 = 0x0F ∧ quarter.1.1.messageType = RTCH_MESSAGE_TYPE_VCALL
    · have henter := entry_enterRF c { quarter.2 with rfLC := quarter.1.1, rfMask := quarter.1.2 } stack
        (decodeStolen stack.mem LATE_FACCH1_2_OFFSET option frame.data).2 frame (Or.inl hwhole.2)
      rw [hcall.trans (if_pos hwhole), exists_some_iff, if_neg (not_not.mpr hwhole.1), if_neg (not_not.mpr hwhole.2)]
      refine ⟨henter.1.trans (hsame.2 quarter.1.1), fun hok => ⟨_, quarter.1.1, rfl, ⟨rfl, rfl, rfl⟩, ?_⟩⟩
      have hentry := henter.2 hok option
      exact .of_same c hsame.1 ⟨hentry.1, hentry.2, hentry.3⟩
    · rw [hcall.trans (if_neg hwhole)]
      by_cases hmask : quarter.1.2 = 0x0F
      · rw [if_neg (not_not.mpr hmask), if_pos fun h => hwhole ⟨hmask, h⟩]
        exact ⟨iff_of_false Bool.false_ne_true not_exists_none, fun h => absurd h Bool.false_ne_true⟩
      · rw [if_pos hmask]
        exact ⟨iff_of_false Bool.false_ne_true not_exists_none, fun h => absurd h Bool.false_ne_true⟩

/-- **A frame of a radio that the site hears in the middle of a call.** -/
theorem entry_process {s : Control} (hlisten : s.rfState = RS_RF_LISTENING) (stack : Stack) {fct : UInt8}
    (hfct : fct ≠ NXDN_LICH_USC_SACCH_NS) (option : UInt8) (frame : Frame) :
    let r := process c s stack fct option frame
    (r.1 = true ↔ ∃ lc, EntersRF c s stack option frame lc) ∧
      (r.1 = true → ∃ lc lc', EntersRF c s stack option frame lc ∧ RTCH.SameCall lc' lc ∧
        Entry c s stack.mem lc' frame r.2) := by
  intro r
  have hlate := entry_lateEntry c s stack option frame
  dsimp only at hlate
  by_cases hheard : HeardRAN c stack frame
  · have hr : r = if (lateEntry c s stack option (SACCH.new.decode stack.mem frame.data).2 frame).1 = true then
          (true, relayVoice c (lateEntry c s stack option (SACCH.new.decode stack.mem frame.data).2 frame).2 stack
            option frame)
        else (false, (lateEntry c s stack option (SACCH.new.decode stack.mem frame.data).2 frame).2) := by
      show process c s stack fct option frame = _
      unfold process
      dsimp only
      rw [if_neg fun h => hheard.2 h.2, if_neg (by rw [hheard.1]; exact fun h => Bool.false_ne_true h.1), if_neg hfct,
        if_pos hlisten]
    generalize lateEntry c s stack option (SACCH.new.decode stack.mem frame.data).2 frame = entered at *
    obtain ⟨hiff, hentry⟩ := hlate
    by_cases hok : entered.1 = true
    · rw [if_pos hok] at hr
      obtain ⟨lc, lc', hcall, hsame, hleft⟩ := hentry hok
      obtain ⟨lc0, hcall0, hadmits⟩ := hiff.mp hok
      rw [hr]
      refine ⟨iff_of_true rfl ⟨lc0, hheard, hcall0, hadmits⟩, fun _ => ⟨lc, lc', ⟨hheard, hcall, ?_⟩, hsame, hleft⟩⟩
      rw [Option.some.inj (hcall.symm.trans hcall0)]
      exact hadmits
    · rw [if_neg hok] at hr
      rw [hr]
      refine ⟨iff_of_false Bool.false_ne_true ?_, fun h => absurd h Bool.false_ne_true⟩
      rintro ⟨lc, -, hcall, hadmits⟩
      exact hok (hiff.mpr ⟨lc, hcall, hadmits⟩)
  · have hr : r.1 = false := by
      show (process c s stack fct option frame).1 = false
      unfold process
      dsimp only
      by_cases hran : (SACCH.new.decode stack.mem frame.data).1 = true ∧
          (SACCH.new.decode stack.mem frame.data).2.m_ran.toUInt32 ≠ c.ran ∧
            (SACCH.new.decode stack.mem frame.data).2.m_ran ≠ 0
      · rw [if_pos hran]
      · have hinvalid : (SACCH.new.decode stack.mem frame.data).1 = false :=
          Bool.eq_false_iff.mpr fun hok => hheard ⟨hok, fun h => hran ⟨hok, h⟩⟩
        rw [if_neg hran, if_pos ⟨by rw [hinvalid]; rfl, hlisten⟩]
    rw [hr]
    exact ⟨iff_of_false Bool.false_ne_true fun ⟨_, h⟩ => hheard h.1, fun h => absurd h Bool.false_ne_true⟩

/-! ## Relaying -/

/-- The places of the audio of a frame with this option. -/
def audioPlaces (option : UInt8) : List Nat :=
  if option = NXDN_LICH_STEAL_NONE then [0, 9, 18, 27]
  else if option = NXDN_LICH_STEAL_FACCH1_1 then [18, 27]
  else if option = NXDN_LICH_STEAL_FACCH1_2 then [0, 9]
  else []

/-- A frame with this option has a FACCH1 there. -/
def HoldsFACCH1 (option : UInt8) (offset : Nat) : Prop :=
  if offset = FACCH1_1_OFFSET then option ≠ NXDN_LICH_STEAL_NONE ∧ option ≠ NXDN_LICH_STEAL_FACCH1_2
  else option ≠ NXDN_LICH_STEAL_NONE ∧ option ≠ NXDN_LICH_STEAL_FACCH1_1

/-- The frame `sent` has the FACCH1 and the audio of `data`: what its FACCH1 have is still there, and its audio is the
    regenerated one. -/
structure Preserves (mem : Channel.Memory) (fct option : UInt8) (data sent : Bytes) : Prop where
  facch : ∀ offset ∈ [FACCH1_1_OFFSET, FACCH1_2_OFFSET], fct = NXDN_LICH_USC_SACCH_NS ∨ HoldsFACCH1 option offset →
    (FACCH1.new.decode mem data offset).1 = true → (FACCH1.new.decode mem sent offset).1 = true ∧
      (FACCH1.new.decode mem sent offset).2.Holds (FACCH1.new.decode mem data offset).2
  audio : fct ≠ NXDN_LICH_USC_SACCH_NS → ∀ n ∈ audioPlaces option, ∀ i < 9,
    sent (NXDN_FSW_LICH_SACCH_LENGTH_BYTES + n + i)
      = (regenerateAt c n data).2 (NXDN_FSW_LICH_SACCH_LENGTH_BYTES + n + i)


/-- **Relaying a frame of the network.** The side of the radios is left alone. While the radios are silent, an accepted
    frame that the timeout of the network spares is entered in the normal queue once, behind what is there, and in no
    other; a frame that opens a call which is entered late may stand in front of it, with the call of the network. -/
structure RelaysNet (s : Control) (stack : Stack) (fct option : UInt8) (frame : Frame) (r : Bool × Control) :
    Prop where
  rfLC : r.2.rfLC = s.rfLC
  counters : SameCounters s r.2
  rfState : r.2.rfState = s.rfState
  queued : s.rfState = RS_RF_LISTENING → r.1 = true → ¬ isTimedOut s.netTimeout = true →
    r.2.txImmQueue.frames = s.txImmQueue.frames ∧
      ∃ start sent, r.2.txQueue.frames = (clearNet s).txQueue.frames ++ start ++ [sent] ∧
        Preserves c stack.mem fct option frame.data (scrambler sent.data) ∧
        (start = [] ∨ s.netState = RS_NET_IDLE ∧ ∃ opening : Frame, start = [opening] ∧
          CarriesCall stack.mem r.2.netLC opening.data)

/-- **Entering a call of a radio.** The first frame that is sent, on the air and to the network, carries the call. -/
structure OpensRF (s : Control) (mem : Channel.Memory) (r : Bool × Control) : Prop where
  air : r.1 = true → ∀ start rest, r.2.txQueue.frames = s.txQueue.frames ++ start :: rest →
    CarriesCall mem r.2.rfLC start.data
  network : r.1 = true → ∀ start rest, r.2.written = s.written ++ start :: rest →
    start.1 = r.2.rfLC ∧ CarriesCall mem r.2.rfLC start.2.data

theorem relaysNet_iff {s : Control} (htakes : takesNetwork s = true) (stack : Stack) (fct option : UInt8)
    (dstId : UInt16) (frame : Frame) :
    RelaysNet c s stack fct option frame (processNetwork c s stack fct option dstId frame) ↔
      (s.netState = RS_NET_IDLE → Cleared s) ∧ ¬ Counted s fct option ∧
        (Refuses c s stack fct option frame → s.rfState = RS_RF_REJECTED) ∧
        (s.rfState = RS_RF_LISTENING → Accepts c s stack fct option frame → isTimedOut s.netTimeout = true) := by
  have houtcome := outcome_processNetwork c htakes stack fct option dstId frame
  generalize processNetwork c s stack fct option dstId frame = r at *
  constructor
  · rintro ⟨-, hcounters, hstate, hqueued⟩
    obtain ⟨hcleared, hcounted⟩ := houtcome.counters.mp hcounters
    refine ⟨hcleared, hcounted, houtcome.rfState.mp hstate, fun hlisten haccepts => ?_⟩
    by_contra hlate
    obtain ⟨-, start, sent, hframes, -⟩ := hqueued hlisten (houtcome.accepted.mpr haccepts) hlate
    have hsame := houtcome.txQueue (by rw [hlisten]; decide)
    rw [hsame, List.append_assoc] at hframes
    have hlength := congrArg List.length hframes
    rw [List.length_append, List.length_append, List.length_singleton] at hlength
    omega
  · rintro ⟨hcleared, hcounted, hrefused, hlate⟩
    exact ⟨houtcome.rfLC, houtcome.counters.mpr ⟨hcleared, hcounted⟩, houtcome.rfState.mpr hrefused,
      fun hlisten hok hnot => absurd (hlate hlisten (houtcome.accepted.mp hok)) hnot⟩

/-- Of two frames that are added the first is the first that is new. -/
theorem add_add_eq {q : TxQueue} {a b x : Frame} {rest : List Frame}
    (h : ((q.add a true).add b true).frames = q.frames ++ x :: rest) : x = a := by
  have hadd : ∀ (q : TxQueue) (f : Frame), q.add f true
      = if q.freeSpace < TxQueue.len + 1 then q else if q.freeSpace = TxQueue.len + 1 then q.clear
        else { q with frames := q.frames ++ [f] } := by
    intro q f
    unfold TxQueue.add
    rw [if_neg (show ¬ (!true) = true from Bool.false_ne_true)]
  have hnew : q.frames ++ x :: rest ≠ q.frames := fun h => by simpa using congrArg List.length h
  by_cases hfull : q.freeSpace < TxQueue.len + 1
  · rw [hadd q a, if_pos hfull, hadd q b, if_pos hfull] at h
    exact absurd h.symm hnew
  by_cases hlast : q.freeSpace = TxQueue.len + 1
  · -- the ring is cleared; if it was empty before, it is cleared again
    rw [hadd q a, if_neg hfull, if_pos hlast, hadd] at h
    split_ifs at h with hless heq
    · exact absurd h (by simp [TxQueue.clear])
    · exact absurd h (by simp [TxQueue.clear])
    · have hempty : q.frames = [] := by
        have hlength := congrArg List.length h
        simp only [TxQueue.clear, List.nil_append, List.length_append, List.length_cons, List.length_nil] at hlength
        exact List.eq_nil_of_length_eq_zero (by omega)
      refine absurd ?_ heq
      rw [← hlast]
      unfold TxQueue.freeSpace TxQueue.clear
      rw [hempty]
  · rw [hadd q a, if_neg hfull, if_neg hlast, hadd] at h
    split_ifs at h
    · exact (List.cons.inj (List.append_cancel_left h)).1.symm
    · exact absurd h (by simp [TxQueue.clear])
    · rw [List.append_assoc] at h
      exact (List.cons.inj (List.append_cancel_left h)).1.symm

theorem opensRF_iff {s : Control} (hlisten : s.rfState = RS_RF_LISTENING) (stack : Stack) {fct : UInt8}
    (hfct : fct ≠ NXDN_LICH_USC_SACCH_NS) (option : UInt8) (frame : Frame) :
    OpensRF s stack.mem (process c s stack fct option frame) ↔
      ∀ lc, EntersRF c s stack option frame lc → c.hasNetwork = true → ¬ isTimedOut s.rfTimeout.start = true →
        CarriesCall stack.mem lc frame.data := by
  obtain ⟨hiff, hentry⟩ := entry_process c hlisten stack hfct option frame
  generalize process c s stack fct option frame = r at *
  constructor
  · rintro ⟨-, hnetwork⟩ lc henters hhas hlate
    have hok := hiff.mpr ⟨lc, henters⟩
    obtain ⟨lc0, lc', henters0, hsame, hleft⟩ := hentry hok
    obtain ⟨voice, hwritten⟩ := hleft.network
    rw [if_pos ⟨hhas, hlate⟩] at hwritten
    have hcarries := (hnetwork hok _ _ hwritten).2
    rw [hleft.call, CarriesCall.congr hsame] at hcarries
    rw [Option.some.inj (henters.2.1.symm.trans henters0.2.1)]
    exact hcarries
  · intro hcarries
    refine ⟨fun hok start rest hframes => ?_, fun hok start rest hframes => ?_⟩
    · obtain ⟨lc, lc', henters, hsame, hleft⟩ := hentry hok
      obtain ⟨opening, voice, hopening, hqueue⟩ := hleft.air
      rw [hqueue] at hframes
      split_ifs at hframes
      · rw [add_add_eq hframes, hleft.call]
        exact hopening
      · exact absurd hframes (by simp)
    · obtain ⟨lc, lc', henters, hsame, hleft⟩ := hentry hok
      obtain ⟨voice, hwritten⟩ := hleft.network
      rw [hwritten] at hframes
      split_ifs at hframes with hsent
      · have hstart := (List.cons.inj (List.append_cancel_left hframes)).1
        rw [← hstart, hleft.call, CarriesCall.congr hsame]
        exact ⟨rfl, hcarries lc henters hsent.1 hsent.2⟩
      · exact absurd hframes (by simp)

/-! ## Runs -/

/-- What a site meets: a frame of a radio, one of the network, or anything else that changes it. -/
inductive Arrival where
  | radio (stack : Stack) (fct option : UInt8) (frame : Frame)
  | network (stack : Stack) (fct option : UInt8) (dstId : UInt16) (frame : Frame)
  | outside

/-- One step of a site. -/
inductive Arrives (s : Control) : Arrival → Control → Prop where
  | radio (stack : Stack) (fct option : UInt8) (frame : Frame) :
      Arrives s (.radio stack fct option frame) (process c s stack fct option frame).2
  | network (stack : Stack) (fct option : UInt8) (dstId : UInt16) (frame : Frame) :
      Arrives s (.network stack fct option dstId frame)
        (if takesNetwork s then (processNetwork c s stack fct option dstId frame).2 else s)
  | outside (s' : Control) : Arrives s .outside s'

/-- What should become of what arrives. -/
def Relays (s : Control) : Arrival → Prop
  | .radio stack fct option frame => s.rfState = RS_RF_LISTENING → fct ≠ NXDN_LICH_USC_SACCH_NS →
      OpensRF s stack.mem (process c s stack fct option frame)
  | .network stack fct option dstId frame => takesNetwork s = true →
      RelaysNet c s stack fct option frame (processNetwork c s stack fct option dstId frame)
  | .outside => True

/-- **Nothing is owed.** A frame of the network finds the counters of the radios at their start if it may start a call,
    is not counted with a radio's, brings no address that is refused, and is not accepted in time while the radios are
    silent. A frame of a radio that enters a call reads, as it was received, like the frame that opens the call. -/
def OwesNothing (s : Control) : Arrival → Prop
  | .radio stack fct option frame => s.rfState = RS_RF_LISTENING → fct ≠ NXDN_LICH_USC_SACCH_NS →
      ∀ lc, EntersRF c s stack option frame lc → c.hasNetwork = true → ¬ isTimedOut s.rfTimeout.start = true →
        CarriesCall stack.mem lc frame.data
  | .network stack fct option _ frame => takesNetwork s = true →
      (s.netState = RS_NET_IDLE → Cleared s) ∧ ¬ Counted s fct option ∧
        (Refuses c s stack fct option frame → s.rfState = RS_RF_REJECTED) ∧
        (s.rfState = RS_RF_LISTENING → Accepts c s stack fct option frame → isTimedOut s.netTimeout = true)
  | .outside => True

theorem relays_iff_owesNothing (s : Control) (a : Arrival) : Relays c s a ↔ OwesNothing c s a := by
  cases a with
  | radio stack fct option frame =>
      refine forall_congr' fun hlisten => forall_congr' fun hfct => ?_
      exact opensRF_iff c hlisten stack hfct option frame
  | network stack fct option dstId frame =>
      exact forall_congr' fun htakes => relaysNet_iff c htakes stack fct option dstId frame
  | outside => exact Iff.rfl

/-- **A run relays as it should exactly when none of its steps owes anything.** -/
theorem relays_iff {s : Control} {l : List (Arrival × Control)} (hrun : Run (Arrives c) s l) :
    Guarded (Relays c) s l ↔ Guarded (OwesNothing c) s l :=
  hrun.guarded_congr (I := fun _ => True) (fun _ _ => trivial) (fun _ => relays_iff_owesNothing c _) trivial

/-! ## A header of the network -/

/-- The header of a call from radio 1 to talkgroup 2, as it comes from the network. -/
def netHeader : Frame where
  tag := TAG_DATA
  data := scrambler (openingFrame openSettings freshSite quietStack.mem true (RTCH.new.decode voiceCall 72 0) FACCH1.new
    fun _ => 0x00).1

/-- The site takes the call with such a header. -/
theorem accepts_voiceCall {frame : Frame} (hread : ReadsCall quietStack.buffer (RTCH.new.decode voiceCall 72 0)
    (FACCH1.new.decode quietStack.mem frame.data FACCH1_1_OFFSET)) :
    Accepts openSettings freshSite quietStack NXDN_LICH_USC_SACCH_NS NXDN_LICH_STEAL_FACCH frame := by
  have heither : decodeEither quietStack.mem FACCH1_1_OFFSET FACCH1_2_OFFSET frame.data
      = FACCH1.new.decode quietStack.mem frame.data FACCH1_1_OFFSET := if_pos hread.valid
  rw [← heither] at hread
  have htype : (RTCH.new.decode voiceCall 72 0).messageType = RTCH_MESSAGE_TYPE_VCALL := by decide +kernel
  have hsrc : freshSite.acl.validateSrcId (RTCH.new.decode voiceCall 72 0).srcId.toUInt32 = true := by decide +kernel
  have hdst : freshSite.acl.validateTGId (RTCH.new.decode voiceCall 72 0).dstId.toUInt32 = true := by decide +kernel
  have hgroup := group_linkControl freshSite quietStack
    (decodeEither quietStack.mem FACCH1_1_OFFSET FACCH1_2_OFFSET frame.data).2
  rw [linkControl_fst] at hgroup
  have hvoice : headerCall openSettings (clearNet freshSite) quietStack frame = some (received quietStack.buffer
      (decodeEither quietStack.mem FACCH1_1_OFFSET FACCH1_2_OFFSET frame.data).2) :=
    if_pos ⟨hread.valid, fun h => Bool.false_ne_true h.1, hread.call.messageType.trans htype⟩
  have hsrcId := hread.call.srcId
  have hdstId := hread.call.dstId
  generalize received quietStack.buffer
    (decodeEither quietStack.mem FACCH1_1_OFFSET FACCH1_2_OFFSET frame.data).2 = lc at *
  have hfree : NetFree openSettings (clearNet freshSite) lc.dstId := ⟨fun h => h.1.1 rfl, fun h => h.1.1 rfl, rfl⟩
  have hknown : KnownIDs (clearNet freshSite).acl lc := by
    unfold KnownIDs
    rw [hgroup, hsrcId, hdstId]
    exact ⟨hsrc, hdst⟩
  exact (if_pos rfl).mpr (Or.inl ⟨lc, hvoice, hfree, hknown⟩)

theorem accepts_netHeader :
    Accepts openSettings freshSite quietStack NXDN_LICH_USC_SACCH_NS NXDN_LICH_STEAL_FACCH netHeader := by
  have hheader : RTCH.IsHeader (RTCH.new.decode voiceCall 72 0).messageType := Or.inl (by decide +kernel)
  exact accepts_voiceCall (carriesCall_openingFrame openSettings freshSite quietStack.mem true hheader FACCH1.new
    (fun _ => 0x00) quietStack rfl).1

/-- The run that is the arrival of the header. -/
def netHeaderRun : List (Arrival × Control) :=
  [(.network quietStack NXDN_LICH_USC_SACCH_NS NXDN_LICH_STEAL_FACCH 2 netHeader,
    (processNetwork openSettings freshSite quietStack NXDN_LICH_USC_SACCH_NS NXDN_LICH_STEAL_FACCH 2 netHeader).2)]

theorem run_netHeaderRun : Run (Arrives openSettings) freshSite netHeaderRun :=
  .cons (.network quietStack NXDN_LICH_USC_SACCH_NS NXDN_LICH_STEAL_FACCH 2 netHeader) .nil

/-- The header of a call is accepted and does not reach the normal queue. -/
theorem netHeader_not_relayed : Run (Arrives openSettings) freshSite netHeaderRun ∧
    ¬ Guarded (Relays openSettings) freshSite netHeaderRun := by
  refine ⟨run_netHeaderRun, fun hguarded => ?_⟩
  have howes := (relays_iff_owesNothing openSettings freshSite _).mp hguarded.1
  exact absurd ((howes rfl).2.2.2 rfl accepts_netHeader) Bool.false_ne_true

theorem relays_netHeaderRun :
    Guarded (Relays openSettings) freshSite netHeaderRun ↔ Guarded (OwesNothing openSettings) freshSite netHeaderRun :=
  relays_iff openSettings run_netHeaderRun

end Voice

end Nxdn

end DvmHost

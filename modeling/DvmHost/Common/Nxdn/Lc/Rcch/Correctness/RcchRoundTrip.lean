import DvmHost.Common.Nxdn.Lc.Rcch.RCCHFactory

/-!
# `Common.Nxdn.Lc.Rcch.Correctness.RcchRoundTrip` — which control channel messages are read

The factory hands the class the offset behind the message, so that the class reads its fields from the octets that
follow (`createRCCH_eq`). The type comes from the first octet of the buffer and is right; of a message that has fields
nothing else is, but for what the octets behind it happen to hold.
-/

namespace DvmHost

namespace Nxdn

/-- The two lengths of a message. -/
def rcchLengths : List Nat := [NXDN_RCCH_CAC_LC_SHORT_LENGTH_BITS, NXDN_RCCH_CAC_LC_LONG_LENGTH_BITS]

namespace RCCHFactory

/-- The factory makes of the message what its class reads from the first bits of the buffer. -/
def Yields (data : Bytes) (length : Nat) : Prop :=
  createRCCH data length 0 = (classOf (data 0 &&& 0x3F)).map fun cls => cls.new.decode data length 0

/-- Nothing behind the message changes what the factory makes of it. -/
def ReadsOnly (data : Bytes) (length : Nat) : Prop :=
  ∀ data' : Bytes, (∀ k < length, readBit data' k = readBit data k) →
    createRCCH data' length 0 = createRCCH data length 0

/-! ## What is read -/

/-- The octets that the class is given are those at the offset. -/
theorem copyBits_octet (data : Bytes) {n m j : Nat} (hj : j < m) :
    copyBits (fun _ => 0x00) 0 data (8 * n) (8 * m) j = fromByte n data j := by
  refine byte_of_bits (fun b hb => ?_) hj
  rw [readBit_copyBits, if_pos ⟨Nat.zero_le b, by omega⟩, readBit_fromByte, Nat.sub_zero]

/-- The classes look at eleven octets. -/
theorem decodeFields_congr (r : RCCHObject) {a b : Bytes} (h : ∀ j < 11, a j = b j) :
    r.decodeFields a = r.decodeFields b := by
  unfold RCCHObject.decodeFields RCCHObject.decodeVcallConn RCCHObject.decodeDcallHdr RCCHObject.decodeCall
    RCCHObject.decodeReg RCCHObject.decodeRegC RCCHObject.decodeGrpReg
  simp (disch := decide) only [h]

/-- An object of a class with the type of the buffer. -/
def typed (data : Bytes) (cls : RCCHClass) : RCCHObject := { cls.new with messageType := data 0 &&& 0x3F }

theorem decode_eq (data : Bytes) (cls : RCCHClass) {n m : Nat} (hm : 11 ≤ m) :
    cls.new.decode data (8 * m) (8 * n) = (typed data cls).decodeFields (fromByte n data) :=
  decodeFields_congr (typed data cls) fun _ hj => copyBits_octet data (by omega)

/-- **The class reads what stands behind the message.** -/
theorem createRCCH_eq {data : Bytes} {cls : RCCHClass} (hcls : classOf (data 0 &&& 0x3F) = some cls) {m : Nat}
    (hm : 11 ≤ m) : createRCCH data (8 * m) 0 = some ((typed data cls).decodeFields (fromByte m data)) := by
  unfold createRCCH
  dsimp only
  rw [hcls, Nat.zero_add, ← decode_eq data cls hm]

/-- A buffer with other octets behind the message. -/
def withTail (data : Bytes) (m : Nat) (octet : UInt8) : Bytes := fun k => if k < m then data k else octet

theorem readBit_withTail (data : Bytes) {m : Nat} (octet : UInt8) {k : Nat} (hk : k < 8 * m) :
    readBit (withTail data m octet) k = readBit data k := by
  unfold withTail
  rw [readBit_eq, readBit_eq, if_pos (by omega)]

/-- The source of every message but an idle one is read from there. -/
theorem srcId_withTail {data : Bytes} {cls : RCCHClass} (hcls : classOf (data 0 &&& 0x3F) = some cls)
    (hidle : cls ≠ .IDLE) {m : Nat} (hm : 11 ≤ m) (octet : UInt8) :
    ∃ r, createRCCH (withTail data m octet) (8 * m) 0 = some r ∧ r.srcId = word16 octet octet := by
  have hfirst : withTail data m octet 0 = data 0 := if_pos (by omega)
  have htail : fromByte m (withTail data m octet) = fun _ => octet := by
    funext k
    exact if_neg (by omega)
  rw [← hfirst] at hcls
  refine ⟨_, createRCCH_eq hcls hm, ?_⟩
  rw [htail]
  cases cls with
  | IDLE => exact absurd rfl hidle
  | VCALL_CONN | DCALL_HDR | REG | REG_C | GRP_REG => rfl

/-- **Of the messages that are received, only those without fields are read.** -/
theorem yields_and_readsOnly_iff {data : Bytes} {cls : RCCHClass} (hcls : classOf (data 0 &&& 0x3F) = some cls) {m : Nat}
    (hm : 11 ≤ m) : Yields data (8 * m) ∧ ReadsOnly data (8 * m) ↔ cls = .IDLE := by
  constructor
  · rintro ⟨-, honly⟩
    by_contra hidle
    have hsame : ∀ octet, createRCCH (withTail data m octet) (8 * m) 0 = createRCCH data (8 * m) 0 := fun octet =>
      honly _ fun k hk => readBit_withTail data octet hk
    obtain ⟨r, hr, hsrc⟩ := srcId_withTail hcls hidle hm 0x00
    obtain ⟨r', hr', hsrc'⟩ := srcId_withTail hcls hidle hm 0xFF
    rw [hsame] at hr hr'
    obtain rfl := Option.some.inj (hr.symm.trans hr')
    exact absurd (hsrc.symm.trans hsrc') (by decide)
  · rintro rfl
    refine ⟨?_, fun data' hbits => ?_⟩
    · unfold Yields
      rw [createRCCH_eq hcls hm, hcls]
      rfl
    · have hfirst : data' 0 = data 0 := byte_of_bits hbits (by omega)
      have hcls' : classOf (data' 0 &&& 0x3F) = some .IDLE := hfirst.symm ▸ hcls
      rw [createRCCH_eq hcls hm, createRCCH_eq hcls' hm]
      unfold typed
      rw [hfirst]
      rfl

/-! ## What was encoded -/

/-- The flags, the call type, the mode and the identities are the same. -/
def SameCall (t r : RCCHObject) : Prop :=
  r.emergency = t.emergency ∧ r.priority = t.priority ∧ r.callType = t.callType ∧ r.duplex = t.duplex ∧
    r.transmissionMode = t.transmissionMode ∧ r.srcId = t.srcId ∧ r.dstId = t.dstId

/-- The factory makes an object of the same class, type and call of what was encoded into a buffer. -/
def ComesBack (locId : UInt32) (t : RCCHObject) (data : Bytes) (length : Nat) : Prop :=
  ∃ r, createRCCH (t.encode locId data length 0) length 0 = some r ∧ r.cls = t.cls ∧
    r.messageType = t.messageType &&& 0x3F ∧ SameCall t r

/-- The octets hold the call in the layout of a request. -/
def HoldsCall (t : RCCHObject) (octets : Bytes) : Prop := SameCall t (t.cls.new.decodeCall octets)

/-- What `encode` leaves in the buffer: the type in the first octet, and whatever stood behind the message. -/
theorem encode_octets (locId : UInt32) (t : RCCHObject) (data : Bytes) {m : Nat} (hm : 11 ≤ m) :
    t.encode locId data (8 * m) 0 0 = t.messageType &&& 0x3F ∧
      fromByte m (t.encode locId data (8 * m) 0) = fromByte m data := by
  have hcopied : copyBits data 0 (t.encodeFields locId) 0 (8 * m) 0 = t.encodeFields locId 0 :=
    byte_of_bits (n := m) (fun b hb => by rw [readBit_copyBits, if_pos ⟨Nat.zero_le b, by omega⟩, Nat.zero_add, Nat.sub_zero])
      (by omega)
  have hzero : t.encodeFields locId 0 = 0x00 := by
    unfold RCCHObject.encodeFields
    cases t.cls <;> rfl
  have hencode : t.encode locId data (8 * m) 0 =
      setByte (copyBits data 0 (t.encodeFields locId) 0 (8 * m)) 0 (t.messageType &&& 0x3F) := by
    unfold RCCHObject.encode RCCH.encode
    dsimp only
    rw [if_pos (hcopied.trans hzero)]
  rw [hencode]
  refine ⟨setByte_same _ _ _, bytes_ext fun k => ?_⟩
  have hbehind : ∀ q : Bytes, readBit (setByte q 0 (t.messageType &&& 0x3F)) (8 * m + k) = readBit q (8 * m + k) :=
    fun q => by rw [readBit_eq, readBit_eq, setByte_of_ne _ _ (by omega)]
  rw [readBit_fromByte, readBit_fromByte, hbehind, readBit_copyBits, if_neg (by omega)]

/-- **What was encoded comes back** where the octets behind it held the same call before. -/
theorem comesBack_iff (locId : UInt32) {t : RCCHObject} (hcall : t.cls = .VCALL_CONN ∨ t.cls = .DCALL_HDR)
    (hcls : classOf (t.messageType &&& 0x3F) = some t.cls) (data : Bytes) {m : Nat} (hm : 11 ≤ m) :
    ComesBack locId t data (8 * m) ↔ HoldsCall t (fromByte m data) := by
  obtain ⟨hfirst, htail⟩ := encode_octets locId t data hm
  have hmask : t.messageType &&& 0x3F &&& 0x3F = t.messageType &&& 0x3F := by
    rw [UInt8.and_assoc]
    rfl
  have hcreate : createRCCH (t.encode locId data (8 * m) 0) (8 * m) 0 =
      some ((typed (t.encode locId data (8 * m) 0) t.cls).decodeCall (fromByte m data)) := by
    have hclass : classOf (t.encode locId data (8 * m) 0 0 &&& 0x3F) = some t.cls := by rw [hfirst, hmask, hcls]
    rw [createRCCH_eq hclass hm, htail]
    unfold RCCHObject.decodeFields
    show some (match t.cls with | _ => _) = _
    rcases hcall with h | h <;> rw [h] <;> rfl
  have htype : (typed (t.encode locId data (8 * m) 0) t.cls).messageType = t.messageType &&& 0x3F := by
    show t.encode locId data (8 * m) 0 0 &&& 0x3F = _
    rw [hfirst, hmask]
  constructor
  · rintro ⟨r, hr, -, -, hsame⟩
    rw [hcreate] at hr
    obtain rfl := Option.some.inj hr
    exact hsame
  · intro hholds
    exact ⟨_, hcreate, rfl, htype, hholds⟩

/-- **The round trip of the control channel**, for both lengths: of the messages that are received, idle ones are read
    as they stand and no others; a call that was encoded comes back exactly from a buffer that holds it behind the
    message. -/
theorem rcch_roundTrip {length : Nat} (hlength : length ∈ rcchLengths) :
    (∀ (data : Bytes) (cls : RCCHClass), classOf (data 0 &&& 0x3F) = some cls →
      (Yields data length ∧ ReadsOnly data length ↔ cls = .IDLE)) ∧
    ∀ (locId : UInt32) (t : RCCHObject) (data : Bytes), t.cls = .VCALL_CONN ∨ t.cls = .DCALL_HDR →
      classOf (t.messageType &&& 0x3F) = some t.cls →
      (ComesBack locId t data length ↔ HoldsCall t (fromByte (length / 8) data)) := by
  obtain ⟨m, hm, rfl⟩ : ∃ m, 11 ≤ m ∧ length = 8 * m := by
    rcases List.mem_cons.mp hlength with rfl | h
    · exact ⟨12, by decide, rfl⟩
    · exact ⟨16, by decide, List.mem_singleton.mp h⟩
  refine ⟨fun data cls hcls => yields_and_readsOnly_iff hcls hm, fun locId t data hcall hcls => ?_⟩
  rw [Nat.mul_div_cancel_left m (by decide)]
  exact comesBack_iff locId hcall hcls data hm

/-- An idle message in a cleared buffer. -/
theorem rcch_roundTrip_idle :
    let data := setByte (fun _ => 0x00) 0 MESSAGE_TYPE_IDLE
    NXDN_RCCH_CAC_LC_SHORT_LENGTH_BITS ∈ rcchLengths ∧ Yields data NXDN_RCCH_CAC_LC_SHORT_LENGTH_BITS ∧
      ReadsOnly data NXDN_RCCH_CAC_LC_SHORT_LENGTH_BITS := by
  intro data
  refine ⟨List.mem_cons_self, ?_⟩
  have hidle : classOf (data 0 &&& 0x3F) = some .IDLE := show classOf (MESSAGE_TYPE_IDLE &&& 0x3F) = _ by decide
  exact ((rcch_roundTrip List.mem_cons_self).1 data .IDLE hidle).mpr rfl

/-- A voice request in a cleared buffer. -/
def voiceRequest : Bytes := fun i => [0x01, 0x00, 0x20, 0x00, 0x07, 0x00, 0x09].getD i 0x00

/-- **A voice request is not read**: its source is 7, and the factory makes it 0. -/
theorem voiceRequest_lost :
    ¬ Yields voiceRequest NXDN_RCCH_CAC_LC_SHORT_LENGTH_BITS ∧
      ∃ r, createRCCH voiceRequest NXDN_RCCH_CAC_LC_SHORT_LENGTH_BITS 0 = some r ∧ r.srcId = 0 := by
  have hclass : classOf (voiceRequest 0 &&& 0x3F) = some .VCALL_CONN := rfl
  have hread := createRCCH_eq hclass (show 11 ≤ 12 by decide)
  refine ⟨fun h => ?_, _, hread, rfl⟩
  unfold Yields at h
  rw [show NXDN_RCCH_CAC_LC_SHORT_LENGTH_BITS = 8 * 12 from rfl, hread] at h
  have hstand := decode_eq voiceRequest .VCALL_CONN (n := 0) (m := 12) (by decide)
  rw [hclass, Option.map_some,
    show (0 : Nat) = 8 * 0 from rfl, hstand] at h
  exact absurd (congrArg RCCHObject.toRCCH (Option.some.inj h)) (by decide)

end RCCHFactory

end Nxdn

end DvmHost

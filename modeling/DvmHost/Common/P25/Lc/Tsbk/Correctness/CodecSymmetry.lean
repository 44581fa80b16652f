import DvmHost.Common.P25.Lc.Tsbk.Correctness.BlockCarriage

/-!
# `Common.P25.Lc.Tsbk.Correctness.CodecSymmetry` — what comes back of a trunking message

The word of a message comes back as it was written; whether its fields do is a question of arithmetic, answered for
each class by the digits of the word. Of the fifteen classes that both write and read, four bring every message back;
for the others `Meets` says which.
-/

namespace DvmHost

open Lib Lib.Blocks

namespace P25

/-! ## Digits of a word -/

/-- A field is what it should be, if the digits of the word are. -/
theorem fieldOf_eq_iff (v : UInt64) {k m : UInt64} (x : UInt32) (n w : Nat) (hk : k.toNat = n) (hn : n < 64)
    (hm : m.toNat = 2 ^ w - 1) (hw : w ≤ 32) : fieldOf v k m = x ↔ v.toNat / 2 ^ n % 2 ^ w = x.toNat := by
  have hlt : v.toNat / 2 ^ n % 2 ^ w < 2 ^ 32 :=
    Nat.lt_of_lt_of_le (Nat.mod_lt _ (Nat.two_pow_pos w)) (Nat.pow_le_pow_right (by decide) hw)
  unfold fieldOf
  rw [← UInt32.toNat_inj, UInt64.toNat_toUInt32, UInt64.toNat_and, UInt64.toNat_shiftRight, hk, Nat.mod_eq_of_lt hn,
    hm, Nat.shiftRight_eq_div_pow, Nat.and_two_pow_sub_one_eq_mod, Nat.mod_eq_of_lt hlt]

theorem octetOf_eq_iff (v : UInt64) {k m : UInt64} (x : UInt8) (n w : Nat) (hk : k.toNat = n) (hn : n < 64)
    (hm : m.toNat = 2 ^ w - 1) (hw : w ≤ 8) : octetOf v k m = x ↔ v.toNat / 2 ^ n % 2 ^ w = x.toNat := by
  have hlt : v.toNat / 2 ^ n % 2 ^ w < 2 ^ 8 :=
    Nat.lt_of_lt_of_le (Nat.mod_lt _ (Nat.two_pow_pos w)) (Nat.pow_le_pow_right (by decide) hw)
  unfold octetOf
  rw [← UInt8.toNat_inj, UInt64.toNat_toUInt8, UInt64.toNat_and, UInt64.toNat_shiftRight, hk, Nat.mod_eq_of_lt hn,
    hm, Nat.shiftRight_eq_div_pow, Nat.and_two_pow_sub_one_eq_mod, Nat.mod_eq_of_lt hlt]

/-- The source of every message but one. -/
theorem srcId_eq_iff (v : UInt64) (x : UInt32) : (v &&& 0xFFFFFF).toUInt32 = x ↔ v.toNat % 2 ^ 24 = x.toNat := by
  suffices hdigit : (v &&& 0xFFFFFF).toUInt32.toNat = v.toNat % 2 ^ 24 by rw [← hdigit, UInt32.toNat_inj]
  rw [UInt64.toNat_toUInt32, UInt64.toNat_and]
  show (v.toNat &&& (2 ^ 24 - 1)) % 2 ^ 32 = v.toNat % 2 ^ 24
  rw [Nat.and_two_pow_sub_one_eq_mod]
  omega

/-- The first octet. -/
theorem toNat_firstOctet (v : UInt64) : (v >>> (56 : UInt64) &&& 0xFF).toNat = v.toNat / 2 ^ 56 := by
  have hv := v.toNat_lt
  rw [UInt64.toNat_and, UInt64.toNat_shiftRight]
  show v.toNat >>> 56 &&& (2 ^ 8 - 1) = v.toNat / 2 ^ 56
  rw [Nat.shiftRight_eq_div_pow, Nat.and_two_pow_sub_one_eq_mod]
  omega

theorem flagOf_emergency (v : UInt64) : flagOf v 0x80 = decide (v.toNat / 2 ^ 63 = 1) := by
  have hv := v.toNat_lt
  have hall : ∀ o : Fin 256, o.val &&& 128 = 128 ↔ o.val / 128 = 1 := by decide +kernel
  unfold flagOf
  refine decide_eq_decide.mpr ?_
  rw [← UInt64.toNat_inj, UInt64.toNat_and, toNat_firstOctet]
  refine (hall ⟨v.toNat / 2 ^ 56, by omega⟩).trans ?_
  show v.toNat / 2 ^ 56 / 128 = 1 ↔ v.toNat / 2 ^ 63 = 1
  omega

theorem flagOf_encrypted (v : UInt64) : flagOf v 0x40 = decide (v.toNat / 2 ^ 62 % 2 = 1) := by
  have hv := v.toNat_lt
  have hall : ∀ o : Fin 256, o.val &&& 64 = 64 ↔ o.val / 64 % 2 = 1 := by decide +kernel
  unfold flagOf
  refine decide_eq_decide.mpr ?_
  rw [← UInt64.toNat_inj, UInt64.toNat_and, toNat_firstOctet]
  refine (hall ⟨v.toNat / 2 ^ 56, by omega⟩).trans ?_
  show v.toNat / 2 ^ 56 / 64 % 2 = 1 ↔ v.toNat / 2 ^ 62 % 2 = 1
  omega

theorem toNat_priority (v : UInt64) :
    ((v >>> (56 : UInt64) &&& 0xFF) &&& 0x07).toUInt8.toNat = v.toNat / 2 ^ 56 % 8 := by
  rw [UInt64.toNat_toUInt8, UInt64.toNat_and, toNat_firstOctet]
  show (v.toNat / 2 ^ 56 &&& (2 ^ 3 - 1)) % 2 ^ 8 = v.toNat / 2 ^ 56 % 8
  rw [Nat.and_two_pow_sub_one_eq_mod]
  omega

theorem toNat_serviceOptions {t : TSBKObject} (h : t.priority.toNat < 8) :
    t.serviceOptions.toNat = t.emergency.toNat * 128 + t.encrypted.toNat * 64 + t.priority.toNat := by
  have hall : ∀ emergency encrypted : Bool, ∀ p : BitVec 8, p.toNat < 8 →
      ((if emergency then 0x80 else 0x00) + (if encrypted then 0x40 else 0x00) +
        (UInt8.ofBitVec p &&& 0x07).toUInt64 : UInt64).toNat =
          emergency.toNat * 128 + encrypted.toNat * 64 + p.toNat := by
    decide
  exact hall t.emergency t.encrypted t.priority.toBitVec h

/-! ## What a message carries -/

namespace TSBKObject

/-- The channel that a grant names: its own, else the one of the site. -/
def channelIdOf (siteData : SiteData) (t : TSBKObject) (forceChannelId : Bool) : UInt8 :=
  if t.grpVchId ≠ 0 ∨ forceChannelId then t.grpVchId else siteData.channelId

/-- The fields that the class of an object writes are within their widths on the air. -/
def Fits (siteData : SiteData) (t : TSBKObject) : Prop :=
  match t.cls with
  | .IOSP_GRP_VCH => t.priority.toNat < 2 ^ 3 ∧ t.grpVchId.toNat < 2 ^ 4 ∧ siteData.channelId.toNat < 2 ^ 4 ∧
      t.grpVchNo.toNat < 2 ^ 12 ∧ t.dstId.toNat < 2 ^ 16 ∧ t.srcId.toNat < 2 ^ 24
  | .IOSP_UU_VCH => t.priority.toNat < 2 ^ 3 ∧ t.grpVchId.toNat < 2 ^ 4 ∧ siteData.channelId.toNat < 2 ^ 4 ∧
      t.grpVchNo.toNat < 2 ^ 12 ∧ t.dstId.toNat < 2 ^ 24 ∧ t.srcId.toNat < 2 ^ 24
  | .IOSP_UU_ANS => t.priority.toNat < 2 ^ 3 ∧ t.dstId.toNat < 2 ^ 24 ∧ t.srcId.toNat < 2 ^ 24
  | .IOSP_RAD_MON => t.txMult.toNat < 2 ^ 2 ∧ t.dstId.toNat < 2 ^ 24 ∧ t.srcId.toNat < 2 ^ 24
  | .IOSP_ACK_RSP => t.service.toNat < 2 ^ 6 ∧ siteData.netId.toNat < 2 ^ 20 ∧ siteData.sysId.toNat < 2 ^ 12 ∧
      t.dstId.toNat < 2 ^ 24 ∧ t.srcId.toNat < 2 ^ 24
  | .IOSP_EXT_FNCT => t.extendedFunction.toNat < 2 ^ 16 ∧ t.dstId.toNat < 2 ^ 24 ∧ t.srcId.toNat < 2 ^ 24
  | .IOSP_GRP_AFF => t.response.toNat < 2 ^ 2 ∧ t.announceGroup.toNat < 2 ^ 16 ∧ t.dstId.toNat < 2 ^ 16 ∧
      t.srcId.toNat < 2 ^ 24
  | .IOSP_U_REG => t.response.toNat < 2 ^ 2 ∧ siteData.sysId.toNat < 2 ^ 12 ∧ t.dstId.toNat < 2 ^ 24 ∧
      t.srcId.toNat < 2 ^ 24
  | .OSP_QUE_RSP => t.service.toNat < 2 ^ 6 ∧ t.dstId.toNat < (if t.group then 2 ^ 16 else 2 ^ 24) ∧
      t.srcId.toNat < 2 ^ 24
  | .OSP_U_DEREG_ACK => siteData.netId.toNat < 2 ^ 20 ∧ siteData.sysId.toNat < 2 ^ 12 ∧ t.srcId.toNat < 2 ^ 24
  | .OSP_ADJ_STS_BCAST => t.adjCFVA.toNat < 2 ^ 4 ∧ t.adjSysId.toNat < 2 ^ 12 ∧ siteData.sysId.toNat < 2 ^ 12 ∧
      t.adjChannelId.toNat < 2 ^ 4 ∧ t.adjChannelNo.toNat < 2 ^ 12
  | .OSP_DVM_LC_CALL_TERM => siteData.channelId.toNat < 2 ^ 4 ∧ t.grpVchNo.toNat < 2 ^ 12 ∧ t.dstId.toNat < 2 ^ 16 ∧
      t.srcId.toNat < 2 ^ 24
  | _ => t.dstId.toNat < 2 ^ 24 ∧ t.srcId.toNat < 2 ^ 24

/-- Source and destination are those of the message. -/
def SameAddresses (t t' : TSBKObject) : Prop := t'.dstId = t.dstId ∧ t'.srcId = t.srcId

/-- The service options are those of the message. -/
def SameOptions (t t' : TSBKObject) : Prop :=
  t'.emergency = t.emergency ∧ t'.encrypted = t.encrypted ∧ t'.priority = t.priority

/-- **The fields come back.** An object read from a message has what the class of the message wrote into it. -/
def Recovers (siteData : SiteData) (t t' : TSBKObject) : Prop :=
  match t.cls with
  | .IOSP_GRP_VCH => SameOptions t t' ∧ t'.grpVchId = t.channelIdOf siteData t.forceChannelId ∧
      t'.grpVchNo = t.grpVchNo ∧ SameAddresses t t'
  | .IOSP_UU_VCH => SameOptions t t' ∧ t'.grpVchId = t.channelIdOf siteData false ∧ t'.grpVchNo = t.grpVchNo ∧
      SameAddresses t t'
  | .IOSP_UU_ANS => SameOptions t t' ∧ SameAddresses t t'
  | .IOSP_STS_UPDT => t'.statusValue = t.statusValue ∧ SameAddresses t t'
  | .IOSP_MSG_UPDT => t'.messageValue = t.messageValue ∧ SameAddresses t t'
  | .IOSP_RAD_MON => t'.txMult = t.txMult ∧ SameAddresses t t'
  | .IOSP_ACK_RSP => t'.aivFlag = t.aivFlag ∧ t'.extendedAddrFlag = t.extendedAddrFlag ∧ t'.service = t.service ∧
      t'.srcId = t.srcId ∧
      if t.aivFlag && t.extendedAddrFlag then t'.netId = siteData.netId ∧ t'.sysId = siteData.sysId
      else t'.dstId = t.dstId
  | .IOSP_EXT_FNCT => t'.extendedFunction = t.extendedFunction ∧ SameAddresses t t'
  | .IOSP_GRP_AFF => t'.response = t.response ∧ t'.announceGroup = t.announceGroup ∧ SameAddresses t t'
  | .IOSP_U_REG => t'.response = t.response ∧ t'.sysId = siteData.sysId ∧ SameAddresses t t'
  | .OSP_QUE_RSP => t'.aivFlag = t.aivFlag ∧ t'.service = t.service ∧ t'.response = t.response ∧ SameAddresses t t'
  | .OSP_U_DEREG_ACK => t'.netId = siteData.netId ∧ t'.sysId = siteData.sysId ∧ t'.srcId = t.srcId
  | .OSP_ADJ_STS_BCAST => t'.adjCFVA = t.adjCFVA ∧ t'.adjSysId = t.adjSysId ∧ t'.adjRfssId = t.adjRfssId ∧
      t'.adjSiteId = t.adjSiteId ∧ t'.adjChannelId = t.adjChannelId ∧ t'.adjChannelNo = t.adjChannelNo ∧
      t'.adjServiceClass = t.adjServiceClass
  | .OSP_DVM_LC_CALL_TERM => t'.grpVchId = siteData.channelId ∧ t'.grpVchNo = t.grpVchNo ∧ SameAddresses t t'
  | _ => SameAddresses t t'

/-- The payload octets that the `encode` of an object writes, if it writes any. -/
def payloadOctets (siteData : SiteData) (t : TSBKObject) : Option (List UInt8) :=
  (t.encodeValue siteData).map fun v => (List.range 8).map (TSBK.fromValue v)

/-- **The codec is symmetric at an object.** Whatever buffer the object is encoded into, raw or as a frame, the factory
    makes an object of what it finds there, with the same header and the fields that were carried; and that object
    writes the same payload again. -/
def Symmetric (siteData : SiteData) (t : TSBKObject) : Prop :=
  ∀ (factoryWarnCRC warnCRC : Bool) (data : Bytes) (rawTSBK noTrellis : Bool), (rawTSBK = true → noTrellis = true) →
    ∃ t', TSBKFactory.createTSBK factoryWarnCRC warnCRC (t.encode siteData data rawTSBK noTrellis) rawTSBK = some t' ∧
      t'.cls = t.cls ∧ t'.lco = t.lco ∧ t'.mfId = t.mfId ∧ t'.lastBlock = t.lastBlock ∧ Recovers siteData t t' ∧
      payloadOctets siteData t' = payloadOctets siteData t

/-- **The messages that come back.** In a grant between units the destination is shifted by 24 bits, and every field
    above it by eight too many; status and message are written an octet below where they are read; the fields of
    `IOSP_RAD_MON` overlap; `IOSP_EXT_FNCT` reads its argument and its target the other way round; the flag of
    `OSP_QUE_RSP` is shifted out of the word; `decode` never asks for the extended flag of `IOSP_ACK_RSP` and the CFVA
    of `OSP_ADJ_STS_BCAST`, whose `encode` takes the system of the site for that of the neighbour; `IOSP_GRP_AFF` and
    `IOSP_U_REG` write a response and read a request; and a group grant may be forced to write a channel zero, which is
    written again as the channel of the site. -/
def Meets (siteData : SiteData) (t : TSBKObject) : Prop :=
  match t.cls with
  | .IOSP_GRP_VCH => ¬(t.grpVchId = 0 ∧ t.forceChannelId = true ∧ siteData.channelId ≠ 0)
  | .IOSP_UU_VCH =>
      let ch := (t.channelIdOf siteData false).toNat
      let no := t.grpVchNo.toNat
      t.emergency = decide (ch / 8 = 1) ∧ t.encrypted = decide (ch / 4 % 2 = 1) ∧ t.priority.toNat = no / 256 % 8 ∧
        ch = no / 16 % 16 ∧ no = no % 16 * 256 + t.dstId.toNat / 65536
  | .IOSP_STS_UPDT => t.statusValue = 0
  | .IOSP_MSG_UPDT => t.messageValue = 0
  | .IOSP_RAD_MON => t.txMult = 0 ∧ t.dstId = 0
  | .IOSP_ACK_RSP => t.extendedAddrFlag = false
  | .IOSP_EXT_FNCT => t.srcId = t.dstId
  | .IOSP_GRP_AFF => False
  | .IOSP_U_REG => t.response = 0 ∧ t.dstId = 0 ∧ siteData.sysId = 0
  | .OSP_QUE_RSP => t.aivFlag = false
  | .OSP_ADJ_STS_BCAST => t.adjCFVA = P25_CFVA_FAILURE ∧ t.adjSysId = siteData.sysId
  | _ => True

end TSBKObject

/-! ## The words -/

/-- One step of `encode`. -/
theorem toNat_shift_add (v x : UInt64) {k : UInt64} (hk : k.toNat < 64) :
    (v <<< k + x).toNat = (v.toNat * 2 ^ k.toNat + x.toNat) % 2 ^ 64 := by
  rw [UInt64.toNat_add, UInt64.toNat_shiftLeft, Nat.mod_eq_of_lt hk, Nat.shiftLeft_eq, Nat.mod_add_mod]

namespace TSBKObject

variable {siteData : SiteData} {t : TSBKObject}

theorem serviceOptions_lt (h : t.priority.toNat < 2 ^ 3) : t.serviceOptions.toNat < 2 ^ 8 := by
  rw [toNat_serviceOptions h]
  have he := Bool.toNat_le t.emergency
  have hc := Bool.toNat_le t.encrypted
  omega

theorem encodeGrpVch_eq (siteData : SiteData) (t : TSBKObject) : t.encodeGrpVch siteData =
    (((t.serviceOptions <<< (4 : UInt64) + (t.channelIdOf siteData t.forceChannelId).toUInt64) <<< (12 : UInt64) +
      t.grpVchNo.toUInt64) <<< (16 : UInt64) + t.dstId.toUInt64) <<< (24 : UInt64) + t.srcId.toUInt64 := by
  unfold encodeGrpVch channelIdOf
  split <;> rfl

theorem encodeUuVch_eq (siteData : SiteData) (t : TSBKObject) : t.encodeUuVch siteData =
    (((t.serviceOptions <<< (4 : UInt64) + (t.channelIdOf siteData false).toUInt64) <<< (12 : UInt64) +
      t.grpVchNo.toUInt64) <<< (24 : UInt64) + t.dstId.toUInt64) <<< (24 : UInt64) + t.srcId.toUInt64 := by
  unfold encodeUuVch channelIdOf
  simp only [Bool.false_eq_true, or_false]
  split <;> rfl

theorem toNat_encodeGrpVch (hpriority : t.priority.toNat < 2 ^ 3)
    (hid : (t.channelIdOf siteData t.forceChannelId).toNat < 2 ^ 4) (hno : t.grpVchNo.toNat < 2 ^ 12)
    (hdst : t.dstId.toNat < 2 ^ 16) (hsrc : t.srcId.toNat < 2 ^ 24) :
    (t.encodeGrpVch siteData).toNat = t.serviceOptions.toNat * 2 ^ 56 +
      (t.channelIdOf siteData t.forceChannelId).toNat * 2 ^ 52 + t.grpVchNo.toNat * 2 ^ 40 + t.dstId.toNat * 2 ^ 24 +
        t.srcId.toNat := by
  have hoptions := serviceOptions_lt hpriority
  rw [encodeGrpVch_eq]
  simp (disch := decide) only [toNat_shift_add, UInt8.toNat_toUInt64, UInt32.toNat_toUInt64]
  simp only [UInt64.reduceToNat]
  omega

theorem toNat_encodeUuVch (hid : (t.channelIdOf siteData false).toNat < 2 ^ 4) (hno : t.grpVchNo.toNat < 2 ^ 12)
    (hdst : t.dstId.toNat < 2 ^ 24) (hsrc : t.srcId.toNat < 2 ^ 24) :
    (t.encodeUuVch siteData).toNat =
      (t.channelIdOf siteData false).toNat * 2 ^ 60 + t.grpVchNo.toNat * 2 ^ 48 + t.dstId.toNat * 2 ^ 24 +
        t.srcId.toNat := by
  rw [encodeUuVch_eq]
  simp (disch := decide) only [toNat_shift_add, UInt8.toNat_toUInt64, UInt32.toNat_toUInt64]
  simp only [UInt64.reduceToNat]
  -- the shifts of the service options add up to the width of the word
  omega

theorem toNat_encodeUuAns (hpriority : t.priority.toNat < 2 ^ 3) (hdst : t.dstId.toNat < 2 ^ 24)
    (hsrc : t.srcId.toNat < 2 ^ 24) :
    t.encodeUuAns.toNat = t.serviceOptions.toNat * 2 ^ 56 + t.dstId.toNat * 2 ^ 24 + t.srcId.toNat := by
  have hoptions := serviceOptions_lt hpriority
  unfold encodeUuAns
  simp (disch := decide) only [toNat_shift_add, UInt32.toNat_toUInt64]
  simp only [UInt64.reduceToNat]
  omega

theorem toNat_encodeStsUpdt (hdst : t.dstId.toNat < 2 ^ 24) (hsrc : t.srcId.toNat < 2 ^ 24) :
    t.encodeStsUpdt.toNat = t.statusValue.toNat * 2 ^ 48 + t.dstId.toNat * 2 ^ 24 + t.srcId.toNat := by
  have hvalue := t.statusValue.toNat_lt
  unfold encodeStsUpdt
  simp (disch := decide) only [toNat_shift_add, UInt8.toNat_toUInt64, UInt32.toNat_toUInt64]
  simp only [UInt64.reduceToNat]
  omega

theorem toNat_encodeMsgUpdt (hdst : t.dstId.toNat < 2 ^ 24) (hsrc : t.srcId.toNat < 2 ^ 24) :
    t.encodeMsgUpdt.toNat = t.messageValue.toNat * 2 ^ 48 + t.dstId.toNat * 2 ^ 24 + t.srcId.toNat := by
  have hvalue := t.messageValue.toNat_lt
  unfold encodeMsgUpdt
  simp (disch := decide) only [toNat_shift_add, UInt8.toNat_toUInt64, UInt32.toNat_toUInt64]
  simp only [UInt64.reduceToNat]
  omega

/-- A mask that a field fits into. -/
theorem toNat_and_of_lt {x m : UInt32} (w : Nat) (hm : m.toNat = 2 ^ w - 1) (hx : x.toNat < 2 ^ w) :
    (x &&& m).toNat = x.toNat := by
  rw [UInt32.toNat_and, hm, Nat.and_two_pow_sub_one_eq_mod, Nat.mod_eq_of_lt hx]

theorem toNat_octet_and_of_lt {x m : UInt8} (w : Nat) (hm : m.toNat = 2 ^ w - 1) (hx : x.toNat < 2 ^ w) :
    (x &&& m).toNat = x.toNat := by
  rw [UInt8.toNat_and, hm, Nat.and_two_pow_sub_one_eq_mod, Nat.mod_eq_of_lt hx]

theorem toNat_encodeRadMon (htx : t.txMult.toNat < 2 ^ 2) (hdst : t.dstId.toNat < 2 ^ 24)
    (hsrc : t.srcId.toNat < 2 ^ 24) :
    t.encodeRadMon.toNat = t.txMult.toNat * 2 ^ 24 + t.srcId.toNat + t.dstId.toNat := by
  unfold encodeRadMon
  dsimp only
  rw [UInt64.toNat_add]
  simp (disch := decide) only [toNat_shift_add, UInt8.toNat_toUInt64, UInt32.toNat_toUInt64]
  rw [toNat_octet_and_of_lt 2 rfl htx, toNat_and_of_lt 24 rfl hsrc, toNat_and_of_lt 24 rfl hdst]
  simp only [UInt64.reduceToNat]
  omega

theorem toNat_encodeCallAlrt (hdst : t.dstId.toNat < 2 ^ 24) (hsrc : t.srcId.toNat < 2 ^ 24) :
    t.encodeCallAlrt.toNat = t.dstId.toNat * 2 ^ 24 + t.srcId.toNat := by
  unfold encodeCallAlrt
  simp (disch := decide) only [toNat_shift_add, UInt32.toNat_toUInt64]
  simp only [UInt64.reduceToNat]
  omega

/-- The first octet of an acknowledgement. -/
theorem toNat_ackOctet (service : UInt8) (aiv ext : Bool) (h : service.toNat < 2 ^ 6) :
    ((service &&& 0x3F).toUInt64 ||| (if aiv then 0x80 else 0x00) ||| (if ext then 0x40 else 0x00)).toNat =
      aiv.toNat * 2 ^ 7 + ext.toNat * 2 ^ 6 + service.toNat := by
  have hall : ∀ aiv ext : Bool, ∀ s : BitVec 8, s.toNat < 2 ^ 6 →
      ((UInt8.ofBitVec s &&& 0x3F).toUInt64 ||| (if aiv then 0x80 else 0x00) ||| (if ext then 0x40 else 0x00)).toNat =
        aiv.toNat * 2 ^ 7 + ext.toNat * 2 ^ 6 + s.toNat := by
    decide
  exact hall aiv ext service.toBitVec h

theorem toNat_encodeAckRsp (hservice : t.service.toNat < 2 ^ 6) (hnet : siteData.netId.toNat < 2 ^ 20)
    (hsys : siteData.sysId.toNat < 2 ^ 12) (hdst : t.dstId.toNat < 2 ^ 24) (hsrc : t.srcId.toNat < 2 ^ 24) :
    (t.encodeAckRsp siteData).toNat =
      (t.aivFlag.toNat * 2 ^ 7 + t.extendedAddrFlag.toNat * 2 ^ 6 + t.service.toNat) * 2 ^ 56 +
        (if t.aivFlag && t.extendedAddrFlag then siteData.netId.toNat * 2 ^ 36 + siteData.sysId.toNat * 2 ^ 24
          else t.dstId.toNat * 2 ^ 24) + t.srcId.toNat := by
  have haiv := Bool.toNat_le t.aivFlag
  have hext := Bool.toNat_le t.extendedAddrFlag
  unfold encodeAckRsp
  dsimp only
  rw [toNat_shift_add _ _ (by decide)]
  split <;>
  · simp (disch := decide) only [toNat_shift_add, UInt32.toNat_toUInt64]
    rw [toNat_ackOctet _ _ _ hservice]
    simp only [UInt64.reduceToNat]
    omega

theorem toNat_encodeExtFnct (hfn : t.extendedFunction.toNat < 2 ^ 16) (hdst : t.dstId.toNat < 2 ^ 24)
    (hsrc : t.srcId.toNat < 2 ^ 24) :
    t.encodeExtFnct.toNat = t.extendedFunction.toNat * 2 ^ 48 + t.srcId.toNat * 2 ^ 24 + t.dstId.toNat := by
  unfold encodeExtFnct
  simp (disch := decide) only [toNat_shift_add, UInt32.toNat_toUInt64]
  simp only [UInt64.reduceToNat]
  omega

theorem toNat_encodeUReg (hresp : t.response.toNat < 2 ^ 2) (hsys : siteData.sysId.toNat < 2 ^ 12)
    (hdst : t.dstId.toNat < 2 ^ 24) (hsrc : t.srcId.toNat < 2 ^ 24) :
    (t.encodeUReg siteData).toNat =
      t.response.toNat * 2 ^ 60 + siteData.sysId.toNat * 2 ^ 48 + t.dstId.toNat * 2 ^ 24 + t.srcId.toNat := by
  unfold encodeUReg
  simp (disch := decide) only [toNat_shift_add, UInt8.toNat_toUInt64, UInt32.toNat_toUInt64]
  rw [toNat_octet_and_of_lt 2 rfl hresp]
  simp only [UInt64.reduceToNat]
  omega

/-- A queued response: the two forms of the destination are one number, and the flag is shifted out. -/
theorem toNat_encodeQueRsp {v : UInt64} (hv : t.encodeQueRsp = some v) (hservice : t.service.toNat < 2 ^ 6)
    (hdst : t.dstId.toNat < 2 ^ 24) (hsrc : t.srcId.toNat < 2 ^ 24) :
    v.toNat = t.service.toNat * 2 ^ 56 + t.response.toNat * 2 ^ 48 + t.dstId.toNat * 2 ^ 24 + t.srcId.toNat := by
  have hresp := t.response.toNat_lt
  have hflag : (if t.aivFlag then (0x80 : UInt64) else 0x00).toNat = t.aivFlag.toNat * 128 := by
    cases t.aivFlag <;> rfl
  unfold encodeQueRsp at hv
  dsimp only at hv
  split at hv
  · exact nomatch hv
  split at hv <;>
  · obtain rfl := Option.some.inj hv
    simp (disch := decide) only [toNat_shift_add, UInt8.toNat_toUInt64, UInt32.toNat_toUInt64]
    rw [toNat_octet_and_of_lt 6 rfl hservice, hflag]
    simp only [UInt64.reduceToNat]
    omega

theorem toNat_encodeUDeregAck (hnet : siteData.netId.toNat < 2 ^ 20) (hsys : siteData.sysId.toNat < 2 ^ 12)
    (hsrc : t.srcId.toNat < 2 ^ 24) :
    (t.encodeUDeregAck siteData).toNat =
      siteData.netId.toNat * 2 ^ 36 + siteData.sysId.toNat * 2 ^ 24 + t.srcId.toNat := by
  unfold encodeUDeregAck
  simp (disch := decide) only [toNat_shift_add, UInt32.toNat_toUInt64]
  simp only [UInt64.reduceToNat]
  omega

theorem toNat_encodeAdjStsBcast (hcfva : t.adjCFVA.toNat < 2 ^ 4) (hsys : siteData.sysId.toNat < 2 ^ 12)
    (hid : t.adjChannelId.toNat < 2 ^ 4) (hno : t.adjChannelNo.toNat < 2 ^ 12) :
    (t.encodeAdjStsBcast siteData).toNat =
      siteData.lra.toNat * 2 ^ 56 + t.adjCFVA.toNat * 2 ^ 52 + siteData.sysId.toNat * 2 ^ 40 +
        t.adjRfssId.toNat * 2 ^ 32 + t.adjSiteId.toNat * 2 ^ 24 + t.adjChannelId.toNat * 2 ^ 20 +
          t.adjChannelNo.toNat * 2 ^ 8 + t.adjServiceClass.toNat := by
  have hlra := siteData.lra.toNat_lt
  have hrfss := t.adjRfssId.toNat_lt
  have hsite := t.adjSiteId.toNat_lt
  have hclass := t.adjServiceClass.toNat_lt
  unfold encodeAdjStsBcast
  simp (disch := decide) only [toNat_shift_add, UInt8.toNat_toUInt64, UInt32.toNat_toUInt64]
  simp only [UInt64.reduceToNat]
  omega

theorem toNat_encodeCallTerm (hid : siteData.channelId.toNat < 2 ^ 4) (hno : t.grpVchNo.toNat < 2 ^ 12)
    (hdst : t.dstId.toNat < 2 ^ 16) (hsrc : t.srcId.toNat < 2 ^ 24) :
    (t.encodeCallTerm siteData).toNat =
      siteData.channelId.toNat * 2 ^ 52 + t.grpVchNo.toNat * 2 ^ 40 + t.dstId.toNat * 2 ^ 24 + t.srcId.toNat := by
  unfold encodeCallTerm
  simp (disch := decide) only [toNat_shift_add, UInt8.toNat_toUInt64, UInt32.toNat_toUInt64]
  simp only [UInt64.reduceToNat]
  omega

/-! ## Reading the words -/

/-- The addresses that were read, against those of the message. -/
theorem sameAddresses_readAddresses (t' : TSBKObject) (v : UInt64) :
    SameAddresses t (t'.readAddresses v) ↔
      v.toNat / 2 ^ 24 % 2 ^ 24 = t.dstId.toNat ∧ v.toNat % 2 ^ 24 = t.srcId.toNat :=
  and_congr (fieldOf_eq_iff v t.dstId 24 24 rfl (by decide) rfl (by decide)) (srcId_eq_iff v t.srcId)

theorem sameAddresses_readGroupAddresses (t' : TSBKObject) (v : UInt64) :
    SameAddresses t (t'.readGroupAddresses v) ↔
      v.toNat / 2 ^ 24 % 2 ^ 16 = t.dstId.toNat ∧ v.toNat % 2 ^ 24 = t.srcId.toNat :=
  and_congr (fieldOf_eq_iff v t.dstId 24 16 rfl (by decide) rfl (by decide)) (srcId_eq_iff v t.srcId)

theorem sameOptions_readServiceOptions (t' : TSBKObject) (v : UInt64) :
    SameOptions t (t'.readServiceOptions v) ↔ t.emergency = decide (v.toNat / 2 ^ 63 = 1) ∧
      t.encrypted = decide (v.toNat / 2 ^ 62 % 2 = 1) ∧ t.priority.toNat = v.toNat / 2 ^ 56 % 8 := by
  refine and_congr ?_ (and_congr ?_ ?_)
  · rw [← flagOf_emergency]
    exact eq_comm
  · rw [← flagOf_encrypted]
    exact eq_comm
  · rw [← toNat_priority, eq_comm]
    exact UInt8.toNat_inj.symm

/-- Service options at the head of a word come back. -/
theorem sameOptions_of_head (t' : TSBKObject) {v : UInt64} (hpriority : t.priority.toNat < 2 ^ 3)
    (hv : v.toNat / 2 ^ 56 = t.serviceOptions.toNat) : SameOptions t (t'.readServiceOptions v) := by
  rw [toNat_serviceOptions hpriority] at hv
  refine (sameOptions_readServiceOptions t' v).mpr ⟨?_, ?_, ?_⟩
  · have hbit : v.toNat / 2 ^ 63 = t.emergency.toNat := by
      have hc := Bool.toNat_le t.encrypted
      omega
    rw [hbit]
    cases t.emergency <;> rfl
  · have hbit : v.toNat / 2 ^ 62 % 2 = t.encrypted.toNat := by
      have hc := Bool.toNat_le t.encrypted
      omega
    rw [hbit]
    cases t.encrypted <;> rfl
  · omega

/-! ## Class by class -/

/-- The two forms that a queued response gives its destination are one. -/
theorem encodeQueRsp_eq (t : TSBKObject) : t.encodeQueRsp =
    if t.response = 0 then none
    else some ((((((if t.aivFlag then 0x80 else 0x00) <<< (6 : UInt64) + (t.service &&& 0x3F).toUInt64) <<< (8 : UInt64) +
      t.response.toUInt64) <<< (24 : UInt64) + t.dstId.toUInt64) <<< (24 : UInt64) + t.srcId.toUInt64)) := by
  have hforms : ∀ x : UInt64, (x <<< (8 : UInt64) + 0) <<< (16 : UInt64) = x <<< (24 : UInt64) := by
    intro x
    rw [UInt64.add_zero, ← UInt64.shiftLeft_add (by decide) (by decide) (by decide)]
    rfl
  unfold encodeQueRsp
  dsimp only
  rw [hforms, ite_self]

/-- A grant that was read names the channel that was written. -/
theorem channelIdOf_again {t' : TSBKObject} (h : t'.grpVchId = t.channelIdOf siteData false) :
    t'.channelIdOf siteData false = t.channelIdOf siteData false := by
  unfold channelIdOf at h ⊢
  simp only [Bool.false_eq_true, or_false] at h ⊢
  rw [h]
  split
  · rfl
  · exact ite_self _

theorem serviceOptions_congr {t' : TSBKObject} (h : SameOptions t t') : t'.serviceOptions = t.serviceOptions := by
  obtain ⟨hemergency, hencrypted, hpriority⟩ := h
  unfold serviceOptions
  rw [hemergency, hencrypted, hpriority]

/-- **What comes back is written again**, if nothing but the message decides about its channel. -/
theorem encodeValue_of_recovers {t' : TSBKObject} (hcls : t'.cls = t.cls) (hgrant : t.cls ≠ .IOSP_GRP_VCH)
    (h : Recovers siteData t t') : t'.encodeValue siteData = t.encodeValue siteData := by
  unfold Recovers SameAddresses at h
  unfold encodeValue
  rw [hcls]
  cases hc : t.cls <;> simp only [hc] at h ⊢
  case IOSP_GRP_VCH => exact absurd hc hgrant
  case IOSP_UU_VCH =>
      obtain ⟨hoptions, hid, hno, hdst, hsrc⟩ := h
      rw [encodeUuVch_eq, encodeUuVch_eq, serviceOptions_congr hoptions, channelIdOf_again hid, hno, hdst, hsrc]
  case IOSP_UU_ANS =>
      obtain ⟨hoptions, hdst, hsrc⟩ := h
      rw [encodeUuAns, encodeUuAns, serviceOptions_congr hoptions, hdst, hsrc]
  case IOSP_STS_UPDT => rw [encodeStsUpdt, encodeStsUpdt, h.1, h.2.1, h.2.2]
  case IOSP_MSG_UPDT => rw [encodeMsgUpdt, encodeMsgUpdt, h.1, h.2.1, h.2.2]
  case IOSP_RAD_MON => rw [encodeRadMon, encodeRadMon, h.1, h.2.1, h.2.2]
  case IOSP_CALL_ALRT => rw [encodeCallAlrt, encodeCallAlrt, h.1, h.2]
  case IOSP_ACK_RSP =>
      obtain ⟨haiv, hext, hservice, hsrc, hrest⟩ := h
      rw [encodeAckRsp, encodeAckRsp, haiv, hext, hservice, hsrc]
      split at hrest
      · next hwritten => rw [if_pos hwritten, if_pos hwritten]
      · rw [hrest]
  case IOSP_EXT_FNCT => rw [encodeExtFnct, encodeExtFnct, h.1, h.2.1, h.2.2]
  case IOSP_GRP_AFF => rw [encodeGrpAff, encodeGrpAff, h.1, h.2.1, h.2.2.1, h.2.2.2]
  case IOSP_U_REG => rw [encodeUReg, encodeUReg, h.1, h.2.2.1, h.2.2.2]
  case OSP_QUE_RSP =>
      obtain ⟨haiv, hservice, hresponse, hdst, hsrc⟩ := h
      rw [encodeQueRsp_eq, encodeQueRsp_eq, haiv, hservice, hresponse, hdst, hsrc]
  case OSP_U_DEREG_ACK => rw [encodeUDeregAck, encodeUDeregAck, h.2.2]
  case OSP_ADJ_STS_BCAST =>
      obtain ⟨hcfva, -, hrfss, hsite, hid, hno, hclass⟩ := h
      rw [encodeAdjStsBcast, encodeAdjStsBcast, hcfva, hrfss, hsite, hid, hno, hclass]
  case OSP_DVM_LC_CALL_TERM =>
      obtain ⟨-, hno, hdst, hsrc⟩ := h
      rw [encodeCallTerm, encodeCallTerm, hno, hdst, hsrc]

/-! The digits at the low end of a word are the addresses, whatever stands above them. -/

theorem address_digits {v x dst src : Nat} (hdst : dst < 2 ^ 24) (hsrc : src < 2 ^ 24)
    (hv : v = x * 2 ^ 48 + dst * 2 ^ 24 + src) : v / 2 ^ 24 % 2 ^ 24 = dst ∧ v % 2 ^ 24 = src := by
  subst hv
  refine ⟨?_, ?_⟩ <;> omega

theorem groupAddress_digits {v x dst src : Nat} (hdst : dst < 2 ^ 16) (hsrc : src < 2 ^ 24)
    (hv : v = x * 2 ^ 40 + dst * 2 ^ 24 + src) : v / 2 ^ 24 % 2 ^ 16 = dst ∧ v % 2 ^ 24 = src := by
  subst hv
  refine ⟨?_, ?_⟩ <;> omega

/-- The digits of the word of a group grant. -/
theorem grpVch_digits {v so ch no x : Nat} (hch : ch < 2 ^ 4) (hno : no < 2 ^ 12) (hx : x < 2 ^ 40)
    (hv : v = so * 2 ^ 56 + ch * 2 ^ 52 + no * 2 ^ 40 + x) :
    v / 2 ^ 56 = so ∧ v / 2 ^ 52 % 2 ^ 4 = ch ∧ v / 2 ^ 40 % 2 ^ 12 = no := by
  subst hv
  refine ⟨?_, ?_, ?_⟩ <;> omega

/-- The digits of the word of a grant between units: each field above the destination is eight bits too high. -/
theorem uuVch_digits {v ch no dst src : Nat} (hno : no < 2 ^ 12) (hdst : dst < 2 ^ 24) (hsrc : src < 2 ^ 24)
    (hv : v = ch * 2 ^ 60 + no * 2 ^ 48 + dst * 2 ^ 24 + src) :
    v / 2 ^ 63 = ch / 8 ∧ v / 2 ^ 62 % 2 = ch / 4 % 2 ∧ v / 2 ^ 56 % 8 = no / 256 % 8 ∧
      v / 2 ^ 52 % 2 ^ 4 = no / 16 % 16 ∧ v / 2 ^ 40 % 2 ^ 12 = no % 16 * 256 + dst / 65536 := by
  subst hv
  refine ⟨?_, ?_, ?_, ?_, ?_⟩ <;> omega

theorem channelIdOf_lt (forceChannelId : Bool) (hid : t.grpVchId.toNat < 2 ^ 4)
    (hsite : siteData.channelId.toNat < 2 ^ 4) : (t.channelIdOf siteData forceChannelId).toNat < 2 ^ 4 := by
  unfold channelIdOf
  split <;> assumption

/-- A value of eight bits that is written an octet below where it is read. -/
theorem low_octet {v value dst src : Nat} (hvalue : value < 2 ^ 8) (hdst : dst < 2 ^ 24) (hsrc : src < 2 ^ 24)
    (hv : v = value * 2 ^ 48 + dst * 2 ^ 24 + src) : v / 2 ^ 56 % 2 ^ 8 = 0 := by
  omega

section Classes

variable (hfits : t.Fits siteData)
include hfits

theorem recovers_grpVch (hcls : t.cls = .IOSP_GRP_VCH) :
    Recovers siteData t (t.received.decodeGrpVch (t.encodeGrpVch siteData)) := by
  simp only [Fits, hcls] at hfits
  obtain ⟨hpriority, hown, hsite, hno, hdst, hsrc⟩ := hfits
  have hid := channelIdOf_lt t.forceChannelId hown hsite
  have hv := toNat_encodeGrpVch hpriority hid hno hdst hsrc
  have haddresses := groupAddress_digits (x := t.serviceOptions.toNat * 2 ^ 16 +
    (t.channelIdOf siteData t.forceChannelId).toNat * 2 ^ 12 + t.grpVchNo.toNat) hdst hsrc (hv.trans (by omega))
  have hlow : t.dstId.toNat * 2 ^ 24 + t.srcId.toNat < 2 ^ 40 := by omega
  obtain ⟨hoptions, hchannel, hnumber⟩ := grpVch_digits hid hno hlow (hv.trans (Nat.add_assoc _ _ _))
  simp only [Recovers, hcls]
  refine ⟨sameOptions_of_head t.received hpriority hoptions, ?_, ?_, ?_⟩
  · exact (octetOf_eq_iff _ _ 52 4 rfl (by decide) rfl (by decide)).mpr hchannel
  · exact (fieldOf_eq_iff _ _ 40 12 rfl (by decide) rfl (by decide)).mpr hnumber
  · exact (sameAddresses_readGroupAddresses _ _).mpr haddresses

theorem recovers_uuVch (hcls : t.cls = .IOSP_UU_VCH) :
    Recovers siteData t (t.received.decodeUuVch (t.encodeUuVch siteData)) ↔ t.Meets siteData := by
  simp only [Fits, hcls] at hfits
  obtain ⟨-, hown, hsite, hno, hdst, hsrc⟩ := hfits
  have hv := toNat_encodeUuVch (channelIdOf_lt false hown hsite) hno hdst hsrc
  have haddresses := address_digits (x := (t.channelIdOf siteData false).toNat * 2 ^ 12 + t.grpVchNo.toNat) hdst hsrc
    (hv.trans (by omega))
  obtain ⟨hemergency, hencrypted, hpriority, hchannel, hnumber⟩ := uuVch_digits hno hdst hsrc hv
  have hoptions := sameOptions_readServiceOptions (t := t) t.received (t.encodeUuVch siteData)
  rw [hemergency, hencrypted, hpriority] at hoptions
  have hid := octetOf_eq_iff (t.encodeUuVch siteData) (k := 52) (m := 0x0F) (t.channelIdOf siteData false) 52 4 rfl
    (by decide) rfl (by decide)
  rw [hchannel] at hid
  have hno := fieldOf_eq_iff (t.encodeUuVch siteData) (k := 40) (m := 0xFFF) t.grpVchNo 40 12 rfl (by decide) rfl
    (by decide)
  rw [hnumber] at hno
  simp only [Recovers, Meets, hcls]
  constructor
  · rintro ⟨hop, hch, hnu, -⟩
    obtain ⟨he, hc, hp⟩ := hoptions.mp hop
    exact ⟨he, hc, hp, (hid.mp hch).symm, (hno.mp hnu).symm⟩
  · rintro ⟨he, hc, hp, hch, hnu⟩
    exact ⟨hoptions.mpr ⟨he, hc, hp⟩, hid.mpr hch.symm, hno.mpr hnu.symm,
      (sameAddresses_readAddresses _ _).mpr haddresses⟩

theorem recovers_uuAns (hcls : t.cls = .IOSP_UU_ANS) :
    Recovers siteData t (t.received.decodeUuAns t.encodeUuAns) := by
  simp only [Fits, hcls] at hfits
  obtain ⟨hpriority, hdst, hsrc⟩ := hfits
  have hv := toNat_encodeUuAns hpriority hdst hsrc
  have haddresses := address_digits (x := t.serviceOptions.toNat * 2 ^ 8) hdst hsrc (hv.trans (by omega))
  have hhead : t.encodeUuAns.toNat / 2 ^ 56 = t.serviceOptions.toNat := by omega
  simp only [Recovers, hcls]
  exact ⟨sameOptions_of_head t.received hpriority hhead, (sameAddresses_readAddresses _ _).mpr haddresses⟩

theorem recovers_stsUpdt (hcls : t.cls = .IOSP_STS_UPDT) :
    Recovers siteData t (t.received.decodeStsUpdt t.encodeStsUpdt) ↔ t.Meets siteData := by
  simp only [Fits, hcls] at hfits
  have hv := toNat_encodeStsUpdt hfits.1 hfits.2
  have haddresses := (sameAddresses_readAddresses
    { t.received with statusValue := octetOf t.encodeStsUpdt 56 0xFF } _).mpr (address_digits hfits.1 hfits.2 hv)
  have hoctet := low_octet t.statusValue.toNat_lt hfits.1 hfits.2 hv
  have hvalue := octetOf_eq_iff t.encodeStsUpdt (k := 56) (m := 0xFF) t.statusValue 56 8 rfl (by decide) rfl (by decide)
  rw [hoctet] at hvalue
  simp only [Recovers, Meets, hcls]
  refine (and_iff_left haddresses).trans (hvalue.trans ?_)
  rw [← UInt8.toNat_inj]
  exact eq_comm

theorem recovers_msgUpdt (hcls : t.cls = .IOSP_MSG_UPDT) :
    Recovers siteData t (t.received.decodeMsgUpdt t.encodeMsgUpdt) ↔ t.Meets siteData := by
  simp only [Fits, hcls] at hfits
  have hv := toNat_encodeMsgUpdt hfits.1 hfits.2
  have haddresses := (sameAddresses_readAddresses
    { t.received with messageValue := octetOf t.encodeMsgUpdt 56 0xFF } _).mpr (address_digits hfits.1 hfits.2 hv)
  have hoctet := low_octet t.messageValue.toNat_lt hfits.1 hfits.2 hv
  have hvalue := octetOf_eq_iff t.encodeMsgUpdt (k := 56) (m := 0xFF) t.messageValue 56 8 rfl (by decide) rfl
    (by decide)
  rw [hoctet] at hvalue
  simp only [Recovers, Meets, hcls]
  refine (and_iff_left haddresses).trans (hvalue.trans ?_)
  rw [← UInt8.toNat_inj]
  exact eq_comm

theorem recovers_radMon (hcls : t.cls = .IOSP_RAD_MON) :
    Recovers siteData t (t.received.decodeRadMon t.encodeRadMon) ↔ t.Meets siteData := by
  simp only [Fits, hcls] at hfits
  obtain ⟨htx, hdst, hsrc⟩ := hfits
  have hv := toNat_encodeRadMon htx hdst hsrc
  have haddresses := sameAddresses_readAddresses (t := t)
    { t.received with txMult := octetOf t.encodeRadMon 48 0x3 } t.encodeRadMon
  have hvalue := octetOf_eq_iff t.encodeRadMon (k := 48) (m := 0x3) t.txMult 48 2 rfl (by decide) rfl (by decide)
  have hhigh : t.encodeRadMon.toNat / 2 ^ 48 % 2 ^ 2 = 0 := by omega
  rw [hhigh] at hvalue
  simp only [Recovers, Meets, hcls, ← UInt8.toNat_inj, ← UInt32.toNat_inj]
  constructor
  · rintro ⟨htx', haddr⟩
    have htx0 := hvalue.mp (UInt8.toNat_inj.mp htx')
    have hlow := (haddresses.mp haddr).2
    rw [hv] at hlow
    refine ⟨htx0.symm, ?_⟩
    show t.dstId.toNat = 0
    omega
  · rintro ⟨htx0, hdst0⟩
    have hdst0 : t.dstId.toNat = 0 := hdst0
    have htx0 : t.txMult.toNat = 0 := htx0
    refine ⟨UInt8.toNat_inj.mpr (hvalue.mpr htx0.symm), haddresses.mpr ?_⟩
    rw [hv, htx0, hdst0]
    refine ⟨?_, ?_⟩ <;> omega

theorem recovers_callAlrt (hcls : t.cls = .IOSP_CALL_ALRT) :
    Recovers siteData t (t.received.decodeCallAlrt t.encodeCallAlrt) := by
  simp only [Fits, hcls] at hfits
  have hv := toNat_encodeCallAlrt hfits.1 hfits.2
  simp only [Recovers, hcls]
  refine (sameAddresses_readAddresses _ _).mpr (address_digits (x := 0) hfits.1 hfits.2 (hv.trans ?_))
  rw [Nat.zero_mul, Nat.zero_add]

theorem recovers_ackRsp (hcls : t.cls = .IOSP_ACK_RSP) :
    Recovers siteData t (t.received.decodeAckRsp (t.encodeAckRsp siteData)) ↔ t.Meets siteData := by
  simp only [Fits, hcls] at hfits
  obtain ⟨hservice, hnet, hsys, hdst, hsrc⟩ := hfits
  simp only [Recovers, Meets, hcls]
  constructor
  · rintro ⟨-, hext, -⟩
    exact hext.symm
  · intro hext
    have hv := toNat_encodeAckRsp hservice hnet hsys hdst hsrc
    rw [hext, Bool.and_false, if_neg Bool.false_ne_true] at hv
    have haddresses := address_digits (x := (t.aivFlag.toNat * 2 ^ 7 + t.service.toNat) * 2 ^ 8) hdst hsrc
      (hv.trans (by simp only [Bool.toNat_false]; omega))
    have haiv := Bool.toNat_le t.aivFlag
    have hhead : (t.encodeAckRsp siteData).toNat / 2 ^ 56 = t.aivFlag.toNat * 2 ^ 7 + t.service.toNat := by
      simp only [Bool.toNat_false] at hv
      omega
    have hflag : flagOf (t.encodeAckRsp siteData) 0x80 = t.aivFlag := by
      have hbit : (t.encodeAckRsp siteData).toNat / 2 ^ 63 = t.aivFlag.toNat := by omega
      rw [flagOf_emergency, hbit]
      cases t.aivFlag <;> rfl
    obtain ⟨hdst', hsrc'⟩ := (sameAddresses_readAddresses (t := t) { t.received with
      aivFlag := flagOf (t.encodeAckRsp siteData) 0x80, service := octetOf (t.encodeAckRsp siteData) 56 0x3F }
        (t.encodeAckRsp siteData)).mpr haddresses
    rw [hext, Bool.and_false, if_neg Bool.false_ne_true]
    refine ⟨hflag, rfl, ?_, hsrc', hdst'⟩
    refine (octetOf_eq_iff _ _ 56 6 rfl (by decide) rfl (by decide)).mpr ?_
    rw [hhead]
    omega

theorem recovers_extFnct (hcls : t.cls = .IOSP_EXT_FNCT) :
    Recovers siteData t (t.received.decodeExtFnct t.encodeExtFnct) ↔ t.Meets siteData := by
  simp only [Fits, hcls] at hfits
  obtain ⟨hfn, hdst, hsrc⟩ := hfits
  have hv := toNat_encodeExtFnct hfn hdst hsrc
  obtain ⟨hhigh, hlow⟩ := address_digits hsrc hdst hv
  have hfunction : t.encodeExtFnct.toNat / 2 ^ 48 % 2 ^ 16 = t.extendedFunction.toNat := by omega
  have haddresses := sameAddresses_readAddresses (t := t)
    { t.received with extendedFunction := fieldOf t.encodeExtFnct 48 0xFFFF } t.encodeExtFnct
  rw [hhigh, hlow] at haddresses
  have hvalue := (fieldOf_eq_iff t.encodeExtFnct (k := 48) (m := 0xFFFF) t.extendedFunction 48 16 rfl (by decide) rfl
    (by decide)).mpr hfunction
  simp only [Recovers, Meets, hcls, ← UInt32.toNat_inj (a := t.srcId)]
  refine (and_iff_right hvalue).trans (haddresses.trans ?_)
  exact ⟨fun h => h.1, fun h => ⟨h, h.symm⟩⟩

theorem not_recovers_grpAff (hcls : t.cls = .IOSP_GRP_AFF) (v : UInt64) :
    ¬Recovers siteData t (t.received.decodeGrpAff v) := by
  simp only [Fits, hcls] at hfits
  simp only [Recovers, hcls]
  rintro ⟨-, hgroup, -⟩
  -- the request does not set the group that the response announces
  have hdefault : (0xFFFFFF : UInt32) = t.announceGroup := hgroup
  rw [← hdefault] at hfits
  exact absurd hfits.2.1 (by decide)

theorem recovers_uReg (hcls : t.cls = .IOSP_U_REG) :
    Recovers siteData t (t.received.decodeUReg (t.encodeUReg siteData)) ↔ t.Meets siteData := by
  simp only [Fits, hcls] at hfits
  obtain ⟨hresponse, hsys, hdst, hsrc⟩ := hfits
  have hv := toNat_encodeUReg hresponse hsys hdst hsrc
  obtain ⟨hhigh, hlow⟩ := address_digits (x := t.response.toNat * 2 ^ 12 + siteData.sysId.toNat) hdst hsrc
    (hv.trans (by omega))
  have hsystem := fieldOf_eq_iff (t.encodeUReg siteData) (k := 24) (m := 0xFFF) siteData.sysId 24 12 rfl (by decide)
    rfl (by decide)
  have hdigit : (t.encodeUReg siteData).toNat / 2 ^ 24 % 2 ^ 12 = t.dstId.toNat % 2 ^ 12 := by omega
  rw [hdigit] at hsystem
  simp only [Recovers, Meets, hcls]
  constructor
  · rintro ⟨hresp, hid, hto, -⟩
    have hto : t.dstId = 0 := hto.symm
    refine ⟨hresp.symm, hto, ?_⟩
    have hzero := hsystem.mp hid
    rw [hto] at hzero
    exact UInt32.toNat_inj.mp hzero.symm
  · rintro ⟨hresp, hto, hid⟩
    refine ⟨hresp.symm, hsystem.mpr ?_, hto.symm, (srcId_eq_iff _ _).mpr hlow⟩
    rw [hto, hid]
    rfl

theorem recovers_queRsp (hcls : t.cls = .OSP_QUE_RSP) {v : UInt64} (hv : t.encodeQueRsp = some v) :
    Recovers siteData t (t.received.decodeQueRsp v) ↔ t.Meets siteData := by
  simp only [Fits, hcls] at hfits
  obtain ⟨hservice, hto, hsrc⟩ := hfits
  have hdst : t.dstId.toNat < 2 ^ 24 := by
    split at hto <;> omega
  have hv := toNat_encodeQueRsp hv hservice hdst hsrc
  have hresponse := t.response.toNat_lt
  have haddresses := (sameAddresses_readAddresses (t := t) (t.received.readResponse v) v).mpr
    (address_digits (x := t.service.toNat * 2 ^ 8 + t.response.toNat) hdst hsrc (hv.trans (by omega)))
  have hflag : flagOf v 0x80 = false := by
    have hbit : v.toNat / 2 ^ 63 = 0 := by omega
    rw [flagOf_emergency, hbit]
    rfl
  have hservice' : octetOf v 56 0x3F = t.service :=
    (octetOf_eq_iff _ _ 56 6 rfl (by decide) rfl (by decide)).mpr (by omega)
  have hresponse' : octetOf v 48 0xFF = t.response :=
    (octetOf_eq_iff _ _ 48 8 rfl (by decide) rfl (by decide)).mpr (by omega)
  simp only [Recovers, Meets, hcls]
  constructor
  · rintro ⟨haiv, -⟩
    exact haiv.symm.trans hflag
  · intro haiv
    exact ⟨hflag.trans haiv.symm, hservice', hresponse', haddresses⟩

theorem recovers_uDeregAck (hcls : t.cls = .OSP_U_DEREG_ACK) :
    Recovers siteData t (t.received.decodeUDeregAck (t.encodeUDeregAck siteData)) := by
  simp only [Fits, hcls] at hfits
  obtain ⟨hnet, hsys, hsrc⟩ := hfits
  have hv := toNat_encodeUDeregAck hnet hsys hsrc
  simp only [Recovers, hcls]
  refine ⟨?_, ?_, ?_⟩
  · exact (fieldOf_eq_iff _ _ 36 20 rfl (by decide) rfl (by decide)).mpr (by omega)
  · exact (fieldOf_eq_iff _ _ 24 12 rfl (by decide) rfl (by decide)).mpr (by omega)
  · exact (srcId_eq_iff _ _).mpr (by omega)

theorem recovers_adjStsBcast (hcls : t.cls = .OSP_ADJ_STS_BCAST) :
    Recovers siteData t (t.received.decodeAdjStsBcast (t.encodeAdjStsBcast siteData)) ↔ t.Meets siteData := by
  simp only [Fits, hcls] at hfits
  obtain ⟨hcfva, -, hsys, hid, hno⟩ := hfits
  have hv := toNat_encodeAdjStsBcast hcfva hsys hid hno
  have hlra := siteData.lra.toNat_lt
  have hrfss := t.adjRfssId.toNat_lt
  have hsite := t.adjSiteId.toNat_lt
  have hclass := t.adjServiceClass.toNat_lt
  have hsystem : fieldOf (t.encodeAdjStsBcast siteData) 40 0xFFF = siteData.sysId :=
    (fieldOf_eq_iff _ _ 40 12 rfl (by decide) rfl (by decide)).mpr (by omega)
  simp only [Recovers, Meets, hcls]
  constructor
  · rintro ⟨hcfva', hsys', -⟩
    exact ⟨hcfva'.symm, hsys'.symm.trans hsystem⟩
  · rintro ⟨hcfva', hsys'⟩
    refine ⟨hcfva'.symm, hsystem.trans hsys'.symm, ?_, ?_, ?_, ?_, ?_⟩
    · exact (octetOf_eq_iff _ _ 32 8 rfl (by decide) rfl (by decide)).mpr (by omega)
    · exact (octetOf_eq_iff _ _ 24 8 rfl (by decide) rfl (by decide)).mpr (by omega)
    · exact (octetOf_eq_iff _ _ 20 4 rfl (by decide) rfl (by decide)).mpr (by omega)
    · exact (fieldOf_eq_iff _ _ 8 12 rfl (by decide) rfl (by decide)).mpr (by omega)
    · have hoctet : octetOf (t.encodeAdjStsBcast siteData) 0 0xFF = t.adjServiceClass :=
        (octetOf_eq_iff _ _ 0 8 rfl (by decide) rfl (by decide)).mpr (by omega)
      rw [octetOf, UInt64.shiftRight_zero] at hoctet
      exact hoctet

theorem recovers_callTerm (hcls : t.cls = .OSP_DVM_LC_CALL_TERM) :
    Recovers siteData t (t.received.decodeCallTerm (t.encodeCallTerm siteData)) := by
  simp only [Fits, hcls] at hfits
  obtain ⟨hid, hno, hdst, hsrc⟩ := hfits
  have hv := toNat_encodeCallTerm hid hno hdst hsrc
  have haddresses := groupAddress_digits (x := siteData.channelId.toNat * 2 ^ 12 + t.grpVchNo.toNat) hdst hsrc
    (hv.trans (by omega))
  simp only [Recovers, hcls]
  refine ⟨?_, ?_, (sameAddresses_readGroupAddresses _ _).mpr haddresses⟩
  · exact (octetOf_eq_iff _ _ 52 4 rfl (by decide) rfl (by decide)).mpr (by omega)
  · exact (fieldOf_eq_iff _ _ 40 12 rfl (by decide) rfl (by decide)).mpr (by omega)

end Classes

/-! ## All classes -/

/-- A group grant is written again with the channel of the site, if it carries none. -/
theorem encodeGrpVch_again {t' : TSBKObject} (hfits : t.Fits siteData) (hcls : t.cls = .IOSP_GRP_VCH)
    (hforce : t'.forceChannelId = false) (h : Recovers siteData t t') :
    t'.encodeGrpVch siteData = t.encodeGrpVch siteData ↔ t.Meets siteData := by
  simp only [Fits, hcls] at hfits
  obtain ⟨hpriority, hown, hsite, hno, hdst, hsrc⟩ := hfits
  simp only [Recovers, hcls] at h
  obtain ⟨hoptions, hid, hnumber, hto, hfrom⟩ := h
  have hchannel : t'.encodeGrpVch siteData = t.encodeGrpVch siteData ↔
      t'.channelIdOf siteData false = t.channelIdOf siteData t.forceChannelId := by
    constructor
    · intro heq
      have hid' : t'.grpVchId.toNat < 2 ^ 4 := hid ▸ channelIdOf_lt _ hown hsite
      have hv := toNat_encodeGrpVch hpriority (channelIdOf_lt t.forceChannelId hown hsite) hno hdst hsrc
      have hv' := toNat_encodeGrpVch (t := t') (hoptions.2.2 ▸ hpriority)
        (channelIdOf_lt t'.forceChannelId hid' hsite) (hnumber ▸ hno) (hto ▸ hdst) (hfrom ▸ hsrc)
      rw [heq, hv, serviceOptions_congr hoptions, hnumber, hto, hfrom, hforce] at hv'
      refine UInt8.toNat_inj.mp ?_
      omega
    · intro heq
      rw [encodeGrpVch_eq, encodeGrpVch_eq, serviceOptions_congr hoptions, hnumber, hto, hfrom, hforce, heq]
  rw [hchannel]
  simp only [Meets, hcls, channelIdOf] at hid ⊢
  rw [hid]
  by_cases hzero : t.grpVchId = 0
  · cases hforced : t.forceChannelId
    · simp [hzero]
    · simp [hzero]
  · simp [hzero]

/-- Two objects write the same octets, if they write the same word. -/
theorem payloadOctets_eq_iff (t t' : TSBKObject) : payloadOctets siteData t' = payloadOctets siteData t ↔
    t'.encodeValue siteData = t.encodeValue siteData := by
  have hinj : Function.Injective fun v => (List.range 8).map (TSBK.fromValue v) := by
    intro v w h
    have hoctets : ∀ i < 8, TSBK.fromValue v i = TSBK.fromValue w i :=
      fun i hi => List.map_inj_left.mp h i (List.mem_range.mpr hi)
    rw [← TSBK.toValue_fromValue v, ← TSBK.toValue_fromValue w]
    exact TSBK.toValue_congr hoctets
  exact (Option.map_injective hinj).eq_iff

/-- Reading the payload leaves the header alone. -/
theorem decodePayload_header (t : TSBKObject) (payload : Bytes) :
    (t.decodePayload payload).cls = t.cls ∧ (t.decodePayload payload).lco = t.lco ∧
      (t.decodePayload payload).mfId = t.mfId ∧ (t.decodePayload payload).lastBlock = t.lastBlock := by
  unfold decodePayload
  dsimp only
  split <;> exact ⟨rfl, rfl, rfl, rfl⟩

/-- **The fields come back** of every class but the group grant, exactly if `Meets` holds. -/
theorem recovers_iff (hfits : t.Fits siteData) {v : UInt64} (hv : t.encodeValue siteData = some v) {payload : Bytes}
    (hpayload : TSBK.toValue payload = v) (hgrant : t.cls ≠ .IOSP_GRP_VCH) :
    Recovers siteData t (t.received.decodePayload payload) ↔ t.Meets siteData := by
  have hcls : t.received.cls = t.cls := rfl
  unfold encodeValue at hv
  unfold decodePayload
  rw [hpayload, hcls]
  cases hc : t.cls <;> simp only [hc, reduceCtorEq, Option.some.injEq] at hv ⊢
  case IOSP_GRP_VCH => exact absurd hc hgrant
  case IOSP_UU_VCH => exact hv ▸ recovers_uuVch hfits hc
  case IOSP_UU_ANS =>
      refine iff_of_true (hv ▸ recovers_uuAns hfits hc) ?_
      simp only [Meets, hc]
  case IOSP_STS_UPDT => exact hv ▸ recovers_stsUpdt hfits hc
  case IOSP_MSG_UPDT => exact hv ▸ recovers_msgUpdt hfits hc
  case IOSP_RAD_MON => exact hv ▸ recovers_radMon hfits hc
  case IOSP_CALL_ALRT =>
      refine iff_of_true (hv ▸ recovers_callAlrt hfits hc) ?_
      simp only [Meets, hc]
  case IOSP_ACK_RSP => exact hv ▸ recovers_ackRsp hfits hc
  case IOSP_EXT_FNCT => exact hv ▸ recovers_extFnct hfits hc
  case IOSP_GRP_AFF =>
      refine iff_of_false (not_recovers_grpAff hfits hc v) ?_
      simp only [Meets, hc, not_false_eq_true]
  case IOSP_U_REG => exact hv ▸ recovers_uReg hfits hc
  case OSP_QUE_RSP => exact recovers_queRsp hfits hc hv
  case OSP_U_DEREG_ACK =>
      refine iff_of_true (hv ▸ recovers_uDeregAck hfits hc) ?_
      simp only [Meets, hc]
  case OSP_ADJ_STS_BCAST => exact hv ▸ recovers_adjStsBcast hfits hc
  case OSP_DVM_LC_CALL_TERM =>
      refine iff_of_true (hv ▸ recovers_callTerm hfits hc) ?_
      simp only [Meets, hc]

/-- **What the class of a word reads.** The fields come back and the word is written again, exactly if `Meets` holds. -/
theorem returns_iff (hfits : t.Fits siteData) {v : UInt64} (hv : t.encodeValue siteData = some v) {payload : Bytes}
    (hpayload : TSBK.toValue payload = v) : (Recovers siteData t (t.received.decodePayload payload) ∧
      (t.received.decodePayload payload).encodeValue siteData = t.encodeValue siteData) ↔ t.Meets siteData := by
  have hcls : (t.received.decodePayload payload).cls = t.cls := (decodePayload_header t.received payload).1
  by_cases hc : t.cls = .IOSP_GRP_VCH
  · have hread : t.received.decodePayload payload = t.received.decodeGrpVch (t.encodeGrpVch siteData) := by
      have hword : t.encodeValue siteData = some (t.encodeGrpVch siteData) := by
        simp only [encodeValue, hc]
      rw [hword] at hv
      unfold decodePayload
      rw [hpayload, ← Option.some.inj hv, show t.received.cls = .IOSP_GRP_VCH from hc]
    rw [hread] at hcls ⊢
    have hback := recovers_grpVch hfits hc
    refine (and_iff_right hback).trans ?_
    rw [← encodeGrpVch_again hfits hc rfl hback]
    unfold encodeValue
    rw [hcls, hc]
    exact Option.some_inj
  · rw [and_iff_left_of_imp (encodeValue_of_recovers hcls hc)]
    exact recovers_iff hfits hv hpayload hc

end TSBKObject

open TSBKObject

/-- An object that comes back meets the condition of its class. -/
theorem meets_of_symmetric {siteData : SiteData} {t : TSBKObject} (hwrites : (t.encodeValue siteData).isSome = true)
    (hcls : TSBKFactory.classOf t.lco t.mfId = some t.cls) (hfits : t.Fits siteData) (h : Symmetric siteData t) :
    t.Meets siteData := by
  obtain ⟨v, hv⟩ := Option.isSome_iff_exists.mp hwrites
  -- one way of encoding is enough: raw and without the trellis
  obtain ⟨t', hread, -, -, -, -, hback, hoctets⟩ := h false false (fun _ => 0x00) true true id
  obtain ⟨payload, hpayload, hcreate⟩ := createTSBK_encode siteData hv hcls false false (fun _ => 0x00)
    (show true = true → true = true from id)
  obtain rfl := Option.some.inj (hcreate.symm.trans hread)
  exact (returns_iff hfits hv hpayload).mp ⟨hback, (payloadOctets_eq_iff t _).mp hoctets⟩

/-- **Which trunking messages come back.** An object of a class that the factory reads and that writes a payload, with
    its fields within their widths, is read again as it was written and writes the same octets again, exactly if
    `Meets` holds of it. -/
theorem symmetric_iff (siteData : SiteData) (t : TSBKObject) (hwrites : (t.encodeValue siteData).isSome = true)
    (hcls : TSBKFactory.classOf t.lco t.mfId = some t.cls) (hfits : t.Fits siteData) :
    Symmetric siteData t ↔ t.Meets siteData := by
  refine ⟨meets_of_symmetric hwrites hcls hfits, ?_⟩
  intro hmeets factoryWarnCRC warnCRC data rawTSBK noTrellis hraw
  obtain ⟨v, hv⟩ := Option.isSome_iff_exists.mp hwrites
  obtain ⟨payload, hpayload, hcreate⟩ := createTSBK_encode siteData hv hcls factoryWarnCRC warnCRC data hraw
  obtain ⟨hback, hagain⟩ := (returns_iff hfits hv hpayload).mpr hmeets
  obtain ⟨hc, hlco, hmfId, hlast⟩ := decodePayload_header t.received payload
  exact ⟨_, hcreate, hc, hlco, hmfId, hlast, hback, (payloadOctets_eq_iff t _).mpr hagain⟩

/-- A grant to a talkgroup comes back. -/
theorem symmetric_groupGrant : Symmetric SiteData.default
    { TSBKClass.IOSP_GRP_VCH.new with srcId := 1, dstId := 2, grpVchId := 1, grpVchNo := 3, emergency := true } :=
  (symmetric_iff _ _ rfl (by decide) (by simp only [Fits, TSBKClass.new]; decide)).mpr
    (by simp only [Meets, TSBKClass.new]; decide)

/-- A grant between two units, on the first channel of the default site, does not: what is read is a call without
    priority, on another channel. -/
theorem unitGrant_not_symmetric : ¬Symmetric SiteData.default
    { TSBKClass.IOSP_UU_VCH.new with srcId := 1, dstId := 2, grpVchNo := 1 } := by
  intro h
  have hmeets := meets_of_symmetric rfl (by decide) (by simp only [Fits, TSBKClass.new]; decide) h
  simp only [Meets, TSBKClass.new] at hmeets
  exact absurd hmeets (by decide)

end P25

end DvmHost

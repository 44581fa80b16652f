import DvmHost.Common.Dmr.Lc.Csbk.Correctness.BurstCarriage

/-!
# `Common.Dmr.Lc.Csbk.Correctness.CsbkSymmetry` — what comes back of a control signalling block

The word of a block comes back as it was written; whether its fields do is answered for each of the six classes that
both write and read by the digits of the word. Three bring every block back; for the others, and for multi-block
headers, `Meets` says which.
-/

namespace DvmHost

open Lib Words

namespace Dmr

namespace CSBKObject

/-! ## What a block carries -/

/-- The fields that the class of an object writes are within their widths on the air. -/
def Fits (c : CSBKObject) : Prop :=
  c.dstId.toNat < 2 ^ 24 ∧ c.srcId.toNat < 2 ^ 24 ∧
    match c.cls with
    | .RAND => c.serviceOptions.toNat < 2 ^ 7 ∧ c.serviceExtra.toNat < 2 ^ 4 ∧ c.serviceKind.toNat < 2 ^ 4
    | .NACK_RSP => c.serviceKind.toNat < 2 ^ 6
    | .ACK_RSP => c.response.toNat < 2 ^ 7
    | .MAINT => c.maintKind.toNat < 2 ^ 3
    | _ => True

/-- The flag of an acknowledgement that `encode` writes: a registration carries none. -/
def ackGI (c : CSBKObject) : Bool := c.GI && c.reason ≠ TS_ACK_RSN_REG

/-- Source and target are those of the block. -/
def SameAddresses (c c' : CSBKObject) : Prop := c'.dstId = c.dstId ∧ c'.srcId = c.srcId

/-- **The fields come back.** An object read from a block has what the class of the block wrote into it. -/
def Recovers (c c' : CSBKObject) : Prop :=
  match c.cls with
  | .CALL_ALRT => c'.GI = c.GI ∧ SameAddresses c c'
  | .RAND => c'.serviceOptions = c.serviceOptions ∧ c'.proxy = c.proxy ∧ c'.serviceExtra = c.serviceExtra ∧
      c'.serviceKind = c.serviceKind ∧ SameAddresses c c'
  | .EXT_FNCT => c'.GI = c.GI ∧ c'.dataContent = c.dataContent ∧ c'.extendedFunction = c.extendedFunction ∧
      SameAddresses c c'
  | .NACK_RSP => c'.GI = c.GI ∧ c'.serviceKind = c.serviceKind ∧ c'.reason = c.reason ∧ SameAddresses c c'
  | .ACK_RSP => c'.GI = c.ackGI ∧ c'.response = c.response ∧ c'.reason = c.reason ∧ SameAddresses c c'
  | .MAINT => c'.maintKind = c.maintKind ∧ SameAddresses c c'
  | _ => SameAddresses c c'

/-- **The codec is symmetric at an object.** Whatever burst the object is encoded into, the factory makes an object of
    it under the same data type, with the same header and the fields that were carried. -/
def Symmetric (siteId : UInt16) (c : CSBKObject) : Prop :=
  ∀ data : Bytes, ∃ c', CSBKFactory.createCSBK (c.encodeBurst siteId data) c.dataType = some c' ∧
    c'.cls = c.cls ∧ c'.CSBKO = c.CSBKO ∧ c'.FID = c.FID ∧ c'.lastBlock = c.lastBlock ∧ Recovers c c'

/-- **The blocks that come back.** The objects that the factory makes know the mask of `DT_CSBK` only; a Cdef block has
    a color code for its feature id; `CSBK_EXT_FNCT` reads its source and target the other way round, and its group flag
    not at all; `CSBK_ACK_RSP` shifts the target by 25 bits, so that flag and site leave the word and the reason is read
    from the target, never reads the response, and cuts the target, as `CSBK_MAINT` does. -/
def Meets (c : CSBKObject) : Prop :=
  c.dataType = DT_CSBK ∧ (c.Cdef = true → c.colorCode &&& 0x0F = c.FID) ∧
    match c.cls with
    | .EXT_FNCT => c.GI = false ∧ c.srcId = c.dstId
    | .ACK_RSP => c.ackGI = false ∧ c.response = 0 ∧ c.reason.toNat = c.dstId.toNat / 2 ^ 9 ∧ c.dstId.toNat < 2 ^ 16
    | .MAINT => c.dstId.toNat < 2 ^ 16
    | _ => True

/-! ## The words -/

variable {siteId : UInt16} {c : CSBKObject}

theorem toNat_encodeCallAlrt (hdst : c.dstId.toNat < 2 ^ 24) (hsrc : c.srcId.toNat < 2 ^ 24) :
    c.encodeCallAlrt.toNat = c.GI.toNat * 2 ^ 62 + c.dstId.toNat * 2 ^ 24 + c.srcId.toNat := by
  have hflag : (if c.GI then (0x40 : UInt64) else 0x00).toNat = c.GI.toNat * 64 := by cases c.GI <;> rfl
  have hle := Bool.toNat_le c.GI
  unfold encodeCallAlrt
  simp (disch := decide) only [toNat_shift_add, UInt32.toNat_toUInt64]
  rw [hflag]
  simp only [UInt64.reduceToNat]
  omega

theorem toNat_encodeRand (hoptions : c.serviceOptions.toNat < 2 ^ 7) (hextra : c.serviceExtra.toNat < 2 ^ 4)
    (hkind : c.serviceKind.toNat < 2 ^ 4) (hdst : c.dstId.toNat < 2 ^ 24) (hsrc : c.srcId.toNat < 2 ^ 24) :
    c.encodeRand.toNat = c.serviceOptions.toNat * 2 ^ 57 + c.proxy.toNat * 2 ^ 56 + c.serviceExtra.toNat * 2 ^ 52 +
      c.serviceKind.toNat * 2 ^ 48 + c.dstId.toNat * 2 ^ 24 + c.srcId.toNat := by
  have hflag : (if c.proxy then (0x01 : UInt64) else 0x00).toNat = c.proxy.toNat := by cases c.proxy <;> rfl
  have hle := Bool.toNat_le c.proxy
  unfold encodeRand
  simp (disch := decide) only [toNat_shift_add, UInt8.toNat_toUInt64, UInt32.toNat_toUInt64]
  rw [toNat_octet_and_of_lt 7 rfl hoptions, toNat_octet_and_of_lt 4 rfl hextra, toNat_octet_and_of_lt 4 rfl hkind,
    hflag]
  simp only [UInt64.reduceToNat]
  omega

theorem toNat_encodeExtFnct (hdst : c.dstId.toNat < 2 ^ 24) (hsrc : c.srcId.toNat < 2 ^ 24) :
    c.encodeExtFnct.toNat = c.dataContent.toNat * 2 ^ 63 + c.GI.toNat * 2 ^ 62 + c.extendedFunction.toNat * 2 ^ 48 +
      c.srcId.toNat * 2 ^ 24 + c.dstId.toNat := by
  have hflags : ((if c.GI then (0x40 : UInt64) else 0x00) + if c.dataContent then 0x80 else 0x00).toNat =
      c.GI.toNat * 64 + c.dataContent.toNat * 128 := by
    cases c.GI <;> cases c.dataContent <;> rfl
  have hgi := Bool.toNat_le c.GI
  have hdata := Bool.toNat_le c.dataContent
  have hfn := c.extendedFunction.toNat_lt
  unfold encodeExtFnct
  dsimp only
  simp (disch := decide) only [toNat_shift_add, UInt8.toNat_toUInt64, UInt32.toNat_toUInt64]
  rw [hflags]
  simp only [UInt64.reduceToNat]
  omega

/-- The first octet of a refusal. -/
theorem toNat_nackOctet (gi : Bool) (serviceKind : UInt8) (h : serviceKind.toNat < 2 ^ 6) :
    ((0x80 : UInt64) + (if gi then 0x40 else 0x00) + (serviceKind &&& 0x3F).toUInt64).toNat =
      128 + gi.toNat * 64 + serviceKind.toNat := by
  have hall : ∀ gi : Bool, ∀ k : BitVec 8, k.toNat < 2 ^ 6 →
      ((0x80 : UInt64) + (if gi then 0x40 else 0x00) + (UInt8.ofBitVec k &&& 0x3F).toUInt64).toNat =
        128 + gi.toNat * 64 + k.toNat := by
    decide +kernel
  exact hall gi serviceKind.toBitVec h

theorem toNat_encodeNackRsp (hkind : c.serviceKind.toNat < 2 ^ 6) (hdst : c.dstId.toNat < 2 ^ 24)
    (hsrc : c.srcId.toNat < 2 ^ 24) :
    c.encodeNackRsp.toNat = (128 + c.GI.toNat * 64 + c.serviceKind.toNat) * 2 ^ 56 + c.reason.toNat * 2 ^ 48 +
      c.srcId.toNat * 2 ^ 24 + c.dstId.toNat := by
  have hgi := Bool.toNat_le c.GI
  have hreason := c.reason.toNat_lt
  unfold encodeNackRsp
  dsimp only
  simp (disch := decide) only [toNat_shift_add, UInt8.toNat_toUInt64, UInt32.toNat_toUInt64]
  rw [toNat_nackOctet _ _ hkind]
  simp only [UInt64.reduceToNat]
  omega

/-- The shifts of an acknowledgement add up to the width of the word: its first field is gone. -/
theorem toNat_encodeAckRsp (siteId : UInt16) (hresponse : c.response.toNat < 2 ^ 7) (hdst : c.dstId.toNat < 2 ^ 24)
    (hsrc : c.srcId.toNat < 2 ^ 24) :
    (c.encodeAckRsp siteId).toNat =
      c.response.toNat * 2 ^ 57 + c.reason.toNat * 2 ^ 49 + c.dstId.toNat * 2 ^ 24 + c.srcId.toNat := by
  have hreason := c.reason.toNat_lt
  unfold encodeAckRsp
  dsimp only
  generalize (if c.reason = TS_ACK_RSN_REG then (0 : UInt64)
    else (if c.GI then 0x40 else 0x00) + (siteId &&& 0x3F).toUInt64) = first
  simp (disch := decide) only [toNat_shift_add, UInt8.toNat_toUInt64, UInt32.toNat_toUInt64]
  rw [toNat_octet_and_of_lt 7 rfl hresponse, toNat_octet_and_of_lt 8 rfl hreason]
  simp only [UInt64.reduceToNat]
  omega

theorem toNat_encodeMaint (hkind : c.maintKind.toNat < 2 ^ 3) (hdst : c.dstId.toNat < 2 ^ 24)
    (hsrc : c.srcId.toNat < 2 ^ 24) :
    c.encodeMaint.toNat = c.maintKind.toNat * 2 ^ 49 + c.dstId.toNat * 2 ^ 24 + c.srcId.toNat := by
  unfold encodeMaint
  dsimp only
  simp (disch := decide) only [toNat_shift_add, UInt8.toNat_toUInt64, UInt32.toNat_toUInt64]
  rw [toNat_octet_and_of_lt 3 rfl hkind]
  simp only [UInt64.reduceToNat]
  omega

/-! ## Reading the words -/

/-- A flag of the first octet. -/
theorem firstOctet_flag (v : UInt64) {m : UInt64} (n : Nat) (hm : m.toNat = 2 ^ n) (hn : n < 8) (b : Bool) :
    decide ((v >>> (56 : UInt64) &&& 0xFF) &&& m = m) = b ↔ v.toNat / 2 ^ (56 + n) % 2 = b.toNat := by
  have hdigit : (v >>> (56 : UInt64) &&& 0xFF).toNat / 2 ^ n % 2 = v.toNat / 2 ^ (56 + n) % 2 := by
    have hv := v.toNat_lt
    rw [toNat_shift_and v 56 8 rfl (by decide) rfl, Nat.mod_eq_of_lt (show v.toNat / 2 ^ 56 < 2 ^ 8 by omega),
      Nat.div_div_eq_div_mul, ← Nat.pow_add]
  have hflag : (v >>> (56 : UInt64) &&& 0xFF) &&& m = m ↔ v.toNat / 2 ^ (56 + n) % 2 = 1 := by
    rw [flag_iff _ n hm, hdigit]
  cases b with
  | false =>
      rw [decide_eq_false_iff_not, hflag]
      exact Nat.mod_two_ne_one
  | true =>
      rw [decide_eq_true_iff, hflag]
      rfl

theorem sameAddresses_readAddresses (c' : CSBKObject) (v : UInt64) :
    SameAddresses c (c'.readAddresses v) ↔
      v.toNat / 2 ^ 24 % 2 ^ 24 = c.dstId.toNat ∧ v.toNat % 2 ^ 24 = c.srcId.toNat :=
  and_congr (field_eq_iff v c.dstId 24 24 rfl (by decide) rfl (by decide)) (low_eq_iff v c.srcId 24 rfl (by decide))

theorem sameAddresses_readShortAddresses (c' : CSBKObject) (v : UInt64) :
    SameAddresses c (c'.readShortAddresses v) ↔
      v.toNat / 2 ^ 24 % 2 ^ 16 = c.dstId.toNat ∧ v.toNat % 2 ^ 24 = c.srcId.toNat :=
  and_congr (field_eq_iff v c.dstId 24 16 rfl (by decide) rfl (by decide)) (low_eq_iff v c.srcId 24 rfl (by decide))

/-- What the decoders leave alone. -/
theorem header_decodePayload (c : CSBKObject) (payload : Bytes) :
    (c.decodePayload payload).cls = c.cls ∧ (c.decodePayload payload).CSBKO = c.CSBKO ∧
      (c.decodePayload payload).FID = c.FID ∧ (c.decodePayload payload).lastBlock = c.lastBlock := by
  unfold decodePayload
  cases hcls : c.cls <;> exact ⟨hcls, rfl, rfl, rfl⟩

/-! ## Class by class -/

section Classes

variable (hfits : c.Fits)
include hfits

theorem recovers_callAlrt (hcls : c.cls = .CALL_ALRT) (c' : CSBKObject) :
    Recovers c (c'.decodeCallAlrt c.encodeCallAlrt) := by
  obtain ⟨hdst, hsrc, -⟩ := hfits
  have hv := toNat_encodeCallAlrt hdst hsrc
  have hgi := Bool.toNat_le c.GI
  simp only [Recovers, hcls]
  refine ⟨(firstOctet_flag _ 6 rfl (by decide) _).mpr ?_, (sameAddresses_readAddresses _ _).mpr ⟨?_, ?_⟩⟩ <;>
  · rw [hv]
    omega

theorem recovers_rand (hcls : c.cls = .RAND) (c' : CSBKObject) : Recovers c (c'.decodeRand c.encodeRand) := by
  simp only [Fits, hcls] at hfits
  obtain ⟨hdst, hsrc, hoptions, hextra, hkind⟩ := hfits
  have hv := toNat_encodeRand hoptions hextra hkind hdst hsrc
  have hproxy := Bool.toNat_le c.proxy
  simp only [Recovers, hcls]
  refine ⟨(octet_eq_iff _ _ 57 7 rfl (by decide) rfl (by decide)).mpr ?_,
    (firstOctet_flag _ 0 rfl (by decide) _).mpr ?_, (octet_eq_iff _ _ 52 4 rfl (by decide) rfl (by decide)).mpr ?_,
    (octet_eq_iff _ _ 48 4 rfl (by decide) rfl (by decide)).mpr ?_, (sameAddresses_readAddresses _ _).mpr ⟨?_, ?_⟩⟩ <;>
  · rw [hv]
    omega

/-- The group flag is not read, and the addresses are read the other way round. -/
theorem recovers_extFnct_iff (hcls : c.cls = .EXT_FNCT) {c' : CSBKObject} (hgi' : c'.GI = false) :
    Recovers c (c'.decodeExtFnct c.encodeExtFnct) ↔ c.GI = false ∧ c.srcId = c.dstId := by
  obtain ⟨hdst, hsrc, -⟩ := hfits
  have hv := toNat_encodeExtFnct hdst hsrc
  have hgi := Bool.toNat_le c.GI
  have hdata := Bool.toNat_le c.dataContent
  have hfn := c.extendedFunction.toNat_lt
  have hhigh : c.encodeExtFnct.toNat / 2 ^ 24 % 2 ^ 24 = c.srcId.toNat := by
    rw [hv]
    omega
  have hlow : c.encodeExtFnct.toNat % 2 ^ 24 = c.dstId.toNat := by
    rw [hv]
    omega
  have haddresses : SameAddresses c (c'.decodeExtFnct c.encodeExtFnct) ↔ c.srcId = c.dstId := by
    refine (sameAddresses_readAddresses _ _).trans ?_
    rw [hhigh, hlow, ← UInt32.toNat_inj]
    exact and_iff_left_of_imp Eq.symm
  simp only [Recovers, hcls]
  rw [haddresses]
  constructor
  · rintro ⟨hflag, -, -, hsame⟩
    exact ⟨hflag.symm.trans hgi', hsame⟩
  · rintro ⟨hflag, hsame⟩
    refine ⟨hgi'.trans hflag.symm, (firstOctet_flag _ 7 rfl (by decide) _).mpr ?_,
      (octet_eq_iff _ _ 48 8 rfl (by decide) rfl (by decide)).mpr ?_, hsame⟩ <;>
    · rw [hv]
      omega

theorem recovers_nackRsp (hcls : c.cls = .NACK_RSP) (c' : CSBKObject) :
    Recovers c (c'.decodeNackRsp c.encodeNackRsp) := by
  simp only [Fits, hcls] at hfits
  obtain ⟨hdst, hsrc, hkind⟩ := hfits
  have hv := toNat_encodeNackRsp hkind hdst hsrc
  have hgi := Bool.toNat_le c.GI
  have hreason := c.reason.toNat_lt
  have hmask : (c.encodeNackRsp >>> (56 : UInt64) &&& 0xFF) &&& 0x3F = c.encodeNackRsp >>> (56 : UInt64) &&& 0x3F := by
    rw [UInt64.and_assoc]
    rfl
  simp only [Recovers, hcls]
  refine ⟨(firstOctet_flag _ 6 rfl (by decide) _).mpr ?_, ?_, (octet_eq_iff _ _ 48 8 rfl (by decide) rfl (by decide)).mpr ?_,
    (low_eq_iff _ _ 24 rfl (by decide)).mpr ?_, (field_eq_iff _ _ 24 24 rfl (by decide) rfl (by decide)).mpr ?_⟩
  · rw [hv]
    omega
  · show ((c.encodeNackRsp >>> (56 : UInt64) &&& 0xFF) &&& 0x3F).toUInt8 = c.serviceKind
    rw [hmask]
    refine (octet_eq_iff _ _ 56 6 rfl (by decide) rfl (by decide)).mpr ?_
    rw [hv]
    omega
  · rw [hv]
    omega
  · rw [hv]
    omega
  · rw [hv]
    omega

/-- The response is not read; the reason and the flag are read from the digits of target and response. -/
theorem recovers_ackRsp_iff (hcls : c.cls = .ACK_RSP) {c' : CSBKObject} (hresponse' : c'.response = 0) :
    Recovers c (c'.decodeAckRsp (c.encodeAckRsp siteId)) ↔
      c.ackGI = false ∧ c.response = 0 ∧ c.reason.toNat = c.dstId.toNat / 2 ^ 9 ∧ c.dstId.toNat < 2 ^ 16 := by
  simp only [Fits, hcls] at hfits
  obtain ⟨hdst, hsrc, hresponse⟩ := hfits
  have hv := toNat_encodeAckRsp siteId hresponse hdst hsrc
  have hreason := c.reason.toNat_lt
  have haddresses : SameAddresses c (c'.decodeAckRsp (c.encodeAckRsp siteId)) ↔ c.dstId.toNat < 2 ^ 16 := by
    refine (sameAddresses_readShortAddresses _ _).trans ?_
    rw [hv]
    omega
  have hread : ((c.encodeAckRsp siteId) >>> (33 : UInt64) &&& 0xFF).toUInt8 = c.reason ↔
      c.dstId.toNat / 2 ^ 9 % 2 ^ 8 = c.reason.toNat := by
    refine (octet_eq_iff _ _ 33 8 rfl (by decide) rfl (by decide)).trans ?_
    rw [hv]
    omega
  have hflag : decide (((c.encodeAckRsp siteId) >>> (56 : UInt64) &&& 0xFF) &&& 0x40 = 0x40) = c.ackGI ↔
      c.response.toNat / 2 ^ 5 % 2 = c.ackGI.toNat := by
    refine (firstOctet_flag _ 6 rfl (by decide) _).trans ?_
    rw [hv]
    omega
  simp only [Recovers, hcls]
  rw [haddresses]
  constructor
  · rintro ⟨hgi, hzero, hsame, hshort⟩
    have hnone : c.response = 0 := hzero.symm.trans hresponse'
    have hgi' := hflag.mp hgi
    have hreason' := hread.mp hsame
    refine ⟨?_, hnone, by omega, hshort⟩
    rw [hnone] at hgi'
    cases hack : c.ackGI with
    | false => rfl
    | true => rw [hack] at hgi'; exact absurd hgi' (by decide)
  · rintro ⟨hgi, hnone, hsame, hshort⟩
    refine ⟨hflag.mpr ?_, hresponse'.trans hnone.symm, hread.mpr (by omega), hshort⟩
    rw [hgi, hnone]
    rfl

/-- The target is cut. -/
theorem recovers_maint_iff (hcls : c.cls = .MAINT) (c' : CSBKObject) :
    Recovers c (c'.decodeMaint c.encodeMaint) ↔ c.dstId.toNat < 2 ^ 16 := by
  simp only [Fits, hcls] at hfits
  obtain ⟨hdst, hsrc, hkind⟩ := hfits
  have hv := toNat_encodeMaint hkind hdst hsrc
  have haddresses : SameAddresses c (c'.decodeMaint c.encodeMaint) ↔ c.dstId.toNat < 2 ^ 16 := by
    refine (sameAddresses_readShortAddresses _ _).trans ?_
    rw [hv]
    omega
  have hread : ((c.encodeMaint >>> (48 : UInt64) &&& 0xFF) >>> (1 : UInt64)).toUInt8 = c.maintKind := by
    rw [← UInt8.toNat_inj, UInt64.toNat_toUInt8, UInt64.toNat_shiftRight, toNat_shift_and _ 48 8 rfl (by decide) rfl, hv]
    show (_ >>> 1) % 2 ^ 8 = _
    rw [Nat.shiftRight_eq_div_pow]
    omega
  simp only [Recovers, hcls]
  rw [haddresses]
  exact and_iff_right hread

/-- What comes back of a block whose header is right. -/
theorem recovers_received_iff {v : UInt64} (hv : c.encodeValue siteId = some v) {payload : Bytes}
    (hpayload : CSBK.toValue payload = v) : Recovers c ((c.received c.cls).decodePayload payload) ↔
      match c.cls with
      | .EXT_FNCT => c.GI = false ∧ c.srcId = c.dstId
      | .ACK_RSP => c.ackGI = false ∧ c.response = 0 ∧ c.reason.toNat = c.dstId.toNat / 2 ^ 9 ∧ c.dstId.toNat < 2 ^ 16
      | .MAINT => c.dstId.toNat < 2 ^ 16
      | _ => True := by
  have hdecode : (c.received c.cls).decodePayload payload =
      match c.cls with
      | .CALL_ALRT => (c.received c.cls).decodeCallAlrt v
      | .RAND => (c.received c.cls).decodeRand v
      | .EXT_FNCT => (c.received c.cls).decodeExtFnct v
      | .NACK_RSP => (c.received c.cls).decodeNackRsp v
      | .ACK_RSP => (c.received c.cls).decodeAckRsp v
      | .MAINT => (c.received c.cls).decodeMaint v
      | _ => (c.received c.cls).decodePayload payload := by
    unfold decodePayload
    rw [hpayload]
    show (match c.cls with | _ => _) = _
    cases c.cls <;> rfl
  rw [hdecode]
  unfold encodeValue at hv
  cases hcls : c.cls <;> simp only [hcls] at hv ⊢
  case CALL_ALRT =>
      obtain rfl := Option.some.inj hv
      exact iff_true_intro (recovers_callAlrt hfits hcls _)
  case RAND =>
      obtain rfl := Option.some.inj hv
      exact iff_true_intro (recovers_rand hfits hcls _)
  case EXT_FNCT =>
      obtain rfl := Option.some.inj hv
      exact recovers_extFnct_iff hfits hcls rfl
  case NACK_RSP =>
      obtain rfl := Option.some.inj hv
      exact iff_true_intro (recovers_nackRsp hfits hcls _)
  case ACK_RSP =>
      obtain rfl := Option.some.inj hv
      exact recovers_ackRsp_iff hfits hcls rfl
  case MAINT =>
      obtain rfl := Option.some.inj hv
      exact recovers_maint_iff hfits hcls _
  all_goals exact nomatch hv

end Classes

/-! ## The codec -/

/-- The feature id decides between two classes of one opcode only. -/
theorem exists_classOf {csbko fid : UInt8} {cls : CSBKClass} (h : CSBKFactory.classOf csbko fid = some cls)
    (fid' : UInt8) : ∃ cls', CSBKFactory.classOf csbko fid' = some cls' := by
  unfold CSBKFactory.classOf at h ⊢
  by_cases hrand : csbko = CSBKO_RAND
  · rw [hrand]
    by_cases hfid : fid' = FID_DMRA
    · exact ⟨.CALL_ALRT, by rw [hfid]; rfl⟩
    · exact ⟨.RAND, by simp only [if_neg hfid]; rfl⟩
  · simp only [if_neg hrand] at h ⊢
    exact ⟨cls, h⟩

/-- The octet of the feature id is the feature id, but for a Cdef block of another color code. -/
theorem feature_eq_iff (c : CSBK) : c.feature = c.FID ↔ (c.Cdef = true → c.colorCode &&& 0x0F = c.FID) := by
  unfold CSBK.feature
  cases c.Cdef <;> simp

/-- **The codec is symmetric** at exactly the objects that `Meets` tells, of all six classes that write a payload and
    both data types. -/
theorem symmetric_iff_meets (siteId : UInt16) {c : CSBKObject} (hwrites : (c.encodeValue siteId).isSome = true)
    (htype : c.dataType = DT_CSBK ∨ c.dataType = DT_MBC_HEADER)
    (hcls : CSBKFactory.classOf c.CSBKO c.FID = some c.cls) (hfits : c.Fits) : Symmetric siteId c ↔ Meets c := by
  obtain ⟨v, hv⟩ := Option.isSome_iff_exists.mp hwrites
  rcases htype with htype | htype
  · obtain ⟨cls', hcls'⟩ := exists_classOf hcls c.feature
    constructor
    · intro h
      obtain ⟨c', hcreate, hsame, -, hfid, -, hrecovers⟩ := h fun _ => 0x00
      obtain ⟨payload, hpayload, hread⟩ := createCSBK_encode hv hcls' htype fun _ => 0x00
      rw [htype, hread] at hcreate
      obtain rfl := Option.some.inj hcreate
      obtain ⟨hclass, -, hfeature, -⟩ := header_decodePayload (c.received cls') payload
      obtain rfl : cls' = c.cls := hclass.symm.trans hsame
      refine ⟨htype, (feature_eq_iff c.toCSBK).mp (hfeature.symm.trans hfid), ?_⟩
      exact (recovers_received_iff hfits hv hpayload).mp hrecovers
    · rintro ⟨-, hfeature, hmeets⟩ data
      have hplain := (feature_eq_iff c.toCSBK).mpr hfeature
      obtain ⟨payload, hpayload, hread⟩ := createCSBK_encode hv (hplain.symm ▸ hcls) htype data
      obtain ⟨hclass, hopcode, hfid, hlast⟩ := header_decodePayload (c.received c.cls) payload
      refine ⟨_, htype.symm ▸ hread, hclass, hopcode, hfid.trans hplain, hlast, ?_⟩
      exact (recovers_received_iff hfits hv hpayload).mpr hmeets
  · refine ⟨fun h => ?_, fun h => absurd (htype.symm.trans h.1) (by decide)⟩
    obtain ⟨c', hcreate, -⟩ := h fun _ => 0x00
    rw [htype, createCSBK_header hv htype] at hcreate
    exact nomatch hcreate

/-- An alert between two units. -/
def alertOf (dstId srcId : UInt32) : CSBKObject := { CSBKClass.CALL_ALRT.new with dstId, srcId, GI := true }

/-- An alert comes back. -/
theorem symmetric_alert : Symmetric 1 (alertOf 0xFFFFFF 0xABCDEF) :=
  (symmetric_iff_meets 1 rfl (Or.inl rfl) rfl ⟨by decide, by decide, trivial⟩).mpr ⟨rfl, by decide, trivial⟩

/-- **A radio check does not come back**: its source and its target are exchanged. -/
theorem extFnct_not_symmetric : ¬ Symmetric 1 { CSBKClass.EXT_FNCT.new with dstId := 2, srcId := 1 } := by
  intro h
  obtain ⟨c', hcreate, -, -, -, -, hrecovers⟩ := h fun _ => 0x00
  obtain ⟨payload, hpayload, hread⟩ := @createCSBK_encode 1 { CSBKClass.EXT_FNCT.new with dstId := 2, srcId := 1 } _
    .EXT_FNCT rfl rfl rfl fun _ => 0x00
  obtain rfl := Option.some.inj (hcreate.symm.trans hread)
  obtain ⟨-, -, -, hdst, -⟩ := hrecovers
  have hread' : (CSBK.toValue payload >>> (24 : UInt64) &&& 0xFFFFFF).toUInt32 = 2 := hdst
  rw [hpayload] at hread'
  exact absurd hread' (by decide)

end CSBKObject

end Dmr

end DvmHost

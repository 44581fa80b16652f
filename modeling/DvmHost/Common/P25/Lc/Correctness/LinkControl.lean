import DvmHost.Common.P25.Lc.Correctness.FrameCoding

/-!
# `Common.P25.Lc.Correctness.LinkControl` — link control survives LDU1

Four opcodes are known to both `encodeLC` and `decodeLC`: voice to a group and to a unit, telephone
interconnect, and the explicit source. The octets come back from the frame as they were put there
(`decodeLDU1_encodeLDU1`), so what a receiver learns is `decodeLC` after `encodeLC`. Both work on one word of
eight octets, whose value is written out for each opcode; the fields are its digits. What the word does not
carry, or the decoder replaces, is in `ldu1_notRecovered`.
-/

namespace DvmHost

open Lib Lib.Blocks

namespace LC

/-! ## The word of eight octets -/

theorem toNat_octet (v k : UInt64) (hk : k.toNat < 64) :
    (v >>> k &&& 0xFF).toUInt8.toNat = v.toNat / 2 ^ k.toNat % 256 := by
  have h8 : ∀ n : Nat, n &&& 255 = n % 256 := fun n => Nat.and_two_pow_sub_one_eq_mod n 8
  simp [h8, Nat.shiftRight_eq_div_pow, Nat.mod_eq_of_lt hk]

/-- **The octets of a word are combined into it.** -/
theorem combine_split (v : UInt64) (rs : Bytes) : combine (split v rs) = v := by
  have hv := v.toNat_lt
  unfold combine split
  simp (disch := omega) only [setByte_of_ne, setByte_of_eq]
  apply UInt64.toNat_inj.mp
  simp only [UInt64.toNat_add, UInt64.toNat_shiftLeft, UInt8.toNat_toUInt64]
  rw [toNat_octet _ _ (by decide), toNat_octet _ _ (by decide), toNat_octet _ _ (by decide),
    toNat_octet _ _ (by decide), toNat_octet _ _ (by decide), toNat_octet _ _ (by decide),
    toNat_octet _ _ (by decide), toNat_octet _ _ (by decide)]
  simp [Nat.shiftLeft_eq]
  omega

/-- The octets that `decodeLC` reads beside the word. -/
theorem split_octets (v : UInt64) (o : UInt8) (rs : Bytes) :
    split v (setByte rs 0 o) 0 = o ∧ split v (setByte rs 0 o) 1 = (v >>> (56 : UInt64) &&& 0xFF).toUInt8 ∧
      split v (setByte rs 0 o) 2 = (v >>> (48 : UInt64) &&& 0xFF).toUInt8 ∧
      split v (setByte rs 0 o) 3 = (v >>> (40 : UInt64) &&& 0xFF).toUInt8 := by
  unfold split
  simp (disch := omega) only [setByte_of_ne, setByte_of_eq, and_self]

/-- The octet of the service options. -/
def optionsOctet (lc : LC) : UInt8 :=
  (if lc.emergency then 0x80 else 0x00) + (if lc.encrypted then 0x40 else 0x00) + (lc.priority &&& 0x07)

theorem serviceOptions_eq (lc : LC) : lc.serviceOptions = lc.optionsOctet.toUInt64 := by
  have h : ∀ emergency encrypted : Bool, ∀ v : BitVec 8,
      (if emergency then 0x80 else 0x00) + (if encrypted then 0x40 else 0x00) +
      (UInt8.ofBitVec v &&& 0x07).toUInt64 =
        ((if emergency then 0x80 else 0x00) + (if encrypted then 0x40 else 0x00) +
        (UInt8.ofBitVec v &&& 0x07)).toUInt64 := by
    decide +kernel
  exact h lc.emergency lc.encrypted lc.priority.toBitVec

/-- The flags and the priority are read back from the service options. -/
theorem optionsOctet_fields (lc : LC) :
    decide (lc.optionsOctet &&& 0x80 = 0x80) = lc.emergency ∧
    decide (lc.optionsOctet &&& 0x40 = 0x40) = lc.encrypted ∧
      lc.optionsOctet &&& 0x07 = lc.priority &&& 0x07 := by
  have h : ∀ emergency encrypted : Bool, ∀ v : BitVec 8,
      let o := (if emergency then 0x80 else 0x00) + (if encrypted then 0x40 else 0x00) +
        (UInt8.ofBitVec v &&& 0x07)
      decide (o &&& 0x80 = 0x80) = emergency ∧ decide (o &&& 0x40 = 0x40) = encrypted ∧
        o &&& 0x07 = UInt8.ofBitVec v &&& 0x07 := by
    decide +kernel
  exact h lc.emergency lc.encrypted lc.priority.toBitVec

/-- A field of the word is a run of its binary digits. -/
theorem field_eq {v k m : UInt64} {w : Nat} {d : UInt32} (hk : k.toNat < 64) (hm : m.toNat = 2 ^ w - 1)
    (hw : w ≤ 32)
    (h : v.toNat / 2 ^ k.toNat % 2 ^ w = d.toNat) : (v >>> k &&& m).toUInt32 = d := by
  have hlt : d.toNat < 2 ^ w := h ▸ Nat.mod_lt _ (Nat.two_pow_pos w)
  have hle : 2 ^ w ≤ 2 ^ 32 := Nat.pow_le_pow_right (by decide) hw
  apply UInt32.toNat_inj.mp
  rw [UInt64.toNat_toUInt32, UInt64.toNat_and, UInt64.toNat_shiftRight, Nat.mod_eq_of_lt hk, hm,
    Nat.shiftRight_eq_div_pow, Nat.and_two_pow_sub_one_eq_mod, h, Nat.mod_eq_of_lt (Nat.lt_of_lt_of_le hlt hle)]

/-- The field at the low end. -/
theorem low_field_eq {v m : UInt64} {w : Nat} {d : UInt32} (hm : m.toNat = 2 ^ w - 1) (hw : w ≤ 32)
    (h : v.toNat % 2 ^ w = d.toNat) : (v &&& m).toUInt32 = d := by
  have hzero : v >>> (0 : UInt64) = v := UInt64.shiftRight_zero
  rw [← hzero]
  exact field_eq (by decide) hm hw (by simpa using h)

theorem octet_eq {v k : UInt64} {b : UInt8} (hk : k.toNat < 64) (h : v.toNat / 2 ^ k.toNat % 256 = b.toNat) :
    (v >>> k &&& 0xFF).toUInt8 = b := UInt8.toNat_inj.mp ((toNat_octet v k hk).trans h)

/-- The word of the voice opcodes. -/
def voiceWord (mfId options : UInt8) (dstId srcId : UInt32) : UInt64 :=
  ((mfId.toUInt64 <<< (8 : UInt64) + options.toUInt64) <<< (24 : UInt64) + dstId.toUInt64) <<< (24 : UInt64) +
    srcId.toUInt64

theorem toNat_voiceWord (mfId options : UInt8) {dstId srcId : UInt32} (hd : dstId.toNat < 2 ^ 24)
    (hs : srcId.toNat < 2 ^ 24) :
    (voiceWord mfId options dstId srcId).toNat =
      mfId.toNat * 2 ^ 56 + options.toNat * 2 ^ 48 + dstId.toNat * 2 ^ 24 + srcId.toNat := by
  have hm := mfId.toNat_lt
  have ho := options.toNat_lt
  unfold voiceWord
  simp only [UInt64.toNat_add, UInt64.toNat_shiftLeft, UInt8.toNat_toUInt64, UInt32.toNat_toUInt64]
  simp [Nat.shiftLeft_eq]
  omega

/-! ## Decoding an encoded word -/

/-- Octets and word of what `encodeLC` makes of a standard opcode. -/
theorem encodeLC_octets (siteData : SiteData) {lc : LC} (rs : Bytes) {o : UInt8} {v : UInt64}
    (hm : lc.mfId ≠ P25_MFG_MOT) (h : opcodeValue siteData lc = (o, v)) :
    encodeLC siteData lc rs = split v (setByte rs 0 o) := by
  unfold encodeLC
  dsimp only
  rw [if_neg hm, h]

/-- The octets of a voice word that do not depend on how wide the destination is. -/
theorem voiceWord_octets (mfId options lco : UInt8) {dstId srcId : UInt32} (rs : Bytes)
    (hd : dstId.toNat < 2 ^ 24)
    (hs : srcId.toNat < 2 ^ 24) :
    let octets := split (voiceWord mfId options dstId srcId) (setByte rs 0 lco)
    octets 0 = lco ∧ octets 1 = mfId ∧ octets 2 = options ∧
      (voiceWord mfId options dstId srcId &&& 0xFFFFFF).toUInt32 = srcId := by
  have hword := toNat_voiceWord mfId options hd hs
  have hml := mfId.toNat_lt
  have hol := options.toNat_lt
  obtain ⟨h0, h1, h2, _⟩ := split_octets (voiceWord mfId options dstId srcId) lco rs
  generalize voiceWord mfId options dstId srcId = v at *
  refine ⟨h0, h1.trans (octet_eq (by decide) ?_), h2.trans (octet_eq (by decide) ?_),
    low_field_eq (w := 24) (by decide) (by decide) (by omega)⟩
  · simp only [UInt64.reduceToNat]
    omega
  · simp only [UInt64.reduceToNat]
    omega

/-- **Voice to a group.** -/
theorem decodeLC_group (rx : LC) (rs : Bytes) {mfId : UInt8} (options : UInt8) {dstId srcId : UInt32}
    (hm : mfId ≠ P25_MFG_MOT)
    (hd : dstId.toNat < 2 ^ 16) (hs : srcId.toNat < 2 ^ 24) :
    decodeLC rx (split (voiceWord mfId options dstId srcId) (setByte rs 0 LC_GROUP)) =
      (true, sanePriority { rx with
        protect := false, lco := LC_GROUP, mfId := mfId, group := true,
        emergency := decide (options &&& 0x80 = 0x80),
        encrypted := if !rx.encryptOverride then decide (options &&& 0x40 = 0x40) else rx.encrypted,
        priority := options &&& 0x07, explicitId := false, dstId := dstId, srcId := srcId }) := by
  have hd' : dstId.toNat < 2 ^ 24 := Nat.lt_trans hd (by decide)
  have hword := toNat_voiceWord mfId options hd' hs
  have hml := mfId.toNat_lt
  have hol := options.toNat_lt
  obtain ⟨_, _, _, h3⟩ := split_octets (voiceWord mfId options dstId srcId) LC_GROUP rs
  have hcombine := combine_split (voiceWord mfId options dstId srcId) (setByte rs 0 LC_GROUP)
  obtain ⟨h0, h1, h2, hsrc⟩ := voiceWord_octets mfId options LC_GROUP rs hd' hs
  have hexp : split (voiceWord mfId options dstId srcId) (setByte rs 0 LC_GROUP) 3 = 0 := by
    refine h3.trans (octet_eq (by decide) ?_)
    simp only [hword, UInt64.reduceToNat, UInt8.reduceToNat]
    omega
  have hdst : (voiceWord mfId options dstId srcId >>> (24 : UInt64) &&& 0xFFFF).toUInt32 = dstId := by
    refine field_eq (w := 16) (by decide) (by decide) (by decide) ?_
    simp only [hword, UInt64.reduceToNat]
    omega
  unfold decodeLC
  dsimp only
  rw [hcombine, h0, h1, h2, hexp, hdst, hsrc, if_neg hm, if_pos (by decide)]
  rfl

/-- **Voice to a unit.** -/
theorem decodeLC_private (rx : LC) (rs : Bytes) {mfId : UInt8} (options : UInt8) {dstId srcId : UInt32}
    (hm : mfId ≠ P25_MFG_MOT)
    (hd : dstId.toNat < 2 ^ 24) (hs : srcId.toNat < 2 ^ 24) :
    decodeLC rx (split (voiceWord mfId options dstId srcId) (setByte rs 0 LC_PRIVATE)) =
      (true, sanePriority { rx with
        protect := false, lco := LC_PRIVATE, mfId := mfId, group := false,
        emergency := decide (options &&& 0x80 = 0x80),
        encrypted := if !rx.encryptOverride then decide (options &&& 0x40 = 0x40) else rx.encrypted,
        priority := options &&& 0x07, dstId := dstId, srcId := srcId }) := by
  have hword := toNat_voiceWord mfId options hd hs
  have hml := mfId.toNat_lt
  have hol := options.toNat_lt
  have hcombine := combine_split (voiceWord mfId options dstId srcId) (setByte rs 0 LC_PRIVATE)
  obtain ⟨h0, h1, h2, hsrc⟩ := voiceWord_octets mfId options LC_PRIVATE rs hd hs
  have hdst : (voiceWord mfId options dstId srcId >>> (24 : UInt64) &&& 0xFFFFFF).toUInt32 = dstId := by
    refine field_eq (w := 24) (by decide) (by decide) (by decide) ?_
    simp only [hword, UInt64.reduceToNat]
    omega
  unfold decodeLC
  dsimp only
  rw [hcombine, h0, h1, h2, hdst, hsrc, if_neg hm, if_neg (by decide), if_pos (by decide)]
  rfl

/-- The word of the telephone interconnect opcode. -/
def telIntWord (options : UInt8) (callTimer srcId : UInt32) : UInt64 :=
  (((0 : UInt64) <<< (8 : UInt64) + options.toUInt64) <<< (16 : UInt64) + callTimer.toUInt64) <<< (24 : UInt64) +
    srcId.toUInt64

/-- **Telephone interconnect.** The options stand where no reader of the word looks for them: they are read as
    zero, whatever they were. -/
theorem decodeLC_telInt (rx : LC) (rs : Bytes) (options : UInt8) {callTimer srcId : UInt32}
    (hc : callTimer.toNat < 2 ^ 16) (hs : srcId.toNat < 2 ^ 24) :
    decodeLC rx (split (telIntWord options callTimer srcId) (setByte rs 0 (LC_TEL_INT_VCH_USER ||| 0x40))) =
      (true, sanePriority { rx with
        protect := false, lco := LC_TEL_INT_VCH_USER, mfId := 0, emergency := false,
        encrypted := if !rx.encryptOverride then false else rx.encrypted,
        priority := 0, callTimer := callTimer, srcId := if rx.srcId = 0 then srcId else rx.srcId }) := by
  have hol := options.toNat_lt
  have hword : (telIntWord options callTimer srcId).toNat =
      options.toNat * 2 ^ 40 + callTimer.toNat * 2 ^ 24 + srcId.toNat := by
    unfold telIntWord
    simp only [UInt64.toNat_add, UInt64.toNat_shiftLeft, UInt8.toNat_toUInt64, UInt32.toNat_toUInt64]
    simp [Nat.shiftLeft_eq]
    omega
  obtain ⟨h0, h1, h2, _⟩ := split_octets (telIntWord options callTimer srcId) (LC_TEL_INT_VCH_USER ||| 0x40) rs
  have hcombine := combine_split (telIntWord options callTimer srcId)
      (setByte rs 0 (LC_TEL_INT_VCH_USER ||| 0x40))
  generalize telIntWord options callTimer srcId = v at *
  have hmf : (v >>> (56 : UInt64) &&& 0xFF).toUInt8 = 0 := by
    refine octet_eq (by decide) ?_
    simp only [UInt64.reduceToNat, UInt8.reduceToNat]
    omega
  have hopt : (v >>> (48 : UInt64) &&& 0xFF).toUInt8 = 0 := by
    refine octet_eq (by decide) ?_
    simp only [UInt64.reduceToNat, UInt8.reduceToNat]
    omega
  have htimer : (v >>> (24 : UInt64) &&& 0xFFFF).toUInt32 = callTimer := by
    refine field_eq (w := 16) (by decide) (by decide) (by decide) ?_
    simp only [UInt64.reduceToNat]
    omega
  have hsrc : (v &&& 0xFFFFFF).toUInt32 = srcId := low_field_eq (w := 24) (by decide) (by decide) (by omega)
  unfold decodeLC
  dsimp only
  rw [hcombine, h0, h1, h2, hmf, hopt, htimer, hsrc, if_neg (by decide), if_neg (by decide), if_neg (by decide),
    if_pos (by decide)]
  rfl

/-- The word of the explicit source opcode. -/
def explicitWord (netId sysId srcId : UInt32) : UInt64 :=
  (netId.toUInt64 <<< (12 : UInt64) + (sysId &&& 0xFFF).toUInt64) <<< (24 : UInt64) + srcId.toUInt64

/-- **Explicit source.** -/
theorem decodeLC_explicit (rx : LC) (rs : Bytes) {netId sysId srcId : UInt32} (hn : netId.toNat < 2 ^ 20)
    (hy : sysId.toNat < 2 ^ 12) (hs : srcId.toNat < 2 ^ 24) :
    decodeLC rx (split (explicitWord netId sysId srcId) (setByte rs 0 LC_EXPLICIT_SOURCE_ID)) =
      (true, sanePriority { rx with
        protect := false, lco := LC_EXPLICIT_SOURCE_ID, mfId := 0, netId := netId, sysId := sysId,
        srcId := srcId }) := by
  have hword : (explicitWord netId sysId srcId).toNat =
      netId.toNat * 2 ^ 36 + sysId.toNat * 2 ^ 24 + srcId.toNat := by
    have h12 : ∀ n : Nat, n &&& 4095 = n % 4096 := fun n => Nat.and_two_pow_sub_one_eq_mod n 12
    unfold explicitWord
    simp only [UInt64.toNat_add, UInt64.toNat_shiftLeft, UInt32.toNat_toUInt64]
    simp [Nat.shiftLeft_eq, h12]
    omega
  obtain ⟨h0, h1, _, _⟩ := split_octets (explicitWord netId sysId srcId) LC_EXPLICIT_SOURCE_ID rs
  have hcombine := combine_split (explicitWord netId sysId srcId) (setByte rs 0 LC_EXPLICIT_SOURCE_ID)
  generalize explicitWord netId sysId srcId = v at *
  have hmf : (v >>> (56 : UInt64) &&& 0xFF).toUInt8 = 0 := by
    refine octet_eq (by decide) ?_
    simp only [UInt64.reduceToNat, UInt8.reduceToNat]
    omega
  have hnet : (v >>> (36 : UInt64) &&& 0xFFFFF).toUInt32 = netId := by
    refine field_eq (w := 20) (by decide) (by decide) (by decide) ?_
    simp only [UInt64.reduceToNat]
    omega
  have hsys : (v >>> (24 : UInt64) &&& 0xFFF).toUInt32 = sysId := by
    refine field_eq (w := 12) (by decide) (by decide) (by decide) ?_
    simp only [UInt64.reduceToNat]
    omega
  have hsrc : (v &&& 0xFFFFFF).toUInt32 = srcId := low_field_eq (w := 24) (by decide) (by decide) (by omega)
  unfold decodeLC
  dsimp only
  rw [hcombine, h0, h1, hmf, hnet, hsys, hsrc, if_neg (by decide), if_neg (by decide), if_neg (by decide),
    if_neg (by decide), if_pos (by decide)]
  rfl

/-- **Vendor passthrough.** A word that begins with the vendor's octet is handed on as it is. -/
theorem decodeLC_vendor (rx : LC) (rs : Bytes) {v : UInt64}
    (hv : (v >>> (56 : UInt64) &&& 0xFF).toUInt8 = P25_MFG_MOT) :
    decodeLC rx (split v (setByte rs 0 (LC_TEL_INT_VCH_USER ||| 0x40))) =
      (true, { rx with protect := false, lco := LC_TEL_INT_VCH_USER, mfId := P25_MFG_MOT, rsValue := v }) := by
  obtain ⟨h0, h1, _, _⟩ := split_octets v (LC_TEL_INT_VCH_USER ||| 0x40) rs
  have hcombine := combine_split v (setByte rs 0 (LC_TEL_INT_VCH_USER ||| 0x40))
  unfold decodeLC
  dsimp only
  rw [hcombine, h0, h1, hv, if_pos rfl, if_pos (by decide)]
  rfl

/-! ## What is encoded -/

theorem encodeLC_group (siteData : SiteData) {lc : LC} (rs : Bytes) (h : lc.lco = LC_GROUP)
    (hm : lc.mfId ≠ P25_MFG_MOT) :
    encodeLC siteData lc rs =
      split (voiceWord lc.mfId lc.optionsOctet lc.dstId lc.srcId) (setByte rs 0 LC_GROUP) := by
  apply encodeLC_octets siteData rs hm
  unfold opcodeValue voiceWord
  dsimp only
  rw [if_pos h, serviceOptions_eq, h]

theorem encodeLC_private (siteData : SiteData) {lc : LC} (rs : Bytes) (h : lc.lco = LC_PRIVATE)
    (hm : lc.mfId ≠ P25_MFG_MOT) :
    encodeLC siteData lc rs =
      split (voiceWord lc.mfId lc.optionsOctet lc.dstId lc.srcId) (setByte rs 0 LC_PRIVATE) := by
  apply encodeLC_octets siteData rs hm
  unfold opcodeValue voiceWord
  dsimp only
  rw [h, if_neg (by decide), if_neg (by decide), if_pos rfl, serviceOptions_eq]

theorem encodeLC_telInt (siteData : SiteData) {lc : LC} (rs : Bytes) (h : lc.lco = LC_TEL_INT_VCH_USER)
    (hm : lc.mfId ≠ P25_MFG_MOT) :
    encodeLC siteData lc rs =
      split (telIntWord lc.optionsOctet lc.callTimer lc.srcId)
      (setByte rs 0 (LC_TEL_INT_VCH_USER ||| 0x40)) := by
  apply encodeLC_octets siteData rs hm
  unfold opcodeValue telIntWord
  dsimp only
  rw [h, if_neg (by decide), if_neg (by decide), if_neg (by decide), if_pos rfl, serviceOptions_eq]

theorem encodeLC_explicit (siteData : SiteData) {lc : LC} (rs : Bytes) (h : lc.lco = LC_EXPLICIT_SOURCE_ID)
    (hm : lc.mfId ≠ P25_MFG_MOT) :
    encodeLC siteData lc rs =
      split (explicitWord lc.netId lc.sysId lc.srcId) (setByte rs 0 LC_EXPLICIT_SOURCE_ID) := by
  apply encodeLC_octets siteData rs hm
  unfold opcodeValue explicitWord
  dsimp only
  rw [h, if_neg (by decide), if_neg (by decide), if_neg (by decide), if_neg (by decide), if_pos rfl]

theorem encodeLC_vendor (siteData : SiteData) {lc : LC} (rs : Bytes) (h : lc.lco = LC_TEL_INT_VCH_USER)
    (hm : lc.mfId = P25_MFG_MOT) :
    encodeLC siteData lc rs = split lc.rsValue (setByte rs 0 (LC_TEL_INT_VCH_USER ||| 0x40)) := by
  unfold encodeLC opcodeValue
  dsimp only
  rw [h, if_pos hm, if_pos rfl, if_neg (by decide), if_neg (by decide), if_neg (by decide), if_pos rfl]

/-! ## Link control and its fields -/

/-- The opcode is known on both sides, and its fields fit into the places the word has for them: a talkgroup and
    a call timer of 16 bits, unit IDs of 24, network and system IDs of 20 and 12, a priority from 1 to 7. With
    the vendor of the passthrough the word is one that begins with that vendor. -/
structure Fits (lc : LC) : Prop where
  opcode : lc.lco = LC_GROUP ∨ lc.lco = LC_PRIVATE ∨ lc.lco = LC_TEL_INT_VCH_USER ∨
    lc.lco = LC_EXPLICIT_SOURCE_ID
  vendor : lc.mfId = P25_MFG_MOT →
    lc.lco = LC_TEL_INT_VCH_USER ∧ (lc.rsValue >>> (56 : UInt64) &&& 0xFF).toUInt8 = P25_MFG_MOT
  srcId : lc.mfId ≠ P25_MFG_MOT → lc.srcId.toNat < 2 ^ 24
  talkgroup : lc.lco = LC_GROUP → lc.dstId.toNat < 2 ^ 16
  unit : lc.lco = LC_PRIVATE → lc.dstId.toNat < 2 ^ 24
  priority : lc.lco = LC_GROUP ∨ lc.lco = LC_PRIVATE → lc.priority ≠ 0 ∧ lc.priority &&& 0x07 = lc.priority
  callTimer : lc.lco = LC_TEL_INT_VCH_USER → lc.mfId ≠ P25_MFG_MOT → lc.callTimer.toNat < 2 ^ 16
  explicit : lc.lco = LC_EXPLICIT_SOURCE_ID → lc.netId.toNat < 2 ^ 20 ∧ lc.sysId.toNat < 2 ^ 12

/-- What `got` has of the link control `sent`. -/
structure Recovers (sent got : LC) : Prop where
  lco : got.lco = sent.lco
  voice : sent.lco = LC_GROUP ∨ sent.lco = LC_PRIVATE →
    got.mfId = sent.mfId ∧ got.emergency = sent.emergency ∧ got.encrypted = sent.encrypted ∧
      got.priority = sent.priority ∧ got.group = decide (sent.lco = LC_GROUP) ∧ got.dstId = sent.dstId
  srcId : sent.mfId ≠ P25_MFG_MOT → got.srcId = sent.srcId
  callTimer : sent.lco = LC_TEL_INT_VCH_USER → sent.mfId ≠ P25_MFG_MOT → got.callTimer = sent.callTimer
  explicit : sent.lco = LC_EXPLICIT_SOURCE_ID → got.netId = sent.netId ∧ got.sysId = sent.sysId
  vendor : sent.mfId = P25_MFG_MOT → got.mfId = sent.mfId ∧ got.rsValue = sent.rsValue

theorem sanePriority_of_ne {lc : LC} (h : lc.priority ≠ 0) : sanePriority lc = lc := if_neg h

/-- The check changes the priority at most. -/
theorem sanePriority_eq (lc : LC) :
    sanePriority lc = { lc with priority := if lc.priority = 0 then 4 else lc.priority } := by
  unfold sanePriority
  split <;> rfl

/-- The conclusion of the round trip: the opcode is accepted, its fields are recovered, and but for the standard
    telephone interconnect the receiver would encode the same octets. -/
def RoundTrip (siteData siteData' : SiteData) (rx tx : LC) (rs : Bytes) : Prop :=
  ∃ got, decodeLC rx (encodeLC siteData tx rs) = (true, got) ∧ tx.Recovers got ∧
    (tx.lco ≠ LC_TEL_INT_VCH_USER ∨ tx.mfId = P25_MFG_MOT →
      ∀ rs', encodeLC siteData' got rs' = encodeLC siteData tx rs')

section Opcodes

variable {siteData siteData' : SiteData} {rx tx : LC} {rs : Bytes}

theorem roundTrip_vendor (hlco : tx.lco = LC_TEL_INT_VCH_USER) (hm : tx.mfId = P25_MFG_MOT)
    (hv : (tx.rsValue >>> (56 : UInt64) &&& 0xFF).toUInt8 = P25_MFG_MOT) :
    RoundTrip siteData siteData' rx tx rs := by
  refine ⟨_, (congrArg _ (encodeLC_vendor siteData rs hlco hm)).trans (decodeLC_vendor rx rs hv), ?_,
    fun _ rs' => ?_⟩
  · exact {
      lco := hlco.symm
      voice := fun h => absurd h (by rw [hlco]; decide)
      srcId := fun h => absurd hm h
      callTimer := fun _ h => absurd hm h
      explicit := fun h => absurd h (by rw [hlco]; decide)
      vendor := fun _ => ⟨hm.symm, rfl⟩ }
  · rw [encodeLC_vendor siteData rs' hlco hm]
    exact encodeLC_vendor siteData' rs' rfl rfl

theorem roundTrip_group (hfits : tx.Fits) (hlco : tx.lco = LC_GROUP) (hm : tx.mfId ≠ P25_MFG_MOT)
    (hover : rx.encryptOverride = false) : RoundTrip siteData siteData' rx tx rs := by
  obtain ⟨hemergency, hencrypted, hoptions⟩ := optionsOctet_fields tx
  obtain ⟨hpriority, hlow⟩ := hfits.priority (.inl hlco)
  have hdec := decodeLC_group rx rs tx.optionsOctet hm (hfits.talkgroup hlco) (hfits.srcId hm)
  rw [sanePriority_of_ne (by rw [hoptions, hlow]; exact hpriority), hemergency, hencrypted, hoptions, hlow,
    hover,
    ← encodeLC_group siteData rs hlco hm] at hdec
  refine ⟨_, hdec, ?_, fun _ rs' => ?_⟩
  · exact {
      lco := hlco.symm
      voice := fun _ => ⟨rfl, rfl, rfl, rfl, (decide_eq_true hlco).symm, rfl⟩
      srcId := fun _ => rfl
      callTimer := fun h => absurd h (by rw [hlco]; decide)
      explicit := fun h => absurd h (by rw [hlco]; decide)
      vendor := fun h => absurd h hm }
  · rw [encodeLC_group siteData rs' hlco hm]
    exact encodeLC_group siteData' rs' rfl hm

theorem roundTrip_private (hfits : tx.Fits) (hlco : tx.lco = LC_PRIVATE) (hm : tx.mfId ≠ P25_MFG_MOT)
    (hover : rx.encryptOverride = false) : RoundTrip siteData siteData' rx tx rs := by
  obtain ⟨hemergency, hencrypted, hoptions⟩ := optionsOctet_fields tx
  obtain ⟨hpriority, hlow⟩ := hfits.priority (.inr hlco)
  have hdec := decodeLC_private rx rs tx.optionsOctet hm (hfits.unit hlco) (hfits.srcId hm)
  rw [sanePriority_of_ne (by rw [hoptions, hlow]; exact hpriority), hemergency, hencrypted, hoptions, hlow,
    hover,
    ← encodeLC_private siteData rs hlco hm] at hdec
  refine ⟨_, hdec, ?_, fun _ rs' => ?_⟩
  · exact {
      lco := hlco.symm
      voice := fun _ => ⟨rfl, rfl, rfl, rfl, (decide_eq_false (by rw [hlco]; decide)).symm, rfl⟩
      srcId := fun _ => rfl
      callTimer := fun h => absurd h (by rw [hlco]; decide)
      explicit := fun h => absurd h (by rw [hlco]; decide)
      vendor := fun h => absurd h hm }
  · rw [encodeLC_private siteData rs' hlco hm]
    exact encodeLC_private siteData' rs' rfl hm

theorem roundTrip_telInt (hfits : tx.Fits) (hlco : tx.lco = LC_TEL_INT_VCH_USER) (hm : tx.mfId ≠ P25_MFG_MOT)
    (hsrc : rx.srcId = 0) : RoundTrip siteData siteData' rx tx rs := by
  have hdec := decodeLC_telInt rx rs tx.optionsOctet (hfits.callTimer hlco hm) (hfits.srcId hm)
  rw [← encodeLC_telInt siteData rs hlco hm, if_pos hsrc] at hdec
  refine ⟨_, hdec, ?_, fun h => absurd h (not_or.mpr ⟨not_not.mpr hlco, hm⟩)⟩
  exact {
    lco := hlco.symm
    voice := fun h => absurd h (by rw [hlco]; decide)
    srcId := fun _ => rfl
    callTimer := fun _ _ => rfl
    explicit := fun h => absurd h (by rw [hlco]; decide)
    vendor := fun h => absurd h hm }

theorem roundTrip_explicit (hfits : tx.Fits) (hlco : tx.lco = LC_EXPLICIT_SOURCE_ID)
    (hm : tx.mfId ≠ P25_MFG_MOT) :
    RoundTrip siteData siteData' rx tx rs := by
  obtain ⟨hnet, hsys⟩ := hfits.explicit hlco
  have hstandard : (0 : UInt8) ≠ P25_MFG_MOT := by decide
  have hdec := decodeLC_explicit rx rs hnet hsys (hfits.srcId hm)
  rw [← encodeLC_explicit siteData rs hlco hm, sanePriority_eq] at hdec
  refine ⟨_, hdec, ?_, fun _ rs' => ?_⟩
  · exact {
      lco := hlco.symm
      voice := fun h => absurd h (by rw [hlco]; decide)
      srcId := fun _ => rfl
      callTimer := fun h => absurd h (by rw [hlco]; decide)
      explicit := fun _ => ⟨rfl, rfl⟩
      vendor := fun h => absurd h hm }
  · rw [encodeLC_explicit siteData rs' hlco hm]
    exact encodeLC_explicit siteData' rs' rfl hstandard

/-- What the receiver learns from the octets, and what it would encode again. -/
theorem roundTrip_of_fits (hfits : tx.Fits) (hover : rx.encryptOverride = false) (hsrc : rx.srcId = 0) :
    RoundTrip siteData siteData' rx tx rs := by
  by_cases hm : tx.mfId = P25_MFG_MOT
  · obtain ⟨hlco, hv⟩ := hfits.vendor hm
    exact roundTrip_vendor hlco hm hv
  · rcases hfits.opcode with hlco | hlco | hlco | hlco
    · exact roundTrip_group hfits hlco hm hover
    · exact roundTrip_private hfits hlco hm hover
    · exact roundTrip_telInt hfits hlco hm hsrc
    · exact roundTrip_explicit hfits hlco hm

end Opcodes

/-! ## The first logical link data unit -/

/-- `decodeLC` reads nine octets. -/
theorem decodeLC_congr (lc : LC) {rs rs' : Bytes} (h : ∀ i < 9, rs i = rs' i) :
    decodeLC lc rs = decodeLC lc rs' := by
  have hcombine : combine rs = combine rs' := by
    unfold combine
    rw [h 1 (by decide), h 2 (by decide), h 3 (by decide), h 4 (by decide), h 5 (by decide), h 6 (by decide),
      h 7 (by decide), h 8 (by decide)]
  unfold decodeLC
  rw [hcombine, h 0 (by decide), h 1 (by decide), h 2 (by decide), h 3 (by decide)]

/-- **LDU1.** What the receiver decodes are the octets that were encoded, whatever frame they are laid into. -/
theorem decodeLDU1_encodeLDU1 (errata : RS.Errata) (siteData : SiteData) (rx tx : LC) (frame : Bytes) :
    decodeLDU1 errata rx (encodeLDU1 siteData tx frame) = decodeLC rx (encodeLC siteData tx fun _ => 0) := by
  obtain ⟨y, hdecode, hoctets⟩ :=
    decodeWith_decodeLDUParts RS634717.valid_241213 rfl errata (encodeLC siteData tx fun _ => 0) frame
  unfold decodeLDU1 encodeLDU1 RS634717.decode241213 RS634717.encode241213
  rw [hdecode]
  exact decodeLC_congr rx (hoctets 9 (by decide))

/-- **LDU1 round trip.** Link control with an opcode known to both sides and fields that fit is accepted, its
    fields are recovered, and a receiver that encodes it again sends the same 72 bits; of the standard telephone
    interconnect the opcode, the call timer and the source are recovered. -/
theorem ldu1_roundTrip (errata : RS.Errata) (siteData siteData' : SiteData) {rx tx : LC} (frame : Bytes)
    (hfits : tx.Fits) (hover : rx.encryptOverride = false) (hsrc : rx.srcId = 0) :
    ∃ got, decodeLDU1 errata rx (encodeLDU1 siteData tx frame) = (true, got) ∧ tx.Recovers got ∧
      (tx.lco ≠ LC_TEL_INT_VCH_USER ∨ tx.mfId = P25_MFG_MOT →
        ∀ rs, encodeLC siteData' got rs = encodeLC siteData tx rs) := by
  rw [decodeLDU1_encodeLDU1]
  exact roundTrip_of_fits hfits hover hsrc

/-- An emergency call to a talkgroup. -/
theorem ldu1_roundTrip_group :
    let tx : LC := { default with
      lco := LC_GROUP, dstId := 2001, srcId := 1234567, emergency := true, encrypted := true, priority := 7 }
    ∃ got, decodeLDU1 (fun _ _ => none) default (encodeLDU1 SiteData.default tx fun _ => 0) = (true, got) ∧
      tx.Recovers got ∧ (tx.lco ≠ LC_TEL_INT_VCH_USER ∨ tx.mfId = P25_MFG_MOT →
        ∀ rs, encodeLC SiteData.default got rs = encodeLC SiteData.default tx rs) :=
  ldu1_roundTrip (fun _ _ => none) SiteData.default SiteData.default (fun _ => 0)
    { opcode := by decide
      vendor := by decide
      srcId := by decide
      talkgroup := by decide
      unit := by decide
      priority := by decide
      callTimer := by decide
      explicit := by decide } rfl rfl

/-- **Not everything is recovered.** The opcode of a group channel update is not decoded; the protect flag is
    not encoded; a priority of zero is read as the default; a talkgroup that is too wide loses its upper bits;
    and voice of the passthrough vendor is sent as zeros. -/
theorem ldu1_notRecovered :
    (decodeLDU1 (fun _ _ => none) default (encodeLDU1 SiteData.default { default with lco := LC_GROUP_UPDT }
      fun _ => 0)).1 = false ∧
    (decodeLDU1 (fun _ _ => none) default (encodeLDU1 SiteData.default { default with protect := true }
      fun _ => 0)).2.protect = false ∧
    (decodeLDU1 (fun _ _ => none) default (encodeLDU1 SiteData.default { default with priority := 0 }
      fun _ => 0)).2.priority = 4 ∧
    (decodeLDU1 (fun _ _ => none) default (encodeLDU1 SiteData.default { default with dstId := 0x10001 }
      fun _ => 0)).2.dstId = 1 ∧
    (decodeLDU1 (fun _ _ => none) default (encodeLDU1 SiteData.default
      { default with mfId := P25_MFG_MOT, srcId := 1234567 } fun _ => 0)).2.srcId = 0 := by
  simp only [decodeLDU1_encodeLDU1]
  refine ⟨?_, ?_, ?_, ?_, ?_⟩ <;> decide +kernel

end LC

end DvmHost

import DvmHost.Common.Utils

/-!
# `Common.Dmr.Lc.LC` — DMR link control

`src/common/dmr/lc/LC.cpp`: nine octets, or the 72 bits of them that embedded signalling carries. What the
constructors make of the bits (`ofBits_getBits`) or the octets (`ofData_getData`) of a link control whose fields fit is
that link control.
-/

namespace DvmHost

namespace Dmr

/-- `FLCO_GROUP`. -/
def FLCO_GROUP : UInt8 := 0x00

/-- `FLCO_PRIVATE`. -/
def FLCO_PRIVATE : UInt8 := 0x03

/-- `FLCO_TALKER_ALIAS_HEADER`. -/
def FLCO_TALKER_ALIAS_HEADER : UInt8 := 0x04

/-- The members of `LC`. -/
structure LC where
  PF : Bool
  FLCO : UInt8
  FID : UInt8
  srcId : UInt32
  dstId : UInt32
  emergency : Bool
  encrypted : Bool
  broadcast : Bool
  ovcm : Bool
  priority : UInt8
  R : Bool
deriving DecidableEq, Repr

namespace LC

/-- `getData` as octets. -/
def getData (lc : LC) : Bytes :=
  let data := setByte (fun _ => 0) 0 lc.FLCO
  let data := if lc.PF then setByte data 0 (data 0 ||| 0x80) else data
  let data := if lc.R then setByte data 0 (data 0 ||| 0x40) else data
  let data := setByte data 1 lc.FID
  let data := setByte data 2 ((if lc.emergency then 0x80 else 0x00) + (if lc.encrypted then 0x40 else 0x00) +
    (if lc.broadcast then 0x08 else 0x00) + (if lc.ovcm then 0x04 else 0x00) + (lc.priority &&& 0x03))
  let data := setByte data 3 (lc.dstId >>> (16 : UInt32)).toUInt8
  let data := setByte data 4 (lc.dstId >>> (8 : UInt32)).toUInt8
  let data := setByte data 5 (lc.dstId >>> (0 : UInt32)).toUInt8
  let data := setByte data 6 (lc.srcId >>> (16 : UInt32)).toUInt8
  let data := setByte data 7 (lc.srcId >>> (8 : UInt32)).toUInt8
  setByte data 8 (lc.srcId >>> (0 : UInt32)).toUInt8

/-- `getData` as bits, into the array `bits`. -/
def getBits (lc : LC) (bits : Bits) : Bits := unpackBytes lc.getData 0 bits 0 9

/-- `LC(const bool* bits)`. -/
def ofBits (bits : Bits) : LC :=
  let temp1 := bitsToByteBE bits 0
  let temp2 := bitsToByteBE bits 8
  let temp3 := bitsToByteBE bits 16
  { PF := bits 0, R := bits 1, FLCO := temp1 &&& 0x3F, FID := temp2,
    emergency := decide (temp3 &&& 0x80 = 0x80), encrypted := decide (temp3 &&& 0x40 = 0x40),
    broadcast := decide (temp3 &&& 0x08 = 0x08), ovcm := decide (temp3 &&& 0x04 = 0x04),
    priority := temp3 &&& 0x03,
    dstId := word24 (bitsToByteBE bits 24) (bitsToByteBE bits 32) (bitsToByteBE bits 40),
    srcId := word24 (bitsToByteBE bits 48) (bitsToByteBE bits 56) (bitsToByteBE bits 64) }

/-- `LC(const uint8_t* data)`. -/
def ofData (data : Bytes) : LC where
  PF := decide (data 0 &&& 0x80 = 0x80)
  R := decide (data 0 &&& 0x40 = 0x40)
  FLCO := data 0 &&& 0x3F
  FID := data 1
  emergency := decide (data 2 &&& 0x80 = 0x80)
  encrypted := decide (data 2 &&& 0x40 = 0x40)
  broadcast := decide (data 2 &&& 0x08 = 0x08)
  ovcm := decide (data 2 &&& 0x04 = 0x04)
  priority := data 2 &&& 0x03
  dstId := word24 (data 3) (data 4) (data 5)
  srcId := word24 (data 6) (data 7) (data 8)

/-- The fields fit the bits they are sent in. -/
structure Fits (lc : LC) : Prop where
  FLCO : lc.FLCO < 64
  priority : lc.priority < 4
  srcId : lc.srcId.toNat < 2 ^ 24
  dstId : lc.dstId.toNat < 2 ^ 24

/-- The first octet: the opcode below the two flags. -/
def opcodeOctet (lc : LC) : UInt8 :=
  let octet := if lc.PF then lc.FLCO ||| 0x80 else lc.FLCO
  if lc.R then octet ||| 0x40 else octet

/-- The octet of the service options. -/
def optionsOctet (lc : LC) : UInt8 :=
  (if lc.emergency then 0x80 else 0x00) + (if lc.encrypted then 0x40 else 0x00) +
    (if lc.broadcast then 0x08 else 0x00) + (if lc.ovcm then 0x04 else 0x00) + (lc.priority &&& 0x03)

theorem getData_octets (lc : LC) :
    lc.getData 0 = lc.opcodeOctet ∧ lc.getData 1 = lc.FID ∧ lc.getData 2 = lc.optionsOctet ∧
    lc.getData 3 = (lc.dstId >>> (16 : UInt32)).toUInt8 ∧ lc.getData 4 = (lc.dstId >>> (8 : UInt32)).toUInt8 ∧
    lc.getData 5 = (lc.dstId >>> (0 : UInt32)).toUInt8 ∧ lc.getData 6 = (lc.srcId >>> (16 : UInt32)).toUInt8 ∧
    lc.getData 7 = (lc.srcId >>> (8 : UInt32)).toUInt8 ∧ lc.getData 8 = (lc.srcId >>> (0 : UInt32)).toUInt8 := by
  unfold getData opcodeOctet optionsOctet
  cases lc.PF <;> cases lc.R <;> simp [setByte]

theorem opcodeOctet_fields {lc : LC} (h : lc.FLCO < 64) :
    bitOf lc.opcodeOctet 0 = lc.PF ∧ bitOf lc.opcodeOctet 1 = lc.R ∧ lc.opcodeOctet &&& 0x3F = lc.FLCO := by
  have hall : ∀ PF R : Bool, ∀ v : BitVec 8, UInt8.ofBitVec v < 64 →
      let octet := if PF then UInt8.ofBitVec v ||| 0x80 else UInt8.ofBitVec v
      let octet := if R then octet ||| 0x40 else octet
      bitOf octet 0 = PF ∧ bitOf octet 1 = R ∧ octet &&& 0x3F = UInt8.ofBitVec v := by decide
  exact hall lc.PF lc.R lc.FLCO.toBitVec h

theorem optionsOctet_fields {lc : LC} (h : lc.priority < 4) :
    decide (lc.optionsOctet &&& 0x80 = 0x80) = lc.emergency ∧
    decide (lc.optionsOctet &&& 0x40 = 0x40) = lc.encrypted ∧
    decide (lc.optionsOctet &&& 0x08 = 0x08) = lc.broadcast ∧
    decide (lc.optionsOctet &&& 0x04 = 0x04) = lc.ovcm ∧ lc.optionsOctet &&& 0x03 = lc.priority := by
  have hall : ∀ emergency encrypted broadcast ovcm : Bool, ∀ v : Fin 4,
      let o := (if emergency then 0x80 else 0x00) + (if encrypted then 0x40 else 0x00) +
        (if broadcast then 0x08 else 0x00) + (if ovcm then 0x04 else 0x00) + (UInt8.ofNat v &&& 0x03)
      decide (o &&& 0x80 = 0x80) = emergency ∧ decide (o &&& 0x40 = 0x40) = encrypted ∧
        decide (o &&& 0x08 = 0x08) = broadcast ∧ decide (o &&& 0x04 = 0x04) = ovcm ∧
        o &&& 0x03 = UInt8.ofNat v := by decide
  have hp : UInt8.ofNat lc.priority.toNat = lc.priority := UInt8.ofNat_toNat
  have hfields := hall lc.emergency lc.encrypted lc.broadcast lc.ovcm ⟨lc.priority.toNat, UInt8.lt_iff_toNat_lt.mp h⟩
  dsimp only at hfields
  rw [hp] at hfields
  exact hfields

theorem getBits_apply (lc : LC) (bits : Bits) {k : Nat} (hk : k < 72) :
    lc.getBits bits k = bitOf (lc.getData (k / 8)) (k % 8) := by
  unfold getBits
  rw [unpackBytes_apply, if_pos (by omega), Nat.zero_add, Nat.sub_zero]

/-- The octets of the bits. -/
theorem bitsToByteBE_getBits {lc : LC} {bits : Bits} (h : ∀ k < 72, bits k = lc.getBits (fun _ => false) k) {i : Nat}
    (hi : i < 9) : bitsToByteBE bits (8 * i) = lc.getData i := by
  apply bitsToByteBE_eq
  intro j hj
  have hdiv : (8 * i + j) / 8 = i := by omega
  have hmod : (8 * i + j) % 8 = j := by omega
  rw [h _ (by omega), getBits_apply _ _ (by omega), hdiv, hmod]

/-- Only the first 72 bits are read. -/
theorem ofBits_congr {a b : Bits} (h : ∀ k < 72, a k = b k) : ofBits a = ofBits b := by
  have hbyte : ∀ i < 9, bitsToByteBE a (8 * i) = bitsToByteBE b (8 * i) := by
    intro i hi
    apply bitsToByteBE_eq
    intro j hj
    rw [bitOf_bitsToByteBE b _ hj]
    exact h _ (by omega)
  unfold ofBits
  dsimp only
  rw [hbyte 0 (by decide), hbyte 1 (by decide), hbyte 2 (by decide), hbyte 3 (by decide), hbyte 4 (by decide),
    hbyte 5 (by decide), hbyte 6 (by decide), hbyte 7 (by decide), hbyte 8 (by decide), h 0 (by decide),
    h 1 (by decide)]

/-- The masks and the words that the constructors take fields from. -/
theorem fits_of_masks {lc : LC} {b0 b2 d0 d1 d2 s0 s1 s2 : UInt8} (hFLCO : lc.FLCO = b0 &&& 0x3F)
    (hpriority : lc.priority = b2 &&& 0x03) (hdst : lc.dstId = word24 d0 d1 d2) (hsrc : lc.srcId = word24 s0 s1 s2) :
    lc.Fits := by
  have hmask : ∀ v : BitVec 8, UInt8.ofBitVec v &&& 0x3F < 64 ∧ UInt8.ofBitVec v &&& 0x03 < 4 := by decide
  have hword : ∀ b0 b1 b2 : UInt8, (word24 b0 b1 b2).toNat < 2 ^ 24 := by
    intro b0 b1 b2
    have h0 := b0.toNat_lt
    have h1 := b1.toNat_lt
    have h2 := b2.toNat_lt
    rw [toNat_word24]
    omega
  refine ⟨?_, ?_, ?_, ?_⟩
  · rw [hFLCO]
    exact (hmask b0.toBitVec).1
  · rw [hpriority]
    exact (hmask b2.toBitVec).2
  · rw [hsrc]
    exact hword s0 s1 s2
  · rw [hdst]
    exact hword d0 d1 d2

/-- What is read from bits fits. -/
theorem fits_ofBits (bits : Bits) : (ofBits bits).Fits := fits_of_masks rfl rfl rfl rfl

/-- What is read from octets fits. -/
theorem fits_ofData (data : Bytes) : (ofData data).Fits := fits_of_masks rfl rfl rfl rfl

/-- Only the first nine octets are read. -/
theorem ofData_congr {a b : Bytes} (h : ∀ i < 9, a i = b i) : ofData a = ofData b := by
  unfold ofData
  rw [h 0 (by decide), h 1 (by decide), h 2 (by decide), h 3 (by decide), h 4 (by decide), h 5 (by decide),
    h 6 (by decide), h 7 (by decide), h 8 (by decide)]

/-- **Link control is read back from its octets** exactly when its fields fit. -/
theorem ofData_getData (lc : LC) : ofData lc.getData = lc ↔ lc.Fits := by
  constructor
  · intro h
    exact h ▸ fits_ofData lc.getData
  · intro hfits
    obtain ⟨o0, o1, o2, o3, o4, o5, o6, o7, o8⟩ := lc.getData_octets
    obtain ⟨hPF, hR, hFLCO⟩ := opcodeOctet_fields hfits.FLCO
    obtain ⟨hem, hen, hbr, hov, hpr⟩ := optionsOctet_fields hfits.priority
    have h80 : decide (lc.opcodeOctet &&& 0x80 = 0x80) = lc.PF := (and_bitMask_eq _ (j := 0) (by decide)).trans hPF
    have h40 : decide (lc.opcodeOctet &&& 0x40 = 0x40) = lc.R := (and_bitMask_eq _ (j := 1) (by decide)).trans hR
    unfold ofData
    rw [o0, o1, o2, o3, o4, o5, o6, o7, o8, h80, h40, hFLCO, hem, hen, hbr, hov, hpr, word24_octets hfits.dstId,
      word24_octets hfits.srcId]

/-- **Link control is read back from its bits.** -/
theorem ofBits_getBits {lc : LC} (hfits : lc.Fits) {bits : Bits}
    (h : ∀ k < 72, bits k = lc.getBits (fun _ => false) k) : ofBits bits = lc := by
  obtain ⟨o0, o1, o2, o3, o4, o5, o6, o7, o8⟩ := lc.getData_octets
  obtain ⟨hPF, hR, hFLCO⟩ := opcodeOctet_fields hfits.FLCO
  obtain ⟨hem, hen, hbr, hov, hpr⟩ := optionsOctet_fields hfits.priority
  have b0 := bitsToByteBE_getBits h (i := 0) (by decide)
  have b1 := bitsToByteBE_getBits h (i := 1) (by decide)
  have b2 := bitsToByteBE_getBits h (i := 2) (by decide)
  have b3 := bitsToByteBE_getBits h (i := 3) (by decide)
  have b4 := bitsToByteBE_getBits h (i := 4) (by decide)
  have b5 := bitsToByteBE_getBits h (i := 5) (by decide)
  have b6 := bitsToByteBE_getBits h (i := 6) (by decide)
  have b7 := bitsToByteBE_getBits h (i := 7) (by decide)
  have b8 := bitsToByteBE_getBits h (i := 8) (by decide)
  have h0 : bits 0 = lc.PF := by rw [h 0 (by decide), getBits_apply _ _ (by decide), o0, hPF]
  have h1 : bits 1 = lc.R := by rw [h 1 (by decide), getBits_apply _ _ (by decide), o0, hR]
  unfold ofBits
  dsimp only
  simp only [Nat.mul_zero, Nat.reduceMul] at b0 b1 b2 b3 b4 b5 b6 b7 b8
  rw [b0, b1, b2, b3, b4, b5, b6, b7, b8, h0, h1, o0, o1, o2, o3, o4, o5, o6, o7, o8, hFLCO, hem, hen, hbr, hov, hpr,
    word24_octets hfits.dstId, word24_octets hfits.srcId]

end LC

end Dmr

end DvmHost

import DvmHost.Common.Dmr.Correctness.CrcAcceptance
import DvmHost.Common.Dmr.Lc.Csbk.CSBKClasses
import DvmHost.Common.Edac.Correctness.ProductCode
import DvmHost.Lib.Words

/-!
# `Common.Dmr.Lc.Csbk.Correctness.BurstCarriage` — the word of a control signalling block comes back

A class sums its fields into one word. Through the octets, the masked check and the product code the factory reads that
word again, with an object of the same class (`createCSBK_encode`), if the block was encoded as a `DT_CSBK`: the objects
that the factory makes know no other data type, so that one encoded as a `DT_MBC_HEADER` passes the check of the factory
and fails that of the object (`createCSBK_header`).

`CSBK::regenerate` takes a burst through the product code and back without an object. The mask is added and taken off
twice, and the CRC that is written is the one that was checked, so the octets it codes are those it decoded.
-/

namespace DvmHost

open Lib Words

namespace Dmr

/-! ## The word -/

theorem CSBK.toValue_congr {payload payload' : Bytes} (h : ∀ i < 8, payload i = payload' i) :
    CSBK.toValue payload = CSBK.toValue payload' := by
  unfold CSBK.toValue
  simp (disch := decide) only [h]

theorem CSBK.toValue_eq (payload : Bytes) : CSBK.toValue payload = wordOf payload := by
  have hzero : (0 : UInt64) <<< (8 : UInt64) + (payload 0).toUInt64 = (payload 0).toUInt64 := by
    rw [UInt64.zero_shiftLeft, UInt64.zero_add]
  unfold CSBK.toValue
  rw [← hzero]
  rfl

/-- **The octets of a value are combined into it.** -/
theorem CSBK.toValue_fromValue (value : UInt64) : CSBK.toValue (CSBK.fromValue value) = value := by
  rw [CSBK.toValue_eq, ← wordOf_octetAt value]
  refine wordOf_congr fun i hi => ?_
  rw [wordOf_octetAt]
  match i, hi with
  | 0, _ | 1, _ | 2, _ | 3, _ | 4, _ | 5, _ | 6, _ | 7, _ => rfl

/-! ## The octets -/

/-- The octet of the feature id: the color code of a Cdef block. -/
def CSBK.feature (c : CSBK) : UInt8 := if !c.Cdef then c.FID else c.colorCode &&& 0x0F

/-- The twelve octets with their check, before the mask. -/
def CSBK.stamped (c : CSBK) (payload : Bytes) : Bytes :=
  let csbk := memcpy (fun _ => 0x00) 2 payload (DMR_CSBK_LENGTH_BYTES - 4)
  CRC.addCCITT162 (CSBK.maskCRC c.dataType
    (setByte (setByte (setByte csbk 0 c.CSBKO) 0 (c.CSBKO ||| if c.lastBlock then 0x80 else 0x00)) 1 c.feature)) 12

theorem CSBK.encode_eq (c : CSBK) (data payload : Bytes) :
    c.encode data payload = BPTC19696.encode (CSBK.maskCRC c.dataType (c.stamped payload)) data := by
  unfold CSBK.encode CSBK.stamped CSBK.feature
  dsimp only
  rw [setByte_same]

theorem addMask_of_lt (mask : UInt8) (octets : Bytes) {i : Nat} (hi : i < 10) : addMask mask octets i = octets i := by
  unfold addMask
  rw [setByte_of_ne _ _ (by omega), setByte_of_ne _ _ (by omega)]

/-- A mask that is added twice is gone. -/
theorem addMask_addMask (mask : UInt8) (octets : Bytes) : addMask mask (addMask mask octets) = octets := by
  funext i
  unfold addMask
  by_cases h11 : i = 11
  · rw [setByte_of_eq _ _ h11, setByte_same, UInt8.xor_assoc, UInt8.xor_self, UInt8.xor_zero, h11]
  · rw [setByte_of_ne _ _ h11]
    by_cases h10 : i = 10
    · rw [setByte_of_eq _ _ h10, setByte_of_ne _ _ (by decide), setByte_same, UInt8.xor_assoc, UInt8.xor_self,
        UInt8.xor_zero, h10]
    · rw [setByte_of_ne _ _ h10, setByte_of_ne _ _ h11, setByte_of_ne _ _ h10]

/-- The octets of a block. -/
theorem CSBK.stamped_octets (c : CSBK) (payload : Bytes) :
    c.stamped payload 0 = c.CSBKO ||| (if c.lastBlock then 0x80 else 0x00) ∧ c.stamped payload 1 = c.feature ∧
      ∀ i < 8, c.stamped payload (2 + i) = payload i := by
  have hkept : ∀ i < 10, c.stamped payload i =
      setByte (setByte (setByte (memcpy (fun _ => 0x00) 2 payload (DMR_CSBK_LENGTH_BYTES - 4)) 0 c.CSBKO) 0
        (c.CSBKO ||| if c.lastBlock then 0x80 else 0x00)) 1 c.feature i := fun i hi => by
    unfold CSBK.stamped
    rw [CRC.addCCITT162_of_lt _ hi, maskCRC_csbk, addMask_of_lt _ _ hi]
  refine ⟨?_, ?_, fun i hi => ?_⟩
  · rw [hkept 0 (by decide), setByte_of_ne _ _ (by decide), setByte_same]
  · rw [hkept 1 (by decide), setByte_same]
  · rw [hkept _ (by omega), setByte_of_ne _ _ (by omega), setByte_of_ne _ _ (by omega), setByte_of_ne _ _ (by omega)]
    unfold memcpy
    rw [if_pos ⟨Nat.le_add_right 2 i, Nat.add_lt_add_left hi 2⟩, Nat.add_sub_cancel_left]

/-- A block is read back with its mask. -/
theorem CSBK.burstOctets_encode (c : CSBK) (data payload : Bytes) {i : Nat} (hi : i < 12) :
    burstOctets (c.encode data payload) i = addMask (csbkMask c.dataType) (c.stamped payload) i := by
  rw [CSBK.encode_eq, ← maskCRC_csbk]
  exact BPTC19696.decode_clean _ _ _ hi

/-- The check of a stamped block passes where its own mask is taken off, and with no other. -/
theorem CSBK.verifies_encode_iff (c : CSBK) (data payload : Bytes) (mask : UInt8) :
    Verifies mask (burstOctets (c.encode data payload)) ↔ mask = csbkMask c.dataType := by
  rw [verifies_congr (fun i hi => c.burstOctets_encode data payload hi)]
  constructor
  · intro h
    have hstamped : CRC.checkCCITT162 (c.stamped payload) 12 = true := CRC.checkCCITT162_add (by decide) fun _ _ => rfl
    have hcrc : CRC.ccitt162 (addMask mask (addMask (csbkMask c.dataType) (c.stamped payload))) 12 =
        CRC.ccitt162 (c.stamped payload) 12 := CRC.ccitt162_congr fun i hi => by
      rw [addMask_of_lt _ _ hi, addMask_of_lt _ _ hi]
    have hlow := (of_decide_eq_true h).1
    have hlow' := (of_decide_eq_true hstamped).1
    rw [hcrc, hlow'] at hlow
    have h11 : addMask mask (addMask (csbkMask c.dataType) (c.stamped payload)) (12 - 1) =
        c.stamped payload (12 - 1) ^^^ csbkMask c.dataType ^^^ mask := by
      unfold addMask
      rw [setByte_same, setByte_same]
    rw [h11, UInt8.xor_assoc] at hlow
    exact (UInt8.xor_eq_zero_iff.mp ((UInt8.xor_right_inj _).mp (hlow.symm.trans UInt8.xor_zero.symm))).symm
  · rintro rfl
    unfold Verifies
    rw [addMask_addMask]
    exact CRC.checkCCITT162_add (by decide) fun _ _ => rfl

/-! ## The burst -/

/-- The opcodes that have a class fit their six bits, and the flag of the last block does not show in them. -/
theorem csbko_of_classOf {csbko fid : UInt8} {cls : CSBKClass} (h : CSBKFactory.classOf csbko fid = some cls)
    (lastBlock : Bool) : (csbko ||| if lastBlock then 0x80 else 0x00) &&& 0x3F = csbko ∧
      decide ((csbko ||| if lastBlock then 0x80 else 0x00) &&& 0x80 = 0x80) = lastBlock := by
  have hall : ∀ b : BitVec 8, ∀ last : Bool, (CSBKFactory.classOf (UInt8.ofBitVec b) 0x00).isSome →
      (UInt8.ofBitVec b ||| if last then 0x80 else 0x00) &&& 0x3F = UInt8.ofBitVec b ∧
        decide ((UInt8.ofBitVec b ||| if last then 0x80 else 0x00) &&& 0x80 = 0x80) = last := by
    decide +kernel
  refine hall csbko.toBitVec lastBlock ?_
  show (CSBKFactory.classOf csbko 0x00).isSome = true
  have hsome : (CSBKFactory.classOf csbko fid).isSome = true := Option.isSome_iff_exists.mpr ⟨cls, h⟩
  unfold CSBKFactory.classOf at hsome ⊢
  by_cases hrand : csbko = CSBKO_RAND
  · rw [hrand]
    rfl
  · simp only [if_neg hrand] at hsome ⊢
    exact hsome

/-- An object as the factory makes it for a received block, before its payload is read. -/
def CSBKObject.received (c : CSBKObject) (cls : CSBKClass) : CSBKObject :=
  { cls.new with CSBKO := c.CSBKO, lastBlock := c.lastBlock, FID := c.feature, dataContent := false, CBF := 0 }

section Burst

variable {siteId : UInt16} {c : CSBKObject} {v : UInt64}

theorem encodeBurst_eq (hv : c.encodeValue siteId = some v) (data : Bytes) :
    c.encodeBurst siteId data = c.toCSBK.encode data (CSBK.fromValue v) := by
  unfold CSBKObject.encodeBurst
  rw [hv]

/-- What the decoder of an object makes of a block under its own mask. -/
theorem decodeBurst_encode (cls : CSBKClass) {cls' : CSBKClass} (hv : c.encodeValue siteId = some v)
    (hcls : CSBKFactory.classOf c.CSBKO c.feature = some cls') (htype : c.dataType = DT_CSBK) (data : Bytes) :
    ∃ payload, CSBK.toValue payload = v ∧
      cls.new.decodeBurst (c.encodeBurst siteId data) = some ((c.received cls).decodePayload payload) := by
  obtain ⟨h0, h1, hpayload⟩ := c.toCSBK.stamped_octets (CSBK.fromValue v)
  obtain ⟨hopcode, hlast⟩ := csbko_of_classOf hcls c.lastBlock
  have hoctets : ∀ i < 12, burstOctets (c.encodeBurst siteId data) i =
      addMask (csbkMask DT_CSBK) (c.stamped (CSBK.fromValue v)) i := fun i hi => by
    rw [encodeBurst_eq hv, ← htype]
    exact c.burstOctets_encode data _ hi
  have hplain : ∀ i < 10, burstOctets (c.encodeBurst siteId data) i = c.stamped (CSBK.fromValue v) i := fun i hi => by
    rw [hoctets i (by omega), addMask_of_lt _ _ hi]
  have hverifies : Verifies (csbkMask DT_CSBK) (burstOctets (c.encodeBurst siteId data)) := by
    rw [encodeBurst_eq hv, ← htype]
    exact (c.verifies_encode_iff data _ _).mpr rfl
  have hread : cls.new.toCSBK.decode (c.encodeBurst siteId data) (fun _ => 0x00) =
      (true,
        { cls.new.toCSBK with
          CSBKO := burstOctets (c.encodeBurst siteId data) 0 &&& 0x3F
          lastBlock := decide (burstOctets (c.encodeBurst siteId data) 0 &&& 0x80 = 0x80)
          FID := burstOctets (c.encodeBurst siteId data) 1
          dataContent := false
          CBF := 0 },
        memcpy (fun _ => 0x00) 0 (fun i => burstOctets (c.encodeBurst siteId data) (2 + i))
          (DMR_CSBK_LENGTH_BYTES - 4)) := by
    unfold CSBK.decode
    rw [show cls.new.toCSBK.dataType = DT_CSBK from rfl, maskCRC_csbk]
    dsimp only
    rw [show CRC.checkCCITT162 (addMask (csbkMask DT_CSBK) (BPTC19696.decode (c.encodeBurst siteId data) fun _ => 0x00))
        DMR_CSBK_LENGTH_BYTES = true from hverifies, maskCRC_csbk, addMask_addMask]
    rfl
  refine ⟨memcpy (fun _ => 0x00) 0 (fun i => burstOctets (c.encodeBurst siteId data) (2 + i))
    (DMR_CSBK_LENGTH_BYTES - 4), ?_, ?_⟩
  · rw [← CSBK.toValue_fromValue v]
    refine CSBK.toValue_congr fun i hi => ?_
    unfold memcpy
    rw [if_pos ⟨Nat.zero_le i, show i < 0 + 8 by omega⟩, Nat.sub_zero]
    exact (hplain _ (by omega)).trans (hpayload i hi)
  · unfold CSBKObject.decodeBurst
    rw [hread, hplain 0 (by decide), hplain 1 (by decide), h0, h1, hopcode, hlast]
    rfl

/-- **The word comes back.** The factory makes an object of the class of the octets, and lets it read the word that was
    written. -/
theorem createCSBK_encode {cls : CSBKClass} (hv : c.encodeValue siteId = some v)
    (hcls : CSBKFactory.classOf c.CSBKO c.feature = some cls) (htype : c.dataType = DT_CSBK) (data : Bytes) :
    ∃ payload, CSBK.toValue payload = v ∧ CSBKFactory.createCSBK (c.encodeBurst siteId data) DT_CSBK =
      some ((c.received cls).decodePayload payload) := by
  obtain ⟨payload, hvalue, hdecode⟩ := decodeBurst_encode cls hv hcls htype data
  obtain ⟨h0, h1, -⟩ := c.toCSBK.stamped_octets (CSBK.fromValue v)
  obtain ⟨hopcode, -⟩ := csbko_of_classOf hcls c.lastBlock
  refine ⟨payload, hvalue, ?_⟩
  have hplain : ∀ i < 10, burstOctets (c.encodeBurst siteId data) i = c.stamped (CSBK.fromValue v) i := fun i hi => by
    rw [encodeBurst_eq hv, c.toCSBK.burstOctets_encode data _ (by omega), addMask_of_lt _ _ hi]
  have hverifies : Verifies (csbkMask DT_CSBK) (burstOctets (c.encodeBurst siteId data)) := by
    rw [encodeBurst_eq hv, ← htype]
    exact (c.verifies_encode_iff data _ _).mpr rfl
  have hclass : CSBKFactory.classOf (burstOctets (c.encodeBurst siteId data) 0 &&& 0x3F)
      (burstOctets (c.encodeBurst siteId data) 1) = some cls := by
    rw [hplain 0 (by decide), hplain 1 (by decide), h0, h1, hopcode]
    exact hcls
  unfold CSBKFactory.createCSBK
  rw [maskCRC_csbk]
  dsimp only
  rw [show CRC.checkCCITT162 (addMask (csbkMask DT_CSBK) (BPTC19696.decode (c.encodeBurst siteId data) fun _ => 0x00))
      DMR_CSBK_LENGTH_BYTES = true from hverifies, maskCRC_csbk, addMask_addMask]
  rw [if_neg (by decide)]
  split
  · next cls' hfound =>
      obtain rfl : cls' = cls := Option.some.inj (hfound.symm.trans hclass)
      exact hdecode
  · next hnone => exact absurd (hnone.symm.trans hclass) (by simp)

/-- **A multi-block header is refused** by the object that the factory makes for it. -/
theorem createCSBK_header (hv : c.encodeValue siteId = some v) (htype : c.dataType = DT_MBC_HEADER) (data : Bytes) :
    CSBKFactory.createCSBK (c.encodeBurst siteId data) DT_MBC_HEADER = none := by
  have hrefused : ∀ cls : CSBKClass, cls.new.decodeBurst (c.encodeBurst siteId data) = none := fun cls => by
    have hnot : (cls.new.toCSBK.decode (c.encodeBurst siteId data) fun _ => 0x00).1 = false := by
      refine Bool.eq_false_iff.mpr fun h => ?_
      have hverifies := (csbk_accepts _ _ _).mp h
      rw [encodeBurst_eq hv] at hverifies
      have hmask := (c.verifies_encode_iff data _ _).mp hverifies
      rw [htype] at hmask
      exact absurd hmask (show csbkMask DT_CSBK ≠ csbkMask DT_MBC_HEADER by decide)
    unfold CSBKObject.decodeBurst
    generalize cls.new.toCSBK.decode (c.encodeBurst siteId data) (fun _ => 0x00) = result at hnot
    obtain ⟨ret, base, csbk⟩ := result
    obtain rfl : ret = false := hnot
    rfl
  unfold CSBKFactory.createCSBK
  dsimp only
  split
  · rfl
  · split
    · exact hrefused _
    · rfl

end Burst

/-! ## Regeneration -/

/-- A CRC that checks is written again as it is. -/
theorem addCCITT162_of_check {octets : Bytes} {length : Nat} (h : CRC.checkCCITT162 octets length = true) :
    CRC.addCCITT162 octets length = octets := by
  obtain ⟨hlow, hhigh⟩ := of_decide_eq_true h
  have hset (p : Bytes) (i : Nat) {b : UInt8} (hb : b = p i) : setByte p i b = p := by
    funext k
    by_cases hk : k = i
    · rw [setByte_of_eq _ _ hk, hb, hk]
    · exact setByte_of_ne _ _ hk
  unfold CRC.addCCITT162
  dsimp only
  rw [hset octets (length - 1) hlow, hset octets (length - 2) hhigh]

/-- **What is regenerated** is the burst with its octets coded anew, if they pass the check. -/
theorem CSBK.regenerate_eq (data : Bytes) (dataType : UInt8) :
    CSBK.regenerate data dataType =
      if Verifies (csbkMask dataType) (burstOctets data) then (true, BPTC19696.encode (burstOctets data) data)
      else (false, data) := by
  unfold CSBK.regenerate
  dsimp only
  by_cases h : Verifies (csbkMask dataType) (burstOctets data)
  · have hcheck : CRC.checkCCITT162 (CSBK.maskCRC dataType (BPTC19696.decode data fun _ => 0x00))
        DMR_CSBK_LENGTH_BYTES = true := by
      rw [maskCRC_csbk]
      exact h
    have htwice (octets : Bytes) : CSBK.maskCRC dataType (CSBK.maskCRC dataType octets) = octets := by
      rw [maskCRC_csbk, maskCRC_csbk, addMask_addMask]
    rw [if_pos h, hcheck, htwice, addCCITT162_of_check hcheck, htwice]
    rfl
  · have hcheck : CRC.checkCCITT162 (CSBK.maskCRC dataType (BPTC19696.decode data fun _ => 0x00))
        DMR_CSBK_LENGTH_BYTES = false := by
      rw [maskCRC_csbk]
      exact Bool.eq_false_iff.mpr h
    rw [if_neg h, hcheck]
    rfl

/-- A regenerated burst has the octets of the burst. -/
theorem CSBK.burstOctets_regenerate (data : Bytes) (dataType : UInt8) {i : Nat} (hi : i < 12) :
    burstOctets (CSBK.regenerate data dataType).2 i = burstOctets data i := by
  rw [CSBK.regenerate_eq]
  split
  · exact BPTC19696.decode_clean _ _ _ hi
  · rfl

/-- The product code reads twelve octets, and writes the bits of the code over what was there. -/
theorem readBit_encode_encode {p q : Bytes} (h : ∀ i < 12, p i = q i) (data : Bytes) {k : Nat} (hk : k < 264) :
    readBit (BPTC19696.encode p (BPTC19696.encode q data)) k = readBit (BPTC19696.encode q data) k := by
  have hdata : BPTC19696.encodeExtractData p = BPTC19696.encodeExtractData q := by
    have hbits : unpackBytes p 0 (fun _ => false) 0 12 = unpackBytes q 0 (fun _ => false) 0 12 := by
      funext a
      rw [unpackBytes_apply, unpackBytes_apply]
      split
      · rw [h _ (by omega)]
      · rfl
    unfold BPTC19696.encodeExtractData
    rw [hbits]
  rw [BPTC19696.encode, hdata, BPTC19696.readBit_encodeExtractBinary _ _ hk]
  split
  · rw [BPTC19696.encode, BPTC19696.readBit_encodeExtractBinary _ _ hk, if_pos ‹_›]
  · split
    · rfl
    · rw [BPTC19696.encode, BPTC19696.readBit_encodeExtractBinary _ _ hk, if_neg ‹_›, if_neg ‹_›]

/-- **Regeneration.** For every burst and data type: true is returned where the decoded octets pass the masked check and
    only there; then the burst that was written decodes to the same octets, which pass the check again, and regenerating
    it once more returns true and leaves its bits; where false is returned the burst is as it was. -/
theorem CSBK.regenerate_stable (data : Bytes) (dataType : UInt8) :
    ((CSBK.regenerate data dataType).1 = true ↔
      CRC.checkCCITT162 (CSBK.maskCRC dataType (burstOctets data)) DMR_CSBK_LENGTH_BYTES = true) ∧
    ((CSBK.regenerate data dataType).1 = true →
      (∀ i < 12, burstOctets (CSBK.regenerate data dataType).2 i = burstOctets data i) ∧
      CRC.checkCCITT162 (CSBK.maskCRC dataType (burstOctets (CSBK.regenerate data dataType).2))
        DMR_CSBK_LENGTH_BYTES = true ∧
      (CSBK.regenerate (CSBK.regenerate data dataType).2 dataType).1 = true ∧
      ∀ k < 264, readBit (CSBK.regenerate (CSBK.regenerate data dataType).2 dataType).2 k =
        readBit (CSBK.regenerate data dataType).2 k) ∧
    ((CSBK.regenerate data dataType).1 = false → (CSBK.regenerate data dataType).2 = data) := by
  have hoctets : ∀ i < 12, burstOctets (CSBK.regenerate data dataType).2 i = burstOctets data i :=
    fun i hi => CSBK.burstOctets_regenerate data dataType hi
  have hreturned (burst : Bytes) : (CSBK.regenerate burst dataType).1 = true ↔
      Verifies (csbkMask dataType) (burstOctets burst) := by
    rw [CSBK.regenerate_eq]
    split
    · next h => exact iff_of_true rfl h
    · next h => exact iff_of_false Bool.false_ne_true h
  rw [maskCRC_csbk, maskCRC_csbk]
  refine ⟨hreturned data, fun htrue => ?_, fun hfalse => ?_⟩
  · have hverifies := (hreturned data).mp htrue
    have hagain := (verifies_congr hoctets (csbkMask dataType)).mpr hverifies
    refine ⟨hoctets, hagain, (hreturned _).mpr hagain, fun k hk => ?_⟩
    rw [CSBK.regenerate_eq (CSBK.regenerate data dataType).2, if_pos hagain]
    have hwritten : (CSBK.regenerate data dataType).2 = BPTC19696.encode (burstOctets data) data := by
      rw [CSBK.regenerate_eq, if_pos hverifies]
    rw [hwritten] at hoctets ⊢
    exact readBit_encode_encode hoctets data hk
  · have hnot : ¬Verifies (csbkMask dataType) (burstOctets data) := fun h => by
      rw [(hreturned data).mpr h] at hfalse
      exact Bool.false_ne_true hfalse.symm
    rw [CSBK.regenerate_eq, if_neg hnot]

end Dmr

end DvmHost

import DvmHost.Common.Edac.Correctness.TrellisRepair
import DvmHost.Common.P25.Lc.Correctness.TrunkingAcceptance
import DvmHost.Common.P25.Lc.Tsbk.TSBKClasses

/-!
# `Common.P25.Lc.Tsbk.Correctness.BlockCarriage` — the word of a trunking message comes back

A class that writes a payload sums its fields into one word. Through the octets, the block, its check and the trellis
the factory reads that word again, with an object of the same class (`createTSBK_encode`). What the class makes of it
is `CodecSymmetry`'s matter.
-/

namespace DvmHost

open Lib Lib.Blocks

/-- The trellis decoder looks at 196 bits. -/
theorem Trellis.decode12_congr {data data' : Bytes} (h : ∀ k < 196, readBit data k = readBit data' k) (out : Bytes) :
    Trellis.decode12 data out = Trellis.decode12 data' out := by
  have hdibits : Trellis.deinterleave data = Trellis.deinterleave data' := by
    unfold Trellis.deinterleave
    refine scatter_congr (fun i hi => ?_) _
    have hlt := List.mem_range.mp hi
    rw [h _ (by omega), h _ (by omega)]
  unfold Trellis.decode12
  rw [hdibits]

namespace P25

/-! ## The block -/

/-- The twelve octets that `TSBK::encode` writes. -/
def TSBK.stamped (t : TSBK) (payload : Bytes) : Bytes :=
  let tsbk := memcpy (fun _ => 0x00) 2 payload (P25_TSBK_LENGTH_BYTES - 4)
  CRC.addCCITT162 (setByte (setByte (setByte tsbk 0 t.lco) 0 (t.lco ||| if t.lastBlock then 0x80 else 0x00)) 1 t.mfId)
    P25_TSBK_LENGTH_BYTES

theorem TSBK.encode_eq (t : TSBK) (data payload : Bytes) (rawTSBK noTrellis : Bool) :
    t.encode data payload rawTSBK noTrellis =
      if rawTSBK then
        if noTrellis then memcpy data 0 (t.stamped payload) P25_TSBK_LENGTH_BYTES
        else memcpy data 0 (Trellis.encode12 (t.stamped payload) fun _ => 0x00) P25_TSBK_FEC_LENGTH_BYTES
      else (P25Utils.encode (Trellis.encode12 (t.stamped payload) fun _ => 0x00) data 114 318).2 := by
  unfold TSBK.encode TSBK.stamped
  dsimp only
  rw [setByte_same]

theorem carried_tsbk : (P25Utils.carried 114 318).length = 198 := by decide +kernel

/-- **The octets come back**, raw or from the frame. -/
theorem TSBK.octets_encode (t : TSBK) (data payload : Bytes) {rawTSBK noTrellis : Bool}
    (hraw : rawTSBK = true → noTrellis = true) :
    ∃ tsbk, octets (t.encode data payload rawTSBK noTrellis) rawTSBK = some tsbk ∧
      ∀ i < 12, tsbk i = t.stamped payload i := by
  rw [TSBK.encode_eq]
  cases rawTSBK with
  | true =>
      rw [if_pos rfl, if_pos (hraw rfl)]
      refine ⟨_, rfl, fun i hi => ?_⟩
      unfold memcpy
      simp [hi]
  | false =>
      rw [if_neg Bool.false_ne_true]
      have hbits : ∀ k < 196, readBit (P25Utils.decode (P25Utils.encode
          (Trellis.encode12 (t.stamped payload) fun _ => 0x00) data 114 318).2 (fun _ => 0x00) 114 318).2 k =
            readBit (Trellis.encode12 (t.stamped payload) fun _ => 0x00) k := by
        intro k hk
        have hlen : k < (P25Utils.carried 114 318).length := by
          rw [carried_tsbk]
          omega
        rw [P25Utils.readBit_decode _ _ (by decide), if_pos hlen, P25Utils.readBit_encode _ _ (by decide) hlen]
      unfold octets
      rw [if_neg Bool.false_ne_true, Trellis.decode12_congr hbits]
      exact Trellis.decode12_clean _ _ _

/-- The octets of a block. -/
theorem TSBK.stamped_octets (t : TSBK) (payload : Bytes) :
    t.stamped payload 0 = t.lco ||| (if t.lastBlock then 0x80 else 0x00) ∧ t.stamped payload 1 = t.mfId ∧
      ∀ i < 8, t.stamped payload (2 + i) = payload i := by
  have hkept : ∀ i < 10, t.stamped payload i =
      setByte (setByte (setByte (memcpy (fun _ => 0x00) 2 payload (P25_TSBK_LENGTH_BYTES - 4)) 0 t.lco) 0
        (t.lco ||| if t.lastBlock then 0x80 else 0x00)) 1 t.mfId i :=
    fun i hi => CRC.addCCITT162_of_lt _ hi
  refine ⟨?_, ?_, fun i hi => ?_⟩
  · rw [hkept 0 (by decide), setByte_of_ne _ _ (by decide), setByte_same]
  · rw [hkept 1 (by decide), setByte_same]
  · rw [hkept _ (by omega), setByte_of_ne _ _ (by omega), setByte_of_ne _ _ (by omega), setByte_of_ne _ _ (by omega)]
    unfold memcpy
    rw [if_pos ⟨Nat.le_add_right 2 i, Nat.add_lt_add_left hi 2⟩, Nat.add_sub_cancel_left]

/-- The word of a payload depends on its eight octets only. -/
theorem TSBK.toValue_congr {payload payload' : Bytes} (h : ∀ i < 8, payload i = payload' i) :
    TSBK.toValue payload = TSBK.toValue payload' := by
  unfold TSBK.toValue
  simp (disch := decide) only [h]

/-- **The octets of a word are combined into it.** -/
theorem TSBK.toValue_fromValue (v : UInt64) : TSBK.toValue (TSBK.fromValue v) = v := by
  have hoctet : ∀ k : UInt64, k.toNat < 64 → (v >>> k &&& 0xFF).toUInt8.toNat = v.toNat / 2 ^ k.toNat % 256 := by
    intro k hk
    have h8 : ∀ n : Nat, n &&& 255 = n % 256 := fun n => Nat.and_two_pow_sub_one_eq_mod n 8
    simp [h8, Nat.shiftRight_eq_div_pow, Nat.mod_eq_of_lt hk]
  have hv := v.toNat_lt
  unfold TSBK.toValue TSBK.fromValue
  apply UInt64.toNat_inj.mp
  simp only [UInt64.toNat_add, UInt64.toNat_shiftLeft, UInt8.toNat_toUInt64]
  rw [hoctet _ (by decide), hoctet _ (by decide), hoctet _ (by decide), hoctet _ (by decide), hoctet _ (by decide),
    hoctet _ (by decide), hoctet _ (by decide), hoctet _ (by decide)]
  simp [Nat.shiftLeft_eq]
  omega

/-- The opcodes that have a class fit their six bits, and the flag of the last block does not show in them. -/
theorem lco_of_classOf {lco mfId : UInt8} {cls : TSBKClass} (h : TSBKFactory.classOf lco mfId = some cls)
    (lastBlock : Bool) : (lco ||| if lastBlock then 0x80 else 0x00) &&& 0x3F = lco ∧
      decide ((lco ||| if lastBlock then 0x80 else 0x00) &&& 0x80 = 0x80) = lastBlock := by
  have hall : ∀ b : BitVec 8, ∀ last : Bool, (TSBKFactory.standardClass (UInt8.ofBitVec b)).isSome ∨
      UInt8.ofBitVec b = LC_CALL_TERM → (UInt8.ofBitVec b ||| if last then 0x80 else 0x00) &&& 0x3F = UInt8.ofBitVec b ∧
        decide ((UInt8.ofBitVec b ||| if last then 0x80 else 0x00) &&& 0x80 = 0x80) = last := by
    decide +kernel
  refine hall lco.toBitVec lastBlock ?_
  unfold TSBKFactory.classOf at h
  split at h
  · exact nomatch h
  split at h
  · next hterm => exact .inr hterm.2
  · exact .inl (Option.isSome_iff_exists.mpr ⟨cls, h⟩)

/-- An object as the factory makes it for a received block, before its payload is read. -/
def TSBKObject.received (t : TSBKObject) : TSBKObject :=
  { t.cls.new with lco := t.lco, mfId := t.mfId, lastBlock := t.lastBlock }

/-- **The word comes back.** The factory makes an object of the class that wrote the block, and lets it read the word
    that the class wrote. -/
theorem createTSBK_encode (siteData : SiteData) {t : TSBKObject} {v : UInt64} (hv : t.encodeValue siteData = some v)
    (hcls : TSBKFactory.classOf t.lco t.mfId = some t.cls) (factoryWarnCRC warnCRC : Bool) (data : Bytes)
    {rawTSBK noTrellis : Bool} (hraw : rawTSBK = true → noTrellis = true) :
    ∃ payload, TSBK.toValue payload = v ∧
      TSBKFactory.createTSBK factoryWarnCRC warnCRC (t.encode siteData data rawTSBK noTrellis) rawTSBK =
        some (t.received.decodePayload payload) := by
  obtain ⟨tsbk, hoctets, hsame⟩ := t.toTSBK.octets_encode data (TSBK.fromValue v) hraw
  obtain ⟨h0, h1, hpayload⟩ := t.toTSBK.stamped_octets (TSBK.fromValue v)
  obtain ⟨hlco, hlast⟩ := lco_of_classOf hcls t.lastBlock
  have hcheck : CRC.checkCCITT162 tsbk P25_TSBK_LENGTH_BYTES = true := CRC.checkCCITT162_add (by decide) hsame
  have hencode : t.encode siteData data rawTSBK noTrellis =
      t.toTSBK.encode data (TSBK.fromValue v) rawTSBK noTrellis := by
    unfold TSBKObject.encode
    rw [hv]
  have hopcode : tsbk 0 &&& 0x3F = t.lco := by
    rw [hsame 0 (by decide), h0]
    exact hlco
  have hlastBlock : decide (tsbk 0 &&& 0x80 = 0x80) = t.lastBlock := by
    rw [hsame 0 (by decide), h0]
    exact hlast
  have hmfId : tsbk 1 = t.mfId := (hsame 1 (by decide)).trans h1
  refine ⟨memcpy (fun _ => 0x00) 0 (fun i => tsbk (2 + i)) (P25_TSBK_LENGTH_BYTES - 4), ?_, ?_⟩
  · rw [← TSBK.toValue_fromValue v]
    refine TSBK.toValue_congr fun i hi => ?_
    unfold memcpy
    rw [if_pos ⟨Nat.zero_le i, show i < 0 + 8 by omega⟩]
    show tsbk (2 + (i - 0)) = TSBK.fromValue v i
    rw [Nat.sub_zero, hsame _ (by omega), hpayload i hi]
  · have hblock : TSBKFactory.readBlock factoryWarnCRC (t.toTSBK.encode data (TSBK.fromValue v) rawTSBK noTrellis)
        rawTSBK = some tsbk := by
      unfold TSBK.octets at hoctets
      unfold TSBKFactory.readBlock
      cases rawTSBK with
      | true => exact hoctets
      | false =>
          rw [if_neg Bool.false_ne_true] at hoctets ⊢
          dsimp only
          rw [hoctets]
          dsimp only
          rw [hcheck]
          rfl
    have hdecode : t.cls.new.decode warnCRC (t.toTSBK.encode data (TSBK.fromValue v) rawTSBK noTrellis) rawTSBK =
        some (t.received.decodePayload (memcpy (fun _ => 0x00) 0 (fun i => tsbk (2 + i))
          (P25_TSBK_LENGTH_BYTES - 4))) := by
      have hread : t.cls.new.toTSBK.decode warnCRC (t.toTSBK.encode data (TSBK.fromValue v) rawTSBK noTrellis)
          (fun _ => 0x00) rawTSBK = (true, t.cls.new.toTSBK.readOctets tsbk fun _ => 0x00) := by
        unfold TSBK.octets at hoctets
        unfold TSBK.decode
        cases rawTSBK with
        | true => rw [← Option.some.inj hoctets]; rfl
        | false =>
            rw [if_neg Bool.false_ne_true] at hoctets ⊢
            dsimp only
            rw [hoctets]
            dsimp only
            rw [hcheck]
            rfl
      unfold TSBKObject.decode
      rw [hread]
      unfold TSBK.readOctets TSBKObject.received
      dsimp only
      rw [hopcode, hlastBlock, hmfId]
      rfl
    unfold TSBKFactory.createTSBK
    rw [hencode, hblock]
    simp only [Option.bind_eq_bind, Option.bind_some]
    rw [hopcode, hmfId, hcls]
    exact hdecode

end P25

end DvmHost

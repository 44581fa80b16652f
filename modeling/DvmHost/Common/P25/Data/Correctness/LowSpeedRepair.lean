import DvmHost.Common.P25.Data.LowSpeedData
import DvmHost.Lib.MinDistance

/-!
# `Common.P25.Data.Correctness.LowSpeedRepair` — which errors in low speed data are corrected

The codewords of an octet and its parity are a linear code of distance five, so within two flipped bits the word that
was sent is the nearest. `LowSpeedData::process` does not look for the nearest one: it takes the first in the order of
the octets with fewer than four other bits. A codeword of weight five around both flipped bits makes another word of
that kind, which is taken when its octet is the smaller one (`process_recovers`).
-/

namespace DvmHost

open Lib Lib.Gf2Division

namespace P25

namespace LowSpeedData

/-! ## The code -/

/-- The number of ones of an octet. -/
def ones (v : UInt8) : Nat := weight 8 v.toNat

/-- The number of bits in which two received octets are not the codeword of an octet. -/
def flips (a : UInt8) (w : Bytes) : Nat := ones (a ^^^ w 0) + ones (encodeByte a ^^^ w 1)

/-- The parities of the octets of one bit, the first bit in front. -/
def parityRows : List Nat := [0x4E, 0x27, 0x8F, 0xDB, 0xF1, 0xE4, 0x72, 0x39]

theorem encodeByte_eq (a : UInt8) : encodeByte a = UInt8.ofNat (MinDistance.combine parityRows (bitOf a)) := by
  have h : ∀ v : BitVec 8, encodeByte (UInt8.ofBitVec v) =
      UInt8.ofNat (MinDistance.combine parityRows (bitOf (UInt8.ofBitVec v))) := by decide +kernel
  exact h a.toBitVec

/-- **The table of parities is linear.** -/
theorem encodeByte_xor (a b : UInt8) : encodeByte (a ^^^ b) = encodeByte a ^^^ encodeByte b := by
  have hbits : bitOf (a ^^^ b) = fun i => bitOf a i ^^ bitOf b i := funext fun i => bitOf_xor a b i
  rw [encodeByte_eq, encodeByte_eq, encodeByte_eq, hbits, MinDistance.combine_xor, UInt8.ofNat_xor]

/-- Codewords other than zero have at least five ones. -/
theorem five_le_ones {d : UInt8} (hd : d ≠ 0) : 5 ≤ ones d + ones (encodeByte d) := by
  have h : ∀ v : BitVec 8, v ≠ 0 → 5 ≤ ones (UInt8.ofBitVec v) + ones (encodeByte (UInt8.ofBitVec v)) := by
    decide +kernel
  exact h d.toBitVec fun h0 => hd (UInt8.toBitVec_inj.mp h0)

-- no bound above five would do
example : ones 0x01 + ones (encodeByte 0x01) = 5 := by decide +kernel

theorem ones_xor_add (x y : UInt8) : ones (x ^^^ y) + 2 * ones (x &&& y) = ones x + ones y := by
  unfold ones
  rw [UInt8.toNat_xor, UInt8.toNat_and]
  exact weight_xor_add 8 x.toNat y.toNat

theorem ones_and_le (x y : UInt8) : ones (x &&& y) ≤ ones x := by
  unfold ones
  rw [UInt8.toNat_and]
  exact weight_and_le 8 x.toNat y.toNat

/-- How many of the flipped bits are ones of the codeword of `d`. -/
def covered (a : UInt8) (w : Bytes) (d : UInt8) : Nat :=
  ones ((a ^^^ w 0) &&& d) + ones ((encodeByte a ^^^ w 1) &&& encodeByte d)

/-- Both flipped bits are ones of a codeword of five ones, and the octet that this codeword leads to comes first. -/
def Misled (a : UInt8) (w : Bytes) : Prop :=
  ∃ d, a ^^^ d < a ∧ ones d + ones (encodeByte d) = 5 ∧ covered a w d = 2

/-- The distance of another codeword. -/
theorem flips_xor (a d : UInt8) (w : Bytes) :
    flips (a ^^^ d) w + 2 * covered a w d = flips a w + (ones d + ones (encodeByte d)) := by
  have hswap : ∀ x y z : UInt8, x ^^^ y ^^^ z = x ^^^ z ^^^ y := fun x y z => by
    rw [UInt8.xor_assoc, UInt8.xor_comm y z, ← UInt8.xor_assoc]
  have hdata := ones_xor_add (a ^^^ w 0) d
  have hparity := ones_xor_add (encodeByte a ^^^ w 1) (encodeByte d)
  unfold flips covered
  rw [encodeByte_xor, hswap a d, hswap (encodeByte a) (encodeByte d)]
  omega

/-- **Which other codewords are accepted** when at most two bits are flipped. -/
theorem flips_xor_lt_iff {a d : UInt8} {w : Bytes} (h : flips a w ≤ 2) (hd : d ≠ 0) :
    flips (a ^^^ d) w < MAX_CCS_ERRS ↔ ones d + ones (encodeByte d) = 5 ∧ covered a w d = 2 := by
  have hsum := flips_xor a d w
  have hfive := five_le_ones hd
  have hcover : covered a w d ≤ flips a w := Nat.add_le_add (ones_and_le _ _) (ones_and_le _ _)
  have hmax : MAX_CCS_ERRS = 4 := rfl
  omega

/-! ## The scan -/

/-- `compare` counts the flipped bits. -/
theorem compare_ccs (a : UInt8) (w : Bytes) : P25Utils.compare (ccs a) w 2 = flips a w := by
  have hones : ∀ v : UInt8, ((List.range 8).filter (bitOf v)).length = ones v := by
    intro v
    have h : ∀ v : BitVec 8, ((List.range 8).filter (bitOf (UInt8.ofBitVec v))).length = ones (UInt8.ofBitVec v) := by
      decide +kernel
    exact h v.toBitVec
  have hturns : P25Utils.compare (ccs a) w 2 =
      P25Utils.countErrs (encodeByte a ^^^ w 1) (P25Utils.countErrs (a ^^^ w 0) 0) := rfl
  rw [hturns, P25Utils.countErrs_eq, P25Utils.countErrs_eq, hones, hones, Nat.zero_add]
  rfl

/-- The octet that a loop of `process` finds. -/
def scan (w : Bytes) : Option Nat :=
  (List.range 0x100).find? fun a => P25Utils.compare (ccs (UInt8.ofNat a)) w 2 < MAX_CCS_ERRS

theorem correct_of_scan {lsd : Bytes} {off a : Nat} (h : scan (fromByte off lsd) = some a) :
    correct lsd off =
      setByte (setByte lsd (off + 0) (UInt8.ofNat a)) (off + 1) (encodeByte (UInt8.ofNat a)) := by
  unfold scan at h
  unfold correct
  rw [h]
  rfl

/-- **What is found.** With at most two bits flipped some octet is, and it is the one that was sent unless the scan is
    misled. -/
theorem scan_spec {a : UInt8} {w : Bytes} (h : flips a w ≤ 2) :
    ∃ b : UInt8, scan w = some b.toNat ∧ (b = a ↔ ¬ Misled a w) := by
  have htest : ∀ b : UInt8, (P25Utils.compare (ccs (UInt8.ofNat b.toNat)) w 2 < MAX_CCS_ERRS ↔
      flips b w < MAX_CCS_ERRS) := fun b => by rw [UInt8.ofNat_toNat, compare_ccs]
  have hself : flips a w < MAX_CCS_ERRS := Nat.lt_of_le_of_lt h (by decide)
  have hsome : scan w ≠ none := by
    unfold scan
    intro hnone
    have hno := List.find?_range_eq_none.mp hnone a.toNat a.toNat_lt
    rw [decide_eq_true ((htest a).mpr hself)] at hno
    exact absurd hno (by decide)
  obtain ⟨n, hn⟩ := Option.ne_none_iff_exists'.mp hsome
  unfold scan at hn
  obtain ⟨haccept, hmem, hfirst⟩ := List.find?_range_eq_some.mp hn
  have hlt := List.mem_range.mp hmem
  have hnat : (UInt8.ofNat n).toNat = n := by
    rw [UInt8.toNat_ofNat']
    exact Nat.mod_eq_of_lt hlt
  refine ⟨UInt8.ofNat n, hn.trans (by rw [hnat]), ?_⟩
  -- an octet in front of the one sent is taken exactly when its codeword is near enough
  constructor
  · rintro rfl ⟨d, hless, hweight, hcover⟩
    have hd : d ≠ 0 := by
      rintro rfl
      rw [UInt8.xor_zero] at hless
      exact absurd hless (UInt8.lt_irrefl _)
    have hnear := (flips_xor_lt_iff h hd).mpr ⟨hweight, hcover⟩
    have hlow := UInt8.lt_iff_toNat_lt.mp hless
    rw [hnat] at hlow
    have hno := hfirst (UInt8.ofNat n ^^^ d).toNat hlow
    rw [decide_eq_true ((htest _).mpr hnear)] at hno
    exact absurd hno (by decide)
  · intro hclear
    by_contra hne
    have hle : n ≤ a.toNat := by
      by_contra hgt
      have hno := hfirst a.toNat (Nat.not_le.mp hgt)
      rw [decide_eq_true ((htest a).mpr hself)] at hno
      exact absurd hno (by decide)
    have hless : UInt8.ofNat n < a := by
      rw [UInt8.lt_iff_toNat_lt, hnat]
      refine Nat.lt_of_le_of_ne hle fun he => hne ?_
      rw [he, UInt8.ofNat_toNat]
    have hback : a ^^^ (a ^^^ UInt8.ofNat n) = UInt8.ofNat n := by
      rw [← UInt8.xor_assoc, UInt8.xor_self, UInt8.zero_xor]
    have hd : a ^^^ UInt8.ofNat n ≠ 0 := by
      intro hz
      rw [hz, UInt8.xor_zero] at hback
      exact hne hback.symm
    have hnear : flips (a ^^^ (a ^^^ UInt8.ofNat n)) w < MAX_CCS_ERRS := by
      rw [hback, ← compare_ccs]
      exact of_decide_eq_true haccept
    obtain ⟨hweight, hcover⟩ := (flips_xor_lt_iff h hd).mp hnear
    exact hclear ⟨a ^^^ UInt8.ofNat n, by rw [hback]; exact hless, hweight, hcover⟩

/-! ## Frames -/

/-- The four octets that `process` takes out of a frame. -/
def received (data : Bytes) : Bytes := (P25Utils.decode data (fun _ => 0) 1546 1578).2

/-- The four octets that `encode` lays into a frame. -/
def sent (s : LowSpeedData) : Bytes := fun i =>
  if i = 0 then s.lsd1 else if i = 1 then encodeByte s.lsd1 else if i = 2 then s.lsd2
  else if i = 3 then encodeByte s.lsd2 else 0

theorem region_carries : 1546 % 72 ≠ 71 ∧ (P25Utils.carried 1546 1578).length = 32 := by decide

theorem readBit_of_octets {a b : Bytes} (h : ∀ i < 4, a i = b i) {k : Nat} (hk : k < 32) :
    readBit a k = readBit b k := by
  rw [readBit_eq, readBit_eq, h (k / 8) (by omega)]

/-- Four octets that are laid into a frame are taken out again. -/
theorem received_encode (w data : Bytes) {i : Nat} (hi : i < 4) :
    received (P25Utils.encode w data 1546 1578).2 i = w i := by
  obtain ⟨hstart, hlen⟩ := region_carries
  refine byte_ext fun j hj => ?_
  have hbit : readBit (received (P25Utils.encode w data 1546 1578).2) (8 * i + j) = readBit w (8 * i + j) := by
    have hk : 8 * i + j < (P25Utils.carried 1546 1578).length := by omega
    unfold received
    rw [P25Utils.readBit_decode _ _ hstart, if_pos hk, P25Utils.readBit_encode _ _ hstart hk]
  rw [readBit_octet _ i hj, readBit_octet _ i hj] at hbit
  exact hbit

theorem encode_eq (s : LowSpeedData) (data : Bytes) : s.encode data = (P25Utils.encode s.sent data 1546 1578).2 := by
  obtain ⟨hstart, hlen⟩ := region_carries
  refine congrArg Prod.snd (P25Utils.encode_congr data hstart fun k hk => readBit_of_octets (fun i hi => ?_) (by omega))
  have hi4 : i = 0 ∨ i = 1 ∨ i = 2 ∨ i = 3 := by omega
  rcases hi4 with rfl | rfl | rfl | rfl <;> rfl

/-- **What `process` makes of a frame**: the octets that are found, and their codewords in the frame. -/
theorem process_of_scan {data : Bytes} {a b : UInt8} (ha : scan (received data) = some a.toNat)
    (hb : scan (fromByte 2 (received data)) = some b.toNat) : process data = (⟨a, b⟩, encode ⟨a, b⟩ data) := by
  obtain ⟨hstart, hlen⟩ := region_carries
  unfold process
  dsimp only
  rw [show (P25Utils.decode data (fun _ => 0) 1546 1578).2 = received data from rfl]
  generalize received data = w at ha hb
  have hzero : fromByte 0 w = w := by
    funext i
    unfold fromByte
    rw [Nat.zero_add]
  have hfirst : correct w 0 = setByte (setByte w 0 a) 1 (encodeByte a) := by
    rw [correct_of_scan (hzero.symm ▸ ha), UInt8.ofNat_toNat]
  have htail : fromByte 2 (correct w 0) = fromByte 2 w := by
    rw [hfirst]
    funext i
    unfold fromByte setByte
    rw [if_neg (by omega), if_neg (by omega)]
  have hsecond : correct (correct w 0) 2 = setByte (setByte (correct w 0) 2 b) 3 (encodeByte b) := by
    rw [correct_of_scan (htail.symm ▸ hb), UInt8.ofNat_toNat]
  have hoctets : ∀ i < 4, correct (correct w 0) 2 i = sent ⟨a, b⟩ i := by
    intro i hi
    rw [hsecond, hfirst]
    have hi4 : i = 0 ∨ i = 1 ∨ i = 2 ∨ i = 3 := by omega
    rcases hi4 with rfl | rfl | rfl | rfl <;> rfl
  rw [hoctets 0 (by decide), hoctets 2 (by decide), encode_eq]
  refine congrArg (Prod.mk _) (congrArg Prod.snd (P25Utils.encode_congr data hstart fun k hk => ?_))
  exact readBit_of_octets hoctets (by omega)

/-- Nothing is found in front of a codeword that was not disturbed. -/
theorem not_misled_of_clean {a : UInt8} {w : Bytes} (h : flips a w = 0) : ¬ Misled a w := by
  rintro ⟨d, -, -, hcover⟩
  have hle : covered a w d ≤ flips a w := Nat.add_le_add (ones_and_le _ _) (ones_and_le _ _)
  omega

theorem flips_codeword {a : UInt8} {w : Bytes} (h0 : w 0 = a) (h1 : w 1 = encodeByte a) : flips a w = 0 := by
  unfold flips
  rw [h0, h1, UInt8.xor_self, UInt8.xor_self]
  rfl

/-- **Low speed data through noise.** A frame in which at most two bits of each codeword are flipped is corrected, the
    octets recovered and their codewords written back, if and only if neither scan is misled; a frame without errors
    always is, and stays as it is. -/
theorem process_recovers (s : LowSpeedData) (data : Bytes) (h1 : flips s.lsd1 (received data) ≤ 2)
    (h2 : flips s.lsd2 (fromByte 2 (received data)) ≤ 2) :
    (process data = (s, s.encode data) ↔
      ¬ Misled s.lsd1 (received data) ∧ ¬ Misled s.lsd2 (fromByte 2 (received data))) ∧
    ∀ ldu, process (s.encode ldu) = (s, s.encode ldu) := by
  constructor
  · obtain ⟨a, ha, hright1⟩ := scan_spec h1
    obtain ⟨b, hb, hright2⟩ := scan_spec h2
    rw [process_of_scan ha hb, ← hright1, ← hright2]
    constructor
    · intro h
      have hmembers := congrArg Prod.fst h
      exact ⟨congrArg lsd1 hmembers, congrArg lsd2 hmembers⟩
    · rintro ⟨rfl, rfl⟩
      rfl
  · intro ldu
    have hclean1 : flips s.lsd1 (received (s.encode ldu)) = 0 := by
      rw [encode_eq]
      exact flips_codeword (received_encode _ _ (by decide)) (received_encode _ _ (by decide))
    have hclean2 : flips s.lsd2 (fromByte 2 (received (s.encode ldu))) = 0 := by
      rw [encode_eq]
      exact flips_codeword (received_encode _ _ (by decide)) (received_encode _ _ (by decide))
    obtain ⟨a, ha, hright1⟩ := scan_spec (hclean1.trans_le (by decide))
    obtain ⟨b, hb, hright2⟩ := scan_spec (hclean2.trans_le (by decide))
    obtain rfl := hright1.mpr (not_misled_of_clean hclean1)
    obtain rfl := hright2.mpr (not_misled_of_clean hclean2)
    rw [process_of_scan ha hb]
    refine congrArg (Prod.mk s) ?_
    rw [encode_eq, encode_eq]
    exact P25Utils.encode_encode _ _ region_carries.1

/-- An LDU of zeros but for four octets of low speed data. -/
def noisyLDU (w0 w1 w2 w3 : UInt8) : Bytes :=
  (P25Utils.encode (fun i => [w0, w1, w2, w3].getD i 0) (fun _ => 0) 1546 1578).2

/-- One flipped bit in each codeword, of 0x01 and of 0x7F. -/
theorem process_recovers_one_flip :
    (process (noisyLDU 0x01 0x38 0x7F 0x2C) =
        (⟨0x01, 0x7F⟩, encode ⟨0x01, 0x7F⟩ (noisyLDU 0x01 0x38 0x7F 0x2C)) ↔
      ¬ Misled 0x01 (received (noisyLDU 0x01 0x38 0x7F 0x2C)) ∧
        ¬ Misled 0x7F (fromByte 2 (received (noisyLDU 0x01 0x38 0x7F 0x2C)))) ∧
    ∀ ldu, process (encode ⟨0x01, 0x7F⟩ ldu) = (⟨0x01, 0x7F⟩, encode ⟨0x01, 0x7F⟩ ldu) := by
  apply process_recovers ⟨0x01, 0x7F⟩
  · unfold flips noisyLDU
    rw [received_encode _ _ (by decide), received_encode _ _ (by decide)]
    decide
  · unfold flips noisyLDU fromByte
    rw [received_encode _ _ (by decide), received_encode _ _ (by decide)]
    decide

/-- Two flipped bits in the parity of 0x01: the codeword of 0x00 has three other bits and comes first. -/
theorem not_recovered :
    flips 0x01 (received (noisyLDU 0x01 0x30 0x00 0x00)) = 2 ∧
      flips 0x00 (fromByte 2 (received (noisyLDU 0x01 0x30 0x00 0x00))) = 0 ∧
      process (noisyLDU 0x01 0x30 0x00 0x00) ≠
        (⟨0x01, 0x00⟩, encode ⟨0x01, 0x00⟩ (noisyLDU 0x01 0x30 0x00 0x00)) := by
  have hoctet : ∀ i < 4, received (noisyLDU 0x01 0x30 0x00 0x00) i = [0x01, 0x30, 0x00, 0x00].getD i 0 :=
    fun i hi => received_encode _ _ hi
  have h1 : flips 0x01 (received (noisyLDU 0x01 0x30 0x00 0x00)) = 2 := by
    unfold flips
    rw [hoctet 0 (by decide), hoctet 1 (by decide)]
    decide
  have h2 : flips 0x00 (fromByte 2 (received (noisyLDU 0x01 0x30 0x00 0x00))) = 0 := by
    unfold flips fromByte
    rw [hoctet 2 (by decide), hoctet 3 (by decide)]
    decide
  refine ⟨h1, h2, fun hrecovered => ?_⟩
  obtain ⟨a, ha, hright⟩ := scan_spec (Nat.le_of_eq h1)
  obtain ⟨b, hb, -⟩ := scan_spec (h2.trans_le (by decide))
  rw [process_of_scan ha hb] at hrecovered
  apply hright.mp (congrArg lsd1 (congrArg Prod.fst hrecovered))
  refine ⟨0x01, by decide, by decide, ?_⟩
  unfold covered
  rw [hoctet 0 (by decide), hoctet 1 (by decide)]
  decide

end LowSpeedData

end P25

end DvmHost

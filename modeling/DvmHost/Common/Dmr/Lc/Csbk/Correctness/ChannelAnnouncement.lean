import DvmHost.Common.Dmr.Lc.Csbk.CSBKBroadcast
import DvmHost.Common.Dmr.Lc.Csbk.Correctness.BurstCarriage

/-!
# `Common.Dmr.Lc.Csbk.Correctness.ChannelAnnouncement` — the frequencies that a site announces

An announcement of a channel has ten bits for the MHz of each of the two frequencies and thirteen for the rest, in steps
of 125 Hz. The code fills the thirteen with the rest in Hz, under masks that are one bit wider than the fields, and takes
the rest from a number of MHz that was rounded before it was cut. A frequency comes back (`announces_iff`) only where the
rest is nothing, or 512 kHz: there the bits above the mask that are lost are the right ones to lose.
-/

namespace DvmHost

open Lib Words

namespace Dmr

namespace CSBK_BROADCAST

/-! ## What an announcement says -/

/-- The `w` bits above bit `n`. -/
def field (v : UInt64) (n w : Nat) : Nat := v.toNat / 2 ^ n % 2 ^ w

/-- The word in a burst. -/
def announcement (burst : Bytes) : UInt64 := CSBK.toValue (fromByte 2 (burstOctets burst))

/-- The transmit frequency of the logical channel in Hz, in the 32 bits of the code. -/
def txHz (chSpaceHz : Nat) (c : CSBK_BROADCAST) : Nat :=
  (c.siteIdenEntry.baseFrequency.toNat + chSpaceHz / 125 * 125 * c.logicalCh1.toNat) % 2 ^ 32

/-- The receive frequency. -/
def rxHz (chSpaceHz : Nat) (txOffsetHz : Int) (c : CSBK_BROADCAST) : Int := txHz chSpaceHz c + txOffsetHz

/-- A frequency of `hz`, computed as `f`, is carried by the MHz at one place of the word and the steps at another. -/
structure Carries (v : UInt64) (mhzAt stepsAt : Nat) (f : UInt32) (hz : Int) : Prop where
  noWrap : (freqMhz f).toNat * 1000000 ≤ f.toNat
  mhzFits : (freqMhz f &&& 0x7FF).toNat < 2 ^ 10
  stepsFit : (freqKhz f &&& 0x3FFF).toNat < 2 ^ 13
  mhz : field v mhzAt 10 = (freqMhz f &&& 0x7FF).toNat
  steps : field v stepsAt 13 = (freqKhz f &&& 0x3FFF).toNat
  recombines : ((field v mhzAt 10 * 1000000 + field v stepsAt 13 * 125 : Nat) : Int) = hz

/-- The word is an announcement of the channel with both of its frequencies. -/
structure Announces (v : UInt64) (chSpaceHz : Nat) (txOffsetHz : Int) (c : CSBK_BROADCAST) : Prop where
  reserved : field v 58 6 = 0
  channel : field v 46 12 = (c.logicalCh1 &&& 0xFFF).toNat
  tx : Carries v 36 23 (txFrequency chSpaceHz c) (txHz chSpaceHz c)
  rx : Carries v 13 0 (rxFrequency chSpaceHz txOffsetHz c) (rxHz chSpaceHz txOffsetHz c)

/-- The frequencies that come back. -/
def OnGrid (hz : Int) : Prop := hz % 1000000 = 0 ∨ hz % 1000000 = 512000

instance (hz : Int) : Decidable (OnGrid hz) := inferInstanceAs (Decidable (_ ∨ _))

/-! ## The frequencies -/

theorem toNat_txFrequency (chSpaceHz : Nat) (c : CSBK_BROADCAST) :
    (txFrequency chSpaceHz c).toNat = txHz chSpaceHz c := by
  unfold txFrequency txHz calcSpace
  rw [UInt32.toNat_add, UInt32.toNat_mul, UInt32.toNat_mul, UInt16.toNat_toUInt32, UInt32.toNat_ofNat',
    show (125 : UInt32).toNat = 125 from rfl]
  simp only [Nat.mod_mul_mod, Nat.add_mod_mod]

theorem toNat_rxFrequency {chSpaceHz : Nat} {txOffsetHz : Int} {c : CSBK_BROADCAST}
    (hpos : 0 ≤ rxHz chSpaceHz txOffsetHz c) (hlt : rxHz chSpaceHz txOffsetHz c < 1024000000) :
    ((rxFrequency chSpaceHz txOffsetHz c).toNat : Int) = rxHz chSpaceHz txOffsetHz c := by
  have hsum : rxSum chSpaceHz txOffsetHz c = rxHz chSpaceHz txOffsetHz c := by
    unfold rxSum rxHz
    rw [toNat_txFrequency]
  unfold rxFrequency
  rw [hsum, UInt32.toNat_ofNat']
  omega

section Parts

variable {f : UInt32}

/-- The rounding adds half a multiple before the cut. -/
theorem toNat_freqMhz (hf : f.toNat < 1024000000) : (freqMhz f).toNat = (f.toNat + 50000) / 1000000 := by
  have hround : (f + multiple / 2).toNat = f.toNat + 50000 := by
    rw [UInt32.toNat_add, show (multiple / 2).toNat = 50000 from rfl]
    omega
  have hmod : ((f + multiple / 2) % multiple).toNat = (f.toNat + 50000) % 100000 := by
    rw [UInt32.toNat_mod, hround, show multiple.toNat = 100000 from rfl]
  have hle : (f + multiple / 2) % multiple ≤ f + multiple / 2 := by
    rw [UInt32.le_iff_toNat_le, hmod, hround]
    exact Nat.mod_le _ _
  unfold freqMhz
  rw [UInt32.toNat_div, UInt32.toNat_sub_of_le _ _ hle, hmod, hround, show (multiple * 10).toNat = 1000000 from rfl]
  omega

/-- The rest in Hz, or what an unsigned subtraction leaves of a negative one. -/
theorem toNat_freqKhz (hf : f.toNat < 1024000000) :
    (freqKhz f).toNat = (2 ^ 32 - (f.toNat + 50000) / 1000000 * 1000000 + f.toNat) % 2 ^ 32 := by
  have hmhz : (freqMhz f * 1000000).toNat = (f.toNat + 50000) / 1000000 * 1000000 := by
    rw [UInt32.toNat_mul, toNat_freqMhz hf, show (1000000 : UInt32).toNat = 1000000 from rfl]
    omega
  unfold freqKhz
  rw [UInt32.toNat_sub, hmhz]

/-- A rest that is `125` times its own low bits. -/
theorem steps_of_cut {r : Nat} (hr : r < 1000000) (hcut : r % 2 ^ 14 * 125 = r) : r = 0 ∨ r = 512000 := by
  have hsplit : r = 2 ^ 14 * (r / 2 ^ 14) + r % 2 ^ 14 := (Nat.div_add_mod r (2 ^ 14)).symm
  generalize r % 2 ^ 14 = q at *
  generalize r / 2 ^ 14 = k at *
  have hbalance : 31 * q = 4096 * k := by omega
  have hk : k % 31 = 0 := by omega
  have hkLt : k < 62 := by omega
  have hcases : k = 0 ∨ k = 31 := by omega
  rcases hcases with rfl | rfl
  · left
    omega
  · right
    omega

/-- The parts of `M` MHz and `r` Hz: rounding carries to the next MHz from 950 kHz on. -/
theorem parts_iff {M r : Nat} (hM : M < 1024) (hr : r < 1000000) :
    ((M * 1000000 + r + 50000) / 1000000 * 1000000 ≤ M * 1000000 + r ∧
        (M * 1000000 + r + 50000) / 1000000 % 2 ^ 11 < 2 ^ 10 ∧
        (2 ^ 32 - (M * 1000000 + r + 50000) / 1000000 * 1000000 + (M * 1000000 + r)) % 2 ^ 32 % 2 ^ 14 < 2 ^ 13 ∧
        (M * 1000000 + r + 50000) / 1000000 % 2 ^ 11 * 1000000 +
          (2 ^ 32 - (M * 1000000 + r + 50000) / 1000000 * 1000000 + (M * 1000000 + r)) % 2 ^ 32 % 2 ^ 14 * 125 =
            M * 1000000 + r) ↔
      r = 0 ∨ r = 512000 := by
  by_cases hcarry : r < 950000
  · have hmhz : (M * 1000000 + r + 50000) / 1000000 = M := by omega
    have hrest : (2 ^ 32 - M * 1000000 + (M * 1000000 + r)) % 2 ^ 32 = r := by omega
    have hmod : M % 2 ^ 11 = M := Nat.mod_eq_of_lt (by omega)
    rw [hmhz, hrest, hmod]
    constructor
    · rintro ⟨-, -, -, hsum⟩
      exact steps_of_cut hr (by omega)
    · rintro (rfl | rfl)
      · refine ⟨?_, ?_, ?_, ?_⟩ <;> omega
      · refine ⟨?_, ?_, ?_, ?_⟩ <;> omega
  · have hmhz : (M * 1000000 + r + 50000) / 1000000 = M + 1 := by omega
    rw [hmhz]
    constructor
    · rintro ⟨hwrap, -, -, -⟩
      omega
    · intro h
      omega

/-- **The parts of a frequency** recombine only on the grid. -/
theorem recombines_iff (hf : f.toNat < 1024000000) :
    ((freqMhz f).toNat * 1000000 ≤ f.toNat ∧ (freqMhz f &&& 0x7FF).toNat < 2 ^ 10 ∧
        (freqKhz f &&& 0x3FFF).toNat < 2 ^ 13 ∧
        (freqMhz f &&& 0x7FF).toNat * 1000000 + (freqKhz f &&& 0x3FFF).toNat * 125 = f.toNat) ↔
      OnGrid f.toNat := by
  have hmhz : (freqMhz f &&& 0x7FF).toNat = (f.toNat + 50000) / 1000000 % 2 ^ 11 := by
    rw [UInt32.toNat_and, toNat_freqMhz hf, show (0x7FF : UInt32).toNat = 2 ^ 11 - 1 from rfl,
      Nat.and_two_pow_sub_one_eq_mod]
  have hkhz : (freqKhz f &&& 0x3FFF).toNat =
      (2 ^ 32 - (f.toNat + 50000) / 1000000 * 1000000 + f.toNat) % 2 ^ 32 % 2 ^ 14 := by
    rw [UInt32.toNat_and, toNat_freqKhz hf, show (0x3FFF : UInt32).toNat = 2 ^ 14 - 1 from rfl,
      Nat.and_two_pow_sub_one_eq_mod]
  have hsplit : f.toNat = f.toNat / 1000000 * 1000000 + f.toNat % 1000000 := (Nat.div_add_mod' _ _).symm
  have hgrid : OnGrid f.toNat ↔ f.toNat % 1000000 = 0 ∨ f.toNat % 1000000 = 512000 := by
    unfold OnGrid
    norm_cast
  have hM : f.toNat / 1000000 < 1024 := by omega
  rw [hmhz, hkhz, toNat_freqMhz hf, hgrid, ← parts_iff hM (Nat.mod_lt f.toNat (by decide)), ← hsplit]

end Parts

/-! ## The word -/

theorem toNat_chanFreq (chSpaceHz : Nat) (txOffsetHz : Int) (c : CSBK_BROADCAST) :
    (chanFreq chSpaceHz txOffsetHz c).toNat =
      (c.logicalCh1 &&& 0xFFF).toNat * 2 ^ 46 + (freqMhz (txFrequency chSpaceHz c) &&& 0x7FF).toNat * 2 ^ 36 +
        (freqKhz (txFrequency chSpaceHz c) &&& 0x3FFF).toNat * 2 ^ 23 +
          (freqMhz (rxFrequency chSpaceHz txOffsetHz c) &&& 0x7FF).toNat * 2 ^ 13 +
            (freqKhz (rxFrequency chSpaceHz txOffsetHz c) &&& 0x3FFF).toNat := by
  have hmask : ∀ (x m : UInt32), (x &&& m).toNat ≤ m.toNat := fun x m => by
    rw [UInt32.toNat_and]
    exact Nat.and_le_right
  have hchannel : (c.logicalCh1 &&& 0xFFF).toNat ≤ 0xFFF := by
    rw [UInt16.toNat_and]
    exact Nat.and_le_right
  have htxMhz := hmask (freqMhz (txFrequency chSpaceHz c)) 0x7FF
  have htxKhz := hmask (freqKhz (txFrequency chSpaceHz c)) 0x3FFF
  have hrxMhz := hmask (freqMhz (rxFrequency chSpaceHz txOffsetHz c)) 0x7FF
  have hrxKhz := hmask (freqKhz (rxFrequency chSpaceHz txOffsetHz c)) 0x3FFF
  unfold chanFreq
  simp (disch := decide) only [toNat_shift_add, UInt16.toNat_toUInt64, UInt32.toNat_toUInt64]
  simp only [UInt64.reduceToNat, UInt32.reduceToNat] at *
  omega

/-- Summands that fit their fields are the fields. -/
theorem field_of_parts {v : UInt64} {a b c d e : Nat}
    (hv : v.toNat = a * 2 ^ 46 + b * 2 ^ 36 + c * 2 ^ 23 + d * 2 ^ 13 + e) (ha : a < 2 ^ 12) (hb : b < 2 ^ 10)
    (hc : c < 2 ^ 13) (hd : d < 2 ^ 10) (he : e < 2 ^ 13) :
    field v 58 6 = 0 ∧ field v 46 12 = a ∧ field v 36 10 = b ∧ field v 23 13 = c ∧ field v 13 10 = d ∧
      field v 0 13 = e := by
  unfold field
  have h58 : v.toNat / 2 ^ 58 = 0 := by omega
  have h46 : v.toNat / 2 ^ 46 = a := by omega
  have h36 : v.toNat / 2 ^ 36 = a * 2 ^ 10 + b := by omega
  have h23 : v.toNat / 2 ^ 23 = (a * 2 ^ 10 + b) * 2 ^ 13 + c := by omega
  have h13 : v.toNat / 2 ^ 13 = ((a * 2 ^ 10 + b) * 2 ^ 13 + c) * 2 ^ 10 + d := by omega
  rw [h58, h46, h36, h23, h13]
  refine ⟨?_, ?_, ?_, ?_, ?_, ?_⟩ <;> omega

/-- The word comes back from the burst. -/
theorem announcement_encode (siteData : SiteData) (chSpaceHz : Nat) (txOffsetHz : Int) (c : CSBK_BROADCAST)
    (data : Bytes) :
    announcement (c.encode siteData chSpaceHz txOffsetHz data) = c.encodeValue siteData chSpaceHz txOffsetHz := by
  obtain ⟨-, -, hpayload⟩ := c.toCSBK.stamped_octets (CSBK.fromValue (c.encodeValue siteData chSpaceHz txOffsetHz))
  rw [← CSBK.toValue_fromValue (c.encodeValue siteData chSpaceHz txOffsetHz)]
  refine CSBK.toValue_congr fun i hi => ?_
  unfold fromByte encode
  rw [c.toCSBK.burstOctets_encode data _ (by omega), addMask_of_lt _ _ (by omega)]
  exact hpayload i hi

/-- **What a site announces.** With both frequencies below 1024 MHz the announcement of a channel carries them if and
    only if each is a whole number of MHz, or 512 kHz above one. -/
theorem announces_iff (siteData : SiteData) (chSpaceHz : Nat) (txOffsetHz : Int) (c : CSBK_BROADCAST)
    (hannc : c.anncType = BCAST_ANNC_CHAN_FREQ) (htx : txHz chSpaceHz c < 1024000000)
    (hpos : 0 ≤ rxHz chSpaceHz txOffsetHz c) (hrx : rxHz chSpaceHz txOffsetHz c < 1024000000) (data : Bytes) :
    Announces (announcement (c.encode siteData chSpaceHz txOffsetHz data)) chSpaceHz txOffsetHz c ↔
      OnGrid (txHz chSpaceHz c) ∧ OnGrid (rxHz chSpaceHz txOffsetHz c) := by
  have htxNat := toNat_txFrequency chSpaceHz c
  have hrxNat := toNat_rxFrequency hpos hrx
  have htxParts := recombines_iff (f := txFrequency chSpaceHz c) (by omega)
  have hrxParts := recombines_iff (f := rxFrequency chSpaceHz txOffsetHz c) (by omega)
  have hword : announcement (c.encode siteData chSpaceHz txOffsetHz data) = chanFreq chSpaceHz txOffsetHz c := by
    rw [announcement_encode]
    unfold encodeValue
    rw [hannc]
    rfl
  have hsum := toNat_chanFreq chSpaceHz txOffsetHz c
  have hchannel : (c.logicalCh1 &&& 0xFFF).toNat ≤ 0xFFF := by
    rw [UInt16.toNat_and]
    exact Nat.and_le_right
  rw [htxNat] at htxParts
  rw [hrxNat] at hrxParts
  rw [hword, ← htxParts, ← hrxParts]
  constructor
  · rintro ⟨-, -, tx, rx⟩
    have htxSum := tx.recombines
    have hrxSum := rx.recombines
    rw [tx.mhz, tx.steps] at htxSum
    rw [rx.mhz, rx.steps] at hrxSum
    refine ⟨⟨htxNat ▸ tx.noWrap, tx.mhzFits, tx.stepsFit, by omega⟩, rx.noWrap, rx.mhzFits, rx.stepsFit, by omega⟩
  · rintro ⟨⟨htxWrap, htxMhz, htxSteps, htxSum⟩, hrxWrap, hrxMhz, hrxSteps, hrxSum⟩
    -- every summand fits its field, so that no field sees another
    obtain ⟨hreserved, hchannelAt, htxMhzAt, htxStepsAt, hrxMhzAt, hrxStepsAt⟩ :=
      field_of_parts hsum (by omega) htxMhz htxSteps hrxMhz hrxSteps
    refine ⟨hreserved, hchannelAt, ⟨htxNat ▸ htxWrap, htxMhz, htxSteps, htxMhzAt, htxStepsAt, ?_⟩,
      hrxWrap, hrxMhz, hrxSteps, hrxMhzAt, hrxStepsAt, ?_⟩
    · rw [htxMhzAt, htxStepsAt]
      omega
    · rw [hrxMhzAt, hrxStepsAt]
      omega

/-- A channel of a band plan. -/
def channelOf (baseFrequency : UInt32) (logicalCh1 : UInt16) : CSBK_BROADCAST :=
  { new with anncType := BCAST_ANNC_CHAN_FREQ, siteIdenEntry := ⟨0, baseFrequency, 0, 0, 0⟩, logicalCh1 }

/-- The first channel above 851 MHz in a raster of 512 kHz is announced. -/
theorem announces_iff_raster :
    Announces (announcement ((channelOf 851000000 1).encode SiteData.new 512000 (-45000000) fun _ => 0x00)) 512000
      (-45000000) (channelOf 851000000 1) := by
  refine (announces_iff SiteData.new 512000 (-45000000) (channelOf 851000000 1) rfl ?_ ?_ ?_ fun _ => 0x00).mpr ⟨?_, ?_⟩
  · decide
  · decide
  · decide
  · decide
  · decide

/-- The one in a raster of 12.5 kHz is not: the rest of 12500 Hz does not fit thirteen bits. -/
theorem announces_broken : txHz 12500 (channelOf 851000000 1) = 851012500 ∧
    rxHz 12500 (-45000000) (channelOf 851000000 1) = 806012500 ∧
    ¬ Announces (announcement ((channelOf 851000000 1).encode SiteData.new 12500 (-45000000) fun _ => 0x00)) 12500
      (-45000000) (channelOf 851000000 1) := by
  refine ⟨by decide, by decide, fun h => ?_⟩
  exact absurd h.tx.stepsFit (by decide)

end CSBK_BROADCAST

end Dmr

end DvmHost

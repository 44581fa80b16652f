import DvmHost.Common.Dmr.Data.EMB
import DvmHost.Common.Dmr.SlotType
import DvmHost.Common.Edac.Correctness.ShortCodeRepair
import DvmHost.Common.Edac.Correctness.VoiceFixpoint
import DvmHost.Common.P25.Lc.Correctness.EncryptionFlag
import DvmHost.Lib.Remainder

/-!
# `Common.Edac.Correctness.SyndromeLoops` — the division loops of the table decoders end

`getSyndrome23127`, `getSyndrome1987` and `getSyndrome1576` walk a marker down from the top bit of their code and take
copies of the generator away. A word with a bit above the marker would keep them going forever; none of the callers
makes one (`Call.pattern_lt`). So each division ends, with the remainder of the word's polynomial by the generator, which
is an index of the decoder's table (`syndromes_end`), and with it every caller ends.
-/

namespace DvmHost

open Lib Lib.Gf2Division

/-- A division that ends: the syndrome is the remainder of the word, and in the table. -/
def Divides (getSyndrome : Nat → Option Nat) (GENPOL : Nat) (table : List Nat) (pattern : Nat) : Prop :=
  ∃ syndrome, getSyndrome pattern = some syndrome ∧
    Remainder.ofNat syndrome = Polynomial.modByMonic (Remainder.ofNat pattern) (Remainder.ofNat GENPOL) ∧
    syndrome < table.length

theorem divides_of_eq {getSyndrome : Nat → Option Nat} {g d n p : Nat} {table : List Nat} (hg : g < 2 ^ (d + 1))
    (htop : g.testBit d = true) (hp : p < 2 ^ n) (hloop : getSyndrome p = some (rem g d n p))
    (hlen : table.length = 2 ^ d) : Divides getSyndrome g table p := by
  refine ⟨rem g d n p, hloop, Remainder.ofNat_rem hg htop hp, ?_⟩
  rw [hlen]
  exact rem_lt hg htop n p

/-! ## Golay (23,12,7) and (24,12,8) -/

namespace Golay24128

/-- What reaches `getSyndrome23127`: the callers of `decode23127`, whose word it divides, and those of `decode24128`,
    whose word it divides without the last bit. -/
inductive Call where
  /-- The words of a P25 voice frame. -/
  | imbe (temp : Bits) (bit : Nat)
  /-- The first word of a DMR or NXDN voice frame. -/
  | ambeA (bytes : Bytes) (frame : Fin 3)
  /-- The second word, without the whitening of the data of the first. -/
  | ambeB (bytes : Bytes) (frame : Fin 3) (data : Nat)
  /-- The three octets of a word of a terminator. -/
  | tdulc (raw : Bytes) (j : Nat)
  /-- The shortened word of a header data unit. -/
  | hdu (golay : Bits)

/-- The word that `getSyndrome23127` is called with. -/
def Call.pattern : Call → Nat
  | imbe temp bit => LC.packWord 23 (AMBEFEC.fromBit bit temp)
  | ambeA bytes frame => AMBEFEC.readWord bytes AMBEFEC.AMBE_A_TABLE frame >>> 1
  | ambeB bytes frame data => AMBEFEC.readWord bytes AMBEFEC.AMBE_B_TABLE frame ^^^ AMBEFEC.prng data >>> 1
  | tdulc raw j => getWord24 raw j >>> 1
  | hdu golay => LC.packWord 18 golay >>> 1

theorem half_lt {p n : Nat} (hp : p < 2 ^ (n + 1)) : p >>> 1 < 2 ^ n := by
  rw [Nat.shiftRight_one]
  rw [Nat.pow_succ] at hp
  omega

theorem getWord24_lt (raw : Bytes) (j : Nat) : getWord24 raw j < 2 ^ (23 + 1) := by
  have h0 : (raw j).toNat <<< 16 &&& 0xff0000 < 2 ^ 24 := Nat.and_lt_two_pow _ (by decide)
  have h1 : (raw (j + 1)).toNat <<< 8 &&& 0x00ff00 < 2 ^ 24 := Nat.and_lt_two_pow _ (by decide)
  have h2 : (raw (j + 2)).toNat &&& 0x0000ff < 2 ^ 24 := Nat.and_lt_two_pow _ (by decide)
  exact Nat.or_lt_two_pow (Nat.or_lt_two_pow h0 h1) h2

/-- **No word reaches above the marker.** -/
theorem Call.pattern_lt (call : Call) : call.pattern < 2 ^ 23 := by
  cases call with
  | imbe temp bit => exact LC.packWord_lt 23 _
  | ambeA bytes frame => exact half_lt (AMBEFEC.fits_readWord bytes frame).1
  | ambeB bytes frame data =>
      exact Nat.xor_lt_two_pow (AMBEFEC.fits_readWord bytes frame).2.1 (AMBEFEC.prng_lt data)
  | tdulc raw j => exact half_lt (getWord24_lt raw j)
  | hdu golay => exact Nat.lt_of_lt_of_le (half_lt (LC.packWord_lt 18 golay)) (by decide)

theorem divides_getSyndrome23127 (call : Call) :
    Divides getSyndrome23127 GENPOL DECODING_TABLE_23127 call.pattern :=
  divides_of_eq genpol_lt genpol_top call.pattern_lt (getSyndrome23127_eq call.pattern_lt) length_decoding

/-- The decoder of an array ends. -/
theorem decodeArray24128_total (data raw : Bytes) (msglen : Nat) :
    ∃ out, decodeArray24128 data raw msglen = some out := by
  have hword : ∀ j, ∃ valid m_hat, decode24128 (getWord24 raw j) = some (valid, m_hat) := by
    intro j
    obtain ⟨valid, m_hat, hdecode, -⟩ := decode24128_total (getWord24_lt raw j)
    exact ⟨valid, m_hat, hdecode⟩
  choose valid m_hat hdecode using hword
  unfold decodeArray24128
  simp only [hdecode, Option.bind_eq_bind, Option.bind_some]
  rw [LC.foldlM_some fun t _ data => rfl, Option.bind_some, LC.foldlM_some fun t _ data => rfl]
  exact ⟨_, rfl⟩

end Golay24128

/-! ## Golay (20,8,7) and QR (16,7,6) -/

namespace Golay2087

theorem divides_getSyndrome1987 (data : Bytes) :
    Divides getSyndrome1987 GENPOL DECODING_TABLE_1987 (code data) :=
  divides_of_eq genpol_lt genpol_top (code_lt data) (getSyndrome1987_eq (code_lt data)) (by decide +kernel)

theorem decode_total (data : Bytes) : ∃ value, decode data = some value := by
  have hloop := getSyndrome1987_eq (code_lt data)
  unfold code at hloop
  unfold decode
  dsimp only
  rw [hloop]
  exact ⟨_, rfl⟩

end Golay2087

namespace QR1676

theorem divides_getSyndrome1576 (data0 data1 : UInt8) :
    Divides getSyndrome1576 GENPOL DECODING_TABLE_1576 (code data0 data1) :=
  divides_of_eq genpol_lt genpol_top (code_lt data0 data1) (getSyndrome1576_eq (code_lt data0 data1)) (by decide +kernel)

theorem decode_total (data0 data1 : UInt8) : ∃ value, decode data0 data1 = some value := by
  have hloop := getSyndrome1576_eq (code_lt data0 data1)
  unfold code at hloop
  unfold decode
  dsimp only
  rw [hloop]
  exact ⟨_, rfl⟩

end QR1676

/-! ## The callers -/

namespace AMBEFEC

theorem regenerateIMBE_total (bytes : Bytes) :
    (∃ errors out, regenerateIMBE bytes = some (errors, out)) ∧ ∃ errors, measureP25BER bytes = some errors := by
  obtain ⟨p, hfix, -⟩ := fixIMBE_words (deinterleave bytes)
  constructor
  · unfold regenerateIMBE
    dsimp only
    rw [hfix, Option.bind_eq_bind, Option.bind_some]
    exact ⟨_, _, rfl⟩
  · unfold measureP25BER
    dsimp only
    rw [hfix, Option.bind_eq_bind, Option.bind_some]
    exact ⟨_, rfl⟩

theorem regenerateNXDN_total (bytes : Bytes) : ∃ errors out, regenerateNXDN prng bytes = some (errors, out) := by
  obtain ⟨ha, hb, hc⟩ := fits_readWord bytes 0
  obtain ⟨words, errors, hrun, -⟩ := regenerate_spec ha hb hc
  unfold regenerateNXDN
  rw [hrun, Option.bind_eq_bind, Option.bind_some]
  exact ⟨_, _, rfl⟩

end AMBEFEC

/-- **The syndromes.** On every word that reaches it each of the three loops ends with the remainder of the word by the
    generator, an index of its table; and so the functions that call the decoders come to an end. -/
theorem syndromes_end :
    (∀ call : Golay24128.Call, Divides Golay24128.getSyndrome23127 Golay24128.GENPOL
      Golay24128.DECODING_TABLE_23127 call.pattern) ∧
    (∀ data : Bytes, Divides Golay2087.getSyndrome1987 Golay2087.GENPOL Golay2087.DECODING_TABLE_1987
      (Golay2087.code data)) ∧
    (∀ data0 data1 : UInt8, Divides QR1676.getSyndrome1576 QR1676.GENPOL QR1676.DECODING_TABLE_1576
      (QR1676.code data0 data1)) ∧
    (∀ bytes, (∃ errors out, AMBEFEC.regenerateIMBE bytes = some (errors, out)) ∧
      (∃ errors, AMBEFEC.measureP25BER bytes = some errors) ∧
      (∃ errors out, AMBEFEC.regenerateDMR AMBEFEC.prng bytes = some (errors, out)) ∧
      ∃ errors out, AMBEFEC.regenerateNXDN AMBEFEC.prng bytes = some (errors, out)) ∧
    (∀ data raw msglen, ∃ out, Golay24128.decodeArray24128 data raw msglen = some out) ∧
    (∀ data raw, ∃ out, LC.decodeHDUGolay data raw = some out) ∧
    (∀ burst, ∃ slotType, Dmr.SlotType.decode burst = some slotType) ∧
    ∀ burst, ∃ value, QR1676.decode (Dmr.EMB.gather burst).1 (Dmr.EMB.gather burst).2 = some value := by
  refine ⟨Golay24128.divides_getSyndrome23127, Golay2087.divides_getSyndrome1987, QR1676.divides_getSyndrome1576,
    fun bytes => ?_, Golay24128.decodeArray24128_total, LC.decodeHDUGolay_total, fun burst => ?_, fun burst => ?_⟩
  · obtain ⟨himbe, hber⟩ := AMBEFEC.regenerateIMBE_total bytes
    obtain ⟨words, errors, hdmr, -⟩ := AMBEFEC.regenerateDMR_spec bytes
    exact ⟨himbe, hber, ⟨errors, _, hdmr⟩, AMBEFEC.regenerateNXDN_total bytes⟩
  · obtain ⟨value, hdecode⟩ := Golay2087.decode_total (Dmr.SlotType.gather burst)
    unfold Dmr.SlotType.decode
    rw [hdecode]
    exact ⟨_, rfl⟩
  · exact QR1676.decode_total _ _

end DvmHost

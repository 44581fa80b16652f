import DvmHost.Common.Edac.Correctness.GolayStream
import DvmHost.Common.P25.Lc.TDULC

/-!
# `Common.P25.Lc.Correctness.TerminatorNoise` — bit errors in a terminator with link control

The 288 bits of a terminator between its status symbols are twelve Golay words over the octets of a Reed-Solomon
codeword. With at most three errors in each word the octets are those that were sent (`decodeOctets_near`), so the
Reed-Solomon decoder has nothing to correct. What `decode` copies of them is the payload: the opcode in front of it is
only read by the factory.
-/

namespace DvmHost

open Lib

namespace TDULC

/-- Where bit `k` of the words stands in a frame. -/
def tdulcPos (k : Nat) : Nat := (P25Utils.carried 114 410).getD k 0

/-- The number of bits of word `w` that differ in two frames. -/
def tdulcErrors (sent received : Bytes) (w : Nat) : Nat :=
  AMBEFEC.diffs 24 (fun j => readBit received (tdulcPos (24 * w + j))) fun j => readBit sent (tdulcPos (24 * w + j))

/-- The octets that `encode` codes. -/
def sentOctets (t : TDULC) (payload : Bytes) : Bytes :=
  let rs := memcpy (fun _ => 0x00) 1 payload P25_TDULC_PAYLOAD_LENGTH_BYTES
  let rs := setByte rs 0 t.lco
  if t.implicitOp then setByte rs 0 (rs 0 ||| 0x40) else rs

theorem encode_eq (t : TDULC) (data payload : Bytes) : t.encode data payload =
    (P25Utils.encode (Golay24128.encodeArray24128 (fun _ => 0x00) (RS634717.encode241213 (t.sentOctets payload))
      P25_TDULC_LENGTH_BYTES) data 114 410).2 := rfl

/-- The opcode and the payload are in the octets. -/
theorem sentOctets_spec (t : TDULC) (payload : Bytes) :
    t.sentOctets payload 0 &&& 0x3F = t.lco &&& 0x3F ∧ ∀ i < 8, t.sentOctets payload (1 + i) = payload i := by
  have hmark : ∀ v : BitVec 8, (UInt8.ofBitVec v ||| 0x40) &&& 0x3F = UInt8.ofBitVec v &&& 0x3F := by decide
  unfold sentOctets
  rw [setByte_same]
  split
  · refine ⟨?_, fun i hi => ?_⟩
    · rw [setByte_same]
      exact hmark t.lco.toBitVec
    · rw [setByte_of_ne _ _ (by omega), setByte_of_ne _ _ (by omega), memcpy_add _ _ _ hi]
  · refine ⟨by rw [setByte_same], fun i hi => ?_⟩
    rw [setByte_of_ne _ _ (by omega), memcpy_add _ _ _ hi]

/-- **Three errors in each word do no harm**: the octets are those that were sent. -/
theorem decodeOctets_near {t : TDULC} {payload frame received : Bytes}
    (h : ∀ w < 12, tdulcErrors (t.encode frame payload) received w ≤ 3) (errata : RS.Errata) :
    ∃ rs, decodeOctets errata received = some (some rs) ∧ ∀ i < 9, rs i = t.sentOctets payload i := by
  have hlen : (P25Utils.carried 114 410).length = 288 := by decide +kernel
  generalize hraw : (P25Utils.decode received (fun _ => 0x00) 114 410).2 = raw
  -- the words as they were packed and as they are read
  have hsent : ∀ k < 288, readBit (t.encode frame payload) (tdulcPos k) = readBit
      (Golay24128.encodeArray24128 (fun _ => 0x00) (RS634717.encode241213 (t.sentOctets payload)) 18) k := by
    intro k hk
    rw [encode_eq]
    exact P25Utils.readBit_encode _ _ (by decide) (hlen ▸ hk)
  have hread : ∀ k < 288, readBit raw k = readBit received (tdulcPos k) := by
    intro k hk
    rw [← hraw, P25Utils.readBit_decode _ _ (by decide), hlen, if_pos hk]
    rfl
  have hwords : ∀ w < Golay24128.words 18, Golay24128.wordErrors (Golay24128.encodeArray24128 (fun _ => 0x00)
      (RS634717.encode241213 (t.sentOctets payload)) 18) raw w ≤ 3 := by
    intro w hw
    have hlt : w < 12 := hw
    refine Nat.le_trans (Nat.le_of_eq ?_) (h w hlt)
    exact AMBEFEC.diffs_congr (fun j hj => hread _ (by omega)) fun j hj => (hsent _ (by omega)).symm
  obtain ⟨decoded, hdecode, hoctets⟩ := Golay24128.decodeArray_near hwords fun _ => 0x00
  have hbits : ∀ b < 6 * 24, readBit decoded b =
      readBit (RS634717.encodeWith RS634717.code241213 (t.sentOctets payload)) b := by
    intro b hb
    rw [readBit_eq, readBit_eq, hoctets, if_pos (by omega)]
    rfl
  obtain ⟨haccept, hdata⟩ := RS634717.decodeWith_octets RS634717.valid_241213 errata hbits
  refine ⟨decoded, ?_, hdata 9 (by decide)⟩
  unfold decodeOctets
  dsimp only
  rw [hraw, hdecode, Option.bind_eq_bind, Option.bind_some]
  unfold RS634717.decode241213
  rw [haccept]

/-- **The payload is recovered**, and the factory reads the opcode. -/
theorem decode_near {t : TDULC} {payload frame received : Bytes}
    (h : ∀ w < 12, tdulcErrors (t.encode frame payload) received w ≤ 3) (errata : RS.Errata) (out : Bytes) :
    decode errata received out = some (true, memcpy out 0 payload 8) ∧
      createLco errata received = some (some (t.lco &&& 0x3F)) := by
  obtain ⟨rs, hrs, hoctets⟩ := decodeOctets_near h errata
  obtain ⟨hlco, hpayload⟩ := sentOctets_spec t payload
  constructor
  · have hcopy : memcpy out 0 (fromByte 1 rs) 8 = memcpy out 0 payload 8 := by
      apply memcpy_congr
      intro i hi
      show rs (1 + i) = payload i
      rw [hoctets (1 + i) (by omega), hpayload i hi]
    unfold decode
    rw [hrs, Option.bind_eq_bind, Option.bind_some]
    dsimp only
    rw [hcopy]
  · unfold createLco
    rw [hrs, Option.bind_eq_bind, Option.bind_some, Option.map_some, hoctets 0 (by decide), hlco]

/-- **Noise in a terminator.** With at most three errors in each of its words a frame gives back the eight octets of
    the payload, whatever the opcode and the other members, and the factory reads the opcode that was sent. The array
    functions undo each other under this noise for every length. -/
theorem terminator_noise (t : TDULC) (payload frame : Bytes) :
    (∀ received, (∀ w < 12, tdulcErrors (t.encode frame payload) received w ≤ 3) → ∀ errata out,
      ∃ got, decode errata received out = some (true, got) ∧ (∀ i < 8, got i = payload i) ∧
        createLco errata received = some (some (t.lco &&& 0x3F))) ∧
    ∀ (n : Nat) (data msg received : Bytes),
      (∀ w < Golay24128.words n, Golay24128.wordErrors (Golay24128.encodeArray24128 data msg n) received w ≤ 3) →
      ∀ out, ∃ decoded, Golay24128.decodeArray24128 out received n = some decoded ∧ ∀ i < n, decoded i = msg i := by
  constructor
  · intro received hnear errata out
    obtain ⟨hdecode, hlco⟩ := decode_near hnear errata out
    refine ⟨_, hdecode, fun i hi => ?_, hlco⟩
    have hcopied := memcpy_add out 0 payload hi
    rwa [Nat.zero_add] at hcopied
  · intro n data msg received hnear out
    obtain ⟨decoded, hdecode, hoctets⟩ := Golay24128.decodeArray_near hnear out
    refine ⟨decoded, hdecode, fun i hi => ?_⟩
    rw [hoctets, if_pos hi]

/-- Frames of two opcodes decode to the same. -/
theorem lco_not_recovered :
    decode (fun _ _ => none) (({ new SiteData.default with lco := LC_GROUP } : TDULC).encode (fun _ => 0x00)
        fun _ => 0x00) (fun _ => 0x00) =
      decode (fun _ _ => none) (({ new SiteData.default with lco := LC_PRIVATE } : TDULC).encode (fun _ => 0x00)
        fun _ => 0x00) (fun _ => 0x00) ∧ LC_GROUP ≠ LC_PRIVATE := by
  have hclean : ∀ (sent : Bytes), ∀ w < 12, tdulcErrors sent sent w ≤ 3 := by
    intro sent w _
    exact Nat.le_trans (Nat.le_of_eq (AMBEFEC.diffs_eq_zero_iff.mpr fun _ _ => rfl)) (Nat.zero_le 3)
  refine ⟨?_, by decide⟩
  rw [(decode_near (hclean _) _ _).1, (decode_near (hclean _) _ _).1]

end TDULC

end DvmHost

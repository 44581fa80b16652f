import DvmHost.Common.P25.Data.DataBlock
import DvmHost.Common.P25.Lc.TSBK

/-!
# `Common.P25.Lc.AMBT` — trunking messages of several blocks

`src/common/p25/lc/AMBT.cpp`: the message is a packet header and the data blocks that follow it.
-/

namespace DvmHost

namespace P25

/-- `PDU_SAP_TRUNK_CTRL`. -/
def PDU_SAP_TRUNK_CTRL : UInt8 := 0x3D

namespace AMBT

/-- The loop of `decode` over the blocks, after `n` turns: false once a block has not given twelve octets. -/
def readBlocks (blocks : Nat → DataBlock) : Nat → Bytes → Bool × Bytes
  | 0, pduUserData => (true, pduUserData)
  | i + 1, pduUserData =>
      let before := readBlocks blocks i pduUserData
      if before.1 then
        let got := (blocks i).getData before.2 (P25_PDU_UNCONFIRMED_LENGTH_BYTES * i)
        (got.1 = P25_PDU_UNCONFIRMED_LENGTH_BYTES, got.2)
      else before

/-- `decode` of a header and its blocks: the object, and the octets of the blocks. -/
def decode (t : TSBK) (dataHeader : DataHeader) (blocks : Nat → DataBlock) (pduUserData : Bytes) :
    Bool × TSBK × Bytes :=
  if dataHeader.fmt ≠ PDU_FMT_AMBT then (false, t, pduUserData)
  else if dataHeader.blocksToFollow = 0 then (false, t, pduUserData)
  else
    let t := { t with lco := dataHeader.ambtOpcode, lastBlock := true, mfId := dataHeader.mfId }
    let n := dataHeader.blocksToFollow.toNat
    let pduUserData := memcpy pduUserData 0 (fun _ => 0x00) (P25_PDU_UNCONFIRMED_LENGTH_BYTES * n)
    let read := readBlocks blocks n pduUserData
    (read.1, t, read.2)

/-- What the blocks give the caller. -/
def assembled (blocks : Nat → DataBlock) : Bytes := fun k =>
  (blocks (k / P25_PDU_UNCONFIRMED_LENGTH_BYTES)).data (k % P25_PDU_UNCONFIRMED_LENGTH_BYTES)

/-- A block of a format with twelve octets. -/
def Twelve (b : DataBlock) : Prop :=
  b.fmt = PDU_FMT_UNCONFIRMED ∨ b.fmt = PDU_FMT_RSP ∨ b.fmt = PDU_FMT_AMBT

instance (b : DataBlock) : Decidable (Twelve b) :=
  inferInstanceAs (Decidable (b.fmt = PDU_FMT_UNCONFIRMED ∨ b.fmt = PDU_FMT_RSP ∨ b.fmt = PDU_FMT_AMBT))

theorem getData_of_twelve {b : DataBlock} (h : Twelve b) (buffer : Bytes) (offset : Nat) :
    b.getData buffer offset = (12, memcpy buffer offset b.data 12) := by
  have hne : b.fmt ≠ PDU_FMT_CONFIRMED := by
    rcases h with h | h | h <;> (rw [h]; decide)
  rw [DataBlock.getData, if_neg hne]
  exact if_pos h

theorem getData_fst_iff (b : DataBlock) (buffer : Bytes) (offset : Nat) :
    (b.getData buffer offset).1 = P25_PDU_UNCONFIRMED_LENGTH_BYTES ↔ Twelve b := by
  constructor
  · intro h
    by_contra hno
    have hno' : ¬ (b.fmt = PDU_FMT_UNCONFIRMED ∨ b.fmt = PDU_FMT_RSP ∨ b.fmt = PDU_FMT_AMBT) := hno
    unfold DataBlock.getData at h
    rw [if_neg hno'] at h
    split at h
    · cases h
    · cases h
  · intro h
    rw [getData_of_twelve h]

/-- **The loop over the blocks** goes through when every block has twelve octets; they are then in place, and nothing
    behind them is written. -/
theorem readBlocks_spec (blocks : Nat → DataBlock) (n : Nat) (pduUserData : Bytes) :
    ((readBlocks blocks n pduUserData).1 = true ↔ ∀ i < n, Twelve (blocks i)) ∧
    ((readBlocks blocks n pduUserData).1 = true → ∀ k,
      (readBlocks blocks n pduUserData).2 k = if k < 12 * n then assembled blocks k else pduUserData k) := by
  induction n with
  | zero => exact ⟨⟨fun _ i hi => absurd hi (Nat.not_lt_zero i), fun _ => rfl⟩, fun _ k => rfl⟩
  | succ n ih =>
      obtain ⟨hiff, hdata⟩ := ih
      by_cases hbefore : (readBlocks blocks n pduUserData).1 = true
      · have hstep : readBlocks blocks (n + 1) pduUserData
            = (decide (((blocks n).getData (readBlocks blocks n pduUserData).2 (12 * n)).1 = 12),
                ((blocks n).getData (readBlocks blocks n pduUserData).2 (12 * n)).2) := by
          rw [readBlocks]
          exact if_pos hbefore
        have hlast : (readBlocks blocks (n + 1) pduUserData).1 = true ↔ Twelve (blocks n) := by
          rw [hstep, decide_eq_true_iff]
          exact getData_fst_iff _ _ _
        refine ⟨?_, fun h k => ?_⟩
        · rw [hlast]
          constructor
          · intro h i hi
            rcases Nat.lt_succ_iff_lt_or_eq.mp hi with hlt | rfl
            · exact hiff.mp hbefore i hlt
            · exact h
          · exact fun h => h n (Nat.lt_succ_self n)
        · rw [hstep, getData_of_twelve (hlast.mp h)]
          show memcpy _ (12 * n) (blocks n).data 12 k = _
          unfold memcpy
          by_cases hin : 12 * n ≤ k ∧ k < 12 * n + 12
          · have hdiv : k / 12 = n := by omega
            have hmod : k % 12 = k - 12 * n := by omega
            rw [if_pos hin, if_pos (by omega), assembled, hdiv, hmod]
          · rw [if_neg hin, hdata hbefore k]
            by_cases hlt : k < 12 * n
            · rw [if_pos hlt, if_pos (by omega)]
            · rw [if_neg hlt, if_neg (by omega)]
      · have hstep : readBlocks blocks (n + 1) pduUserData = readBlocks blocks n pduUserData := by
          rw [readBlocks]
          exact if_neg hbefore
        rw [hstep]
        refine ⟨⟨fun h => absurd h hbefore, fun h => ?_⟩, fun h => absurd h hbefore⟩
        exact absurd (hiff.mpr fun i hi => h i (by omega)) hbefore

/-- The header and blocks that `decode` accepts. -/
structure Accepted (dataHeader : DataHeader) (blocks : Nat → DataBlock) : Prop where
  fmt : dataHeader.fmt = PDU_FMT_AMBT
  blocksToFollow : dataHeader.blocksToFollow ≠ 0
  twelve : ∀ i < dataHeader.blocksToFollow.toNat, Twelve (blocks i)

theorem decode_iff (t : TSBK) (dataHeader : DataHeader) (blocks : Nat → DataBlock) (pduUserData : Bytes) :
    (decode t dataHeader blocks pduUserData).1 = true ↔ Accepted dataHeader blocks := by
  unfold decode
  by_cases hfmt : dataHeader.fmt = PDU_FMT_AMBT
  · by_cases hblocks : dataHeader.blocksToFollow = 0
    · rw [if_neg (not_not_intro hfmt), if_pos hblocks]
      exact ⟨fun h => absurd h Bool.false_ne_true, fun h => absurd hblocks h.blocksToFollow⟩
    · rw [if_neg (not_not_intro hfmt), if_neg hblocks]
      dsimp only
      rw [(readBlocks_spec _ _ _).1]
      exact ⟨fun h => ⟨hfmt, hblocks, h⟩, fun h => h.twelve⟩
  · rw [if_pos hfmt]
    exact ⟨fun h => absurd h Bool.false_ne_true, fun h => absurd h.fmt hfmt⟩

/-- What an accepted message leaves in the caller's buffer. -/
theorem decode_octets {dataHeader : DataHeader} {blocks : Nat → DataBlock} (h : Accepted dataHeader blocks)
    (t : TSBK) (pduUserData : Bytes) (k : Nat) :
    (decode t dataHeader blocks pduUserData).2.2 k
      = if k < 12 * dataHeader.blocksToFollow.toNat then assembled blocks k else pduUserData k := by
  have hread := (readBlocks_spec blocks dataHeader.blocksToFollow.toNat
    (memcpy pduUserData 0 (fun _ => 0x00) (12 * dataHeader.blocksToFollow.toNat)))
  unfold decode
  rw [if_neg (not_not_intro h.fmt), if_neg h.blocksToFollow]
  dsimp only
  rw [hread.2 (hread.1.mpr h.twelve) k]
  split
  · rfl
  · next hge => rw [memcpy, if_neg (by omega)]

/-- `encode`: the header, and the octets with their CRC. -/
def encode (t : TSBK) (dataHeader : DataHeader) (pduUserData : Bytes) : DataHeader × Bytes :=
  let dataHeader := { dataHeader with
    fmt := PDU_FMT_AMBT, mfId := t.mfId, ackNeeded := false, outbound := true, sap := PDU_SAP_TRUNK_CTRL,
    llId := t.srcId, F := true }
  let dataHeader := if dataHeader.blocksToFollow = 0 then dataHeader.setBlocksToFollow 1 else dataHeader
  let dataHeader := { dataHeader with ambtOpcode := t.lco }
  (dataHeader,
    if dataHeader.blocksToFollow > 1 then
      CRC.addCRC32 pduUserData (P25_PDU_UNCONFIRMED_LENGTH_BYTES * dataHeader.blocksToFollow.toNat)
    else CRC.addCRC32 pduUserData P25_PDU_UNCONFIRMED_LENGTH_BYTES)

end AMBT

end P25

end DvmHost

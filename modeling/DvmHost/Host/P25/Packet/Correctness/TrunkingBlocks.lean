import DvmHost.Host.P25.Packet.TrunkingFrames

/-!
# `Host.P25.Packet.Correctness.TrunkingBlocks` — one message in three hands

A data unit with one message is built in three places. The two for the network pass its length to `addBusyBits` in
octets, so that no status symbol lies within: all but the first stay as they were, which is zero. The frames differ in
the first bit of these four symbols and in nothing else (`differ_iff`).
-/

namespace DvmHost

namespace P25Utils

/-- A frame that is written to keeps what it agrees with another frame in. -/
theorem readBit_encode_congr (inp : Bytes) {data data' : Bytes} {start : Nat} (h : start % 72 ≠ 71) (stop : Nat)
    {k : Nat} (hk : readBit data k = readBit data' k) :
    readBit (encode inp data start stop).2 k = readBit (encode inp data' start stop).2 k := by
  by_cases hmem : k ∈ carried start stop
  · obtain ⟨i, hi, rfl⟩ := List.getElem_of_mem hmem
    rw [← List.getD_eq_getElem _ 0 hi, readBit_encode inp data h hi, readBit_encode inp data' h hi]
  · rw [readBit_encode_of_notMem inp data h hmem, readBit_encode_of_notMem inp data' h hmem, hk]

/-- No status symbol is written to. -/
theorem readBit_encode_status (inp data : Bytes) {start : Nat} (h : start % 72 ≠ 71) (stop : Nat) {k : Nat}
    (hk : k % 72 = 70 ∨ k % 72 = 71) : readBit (encode inp data start stop).2 k = readBit data k := by
  refine readBit_encode_of_notMem inp data h fun hmem => ?_
  obtain ⟨-, h0, h1⟩ := mem_carried.mp hmem
  exact hk.elim h0 h1

end P25Utils

namespace P25

theorem readBit_addP25Sync (data : Bytes) (k : Nat) :
    readBit (addP25Sync data) k = if k < 48 then readBit P25_SYNC_BYTES k else readBit data k := by
  unfold addP25Sync memcpy P25_SYNC_LENGTH_BYTES
  rw [readBit_eq, readBit_eq, readBit_eq]
  by_cases hk : k < 48
  · rw [if_pos ⟨Nat.zero_le _, by omega⟩, if_pos hk, Nat.sub_zero]
  · rw [if_neg (by omega), if_neg hk]

/-- A frame with its sync, its NID and a message: what all three builders make first. -/
def tsduHead (nid : NID) (b : TSBKBlock) (data : Bytes) : Bytes :=
  b.encode true (nid.encode (addP25Sync data) P25_DUID_TSDU) false

theorem readBit_nid_congr (nid : NID) (duid : UInt8) {data data' : Bytes} {k : Nat}
    (hk : readBit data k = readBit data' k) : readBit (nid.encode data duid) k = readBit (nid.encode data' duid) k := by
  unfold NID.encode
  split_ifs <;> first | exact P25Utils.readBit_encode_congr _ (by decide) _ hk | exact hk

theorem readBit_nid_status (nid : NID) (duid : UInt8) (data : Bytes) {k : Nat} (hk : k % 72 = 70 ∨ k % 72 = 71) :
    readBit (nid.encode data duid) k = readBit data k := by
  unfold NID.encode
  split_ifs <;> first | exact P25Utils.readBit_encode_status _ _ (by decide) _ hk | rfl

theorem readBit_block_congr (b : TSBKBlock) (last : Bool) {data data' : Bytes} {k : Nat}
    (hk : readBit data k = readBit data' k) : readBit (b.encode last data false) k = readBit (b.encode last data' false) k := by
  unfold TSBKBlock.encode
  split
  · exact hk
  · unfold TSBK.encode
    exact P25Utils.readBit_encode_congr _ (by decide) _ hk

theorem readBit_block_status (b : TSBKBlock) (last : Bool) (data : Bytes) {k : Nat} (hk : k % 72 = 70 ∨ k % 72 = 71) :
    readBit (b.encode last data false) k = readBit data k := by
  unfold TSBKBlock.encode
  split
  · rfl
  · unfold TSBK.encode
    exact P25Utils.readBit_encode_status _ _ (by decide) _ hk

theorem readBit_tsduHead_congr (nid : NID) (b : TSBKBlock) {data data' : Bytes} {k : Nat}
    (hk : readBit data k = readBit data' k) : readBit (tsduHead nid b data) k = readBit (tsduHead nid b data') k := by
  refine readBit_block_congr b true (readBit_nid_congr nid _ ?_)
  rw [readBit_addP25Sync, readBit_addP25Sync, hk]

/-- The status symbols are those that the frame was started with. -/
theorem readBit_tsduHead_status (nid : NID) (b : TSBKBlock) (data : Bytes) {k : Nat}
    (hk : k % 72 = 70 ∨ k % 72 = 71) : readBit (tsduHead nid b data) k = readBit data k := by
  unfold tsduHead
  rw [readBit_block_status b true _ hk, readBit_nid_status nid _ _ hk, readBit_addP25Sync, if_neg (by omega)]

/-! ## The builders -/

/-- Within 45 bits there is no status symbol. -/
theorem addBusyBits_octets (data : Bytes) : P25Utils.addBusyBits data P25_TSDU_FRAME_LENGTH_BYTES true false = data := rfl

theorem netTsdu_eq (nid : NID) (b : TSBKBlock) :
    netTsdu nid b = P25Utils.setBusyBits (tsduHead nid b fun _ => 0x00) 70 true true := rfl

theorem netTsduFromRF_eq (nid : NID) (b : TSBKBlock) (data : Bytes) : netTsduFromRF nid b data
    = P25Utils.setBusyBits (tsduHead nid b (memcpy data 0 (fun _ => 0x00) 45)) 70 true true := rfl

theorem rfTsduSbf_eq (nid : NID) (b : TSBKBlock) : rfTsduSbf nid b = P25Utils.setBusyBits
    (P25Utils.addBusyBits (tsduHead nid b fun _ => 0x00) 360 true false) 70 true true := rfl

/-- **The two for the network agree.** -/
theorem netTsdu_eq_fromRF (nid : NID) (b : TSBKBlock) (data : Bytes) {i : Nat} (hi : i < 45) :
    netTsdu nid b i = netTsduFromRF nid b data i := by
  refine byte_of_bits (n := 45) (fun k hk => ?_) hi
  have hstart : readBit (fun _ => 0x00) k = readBit (memcpy data 0 (fun _ => 0x00) 45) k := by
    rw [readBit_eq, readBit_eq]
    unfold memcpy
    rw [if_pos ⟨Nat.zero_le _, by omega⟩]
  rw [netTsdu_eq, netTsduFromRF_eq, P25Utils.readBit_setBusyBits, P25Utils.readBit_setBusyBits,
    readBit_tsduHead_congr nid b hstart]

/-- The status symbols of a frame of 360 bits. -/
theorem readBit_addBusyBits_frame (data : Bytes) {k : Nat} (hk : k < 360) :
    readBit (P25Utils.addBusyBits data 360 true false) k
      = if k % 72 = 71 then false else if k % 72 = 70 then true else readBit data k := by
  have hall : P25Utils.symbolPositions 360 P25Utils.P25_SS_INCREMENT = [70, 142, 214, 286, 358] := rfl
  have hother : P25Utils.symbolPositions 360 (P25Utils.P25_SS_INCREMENT * 2) = [70, 214, 358] := rfl
  unfold P25Utils.addBusyBits P25Utils.writeSymbols
  rw [hall, hother, P25Utils.readBit_foldl_setBusyBits (by decide), P25Utils.readBit_foldl_setBusyBits (by decide)]
  simp only [List.mem_cons, List.not_mem_nil, or_false]
  by_cases h71 : k % 72 = 71
  · have hmem : k - 1 = 70 ∨ k - 1 = 142 ∨ k - 1 = 214 ∨ k - 1 = 286 ∨ k - 1 = 358 := by omega
    have hnot : ¬ (k = 70 ∨ k = 214 ∨ k = 358) := by omega
    rw [if_pos h71, if_neg hnot, if_pos (show k % 72 = 71 ∧ _ from ⟨h71, hmem⟩), ite_self]
  · have hnot : ∀ p : Prop, ¬ (k % 72 = 71 ∧ p) := fun _ h => h71 h.1
    rw [if_neg h71, if_neg (hnot _), if_neg (hnot _)]
    by_cases h70 : k % 72 = 70
    · have hmem : k = 70 ∨ k = 142 ∨ k = 214 ∨ k = 286 ∨ k = 358 := by omega
      rw [if_pos h70, if_pos hmem, ite_self]
    · rw [if_neg h70, if_neg (by omega), if_neg (by omega)]

/-- **Where the frame for the air differs**: in the first bit of every status symbol but the first. -/
theorem differ_iff (nid : NID) (b : TSBKBlock) {k : Nat} (hk : k < 360) :
    readBit (rfTsduSbf nid b) k ≠ readBit (netTsdu nid b) k ↔ k ∈ [142, 214, 286, 358] := by
  have hzero : readBit (fun _ => 0x00) k = false := by
    rw [readBit_eq, bitOf_zero]
  rw [rfTsduSbf_eq, netTsdu_eq, P25Utils.readBit_setBusyBits, P25Utils.readBit_setBusyBits,
    readBit_addBusyBits_frame _ hk]
  simp only [List.mem_cons, List.not_mem_nil, or_false]
  by_cases hfirst : k = 70 + 1 ∨ k = 70
  · refine iff_of_false ?_ (by omega)
    rcases hfirst with h | h
    · rw [if_pos h, if_pos h]
      exact fun hne => hne rfl
    · rw [if_neg (by omega), if_pos h, if_neg (by omega), if_pos h]
      exact fun hne => hne rfl
  · rw [if_neg fun h => hfirst (.inl h), if_neg fun h => hfirst (.inr h), if_neg fun h => hfirst (.inl h),
      if_neg fun h => hfirst (.inr h)]
    by_cases h71 : k % 72 = 71
    · rw [if_pos h71, readBit_tsduHead_status nid b _ (.inr h71), hzero]
      exact iff_of_false (fun hne => hne rfl) (by omega)
    · by_cases h70 : k % 72 = 70
      · rw [if_neg h71, if_pos h70, readBit_tsduHead_status nid b _ (.inl h70), hzero]
        exact iff_of_true Bool.true_eq_false_eq_False (by omega)
      · rw [if_neg h71, if_neg h70]
        exact iff_of_false (fun hne => hne rfl) (by omega)

/-- The three builders make the same 45 octets of a message. -/
def BuildersAgree (nid : NID) (b : TSBKBlock) (data : Bytes) : Prop :=
  ∀ i < 45, rfTsduSbf nid b i = netTsdu nid b i ∧ netTsdu nid b i = netTsduFromRF nid b data i

theorem not_buildersAgree (nid : NID) (b : TSBKBlock) (data : Bytes) : ¬ BuildersAgree nid b data := by
  intro h
  have hdiffer := (differ_iff nid b (show 142 < 360 by decide)).mpr (by decide)
  rw [readBit_eq, readBit_eq, (h (142 / 8) (by decide)).1] at hdiffer
  exact hdiffer rfl

/-- **The builders never agree**: those for the network do, and the one for the air sets four more bits. -/
theorem builders_disagree (nid : NID) (b : TSBKBlock) (data : Bytes) :
    ¬ BuildersAgree nid b data ∧ (∀ i < 45, netTsdu nid b i = netTsduFromRF nid b data i) ∧
      ∀ k < 360, readBit (rfTsduSbf nid b) k ≠ readBit (netTsdu nid b) k ↔ k ∈ [142, 214, 286, 358] :=
  ⟨not_buildersAgree nid b data, fun _ hi => netTsdu_eq_fromRF nid b data hi, fun _ hk => differ_iff nid b hk⟩

/-- A status update, on its way from a site with NAC 293. -/
theorem builders_disagree_stsUpdt :
    ¬ BuildersAgree (NID.new 0x293) ⟨⟨0x18, 0x00, false, 1⟩, some fun _ => 0x00⟩ fun _ => 0x00 :=
  not_buildersAgree _ _ _

end P25

end DvmHost

import DvmHost.Common.Dmr.Data.Correctness.HeaderRoundTrip
import DvmHost.Common.Edac.Correctness.ProductCode
import DvmHost.Host.Dmr.Packet.Correctness.VoiceSteps
import DvmHost.Host.Dmr.Packet.Data

/-!
# `Host.Dmr.Packet.Correctness.PduAssembly` — the blocks of a data packet

Behind a data header each block lowers the number of those to follow, and the last of them ends the transmission; on both
sides the counter and the test agree, and no write leaves the user data. What the user data hold is another matter. Each
payload is copied to their front, whatever the offset says, and one of rate 1 nowhere: an octet is that of the last
payload that was copied and is long enough (`lastAt`). So the packet is there behind its last block if and only if its
octets happen to be these (`assembles_iff`), as they are in a packet of one block.
-/

namespace DvmHost

open RPT_RF_STATE RPT_NET_STATE

namespace Dmr

namespace DataSlot

/-! ## Frames and sides -/

/-- A frame and the octet that tells its data type; `heap` is what the buffer of a new header holds. -/
structure DataFrame where
  control : UInt8
  data : Bytes
  heap : Bytes

/-- `Data::process` and `Data::processNetwork`. -/
inductive Side where
  | rf
  | net
deriving DecidableEq, Repr

namespace Side

/-- The data type of a frame. -/
def dataType : Side → DataFrame → UInt8
  | .rf, f => f.control &&& 0x0F
  | .net, f => f.control

/-- What the slot makes of a frame. -/
def receive : Side → DataSlot → DataFrame → DataSlot
  | .rf, s, f => (s.process f.heap f.control f.data).2
  | .net, s, f => s.processNetwork f.heap f.control f.data

/-- A transmission goes on. -/
def Active : Side → DataSlot → Prop
  | .rf, s => s.rfState = RS_RF_DATA
  | .net, s => s.netState = RS_NET_DATA

/-- The blocks to follow. -/
def remaining : Side → DataSlot → UInt32
  | .rf, s => s.rfFrames
  | .net, s => s.netFrames

/-- A header starts a transmission. -/
def Accepts : Side → DataSlot → DataHeader → Prop
  | .rf, s, h => s.rfState ≠ RS_RF_DATA ∧ s.isRFRefused h.dstId = false ∧ s.isRejected (headerLC h) = false
  | .net, s, h => s.netState ≠ RS_NET_DATA ∧ s.isNetUnpermitted h.dstId = false ∧
      Slot.isHanging s.rfLastDstId s.rfTGHang h.dstId = false

/-- One frame after the other. -/
def receiveAll (side : Side) (s : DataSlot) (frames : List DataFrame) : DataSlot := frames.foldl side.receive s

end Side

/-! ## Payloads -/

/-- The payload that is copied to the user data. -/
def storedPayload (dataType : UInt8) (data : Bytes) : Option (List UInt8) :=
  if dataType = DT_RATE_12_DATA then some ((List.range 12).map (BPTC19696.decode data fun _ => 0x00))
  else if dataType = DT_RATE_34_DATA then
    (Trellis.decode34 data fun _ => 0x00).map fun payload => (List.range 18).map payload
  else none

/-- The payloads of a run that are copied. -/
def storedOf (side : Side) (frames : List DataFrame) : List (List UInt8) :=
  frames.filterMap fun f => storedPayload (side.dataType f) f.data

/-- The packet. `other` is what a block of rate 1 carries, or what one of rate 3/4 does that cannot be decoded. -/
def packetOf (other : DataFrame → List UInt8) (side : Side) (frames : List DataFrame) : List UInt8 :=
  frames.flatMap fun f => (storedPayload (side.dataType f) f.data).getD (other f)

/-- Octet `i` of the last payload that has one. -/
def lastAt (payloads : List (List UInt8)) (i : Nat) : UInt8 := payloads.foldl (fun x p => p.getD i x) 0x00

/-- Behind a header with `b` blocks to follow, in every run of blocks: the counter counts down to zero, the transmission
    ends with block `b`, no write leaves the user data, and they hold the packet then. -/
structure Assembles (other : DataFrame → List UInt8) (side : Side) (b : Nat) (s : DataSlot) (f : DataFrame)
    (frames : List DataFrame) : Prop where
  counts : ∀ k ≤ frames.length, (side.remaining (side.receiveAll s (f :: frames.take k))).toNat = b - k
  ends : ∀ k ≤ frames.length, side.Active (side.receiveAll s (f :: frames.take k)) ↔ k < b
  inside : ∃ writes, (side.receiveAll s (f :: frames)).copies = s.copies ++ writes ∧
    ∀ w ∈ writes, w.1 + w.2 ≤ PDU_USER_DATA_LENGTH
  contents : b ≤ frames.length → ∀ i < (packetOf other side (frames.take b)).length,
    (side.receiveAll s (f :: frames.take b)).pduUserData i = (packetOf other side (frames.take b)).getD i 0x00

/-! ## One frame -/

section Frames

variable {s : DataSlot}

/-- A frame that is sent on changes the queue and the log. -/
theorem addData_eq (s : DataSlot) (net : Bool) (tag dataType : UInt8) : ∃ length used log,
    s.addData net tag dataType =
      { s with toSlot := { s.toSlot with txLength := length, txUsed := used }, dataLog := log } := by
  obtain ⟨length, used, h⟩ := Slot.addFrame_eq s.toSlot net
  refine ⟨length, used, if (s.toSlot.addFrame net).1 then s.dataLog ++ [.queued tag dataType] else s.dataLog, ?_⟩
  unfold addData
  dsimp only
  rw [h]

theorem writeData_eq (s : DataSlot) (dataType : UInt8) : ∃ log, s.writeData dataType = { s with dataLog := log } := by
  unfold writeData
  split
  · exact ⟨s.dataLog, rfl⟩
  · exact ⟨_, rfl⟩

/-- What is sent on between two lines that concern the packet. -/
theorem addData_if_eq (s : DataSlot) (c : Prop) [Decidable c] (net : Bool) (tag dataType : UInt8) : ∃ length used log,
    (if c then s.addData net tag dataType else s) =
      { s with toSlot := { s.toSlot with txLength := length, txUsed := used }, dataLog := log } := by
  split
  · exact addData_eq s net tag dataType
  · exact ⟨s.txLength, s.txUsed, s.dataLog, rfl⟩

/-- A copy to the front of the user data. -/
theorem storePayload_apply (s : DataSlot) (payload : Bytes) (length i : Nat) :
    (s.storePayload payload length).pduUserData i = ((List.range length).map payload).getD i (s.pduUserData i) := by
  show memcpy s.pduUserData 0 payload length i = _
  unfold memcpy
  rcases Nat.lt_or_ge i length with hi | hi
  · rw [if_pos ⟨Nat.zero_le i, by omega⟩, Nat.sub_zero, List.getD_eq_getElem _ _ (by simpa using hi), List.getElem_map,
      List.getElem_range]
  · rw [if_neg (by omega), List.getD_eq_default _ _ (by simpa using hi)]

/-- **The payload of a block** is copied to the front, if it is copied. -/
theorem storeBlock_spec (s : DataSlot) (dataType : UInt8) (data : Bytes) :
    (∀ i, (s.storeBlock dataType data).pduUserData i =
      ((storedPayload dataType data).map fun p => p.getD i (s.pduUserData i)).getD (s.pduUserData i)) ∧
    (∃ writes, (s.storeBlock dataType data).copies = s.copies ++ writes ∧
      ∀ w ∈ writes, w.1 + w.2 ≤ PDU_USER_DATA_LENGTH) ∧
    (s.storeBlock dataType data).toSlot = s.toSlot ∧ (s.storeBlock dataType data).rfFrames = s.rfFrames ∧
      (s.storeBlock dataType data).repeatDataPacket = s.repeatDataPacket := by
  unfold storeBlock storedPayload
  split
  · refine ⟨fun i => storePayload_apply s _ 12 i, ⟨[(0, 12)], rfl, ?_⟩, rfl, rfl, rfl⟩
    decide
  · split
    · cases Trellis.decode34 data fun _ => 0x00 with
      | some payload =>
          refine ⟨fun i => storePayload_apply s payload 18 i, ⟨[(0, 18)], rfl, ?_⟩, rfl, rfl, rfl⟩
          decide
      | none => exact ⟨fun i => rfl, ⟨[], (List.append_nil _).symm, nofun⟩, rfl, rfl, rfl⟩
    · exact ⟨fun i => rfl, ⟨[], (List.append_nil _).symm, nofun⟩, rfl, rfl, rfl⟩

end Frames

/-! ## One block -/

/-- What a run did to the user data and to the copies. -/
structure Collected (s : DataSlot) (payloads : List (List UInt8)) (s' : DataSlot) : Prop where
  userData : ∀ i, s'.pduUserData i = lastAt payloads i
  copies : ∃ writes, s'.copies = s.copies ++ writes ∧ ∀ w ∈ writes, w.1 + w.2 ≤ PDU_USER_DATA_LENGTH

theorem lastAt_append (payloads : List (List UInt8)) (o : Option (List UInt8)) (i : Nat) :
    lastAt (payloads ++ o.toList) i = (o.map fun p => p.getD i (lastAt payloads i)).getD (lastAt payloads i) := by
  unfold lastAt
  rw [List.foldl_append]
  cases o <;> rfl

/-- A block is added to what was collected. -/
theorem Collected.storeBlock {s s' : DataSlot} {payloads : List (List UInt8)} (h : Collected s payloads s')
    (dataType : UInt8) (data : Bytes) :
    Collected s (payloads ++ (storedPayload dataType data).toList) (s'.storeBlock dataType data) := by
  obtain ⟨huserData, ⟨writes, hcopies, hinside⟩, -⟩ := storeBlock_spec s' dataType data
  obtain ⟨before, hbefore, hbeforeInside⟩ := h.copies
  refine ⟨fun i => ?_, before ++ writes, ?_, fun w hw => ?_⟩
  · rw [huserData i, lastAt_append, h.userData i]
  · rw [hcopies, hbefore, List.append_assoc]
  · rcases List.mem_append.mp hw with hw | hw
    · exact hbeforeInside w hw
    · exact hinside w hw

theorem Collected.congr {s s' s'' : DataSlot} {payloads : List (List UInt8)} (h : Collected s payloads s')
    (huserData : s''.pduUserData = s'.pduUserData) (hcopies : s''.copies = s'.copies) : Collected s payloads s'' :=
  ⟨fun i => huserData ▸ h.userData i, hcopies ▸ h.copies⟩

/-- The state behind some blocks. -/
structure Behind (side : Side) (b : Nat) (s : DataSlot) (frames : List DataFrame) (s' : DataSlot) : Prop where
  counts : (side.remaining s').toNat = b - frames.length
  active : side.Active s' ↔ frames.length < b
  collected : Collected s (storedOf side (frames.take b)) s'

/-- A block that is counted: what it is stored as, and the counter. -/
theorem processBlock_counted {s : DataSlot} {dataType : UInt8} {data : Bytes} (hstate : s.rfState = RS_RF_DATA)
    (hframes : s.rfFrames ≠ 0) :
    (s.processBlock dataType data).2.pduUserData = (s.storeBlock dataType data).pduUserData ∧
      (s.processBlock dataType data).2.copies = (s.storeBlock dataType data).copies ∧
        (s.processBlock dataType data).2.rfFrames = s.rfFrames - 1 ∧
          ((s.processBlock dataType data).2.rfState = RS_RF_DATA ↔ s.rfFrames - 1 ≠ 0) := by
  obtain ⟨-, -, hslot, hrfFrames, -⟩ := storeBlock_spec s dataType data
  unfold processBlock
  rw [if_neg (by rw [not_or]; exact ⟨not_not.mpr hstate, hframes⟩)]
  dsimp only
  rw [hrfFrames]
  generalize s.storeBlock dataType data = stored at hslot
  obtain ⟨log, hwrite⟩ := writeData_eq { stored with rfFrames := s.rfFrames - 1 } dataType
  rw [hwrite]
  obtain ⟨length, used, log', hadd⟩ := addData_if_eq { stored with rfFrames := s.rfFrames - 1, dataLog := log }
    (stored.duplex = true ∧ stored.repeatDataPacket = true) false (tagOf (s.rfFrames - 1)) dataType
  rw [hadd]
  dsimp only
  by_cases hlast : s.rfFrames - 1 = 0
  · rw [if_pos hlast]
    refine ⟨rfl, rfl, hlast.symm, ?_⟩
    exact iff_of_false nofun (not_not.mpr hlast)
  · rw [if_neg hlast]
    refine ⟨rfl, rfl, rfl, iff_of_true ?_ hlast⟩
    show stored.rfState = RS_RF_DATA
    rw [hslot]
    exact hstate

theorem netBlock_counted {s : DataSlot} {dataType : UInt8} {data : Bytes} (hstate : s.netState = RS_NET_DATA)
    (hframes : s.netFrames ≠ 0) :
    (s.netBlock dataType data).pduUserData = (s.storeBlock dataType data).pduUserData ∧
      (s.netBlock dataType data).copies = (s.storeBlock dataType data).copies ∧
        (s.netBlock dataType data).netFrames = s.netFrames - 1 ∧
          ((s.netBlock dataType data).netState = RS_NET_DATA ↔ s.netFrames - 1 ≠ 0) := by
  obtain ⟨-, -, hslot, -, -⟩ := storeBlock_spec s dataType data
  unfold netBlock
  rw [if_neg (by rw [not_or]; exact ⟨not_not.mpr hstate, hframes⟩)]
  dsimp only
  rw [hslot]
  generalize s.storeBlock dataType data = stored at hslot
  obtain ⟨length, used, log', hadd⟩ := addData_if_eq
    { stored with toSlot := { s.toSlot with netFrames := s.netFrames - 1 } }
    (stored.repeatDataPacket = true) true (tagOf (s.netFrames - 1)) dataType
  rw [hadd]
  dsimp only
  by_cases hlast : s.netFrames - 1 = 0
  · rw [if_pos hlast]
    refine ⟨rfl, rfl, hlast.symm, ?_⟩
    exact iff_of_false nofun (not_not.mpr hlast)
  · rw [if_neg hlast]
    exact ⟨rfl, rfl, rfl, iff_of_true hstate hlast⟩

/-- The types of a block are those of no other packet. -/
theorem isBlock_ne {dataType : UInt8} (h : isBlock dataType = true) :
    dataType ≠ DT_TERMINATOR_WITH_LC ∧ dataType ≠ DT_DATA_HEADER := by
  unfold isBlock at h
  rw [Bool.or_eq_true, Bool.or_eq_true, decide_eq_true_eq, decide_eq_true_eq, decide_eq_true_eq] at h
  rcases h with (rfl | rfl) | rfl
  · decide
  · decide
  · decide

/-- A block while the transmission goes on. -/
theorem receive_counted {side : Side} {s : DataSlot} {f : DataFrame} (hblock : isBlock (side.dataType f) = true)
    (hactive : side.Active s) (hremaining : side.remaining s ≠ 0) :
    (side.receive s f).pduUserData = (s.storeBlock (side.dataType f) f.data).pduUserData ∧
      (side.receive s f).copies = (s.storeBlock (side.dataType f) f.data).copies ∧
        side.remaining (side.receive s f) = side.remaining s - 1 ∧
          (side.Active (side.receive s f) ↔ side.remaining s - 1 ≠ 0) := by
  obtain ⟨hterminator, hheader⟩ := isBlock_ne hblock
  cases side with
  | rf =>
      change isBlock (f.control &&& 0x0F) = true at hblock
      change f.control &&& 0x0F ≠ _ at hterminator hheader
      have hprocess : s.process f.heap f.control f.data = s.processBlock (f.control &&& 0x0F) f.data := by
        unfold process
        dsimp only
        rw [if_neg hterminator, if_neg hheader, if_pos hblock]
      unfold Side.receive Side.Active Side.remaining
      dsimp only
      rw [hprocess]
      exact processBlock_counted hactive hremaining
  | net =>
      change isBlock f.control = true at hblock
      change f.control ≠ _ at hterminator hheader
      have hprocess : s.processNetwork f.heap f.control f.data = s.netBlock f.control f.data := by
        unfold processNetwork
        rw [if_neg hterminator, if_neg hheader, if_pos hblock]
      unfold Side.receive Side.Active Side.remaining
      dsimp only
      rw [hprocess]
      exact netBlock_counted hactive hremaining

/-- A block behind the end. -/
theorem receive_ended {side : Side} {s : DataSlot} {f : DataFrame} (hblock : isBlock (side.dataType f) = true)
    (hactive : ¬ side.Active s) (hremaining : side.remaining s = 0) :
    (side.receive s f).pduUserData = s.pduUserData ∧ (side.receive s f).copies = s.copies ∧
      side.remaining (side.receive s f) = 0 ∧ ¬ side.Active (side.receive s f) := by
  obtain ⟨hterminator, hheader⟩ := isBlock_ne hblock
  cases side with
  | rf =>
      change isBlock (f.control &&& 0x0F) = true at hblock
      change f.control &&& 0x0F ≠ _ at hterminator hheader
      have hprocess : s.process f.heap f.control f.data = (false, s) := by
        unfold process
        dsimp only
        rw [if_neg hterminator, if_neg hheader, if_pos hblock]
        exact if_pos (Or.inl hactive)
      unfold Side.receive
      dsimp only
      rw [hprocess]
      exact ⟨rfl, rfl, hremaining, hactive⟩
  | net =>
      change isBlock f.control = true at hblock
      change f.control ≠ _ at hterminator hheader
      have hprocess : s.processNetwork f.heap f.control f.data = s.writeEndNet := by
        unfold processNetwork
        rw [if_neg hterminator, if_neg hheader, if_pos hblock]
        exact if_pos (Or.inl hactive)
      unfold Side.receive
      dsimp only
      rw [hprocess]
      exact ⟨rfl, rfl, rfl, nofun⟩

/-! ## A run -/

theorem storedOf_append (side : Side) (frames : List DataFrame) (f : DataFrame) :
    storedOf side (frames ++ [f]) = storedOf side frames ++ (storedPayload (side.dataType f) f.data).toList := by
  unfold storedOf
  rw [List.filterMap_append]
  cases h : storedPayload (side.dataType f) f.data <;> simp [h]

/-- **One block more.** -/
theorem Behind.receive {side : Side} {b : Nat} {s s' : DataSlot} {frames : List DataFrame}
    (h : Behind side b s frames s') {f : DataFrame} (hblock : isBlock (side.dataType f) = true) :
    Behind side b s (frames ++ [f]) (side.receive s' f) := by
  have hlen : (frames ++ [f]).length = frames.length + 1 := List.length_append
  rcases Nat.lt_or_ge frames.length b with hlt | hge
  · have hne : side.remaining s' ≠ 0 := fun hzero => by
      have hcount := h.counts
      rw [hzero, UInt32.toNat_zero] at hcount
      omega
    have hle : 1 ≤ side.remaining s' := UInt32.le_iff_toNat_le.mpr (by
      rw [UInt32.toNat_one, h.counts]
      omega)
    have hsub : (side.remaining s' - 1).toNat = b - (frames.length + 1) := by
      rw [UInt32.toNat_sub_of_le _ _ hle, h.counts, UInt32.toNat_one]
      omega
    obtain ⟨huserData, hcopies, hremaining, hactive⟩ := receive_counted hblock (h.active.mpr hlt) hne
    have htake : (frames ++ [f]).take b = frames ++ [f] := List.take_of_length_le (by omega)
    refine ⟨?_, ?_, ?_⟩
    · rw [hremaining, hlen, hsub]
    · rw [hactive, hlen, ← UInt32.toNat_inj.ne, hsub, UInt32.toNat_zero]
      omega
    · rw [htake, storedOf_append]
      have hcollected := h.collected
      rw [List.take_of_length_le (Nat.le_of_lt hlt)] at hcollected
      exact (hcollected.storeBlock _ _).congr huserData hcopies
  · have hzero : side.remaining s' = 0 := UInt32.toNat_inj.mp (by
      rw [h.counts, UInt32.toNat_zero]
      omega)
    have hended : ¬ side.Active s' := fun hactive => absurd (h.active.mp hactive) (by omega)
    obtain ⟨huserData, hcopies, hremaining, hstill⟩ := receive_ended hblock hended hzero
    refine ⟨?_, iff_of_false hstill (by omega), ?_⟩
    · rw [hremaining, UInt32.toNat_zero, hlen]
      omega
    · rw [List.take_append_of_le_length hge]
      exact h.collected.congr huserData hcopies

/-- **Any number of blocks more.** -/
theorem Behind.receiveAll {side : Side} {b : Nat} {s s' : DataSlot} {frames : List DataFrame}
    (h : Behind side b s frames s') {more : List DataFrame} (hblocks : ∀ f ∈ more, isBlock (side.dataType f) = true) :
    Behind side b s (frames ++ more) (side.receiveAll s' more) := by
  induction more generalizing frames s' with
  | nil =>
      rw [List.append_nil]
      exact h
  | cons f more ih =>
      have hnext := ih (h.receive (hblocks f List.mem_cons_self)) fun g hg => hblocks g (List.mem_cons_of_mem f hg)
      rw [List.append_assoc] at hnext
      exact hnext

/-- The user data behind a header. -/
theorem Collected.cleared {s s' : DataSlot} (huserData : s'.pduUserData = fun _ => 0x00)
    (hcopies : s'.copies = s.copies ++ [(0, PDU_USER_DATA_LENGTH)]) : Collected s [] s' := by
  refine ⟨fun i => congrFun huserData i, [(0, PDU_USER_DATA_LENGTH)], hcopies, fun w hw => ?_⟩
  obtain rfl := List.mem_singleton.mp hw
  exact Nat.le_of_eq (Nat.zero_add _)

theorem startDataRF_behind (s : DataSlot) (h : DataHeader) :
    (s.startDataRF h).pduUserData = (fun _ => 0x00) ∧
      (s.startDataRF h).copies = s.copies ++ [(0, PDU_USER_DATA_LENGTH)] ∧
        (s.startDataRF h).rfFrames = h.blocks ∧ ((s.startDataRF h).rfState = RS_RF_DATA ↔ h.blocks ≠ 0) := by
  unfold startDataRF
  dsimp only
  obtain ⟨length, used, log, hadd⟩ := addData_if_eq
    { s with toSlot := { s.toSlot with rfLC := some (headerLC h) }, rfFrames := h.blocks }
    (s.duplex = true ∧ s.repeatDataPacket = true) false (tagOf h.blocks) DT_DATA_HEADER
  rw [hadd]
  obtain ⟨log', hwrite⟩ := writeData_eq
    { s with
      toSlot := { s.toSlot with rfLC := some (headerLC h), txLength := length, txUsed := used }
      rfFrames := h.blocks
      dataLog := log } DT_DATA_HEADER
  dsimp only at hwrite ⊢
  rw [hwrite]
  unfold clearUserData
  dsimp only
  by_cases hzero : h.blocks = 0
  · rw [if_pos hzero]
    exact ⟨rfl, rfl, hzero.symm, iff_of_false nofun (not_not.mpr hzero)⟩
  · rw [if_neg hzero]
    exact ⟨rfl, rfl, rfl, iff_of_true rfl hzero⟩

theorem startDataNet_behind (s : DataSlot) (h : DataHeader) :
    (s.startDataNet h).pduUserData = (fun _ => 0x00) ∧
      (s.startDataNet h).copies = s.copies ++ [(0, PDU_USER_DATA_LENGTH)] ∧
        (s.startDataNet h).netFrames = h.blocks ∧ ((s.startDataNet h).netState = RS_NET_DATA ↔ h.blocks ≠ 0) := by
  unfold startDataNet
  dsimp only
  obtain ⟨length, used, hidle⟩ := Slot.addFrames_eq { s.toSlot with netFrames := h.blocks, netLC := some (headerLC h) }
    true 2
  rw [hidle]
  obtain ⟨length', used', log, hadd⟩ := addData_eq
    { s with
      toSlot := { s.toSlot with
        netFrames := h.blocks, netLC := some (headerLC h), txLength := length, txUsed := used } }
    true (tagOf h.blocks) DT_DATA_HEADER
  dsimp only at hadd ⊢
  rw [hadd]
  unfold clearUserData
  dsimp only
  by_cases hzero : h.blocks = 0
  · rw [if_pos hzero]
    exact ⟨rfl, rfl, hzero.symm, iff_of_false nofun (not_not.mpr hzero)⟩
  · rw [if_neg hzero]
    exact ⟨rfl, rfl, rfl, iff_of_true rfl hzero⟩

theorem stopPayloadRetry_eq (s : DataSlot) : ∃ timer, s.stopPayloadRetry = { s with tsccPayloadActRetry := timer } := by
  unfold stopPayloadRetry
  split
  · exact ⟨_, rfl⟩
  · exact ⟨s.tsccPayloadActRetry, rfl⟩

/-- **Behind the header.** -/
theorem behind_header {side : Side} {s : DataSlot} {f : DataFrame} {h : DataHeader}
    (htype : side.dataType f = DT_DATA_HEADER)
    (hdecode : DataHeader.decode (DataHeader.new f.heap) f.data = (true, h)) (haccepts : side.Accepts s h) :
    Behind side h.blocks.toNat s [] (side.receive s f) := by
  have hpos : h.blocks ≠ 0 ↔ ([] : List DataFrame).length < h.blocks.toNat := by
    rw [← UInt32.toNat_inj.ne, UInt32.toNat_zero, List.length_nil]
    omega
  cases side with
  | rf =>
      obtain ⟨hidle, hrefused, hrejected⟩ := haccepts
      obtain ⟨timer, hretry⟩ := stopPayloadRetry_eq { s with rfDataHeader := some h }
      have hreceive : Side.rf.receive s f =
          startDataRF { s with rfDataHeader := some h, tsccPayloadActRetry := timer } h := by
        show (s.process f.heap f.control f.data).2 = _
        unfold process
        rw [show f.control &&& 0x0F = DT_DATA_HEADER from htype]
        dsimp only
        rw [if_neg (by decide), if_pos rfl]
        unfold processHeader
        rw [if_neg hidle, hdecode]
        dsimp only
        rw [hretry, hrefused, show Slot.isRejected _ (headerLC h) = false from hrejected]
        rfl
      rw [hreceive]
      obtain ⟨huserData, hcopies, hframes, hactive⟩ :=
        startDataRF_behind { s with rfDataHeader := some h, tsccPayloadActRetry := timer } h
      refine ⟨?_, hactive.trans hpos, ?_⟩
      · show (startDataRF _ h).rfFrames.toNat = _
        rw [hframes]
        rfl
      · rw [List.take_nil]
        exact Collected.cleared huserData hcopies
  | net =>
      obtain ⟨hidle, hunpermitted, hhanging⟩ := haccepts
      obtain ⟨timer, hretry⟩ := stopPayloadRetry_eq { s with netDataHeader := some h }
      have hreceive : Side.net.receive s f =
          startDataNet { s with netDataHeader := some h, tsccPayloadActRetry := timer } h := by
        show s.processNetwork f.heap f.control f.data = _
        unfold processNetwork
        rw [show f.control = DT_DATA_HEADER from htype, if_neg (by decide), if_pos rfl]
        unfold netHeader
        rw [if_neg hidle, hdecode]
        dsimp only
        rw [hretry, hunpermitted, hhanging]
        rfl
      rw [hreceive]
      obtain ⟨huserData, hcopies, hframes, hactive⟩ :=
        startDataNet_behind { s with netDataHeader := some h, tsccPayloadActRetry := timer } h
      refine ⟨?_, hactive.trans hpos, ?_⟩
      · show (startDataNet _ h).netFrames.toNat = _
        rw [hframes]
        rfl
      · rw [List.take_nil]
        exact Collected.cleared huserData hcopies

/-- **What the user data hold** behind the last block. -/
theorem userData_receiveAll {side : Side} {s : DataSlot} {f : DataFrame} {h : DataHeader}
    (htype : side.dataType f = DT_DATA_HEADER)
    (hdecode : DataHeader.decode (DataHeader.new f.heap) f.data = (true, h)) (haccepts : side.Accepts s h)
    {frames : List DataFrame} (hblocks : ∀ g ∈ frames, isBlock (side.dataType g) = true) (i : Nat) :
    (side.receiveAll s (f :: frames.take h.blocks.toNat)).pduUserData i =
      lastAt (storedOf side (frames.take h.blocks.toNat)) i := by
  have hbehind : Behind side h.blocks.toNat s (frames.take h.blocks.toNat)
      (side.receiveAll s (f :: frames.take h.blocks.toNat)) :=
    (behind_header htype hdecode haccepts).receiveAll fun g hg => hblocks g (List.mem_of_mem_take hg)
  rw [hbehind.collected.userData i, List.take_take, Nat.min_self]

/-- **When a packet is assembled.** Behind a header that starts a transmission, in any run of blocks, the octets of the
    packet have to be those of the last payloads that were copied. -/
theorem assembles_iff (other : DataFrame → List UInt8) {side : Side} {s : DataSlot} {f : DataFrame} {h : DataHeader}
    (htype : side.dataType f = DT_DATA_HEADER)
    (hdecode : DataHeader.decode (DataHeader.new f.heap) f.data = (true, h)) (haccepts : side.Accepts s h)
    {frames : List DataFrame} (hblocks : ∀ g ∈ frames, isBlock (side.dataType g) = true) :
    Assembles other side h.blocks.toNat s f frames ↔
      (h.blocks.toNat ≤ frames.length → ∀ i < (packetOf other side (frames.take h.blocks.toNat)).length,
        lastAt (storedOf side (frames.take h.blocks.toNat)) i =
          (packetOf other side (frames.take h.blocks.toNat)).getD i 0x00) := by
  have hfirst := behind_header htype hdecode haccepts
  have hbehind : ∀ k, Behind side h.blocks.toNat s (frames.take k) (side.receiveAll s (f :: frames.take k)) := fun k =>
    hfirst.receiveAll fun g hg => hblocks g (List.mem_of_mem_take hg)
  have huserData := userData_receiveAll htype hdecode haccepts hblocks
  constructor
  · intro hassembles hlen i hi
    rw [← huserData i]
    exact hassembles.contents hlen i hi
  · intro hlast
    refine ⟨fun k hk => ?_, fun k hk => ?_, ?_, fun hlen i hi => ?_⟩
    · rw [(hbehind k).counts, List.length_take, Nat.min_eq_left hk]
    · rw [(hbehind k).active, List.length_take, Nat.min_eq_left hk]
    · have hall := (hbehind frames.length).collected.copies
      rwa [List.take_length] at hall
    · rw [huserData i]
      exact hlast hlen i hi

/-! ## Packets of one and of two blocks -/

/-- A new slot of a site with all defaults. -/
def new (length : Nat) : DataSlot where
  toSlot := Slot.new length
  hangCount := 3
  rfFrames := 0
  rfDataHeader := none
  netDataHeader := none
  tsccPayloadDstId := 0
  tsccPayloadActRetry := Timer.new 1000 1 0
  repeatDataPacket := true
  pduUserData := fun _ => 0x00
  pduDataOffset := 0
  copies := []
  dataLog := []

/-- An unconfirmed header with `blocks` to follow. -/
def headerFrame (blocks : UInt32) : DataFrame where
  control := DT_DATA_HEADER
  data := (DataHeader.encode { DataHeader.new fun _ => 0x00 with DPF := DPF_UNCONFIRMED_DATA, blocks } fun _ => 0x00).2
  heap := fun _ => 0x00

/-- A block of rate 1/2 that carries twelve times the same octet. -/
def blockFrame (octet : UInt8) : DataFrame where
  control := DT_RATE_12_DATA
  data := BPTC19696.encode (fun _ => octet) fun _ => 0x00
  heap := fun _ => 0x00

theorem decode_headerFrame {blocks : UInt32} (h : blocks.toNat < 128) :
    ∃ header : DataHeader, DataHeader.decode (DataHeader.new (headerFrame blocks).heap) (headerFrame blocks).data =
      (true, header) ∧ header.GI = false ∧ header.blocks = blocks := by
  have hblank : DataHeader.Legal { DataHeader.new fun _ => 0x00 with DPF := DPF_UNCONFIRMED_DATA } := by
    constructor <;> decide
  have hlegal : DataHeader.Legal { DataHeader.new fun _ => 0x00 with DPF := DPF_UNCONFIRMED_DATA, blocks } :=
    { hblank with
      blocks := h
      blocks_udt := nofun }
  obtain ⟨m_data, hm, hdecode⟩ := DataHeader.decode_octets
    { DataHeader.new fun _ => 0x00 with DPF := DPF_UNCONFIRMED_DATA, blocks } (DataHeader.new fun _ => 0x00)
    fun _ => 0x00
  have hrecovered := DataHeader.recovered_unconfirmed hlegal hm rfl (DataHeader.new fun _ => 0x00)
  exact ⟨_, hdecode, hrecovered.1, hrecovered.2.2.2.2.2.2.1⟩

/-- A new slot takes every packet for one radio. -/
theorem accepts_new (length : Nat) {h : DataHeader} (hGI : h.GI = false) : Side.rf.Accepts (new length) h := by
  refine ⟨nofun, rfl, ?_⟩
  have hsource : AccessControl.validateSrcId (Slot.new length).acl (headerLC h).srcId = true := by
    show (!(!(RadioIdLookup.find ⟨∅⟩ h.srcId).radioDefault && !(RadioIdLookup.find ⟨∅⟩ h.srcId).radioEnabled)) = true
    unfold RadioIdLookup.find
    split <;> rfl
  have hflco : (headerLC h).FLCO = FLCO_PRIVATE := by
    show (if h.GI then FLCO_GROUP else FLCO_PRIVATE) = FLCO_PRIVATE
    rw [hGI]
    rfl
  show Slot.isRejected (Slot.new length) (headerLC h) = false
  unfold Slot.isRejected
  rw [hsource, hflco]
  rfl

theorem dataType_blockFrame (octet : UInt8) : Side.rf.dataType (blockFrame octet) = DT_RATE_12_DATA := by
  show DT_RATE_12_DATA &&& 0x0F = DT_RATE_12_DATA
  decide

theorem storedPayload_blockFrame (octet : UInt8) :
    storedPayload (Side.rf.dataType (blockFrame octet)) (blockFrame octet).data = some (List.replicate 12 octet) := by
  rw [dataType_blockFrame]
  refine congrArg some (List.ext_getElem ?_ fun j hj _ => ?_)
  · rw [List.length_map, List.length_range, List.length_replicate]
  · rw [List.length_map, List.length_range] at hj
    rw [List.getElem_map, List.getElem_range, List.getElem_replicate]
    exact BPTC19696.decode_clean _ _ _ hj

theorem isBlock_of_mem_map {octets : List UInt8} :
    ∀ g ∈ octets.map blockFrame, isBlock (Side.rf.dataType g) = true := by
  intro g hg
  obtain ⟨octet, -, rfl⟩ := List.mem_map.mp hg
  rw [dataType_blockFrame]
  rfl

theorem storedOf_blockFrame (octets : List UInt8) :
    storedOf .rf (octets.map blockFrame) = octets.map (List.replicate 12) := by
  unfold storedOf
  induction octets with
  | nil => rfl
  | cons octet octets ih => simp only [List.map_cons, List.filterMap_cons, storedPayload_blockFrame octet, ih]

theorem packetOf_blockFrame (octets : List UInt8) :
    packetOf (fun _ => []) .rf (octets.map blockFrame) = octets.flatMap (List.replicate 12) := by
  unfold packetOf
  rw [List.flatMap_map]
  refine congrArg octets.flatMap (funext fun octet => ?_)
  rw [storedPayload_blockFrame octet]
  rfl

/-- A packet of one block is assembled. -/
theorem assembles_iff_single : ∃ h : DataHeader, h.blocks = 1 ∧
    Assembles (fun _ => []) .rf h.blocks.toNat (new 30) (headerFrame 1) ([0x01].map blockFrame) := by
  obtain ⟨h, hdecode, hGI, hblocks⟩ := decode_headerFrame (show (1 : UInt32).toNat < 128 by decide)
  refine ⟨h, hblocks, ?_⟩
  have htype : Side.rf.dataType (headerFrame 1) = DT_DATA_HEADER := rfl
  refine (assembles_iff (fun _ => []) htype hdecode (accepts_new 30 hGI) isBlock_of_mem_map).mpr ?_
  rw [hblocks, show ([0x01].map blockFrame).take (1 : UInt32).toNat = [0x01].map blockFrame from rfl,
    storedOf_blockFrame, packetOf_blockFrame]
  intro _ i _
  rfl

/-- **The second block replaces the first**: behind two blocks of rate 1/2 the packet is not there. -/
theorem packet_overwritten : ¬ ∀ (other : DataFrame → List UInt8) (side : Side) (s : DataSlot) (f : DataFrame)
    (h : DataHeader) (frames : List DataFrame), side.dataType f = DT_DATA_HEADER →
      DataHeader.decode (DataHeader.new f.heap) f.data = (true, h) → side.Accepts s h →
        (∀ g ∈ frames, isBlock (side.dataType g) = true) → Assembles other side h.blocks.toNat s f frames := by
  intro hall
  obtain ⟨h, hdecode, hGI, hblocks⟩ := decode_headerFrame (show (2 : UInt32).toNat < 128 by decide)
  have haccepts := accepts_new 30 hGI
  have htype : Side.rf.dataType (headerFrame 2) = DT_DATA_HEADER := rfl
  have hframes : ∀ g ∈ [0x01, 0x02].map blockFrame, isBlock (Side.rf.dataType g) = true := isBlock_of_mem_map
  have hassembles := hall (fun _ => []) .rf (new 30) (headerFrame 2) h ([0x01, 0x02].map blockFrame) htype hdecode
    haccepts hframes
  have huserData := userData_receiveAll htype hdecode haccepts hframes 0
  have hcontents := hassembles.contents
  rw [hblocks] at huserData hcontents
  rw [show ([0x01, 0x02].map blockFrame).take (2 : UInt32).toNat = [0x01, 0x02].map blockFrame from rfl]
    at huserData hcontents
  -- octet 0 of the packet is 1, and the user data start with the 2 of the second block
  have hfirst := hcontents (Nat.le_refl 2) 0 (by rw [packetOf_blockFrame]; decide)
  rw [huserData, storedOf_blockFrame, packetOf_blockFrame] at hfirst
  exact absurd hfirst (by decide)

end DataSlot

end Dmr

end DvmHost

import DvmHost.Common.P25.Data.Correctness.HeaderRoundTrip
import DvmHost.Lib.Run

/-!
# `Common.P25.Data.Correctness.LengthAccounting` — how many octets follow a header

`decode`, `setBlocksToFollow` and `setPadCount` each compute the octets of the blocks that follow a header, without
the padding and the CRC-32. The difference is stored in an unsigned member and nothing compares its two sides: the
member is the number of octets exactly while the blocks have room for padding and CRC (`dataOctets_iff`), and wraps
around otherwise, for a header without blocks among others.
-/

namespace DvmHost

namespace P25

namespace DataHeader

open Lib

/-! ## The number of octets -/

/-- The octets of one block. -/
def blockOctets (fmt : UInt8) : Nat := if fmt = PDU_FMT_CONFIRMED then 16 else 12

/-- The octets that the fields of a header leave for data. -/
def count (h : DataHeader) : Int := blockOctets h.fmt * h.blocksToFollow.toNat - h.padCount.toNat - 4

/-- The blocks have room for the padding and the CRC-32. -/
def Room (fmt blocksToFollow padCount : UInt8) : Prop := 4 + padCount.toNat ≤ blockOctets fmt * blocksToFollow.toNat

instance (fmt blocksToFollow padCount : UInt8) : Decidable (Room fmt blocksToFollow padCount) :=
  inferInstanceAs (Decidable (_ ≤ _))

/-- The member is a negative number that wrapped around. -/
def WrapsAround (h : DataHeader) : Prop := h.count < 0 ∧ (h.dataOctets.toNat : Int) = h.count + 2 ^ 32

/-- The member is the number of octets, and no negative number in disguise. -/
def Accounted (h : DataHeader) : Prop := (0 ≤ h.count → (h.dataOctets.toNat : Int) = h.count) ∧ ¬ WrapsAround h

/-- The member is what the other fields compute. -/
def Computed (h : DataHeader) : Prop :=
    h.dataOctets =
      if h.fmt = PDU_FMT_CONFIRMED then 16 * h.blocksToFollow.toUInt32 - 4 - h.padCount.toUInt32
      else 12 * h.blocksToFollow.toUInt32 - 4 - h.padCount.toUInt32

theorem count_nonneg_iff (h : DataHeader) : 0 ≤ h.count ↔ Room h.fmt h.blocksToFollow h.padCount := by
  unfold count Room
  omega

/-- The unsigned difference, with room and without. -/
theorem toNat_difference {size : UInt32} (hsize : size.toNat ≤ 16) (b p : UInt8) :
    ((size * b.toUInt32 - 4 - p.toUInt32).toNat : Int) =
      if 4 + p.toNat ≤ size.toNat * b.toNat then (size.toNat * b.toNat : Int) - p.toNat - 4
      else (size.toNat * b.toNat : Int) - p.toNat - 4 + 2 ^ 32 := by
  have hb := b.toNat_lt
  have hp := p.toNat_lt
  have hprod : size.toNat * b.toNat ≤ 16 * 255 := Nat.mul_le_mul hsize (by omega)
  have hcast : ((size.toNat * b.toNat : Nat) : Int) = (size.toNat : Int) * b.toNat := Int.natCast_mul ..
  rw [UInt32.toNat_sub, UInt32.toNat_sub, UInt32.toNat_mul, UInt8.toNat_toUInt32, UInt8.toNat_toUInt32, ← hcast]
  generalize size.toNat * b.toNat = n at hprod ⊢
  have h4 : (4 : UInt32).toNat = 4 := rfl
  rw [h4]
  split <;> omega

theorem toNat_dataOctets {h : DataHeader} (hcomp : Computed h) :
    (h.dataOctets.toNat : Int) =
      if Room h.fmt h.blocksToFollow h.padCount then h.count else h.count + 2 ^ 32 := by
  unfold Computed at hcomp
  rw [hcomp]
  unfold Room count blockOctets
  split
  · exact toNat_difference (by decide) h.blocksToFollow h.padCount
  · exact toNat_difference (by decide) h.blocksToFollow h.padCount

/-- **The member is right exactly where the blocks have room.** -/
theorem accounted_iff {h : DataHeader} (hcomp : Computed h) :
    Accounted h ↔ Room h.fmt h.blocksToFollow h.padCount := by
  have hnat := toNat_dataOctets hcomp
  constructor
  · intro hacc
    by_contra hroom
    rw [if_neg hroom] at hnat
    exact hacc.2 ⟨Int.not_le.mp fun hle => hroom ((count_nonneg_iff h).mp hle), hnat⟩
  · intro hroom
    rw [if_pos hroom] at hnat
    exact ⟨fun _ => hnat, fun hwrap => absurd ((count_nonneg_iff h).mpr hroom) (Int.not_le.mpr hwrap.1)⟩

/-! ## Decoding -/

/-- The octets that `decode` reads a header from. -/
def headerOctets (h : DataHeader) (data : Bytes) (noTrellis : Bool) : Option Bytes :=
  if noTrellis then some fun k => if k < P25_PDU_HEADER_LENGTH_BYTES then data k else h.data k
  else Trellis.decode12 data h.data

/-- The blocks of a received header have room. -/
def RoomReceived (octets : Bytes) : Prop :=
    let fmt := octets 0 &&& 0x1F
    Room fmt (octets 6 &&& 0x7F) (if fmt = PDU_FMT_RSP ∨ fmt = PDU_FMT_AMBT then 0 else octets 7 &&& 0x1F)

/-- The `switch` leaves the lengths. -/
theorem decodeFormat_lengths (h : DataHeader) :
    (decodeFormat h).fmt = h.fmt ∧ (decodeFormat h).blocksToFollow = h.blocksToFollow ∧
      (decodeFormat h).padCount = h.padCount ∧ (decodeFormat h).dataOctets = h.dataOctets := by
  unfold decodeFormat decodeDefault
  dsimp only
  split
  · exact ⟨rfl, rfl, rfl, rfl⟩
  · split
    · split <;> exact ⟨rfl, rfl, rfl, rfl⟩
    · split <;> exact ⟨rfl, rfl, rfl, rfl⟩

theorem decode_accepted {h : DataHeader} {warnCRC noTrellis : Bool} {data octets : Bytes}
    (hread : headerOctets h data noTrellis = some octets) (haccept : (decode h warnCRC data noTrellis).1 = true) :
    (decode h warnCRC data noTrellis).2 = decodeFormat (decodeCommon { h with data := octets }) := by
  unfold headerOctets at hread
  unfold decode at haccept ⊢
  dsimp only at haccept ⊢
  rw [hread] at haccept ⊢
  dsimp only at haccept ⊢
  split at haccept
  · exact absurd haccept Bool.false_ne_true
  next hcrc => rw [if_neg hcrc]

/-- An accepted header starts right exactly when the octets received have room. -/
theorem accounted_decode_iff {h : DataHeader} {warnCRC noTrellis : Bool} {data octets : Bytes}
    (hread : headerOctets h data noTrellis = some octets) (haccept : (decode h warnCRC data noTrellis).1 = true) :
    Accounted (decode h warnCRC data noTrellis).2 ↔ RoomReceived octets := by
  have hstart := decode_accepted hread haccept
  obtain ⟨hfmt, hblocks, hpad, hoctets⟩ := decodeFormat_lengths (decodeCommon { h with data := octets })
  have hcomp : Computed (decode h warnCRC data noTrellis).2 := by
    unfold Computed
    rw [hstart, hfmt, hblocks, hpad, hoctets]
    rfl
  rw [accounted_iff hcomp, hstart, hfmt, hblocks, hpad]
  exact Iff.rfl

/-! ## Setting the lengths -/

/-- A call of one of the setters. -/
inductive LengthCall where
  | setBlocksToFollow (blocksToFollow : UInt8)
  | setPadCount (padCount : UInt8)

/-- The header after a call. -/
def LengthCall.run : LengthCall → DataHeader → DataHeader
  | setBlocksToFollow blocksToFollow, h => h.setBlocksToFollow blocksToFollow
  | setPadCount padCount, h => h.setPadCount padCount

/-- The steps of a header: any call of a setter. -/
def LengthStep (h : DataHeader) (c : LengthCall) (h' : DataHeader) : Prop := h' = c.run h

/-- The call leaves room: what it sets fits beside what was set before. -/
def LeavesRoom (h : DataHeader) : LengthCall → Prop
  | .setBlocksToFollow blocksToFollow => Room h.fmt blocksToFollow h.padCount
  | .setPadCount padCount => Room h.fmt h.blocksToFollow padCount

theorem computed_run (h : DataHeader) (c : LengthCall) : Computed (c.run h) := by
  cases c with
  | setBlocksToFollow blocksToFollow => rfl
  | setPadCount padCount => rfl

theorem accounted_run_iff (h : DataHeader) (c : LengthCall) : Accounted (c.run h) ↔ LeavesRoom h c := by
  rw [accounted_iff (computed_run h c)]
  cases c with
  | setBlocksToFollow blocksToFollow => exact Iff.rfl
  | setPadCount padCount => exact Iff.rfl

/-- **When the octets are counted right**: in every state that calls of the setters reach from an accepted header,
    exactly when the received octets have room and every call leaves room. -/
theorem dataOctets_iff (h : DataHeader) (warnCRC noTrellis : Bool) (data octets : Bytes)
    (hread : headerOctets h data noTrellis = some octets) (haccept : (decode h warnCRC data noTrellis).1 = true)
    (calls : List (LengthCall × DataHeader)) (hrun : Run LengthStep (decode h warnCRC data noTrellis).2 calls) :
    States Accounted (decode h warnCRC data noTrellis).2 calls ↔
      RoomReceived octets ∧ Guarded LeavesRoom (decode h warnCRC data noTrellis).2 calls := by
  have hstart := accounted_decode_iff hread haccept
  -- a step keeps the member right exactly when it leaves room, whatever the state was
  have hsteps : Accounted (decode h warnCRC data noTrellis).2 →
      (States Accounted (decode h warnCRC data noTrellis).2 calls ↔
        Guarded LeavesRoom (decode h warnCRC data noTrellis).2 calls) := by
    intro hacc
    refine hrun.states_iff_guarded (I := fun _ => True) (fun {s c s'} _ _ hroom hstep => ⟨trivial, ?_⟩)
      (fun {s c s'} _ _ hstep hacc' => ?_) trivial hacc
    · rw [hstep]
      exact (accounted_run_iff s c).mpr hroom
    · rw [hstep] at hacc'
      exact (accounted_run_iff s c).mp hacc'
  constructor
  · intro hstates
    exact ⟨hstart.mp hstates.head, (hsteps hstates.head).mp hstates⟩
  · rintro ⟨hroom, hguard⟩
    exact (hsteps (hstart.mpr hroom)).mpr hguard

/-- The octets of a header that no block follows, as `encode` sends them without trellis. -/
def noBlocks : Bytes := (encode { blankHeader with blocksToFollow := 0 } (fun _ => 0) true).2

theorem dataOctets_iff_oneBlock :
    let data := (encode blankHeader (fun _ => 0) true).2
    let octets : Bytes := fun k => if k < P25_PDU_HEADER_LENGTH_BYTES then data k else new.data k
    let start := (decode new false data true).2
    headerOctets new data true = some octets ∧ (decode new false data true).1 = true ∧
      (States Accounted start [(LengthCall.setPadCount 9, start.setPadCount 9)] ↔
        RoomReceived octets ∧ Guarded LeavesRoom start [(LengthCall.setPadCount 9, start.setPadCount 9)]) := by
  intro data octets start
  have haccept : (decode new false data true).1 = true := by decide +kernel
  exact ⟨rfl, haccept, dataOctets_iff new false true data octets rfl haccept _ (Run.cons rfl Run.nil)⟩

/-- **The difference wraps around**: an accepted header without blocks has 4294967292 octets. -/
theorem dataOctets_wraps : ¬ ∀ (h : DataHeader) (warnCRC noTrellis : Bool) (data : Bytes),
    (decode h warnCRC data noTrellis).1 = true → ∀ calls : List (LengthCall × DataHeader),
      Run LengthStep (decode h warnCRC data noTrellis).2 calls →
        States Accounted (decode h warnCRC data noTrellis).2 calls := by
  intro hall
  have haccept : (decode new false noBlocks true).1 = true := by decide +kernel
  have hwrap : (decode new false noBlocks true).2.count = -4 ∧
      (decode new false noBlocks true).2.dataOctets = 4294967292 := by decide +kernel
  refine (hall new false true noBlocks haccept [] Run.nil).head.2 ⟨?_, ?_⟩
  · rw [hwrap.1]
    decide
  · rw [hwrap.1, hwrap.2]
    rfl

end DataHeader

end P25

end DvmHost

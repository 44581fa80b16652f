import DvmHost.Common.Dmr.Lc.FullLC
import DvmHost.Common.Edac.Correctness.ProductCode
import DvmHost.Common.Edac.Correctness.RS129Distance

/-!
# `Common.Dmr.Lc.Correctness.FullLcRoundTrip` — full link control comes back from its burst

The product code gives back the twelve octets that `encode` built, so what `decode` checks is their parity, under the
sum of the sender's and the receiver's masks. That sum is zero for the same type and none of the two masks' octets
otherwise.
-/

namespace DvmHost

namespace Dmr

namespace FullLC

theorem xor_eq_self_iff {a b : UInt8} : a ^^^ b = a ↔ b = 0 := by
  constructor
  · intro h
    rw [← UInt8.xor_right_inj a, h, UInt8.xor_zero]
  · intro h
    rw [h, UInt8.xor_zero]

theorem unmask_of_lt (mask lcData : Bytes) {i : Nat} (hi : i < 9) : unmask mask lcData i = lcData i := by
  unfold unmask
  simp (disch := omega) only [setByte_of_ne]

theorem unmask_parity (mask lcData : Bytes) {j : Nat} (hj : j < 3) :
    unmask mask lcData (9 + j) = lcData (9 + j) ^^^ mask j := by
  have hj3 : j = 0 ∨ j = 1 ∨ j = 2 := by omega
  rcases hj3 with rfl | rfl | rfl <;> simp [unmask, setByte]

theorem addParity_of_lt (mask lcData : Bytes) {i : Nat} (hi : i < 9) : addParity mask lcData i = lcData i := by
  unfold addParity
  simp (disch := omega) only [setByte_of_ne]

theorem addParity_parity (mask lcData : Bytes) {j : Nat} (hj : j < 3) :
    addParity mask lcData (9 + j) = RS129.encode lcData 9 (fun _ => 0) (2 - j) ^^^ mask j := by
  have hj3 : j = 0 ∨ j = 1 ∨ j = 2 := by omega
  rcases hj3 with rfl | rfl | rfl <;> simp [addParity, setByte]

/-- The octets that `decode` checks. -/
def received (data mask : Bytes) : Bytes := unmask mask (BPTC19696.decode data fun _ => 0)

theorem decode_eq {type : UInt8} {mask : Bytes} (hmask : crcMask type = some mask) (data : Bytes) :
    decode data type = if RS129.check (received data mask) then some (LC.ofData (received data mask)) else none := by
  simp only [decode, hmask]
  rfl

section Burst

variable {mask mask' : Bytes} {S : List Nat} (hS : S.length ≤ 3) (lcData frame : Bytes)

include hS

theorem received_of_lt {i : Nat} (hi : i < 9) :
    received (flipBits S (BPTC19696.encode (addParity mask lcData) frame)) mask' i = lcData i := by
  rw [received, unmask_of_lt _ _ hi, BPTC19696.decode_repaired _ _ _ hS (by omega), addParity_of_lt _ _ hi]

theorem received_parity {j : Nat} (hj : j < 3) :
    received (flipBits S (BPTC19696.encode (addParity mask lcData) frame)) mask' (9 + j)
      = RS129.encode lcData 9 (fun _ => 0) (2 - j) ^^^ (mask j ^^^ mask' j) := by
  rw [received, unmask_parity _ _ hj, BPTC19696.decode_repaired _ _ _ hS (by omega), addParity_parity _ _ hj,
    UInt8.xor_assoc]

/-- The check passes exactly when the two masks are the same. -/
theorem check_received :
    RS129.check (received (flipBits S (BPTC19696.encode (addParity mask lcData) frame)) mask') = true ↔
      ∀ j < 3, mask j = mask' j := by
  have hparity : ∀ j < 3, received (flipBits S (BPTC19696.encode (addParity mask lcData) frame)) mask' (9 + j)
      = RS129.encode lcData 9 (fun _ => 0) (2 - j) ↔ mask j = mask' j := fun j hj => by
    rw [received_parity hS lcData frame hj, xor_eq_self_iff, UInt8.xor_eq_zero_iff]
  rw [RS129.check_iff (fun i hi => received_of_lt hS lcData frame hi) fun _ => 0]
  constructor
  · rintro ⟨h9, h10, h11⟩ j hj
    have hj3 : j = 0 ∨ j = 1 ∨ j = 2 := by omega
    rcases hj3 with rfl | rfl | rfl
    · exact (hparity 0 hj).mp h9
    · exact (hparity 1 hj).mp h10
    · exact (hparity 2 hj).mp h11
  · intro h
    exact ⟨(hparity 0 (by decide)).mpr (h 0 (by decide)), (hparity 1 (by decide)).mpr (h 1 (by decide)),
      (hparity 2 (by decide)).mpr (h 2 (by decide))⟩

end Burst

/-- The two types of a burst with a link control. -/
def linkTypes : List UInt8 := [DT_VOICE_LC_HEADER, DT_TERMINATOR_WITH_LC]

theorem exists_crcMask {type : UInt8} (h : type ∈ linkTypes) : ∃ mask, crcMask type = some mask := by
  rcases List.mem_cons.mp h with rfl | h
  · exact ⟨VOICE_LC_HEADER_CRC_MASK, rfl⟩
  · obtain rfl := List.mem_singleton.mp h
    exact ⟨TERMINATOR_WITH_LC_CRC_MASK, rfl⟩

/-- The masks of two types agree in no octet. -/
theorem crcMask_zero_ne {type type' : UInt8} (h : type ∈ linkTypes) (h' : type' ∈ linkTypes) (hne : type ≠ type')
    {mask mask' : Bytes} (hmask : crcMask type = some mask) (hmask' : crcMask type' = some mask') :
    mask 0 ≠ mask' 0 := by
  have hall : (linkTypes.all fun type => linkTypes.all fun type' => type ≠ type' →
      (crcMask type).map (fun mask => mask 0) ≠ (crcMask type').map (fun mask => mask 0)) = true := by decide
  have hpair := of_decide_eq_true (List.all_eq_true.mp (List.all_eq_true.mp hall type h) type' h')
  intro heq
  refine hpair hne ?_
  rw [hmask, hmask', Option.map_some, Option.map_some, heq]

/-- A burst is decoded as the type it was encoded as. -/
theorem decode_same {type : UInt8} (htype : type ∈ linkTypes) (lc : LC) (frame : Bytes) {S : List Nat}
    (hS : S.length ≤ 3) :
    decode (flipBits S (encode lc frame type)) type = some (LC.ofData lc.getData) := by
  obtain ⟨mask, hmask⟩ := exists_crcMask htype
  have hburst : encode lc frame type = BPTC19696.encode (addParity mask lc.getData) frame := by
    simp only [encode, hmask]
  have hoctets : LC.ofData (received (flipBits S (BPTC19696.encode (addParity mask lc.getData) frame)) mask)
      = LC.ofData lc.getData := LC.ofData_congr fun i hi => received_of_lt hS lc.getData frame hi
  rw [hburst, decode_eq hmask, if_pos ((check_received hS _ _).mpr fun _ _ => rfl), hoctets]

/-- **Full link control.** For every link control, frame and one of the two types, and at most three inverted bits of
    the burst: decoding the burst as that type gives what the constructor makes of the nine octets, which is the link
    control itself exactly when its fields fit; decoding it as the other type gives none. And what is decoded from any
    burst comes from twelve octets that, under the mask of the type, vanish at the three roots of the code. -/
theorem fullLc_recovered (type : UInt8) (htype : type ∈ linkTypes) :
    (∀ (lc : LC) (frame : Bytes) (S : List Nat), S.length ≤ 3 →
      decode (flipBits S (encode lc frame type)) type = some (LC.ofData lc.getData) ∧
      (decode (flipBits S (encode lc frame type)) type = some lc ↔ lc.Fits) ∧
      ∀ type' ∈ linkTypes, type' ≠ type → decode (flipBits S (encode lc frame type)) type' = none) ∧
    ∀ (data : Bytes) (lc : LC), decode data type = some lc →
      ∃ mask, crcMask type = some mask ∧ lc = LC.ofData (received data mask) ∧
        ∀ r ∈ RS129.roots, RS129.syndrome r (received data mask) = 0 := by
  obtain ⟨mask, hmask⟩ := exists_crcMask htype
  refine ⟨fun lc frame S hS => ?_, fun data lc h => ?_⟩
  · have hburst : encode lc frame type = BPTC19696.encode (addParity mask lc.getData) frame := by
      simp only [encode, hmask]
    have hsame := decode_same htype lc frame hS
    refine ⟨hsame, ?_, fun type' htype' hne => ?_⟩
    · rw [hsame, Option.some_inj, LC.ofData_getData]
    · obtain ⟨mask', hmask'⟩ := exists_crcMask htype'
      rw [hburst, decode_eq hmask', if_neg]
      intro hcheck
      exact crcMask_zero_ne htype htype' (Ne.symm hne) hmask hmask'
        ((check_received hS _ _).mp hcheck 0 (by decide))
  · rw [decode_eq hmask] at h
    split at h
    · next hcheck =>
      exact ⟨mask, hmask, (Option.some_inj.mp h).symm, fun r hr => RS129.syndrome_of_check hcheck hr⟩
    · cases h

/-- A voice header, from which the receiver gets a link control of its own. -/
theorem fullLc_recovered_header :
    DT_VOICE_LC_HEADER ∈ linkTypes ∧
    ∀ lc : LC, decode (flipBits [1, 30, 230] (encode lc (fun _ => 0) DT_VOICE_LC_HEADER)) DT_VOICE_LC_HEADER
      = some (LC.ofData lc.getData) :=
  ⟨by decide, fun lc => ((fullLc_recovered DT_VOICE_LC_HEADER (by decide)).1 lc (fun _ => 0) [1, 30, 230]
    (by decide)).1⟩

/-- A source of 25 bits is not recovered. -/
theorem fullLc_source_truncated :
    let lc : LC := ⟨false, FLCO_GROUP, 0, 0x1000001, 1, false, false, false, false, 2, false⟩
    decode (encode lc (fun _ => 0) DT_VOICE_LC_HEADER) DT_VOICE_LC_HEADER ≠ some lc := by
  intro lc h
  have hheader : DT_VOICE_LC_HEADER ∈ linkTypes := by decide
  have hsame := decode_same hheader lc (fun _ => 0) (S := []) (by decide)
  rw [show flipBits [] (encode lc (fun _ => 0) DT_VOICE_LC_HEADER) = encode lc (fun _ => 0) DT_VOICE_LC_HEADER from rfl]
    at hsame
  have hfits : lc.Fits := (LC.ofData_getData lc).mp (Option.some_inj.mp (hsame.symm.trans h))
  exact absurd hfits.srcId (by decide)

end FullLC

end Dmr

end DvmHost

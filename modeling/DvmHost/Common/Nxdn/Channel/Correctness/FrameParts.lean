import DvmHost.Common.Nxdn.Channel.Correctness.ChannelRoundTrip
import DvmHost.Common.Nxdn.Channel.LICH
import DvmHost.Common.Nxdn.NXDNUtils

/-!
# `Common.Nxdn.Channel.Correctness.FrameParts` — the parts of a frame are read apart

The sync, the LICH, the SACCH and two FACCH1 lie side by side in the 384 bits of a frame. Each part is read back from
any frame that agrees with what was written in the part's own region (`LICH.decode_of_agree`, `SACCH.recover_of_agree`,
`FACCH1.recover_of_agree`), so the parts behind it do not matter. The scrambler undoes itself.
-/

namespace DvmHost.Nxdn

open Channel

/-! ## The scrambler -/

theorem scrambler_apply (data : Bytes) (k : Nat) :
    scrambler data k = if k < NXDN_FRAME_LENGTH_BYTES then data k ^^^ SCRAMBLER.getD k 0 else data k := by
  have hfold : ∀ n, ((List.range n).foldl (fun data i => setByte data i (data i ^^^ SCRAMBLER.getD i 0)) data : Bytes) k
      = if k < n then data k ^^^ SCRAMBLER.getD k 0 else data k := by
    intro n
    induction n generalizing k with
    | zero => rw [if_neg (Nat.not_lt_zero k), List.range_zero, List.foldl_nil]
    | succ n ih =>
        rw [List.range_succ, List.foldl_append, List.foldl_cons, List.foldl_nil]
        by_cases hk : k = n
        · rw [setByte_of_eq _ _ hk, ih, hk, if_neg (Nat.lt_irrefl n), if_pos (Nat.lt_succ_self n)]
        · rw [setByte_of_ne _ _ hk, ih]
          by_cases hlt : k < n
          · rw [if_pos hlt, if_pos (by omega)]
          · rw [if_neg hlt, if_neg (by omega)]
  exact hfold NXDN_FRAME_LENGTH_BYTES

/-- The scrambler undoes itself. -/
@[simp] theorem scrambler_scrambler (data : Bytes) : scrambler (scrambler data) = data := by
  funext k
  rw [scrambler_apply, scrambler_apply]
  split
  · rw [UInt8.xor_assoc, UInt8.xor_self, UInt8.xor_zero]
  · rfl

/-! ## Frames that agree -/

/-- Two frames have the same bits from `first` on, `length` of them. -/
def Agree (first length : Nat) (data data' : Bytes) : Prop :=
  ∀ k, first ≤ k → k < first + length → readBit data k = readBit data' k

theorem Agree.refl (first length : Nat) (data : Bytes) : Agree first length data data := fun _ _ _ => rfl

theorem Agree.trans {first length : Nat} {a b d : Bytes} (hab : Agree first length a b) (hbd : Agree first length b d) :
    Agree first length a d := fun k hfirst hlast => (hab k hfirst hlast).trans (hbd k hfirst hlast)

/-- A channel writes nothing outside of its own region. -/
theorem Agree.of_encodeBits {c : Coding} {m : Nat} (hc : Sound c m) (mem : Memory) (base : Nat) (buffer data : Bytes)
    {first length : Nat} (hapart : first + length ≤ base ∨ base + c.fecBits ≤ first) :
    Agree first length (encodeBits c mem base buffer data) data := fun k hfirst hlast =>
  readBit_encodeBits_outside hc mem base buffer data (by omega)

/-! ## The LICH -/

namespace LICH

theorem readBit_writeTurns (lich : UInt8) (data : Bytes) (n k : Nat) :
    readBit ((List.range n).foldl (writeTurn lich) data) k
      = if 20 ≤ k ∧ k < 20 + 2 * n then if (k - 20) % 2 = 0 then readBit (fun _ => lich) ((k - 20) / 2) else true
        else readBit data k := by
  induction n with
  | zero => rw [if_neg (by omega), List.range_zero, List.foldl_nil]
  | succ n ih =>
      rw [List.range_succ, List.foldl_append, List.foldl_cons, List.foldl_nil, writeTurn, readBit_writeBit,
        readBit_writeBit, ih, NXDN_FSW_LENGTH_BITS]
      rcases (by omega : k = 20 + 2 * n + 1 ∨ k = 20 + 2 * n ∨ (k ≠ 20 + 2 * n + 1 ∧ k ≠ 20 + 2 * n))
        with rfl | rfl | ⟨h1, h0⟩
      · rw [if_pos rfl, if_pos (by omega), if_neg (by omega)]
      · rw [if_neg (by omega), if_pos rfl, if_pos (by omega), if_pos (by omega)]
        congr 1
        omega
      · rw [if_neg h1, if_neg h0]
        by_cases hk : 20 ≤ k ∧ k < 20 + 2 * n
        · rw [if_pos hk, if_pos (show 20 ≤ k ∧ k < 20 + 2 * (n + 1) by omega)]
        · rw [if_neg hk, if_neg (by omega)]

theorem agree_encode (l : LICH) (data : Bytes) {first length : Nat} (hapart : first + length ≤ 20 ∨ 36 ≤ first) :
    Agree first length (l.encode data) data := fun k hfirst hlast => by
  rw [encode, readBit_writeTurns, NXDN_LICH_LENGTH_BITS, if_neg (by omega)]

theorem bitOf_readLICH (data : Bytes) {j : Nat} (hj : j < 8) : bitOf (readLICH data) j = readBit data (20 + 2 * j) := by
  have h := readBit_writeBits (fun _ => 0x00) 0 8 (fun i => readBit data (20 + 2 * i)) j
  simp only [Nat.zero_add, Nat.sub_zero, Nat.zero_le, true_and] at h
  rw [if_pos hj, readBit_eq, Nat.div_eq_of_lt hj, Nat.mod_eq_of_lt hj] at h
  exact h

theorem readLICH_of_agree {l : LICH} {data frame : Bytes} (hagree : Agree 20 16 frame (l.encode data)) :
    readLICH frame = l.octet := by
  refine byte_ext fun j hj => ?_
  rw [bitOf_readLICH frame hj, hagree _ (by omega) (by omega), encode, readBit_writeTurns, NXDN_LICH_LENGTH_BITS,
    if_pos (by omega), if_pos (by omega), show (20 + 2 * j - 20) / 2 = j by omega, readBit_eq, Nat.mod_eq_of_lt hj]

/-- The fields that are in the octet, of two bits each, and its parity. -/
theorem octet_fields (l : LICH) :
    (decide (l.octet &&& 0x01 = 0x01) == getParity l.octet) = true ∧
      l.octet >>> (6 : UInt8) &&& 0x03 = l.m_rfct &&& 0x03 ∧ l.octet >>> (4 : UInt8) &&& 0x03 = l.m_fct &&& 0x03 ∧
      l.octet >>> (2 : UInt8) &&& 0x03 = l.m_option &&& 0x03 ∧
      decide (l.octet >>> (1 : UInt8) &&& 0x01 = 0x01) = l.m_outbound := by
  have hall : ∀ (a b d : Fin 4) (o : Bool),
      let l : LICH := ⟨UInt8.ofNat a, UInt8.ofNat b, UInt8.ofNat d, o, 0⟩
      (decide (l.octet &&& 0x01 = 0x01) == getParity l.octet) = true ∧
        l.octet >>> (6 : UInt8) &&& 0x03 = UInt8.ofNat a ∧ l.octet >>> (4 : UInt8) &&& 0x03 = UInt8.ofNat b ∧
        l.octet >>> (2 : UInt8) &&& 0x03 = UInt8.ofNat d ∧ decide (l.octet >>> (1 : UInt8) &&& 0x01 = 0x01) = o := by
    decide
  have hlt : ∀ v : UInt8, (v &&& 0x03).toNat < 4 := fun v => by
    rw [UInt8.toNat_and]
    exact Nat.lt_succ_of_le Nat.and_le_right
  have hmask : l.octet = (⟨l.m_rfct &&& 0x03, l.m_fct &&& 0x03, l.m_option &&& 0x03, l.m_outbound, 0⟩ : LICH).octet := by
    unfold octet
    dsimp only
    simp only [UInt8.and_assoc, UInt8.and_self]
  have h := hall ⟨_, hlt l.m_rfct⟩ ⟨_, hlt l.m_fct⟩ ⟨_, hlt l.m_option⟩ l.m_outbound
  simp only [UInt8.ofNat_toNat] at h
  rw [hmask]
  exact h

/-- **The LICH is read back.** -/
theorem decode_of_agree {l : LICH} {data frame : Bytes} (hagree : Agree 20 16 frame (l.encode data)) :
    (decode frame).1 = true ∧ (decode frame).2.m_rfct = l.m_rfct &&& 0x03 ∧
      (decode frame).2.m_fct = l.m_fct &&& 0x03 ∧ (decode frame).2.m_option = l.m_option &&& 0x03 ∧
      (decode frame).2.m_outbound = l.m_outbound := by
  unfold decode
  rw [readLICH_of_agree hagree]
  exact l.octet_fields

end LICH

/-! ## The coded channels -/

theorem deinterleave_congr {c : Coding} {m : Nat} (hc : Sound c m) {base : Nat} {data data' : Bytes}
    (hagree : Agree base c.fecBits data data') :
    deinterleave c.interleaveTable base c.fecBits data (fun _ => 0)
      = deinterleave c.interleaveTable base c.fecBits data' fun _ => 0 := by
  refine List.foldl_ext _ _ _ fun buffer i hi => ?_
  have hlen := hc.tableLength
  have hlt := hc.tableLt (c.interleaveTable.getD i 0) (by
    rw [List.getD_eq_getElem _ _ (by have := List.mem_range.mp hi; omega)]
    exact List.getElem_mem _)
  rw [hagree _ (by omega) (by omega)]

theorem decodeBits_congr {c : Coding} {m : Nat} (hc : Sound c m) (mem : Memory) {base : Nat} {data data' : Bytes}
    (hagree : Agree base c.fecBits data data') (puncture m_data : Bytes) :
    decodeBits c mem base data puncture m_data = decodeBits c mem base data' puncture m_data := by
  unfold decodeBits symbolsOf
  rw [deinterleave_congr hc hagree]

theorem encodeBits_congr {c : Coding} {mem mem' : Memory} (hpast : mem'.past = mem.past) (base : Nat)
    (buffer data : Bytes) : encodeBits c mem base buffer data = encodeBits c mem' base buffer data := by
  unfold encodeBits
  rw [hpast]

theorem flipBits_nil (p : Bytes) : flipBits [] p = p := rfl

section Recover

variable {mem mem' : Memory} (hpast : mem'.past = mem.past) {data frame : Bytes}

include hpast

/-- **The SACCH is read back**, by a program with the same tables. -/
theorem SACCH.recover_of_agree (tx rx : SACCH) (hagree : Agree 36 60 frame (tx.encode mem data).2) :
    (rx.decode mem' frame).1 = true ∧ (rx.decode mem' frame).2.Holds tx := by
  have hsame : (tx.encode mem data).2 = (tx.encode mem' data).2 := by
    unfold SACCH.encode
    dsimp only
    rw [encodeBits_congr hpast]
  have hframe : rx.decode mem' frame = rx.decode mem' (tx.encode mem' data).2 := by
    have hregion : Agree SACCH.base SACCH.coding.fecBits frame (tx.encode mem' data).2 := hsame ▸ hagree
    unfold SACCH.decode
    rw [decodeBits_congr SACCH.sound mem' hregion]
  have hrecover := SACCH.recover mem' data (S := []) (Nat.zero_le _) tx rx
  rw [flipBits_nil] at hrecover
  rw [hframe]
  exact hrecover

/-- **A FACCH1 is read back**, by a program with the same tables. -/
theorem FACCH1.recover_of_agree (tx rx : FACCH1) (offset : Nat)
    (hagree : Agree offset 144 frame (tx.encode mem data offset)) :
    (rx.decode mem' frame offset).1 = true ∧ (rx.decode mem' frame offset).2.Holds tx := by
  have hsame : tx.encode mem data offset = tx.encode mem' data offset := by
    unfold FACCH1.encode
    dsimp only
    rw [encodeBits_congr hpast]
  have hframe : rx.decode mem' frame offset = rx.decode mem' (tx.encode mem' data offset) offset := by
    have hregion : Agree offset FACCH1.coding.fecBits frame (tx.encode mem' data offset) := hsame ▸ hagree
    unfold FACCH1.decode
    rw [decodeBits_congr FACCH1.sound mem' hregion]
  have hrecover := FACCH1.recover mem' data (S := []) (Nat.zero_le _) tx rx offset
  rw [flipBits_nil] at hrecover
  rw [hframe]
  exact hrecover

end Recover

end DvmHost.Nxdn

import DvmHost.Common.Edac.CRC
import DvmHost.Lib.Remainder

/-!
# `Common.Edac.Correctness.CrcTables` — checksums by table and bit by bit

An octet moves a register of `Lib.Lfsr` by eight steps, and the tables of the CCITT-16 and of the 32-bit CRC hold what
eight steps make of the zero register: the loops over octets are runs over the bits, and their values the remainders
of the buffers. `CCITT16_TABLE1` is that of a register which takes the lowest bit of an octet first and is kept the
other way round.

Each entry of `CRC9_TABLE` is the remainder of a single bit with all nine bits inverted. The entries of the set bits
are added, so the inversion is in the sum when they are odd in number, and cancels when they are even.
-/

namespace DvmHost

open Lib Lib.Remainder Polynomial

namespace CRC

/-- The bits of the first `n` octets of a buffer, each octet's in the order it is read in. -/
def octetBits (order : UInt8 → Nat → Bool) (inp : Bytes) (n : Nat) : List Bool :=
  (List.range (8 * n)).map fun k => order (inp (k / 8)) (k % 8)

/-- The lowest bit first. -/
def lowFirst (b : UInt8) (j : Nat) : Bool := b.toBitVec.getLsbD j

theorem octetBits_bitOf (inp : Bytes) (n : Nat) : octetBits bitOf inp n = bitList inp (8 * n) := by
  unfold octetBits bitList
  exact List.map_congr_left fun k _ => (readBit_eq inp k).symm

theorem octetBits_succ (order : UInt8 → Nat → Bool) (inp : Bytes) (n : Nat) :
    octetBits order inp (n + 1) = octetBits order inp n ++ (List.range 8).map (order (inp n)) := by
  unfold octetBits
  rw [Nat.mul_succ, List.range_add, List.map_append, List.map_map]
  congr 1
  refine List.map_congr_left fun j hj => ?_
  have hj8 := List.mem_range.mp hj
  have hdiv : (8 * n + j) / 8 = n := by omega
  have hmod : (8 * n + j) % 8 = j := by omega
  rw [Function.comp_apply, hdiv, hmod]

/-! ## An octet at a time -/

/-- The run lemma of the loops over octets: a turn that is eight steps of a register makes the loop the run over
    the bits. -/
theorem foldl_octets {σ : Type} {w : Nat} {poly : BitVec w} (view : σ → BitVec w) {turn : σ → UInt8 → σ}
    {order : UInt8 → Nat → Bool}
    (hturn : ∀ crc b, view (turn crc b) = Lfsr.run poly (view crc) ((List.range 8).map (order b)))
    (crc : σ) (inp : Bytes) (n : Nat) :
    view ((List.range n).foldl (fun crc i => turn crc (inp i)) crc) =
      Lfsr.run poly (view crc) (octetBits order inp n) := by
  induction n with
  | zero => rfl
  | succ n ih =>
      rw [List.range_succ, List.foldl_append, octetBits_succ, Lfsr.run_append, ← ih]
      exact hturn _ _

/-- A turn of a loop is eight steps of the register, when it moves the register up by an octet and adds the entry
    of the octet that left it and the octet that comes in. -/
theorem turn_eq_run {w : Nat} (hw : 8 ≤ w) {poly s s' : BitVec w} {entry : BitVec 8 → BitVec w} (idx : BitVec 8)
    {bits : BitVec 8 → Nat → Bool} {o : Nat → Bool}
    (hentry : ∀ t, entry t = Lfsr.run poly 0#w ((List.range 8).map (bits t)))
    (hidx : ∀ i < 8, bits idx i = (s.getMsbD i ^^ o i)) (hs : s' = s <<< 8 ^^^ entry idx) :
    s' = Lfsr.run poly s ((List.range 8).map o) := by
  rw [Lfsr.run_stretch poly s hw, hs, hentry]
  congr 2
  exact List.map_congr_left fun i hi => hidx i (List.mem_range.mp hi)

/-! ## The tables -/

/-- The polynomial of the 32-bit register. -/
def poly32 : BitVec 32 := 0x04C11DB7

/-- `CCITT16_TABLE2` holds what eight steps make of the zero register. -/
theorem table2_eq : ∀ t : BitVec 8, (CCITT16_TABLE2.getD t.toNat 0).toBitVec =
    Lfsr.run poly16 0#16 ((List.range 8).map t.getMsbD) := by
  decide +kernel

/-- `CCITT16_TABLE1` holds it the other way round. -/
theorem table1_eq : ∀ t : BitVec 8, (CCITT16_TABLE1.getD t.toNat 0).toBitVec.reverse =
    Lfsr.run poly16 0#16 ((List.range 8).map t.getLsbD) := by
  decide +kernel

/-- `CRC32_TABLE` holds what eight steps make of the zero register. -/
theorem table32_eq : ∀ t : BitVec 8, (CRC32_TABLE.getD t.toNat 0).toBitVec =
    Lfsr.run poly32 0#32 ((List.range 8).map t.getMsbD) := by
  decide +kernel

-- the last bit of an octet meets the register at its top
example : CRC32_TABLE.getD 0x01 0 = 0x04C11DB7 := by decide +kernel

/-- A turn of the CCITT-162. -/
theorem toBitVec_ccitt162Step (crc : UInt16) (b : UInt8) :
    (ccitt162Step crc b).toBitVec = Lfsr.run poly16 crc.toBitVec ((List.range 8).map (bitOf b)) := by
  refine turn_eq_run (by decide) ((crc >>> (8 : UInt16)).toUInt8 ^^^ b).toBitVec table2_eq ?_ ?_
  · intro i hi
    have hbit : ((crc >>> (8 : UInt16)).toUInt8).toBitVec.getMsbD i = crc.toBitVec.getMsbD i := by
      change ((crc.toBitVec >>> 8).setWidth 8).getMsbD i = crc.toBitVec.getMsbD i
      simp [BitVec.getMsbD_setWidth, BitVec.getMsbD_ushiftRight]
      omega
    rw [UInt8.toBitVec_xor, BitVec.getMsbD_xor, hbit]
    rfl
  · have hshift : (crc.toUInt8.toUInt16 <<< (8 : UInt16)).toBitVec = crc.toBitVec <<< 8 := by
      change ((crc.toBitVec.setWidth 8).setWidth 16) <<< 8 = crc.toBitVec <<< 8
      apply BitVec.eq_of_getLsbD_eq
      intro i hi
      rw [BitVec.getLsbD_shiftLeft, BitVec.getLsbD_shiftLeft, BitVec.getLsbD_setWidth, BitVec.getLsbD_setWidth]
      have hlow : i - 8 < 8 := by omega
      have hwide : i - 8 < 16 := by omega
      simp [hlow, hwide]
    unfold ccitt162Step
    rw [UInt16.toBitVec_xor, hshift]
    rfl

theorem reverse_xor {w : Nat} (s t : BitVec w) : (s ^^^ t).reverse = s.reverse ^^^ t.reverse := by
  apply BitVec.eq_of_getLsbD_eq
  intro i _
  rw [BitVec.getLsbD_xor, BitVec.getLsbD_reverse, BitVec.getLsbD_reverse, BitVec.getLsbD_reverse, BitVec.getMsbD_xor]

/-- A turn of the CCITT-161. -/
theorem reverse_ccitt161Step (crc : UInt16) (b : UInt8) :
    (ccitt161Step crc b).toBitVec.reverse =
      Lfsr.run poly16 crc.toBitVec.reverse ((List.range 8).map (lowFirst b)) := by
  refine turn_eq_run (by decide) (crc.toUInt8 ^^^ b).toBitVec table1_eq ?_ ?_
  · intro i hi
    have hbit : crc.toUInt8.toBitVec.getLsbD i = crc.toBitVec.reverse.getMsbD i := by
      change (crc.toBitVec.setWidth 8).getLsbD i = crc.toBitVec.reverse.getMsbD i
      rw [BitVec.getMsbD_reverse, BitVec.getLsbD_setWidth, decide_eq_true hi, Bool.true_and]
    rw [UInt8.toBitVec_xor, BitVec.getLsbD_xor, hbit]
    rfl
  · have hshift : (crc >>> (8 : UInt16)).toUInt8.toUInt16.toBitVec.reverse = crc.toBitVec.reverse <<< 8 := by
      change (((crc.toBitVec >>> 8).setWidth 8).setWidth 16).reverse = crc.toBitVec.reverse <<< 8
      apply BitVec.eq_of_getMsbD_eq
      intro i hi
      rw [BitVec.getMsbD_reverse, BitVec.getMsbD_shiftLeft, BitVec.getMsbD_reverse, BitVec.getLsbD_setWidth,
        BitVec.getLsbD_setWidth, BitVec.getLsbD_ushiftRight, Nat.add_comm i 8]
      by_cases h8 : i < 8
      · simp [h8, hi]
      · have hhigh : crc.toBitVec.getLsbD (8 + i) = false := BitVec.getLsbD_of_ge _ _ (by omega)
        rw [hhigh, Bool.and_false, Bool.and_false]
    unfold ccitt161Step
    rw [UInt16.toBitVec_xor, reverse_xor, hshift]
    rfl

/-- A turn of the loops of the 32-bit CRC. -/
theorem toBitVec_crc32Turn (crc : UInt32) (b : UInt8) :
    (CRC32_TABLE.getD ((crc >>> (24 : UInt32) ^^^ b.toUInt32) &&& 0xFF).toNat 0 ^^^ crc <<< (8 : UInt32)).toBitVec =
      Lfsr.run poly32 crc.toBitVec ((List.range 8).map (bitOf b)) := by
  let idx : BitVec 8 := (crc.toBitVec >>> 24).setWidth 8 ^^^ b.toBitVec
  refine turn_eq_run (by decide) idx table32_eq ?_ ?_
  · intro i hi
    have hbit : ((crc.toBitVec >>> 24).setWidth 8).getMsbD i = crc.toBitVec.getMsbD i := by
      simp [BitVec.getMsbD_setWidth, BitVec.getMsbD_ushiftRight]
      omega
    change ((crc.toBitVec >>> 24).setWidth 8 ^^^ b.toBitVec).getMsbD i = _
    rw [BitVec.getMsbD_xor, hbit]
    rfl
  · have hidx : ((crc >>> (24 : UInt32) ^^^ b.toUInt32) &&& 0xFF).toNat = idx.toNat := by
      have hmask (x : BitVec 32) : (x &&& 0xFF#32).toNat = (x.setWidth 8).toNat := by
        rw [BitVec.toNat_and, BitVec.toNat_setWidth]
        exact Nat.and_two_pow_sub_one_eq_mod x.toNat 8
      change (((crc.toBitVec >>> 24) ^^^ b.toBitVec.setWidth 32) &&& 0xFF#32).toNat = idx.toNat
      rw [hmask, BitVec.setWidth_xor, BitVec.setWidth_setWidth_of_le _ (by decide), BitVec.setWidth_eq]
    rw [UInt32.toBitVec_xor, hidx, BitVec.xor_comm]
    rfl

/-! ## The checksums -/

/-- The CCITT-162 is a register that starts with zeros, inverted. -/
theorem toBitVec_ccitt162 (inp : Bytes) (n : Nat) :
    (ccitt162 inp (n + 2)).toBitVec = ~~~Lfsr.run poly16 0#16 (bitList inp (8 * n)) := by
  have hrun := foldl_octets UInt16.toBitVec toBitVec_ccitt162Step 0 inp n
  rw [octetBits_bitOf] at hrun
  unfold ccitt162
  rw [Nat.add_sub_cancel, UInt16.toBitVec_not, hrun]
  rfl

/-- The CCITT-161 is one that starts with ones and takes the bits in the other order. -/
theorem reverse_ccitt161 (inp : Bytes) (n : Nat) :
    (ccitt161 inp (n + 2)).toBitVec.reverse =
      ~~~Lfsr.run poly16 (BitVec.allOnes 16) (octetBits lowFirst inp n) := by
  have hrun := foldl_octets (fun crc : UInt16 => crc.toBitVec.reverse) reverse_ccitt161Step 0xFFFF inp n
  have hnot (s : BitVec 16) : (~~~s).reverse = ~~~s.reverse := by
    rw [← BitVec.xor_allOnes, reverse_xor, ← BitVec.xor_allOnes]
    rfl
  unfold ccitt161
  rw [Nat.add_sub_cancel, UInt16.toBitVec_not, hnot, hrun]
  rfl

theorem toBitVec_crc32 (inp : Bytes) (n : Nat) :
    (crc32 inp (n + 4)).toBitVec = ~~~Lfsr.run poly32 0#32 (bitList inp (8 * n)) := by
  have hrun := foldl_octets UInt32.toBitVec toBitVec_crc32Turn 0 inp n
  rw [octetBits_bitOf] at hrun
  unfold crc32
  rw [Nat.add_sub_cancel, UInt32.toBitVec_not, hrun]
  rfl

theorem ofReg_not_run {w : Nat} (poly s : BitVec w) (msg : List Bool) :
    ofReg (~~~Lfsr.run poly s msg) = remainder poly s msg + ofReg (BitVec.allOnes w) := by
  rw [← ofReg_run, ← ofReg_xor, BitVec.xor_allOnes]

/-! ## The 9-bit checksum -/

/-- The P25 generator of the 9-bit checksum. -/
def poly9 : BitVec 9 := 0x059

/-- The bits of a confirmed data block that the 9-bit checksum protects: the serial number and the sixteen octets
    behind the checksum. -/
def protectedBits (block : Bytes) : List Bool :=
  (List.range 135).map fun i => readBit block (if i < 7 then i else i + 9)

/-- An entry is the remainder of its bit, inverted. -/
theorem table9_eq : ∀ i < 135, (CRC9_TABLE.getD i 0).toBitVec =
    (Lfsr.run poly9 0#9 (true :: List.replicate (134 - i) false) ^^^ BitVec.allOnes 9).setWidth 16 := by
  decide +kernel

theorem ofReg_table9 {i : Nat} (hi : i < 135) : ofReg (CRC9_TABLE.getD i 0).toBitVec =
    remainder poly9 0#9 (true :: List.replicate (134 - i) false) + ofReg (BitVec.allOnes 9) := by
  rw [table9_eq i hi, ofReg_setWidth _ (by decide), ofReg_xor, ofReg_run]

theorem and_xor_mask (a b m : UInt16) : (a ^^^ b) &&& m = a &&& m ^^^ b &&& m := by
  apply UInt16.toNat_inj.mp
  rw [UInt16.toNat_and, UInt16.toNat_xor, UInt16.toNat_xor, UInt16.toNat_and, UInt16.toNat_and,
    Nat.and_xor_distrib_right]

theorem crc9Bit_and (i : Nat) : crc9Bit i &&& 0x1FF = crc9Bit i := by
  have hall : (CRC9_TABLE.all fun e => e &&& 0x1FF = e) = true := by decide
  have hentry (k : Nat) : CRC9_TABLE.getD k 0 &&& 0x1FF = CRC9_TABLE.getD k 0 := by
    rw [List.getD_eq_getElem?_getD]
    cases hk : CRC9_TABLE[k]? with
    | none => rfl
    | some e => exact of_decide_eq_true (List.all_eq_true.mp hall e (List.mem_of_getElem? hk))
  unfold crc9Bit
  split
  · exact hentry i
  · split
    · exact hentry (i - 9)
    · rfl

/-- The loop of `crc9`: the sum of the entries of the set bits, which the mask leaves alone. -/
theorem ofReg_crc9_sum (block : Bytes) (n : Nat) :
    ofReg (crc9 block n).toBitVec =
      ∑ i ∈ Finset.range n, C (bit (readBit block i)) * ofReg (crc9Bit i).toBitVec := by
  have hmask : (List.range n).foldl (fun crc i => if readBit block i then crc ^^^ crc9Bit i else crc) 0 &&& 0x1FF =
      (List.range n).foldl (fun crc i => if readBit block i then crc ^^^ crc9Bit i else crc) 0 := by
    induction n with
    | zero => exact UInt16.zero_and
    | succ n ih =>
        rw [List.range_succ, List.foldl_append, List.foldl_cons, List.foldl_nil]
        split
        · rw [and_xor_mask, ih, crc9Bit_and]
        · exact ih
  unfold crc9
  rw [hmask]
  clear hmask
  induction n with
  | zero => exact ofReg_zero
  | succ n ih =>
      rw [List.range_succ, List.foldl_append, List.foldl_cons, List.foldl_nil, Finset.sum_range_succ, ← ih]
      cases readBit block n
      · rw [if_neg Bool.false_ne_true, bit_false, C_0, zero_mul, add_zero]
      · rw [if_pos rfl, UInt16.toBitVec_xor, ofReg_xor, bit_true, C_1, one_mul]

/-- The octets of the checksum are left out. -/
theorem ofReg_crc9_table (block : Bytes) :
    ofReg (crc9 block 144).toBitVec =
      ∑ i ∈ Finset.range 135, C (bit (readBit block (if i < 7 then i else i + 9))) *
        ofReg (CRC9_TABLE.getD i 0).toBitVec := by
  have hfirst : ∀ i ∈ Finset.range 7, C (bit (readBit block i)) * ofReg (crc9Bit i).toBitVec =
      C (bit (readBit block (if i < 7 then i else i + 9))) * ofReg (CRC9_TABLE.getD i 0).toBitVec := by
    intro i hi
    have hi7 := Finset.mem_range.mp hi
    unfold crc9Bit
    rw [if_pos hi7, if_pos hi7]
  have hsum : ∑ i ∈ Finset.range 9, C (bit (readBit block (7 + i))) * ofReg (crc9Bit (7 + i)).toBitVec = 0 := by
    refine Finset.sum_eq_zero fun i hi => ?_
    have hi9 := Finset.mem_range.mp hi
    unfold crc9Bit
    rw [if_neg (by omega), if_neg (by omega)]
    exact (congrArg _ ofReg_zero).trans (mul_zero _)
  have hlast : ∀ i ∈ Finset.range 128,
      C (bit (readBit block (7 + 9 + i))) * ofReg (crc9Bit (7 + 9 + i)).toBitVec =
        C (bit (readBit block (if 7 + i < 7 then 7 + i else 7 + i + 9))) *
          ofReg (CRC9_TABLE.getD (7 + i) 0).toBitVec := by
    intro i _
    have hplace : 7 + 9 + i - 9 = 7 + i := by omega
    have hbit : 7 + 9 + i = 7 + i + 9 := by omega
    unfold crc9Bit
    rw [if_neg (by omega), if_pos (by omega), if_neg (by omega), hplace, hbit]
  rw [ofReg_crc9_sum, show 144 = 7 + 9 + 128 from rfl, Finset.sum_range_add, Finset.sum_range_add, hsum, add_zero,
    Finset.sum_congr rfl hfirst, Finset.sum_congr rfl hlast, ← Finset.sum_range_add]

/-- The set bits of a list, counted modulo two. -/
theorem sum_bit_eq_count (n : Nat) (o : Nat → Bool) :
    ∑ i ∈ Finset.range n, bit (o i) = (((List.range n).map o).count true : ZMod 2) := by
  induction n with
  | zero => rfl
  | succ n ih =>
      rw [Finset.sum_range_succ, ih, List.range_succ, List.map_append, List.count_append, Nat.cast_add]
      congr 1
      rw [List.map_singleton, List.count_singleton]
      cases o n <;> simp

/-- **The 9-bit checksum** is the remainder of the protected bits, inverted once for each set bit. -/
theorem ofReg_crc9 (block : Bytes) :
    ofReg (crc9 block 144).toBitVec = remainder poly9 0#9 (protectedBits block) +
      ofReg (if Odd ((protectedBits block).count true) then BitVec.allOnes 9 else 0#9) := by
  have hinverted : ofReg (if Odd ((protectedBits block).count true) then BitVec.allOnes 9 else 0#9) =
      C ((protectedBits block).count true : ZMod 2) * ofReg (BitVec.allOnes 9) := by
    by_cases hodd : Odd ((protectedBits block).count true)
    · rw [if_pos hodd, ZMod.natCast_eq_one_iff_odd.mpr hodd, C_1, one_mul]
    · rw [if_neg hodd, ZMod.natCast_eq_zero_iff_even.mpr (Nat.not_odd_iff_even.mp hodd), C_0, zero_mul, ofReg_zero]
  rw [hinverted, protectedBits, ← sum_bit_eq_count, remainder_map_range, map_sum, Finset.sum_mul,
    ← Finset.sum_add_distrib, ofReg_crc9_table]
  refine Finset.sum_congr rfl fun i hi => ?_
  rw [ofReg_table9 (Finset.mem_range.mp hi), mul_add]

/-- **Checksums by table are the remainders of their definitions**: the CCITT-16 of either table and the 32-bit one for
    every buffer, while that of a data block takes a given inversion just when its set bits are odd in number and the
    inversion is of all bits, or even and there is none. -/
theorem tables_iff (inp : Bytes) (n : Nat) (block : Bytes) (inversion : BitVec 9) :
    (ofReg (ccitt162 inp (n + 2)).toBitVec =
        remainder poly16 0#16 (bitList inp (8 * n)) + ofReg (BitVec.allOnes 16) ∧
      ofReg (ccitt161 inp (n + 2)).toBitVec.reverse =
        remainder poly16 (BitVec.allOnes 16) (octetBits lowFirst inp n) + ofReg (BitVec.allOnes 16) ∧
      ofReg (crc32 inp (n + 4)).toBitVec =
        remainder poly32 0#32 (bitList inp (8 * n)) + ofReg (BitVec.allOnes 32) ∧
      ofReg (crc9 block 144).toBitVec = remainder poly9 0#9 (protectedBits block) + ofReg inversion) ↔
    inversion = if Odd ((protectedBits block).count true) then BitVec.allOnes 9 else 0#9 := by
  constructor
  · rintro ⟨-, -, -, hcrc9⟩
    rw [ofReg_crc9] at hcrc9
    have hinversion := add_left_cancel hcrc9
    exact (ofReg_injective hinversion).symm
  · rintro rfl
    rw [toBitVec_ccitt162, reverse_ccitt161, toBitVec_crc32, ofReg_not_run, ofReg_not_run, ofReg_not_run]
    exact ⟨rfl, rfl, rfl, ofReg_crc9 block⟩

/-- No inversion is that of a block of zeros and of one whose last bit is set. -/
theorem no_fixed_inversion : ¬∃ inversion : BitVec 9, ∀ block ∈ [fun _ => 0x00, setByte (fun _ => 0x00) 17 0x01],
    ofReg (crc9 block 144).toBitVec = remainder poly9 0#9 (protectedBits block) + ofReg inversion := by
  rintro ⟨inversion, h⟩
  have hinv : ∀ block ∈ [fun _ => (0x00 : UInt8), setByte (fun _ => 0x00) 17 0x01],
      (if Odd ((protectedBits block).count true) then BitVec.allOnes 9 else 0#9) = inversion := by
    intro block hblock
    have hcrc9 := h block hblock
    rw [ofReg_crc9] at hcrc9
    have hinversion := add_left_cancel hcrc9
    exact ofReg_injective hinversion
  have hzeros := hinv (fun _ => 0x00) (by simp)
  have hbit := hinv (setByte (fun _ => 0x00) 17 0x01) (by simp)
  have heven : (protectedBits fun _ => 0x00).count true = 0 := by decide
  have hodd : (protectedBits (setByte (fun _ => 0x00) 17 0x01)).count true = 1 := by decide
  rw [heven, if_neg (by decide)] at hzeros
  rw [hodd, if_pos (by decide), ← hzeros] at hbit
  exact absurd hbit (by decide)

end CRC

end DvmHost

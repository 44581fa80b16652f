import DvmHost.Common.Edac.Correctness.CrcTables

/-!
# `Common.Edac.Correctness.CrcBursts` — what the checks let through

Each pair of an `add` and a `check` writes and compares a register of `Lib.Lfsr` behind the data, in the order the
register has its bits, with or without an inversion. A stamped buffer therefore checks, and a buffer that a burst of
at most the width of the CRC has altered does not, in the data, in the CRC or across the two.

The register of the CCITT-161 takes the octets with their lowest bit first, and that is the order in which its bursts
are detected for the same reason. For bursts in the order of `READ_BIT` it takes its table: the first of the three
octets that such a burst can touch determines the other two, and none of them leaves the burst.
-/

namespace DvmHost

open Lib

namespace CRC

/-- The check accepts what is stamped, and nothing that a burst of at most `w` of the first `n` bits makes of it. -/
def Detects (w n : Nat) (bits : Bytes → Nat → Bool) (check : Bytes → Bool) (stamped : Bytes) : Prop :=
  check stamped = true ∧ ∀ out, Lfsr.Burst w n (bits stamped) (bits out) → check out = false

/-- A check that finds a register behind the data detects bursts. -/
theorem detects_of_stored {w : Nat} (poly : BitVec w) {init : BitVec w} (hodd : poly.getLsbD 0 = true) {n : Nat}
    {bits : Bytes → Nat → Bool} {inverted : Bool} {check : Bytes → Bool} {stamped : Bytes}
    (hstamped : check stamped = true)
    (hstored : ∀ out, check out = true → ∀ j < w,
      bits out (n + j) = ((Lfsr.run poly init ((List.range n).map (bits out))).getMsbD j ^^ inverted)) :
    Detects w (n + w) bits check stamped := by
  refine ⟨hstamped, fun out hburst => ?_⟩
  by_contra hcheck
  rw [Bool.not_eq_false] at hcheck
  exact Lfsr.not_stored_of_burst hodd hburst (hstored stamped hstamped) (hstored out hcheck)

/-! ## Registers in octets -/

/-- The bits of an octet of a register. -/
theorem getMsbD_octet {w k j : Nat} (x : BitVec w) (hk : k + 8 ≤ w) (hj : j < 8) :
    ((x >>> k).setWidth 8).getMsbD j = x.getMsbD (w - 8 - k + j) := by
  have hplace : k + (8 - 1 - j) = w - 1 - (w - 8 - k + j) := by omega
  rw [BitVec.getMsbD_eq_getLsbD, BitVec.getMsbD_eq_getLsbD, BitVec.getLsbD_setWidth, BitVec.getLsbD_ushiftRight, hplace,
    decide_eq_true hj, decide_eq_true (show 8 - 1 - j < 8 by omega),
    decide_eq_true (show w - 8 - k + j < w by omega), Bool.true_and]

/-- The bits of octets that hold a register, the highest octet first. -/
theorem readBit_stored {w m : Nat} {x : BitVec w} (out : Bytes) (q : Nat) (hw : w = 8 * m)
    (h : ∀ i < m, (out (q + i)).toBitVec = (x >>> (8 * (m - 1 - i))).setWidth 8) {j : Nat} (hj : j < w) :
    readBit out (8 * q + j) = x.getMsbD j := by
  have hdiv : (8 * q + j) / 8 = q + j / 8 := by omega
  have hmod : (8 * q + j) % 8 = j % 8 := by omega
  have hplace : w - 8 - 8 * (m - 1 - j / 8) + j % 8 = j := by omega
  rw [readBit_eq, hdiv, hmod]
  unfold bitOf
  rw [h (j / 8) (by omega), getMsbD_octet _ (by omega) (Nat.mod_lt _ (by decide)), hplace]

theorem getMsbD_not_run {w : Nat} (poly s : BitVec w) (msg : List Bool) {j : Nat} (hj : j < w) :
    (~~~Lfsr.run poly s msg).getMsbD j = ((Lfsr.run poly s msg).getMsbD j ^^ true) := by
  rw [BitVec.getMsbD_not, decide_eq_true hj, Bool.true_and, Bool.xor_true]

/-! ## Checksums by table -/

theorem stored_ccitt162 {out : Bytes} {n : Nat} (h : checkCCITT162 out (n + 2) = true) {j : Nat} (hj : j < 16) :
    readBit out (8 * n + j) = ((Lfsr.run poly16 0#16 (bitList out (8 * n))).getMsbD j ^^ true) := by
  obtain ⟨hlow, hhigh⟩ := of_decide_eq_true h
  rw [← getMsbD_not_run _ _ _ hj, ← toBitVec_ccitt162]
  refine readBit_stored (m := 2) out n rfl (fun i hi => ?_) hj
  have hi2 : i = 0 ∨ i = 1 := by omega
  rcases hi2 with rfl | rfl
  · exact (congrArg UInt8.toBitVec hhigh).symm
  · exact (congrArg UInt8.toBitVec hlow).symm

theorem detects_ccitt162 (inp : Bytes) (n : Nat) :
    Detects 16 (8 * n + 16) readBit (checkCCITT162 · (n + 2)) (addCCITT162 inp (n + 2)) :=
  detects_of_stored poly16 (by decide) (checkCCITT162_add (by omega) fun _ _ => rfl)
    fun _ h _ hj => stored_ccitt162 h hj

theorem crc32_congr {a b : Bytes} {length : Nat} (h : ∀ i < length - 4, a i = b i) :
    crc32 a length = crc32 b length := by
  unfold crc32
  rw [List.foldl_ext _ _ _ fun crc i hi => by rw [h i (List.mem_range.mp hi)]]

theorem checkCRC32_add (inp : Bytes) (n : Nat) : checkCRC32 (addCRC32 inp (n + 4)) (n + 4) = true := by
  have hcrc : crc32 (addCRC32 inp (n + 4)) (n + 4) = crc32 inp (n + 4) := by
    refine crc32_congr fun i hi => ?_
    unfold addCRC32
    rw [setByte_of_ne _ _ (by omega), setByte_of_ne _ _ (by omega), setByte_of_ne _ _ (by omega),
      setByte_of_ne _ _ (by omega)]
  have hoctets : addCRC32 inp (n + 4) (n + 3) = (crc32 inp (n + 4)).toUInt8 ∧
      addCRC32 inp (n + 4) (n + 2) = (crc32 inp (n + 4) >>> (8 : UInt32)).toUInt8 ∧
      addCRC32 inp (n + 4) (n + 1) = (crc32 inp (n + 4) >>> (16 : UInt32)).toUInt8 ∧
      addCRC32 inp (n + 4) n = (crc32 inp (n + 4) >>> (24 : UInt32)).toUInt8 := by
    unfold addCRC32
    simp [setByte]
  unfold checkCRC32
  dsimp only
  rw [hcrc]
  exact decide_eq_true ⟨hoctets.1.symm, hoctets.2.1.symm, hoctets.2.2.1.symm, hoctets.2.2.2.symm⟩

theorem stored_crc32 {out : Bytes} {n : Nat} (h : checkCRC32 out (n + 4) = true) {j : Nat} (hj : j < 32) :
    readBit out (8 * n + j) = ((Lfsr.run poly32 0#32 (bitList out (8 * n))).getMsbD j ^^ true) := by
  obtain ⟨h0, h1, h2, h3⟩ := of_decide_eq_true h
  rw [← getMsbD_not_run _ _ _ hj, ← toBitVec_crc32]
  refine readBit_stored (m := 4) out n rfl (fun i hi => ?_) hj
  have hi4 : i = 0 ∨ i = 1 ∨ i = 2 ∨ i = 3 := by omega
  rcases hi4 with rfl | rfl | rfl | rfl
  · exact (congrArg UInt8.toBitVec h3).symm
  · exact (congrArg UInt8.toBitVec h2).symm
  · exact (congrArg UInt8.toBitVec h1).symm
  · exact (congrArg UInt8.toBitVec h0).symm

theorem detects_crc32 (inp : Bytes) (n : Nat) :
    Detects 32 (8 * n + 32) readBit (checkCRC32 · (n + 4)) (addCRC32 inp (n + 4)) :=
  detects_of_stored poly32 (by decide) (checkCRC32_add inp n) fun _ h _ hj => stored_crc32 h hj

/-! ## Checksums written bit by bit -/

/-- The low bits of a register that shifts in a wider word are a register of their own. -/
theorem setWidth_turn {w v : Nat} (hv : w ≤ v) (hw : 0 < w) (crc poly : BitVec v) (b : Bool) :
    (if b ^^ crc.getLsbD (w - 1) then crc <<< 1 ^^^ poly else crc <<< 1).setWidth w =
      Lfsr.step (poly.setWidth w) (crc.setWidth w) b := by
  have hshift : (crc <<< 1).setWidth w = crc.setWidth w <<< 1 := by
    apply BitVec.eq_of_getLsbD_eq
    intro i hi
    rw [BitVec.getLsbD_setWidth, BitVec.getLsbD_shiftLeft, BitVec.getLsbD_shiftLeft, BitVec.getLsbD_setWidth,
      decide_eq_true hi, decide_eq_true (show i < v by omega), decide_eq_true (show i - 1 < w by omega), Bool.true_and,
      Bool.true_and, Bool.true_and]
  have hmsb : (crc.setWidth w).msb = crc.getLsbD (w - 1) := by
    rw [BitVec.msb_eq_getLsbD_last, BitVec.getLsbD_setWidth, decide_eq_true (show w - 1 < w by omega), Bool.true_and]
  unfold Lfsr.step
  rw [hmsb]
  split
  · rw [BitVec.setWidth_xor, hshift]
  · exact hshift

theorem and_top_eq {v : Nat} (crc : BitVec v) {i : Nat} (hi : i < v) :
    decide (crc &&& BitVec.twoPow v i = BitVec.twoPow v i) = crc.getLsbD i := by
  have hne : BitVec.twoPow v i ≠ 0#v := by
    intro hzero
    have hbit := congrArg (BitVec.getLsbD · i) hzero
    simp [hi] at hbit
  rw [BitVec.and_twoPow]
  split
  · rename_i htop
    rw [htop, decide_eq_true rfl]
  · rename_i htop
    rw [Bool.not_eq_true] at htop
    rw [htop, decide_eq_false (fun h => hne h.symm)]

/-- The run lemma of `setWidth_turn`. -/
theorem setWidth_foldl {σ : Type} {w v : Nat} (hv : w ≤ v) (hw : 0 < w) {poly : BitVec v} (view : σ → BitVec v)
    (turn : σ → Bool → σ)
    (hturn : ∀ crc b, view (turn crc b) =
      if b ^^ (view crc).getLsbD (w - 1) then view crc <<< 1 ^^^ poly else view crc <<< 1)
    (crc : σ) (inp : Bytes) (n : Nat) :
    (view ((List.range n).foldl (fun crc i => turn crc (readBit inp i)) crc)).setWidth w =
      Lfsr.run (poly.setWidth w) ((view crc).setWidth w) (bitList inp n) := by
  unfold bitList
  induction n with
  | zero => rfl
  | succ n ih =>
      rw [List.range_succ, List.foldl_append, List.map_append, Lfsr.run_append, ← ih, List.foldl_cons, List.foldl_nil,
        hturn, setWidth_turn hv hw]
      rfl

/-- A mask that keeps the low bits. -/
theorem setWidth_and_mask {w v : Nat} (hv : w ≤ v) (crc : BitVec v) :
    (crc &&& (BitVec.allOnes w).setWidth v).setWidth w = crc.setWidth w := by
  apply BitVec.eq_of_getLsbD_eq
  intro i hi
  have hiv : i < v := by omega
  simp [hi, hiv]

/-- The register of `createCRC` is one of `w` bits. -/
theorem toBitVec_createCRC {w : Nat} (hw : 0 < w) (hw16 : w ≤ 16) {init top poly mask : UInt16}
    (htop : top.toBitVec = BitVec.twoPow 16 (w - 1)) (hmask : mask.toBitVec = (BitVec.allOnes w).setWidth 16)
    (inp : Bytes) (n : Nat) :
    (createCRC init top poly mask inp n).toBitVec.setWidth w =
      Lfsr.run (poly.toBitVec.setWidth w) (init.toBitVec.setWidth w) (bitList inp n) := by
  let turn (crc : UInt16) (b : Bool) : UInt16 :=
    if b ^^ decide (crc &&& top = top) then crc <<< (1 : UInt16) ^^^ poly else crc <<< (1 : UInt16)
  have hturn (crc : UInt16) (b : Bool) : (turn crc b).toBitVec =
      if b ^^ crc.toBitVec.getLsbD (w - 1) then crc.toBitVec <<< 1 ^^^ poly.toBitVec else crc.toBitVec <<< 1 := by
    have htopBit : decide (crc &&& top = top) = crc.toBitVec.getLsbD (w - 1) := by
      rw [← and_top_eq crc.toBitVec (show w - 1 < 16 by omega), ← htop]
      exact decide_eq_decide.mpr ⟨fun h => congrArg UInt16.toBitVec h, fun h => UInt16.toBitVec_inj.mp h⟩
    rw [← htopBit]
    exact apply_ite UInt16.toBitVec _ _ _
  unfold createCRC
  rw [UInt16.toBitVec_and, hmask, setWidth_and_mask hw16]
  exact setWidth_foldl hw16 hw UInt16.toBitVec turn hturn init inp n

/-- That of `createCRC6` is one of six bits in an octet. -/
theorem toBitVec_createCRC6 (inp : Bytes) (n : Nat) :
    (createCRC6 inp n).toBitVec.setWidth 6 = Lfsr.run 0x27#6 0x3F#6 (bitList inp n) := by
  let turn (crc : UInt8) (b : Bool) : UInt8 :=
    if b ^^ decide (crc &&& 0x20 = 0x20) then crc <<< (1 : UInt8) ^^^ 0x27 else crc <<< (1 : UInt8)
  have hturn (crc : UInt8) (b : Bool) : (turn crc b).toBitVec =
      if b ^^ crc.toBitVec.getLsbD 5 then crc.toBitVec <<< 1 ^^^ 0x27#8 else crc.toBitVec <<< 1 := by
    have htopBit : decide (crc &&& 0x20 = 0x20) = crc.toBitVec.getLsbD 5 := by
      rw [← and_top_eq crc.toBitVec (show 5 < 8 by decide)]
      exact decide_eq_decide.mpr ⟨fun h => congrArg UInt8.toBitVec h, fun h => UInt8.toBitVec_inj.mp h⟩
    rw [← htopBit]
    exact apply_ite UInt8.toBitVec _ _ _
  have hmask : (0x3F : UInt8).toBitVec = (BitVec.allOnes 6).setWidth 8 := rfl
  unfold createCRC6
  rw [UInt8.toBitVec_and, hmask, setWidth_and_mask (by decide)]
  exact setWidth_foldl (show 6 ≤ 8 by decide) (show 0 < 6 by decide) UInt8.toBitVec turn hturn 0x3F inp n

/-- The bits read from where the CRC is. -/
theorem readBit_readCRC (inp : Bytes) (bitLength first last : Nat) {j : Nat} (hj : j < last - first) :
    readBit (readCRC inp bitLength first last) (first + j) = readBit inp (bitLength + j) := by
  rw [readCRC, readBit_copyBits, if_pos (by omega), Nat.add_sub_cancel_left]

/-- The octets of a CRC hold its bits, the highest first. -/
theorem readBit_crcOctets_eq (crc : UInt16) {k : Nat} (hk : k < 16) :
    readBit (crcOctets crc) k = crc.toBitVec.getMsbD k := by
  have hmask (v : UInt16) : (v &&& 0xFF).toUInt8 = v.toUInt8 := by
    apply UInt8.toNat_inj.mp
    rw [UInt16.toNat_toUInt8, UInt16.toNat_toUInt8, UInt16.toNat_and]
    exact congrArg (· % 2 ^ 8) (Nat.and_two_pow_sub_one_eq_mod v.toNat 8) |>.trans (Nat.mod_mod _ _)
  have hstored := readBit_stored (m := 2) (x := crc.toBitVec) (crcOctets crc) 0 rfl (fun i hi => ?_) hk
  · rwa [Nat.mul_zero, Nat.zero_add] at hstored
  · have hi2 : i = 0 ∨ i = 1 := by omega
    rcases hi2 with rfl | rfl
    · exact congrArg UInt8.toBitVec (hmask (crc >>> (8 : UInt16)))
    · exact congrArg UInt8.toBitVec (hmask (crc >>> (0 : UInt16)))

/-- A check of `w` bits finds a register of `w` bits behind the data. -/
theorem stored_checkCRC {w first : Nat} (hwidth : first + w = 16) {create : Bytes → Nat → UInt16} {poly init : BitVec w}
    (hcreate : ∀ inp n, (create inp n).toBitVec.setWidth w = Lfsr.run poly init (bitList inp n))
    {out : Bytes} {bitLength : Nat} (h : checkCRC create first out bitLength = true) {j : Nat} (hj : j < w) :
    readBit out (bitLength + j) = ((Lfsr.run poly init (bitList out bitLength)).getMsbD j ^^ false) := by
  obtain ⟨h0, h1⟩ := of_decide_eq_true h
  have hoctets : ∀ b < 8 * 2, readBit (crcOctets (create out bitLength)) b =
      readBit (readCRC out bitLength first 16) b := by
    intro b hb
    have hb2 : b / 8 = 0 ∨ b / 8 = 1 := by omega
    rw [readBit_eq, readBit_eq]
    rcases hb2 with hb0 | hb1
    · rw [hb0, h0]
    · rw [hb1, h1]
  have hplace : 16 - 1 - (first + j) = w - 1 - j := by omega
  rw [Bool.xor_false, ← readBit_readCRC out bitLength first 16 (by omega), ← hoctets _ (by omega),
    readBit_crcOctets_eq _ (by omega), ← hcreate, BitVec.getMsbD_eq_getLsbD, BitVec.getMsbD_eq_getLsbD,
    BitVec.getLsbD_setWidth, hplace, decide_eq_true hj, decide_eq_true (show first + j < 16 by omega),
    decide_eq_true (show w - 1 - j < w by omega), Bool.true_and, Bool.true_and]

theorem detects_crc12 (inp : Bytes) (bitLength : Nat) :
    Detects 12 (bitLength + 12) readBit (checkCRC12 · bitLength) (addCRC12 inp bitLength) :=
  detects_of_stored 0x80F#12 (by decide) (checkCRC12_of_add fun _ _ => rfl) fun _ h _ hj =>
    stored_checkCRC rfl (toBitVec_createCRC (w := 12) (by decide) (by decide) rfl rfl) h hj

theorem detects_crc15 (inp : Bytes) (bitLength : Nat) :
    Detects 15 (bitLength + 15) readBit (checkCRC15 · bitLength) (addCRC15 inp bitLength) :=
  detects_of_stored 0x4CC5#15 (by decide) (checkCRC15_of_add fun _ _ => rfl) fun _ h _ hj =>
    stored_checkCRC rfl (toBitVec_createCRC (w := 15) (by decide) (by decide) rfl rfl) h hj

theorem checkCRC16_of_add (inp : Bytes) (bitLength : Nat) :
    checkCRC16 (addCRC16 inp bitLength) bitLength = true :=
  checkCRC_of_add (w := 16) rfl (by decide) createCRC16_congr (fun inp n => (createCRC16 inp n).toNat_lt)
    fun _ _ => rfl

theorem detects_crc16 (inp : Bytes) (bitLength : Nat) :
    Detects 16 (bitLength + 16) readBit (checkCRC16 · bitLength) (addCRC16 inp bitLength) :=
  detects_of_stored poly16 (by decide) (checkCRC16_of_add inp bitLength) fun _ h _ hj =>
    stored_checkCRC rfl (fun inp n => (BitVec.setWidth_eq _).trans (toBitVec_createCRC16 inp n)) h hj

theorem stored_checkCRC6 {out : Bytes} {bitLength : Nat} (h : checkCRC6 out bitLength = true) {j : Nat} (hj : j < 6) :
    readBit out (bitLength + j) = ((Lfsr.run 0x27#6 0x3F#6 (bitList out bitLength)).getMsbD j ^^ false) := by
  have hcrc : createCRC6 out bitLength = readCRC out bitLength 2 8 0 := of_decide_eq_true h
  have hdiv : (2 + j) / 8 = 0 := by omega
  have hmod : (2 + j) % 8 = 2 + j := by omega
  have hplace : 8 - 1 - (2 + j) = 6 - 1 - j := by omega
  rw [Bool.xor_false, ← readBit_readCRC out bitLength 2 8 (by omega), readBit_eq, hdiv, hmod, ← hcrc,
    ← toBitVec_createCRC6, bitOf, BitVec.getMsbD_eq_getLsbD, BitVec.getMsbD_eq_getLsbD, BitVec.getLsbD_setWidth, hplace,
    decide_eq_true hj, decide_eq_true (show 2 + j < 8 by omega), decide_eq_true (show 6 - 1 - j < 6 by omega),
    Bool.true_and, Bool.true_and]

theorem detects_crc6 (inp : Bytes) (bitLength : Nat) :
    Detects 6 (bitLength + 6) readBit (checkCRC6 · bitLength) (addCRC6 inp bitLength) :=
  detects_of_stored 0x27#6 (by decide) (checkCRC6_of_add fun _ _ => rfl) fun _ h _ hj => stored_checkCRC6 h hj

/-! ## The CCITT-161 -/

/-- The bits of a buffer in the order of the register. -/
def lowFirstBit (inp : Bytes) (k : Nat) : Bool := lowFirst (inp (k / 8)) (k % 8)

theorem checkCCITT161_add (inp : Bytes) (n : Nat) : checkCCITT161 (addCCITT161 inp (n + 2)) (n + 2) = true := by
  have hcrc : ccitt161 (addCCITT161 inp (n + 2)) (n + 2) = ccitt161 inp (n + 2) := by
    unfold ccitt161
    rw [List.foldl_ext _ _ _ fun crc i hi => ?_]
    have hi' := List.mem_range.mp hi
    unfold addCCITT161
    rw [setByte_of_ne _ _ (by omega), setByte_of_ne _ _ (by omega)]
  have hlow : addCCITT161 inp (n + 2) n = (ccitt161 inp (n + 2)).toUInt8 := by
    unfold addCCITT161
    rw [setByte_of_ne _ _ (by omega)]
    exact setByte_same _ _ _
  have hhigh : addCCITT161 inp (n + 2) (n + 1) = (ccitt161 inp (n + 2) >>> (8 : UInt16)).toUInt8 :=
    setByte_same _ _ _
  unfold checkCCITT161
  dsimp only
  rw [hcrc]
  exact decide_eq_true ⟨hlow.symm, hhigh.symm⟩

theorem stored_ccitt161 {out : Bytes} {n : Nat} (h : checkCCITT161 out (n + 2) = true) {j : Nat} (hj : j < 16) :
    lowFirstBit out (8 * n + j) =
      ((Lfsr.run poly16 (BitVec.allOnes 16) ((List.range (8 * n)).map (lowFirstBit out))).getMsbD j ^^ true) := by
  obtain ⟨hlow, hhigh⟩ := of_decide_eq_true h
  have hrun := reverse_ccitt161 out n
  change _ = ~~~Lfsr.run poly16 (BitVec.allOnes 16) ((List.range (8 * n)).map (lowFirstBit out)) at hrun
  rw [← getMsbD_not_run _ _ _ hj, ← hrun, BitVec.getMsbD_reverse]
  unfold lowFirstBit lowFirst
  rcases Nat.lt_or_ge j 8 with hj8 | hj8
  · have hdiv : (8 * n + j) / 8 = n + 2 - 2 := by omega
    have hmod : (8 * n + j) % 8 = j := by omega
    rw [hdiv, hmod, ← hlow]
    change ((ccitt161 out (n + 2)).toBitVec.setWidth 8).getLsbD j = _
    rw [BitVec.getLsbD_setWidth, decide_eq_true hj8, Bool.true_and]
  · have hdiv : (8 * n + j) / 8 = n + 2 - 1 := by omega
    have hmod : (8 * n + j) % 8 = j - 8 := by omega
    have hplace : 8 + (j - 8) = j := by omega
    rw [hdiv, hmod, ← hhigh]
    change (((ccitt161 out (n + 2)).toBitVec >>> 8).setWidth 8).getLsbD (j - 8) = _
    rw [BitVec.getLsbD_setWidth, decide_eq_true (show j - 8 < 8 by omega), Bool.true_and, BitVec.getLsbD_ushiftRight,
      hplace]

/-- Bursts in the order of the register. -/
theorem detects_ccitt161_lowFirst (inp : Bytes) (n : Nat) :
    Detects 16 (8 * n + 16) lowFirstBit (checkCCITT161 · (n + 2)) (addCCITT161 inp (n + 2)) :=
  detects_of_stored poly16 (by decide) (checkCCITT161_add inp n) fun _ h _ hj => stored_ccitt161 h hj

/-- Zeros leave the zero register. -/
theorem run_zeros {w : Nat} (poly : BitVec w) {ι : Type} (l : List ι) :
    Lfsr.run poly 0#w (l.map fun _ => false) = 0#w := by
  have hsum := Lfsr.run_xor poly 0#w 0#w l (fun _ => false) (fun _ => false)
  rwa [BitVec.xor_self, BitVec.xor_self] at hsum

/-- What the octets of two buffers differ by, below `n`. -/
def difference (a b : Bytes) (n i : Nat) : UInt8 := if i < n then a i ^^^ b i else 0

/-- The difference of two buffers that check leaves the zero register. -/
theorem run_difference {a b : Bytes} {n : Nat} (ha : checkCCITT161 a (n + 2) = true)
    (hb : checkCCITT161 b (n + 2) = true) (c : Nat) :
    Lfsr.run poly16 0#16 ((List.range (8 * (n + 2 + c))).map (lowFirstBit (difference a b (n + 2)))) = 0#16 := by
  have hruns := (Lfsr.run_stored fun j hj => stored_ccitt161 ha hj).trans
    (Lfsr.run_stored fun j hj => stored_ccitt161 hb hj).symm
  have hsum := Lfsr.run_xor poly16 (BitVec.allOnes 16) (BitVec.allOnes 16) (List.range (8 * n + 16)) (lowFirstBit a)
    (lowFirstBit b)
  rw [hruns, BitVec.xor_self, BitVec.xor_self] at hsum
  have hlow : (List.range (8 * n + 16)).map (lowFirstBit (difference a b (n + 2))) =
      (List.range (8 * n + 16)).map fun i => lowFirstBit a i ^^ lowFirstBit b i := by
    refine List.map_congr_left fun i hi => ?_
    have hi' := List.mem_range.mp hi
    unfold lowFirstBit lowFirst difference
    rw [if_pos (by omega), UInt8.toBitVec_xor, BitVec.getLsbD_xor]
  have hbehind : (List.range (8 * c)).map (lowFirstBit (difference a b (n + 2)) ∘ fun i => 8 * n + 16 + i) =
      (List.range (8 * c)).map fun _ => false := by
    refine List.map_congr_left fun i _ => ?_
    rw [Function.comp_apply]
    unfold lowFirstBit lowFirst difference
    rw [if_neg (by omega)]
    exact BitVec.getLsbD_zero
  have hlen : 8 * (n + 2 + c) = 8 * n + 16 + 8 * c := by omega
  rw [hlen, List.range_add, List.map_append, Lfsr.run_append, List.map_map, hlow, hbehind, hsum, run_zeros]

/-- An octet from bit `r` on, and what the table takes it to, do not fit into sixteen bits. -/
theorem table1_burst : ∀ t : BitVec 8, ∀ r < 8, (∀ j < r, t.getMsbD j = false) →
    (∀ j < 8, r ≤ j → ((CCITT16_TABLE1.getD t.toNat 0).toBitVec >>> 8 |>.setWidth 8).getMsbD j = false) → t = 0#8 := by
  decide +kernel

/-- Three octets that leave the zero register are determined by the first. -/
theorem octets_of_run {e : Bytes} (h : Lfsr.run poly16 0#16 ((List.range 24).map (lowFirstBit e)) = 0#16) :
    (e 1).toBitVec = (CCITT16_TABLE1.getD (e 0).toNat 0).toBitVec.setWidth 8 ∧
      (e 2).toBitVec = ((CCITT16_TABLE1.getD (e 0).toNat 0).toBitVec >>> 8).setWidth 8 := by
  let s := (CCITT16_TABLE1.getD (e 0).toNat 0).toBitVec
  have hfirst : Lfsr.run poly16 0#16 ((List.range 8).map (lowFirstBit e)) = s.reverse :=
    (table1_eq (e 0).toBitVec).symm
  -- behind it only its own bits lead to the zero register
  have hback : Lfsr.run poly16 s.reverse ((List.range 16).map (lowFirstBit e ∘ fun j => 8 + j)) =
      Lfsr.run poly16 s.reverse ((List.range 16).map s.reverse.getMsbD) := by
    rw [show List.range 24 = List.range (8 + 16) from rfl, List.range_add, List.map_append, Lfsr.run_append,
      List.map_map, hfirst] at h
    rw [h, Lfsr.run_own _ _ (Nat.le_refl 16), BitVec.shiftLeft_eq_zero (Nat.le_refl 16)]
  have hrest : (List.range 16).map (lowFirstBit e ∘ fun j => 8 + j) = (List.range 16).map s.reverse.getMsbD :=
    Lfsr.run_eq_imp_eq (by decide) (by simp) (by simp) hback
  have hbit (j : Nat) (hj : j < 16) : lowFirstBit e (8 + j) = s.getLsbD j := by
    have heq := List.map_inj_left.mp hrest j (List.mem_range.mpr hj)
    rwa [BitVec.getMsbD_reverse] at heq
  constructor
  · apply BitVec.eq_of_getLsbD_eq
    intro j hj
    have heq := hbit j (by omega)
    unfold lowFirstBit lowFirst at heq
    rw [show (8 + j) / 8 = 1 by omega, show (8 + j) % 8 = j by omega] at heq
    rw [heq, BitVec.getLsbD_setWidth, decide_eq_true hj, Bool.true_and]
  · apply BitVec.eq_of_getLsbD_eq
    intro j hj
    have heq := hbit (8 + j) (by omega)
    unfold lowFirstBit lowFirst at heq
    rw [show (8 + (8 + j)) / 8 = 2 by omega, show (8 + (8 + j)) % 8 = j by omega] at heq
    rw [heq, BitVec.getLsbD_setWidth, decide_eq_true hj, Bool.true_and, BitVec.getLsbD_ushiftRight]

/-- Clear octets have clear bits in either order. -/
theorem map_lowFirstBit_clear {d : Bytes} (off : Nat) {k : Nat} (h : ∀ i < k, d ((off + i) / 8) = 0) :
    (List.range k).map (fun i => lowFirstBit d (off + i)) = (List.range k).map fun _ => false := by
  refine List.map_congr_left fun i hi => ?_
  unfold lowFirstBit lowFirst
  rw [h i (List.mem_range.mp hi)]
  exact BitVec.getLsbD_zero

/-- The octets of a burst, with clear ones around them, leave the zero register only if they are clear. -/
theorem eq_zero_of_run {d : Bytes} {start m : Nat} (hm : start / 8 + 3 ≤ m)
    (hset : ∀ o, ∀ j < 8, bitOf (d o) j = true → start ≤ 8 * o + j ∧ 8 * o + j < start + 16)
    (hrun : Lfsr.run poly16 0#16 ((List.range (8 * m)).map (lowFirstBit d)) = 0#16) (o : Nat) : d o = 0 := by
  have hout (o : Nat) (ho : o < start / 8 ∨ start / 8 + 3 ≤ o) : d o = 0 := by
    apply byte_ext
    intro j hj
    rw [bitOf_zero, Bool.eq_false_iff]
    intro hbit
    have hplace := hset o j hj hbit
    omega
  let e : Bytes := fun k => d (start / 8 + k)
  -- the run over the three octets that the burst can touch
  have hthree : Lfsr.run poly16 0#16 ((List.range 24).map (lowFirstBit e)) = 0#16 := by
    have hlen : 8 * m = 8 * (start / 8) + 24 + 8 * (m - start / 8 - 3) := by omega
    have hpre : (List.range (8 * (start / 8))).map (lowFirstBit d) =
        (List.range (8 * (start / 8))).map fun _ => false := by
      have hclear := map_lowFirstBit_clear (d := d) (k := 8 * (start / 8)) 0 fun i hi => hout _ (by omega)
      simpa only [Nat.zero_add] using hclear
    have hmid : (List.range 24).map (fun k => lowFirstBit d (8 * (start / 8) + k)) =
        (List.range 24).map (lowFirstBit e) := by
      refine List.map_congr_left fun k _ => ?_
      unfold lowFirstBit lowFirst
      rw [show (8 * (start / 8) + k) / 8 = start / 8 + k / 8 by omega,
        show (8 * (start / 8) + k) % 8 = k % 8 by omega]
    rw [hlen, Lfsr.map_range_split, hpre, hmid, map_lowFirstBit_clear _ fun i _ => hout _ (by omega), Lfsr.run_append,
      Lfsr.run_append, run_zeros] at hrun
    exact Lfsr.run_injective (by decide) _ (hrun.trans (run_zeros poly16 _).symm)
  obtain ⟨h1, h2⟩ := octets_of_run hthree
  -- the first of them is clear, so all three are
  have h0 : (e 0).toBitVec = 0#8 := by
    refine table1_burst (e 0).toBitVec (start % 8) (Nat.mod_lt _ (by decide)) (fun j hj => ?_) fun j hj hr => ?_
    · rw [Bool.eq_false_iff]
      intro hbit
      have hplace := hset (start / 8 + 0) j (by omega) hbit
      omega
    · rw [Bool.eq_false_iff]
      intro hbit
      change (((CCITT16_TABLE1.getD (e 0).toNat 0).toBitVec >>> 8).setWidth 8).getMsbD j = true at hbit
      rw [← h2] at hbit
      have hplace := hset (start / 8 + 2) j hj hbit
      omega
  have hoct0 : e 0 = 0 := UInt8.toBitVec_inj.mp h0
  rw [hoct0] at h1 h2
  by_cases ho : o < start / 8 ∨ start / 8 + 3 ≤ o
  · exact hout o ho
  · have hcase : o = start / 8 + 0 ∨ o = start / 8 + 1 ∨ o = start / 8 + 2 := by omega
    rcases hcase with rfl | rfl | rfl
    · exact hoct0
    · exact UInt8.toBitVec_inj.mp h1
    · exact UInt8.toBitVec_inj.mp h2

/-- **Bursts in the order of `READ_BIT`** do not get past the CCITT-161 either. -/
theorem detects_ccitt161 (inp : Bytes) (n : Nat) :
    Detects 16 (8 * n + 16) readBit (checkCCITT161 · (n + 2)) (addCCITT161 inp (n + 2)) := by
  have hstamped := checkCCITT161_add inp n
  refine ⟨hstamped, fun out hburst => ?_⟩
  generalize addCCITT161 inp (n + 2) = stamped at hstamped hburst
  by_contra hcheck
  rw [Bool.not_eq_false] at hcheck
  obtain ⟨⟨i, hi, hdiff⟩, start, hwin⟩ := hburst
  let d := difference stamped out (n + 2)
  have hd (k : Nat) (hk : k < 8 * n + 16) : readBit d k = (readBit stamped k ^^ readBit out k) := by
    rw [readBit_eq, readBit_eq, readBit_eq, ← bitOf_xor]
    exact congrArg (bitOf · (k % 8)) (if_pos (by omega))
  have hset (o j : Nat) (hj : j < 8) (hbit : bitOf (d o) j = true) : start ≤ 8 * o + j ∧ 8 * o + j < start + 16 := by
    by_cases ho : o < n + 2
    · rw [← readBit_octet d o hj, hd _ (by omega)] at hbit
      refine hwin _ (by omega) fun heq => ?_
      rw [heq, Bool.xor_self] at hbit
      exact Bool.false_ne_true hbit
    · have hzero : d o = 0 := if_neg ho
      rw [hzero, bitOf_zero] at hbit
      exact absurd hbit Bool.false_ne_true
  have hplace := hwin i hi hdiff
  have hclear := eq_zero_of_run (by omega) hset (run_difference hstamped hcheck 3) (i / 8)
  have hsame := hd i hi
  rw [readBit_eq, hclear, bitOf_zero] at hsame
  exact hdiff (by simpa using hsame)

/-! ## All checks -/

/-- **The checks.** Whatever is stamped checks, at every length the functions take, and no burst within the width of the
    CRC gets past a check; the sum modulo 31 is checked where it was made. -/
theorem checks_detect (inp : Bytes) (bits : Bits) (n bitLength : Nat) :
    Detects 16 (8 * (n + 3)) readBit (checkCCITT162 · (n + 3)) (addCCITT162 inp (n + 3)) ∧
    Detects 16 (8 * (n + 3)) readBit (checkCCITT161 · (n + 3)) (addCCITT161 inp (n + 3)) ∧
    Detects 16 (8 * (n + 3)) lowFirstBit (checkCCITT161 · (n + 3)) (addCCITT161 inp (n + 3)) ∧
    Detects 32 (8 * (n + 5)) readBit (checkCRC32 · (n + 5)) (addCRC32 inp (n + 5)) ∧
    Detects 6 (bitLength + 6) readBit (checkCRC6 · bitLength) (addCRC6 inp bitLength) ∧
    Detects 12 (bitLength + 12) readBit (checkCRC12 · bitLength) (addCRC12 inp bitLength) ∧
    Detects 15 (bitLength + 15) readBit (checkCRC15 · bitLength) (addCRC15 inp bitLength) ∧
    Detects 16 (bitLength + 16) readBit (checkCRC16 · bitLength) (addCRC16 inp bitLength) ∧
    checkFiveBit bits (encodeFiveBit bits) = true :=
  ⟨detects_ccitt162 inp (n + 1), detects_ccitt161 inp (n + 1), detects_ccitt161_lowFirst inp (n + 1),
    detects_crc32 inp (n + 1), detects_crc6 inp bitLength, detects_crc12 inp bitLength, detects_crc15 inp bitLength,
    detects_crc16 inp bitLength, decide_eq_true rfl⟩

end CRC

end DvmHost

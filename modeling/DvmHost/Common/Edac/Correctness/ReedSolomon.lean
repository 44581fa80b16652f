import DvmHost.Common.Edac.RS634717
import DvmHost.Lib.HornerCode
import Mathlib.Data.List.GetD

/-!
# `Common.Edac.Correctness.ReedSolomon` — encoded words are codewords, and the decoders leave them

A symbol of six bits is an element of the additive group of GF(64), on which `gf6Mult` by a fixed symbol and
the codec's multiplications by powers of the primitive element are endomorphisms that commute. The syndromes
the codec computes with its logarithm tables are Horner evaluations (`syndromes_eq`), every row of the three
matrices is a codeword, and so is what `HornerCode.codeword_encode` makes of them: on an encoded word the
codec reports no correction, whatever it would do on a damaged one (`decodeWith_encoded`).
-/

namespace DvmHost

open Lib Lib.HornerCode

namespace RS634717

/-! ## Symbols -/

/-- A symbol of six bits. -/
def Sym : Type := BitVec 6

instance : DecidableEq Sym := inferInstanceAs (DecidableEq (BitVec 6))

instance : Zero Sym := ⟨(0 : BitVec 6)⟩

/-- Symbols are added bit by bit. -/
instance : Add Sym := ⟨fun a b : BitVec 6 => a ^^^ b⟩

instance : AddCommMonoid Sym where
  add_assoc := fun a b c : BitVec 6 => BitVec.xor_assoc a b c
  zero_add := fun _ : BitVec 6 => BitVec.zero_xor
  add_zero := fun _ : BitVec 6 => BitVec.xor_zero
  add_comm := fun a b : BitVec 6 => BitVec.xor_comm a b
  nsmul := nsmulRec

/-- The octet of a symbol. -/
def ofSym (s : Sym) : UInt8 := UInt8.ofBitVec (BitVec.setWidth 8 s)

/-- The symbol of an octet. -/
def toSym (b : UInt8) : Sym := BitVec.setWidth 6 b.toBitVec

theorem ofSym_add (a b : Sym) : ofSym (a + b) = ofSym a ^^^ ofSym b :=
  UInt8.toBitVec_inj.mp (BitVec.setWidth_xor (x := (a : BitVec 6)) (y := (b : BitVec 6)) (k := 8))

theorem toSym_xor (a b : UInt8) : toSym (a ^^^ b) = toSym a + toSym b := BitVec.setWidth_xor

/-- The `i`-th symbol. -/
def nthSym (i : Fin 64) : Sym := BitVec.ofFin i

theorem exists_nthSym (s : Sym) : ∃ i, s = nthSym i := ⟨BitVec.toFin s, rfl⟩

theorem toSym_ofSym (s : Sym) : toSym (ofSym s) = s :=
  (BitVec.setWidth_setWidth_of_le (s : BitVec 6) (by decide)).trans (BitVec.setWidth_eq s)

theorem ofSym_injective {a b : Sym} (h : ofSym a = ofSym b) : a = b := by
  rw [← toSym_ofSym a, h, toSym_ofSym]

theorem toNat_ofSym (s : Sym) : (ofSym s).toNat = BitVec.toNat s := by
  have hlt : BitVec.toNat s < 64 := BitVec.isLt s
  exact (BitVec.toNat_setWidth 8 s).trans (Nat.mod_eq_of_lt (by omega))

theorem ofSym_toSym {b : UInt8} (h : b < 64) : ofSym (toSym b) = b := by
  have hlt : b.toNat < 64 := UInt8.lt_iff_toNat_lt.mp h
  apply UInt8.toNat_inj.mp
  rw [toNat_ofSym]
  exact (BitVec.toNat_setWidth 6 b.toBitVec).trans (Nat.mod_eq_of_lt hlt)

theorem ofSym_lt (s : Sym) : ofSym s < 64 := by
  rw [UInt8.lt_iff_toNat_lt, toNat_ofSym]
  exact BitVec.isLt s

/-! ## Multiplication -/

/-- The test of the lowest bit. -/
theorem and_one_eq (b : UInt8) : (b &&& 0x01 = 0x01) ↔ bitOf b 7 = true := by
  rw [← and_bitMask_eq b (j := 7) (by decide), decide_eq_true_iff]
  rfl

/-- The loop of `gf6Mult` is additive in its accumulator and second factor together. -/
theorem gf6Loop_xor (n : Nat) (p p' a b b' : UInt8) :
    gf6Loop n (p ^^^ p') a (b ^^^ b') = gf6Loop n p a b ^^^ gf6Loop n p' a b' := by
  induction n generalizing p p' a b b' with
  | zero => rfl
  | succ n ih =>
      have hshift : (b ^^^ b') >>> (1 : UInt8) = b >>> (1 : UInt8) ^^^ b' >>> (1 : UInt8) :=
        UInt8.toBitVec_inj.mp (BitVec.ushiftRight_xor_distrib b.toBitVec b'.toBitVec 1)
      unfold gf6Loop
      dsimp only
      simp only [and_one_eq, bitOf_xor]
      rw [hshift, ite_xor, ih]

theorem gf6Mult_xor (a b b' : UInt8) : gf6Mult a (b ^^^ b') = gf6Mult a b ^^^ gf6Mult a b' :=
  gf6Loop_xor 6 0x00 0x00 a b b'

/-- The product of two symbols. -/
def mulSym (a b : Sym) : Sym := toSym (gf6Mult (ofSym a) (ofSym b))

/-- The product with the primitive element. -/
def alphaSym (a : Sym) : Sym := mulSym (toSym 2) a

/-- The symbol with one bit set. -/
def unitSym (t : Fin 6) : Sym := BitVec.ofNat 6 (1 <<< t.val)

/-- What is additive needs to be checked on six symbols. -/
theorem sym_induction {P : Sym → Prop} (zero : P 0) (add : ∀ a b, P a → P b → P (a + b))
    (unit : ∀ t, P (unitSym t)) (s : Sym) : P s := by
  have hbits : ∀ i : Fin 64, nthSym i =
      (List.finRange 6).foldl (fun s t => s + if i.val.testBit t.val then unitSym t else 0) 0 := by
      decide
  have hfold : ∀ (i : Fin 64) (l : List (Fin 6)) (s : Sym), P s →
      P (l.foldl (fun s t => s + if i.val.testBit t.val then unitSym t else 0) s) := by
    intro i l
    induction l with
    | nil => exact fun _ h => h
    | cons t l ih =>
        intro s hs
        apply ih
        apply add _ _ hs
        split
        · exact unit t
        · exact zero
  obtain ⟨i, rfl⟩ := exists_nthSym s
  rw [hbits i]
  exact hfold i _ 0 zero

theorem mulSym_add (a b b' : Sym) : mulSym a (b + b') = mulSym a b + mulSym a b' := by
  unfold mulSym
  rw [ofSym_add, gf6Mult_xor, toSym_xor]

theorem gf6Mult_zero (a : UInt8) : gf6Mult a 0x00 = 0x00 := by
  have h := gf6Mult_xor a 0x00 0x00
  rw [UInt8.xor_self] at h
  exact h.trans UInt8.xor_self

theorem mulSym_zero (a : Sym) : mulSym a 0 = 0 := by
  have h : gf6Mult (ofSym a) (ofSym 0) = 0x00 := gf6Mult_zero (ofSym a)
  unfold mulSym
  rw [h]
  rfl

/-- `gf6Mult` stays within six bits. -/
theorem gf6Mult_ofSym (a b : Sym) : gf6Mult (ofSym a) (ofSym b) = ofSym (mulSym a b) := by
  refine sym_induction (P := fun b => gf6Mult (ofSym a) (ofSym b) = ofSym (mulSym a b)) ?_ ?_ ?_ b
  · rw [mulSym_zero]
    exact gf6Mult_zero (ofSym a)
  · intro b b' hb hb'
    rw [mulSym_add, ofSym_add, ofSym_add, gf6Mult_xor, hb, hb']
  · intro t
    have h : ∀ i t, gf6Mult (ofSym (nthSym i)) (ofSym (unitSym t)) < 64 := by decide
    obtain ⟨i, rfl⟩ := exists_nthSym a
    exact (ofSym_toSym (h i t)).symm

/-- The products commute with the primitive element. -/
theorem mulSym_alpha (a b : Sym) : mulSym a (alphaSym b) = alphaSym (mulSym a b) := by
  refine sym_induction (P := fun b => mulSym a (alphaSym b) = alphaSym (mulSym a b)) ?_ ?_ ?_ b
  · unfold alphaSym
    rw [mulSym_zero, mulSym_zero, mulSym_zero]
  · intro b b' hb hb'
    unfold alphaSym at hb hb' ⊢
    rw [mulSym_add, mulSym_add, mulSym_add, mulSym_add, hb, hb']
  · intro t
    have h : ∀ i t, mulSym (nthSym i) (alphaSym (unitSym t)) = alphaSym (mulSym (nthSym i) (unitSym t)) := by
      decide +kernel
    obtain ⟨i, rfl⟩ := exists_nthSym a
    exact h i t

/-- Multiplication by a symbol. -/
def mulHom (a : Sym) : AddMonoid.End Sym :=
  AddMonoidHom.mk ⟨mulSym a, mulSym_zero a⟩ (mulSym_add a)

theorem mulHom_apply (a b : Sym) : mulHom a b = mulSym a b := rfl

/-- Multiplication by the primitive element. -/
def alphaHom : AddMonoid.End Sym := mulHom (toSym 2)

/-- Multiplication by the `r`-th power of the primitive element. -/
def alphaPow (r : Nat) : AddMonoid.End Sym := alphaHom ^ r

theorem alphaPow_apply (r : Nat) (a : Sym) : alphaPow r a = alphaSym^[r] a := by
  unfold alphaPow
  rw [AddMonoid.End.coe_pow]
  rfl

theorem mulHom_alphaPow (a : Sym) (r : Nat) (x : Sym) : mulHom a (alphaPow r x) = alphaPow r (mulHom a x) := by
  rw [alphaPow_apply, alphaPow_apply]
  induction r generalizing x with
  | zero => rfl
  | succ r ih =>
      rw [Function.iterate_succ_apply, Function.iterate_succ_apply, ih]
      congr 1
      exact mulSym_alpha a x

/-! ## Syndromes -/

theorem index_of_eq : RS.index_of =
    [63, 0, 1, 6, 2, 12, 7, 26, 3, 32, 13, 35, 8, 48, 27, 18, 4, 24, 33, 16, 14, 52, 36, 54, 9, 45, 49, 38, 28,
     41, 19, 56, 5, 62, 25, 11, 34, 31, 17, 47, 15, 23, 53, 51, 37, 44, 55, 40, 10, 61, 46, 30, 50, 22, 39, 43,
     29, 60, 42, 21, 20, 59, 57, 58] := by decide

theorem alpha_to_eq : RS.alpha_to =
    [1, 2, 4, 8, 16, 32, 3, 6, 12, 24, 48, 35, 5, 10, 20, 40, 19, 38, 15, 30, 60, 59, 53, 41, 17, 34, 7, 14, 28,
     56, 51, 37, 9, 18, 36, 11, 22, 44, 27, 54, 47, 29, 58, 55, 45, 25, 50, 39, 13, 26, 52, 43, 21, 42, 23, 46,
     31, 62, 63, 61, 57, 49, 33, 0] := by decide

/-- A symbol other than zero is the power that its logarithm says. -/
theorem alpha_to_log {s : Sym} (hs : s ≠ 0) :
    RS.index_of.getD (ofSym s).toNat 0 < 63 ∧
      toSym (RS.alpha_to.getD (RS.index_of.getD (ofSym s).toNat 0) 0).toUInt8 = s := by
  have h : ∀ i, nthSym i ≠ 0 → RS.index_of.getD (ofSym (nthSym i)).toNat 0 < 63 ∧
      toSym (RS.alpha_to.getD (RS.index_of.getD (ofSym (nthSym i)).toNat 0) 0).toUInt8 = nthSym i := by
    rw [index_of_eq, alpha_to_eq]
    decide
  obtain ⟨i, rfl⟩ := exists_nthSym s
  exact h i hs

/-- The powers repeat after 63. -/
theorem alphaPow_alpha_to {k : Nat} (hk : k < 63) (r : Nat) :
    alphaPow r (toSym (RS.alpha_to.getD k 0).toUInt8) = toSym (RS.alpha_to.getD ((k + r) % 63) 0).toUInt8 := by
  have hnext : ∀ k : Fin 63, alphaSym (toSym (RS.alpha_to.getD k 0).toUInt8) =
      toSym (RS.alpha_to.getD ((k + 1) % 63) 0).toUInt8 := by
    rw [alpha_to_eq]
    decide
  rw [alphaPow_apply]
  induction r with
  | zero => rw [Nat.add_zero, Nat.mod_eq_of_lt hk, Function.iterate_zero_apply]
  | succ r ih =>
      have hmod : ((k + r) % 63 + 1) % 63 = (k + (r + 1)) % 63 := by omega
      rw [Function.iterate_succ_apply', ih, ← hmod]
      exact hnext ⟨(k + r) % 63, Nat.mod_lt _ (by decide)⟩

/-- `modnn` is a remainder on the sums of the codec. -/
theorem modnn_eq {x : Nat} (hx : x < 126) : RS.modnn x = x % 63 := by
  have h : ∀ x : Fin 126, RS.modnn x = x % 63 := by decide
  exact h ⟨x, hx⟩

/-- **A Horner step in logarithms.** -/
theorem synStep_eq {i : Nat} (hi : i < 16) (s d : Sym) :
    RS.synStep i (ofSym s) (ofSym d) = ofSym (alphaPow (i + 1) s + d) := by
  have hzero : ofSym s = 0 ↔ s = 0 := by
    constructor
    · intro h
      exact ofSym_injective (h.trans rfl)
    · rintro rfl
      rfl
  unfold RS.synStep
  by_cases hs : s = 0
  · rw [if_pos (hzero.mpr hs), hs, map_zero, zero_add]
  · obtain ⟨hlt, hlog⟩ := alpha_to_log hs
    have hsmall : ∀ k : Fin 63, (RS.alpha_to.getD k 0).toUInt8 < 64 := by
      rw [alpha_to_eq]
      decide
    have hsum : RS.index_of.getD (ofSym s).toNat 0 + (1 + i) * 1 =
        RS.index_of.getD (ofSym s).toNat 0 + (i + 1) := by
      omega
    rw [if_neg (fun h => hs (hzero.mp h)), hsum, modnn_eq (by omega), ofSym_add, UInt8.xor_comm, ← hlog,
      alphaPow_alpha_to hlt, hlog, ofSym_toSym (hsmall ⟨_, Nat.mod_lt _ (by decide)⟩)]

/-- A pass of Horner steps, at each root by itself. -/
theorem foldl_synStep (block : Nat → UInt8) (l : List Nat) (syn : Nat → UInt8) (i : Nat) :
    l.foldl (fun syn j i => RS.synStep i (syn i) (block j)) syn i =
      l.foldl (fun s j => RS.synStep i s (block j)) (syn i) := by
  induction l generalizing syn with
  | nil => rfl
  | cons j l ih =>
      rw [List.foldl_cons, List.foldl_cons, ih]

/-- **The syndromes are Horner evaluations** at the powers of the primitive element. -/
theorem syndromes_eq {block : Nat → UInt8} {w : Nat → Sym} (hw : ∀ j, block j = ofSym (w j))
    {len nroots i : Nat}
    (hlen : 0 < len) (hi : i < 16) :
    RS.syndromes block len nroots i = ofSym (horner (alphaPow (i + 1)) w (len + nroots)) := by
  have hdata : ∀ m, (List.range' 1 m).foldl (fun s j => RS.synStep i s (block j)) (block 0) =
      ofSym (horner (alphaPow (i + 1)) w (m + 1)) := by
    intro m
    induction m with
    | zero =>
        change block 0 = ofSym (alphaPow (i + 1) 0 + w 0)
        rw [map_zero, zero_add, hw]
    | succ m ih =>
        rw [List.range'_concat, List.foldl_append, ih, List.foldl_cons, List.foldl_nil, hw, synStep_eq hi,
          horner_succ]
        congr 3
        omega
  have hparity : ∀ m, (List.range m).foldl (fun s j => RS.synStep i s (block (len + j)))
      (ofSym (horner (alphaPow (i + 1)) w len)) = ofSym (horner (alphaPow (i + 1)) w (len + m)) := by
    intro m
    induction m with
    | zero => rfl
    | succ m ih =>
        rw [List.range_succ, List.foldl_append, ih, List.foldl_cons, List.foldl_nil, hw, synStep_eq hi,
          ← Nat.add_assoc, horner_succ]
  have hlen1 : len - 1 + 1 = len := by omega
  unfold RS.syndromes
  rw [foldl_synStep (fun j => block (len + j)), foldl_synStep, hdata, hlen1, hparity]

/-! ## The three codes -/

/-- The roots of a code. -/
def roots (c : Code) : List (AddMonoid.End Sym) := (List.range c.nroots).map fun r => alphaPow (r + 1)

/-- What the correctness of a code rests on. -/
structure Valid (c : Code) : Prop where
  k_le : c.k ≤ c.n
  n_le : c.n ≤ 63
  nroots_le : c.nroots ≤ 16
  nroots_le_n : c.nroots ≤ c.n
  limit_pos : 0 < c.limit
  entry_lt : ∀ j < c.k, ∀ i < c.n, c.entry j i < 64
  systematic : ∀ j < c.k, ∀ i < c.k, c.entry j i = if j = i then 1 else 0
  rows : ∀ j < c.k, Codeword (roots c) c.n fun i => toSym (c.entry j i)

/-- Multiplication by the primitive element on numbers, in the functions that evaluation is fast on. -/
def timesAlpha (a : Nat) : Nat := Nat.xor (Nat.mul 2 a) (Nat.mul (Nat.div a 32) 0x43)

/-- A row evaluated at the `r`-th power of the primitive element, on numbers. -/
def evalRow (r : Nat) (row : List UInt8) : Nat :=
    row.foldl (fun s d => Nat.xor (Nat.repeat timesAlpha r s) d.toNat) 0

/-- The symbol of a number. -/
def natSym (a : Nat) : Sym := BitVec.ofNat 6 a

theorem natSym_toNat (b : UInt8) : natSym b.toNat = toSym b := BitVec.ofNat_toNat 6 b.toBitVec

theorem natSym_xor (a b : Nat) : natSym (Nat.xor a b) = natSym a + natSym b := BitVec.ofNat_xor

theorem natSym_repeat {a : Nat} (ha : a < 64) (r : Nat) :
    Nat.repeat timesAlpha r a < 64 ∧ natSym (Nat.repeat timesAlpha r a) = alphaPow r (natSym a) := by
  have hstep : ∀ a : Fin 64, timesAlpha a < 64 ∧
      natSym (timesAlpha a) = alphaSym (natSym a) := by decide
  induction r with
  | zero => exact ⟨ha, rfl⟩
  | succ r ih =>
      obtain ⟨hlt, heq⟩ := ih
      obtain ⟨hlt', heq'⟩ := hstep ⟨_, hlt⟩
      refine ⟨hlt', heq'.trans ?_⟩
      dsimp only
      rw [heq, alphaPow_apply, alphaPow_apply, Function.iterate_succ_apply']

/-- The evaluation of a row on numbers is its Horner evaluation. -/
theorem natSym_evalRow (r : Nat) {row : List UInt8} (hrow : ∀ d ∈ row, d < 64) :
    evalRow r row < 64 ∧ natSym (evalRow r row) =
      horner (alphaPow r) (fun i => toSym (row.getD i 0)) row.length := by
  induction row using List.reverseRecOn with
  | nil => exact ⟨(by decide : 0 < 64), rfl⟩
  | append_singleton row d ih =>
      obtain ⟨hlt, heq⟩ := ih fun e he => hrow e (List.mem_append_left _ he)
      obtain ⟨hlt', heq'⟩ := natSym_repeat hlt r
      have hd : d.toNat < 64 := UInt8.lt_iff_toNat_lt.mp (hrow d (List.mem_append_right _ List.mem_cons_self))
      have hcons : evalRow r (row ++ [d]) = Nat.xor (Nat.repeat timesAlpha r (evalRow r row)) d.toNat := by
        unfold evalRow
        rw [List.foldl_append, List.foldl_cons, List.foldl_nil]
      rw [hcons]
      refine ⟨Nat.xor_lt_two_pow (n := 6) hlt' hd, ?_⟩
      rw [natSym_xor, heq', heq, natSym_toNat, List.length_append, List.length_singleton, horner_succ]
      congr 1
      · congr 1
        apply horner_congr
        intro i hi
        rw [List.getD_append _ _ _ _ hi]
      · rw [List.getD_append_right _ _ _ _ (Nat.le_refl _), Nat.sub_self]
        rfl

/-- A code is valid when its numbers check out. -/
theorem valid_of_checks {c : Code}
    (hbounds : c.k ≤ c.n ∧ c.n ≤ 63 ∧ c.nroots ≤ 16 ∧ c.nroots ≤ c.n ∧ 0 < c.limit)
    (hlen : ∀ row ∈ c.matrix, row.length = c.n) (hk : c.matrix.length = c.k)
    (hentries : (c.matrix.all fun row => row.all fun d => d < 64) = true)
    (hsys : ∀ j < c.k, ∀ i < c.k, c.entry j i = if j = i then 1 else 0)
    (heval : ∀ row ∈ c.matrix, ∀ r < c.nroots, evalRow (r + 1) row = 0) : Valid c := by
  obtain ⟨hkn, hn, hr, hrn, hlim⟩ := hbounds
  have hentry : ∀ row ∈ c.matrix, ∀ d ∈ row, d < 64 := by
    intro row hrow d hd
    exact of_decide_eq_true (List.all_eq_true.mp (List.all_eq_true.mp hentries row hrow) d hd)
  have hmem : ∀ j < c.k, c.matrix.getD j [] ∈ c.matrix := by
    intro j hj
    rw [List.getD_eq_getElem _ _ (hk ▸ hj)]
    exact List.getElem_mem _
  refine ⟨hkn, hn, hr, hrn, hlim, ?_, hsys, ?_⟩
  · intro j hj i hi
    have hrow := hmem j hj
    unfold Code.entry
    rw [List.getD_eq_getElem _ _ (hlen _ hrow ▸ hi)]
    exact hentry _ hrow _ (List.getElem_mem _)
  · intro j hj f hf
    obtain ⟨r, hr', rfl⟩ := List.mem_map.mp hf
    have hrow := hmem j hj
    have heq := (natSym_evalRow (r + 1) (hentry _ hrow)).2
    rw [heval _ hrow r (List.mem_range.mp hr'), hlen _ hrow] at heq
    exact heq.symm

theorem valid_241213 : Valid code241213 :=
  valid_of_checks (by decide) (by decide) (by decide) (by decide) (by decide)
    (by decide +kernel)

theorem valid_24169 : Valid code24169 :=
  valid_of_checks (by decide) (by decide) (by decide) (by decide) (by decide)
    (by decide +kernel)

theorem valid_362017 : Valid code362017 :=
  valid_of_checks (by decide) (by decide) (by decide) (by decide) (by decide)
    (by decide +kernel)

/-! ## Encoding -/

/-- The octets below 64 are those with the upper two bits clear. -/
theorem lt_iff_bits (b : UInt8) : b < 64 ↔ bitOf b 0 = false ∧ bitOf b 1 = false := by
  have h : ∀ v : BitVec 8, UInt8.ofBitVec v < 64 ↔ v.getMsbD 0 = false ∧
      v.getMsbD 1 = false := by decide
  exact h b.toBitVec

theorem bin2Hex_lt (p : Bytes) (off : Nat) : bin2Hex p off < 64 := by
  rw [lt_iff_bits, bitOf_bin2Hex p off (by decide), bitOf_bin2Hex p off (by decide)]
  exact ⟨rfl, rfl⟩

section Encoding

variable {c : Code} (hv : Valid c) (data : Bytes)

/-- The symbol of data that multiplies row `j`. -/
def dataSym (j : Nat) : Sym := toSym (bin2Hex data (6 * j))

/-- The symbols of an encoded word. -/
def codeSym (c : Code) : Nat → Sym :=
  HornerCode.encode (fun j => mulHom (dataSym data j)) (fun j i => toSym (c.entry j i)) c.k

include hv

/-- The encoder's array holds the symbols. -/
theorem codewordOf_eq {i : Nat} (hi : i < c.n) : codewordOf c data i = ofSym (codeSym data c i) := by
  have hfold : ∀ m ≤ c.k, (List.range m).foldl
      (fun w j => w ^^^ gf6Mult (bin2Hex data (6 * j)) (c.entry j i)) 0x00 =
      ofSym (∑ j ∈ Finset.range m, mulHom (dataSym data j) (toSym (c.entry j i))) := by
    intro m
    induction m with
    | zero => intro _; rfl
    | succ m ih =>
        intro hm
        have hprod : gf6Mult (bin2Hex data (6 * m)) (c.entry m i) =
            ofSym (mulHom (dataSym data m) (toSym (c.entry m i))) := by
          rw [mulHom_apply, ← gf6Mult_ofSym, ofSym_toSym (hv.entry_lt m (by omega) i hi)]
          unfold dataSym
          rw [ofSym_toSym (bin2Hex_lt _ _)]
        rw [List.range_succ, List.foldl_append, ih (by omega), List.foldl_cons, List.foldl_nil, hprod,
          ← ofSym_add,
          Finset.sum_range_succ]
  exact hfold c.k (Nat.le_refl _)

/-- **Encoded words are codewords.** -/
theorem codeword_codeSym : Codeword (roots c) c.n (codeSym data c) := by
  apply codeword_encode hv.rows
  intro j _ f hf x
  obtain ⟨r, _, rfl⟩ := List.mem_map.mp hf
  exact mulHom_alphaPow _ _ x

/-- **The code is systematic**: the data symbols come first. -/
theorem codewordOf_data {i : Nat} (hi : i < c.k) : codewordOf c data i = bin2Hex data (6 * i) := by
  have hone : mulHom (dataSym data i) (toSym 1) = dataSym data i := by
    have h : ∀ a, mulSym (nthSym a) (toSym 1) = nthSym a := by decide
    obtain ⟨a, ha⟩ := exists_nthSym (dataSym data i)
    rw [ha]
    exact h a
  have hsum : codeSym data c i = dataSym data i := by
    unfold codeSym HornerCode.encode
    rw [Finset.sum_eq_single_of_mem i (Finset.mem_range.mpr hi)]
    · dsimp only
      rw [hv.systematic i hi i hi, if_pos rfl, hone]
    · intro j hj hne
      dsimp only
      rw [hv.systematic j (Finset.mem_range.mp hj) i hi, if_neg hne]
      exact map_zero _
  rw [codewordOf_eq hv data (Nat.lt_of_lt_of_le hi hv.k_le), hsum]
  exact ofSym_toSym (bin2Hex_lt _ _)

end Encoding

/-- The bits of an encoded word. -/
theorem readBit_encodeWith (c : Code) (data : Bytes) (b : Nat) :
    readBit (encodeWith c data) b =
      if b < 6 * c.n then bitOf (codewordOf c data (b / 6)) (b % 6 + 2) else readBit data b :=
  readBit_foldl_hex2Bin _ _ _ _

/-- The bits of the data stay where they are. -/
theorem readBit_encodeWith_data {c : Code} (hv : Valid c) (data : Bytes) {b : Nat} (hb : b < 6 * c.k) :
    readBit (encodeWith c data) b = readBit data b := by
  have hkn := hv.k_le
  have hpos : 6 * (b / 6) + b % 6 = b := Nat.div_add_mod b 6
  rw [readBit_encodeWith, if_pos (by omega), codewordOf_data hv data (by omega), bitOf_bin2Hex _ _ (by omega),
    decide_eq_true (by omega), Bool.true_and, Nat.add_sub_cancel, hpos]

/-! ## Decoding -/

/-- The codec on a block whose syndromes vanish. -/
theorem decode_of_clean (errata : RS.Errata) {nroots : Nat} {block : Nat → UInt8} {w : Nat → Sym}
    (hw : ∀ j, block j = ofSym (w j)) (hr : nroots ≤ 16)
    (hclean : ∀ i < nroots, horner (alphaPow (i + 1)) w 63 = 0) :
    RS.decode errata nroots block = some (0, block) := by
  have hmask : ∀ s : Sym, ofSym s &&& 0xC0 = 0 ∧ ofSym s &&& 0x3F = ofSym s := by
    intro s
    have hlt : (ofSym s).toNat < 2 ^ 6 := UInt8.lt_iff_toNat_lt.mp (ofSym_lt s)
    have hlow : ofSym s &&& 0x3F = ofSym s := and_mask_of_lt rfl hlt
    refine ⟨?_, hlow⟩
    rw [← hlow, UInt8.and_assoc]
    exact UInt8.and_zero
  have htmp : (fun i => if i < RS.NN - nroots then block i &&& 0x3F else block i) = block := by
    funext i
    split
    · rw [hw, (hmask _).2]
    · rfl
  have hNN : RS.NN = 63 := rfl
  unfold RS.decode
  dsimp only
  rw [htmp, if_neg, if_pos]
  · intro i hi
    have hsum : RS.NN - nroots + nroots = 63 := by omega
    rw [syndromes_eq hw (by omega) (by omega), hsum, hclean i hi]
    rfl
  · rintro ⟨i, _, hne⟩
    rw [hw] at hne
    exact hne (hmask _).1

/-- **An encoded word decodes to itself.** Whatever the codec does on damaged words, a buffer that holds an
    encoded word is accepted and left as it is. -/
theorem decodeWith_encoded {c : Code} (hv : Valid c) (errata : RS.Errata) {data y : Bytes}
    (h : ∀ b < 6 * c.n, readBit y b = readBit (encodeWith c data) b) :
    decodeWith errata c y = some (true, y) := by
  have hNN : RS.NN = 63 := rfl
  have hn := hv.n_le
  have hkn := hv.k_le
  -- the symbols received are those encoded
  have hsym : ∀ i < c.n, bin2Hex y (6 * i) = ofSym (codeSym data c i) := by
    intro i hi
    rw [← codewordOf_eq hv data hi]
    have hlt : codewordOf c data i < 64 := by
      rw [codewordOf_eq hv data hi]
      exact (ofSym_lt _)
    obtain ⟨h0, h1⟩ := (lt_iff_bits _).mp hlt
    apply bin2Hex_eq h0 h1
    intro t ht
    have hdiv : (6 * i + t) / 6 = i := by omega
    have hmod : (6 * i + t) % 6 = t := by omega
    rw [h _ (by omega), readBit_encodeWith, if_pos (by omega), hdiv, hmod]
  have hblock : ∀ j, (if RS.NN - c.n ≤ j then bin2Hex y (6 * (j - (RS.NN - c.n))) else 0x00) =
      ofSym (if 63 - c.n ≤ j then toSym (bin2Hex y (6 * (j - (63 - c.n)))) else 0) := by
    intro j
    rw [hNN]
    split
    · exact (ofSym_toSym (bin2Hex_lt _ _)).symm
    · rfl
  have hclean : ∀ i < c.nroots, horner (alphaPow (i + 1))
      (fun j => if 63 - c.n ≤ j then toSym (bin2Hex y (6 * (j - (63 - c.n)))) else 0) 63 = 0 := by
    intro i hi
    have hsplit : 63 = (63 - c.n) + c.n := by omega
    rw [hsplit, horner_pad _ (fun j hj => if_neg (by omega))]
    refine (horner_congr _ fun j hj => ?_).trans
      (codeword_codeSym hv data _ (List.mem_map.mpr ⟨i, List.mem_range.mpr hi, rfl⟩))
    have hj' : 63 - c.n + j - (63 - c.n) = j := by omega
    rw [← hsplit, if_pos (by omega), hj', hsym j hj, toSym_ofSym]
  have hdec := decode_of_clean errata hblock hv.nroots_le hclean
  -- the data symbols are written back as they were read
  have hback : (List.range c.k).foldl (fun out i => hex2Bin
      (if RS.NN - c.n ≤ RS.NN - c.n + i then bin2Hex y (6 * (RS.NN - c.n + i - (RS.NN - c.n))) else 0x00)
      out (6 * i)) y = y := by
    apply bytes_ext
    intro k
    rw [readBit_foldl_hex2Bin]
    split
    · have hpos : 6 * (k / 6) + k % 6 = k := Nat.div_add_mod k 6
      rw [if_pos (by omega), Nat.add_sub_cancel_left, bitOf_bin2Hex _ _ (by omega), decide_eq_true (by omega),
        Bool.true_and, Nat.add_sub_cancel, hpos]
    · rfl
  have hlimit := hv.limit_pos
  have haccept : (!decide ((0 : Int) = -1 ∨ (0 : Int) ≥ c.limit)) = true := by
    rw [Bool.not_eq_true', decide_eq_false_iff_not]
    omega
  unfold decodeWith
  dsimp only
  rw [hdec]
  refine congrArg some (Prod.ext ?_ ?_)
  · exact haccept
  · exact hback

/-- **A buffer that holds an encoded word** is accepted, and its data octets are those that were encoded. -/
theorem decodeWith_octets {c : Code} (hv : Valid c) (errata : RS.Errata) {data y : Bytes}
    (h : ∀ b < 6 * c.n, readBit y b = readBit (encodeWith c data) b) :
    decodeWith errata c y = some (true, y) ∧ ∀ n, 8 * n ≤ 6 * c.k → ∀ i < n, y i = data i := by
  refine ⟨decodeWith_encoded hv errata h, fun n hn i hi => byte_of_bits (fun b hb => ?_) hi⟩
  have hkn := hv.k_le
  rw [h b (by omega), readBit_encodeWith_data hv data (by omega)]

end RS634717

end DvmHost

import DvmHost.Common.Utils

/-!
# `Common.Edac.RS634717` — the Reed-Solomon codes of the P25 data units

`src/common/edac/RS634717.cpp` and the part of the vendored codec `src/common/edac/rs/RS.h` that it runs. The
three codes are shortened from 63 symbols of six bits; one algorithm over a matrix and three bounds. The codec
evaluates a block at its roots with logarithm tables: when all syndromes vanish it reports no correction and
leaves the block. What it does otherwise (`Errata`: error location and magnitudes) is a parameter, and so is
whether that throws.
-/

namespace DvmHost

namespace RS

/-! ## The codec of `rs/RS.h` -/

/-- `NN`, the symbols of a block. -/
def NN : Nat := 63

/-- `A0`, the logarithm of zero. -/
def A0 : Nat := 63

/-- `MODS`, the size of the modulo table. -/
def MODS : Nat := 512

/-- `gfpoly<6, 0x43>`. -/
def gfpoly (sr : Nat) : Nat :=
  if sr = 0 then 1
  else
    let sr := sr <<< 1
    let sr := if sr &&& (1 <<< 6) ≠ 0 then sr ^^^ 0x43 else sr
    sr &&& ((1 <<< 6) - 1)

/-- The table loop of `reed_solomon_tabs`, over `i` below `n`: the register `sr` and the two tables. -/
def initTables : Nat → Nat × List Nat × List Nat
  | 0 => (gfpoly 0, (List.replicate (NN + 1) 0).set 0 A0, (List.replicate (NN + 1) 0).set A0 0)
  | i + 1 =>
      let t := initTables i
      (gfpoly t.1, t.2.1.set t.1 i, t.2.2.set i t.1)

/-- `index_of`. -/
def index_of : List Nat := (initTables NN).2.1

/-- `alpha_to`. -/
def alpha_to : List Nat := (initTables NN).2.2

/-- `while (x >= bound) { x -= NN; x = (x >> MM) + (x & NN); }`; a turn makes `x` smaller, so `x` turns are
    enough. -/
def modLoop (bound : Nat) : Nat → Nat → Nat
  | 0, x => x
  | fuel + 1, x => if bound ≤ x then modLoop bound fuel (((x - NN) >>> 6) + ((x - NN) &&& NN)) else x

/-- `_modnn`. -/
def modnnSlow (x : Nat) : Nat := modLoop NN x x

/-- `modnn`; `mod_of[x - NN]` was filled with `_modnn(x)`. -/
def modnn (x : Nat) : Nat :=
  let x := modLoop (NN + MODS) x x
  if NN ≤ x then modnnSlow x else x

/-- One assignment to `syn[i]`: Horner's rule at the `i`-th root, in logarithms (`FCR` and `PRM` are 1). -/
def synStep (i : Nat) (syn d : UInt8) : UInt8 :=
  if syn = 0 then d
  else d ^^^ (alpha_to.getD (modnn (index_of.getD syn.toNat 0 + (1 + i) * 1)) 0).toUInt8

/-- The syndromes of a block of `len` data symbols and `nroots` parity symbols. -/
def syndromes (block : Nat → UInt8) (len nroots : Nat) : Nat → UInt8 :=
  let syn : Nat → UInt8 := fun _ => block 0
  let syn := (List.range' 1 (len - 1)).foldl (fun syn j i => synStep i (syn i) (block j)) syn
  (List.range nroots).foldl (fun syn j i => synStep i (syn i) (block (len + j))) syn

/-- What `decode` does with a block whose syndromes do not vanish: the count and the corrected block, or
    `none` when it throws. -/
abbrev Errata : Type := Nat → (Nat → UInt8) → Option (Int × (Nat → UInt8))

/-- `decode` by way of `decode_mask`, on a block of `NN` symbols: the count and the block, or `none` for an
    exception. A block is copied back only after a correction. -/
def decode (errata : Errata) (nroots : Nat) (codeword : Nat → UInt8) : Option (Int × (Nat → UInt8)) :=
  let len := NN - nroots
  if ∃ i < nroots, codeword (len + i) &&& 0xC0 ≠ 0 then none
  else
    let tmp : Nat → UInt8 := fun i => if i < len then codeword i &&& 0x3F else codeword i
    if ∀ i < nroots, syndromes tmp len nroots i = 0 then some (0, codeword)
    else do
      let corrected ← errata nroots tmp
      if corrected.1 > 0 then
        some (corrected.1, fun i => if i < len then codeword i &&& 0xC0 ||| corrected.2 i else corrected.2 i)
      else some (corrected.1, codeword)

end RS

/-! ## The codes -/

namespace RS634717

/-- The loop of `gf6Mult`, over its `uint8_t` variables. -/
def gf6Loop : Nat → UInt8 → UInt8 → UInt8 → UInt8
  | 0, p, _, _ => p
  | n + 1, p, a, b =>
      let p := if b &&& 0x01 = 0x01 then p ^^^ a else p
      let a := a <<< (1 : UInt8)
      -- primitive polynomial : x ^ 6 + x + 1
      let a := if a &&& 0x40 = 0x40 then a ^^^ 0x43 else a
      gf6Loop n p a (b >>> (1 : UInt8))

/-- `gf6Mult`. -/
def gf6Mult (a b : UInt8) : UInt8 := gf6Loop 6 0x00 a b

/-- `ENCODE_MATRIX`, in the octal of the source. -/
def ENCODE_MATRIX : List (List UInt8) :=
  [[1, 0, 0, 0, 0, 0, 0, 0, 0, 0, 0, 0, 0o62, 0o44, 0o03, 0o25, 0o14, 0o16, 0o27, 0o03, 0o53, 0o04, 0o36, 0o47],
   [0, 1, 0, 0, 0, 0, 0, 0, 0, 0, 0, 0, 0o11, 0o12, 0o11, 0o11, 0o16, 0o64, 0o67, 0o55, 0o01, 0o76, 0o26, 0o73],
   [0, 0, 1, 0, 0, 0, 0, 0, 0, 0, 0, 0, 0o03, 0o01, 0o05, 0o75, 0o14, 0o06, 0o20, 0o44, 0o66, 0o06, 0o70, 0o66],
   [0, 0, 0, 1, 0, 0, 0, 0, 0, 0, 0, 0, 0o21, 0o70, 0o27, 0o45, 0o16, 0o67, 0o23, 0o64, 0o73, 0o33, 0o44, 0o21],
   [0, 0, 0, 0, 1, 0, 0, 0, 0, 0, 0, 0, 0o30, 0o22, 0o03, 0o75, 0o15, 0o15, 0o33, 0o15, 0o51, 0o03, 0o53, 0o50],
   [0, 0, 0, 0, 0, 1, 0, 0, 0, 0, 0, 0, 0o01, 0o41, 0o27, 0o56, 0o76, 0o64, 0o21, 0o53, 0o04, 0o25, 0o01, 0o12],
   [0, 0, 0, 0, 0, 0, 1, 0, 0, 0, 0, 0, 0o61, 0o76, 0o21, 0o55, 0o76, 0o01, 0o63, 0o35, 0o30, 0o13, 0o64, 0o70],
   [0, 0, 0, 0, 0, 0, 0, 1, 0, 0, 0, 0, 0o24, 0o22, 0o71, 0o56, 0o21, 0o35, 0o73, 0o42, 0o57, 0o74, 0o43, 0o76],
   [0, 0, 0, 0, 0, 0, 0, 0, 1, 0, 0, 0, 0o72, 0o42, 0o05, 0o20, 0o43, 0o47, 0o33, 0o56, 0o01, 0o16, 0o13, 0o76],
   [0, 0, 0, 0, 0, 0, 0, 0, 0, 1, 0, 0, 0o72, 0o14, 0o65, 0o54, 0o35, 0o25, 0o41, 0o16, 0o15, 0o40, 0o71, 0o26],
   [0, 0, 0, 0, 0, 0, 0, 0, 0, 0, 1, 0, 0o73, 0o65, 0o36, 0o61, 0o42, 0o22, 0o17, 0o04, 0o44, 0o20, 0o25, 0o05],
   [0, 0, 0, 0, 0, 0, 0, 0, 0, 0, 0, 1, 0o71, 0o05, 0o55, 0o03, 0o71, 0o34, 0o60, 0o11, 0o74, 0o02, 0o41, 0o50]]

/-- `ENCODE_MATRIX_24169`. -/
def ENCODE_MATRIX_24169 : List (List UInt8) :=
  [[1, 0, 0, 0, 0, 0, 0, 0, 0, 0, 0, 0, 0, 0, 0, 0, 0o51, 0o45, 0o67, 0o15, 0o64, 0o67, 0o52, 0o12],
   [0, 1, 0, 0, 0, 0, 0, 0, 0, 0, 0, 0, 0, 0, 0, 0, 0o57, 0o25, 0o63, 0o73, 0o71, 0o22, 0o40, 0o15],
   [0, 0, 1, 0, 0, 0, 0, 0, 0, 0, 0, 0, 0, 0, 0, 0, 0o05, 0o01, 0o31, 0o04, 0o16, 0o54, 0o25, 0o76],
   [0, 0, 0, 1, 0, 0, 0, 0, 0, 0, 0, 0, 0, 0, 0, 0, 0o73, 0o07, 0o47, 0o14, 0o41, 0o77, 0o47, 0o11],
   [0, 0, 0, 0, 1, 0, 0, 0, 0, 0, 0, 0, 0, 0, 0, 0, 0o75, 0o15, 0o51, 0o51, 0o17, 0o67, 0o17, 0o57],
   [0, 0, 0, 0, 0, 1, 0, 0, 0, 0, 0, 0, 0, 0, 0, 0, 0o20, 0o32, 0o14, 0o42, 0o75, 0o42, 0o70, 0o54],
   [0, 0, 0, 0, 0, 0, 1, 0, 0, 0, 0, 0, 0, 0, 0, 0, 0o02, 0o75, 0o43, 0o05, 0o01, 0o40, 0o12, 0o64],
   [0, 0, 0, 0, 0, 0, 0, 1, 0, 0, 0, 0, 0, 0, 0, 0, 0o24, 0o74, 0o15, 0o72, 0o24, 0o26, 0o74, 0o61],
   [0, 0, 0, 0, 0, 0, 0, 0, 1, 0, 0, 0, 0, 0, 0, 0, 0o42, 0o64, 0o07, 0o22, 0o61, 0o20, 0o40, 0o65],
   [0, 0, 0, 0, 0, 0, 0, 0, 0, 1, 0, 0, 0, 0, 0, 0, 0o32, 0o32, 0o55, 0o41, 0o57, 0o66, 0o21, 0o77],
   [0, 0, 0, 0, 0, 0, 0, 0, 0, 0, 1, 0, 0, 0, 0, 0, 0o65, 0o36, 0o25, 0o07, 0o50, 0o16, 0o40, 0o51],
   [0, 0, 0, 0, 0, 0, 0, 0, 0, 0, 0, 1, 0, 0, 0, 0, 0o64, 0o06, 0o54, 0o32, 0o76, 0o46, 0o14, 0o36],
   [0, 0, 0, 0, 0, 0, 0, 0, 0, 0, 0, 0, 1, 0, 0, 0, 0o62, 0o63, 0o74, 0o70, 0o05, 0o27, 0o37, 0o46],
   [0, 0, 0, 0, 0, 0, 0, 0, 0, 0, 0, 0, 0, 1, 0, 0, 0o55, 0o43, 0o34, 0o71, 0o57, 0o76, 0o50, 0o64],
   [0, 0, 0, 0, 0, 0, 0, 0, 0, 0, 0, 0, 0, 0, 1, 0, 0o24, 0o23, 0o23, 0o05, 0o50, 0o70, 0o42, 0o23],
   [0, 0, 0, 0, 0, 0, 0, 0, 0, 0, 0, 0, 0, 0, 0, 1, 0o67, 0o75, 0o45, 0o60, 0o57, 0o24, 0o06, 0o26]]

/-- `ENCODE_MATRIX_362017`. -/
def ENCODE_MATRIX_362017 : List (List UInt8) :=
  [[1, 0, 0, 0, 0, 0, 0, 0, 0, 0, 0, 0, 0, 0, 0, 0, 0, 0, 0, 0,
    0o74, 0o37, 0o34, 0o06, 0o02, 0o07, 0o44, 0o64, 0o26, 0o14, 0o26, 0o44, 0o54, 0o13, 0o77, 0o05],
   [0, 1, 0, 0, 0, 0, 0, 0, 0, 0, 0, 0, 0, 0, 0, 0, 0, 0, 0, 0,
    0o04, 0o17, 0o50, 0o24, 0o11, 0o05, 0o30, 0o57, 0o33, 0o03, 0o02, 0o02, 0o15, 0o16, 0o25, 0o26],
   [0, 0, 1, 0, 0, 0, 0, 0, 0, 0, 0, 0, 0, 0, 0, 0, 0, 0, 0, 0,
    0o07, 0o23, 0o37, 0o46, 0o56, 0o75, 0o43, 0o45, 0o55, 0o21, 0o50, 0o31, 0o45, 0o27, 0o71, 0o62],
   [0, 0, 0, 1, 0, 0, 0, 0, 0, 0, 0, 0, 0, 0, 0, 0, 0, 0, 0, 0,
    0o26, 0o05, 0o07, 0o63, 0o63, 0o27, 0o63, 0o40, 0o06, 0o04, 0o40, 0o45, 0o47, 0o30, 0o75, 0o07],
   [0, 0, 0, 0, 1, 0, 0, 0, 0, 0, 0, 0, 0, 0, 0, 0, 0, 0, 0, 0,
    0o23, 0o73, 0o73, 0o41, 0o72, 0o34, 0o21, 0o51, 0o67, 0o16, 0o31, 0o74, 0o11, 0o21, 0o12, 0o21],
   [0, 0, 0, 0, 0, 1, 0, 0, 0, 0, 0, 0, 0, 0, 0, 0, 0, 0, 0, 0,
    0o24, 0o51, 0o25, 0o23, 0o22, 0o41, 0o74, 0o66, 0o74, 0o65, 0o70, 0o36, 0o67, 0o45, 0o64, 0o01],
   [0, 0, 0, 0, 0, 0, 1, 0, 0, 0, 0, 0, 0, 0, 0, 0, 0, 0, 0, 0,
    0o52, 0o33, 0o14, 0o02, 0o20, 0o06, 0o14, 0o25, 0o52, 0o23, 0o35, 0o74, 0o75, 0o75, 0o43, 0o27],
   [0, 0, 0, 0, 0, 0, 0, 1, 0, 0, 0, 0, 0, 0, 0, 0, 0, 0, 0, 0,
    0o55, 0o62, 0o56, 0o25, 0o73, 0o60, 0o15, 0o30, 0o13, 0o17, 0o20, 0o02, 0o70, 0o55, 0o14, 0o47],
   [0, 0, 0, 0, 0, 0, 0, 0, 1, 0, 0, 0, 0, 0, 0, 0, 0, 0, 0, 0,
    0o54, 0o51, 0o32, 0o65, 0o77, 0o12, 0o54, 0o13, 0o35, 0o32, 0o56, 0o12, 0o75, 0o01, 0o72, 0o63],
   [0, 0, 0, 0, 0, 0, 0, 0, 0, 1, 0, 0, 0, 0, 0, 0, 0, 0, 0, 0,
    0o74, 0o41, 0o30, 0o41, 0o43, 0o22, 0o51, 0o06, 0o64, 0o33, 0o03, 0o47, 0o27, 0o12, 0o55, 0o47],
   [0, 0, 0, 0, 0, 0, 0, 0, 0, 0, 1, 0, 0, 0, 0, 0, 0, 0, 0, 0,
    0o54, 0o70, 0o11, 0o03, 0o13, 0o22, 0o16, 0o57, 0o03, 0o45, 0o72, 0o31, 0o30, 0o56, 0o35, 0o22],
   [0, 0, 0, 0, 0, 0, 0, 0, 0, 0, 0, 1, 0, 0, 0, 0, 0, 0, 0, 0,
    0o51, 0o07, 0o72, 0o30, 0o65, 0o54, 0o06, 0o21, 0o36, 0o63, 0o50, 0o61, 0o64, 0o52, 0o01, 0o60],
   [0, 0, 0, 0, 0, 0, 0, 0, 0, 0, 0, 0, 1, 0, 0, 0, 0, 0, 0, 0,
    0o01, 0o65, 0o32, 0o70, 0o13, 0o44, 0o73, 0o24, 0o12, 0o52, 0o21, 0o55, 0o12, 0o35, 0o14, 0o72],
   [0, 0, 0, 0, 0, 0, 0, 0, 0, 0, 0, 0, 0, 1, 0, 0, 0, 0, 0, 0,
    0o11, 0o70, 0o05, 0o10, 0o65, 0o24, 0o15, 0o77, 0o22, 0o24, 0o24, 0o74, 0o07, 0o44, 0o07, 0o46],
   [0, 0, 0, 0, 0, 0, 0, 0, 0, 0, 0, 0, 0, 0, 1, 0, 0, 0, 0, 0,
    0o06, 0o02, 0o65, 0o11, 0o41, 0o20, 0o45, 0o42, 0o46, 0o54, 0o35, 0o12, 0o40, 0o64, 0o65, 0o33],
   [0, 0, 0, 0, 0, 0, 0, 0, 0, 0, 0, 0, 0, 0, 0, 1, 0, 0, 0, 0,
    0o34, 0o31, 0o01, 0o15, 0o44, 0o64, 0o16, 0o24, 0o52, 0o16, 0o06, 0o62, 0o20, 0o13, 0o55, 0o57],
   [0, 0, 0, 0, 0, 0, 0, 0, 0, 0, 0, 0, 0, 0, 0, 0, 1, 0, 0, 0,
    0o63, 0o43, 0o25, 0o44, 0o77, 0o63, 0o17, 0o17, 0o64, 0o14, 0o40, 0o74, 0o31, 0o72, 0o54, 0o06],
   [0, 0, 0, 0, 0, 0, 0, 0, 0, 0, 0, 0, 0, 0, 0, 0, 0, 1, 0, 0,
    0o71, 0o21, 0o70, 0o44, 0o56, 0o04, 0o30, 0o74, 0o04, 0o23, 0o71, 0o70, 0o63, 0o45, 0o56, 0o43],
   [0, 0, 0, 0, 0, 0, 0, 0, 0, 0, 0, 0, 0, 0, 0, 0, 0, 0, 1, 0,
    0o02, 0o01, 0o53, 0o74, 0o02, 0o14, 0o52, 0o74, 0o12, 0o57, 0o24, 0o63, 0o15, 0o42, 0o52, 0o33],
   [0, 0, 0, 0, 0, 0, 0, 0, 0, 0, 0, 0, 0, 0, 0, 0, 0, 0, 0, 1,
    0o34, 0o35, 0o02, 0o23, 0o21, 0o27, 0o22, 0o33, 0o64, 0o42, 0o05, 0o73, 0o51, 0o46, 0o73, 0o60]]

/-- What the three codes differ in: symbols, data symbols, roots of the codec, the count from which a decoding
    is refused, and the matrix. -/
structure Code where
  n : Nat
  k : Nat
  nroots : Nat
  limit : Int
  matrix : List (List UInt8)

/-- The matrix entry of row `j` and column `i`. -/
def Code.entry (c : Code) (j i : Nat) : UInt8 := (c.matrix.getD j []).getD i 0

/-- The `codeword` array of the encoders. -/
def codewordOf (c : Code) (data : Bytes) (i : Nat) : UInt8 :=
  (List.range c.k).foldl (fun w j => w ^^^ gf6Mult (bin2Hex data (6 * j)) (c.entry j i)) 0x00

/-- The encoders. -/
def encodeWith (c : Code) (data : Bytes) : Bytes :=
  (List.range c.n).foldl (fun out i => hex2Bin (codewordOf c data i) out (6 * i)) data

/-- The decoders: whether the data was decoded, and the data. -/
def decodeWith (errata : RS.Errata) (c : Code) (data : Bytes) : Option (Bool × Bytes) := do
  let codeword : Nat → UInt8 := fun i =>
    if RS.NN - c.n ≤ i then bin2Hex data (6 * (i - (RS.NN - c.n))) else 0x00
  let ec ← RS.decode errata c.nroots codeword
  let out := (List.range c.k).foldl (fun out i => hex2Bin (ec.2 (RS.NN - c.n + i)) out (6 * i)) data
  some (!(ec.1 = -1 ∨ ec.1 ≥ c.limit), out)

/-- RS (24,12,13). -/
def code241213 : Code := ⟨24, 12, 12, 6, ENCODE_MATRIX⟩

/-- RS (24,16,9). -/
def code24169 : Code := ⟨24, 16, 8, 4, ENCODE_MATRIX_24169⟩

/-- RS (36,20,17). -/
def code362017 : Code := ⟨36, 20, 16, 8, ENCODE_MATRIX_362017⟩

/-- `encode241213`. -/
def encode241213 (data : Bytes) : Bytes := encodeWith code241213 data

/-- `decode241213`. -/
def decode241213 (errata : RS.Errata) (data : Bytes) : Option (Bool × Bytes) :=
    decodeWith errata code241213 data

/-- `encode24169`. -/
def encode24169 (data : Bytes) : Bytes := encodeWith code24169 data

/-- `decode24169`. -/
def decode24169 (errata : RS.Errata) (data : Bytes) : Option (Bool × Bytes) := decodeWith errata code24169 data

/-- `encode362017`. -/
def encode362017 (data : Bytes) : Bytes := encodeWith code362017 data

/-- `decode362017`. -/
def decode362017 (errata : RS.Errata) (data : Bytes) : Option (Bool × Bytes) :=
    decodeWith errata code362017 data

end RS634717

end DvmHost

import Mathlib.Data.List.GetD
import DvmHost.Lib.Blocks
import DvmHost.Lib.Trellis
import DvmHost.Common.Utils

/-!
# `Common.Edac.Trellis` — the rate 3/4 and rate 1/2 trellis codes

`src/common/edac/Trellis.cpp`. A payload is cut into 48 inputs of three or two bits and a closing 0; each
input selects a constellation point from the row of the encode table that the input before it names; a point
is two dibits, and the 98 dibits are interleaved into a frame of 196 bits. The two rates share everything
but the table and the size of an input, so `checkCode` and `fixCode` take the rate.
-/

namespace DvmHost

namespace Trellis

open Lib.Blocks Lib.Trellis

/-- `INTERLEAVE_TABLE`. -/
def interleaveTable : List Nat :=
  [0, 1, 8, 9, 16, 17, 24, 25, 32, 33, 40, 41, 48, 49, 56, 57, 64, 65, 72, 73, 80, 81, 88, 89, 96, 97,
   2, 3, 10, 11, 18, 19, 26, 27, 34, 35, 42, 43, 50, 51, 58, 59, 66, 67, 74, 75, 82, 83, 90, 91,
   4, 5, 12, 13, 20, 21, 28, 29, 36, 37, 44, 45, 52, 53, 60, 61, 68, 69, 76, 77, 84, 85, 92, 93,
   6, 7, 14, 15, 22, 23, 30, 31, 38, 39, 46, 47, 54, 55, 62, 63, 70, 71, 78, 79, 86, 87, 94, 95]

/-- `ENCODE_TABLE_34`. -/
def encodeTable34 : List Nat :=
  [0, 8, 4, 12, 2, 10, 6, 14,
   4, 12, 2, 10, 6, 14, 0, 8,
   1, 9, 5, 13, 3, 11, 7, 15,
   5, 13, 3, 11, 7, 15, 1, 9,
   3, 11, 7, 15, 1, 9, 5, 13,
   7, 15, 1, 9, 5, 13, 3, 11,
   2, 10, 6, 14, 0, 8, 4, 12,
   6, 14, 0, 8, 4, 12, 2, 10]

/-- `ENCODE_TABLE_12`. -/
def encodeTable12 : List Nat :=
  [0, 15, 12, 3,
   4, 11, 8, 7,
   13, 2, 1, 14,
   9, 6, 5, 10]

/-- The rows of an encode table have `inputs` entries, one row for each state. -/
def codeOf (inputs : Nat) (table : List Nat) : Code :=
  ⟨inputs, fun state j => table.getD (state * inputs + j) 0⟩

/-- The rate 3/4 code. -/
def code34 : Code := codeOf 8 encodeTable34

/-- The rate 1/2 code. -/
def code12 : Code := codeOf 4 encodeTable12

/-! ## Dibits and points -/

/-- The dibit of two bits, in `deinterleave`. -/
def dibitOf (b1 b2 : Bool) : Int :=
  if !b1 && b2 then 3 else if !b1 && !b2 then 1 else if b1 && !b2 then -1 else -3

/-- The two bits of a dibit, in `interleave`. -/
def dibitBits : Int → Bool × Bool
  | 3 => (false, true)
  | 1 => (false, false)
  | -1 => (true, false)
  | _ => (true, true)

/-- The point of two dibits, in `dibitsToPoints`. The sixteen tests cover every pair of dibits. -/
def pointOf (d1 d2 : Int) : Nat :=
  if d1 = 1 ∧ d2 = -1 then 0
  else if d1 = -1 ∧ d2 = -1 then 1
  else if d1 = 3 ∧ d2 = -3 then 2
  else if d1 = -3 ∧ d2 = -3 then 3
  else if d1 = -3 ∧ d2 = -1 then 4
  else if d1 = 3 ∧ d2 = -1 then 5
  else if d1 = -1 ∧ d2 = -3 then 6
  else if d1 = 1 ∧ d2 = -3 then 7
  else if d1 = -3 ∧ d2 = 3 then 8
  else if d1 = 3 ∧ d2 = 3 then 9
  else if d1 = -1 ∧ d2 = 1 then 10
  else if d1 = 1 ∧ d2 = 1 then 11
  else if d1 = 1 ∧ d2 = 3 then 12
  else if d1 = -1 ∧ d2 = 3 then 13
  else if d1 = 3 ∧ d2 = 1 then 14
  else if d1 = -3 ∧ d2 = 1 then 15
  else 0

/-- The two dibits of a point, in `pointsToDibits`. -/
def pointDibits : Nat → Int × Int
  | 0 => (1, -1)
  | 1 => (-1, -1)
  | 2 => (3, -3)
  | 3 => (-3, -3)
  | 4 => (-3, -1)
  | 5 => (3, -1)
  | 6 => (-1, -3)
  | 7 => (1, -3)
  | 8 => (-3, 3)
  | 9 => (3, 3)
  | 10 => (-1, 1)
  | 11 => (1, 1)
  | 12 => (1, 3)
  | 13 => (-1, 3)
  | 14 => (3, 1)
  | _ => (-3, 1)

/-- `deinterleave`. -/
def deinterleave (data : Bytes) : Nat → Int :=
  scatter (List.range 98) (fun i => interleaveTable.getD i 0)
    (fun i => dibitOf (readBit data (i * 2 + 0)) (readBit data (i * 2 + 1))) (fun _ => 0)

/-- `interleave`. -/
def interleave (dibits : Nat → Int) (data : Bytes) : Bytes :=
  writeBitRun data 2 98 fun i j =>
    let bits := dibitBits (dibits (interleaveTable.getD i 0))
    if j = 0 then bits.1 else bits.2

/-- `dibitsToPoints`. -/
def dibitsToPoints (dibits : Nat → Int) : Nat → Nat :=
    fun i => pointOf (dibits (i * 2 + 0)) (dibits (i * 2 + 1))

/-- `pointsToDibits`. -/
def pointsToDibits (points : Nat → Nat) : Nat → Int := fun n =>
  if n % 2 = 0 then (pointDibits (points (n / 2))).1 else (pointDibits (points (n / 2))).2

/-! ## Payload and inputs -/

/-- `bitsToTribits`. -/
def bitsToTribits (payload : Bytes) : Nat → Nat := fun i =>
  if i < 48 then
    (if readBit payload (i * 3) then 4 else 0) ||| (if readBit payload (i * 3 + 1) then 2 else 0) |||
      (if readBit payload (i * 3 + 2) then 1 else 0)
  else 0

/-- `bitsToDibits`. -/
def bitsToDibits (payload : Bytes) : Nat → Nat := fun i =>
  if i < 48 then
    (if readBit payload (i * 2) then 2 else 0) ||| (if readBit payload (i * 2 + 1) then 1 else 0)
  else 0

/-- `tribitsToBits`. -/
def tribitsToBits (tribits : Nat → Nat) (payload : Bytes) : Bytes :=
  writeBitRun payload 3 48 fun i j =>
    let mask := [0x04, 0x02, 0x01].getD j 0
    tribits i &&& mask = mask

/-- `dibitsToBits`. -/
def dibitsToBits (dibits : Nat → Nat) (payload : Bytes) : Bytes :=
  writeBitRun payload 2 48 fun i j =>
    let mask := [0x02, 0x01].getD j 0
    dibits i &&& mask = mask

/-! ## Checking and fixing -/

/-- The inner loop of `checkCode34` and `checkCode12`: the first input whose symbol is the point. -/
def findInput (c : Code) (state point : Nat) : Option Nat :=
  (List.range c.inputs).find? fun j => point = c.symbol state j

/-- The outer loop, with `n` points to go. A point on no edge leaves the value one past the inputs (9 or 5)
    in the output and ends the loop. -/
def checkLoop (c : Code) (points : Nat → Nat) : Nat → Nat → Nat → (Nat → Nat) → Nat × (Nat → Nat)
  | 0, _, _, bits => if bits 48 ≠ 0 then (48, bits) else (999, bits)
  | n + 1, i, state, bits =>
      match findInput c state (points i) with
      | none => (i, fun k => if k = i then c.inputs + 1 else bits k)
      | some j => checkLoop c points n (i + 1) j (fun k => if k = i then j else bits k)

/-- `checkCode34` and `checkCode12`: the position of the failure, 999 for none, and the inputs. -/
def checkCode (c : Code) (points : Nat → Nat) : Nat × (Nat → Nat) := checkLoop c points 49 0 0 fun _ => 0

/-- `points[pos] = val`. -/
def setPoint (points : Nat → Nat) (pos val : Nat) : Nat → Nat := fun k => if k = pos then val else points k

/-- The loop over the sixteen values in `fixCode34` and `fixCode12`: the inputs of a value that leaves no
    failure, or else `bestPos` and `bestVal`. -/
def tryValues (c : Code) (points : Nat → Nat) (failPos : Nat) :
    List Nat → Nat × Nat → (Nat → Nat) ⊕ (Nat × Nat)
  | [], best => .inr best
  | i :: is, best =>
      let chk := checkCode c (setPoint points failPos i)
      if chk.1 = 999 then .inl chk.2
      else tryValues c points failPos is (if chk.1 > best.1 then (chk.1, i) else best)

/-- `fixCode34` and `fixCode12`, with `n` of their 20 tries left. -/
def fixCode (c : Code) : Nat → (Nat → Nat) → Nat → Option (Nat → Nat)
  | 0, _, _ => none
  | n + 1, points, failPos =>
      match tryValues c points failPos (List.range 16) (0, 0) with
      | .inl bits => some bits
      | .inr (bestPos, bestVal) => fixCode c n (setPoint points failPos bestVal) bestPos

/-- The part of `decode34` and `decode12` on points: check, fix, or backtrack one place for a last go. -/
def decodePoints (c : Code) (points : Nat → Nat) : Option (Nat → Nat) :=
  let chk := checkCode c points
  if chk.1 = 999 then some chk.2
  else
    match fixCode c 20 points chk.1 with
    | some bits => some bits
    | none => if chk.1 = 0 then none else fixCode c 20 points (chk.1 - 1)

/-- `decode34`: the payload written, or `none` for `false`. -/
def decode34 (data payload : Bytes) : Option Bytes :=
  (decodePoints code34 (dibitsToPoints (deinterleave data))).map (tribitsToBits · payload)

/-- `decode12`: the payload written, or `none` for `false`. -/
def decode12 (data payload : Bytes) : Option Bytes :=
  (decodePoints code12 (dibitsToPoints (deinterleave data))).map (dibitsToBits · payload)

/-- The loop of `encode34` and `encode12`, whose `state` is the input before. -/
def encodePoints (c : Code) (bits : Nat → Nat) : Nat → Nat := fun i => c.symbol (state bits i) (bits i)

/-- `encode34`. -/
def encode34 (payload data : Bytes) : Bytes :=
  interleave (pointsToDibits (encodePoints code34 (bitsToTribits payload))) data

/-- `encode12`. -/
def encode12 (payload data : Bytes) : Bytes :=
  interleave (pointsToDibits (encodePoints code12 (bitsToDibits payload))) data

attribute [grind =] findInput checkLoop checkCode tryValues fixCode decodePoints

/-! ## The frame

Bit `j` of symbol `i` is bit `symbolBit i j` of the frame. -/

/-- The frame bit that carries bit `j` of symbol `i`. -/
def symbolBit (i j : Nat) : Nat := interleaveTable.idxOf (i * 2 + j / 2) * 2 + j % 2

/-- The point of four bits. -/
def bitsPoint (b : Nat → Bool) : Nat := pointOf (dibitOf (b 0) (b 1)) (dibitOf (b 2) (b 3))

/-- The four bits of a point. -/
def pointBits (p : Nat) : Nat → Bool := fun j =>
  let d := if j / 2 = 0 then (pointDibits p).1 else (pointDibits p).2
  if j % 2 = 0 then (dibitBits d).1 else (dibitBits d).2

theorem mem_interleaveTable : ∀ n < 98, n ∈ interleaveTable := by decide +kernel

theorem idxOf_lt {n : Nat} (hn : n < 98) : interleaveTable.idxOf n < 98 :=
  List.idxOf_lt_length_of_mem (mem_interleaveTable n hn)

theorem getD_idxOf {n : Nat} (hn : n < 98) : interleaveTable.getD (interleaveTable.idxOf n) 0 = n := by
  rw [List.getD_eq_getElem _ _ (List.idxOf_lt_length_of_mem (mem_interleaveTable n hn))]
  exact List.getElem_idxOf _

theorem interleaveTable_inj {a b : Nat} (ha : a < 98) (hb : b < 98)
    (h : interleaveTable.getD a 0 = interleaveTable.getD b 0) : a = b := by
  have hnd : interleaveTable.Nodup := by decide +kernel
  rw [List.getD_eq_getElem _ _ ha, List.getD_eq_getElem _ _ hb] at h
  exact hnd.getElem_inj_iff.mp h

theorem symbolBit_inj {i j i' j' : Nat} (hi : i < 49) (hj : j < 4) (hi' : i' < 49) (hj' : j' < 4)
    (h : symbolBit i j = symbolBit i' j') : i = i' ∧ j = j' := by
  unfold symbolBit at h
  have hidx : interleaveTable.idxOf (i * 2 + j / 2) = interleaveTable.idxOf (i' * 2 + j' / 2) := by omega
  have hn : i * 2 + j / 2 = i' * 2 + j' / 2 := by
    rw [← getD_idxOf (by omega : i * 2 + j / 2 < 98), hidx, getD_idxOf (by omega)]
  omega

theorem deinterleave_apply (data : Bytes) {n : Nat} (hn : n < 98) :
    deinterleave data n = dibitOf (readBit data (interleaveTable.idxOf n * 2))
      (readBit data (interleaveTable.idxOf n * 2 + 1)) := by
  have hscatter : deinterleave data (interleaveTable.getD (interleaveTable.idxOf n) 0) =
      dibitOf (readBit data (interleaveTable.idxOf n * 2 + 0))
        (readBit data (interleaveTable.idxOf n * 2 + 1)) :=
    scatter_range (idxOf_lt hn) (fun b hb h => interleaveTable_inj hb (idxOf_lt hn) h)
  rwa [getD_idxOf hn] at hscatter

/-- The point received for symbol `i` is that of its four bits. -/
theorem received_point (data : Bytes) {i : Nat} (hi : i < 49) :
    dibitsToPoints (deinterleave data) i = bitsPoint (fun j => readBit data (symbolBit i j)) := by
  unfold dibitsToPoints bitsPoint
  rw [deinterleave_apply data (by omega), deinterleave_apply data (by omega)]
  rfl

/-- The bits sent for symbol `i` are those of its point. -/
theorem sent_bit (points : Nat → Nat) (data : Bytes) {i j : Nat} (hi : i < 49) (hj : j < 4) :
    readBit (interleave (pointsToDibits points) data) (symbolBit i j) = pointBits (points i) j := by
  have hn : i * 2 + j / 2 < 98 := by omega
  have hidx := idxOf_lt hn
  unfold interleave symbolBit
  rw [readBit_writeBitRun data (by decide), if_pos (by omega)]
  have hdiv : (interleaveTable.idxOf (i * 2 + j / 2) * 2 + j % 2) / 2 =
      interleaveTable.idxOf (i * 2 + j / 2) := by omega
  have hmod : (interleaveTable.idxOf (i * 2 + j / 2) * 2 + j % 2) % 2 = j % 2 := by omega
  have hsym : (i * 2 + j / 2) / 2 = i := by omega
  have hpar : (i * 2 + j / 2) % 2 = j / 2 := by omega
  dsimp only
  rw [hdiv, hmod, getD_idxOf hn]
  unfold pointsToDibits pointBits
  rw [hsym, hpar]

theorem bitsPoint_pointBits : ∀ p < 16, bitsPoint (pointBits p) = p := by decide

theorem bitsPoint_congr {b b' : Nat → Bool} (h : ∀ j < 4, b j = b' j) : bitsPoint b = bitsPoint b' := by
  unfold bitsPoint
  rw [h 0 (by decide), h 1 (by decide), h 2 (by decide), h 3 (by decide)]

end Trellis

end DvmHost

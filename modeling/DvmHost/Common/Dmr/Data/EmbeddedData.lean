import DvmHost.Common.Dmr.Lc.LC
import DvmHost.Common.Edac.CRC
import DvmHost.Common.Edac.Hamming
import DvmHost.Lib.Blocks

/-!
# `Common.Dmr.Data.EmbeddedData` — embedded link control in DMR voice bursts

`src/common/dmr/data/EmbeddedData.cpp`. 72 bits of link control and a 5-bit checksum stand in seven rows of
sixteen, each a Hamming (16,11,4) word, over a row of column parities; the 128 bits are sent column by column in
the 32 bits that each of four bursts has for them. `addData` collects four fragments in the order that their link
control start/stop bits give.

The constructor leaves `m_raw` and `m_data` uninitialised, so what they hold at first is a parameter.
-/

namespace DvmHost

open Lib Lib.Blocks

namespace Dmr

/-- `LC_STATE`. -/
inductive LCState where
  | none
  | first
  | second
  | third
deriving DecidableEq, Repr

/-- The members of `EmbeddedData`. -/
structure EmbeddedData where
  valid : Bool
  FLCO : UInt8
  state : LCState
  data : Bits
  raw : Bits

namespace EmbeddedData

/-- `EmbeddedData()`. -/
def new (data raw : Bits) : EmbeddedData :=
  { valid := false, FLCO := FLCO_GROUP, state := .none, data := data, raw := raw }

/-! ## The matrix -/

/-- `b += 16U; if (b > 127U) b -= 127U;` -/
def nextPos (b : Nat) : Nat := if b + 16 > 127 then b + 16 - 127 else b + 16

/-- The value of `b` in turn `a` of the column loops. -/
def columnPos : Nat → Nat
  | 0 => 0
  | a + 1 => nextPos (columnPos a)

/-- Row `r` of the matrix. -/
def rowPos (r i : Nat) : Nat := 16 * r + i

/-- The bounds of the seven loops over the payload bits. -/
def dataRuns : List (Nat × Nat) := [(0, 11), (16, 27), (32, 42), (48, 58), (64, 74), (80, 90), (96, 106)]

/-- The positions those loops visit, in order; the `b`-th holds bit `b` of `m_data`. -/
def dataPositions : List Nat := dataRuns.flatMap fun run => List.range' run.1 (run.2 - run.1)

/-- `if (!decode16114(data + 16 * r)) return;` -/
def decodeRow (d : Bits) (r : Nat) : Option Bits :=
  let dec := Hamming.decode16114 (gather false 16 (rowPos r) d)
  if dec.1 then some (scatter (List.range 16) (rowPos r) dec.2 d) else none

/-- `for (a = 0; a < 112; a += 16)` over the rows. -/
def decodeRows (d : Bits) : Option Bits := (List.range 7).foldlM decodeRow d

/-- The parity of column `a`. -/
def columnParity (d : Bits) (a : Nat) : Bool :=
  d (a + 0) ^^ d (a + 16) ^^ d (a + 32) ^^ d (a + 48) ^^ d (a + 64) ^^ d (a + 80) ^^ d (a + 96) ^^ d (a + 112)

/-- The checksum in the rows. -/
def storedCrc (d : Bits) : UInt32 :=
  (if d 42 then 16 else 0) + (if d 58 then 8 else 0) + (if d 74 then 4 else 0) + (if d 90 then 2 else 0) +
    (if d 106 then 1 else 0)

/-- The payload of the matrix, into the array `bits`. -/
def payload (d bits : Bits) : Bits :=
    scatter (List.range 72) id (fun b => d (dataPositions.getD b 0)) bits

/-- The unpacking loop: the matrix of the raw bits. -/
def unpackColumns (raw : Bits) : Bits := scatter (List.range 128) columnPos raw (fun _ => false)

/-- `decodeEmbeddedData`. -/
def decodeEmbeddedData (e : EmbeddedData) : EmbeddedData :=
  match decodeRows (unpackColumns e.raw) with
  | none => e
  | some d =>
      if (List.range 16).any (columnParity d) then e
      else
        let e := { e with data := payload d e.data }
        if !CRC.checkFiveBit e.data (storedCrc d) then e
        else { e with valid := true, FLCO := bitsToByteBE e.data 0 &&& 0x3F }

/-- The matrix of the payload, its checksum, its rows and the parities. -/
def encodeMatrix (data : Bits) : Bits :=
  let crc := CRC.encodeFiveBit data
  let d : Bits := fun k =>
    if k = 106 then decide (crc &&& 0x01 = 0x01) else if k = 90 then decide (crc &&& 0x02 = 0x02)
    else if k = 74 then decide (crc &&& 0x04 = 0x04) else if k = 58 then decide (crc &&& 0x08 = 0x08)
    else if k = 42 then decide (crc &&& 0x10 = 0x10) else false
  let d := scatter (List.range 72) (fun b => dataPositions.getD b 0) data d
  let d := (List.range 7).foldl (fun d r => onBlock false 16 (rowPos r) Hamming.encode16114 d) d
  scatter (List.range 16) (fun a => a + 112) (fun a => d (a + 0) ^^ d (a + 16) ^^ d (a + 32) ^^ d (a + 48) ^^
    d (a + 64) ^^ d (a + 80) ^^ d (a + 96)) d

/-- `encodeEmbeddedData`. -/
def encodeEmbeddedData (e : EmbeddedData) : EmbeddedData :=
  let d := encodeMatrix e.data
  { e with raw := scatter (List.range 128) id (fun a => d (columnPos a)) e.raw }

/-! ## Fragments -/

/-- `rawData`, the bits of the five octets in the middle of a burst. -/
def rawData (data : Bytes) : Bits := unpackBytes data 14 (fun _ => false) 0 5

/-- `for (a = 0; a < 32; a++) m_raw[a + off] = rawData[a + 4];` -/
def store (e : EmbeddedData) (data : Bytes) (off : Nat) : Bits :=
    scatter (List.range 32) (fun a => a + off) (fun a => rawData data (a + 4)) e.raw

/-- `decodeEmbeddedData(); if (m_valid) encodeEmbeddedData();` -/
def finish (e : EmbeddedData) : EmbeddedData :=
  let e := decodeEmbeddedData e
  if e.valid then encodeEmbeddedData e else e

/-- `addData`. -/
def addData (e : EmbeddedData) (data : Bytes) (lcss : UInt8) : Bool × EmbeddedData :=
  if lcss = 1 then (false, { e with raw := e.store data 0, state := .first, valid := false })
  else if lcss = 3 ∧ e.state = .first then (false, { e with raw := e.store data 32, state := .second })
  else if lcss = 3 ∧ e.state = .second then (false, { e with raw := e.store data 64, state := .third })
  else if lcss = 2 ∧ e.state = .third then
    let e := finish { e with raw := e.store data 96, state := .none }
    (e.valid, e)
  else (false, e)

/-- `getData`: the link control start/stop bits and the burst. -/
def getData (e : EmbeddedData) (data : Bytes) (n : UInt8) : UInt8 × Bytes :=
  if 1 ≤ n ∧ n < 5 then
    let n := n - 1
    let bits : Bits := scatter (List.range 32) (fun a => 4 + a) (fun a => e.raw (n.toNat * 32 + a)) (fun _ => false)
    let data := setByte data 14 (data 14 &&& 0xF0 ||| bitsToByteBE bits 0 &&& 0x0F)
    let data := setByte data 15 (bitsToByteBE bits 8)
    let data := setByte data 16 (bitsToByteBE bits 16)
    let data := setByte data 17 (bitsToByteBE bits 24)
    let data := setByte data 18 (data 18 &&& 0x0F ||| bitsToByteBE bits 32 &&& 0xF0)
    (if n = 0 then 1 else if n = 3 then 2 else 3, data)
  else
    let data := setByte data 14 (data 14 &&& 0xF0)
    let data := setByte data 15 0x00
    let data := setByte data 16 0x00
    let data := setByte data 17 0x00
    let data := setByte data 18 (data 18 &&& 0x0F)
    (0, data)

/-- `setLC`. -/
def setLC (e : EmbeddedData) (lc : LC) : EmbeddedData :=
    encodeEmbeddedData { e with data := lc.getBits e.data, FLCO := lc.FLCO, valid := true }

/-- `getLC`. -/
def getLC (e : EmbeddedData) : Option LC :=
  if !e.valid then none
  else if e.FLCO ≠ FLCO_GROUP ∧ e.FLCO ≠ FLCO_PRIVATE then none
  else some (LC.ofBits e.data)

/-- `reset`. -/
def reset (e : EmbeddedData) : EmbeddedData := { e with state := .none, valid := false }

end EmbeddedData

end Dmr

end DvmHost

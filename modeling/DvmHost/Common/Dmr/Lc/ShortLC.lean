import DvmHost.Common.Edac.Hamming
import DvmHost.Common.Utils
import DvmHost.Lib.Blocks

/-!
# `Common.Dmr.Lc.ShortLC` — the short link control of DMR

`src/common/dmr/lc/ShortLC.cpp`. 36 bits, 28 of link control and a checksum that is the caller's, stand in three rows
of twelve; each row is completed to a Hamming (17,12) word and a fourth row holds the parities of the columns. The 68
bits are interleaved. The member arrays `m_rawData` and `m_deInterData` are written in full before they are read, so
the functions pass them as values. `decodeErrorCheck` drops what `decode17123` returns, so a row that could not be
corrected stays as it is.
-/

namespace DvmHost

namespace Dmr.ShortLC

open Lib Lib.Blocks

/-- The interleave sequence. -/
def interleaveSequence (a : Nat) : Nat := (a * 4) % 67

/-- Row `r` of `m_deInterData`. -/
def rowPos (r i : Nat) : Nat := 17 * r + i

/-- The bounds of the three loops over the payload bits. -/
def dataRuns : List (Nat × Nat) := [(0, 12), (17, 29), (34, 46)]

/-- The positions those loops visit, in order. -/
def dataPositions : List Nat := dataRuns.flatMap fun run => List.range' run.1 (run.2 - run.1)

/-! ## Decoding -/

/-- `decodeExtractBinary`. -/
def decodeExtractBinary (inp : Bytes) : Bits := unpackBytes inp 0 (fun _ => false) 0 9

/-- `decodeDeInterleave`. -/
def decodeDeInterleave (rawData : Bits) : Bits :=
  let deInterData := scatter (List.range 67) id (fun a => rawData (interleaveSequence a)) (fun _ => false)
  fun k => if k = 67 then rawData 67 else deInterData k

/-- `decodeErrorCheck`: the rows are corrected in place, and what is returned is that of the columns. -/
def decodeErrorCheck (deInterData : Bits) : Bool × Bits :=
  let deInterData := (List.range 3).foldl
    (fun d r => onBlock false 17 (rowPos r) (fun d => (Hamming.decode17123 d).2) d) deInterData
  ((List.range 17).all fun c =>
    (deInterData (c + 0) ^^ deInterData (c + 17) ^^ deInterData (c + 34)) == deInterData (c + 51), deInterData)

/-- `decodeExtractData`. -/
def decodeExtractData (deInterData : Bits) (data : Bytes) : Bytes :=
  let bData := scatter (List.range 36) (fun a => 4 + a) (fun a => deInterData (dataPositions.getD a 0))
    (fun _ => false)
  packBytes bData 0 data 0 5

/-- `decode`. -/
def decode (inp out : Bytes) : Bool × Bytes :=
  let checked := decodeErrorCheck (decodeDeInterleave (decodeExtractBinary inp))
  if !checked.1 then (false, out) else (true, decodeExtractData checked.2 out)

/-! ## Encoding -/

/-- `encodeExtractData`. -/
def encodeExtractData (inp : Bytes) : Bits :=
  let bData := unpackBytes inp 0 (fun _ => false) 0 5
  scatter (List.range 36) (fun a => dataPositions.getD a 0) (fun a => bData (4 + a)) (fun _ => false)

/-- `encodeErrorCheck`. -/
def encodeErrorCheck (deInterData : Bits) : Bits :=
  let deInterData := (List.range 3).foldl (fun d r => onBlock false 17 (rowPos r) Hamming.encode17123 d) deInterData
  scatter (List.range 17) (fun c => c + 51)
    (fun c => deInterData (c + 0) ^^ deInterData (c + 17) ^^ deInterData (c + 34)) deInterData

/-- `encodeInterleave`. -/
def encodeInterleave (deInterData : Bits) : Bits :=
  let rawData := scatter (List.range 67) interleaveSequence deInterData (fun _ => false)
  fun k => if k = 67 then deInterData 67 else rawData k

/-- `encodeExtractBinary`. -/
def encodeExtractBinary (rawData : Bits) (data : Bytes) : Bytes := packBytes rawData 0 data 0 9

/-- `encode`. -/
def encode (inp out : Bytes) : Bytes :=
  encodeExtractBinary (encodeInterleave (encodeErrorCheck (encodeExtractData inp))) out

end Dmr.ShortLC

end DvmHost

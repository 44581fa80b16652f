import DvmHost.Common.Edac.AMBEFEC

/-!
# `Common.P25.Audio` — the voice frames of an LDU

`Audio::process`, `Audio::decode` and `Audio::encode` of `src/common/p25/Audio.cpp`. An LDU carries nine voice frames
of 144 bits; each holds 88 bits of voice in four Golay words, three Hamming words and seven bits of no code, whitened
behind the first word and interleaved. The arrays the source leaves uninitialised are all zeros here; every bit of
them is written before it is read.
-/

namespace DvmHost

open Lib AMBEFEC

namespace Audio

/-- The `start` and the `stop` of each `case` of the `switch (n)`, which `process` goes through in order. -/
def frames : List (Nat × Nat) :=
  [(114, 262), (262, 410), (452, 600), (640, 788), (830, 978), (1020, 1168), (1208, 1356), (1398, 1546), (1578, 1726)]

/-- The lines of `process` for one frame, on `errs`, the data and `imbe`. -/
def processFrame (s : Nat × Bytes × Bytes) (frame : Nat × Nat) : Option (Nat × Bytes × Bytes) := do
  let (errs, data, imbe) := s
  let imbe := (P25Utils.decode data imbe frame.1 frame.2).2
  let (errors, imbe) ← regenerateIMBE imbe
  some (errs + errors, (P25Utils.encode imbe data frame.1 frame.2).2, imbe)

/-- `Audio::process`: the number of errors corrected, and the data. -/
def process (data : Bytes) : Option (Nat × Bytes) := do
  let (errs, data, _) ← frames.foldlM processFrame (0, data, fun _ => 0)
  some (errs, data)

/-- The eight loops that write the voice bits: the first bit of each in `bit`, and how many it has. -/
def voiceParts : List (Nat × Nat) :=
  [(0, 12), (23, 12), (46, 12), (69, 12), (92, 11), (107, 11), (122, 11), (137, 7)]

/-- These loops, which share `offset`. -/
def writeVoice (bit : Bits) (imbe : Bytes) : Bytes :=
  (voiceParts.foldl (fun s part =>
    (List.range part.2).foldl (fun s i => (writeBit s.1 s.2 (bit (i + part.1)), s.2 + 1)) s) (imbe, 0)).1

/-- `Audio::decode`: the `imbe`. -/
def decode (data imbe : Bytes) (n : Nat) : Bytes :=
  match frames[n]? with
  | none => imbe
  | some (start, stop) =>
      let temp := (P25Utils.decode data (fun _ => 0) start stop).2
      let bit := deinterleave temp
      let c0data := LC.packWord 12 bit
      writeVoice (whiten c0data bit) imbe

/-- The loop that reads one of the words `c0 .. c3`. -/
def readVoice (imbe : Bytes) (first : Nat) : Nat := LC.packWord 12 fun i => readBit imbe (i + first)

/-- The lines that write a Golay word at the pointer `bit`. -/
def putGolay (bit c : Nat) (temp : Bits) : Bits := atBit bit (LC.unpackWord 24 (Golay24128.encode23127 c)) temp

/-- The lines that write a Hamming word at the pointer `bit`. -/
def putHamming (bit : Nat) (imbe : Bytes) (first : Nat) (temp : Bits) : Bits :=
  atBit bit (fun d => Hamming.encode15113_1 fun i => if i < 11 then readBit imbe (i + first) else d i) temp

/-- The bits that `encode` makes of the voice, before they are whitened. -/
def words (imbe : Bytes) : Bits :=
  let temp := putGolay 0 (readVoice imbe 0) fun _ => false
  let temp := putGolay 23 (readVoice imbe 12) temp
  let temp := putGolay 46 (readVoice imbe 24) temp
  let temp := putGolay 69 (readVoice imbe 36) temp
  let temp := putHamming 92 imbe 48 temp
  let temp := putHamming 107 imbe 59 temp
  let temp := putHamming 122 imbe 70 temp
  atBit 137 (fun d i => if i < 7 then readBit imbe (i + 81) else d i) temp

/-- `Audio::encode`: the data. -/
def encode (data imbe : Bytes) (n : Nat) : Bytes :=
  let temp := interleave (whiten (readVoice imbe 0) (words imbe)) fun _ => 0
  match frames[n]? with
  | none => data
  | some (start, stop) => (P25Utils.encode temp data start stop).2

end Audio

end DvmHost

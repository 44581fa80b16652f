import DvmHost.Lib.ParityCode

/-!
# `Common.Edac.Hamming` — the Hamming codes

`src/common/edac/Hamming.cpp`. The functions of the file are one algorithm over different checks and tables
(`Lib.ParityCode`): the source's `c0, c1, ..` are the checks, `n` is the syndrome and the `switch` is the
table, a pair for each `case`. The codes no modelled function calls are left out.
-/

namespace DvmHost

namespace Hamming

open Lib

/-! ## Hamming (15,11,3), first form -/

/-- `c0 .. c3` of the first (15,11,3) code. -/
def checks15113_1 : List (List Nat) :=
  [[0, 1, 2, 3, 4, 5, 6],
   [0, 1, 2, 3, 7, 8, 9],
   [0, 1, 4, 5, 7, 8, 10],
   [0, 2, 4, 6, 7, 9, 10]]

/-- The `switch` of `decode15113_1`. -/
def table15113_1 : List (Nat × Nat) :=
  [(0x01, 11), (0x02, 12), (0x04, 13), (0x08, 14),
   (0x0F, 0), (0x07, 1), (0x0B, 2), (0x03, 3), (0x0D, 4), (0x05, 5), (0x09, 6), (0x0E, 7), (0x06, 8),
   (0x0A, 9), (0x0C, 10)]

/-- `Hamming::decode15113_1`. -/
def decode15113_1 (d : Nat → Bool) : Bool × (Nat → Bool) := ParityCode.decode 11 checks15113_1 table15113_1 d

/-- `Hamming::encode15113_1`. -/
def encode15113_1 (d : Nat → Bool) : Nat → Bool := ParityCode.encode 11 checks15113_1 d

theorem corrects15113_1 : ParityCode.Corrects 15 11 checks15113_1 table15113_1 := by decide

/-! ## Hamming (15,11,3), second form -/

/-- `c0 .. c3` of the second (15,11,3) code. -/
def checks15113_2 : List (List Nat) :=
  [[0, 1, 2, 3, 5, 7, 8],
   [1, 2, 3, 4, 6, 8, 9],
   [2, 3, 4, 5, 7, 9, 10],
   [0, 1, 2, 4, 6, 7, 10]]

/-- The `switch` of `decode15113_2`. -/
def table15113_2 : List (Nat × Nat) :=
  [(0x01, 11), (0x02, 12), (0x04, 13), (0x08, 14),
   (0x09, 0), (0x0B, 1), (0x0F, 2), (0x07, 3), (0x0E, 4), (0x05, 5), (0x0A, 6), (0x0D, 7), (0x03, 8),
   (0x06, 9), (0x0C, 10)]

/-- `Hamming::decode15113_2`. -/
def decode15113_2 (d : Nat → Bool) : Bool × (Nat → Bool) := ParityCode.decode 11 checks15113_2 table15113_2 d

/-- `Hamming::encode15113_2`. -/
def encode15113_2 (d : Nat → Bool) : Nat → Bool := ParityCode.encode 11 checks15113_2 d

theorem corrects15113_2 : ParityCode.Corrects 15 11 checks15113_2 table15113_2 := by decide

/-! ## Hamming (13,9,3) -/

/-- `c0 .. c3` of the (13,9,3) code. -/
def checks1393 : List (List Nat) :=
  [[0, 1, 3, 5, 6],
   [0, 1, 2, 4, 6, 7],
   [0, 1, 2, 3, 5, 7, 8],
   [0, 2, 4, 5, 8]]

/-- The `switch` of `decode1393`. -/
def table1393 : List (Nat × Nat) :=
  [(0x01, 9), (0x02, 10), (0x04, 11), (0x08, 12),
   (0x0F, 0), (0x07, 1), (0x0E, 2), (0x05, 3), (0x0A, 4), (0x0D, 5), (0x03, 6), (0x06, 7), (0x0C, 8)]

/-- `Hamming::decode1393`. -/
def decode1393 (d : Nat → Bool) : Bool × (Nat → Bool) := ParityCode.decode 9 checks1393 table1393 d

/-- `Hamming::encode1393`. -/
def encode1393 (d : Nat → Bool) : Nat → Bool := ParityCode.encode 9 checks1393 d

theorem corrects1393 : ParityCode.Corrects 13 9 checks1393 table1393 := by decide

/-! ## Hamming (10,6,3) -/

/-- `c0 .. c3` of the (10,6,3) code. -/
def checks1063 : List (List Nat) :=
  [[0, 1, 2, 5],
   [0, 1, 3, 5],
   [0, 2, 3, 4],
   [1, 2, 3, 4]]

/-- The `switch` of `decode1063`. -/
def table1063 : List (Nat × Nat) :=
  [(0x01, 6), (0x02, 7), (0x04, 8), (0x08, 9),
   (0x07, 0), (0x0B, 1), (0x0D, 2), (0x0E, 3), (0x0C, 4), (0x03, 5)]

/-- `Hamming::decode1063`. -/
def decode1063 (d : Nat → Bool) : Bool × (Nat → Bool) := ParityCode.decode 6 checks1063 table1063 d

/-- `Hamming::encode1063`. -/
def encode1063 (d : Nat → Bool) : Nat → Bool := ParityCode.encode 6 checks1063 d

theorem corrects1063 : ParityCode.Corrects 10 6 checks1063 table1063 := by decide

/-! ## Hamming (16,11,4) -/

/-- `c0 .. c4` of the (16,11,4) code. -/
def checks16114 : List (List Nat) :=
  [[0, 1, 2, 3, 5, 7, 8],
   [1, 2, 3, 4, 6, 8, 9],
   [2, 3, 4, 5, 7, 9, 10],
   [0, 1, 2, 4, 6, 7, 10],
   [0, 2, 5, 6, 8, 9, 10]]

/-- The `switch` of `decode16114`. -/
def table16114 : List (Nat × Nat) :=
  [(0x01, 11), (0x02, 12), (0x04, 13), (0x08, 14), (0x10, 15),
   (0x19, 0), (0x0B, 1), (0x1F, 2), (0x07, 3), (0x0E, 4), (0x15, 5), (0x1A, 6), (0x0D, 7), (0x13, 8),
   (0x16, 9), (0x1C, 10)]

/-- `Hamming::decode16114`. A word without errors is reported as a corrected one is; false means that the errors
    are more than one. -/
def decode16114 (d : Nat → Bool) : Bool × (Nat → Bool) :=
  if ParityCode.syndrome d 11 checks16114 = 0x00 then (true, d) else ParityCode.decode 11 checks16114 table16114 d

/-- `Hamming::encode16114`. -/
def encode16114 (d : Nat → Bool) : Nat → Bool := ParityCode.encode 11 checks16114 d

theorem corrects16114 : ParityCode.Corrects 16 11 checks16114 table16114 := by decide

/-! ## Hamming (17,12,3) -/

/-- `c0 .. c4` of the (17,12,3) code. -/
def checks17123 : List (List Nat) :=
  [[0, 1, 2, 3, 6, 7, 9],
   [0, 1, 2, 3, 4, 7, 8, 10],
   [1, 2, 3, 4, 5, 8, 9, 11],
   [0, 1, 4, 5, 7, 10],
   [0, 1, 2, 5, 6, 8, 11]]

/-- The `switch` of `decode17123`. -/
def table17123 : List (Nat × Nat) :=
  [(0x01, 12), (0x02, 13), (0x04, 14), (0x08, 15), (0x10, 16),
   (0x1B, 0), (0x1F, 1), (0x17, 2), (0x07, 3), (0x0E, 4), (0x1C, 5), (0x11, 6), (0x0B, 7), (0x16, 8),
   (0x05, 9), (0x0A, 10), (0x14, 11)]

/-- `Hamming::decode17123`. A word without errors is reported as a corrected one is; false means that no single error
    explains the word. -/
def decode17123 (d : Nat → Bool) : Bool × (Nat → Bool) :=
  if ParityCode.syndrome d 12 checks17123 = 0x00 then (true, d) else ParityCode.decode 12 checks17123 table17123 d

/-- `Hamming::encode17123`. -/
def encode17123 (d : Nat → Bool) : Nat → Bool := ParityCode.encode 12 checks17123 d

theorem corrects17123 : ParityCode.Corrects 17 12 checks17123 table17123 := by decide

end Hamming

end DvmHost

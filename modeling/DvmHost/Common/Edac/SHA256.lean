import DvmHost.Common.Utils

/-!
# `Common.Edac.SHA256` — the digest of a message

`src/common/edac/SHA256.{h,cpp}`, for a machine that is not `WORDS_BIGENDIAN`. `m_buffer` has 32 words and is the octets
they are kept in. What comes in is taken in three steps: the buffer is topped up, if something waits in it; the whole
blocks of the rest are processed where they are; and what is left is kept. The 64 lines of `processBlock` are one line,
whose registers are named by a rotation, for each `t`; the last 48 of them compute the word they use in the window `x`.
-/

namespace DvmHost

/-- `class SHA256`. -/
structure SHA256 where
  m_state : Vector UInt32 8
  m_total : UInt32 × UInt32
  m_buflen : Nat
  m_buffer : Bytes

namespace SHA256

/-- `SWAP`. -/
def SWAP (n : UInt32) : UInt32 :=
  n <<< (24 : UInt32) ||| (n &&& 0xFF00) <<< (8 : UInt32) ||| (n >>> (8 : UInt32) &&& 0xFF00) ||| n >>> (24 : UInt32)

/-- `roundConstants`. -/
def roundConstants : List UInt32 :=
  [0x428A2F98, 0x71374491, 0xB5C0FBCF, 0xE9B5DBA5, 0x3956C25B, 0x59F111F1, 0x923F82A4, 0xAB1C5ED5,
   0xD807AA98, 0x12835B01, 0x243185BE, 0x550C7DC3, 0x72BE5D74, 0x80DEB1FE, 0x9BDC06A7, 0xC19BF174,
   0xE49B69C1, 0xEFBE4786, 0x0FC19DC6, 0x240CA1CC, 0x2DE92C6F, 0x4A7484AA, 0x5CB0A9DC, 0x76F988DA,
   0x983E5152, 0xA831C66D, 0xB00327C8, 0xBF597FC7, 0xC6E00BF3, 0xD5A79147, 0x06CA6351, 0x14292967,
   0x27B70A85, 0x2E1B2138, 0x4D2C6DFC, 0x53380D13, 0x650A7354, 0x766A0ABB, 0x81C2C92E, 0x92722C85,
   0xA2BFE8A1, 0xA81A664B, 0xC24B8B70, 0xC76C51A3, 0xD192E819, 0xD6990624, 0xF40E3585, 0x106AA070,
   0x19A4C116, 0x1E376C08, 0x2748774C, 0x34B0BCB5, 0x391C0CB3, 0x4ED8AA4A, 0x5B9CCA4F, 0x682E6FF3,
   0x748F82EE, 0x78A5636F, 0x84C87814, 0x8CC70208, 0x90BEFFFA, 0xA4506CEB, 0xBEF9A3F7, 0xC67178F2]

/-- `K`. -/
def K (i : Nat) : UInt32 := roundConstants.getD i 0

/-- `F2`. -/
def F2 (a b c : UInt32) : UInt32 := (a &&& b) ||| (c &&& (a ||| b))

/-- `F1`. -/
def F1 (e f g : UInt32) : UInt32 := g ^^^ (e &&& (f ^^^ g))

/-- `rol`. -/
def rol (x n : UInt32) : UInt32 := x <<< n ||| x >>> (32 - n)

/-- `S0`. -/
def S0 (x : UInt32) : UInt32 := rol x 25 ^^^ rol x 14 ^^^ x >>> (3 : UInt32)

/-- `S1`. -/
def S1 (x : UInt32) : UInt32 := rol x 15 ^^^ rol x 13 ^^^ x >>> (10 : UInt32)

/-- `SS0`. -/
def SS0 (x : UInt32) : UInt32 := rol x 30 ^^^ rol x 19 ^^^ rol x 10

/-- `SS1`. -/
def SS1 (x : UInt32) : UInt32 := rol x 26 ^^^ rol x 21 ^^^ rol x 7

/-- The word `*words` of the octets at `p`, as a machine with the low octet first loads it. -/
def loadWord (p : Bytes) : UInt32 := word32 (p 3) (p 2) (p 1) (p 0)

/-- `set_uint32`. -/
def setWord (p : Bytes) (i : Nat) (v : UInt32) : Bytes :=
  memcpy p i (fun k => [v.toUInt8, (v >>> (8 : UInt32)).toUInt8, (v >>> (16 : UInt32)).toUInt8,
    (v >>> (24 : UInt32)).toUInt8].getD k 0) 4

/-- The register that line `t` calls its `j`-th: the lines name them one place further on each time. -/
def reg (t j : Nat) : Fin 8 := ⟨(j + 7 * t) % 8, Nat.mod_lt _ (by decide)⟩

/-- `R`, as line `t` has it, with the word `m`. -/
def R (t : Nat) (m : UInt32) (v : Vector UInt32 8) : Vector UInt32 8 :=
  let t0 := SS0 v[reg t 0] + F2 v[reg t 0] v[reg t 1] v[reg t 2]
  let t1 := v[reg t 7] + SS1 v[reg t 4] + F1 v[reg t 4] v[reg t 5] v[reg t 6] + K t + m
  let v := v.set (reg t 3) (v[reg t 3] + t1)
  v.set (reg t 7) (t0 + t1)

/-- `x[i & 0x0f]`. -/
def windowIdx (i : Nat) : Fin 16 := ⟨i % 16, Nat.mod_lt _ (by decide)⟩

/-- `M`, the value `tm`. -/
def M (x : Vector UInt32 16) (i : Nat) : UInt32 :=
  S1 x[windowIdx (i - 2)] + x[windowIdx (i - 7)] + S0 x[windowIdx (i - 15)] + x[windowIdx i]

/-- Line `t`. -/
def line (s : Vector UInt32 8 × Vector UInt32 16) (t : Nat) : Vector UInt32 8 × Vector UInt32 16 :=
  if t < 16 then (R t s.2[windowIdx t] s.1, s.2)
  else
    let tm := M s.2 t
    (R t tm s.1, s.2.set (windowIdx t) tm)

/-- A turn of the loop of `processBlock`, on the block at `p`. -/
def blockTurn (m_state : Vector UInt32 8) (p : Bytes) : Vector UInt32 8 :=
  let x : Vector UInt32 16 := Vector.ofFn fun t : Fin 16 => SWAP (loadWord (fromByte (4 * t) p))
  let v := ((List.range 64).foldl line (m_state, x)).1
  Vector.ofFn fun j : Fin 8 => m_state[j] + v[j]

/-- The double word increment of the byte count. -/
def addTotal (total : UInt32 × UInt32) (len : UInt32) : UInt32 × UInt32 :=
  let t0 := total.1 + len
  (t0, if t0 < len then total.2 + 1 else total.2)

/-- `processBlock`; the loop takes sixteen words at a time until it is past the last one. -/
def processBlock (s : SHA256) (buffer : Bytes) (len : Nat) : SHA256 :=
  let nwords := len / 4
  { s with
    m_total := addTotal s.m_total (UInt32.ofNat len)
    m_state := (List.range ((nwords + 15) / 16)).foldl (fun st i => blockTurn st (fromByte (64 * i) buffer)) s.m_state }

/-- `len & ~63U`. -/
def whole (len : Nat) : Nat := 64 * (len / 64)

/-- The first step of `processBytes`; the octets it takes from the buffer given are its second result. -/
def topUp (s : SHA256) (buffer : Bytes) (len : Nat) : SHA256 × Nat :=
  if s.m_buflen = 0 then (s, 0)
  else
    let left_over := s.m_buflen
    let add := if 128 - left_over > len then len else 128 - left_over
    let s := { s with m_buffer := memcpy s.m_buffer left_over buffer add, m_buflen := left_over + add }
    if s.m_buflen > 64 then
      let s := s.processBlock s.m_buffer (whole s.m_buflen)
      let s := { s with m_buflen := s.m_buflen % 64 }
      ({ s with m_buffer := memcpy s.m_buffer 0 (fromByte (whole (left_over + add)) s.m_buffer) s.m_buflen }, add)
    else (s, add)

/-- The second step: the complete blocks. -/
def wholeBlocks (s : SHA256) (buffer : Bytes) (len : Nat) : SHA256 × Nat :=
  if len ≥ 64 then (s.processBlock buffer (whole len), whole len) else (s, 0)

/-- The third step: the remaining octets go to the buffer. -/
def keepRest (s : SHA256) (buffer : Bytes) (len : Nat) : SHA256 :=
  if len > 0 then
    let left_over := s.m_buflen
    let s := { s with m_buffer := memcpy s.m_buffer left_over buffer len }
    let left_over := left_over + len
    if left_over ≥ 64 then
      let s := s.processBlock s.m_buffer 64
      let left_over := left_over - 64
      { s with m_buffer := memcpy s.m_buffer 0 (fromByte 64 s.m_buffer) left_over, m_buflen := left_over }
    else { s with m_buflen := left_over }
  else s

/-- `processBytes`. -/
def processBytes (s : SHA256) (buffer : Bytes) (len : Nat) : SHA256 :=
  let (s, add) := s.topUp buffer len
  let buffer := fromByte add buffer
  let len := len - add
  let (s, taken) := s.wholeBlocks buffer len
  s.keepRest (fromByte taken buffer) (len - taken)

/-- `fillbuf`. -/
def fillbuf : Bytes := fun i => if i = 0 then 0x80 else 0

/-- `conclude`. -/
def conclude (s : SHA256) : SHA256 :=
  let bytes := s.m_buflen
  let size := if bytes < 56 then 64 / 4 else 64 * 2 / 4
  let total := addTotal s.m_total (UInt32.ofNat bytes)
  let buffer := setWord s.m_buffer (4 * (size - 2)) (SWAP (total.2 <<< (3 : UInt32) ||| total.1 >>> (29 : UInt32)))
  let buffer := setWord buffer (4 * (size - 1)) (SWAP (total.1 <<< (3 : UInt32)))
  let buffer := memcpy buffer bytes fillbuf ((size - 2) * 4 - bytes)
  { s with m_total := total, m_buffer := buffer }.processBlock buffer (size * 4)

/-- `read`, on the memory at `buffer`. -/
def read (s : SHA256) (buffer : Bytes) : Bytes :=
  (List.finRange 8).foldl (fun buffer (i : Fin 8) => setWord buffer (i * 4) (SWAP s.m_state[i])) buffer

/-- `finish`. -/
def finish (s : SHA256) (buffer : Bytes) : Bytes := s.conclude.read buffer

/-- The words `init` sets. -/
def initState : Vector UInt32 8 :=
  #v[0x6A09E667, 0xBB67AE85, 0x3C6EF372, 0xA54FF53A, 0x510E527F, 0x9B05688C, 0x1F83D9AB, 0x5BE0CD19]

/-- `init`, which leaves the buffer as it is. -/
def init (s : SHA256) : SHA256 := { s with m_state := initState, m_total := (0, 0), m_buflen := 0 }

/-- `buffer`, the function of that name. -/
def digest (s : SHA256) (buffer : Bytes) (len : Nat) (resblock : Bytes) : Bytes :=
  (s.init.processBytes buffer len).finish resblock

end SHA256

end DvmHost

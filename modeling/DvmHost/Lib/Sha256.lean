import Mathlib
import DvmHost.Lib.Streaming

/-!
# `Lib.Sha256` — the secure hash standard with 32-bit words

The hash of a message, as the standard states it: the message is padded to whole blocks of 64 octets by a one bit,
zeros, and its length in bits; each block is expanded to a schedule of 64 words, which 64 rounds mix into the eight
words of the hash. The round constants `K` and the initial hash `H` are parameters.
-/

namespace Lib.Sha256

/-- The rotation to the right. -/
def rotr (x n : UInt32) : UInt32 := x >>> n ||| x <<< (32 - n)

/-- `Σ₀`. -/
def bigSigma0 (x : UInt32) : UInt32 := rotr x 2 ^^^ rotr x 13 ^^^ rotr x 22

/-- `Σ₁`. -/
def bigSigma1 (x : UInt32) : UInt32 := rotr x 6 ^^^ rotr x 11 ^^^ rotr x 25

/-- `σ₀`. -/
def sigma0 (x : UInt32) : UInt32 := rotr x 7 ^^^ rotr x 18 ^^^ x >>> (3 : UInt32)

/-- `σ₁`. -/
def sigma1 (x : UInt32) : UInt32 := rotr x 17 ^^^ rotr x 19 ^^^ x >>> (10 : UInt32)

/-- `Ch`. -/
def ch (x y z : UInt32) : UInt32 := (x &&& y) ^^^ (~~~x &&& z)

/-- `Maj`. -/
def maj (x y z : UInt32) : UInt32 := (x &&& y) ^^^ (x &&& z) ^^^ (y &&& z)

/-- The schedule of a block whose words are `w`. -/
def schedule (w : Nat → UInt32) (t : Nat) : UInt32 :=
  if t < 16 then w t
  else sigma1 (schedule w (t - 2)) + schedule w (t - 7) + sigma0 (schedule w (t - 15)) + schedule w (t - 16)
termination_by t

/-- A round on the words `a` to `h`, with the constant `k` and the word `w` of the schedule. -/
def round (k w : UInt32) (v : Vector UInt32 8) : Vector UInt32 8 :=
  let word (i : Nat) := v.getD i 0
  let t1 := word 7 + bigSigma1 (word 4) + ch (word 4) (word 5) (word 6) + k + w
  let t2 := bigSigma0 (word 0) + maj (word 0) (word 1) (word 2)
  #v[t1 + t2, word 0, word 1, word 2, word 3 + t1, word 4, word 5, word 6]

/-- The word that four octets stand for, the first of them the most significant. -/
def beWord (b0 b1 b2 b3 : UInt8) : UInt32 :=
  b0.toUInt32 <<< (24 : UInt32) ||| b1.toUInt32 <<< (16 : UInt32) ||| b2.toUInt32 <<< (8 : UInt32) ||| b3.toUInt32

/-- Word `t` of a block. -/
def word (block : List UInt8) (t : Nat) : UInt32 :=
  beWord (block.getD (4 * t) 0) (block.getD (4 * t + 1) 0) (block.getD (4 * t + 2) 0) (block.getD (4 * t + 3) 0)

/-- The first `n` rounds. -/
def rounds (K : Nat → UInt32) (w : Nat → UInt32) (v : Vector UInt32 8) (n : Nat) : Vector UInt32 8 :=
  (List.range n).foldl (fun v t => round (K t) (schedule w t) v) v

/-- The hash after one more block. -/
def compress (K : Nat → UInt32) (hash : Vector UInt32 8) (block : List UInt8) : Vector UInt32 8 :=
  Vector.zipWith (· + ·) hash (rounds K (word block) hash 64)

/-- The zeros of the padding of `n` octets. -/
def zeros (n : Nat) : Nat := (119 - n % 64) % 64

/-- A length in octets, as the 64-bit number of its bits, the first octet the most significant. -/
def lengthField (n : Nat) : List UInt8 := (List.range 8).map fun i => UInt8.ofNat (8 * n / 2 ^ (56 - 8 * i))

/-- The padded message. -/
def pad (m : List UInt8) : List UInt8 := m ++ 0x80 :: List.replicate (zeros m.length) 0 ++ lengthField m.length

theorem length_pad (m : List UInt8) : (pad m).length = m.length + zeros m.length + 9 := by
  simp only [pad, lengthField, List.length_append, List.length_cons, List.length_replicate, List.length_map,
    List.length_range]
  omega

/-- **The padded message has whole blocks.** -/
theorem dvd_length_pad (m : List UInt8) : 64 ∣ (pad m).length := by
  rw [length_pad]
  unfold zeros
  omega

/-- The octets of a word, the most significant first. -/
def beOctets (v : UInt32) : List UInt8 :=
  [(v >>> (24 : UInt32)).toUInt8, (v >>> (16 : UInt32)).toUInt8, (v >>> (8 : UInt32)).toUInt8, v.toUInt8]

/-- The digest of a message. -/
def digest (K : Nat → UInt32) (H : Vector UInt32 8) (m : List UInt8) : List UInt8 :=
  (Streaming.foldBlocks (compress K) 64 H (pad m)).toList.flatMap beOctets

end Lib.Sha256

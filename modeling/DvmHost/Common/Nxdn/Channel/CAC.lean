import DvmHost.Common.Edac.CRC
import DvmHost.Common.Nxdn.Channel.Puncture

/-!
# `Common.Nxdn.Channel.CAC` — the common access channel

`src/common/nxdn/channel/CAC.cpp`. `decode`, of inbound frames, deinterleaves 252 bits of the frame into `buffer`, 32
octets on the stack, and then takes the octets of `buffer` as the symbols of the convolution. What is read of the stack
is an `Access`: addresses from 32 on lie behind `buffer`. `encode` makes outbound frames, whose collision control field
is a parameter.

The source has no encoder for inbound frames. `encodeLongIn` is the one that the tables beside `decode` and the
lengths `NXDN_CAC_LONG_` of `NXDNDefines.h` describe.
-/

namespace DvmHost.Nxdn

open Lib Channel

/-- `CAC`, without the collision control field, which only `encode` looks at. -/
structure CAC where
  m_ran : UInt8
  m_structure : UInt8
  m_data : Bytes
  m_rxCRC : UInt16

namespace CAC

/-- `INTERLEAVE_TABLE_IN`. -/
def INTERLEAVE_TABLE_IN : List Nat :=
  [0, 21, 42, 63, 84, 105, 126, 147, 168, 189, 210, 231, 1, 22, 43, 64, 85, 106, 127, 148, 169, 190, 211, 232,
   2, 23, 44, 65, 86, 107, 128, 149, 170, 191, 212, 233, 3, 24, 45, 66, 87, 108, 129, 150, 171, 192, 213, 234,
   4, 25, 46, 67, 88, 109, 130, 151, 172, 193, 214, 235, 5, 26, 47, 68, 89, 110, 131, 152, 173, 194, 215, 236,
   6, 27, 48, 69, 90, 111, 132, 153, 174, 195, 216, 237, 7, 28, 49, 70, 91, 112, 133, 154, 175, 196, 217, 238,
   8, 29, 50, 71, 92, 113, 134, 155, 176, 197, 218, 239, 9, 30, 51, 72, 93, 114, 135, 156, 177, 198, 219, 240,
   10, 31, 52, 73, 94, 115, 136, 157, 178, 199, 220, 241, 11, 32, 53, 74, 95, 116, 137, 158, 179, 200, 221, 242,
   12, 33, 54, 75, 96, 117, 138, 159, 180, 201, 222, 243, 13, 34, 55, 76, 97, 118, 139, 160, 181, 202, 223, 244,
   14, 35, 56, 77, 98, 119, 140, 161, 182, 203, 224, 245, 15, 36, 57, 78, 99, 120, 141, 162, 183, 204, 225, 246,
   16, 37, 58, 79, 100, 121, 142, 163, 184, 205, 226, 247, 17, 38, 59, 80, 101, 122, 143, 164, 185, 206, 227, 248,
   18, 39, 60, 81, 102, 123, 144, 165, 186, 207, 228, 249, 19, 40, 61, 82, 103, 124, 145, 166, 187, 208, 229, 250,
   20, 41, 62, 83, 104, 125, 146, 167, 188, 209, 230, 251]

/-- `PUNCTURE_LIST_LONG_IN`. -/
def PUNCTURE_LIST_LONG_IN : List Nat :=
  [1, 7, 9, 11, 19, 27, 33, 35, 37, 45, 53, 59, 61, 63, 71, 79, 85, 87, 89, 97,
   105, 111, 113, 115, 123, 131, 137, 139, 141, 149, 157, 163, 165, 167, 175, 183, 189, 191, 193, 201,
   209, 215, 217, 219, 227, 235, 241, 243, 245, 253, 261, 267, 269, 271, 279, 287, 293, 295, 297, 305]

/-- `INTERLEAVE_TABLE_OUT`. -/
def INTERLEAVE_TABLE_OUT : List Nat :=
  [0, 25, 50, 75, 100, 125, 150, 175, 200, 225, 250, 275,
   1, 26, 51, 76, 101, 126, 151, 176, 201, 226, 251, 276,
   2, 27, 52, 77, 102, 127, 152, 177, 202, 227, 252, 277,
   3, 28, 53, 78, 103, 128, 153, 178, 203, 228, 253, 278,
   4, 29, 54, 79, 104, 129, 154, 179, 204, 229, 254, 279,
   5, 30, 55, 80, 105, 130, 155, 180, 205, 230, 255, 280,
   6, 31, 56, 81, 106, 131, 156, 181, 206, 231, 256, 281,
   7, 32, 57, 82, 107, 132, 157, 182, 207, 232, 257, 282,
   8, 33, 58, 83, 108, 133, 158, 183, 208, 233, 258, 283,
   9, 34, 59, 84, 109, 134, 159, 184, 209, 234, 259, 284,
   10, 35, 60, 85, 110, 135, 160, 185, 210, 235, 260, 285,
   11, 36, 61, 86, 111, 136, 161, 186, 211, 236, 261, 286,
   12, 37, 62, 87, 112, 137, 162, 187, 212, 237, 262, 287,
   13, 38, 63, 88, 113, 138, 163, 188, 213, 238, 263, 288,
   14, 39, 64, 89, 114, 139, 164, 189, 214, 239, 264, 289,
   15, 40, 65, 90, 115, 140, 165, 190, 215, 240, 265, 290,
   16, 41, 66, 91, 116, 141, 166, 191, 216, 241, 266, 291,
   17, 42, 67, 92, 117, 142, 167, 192, 217, 242, 267, 292,
   18, 43, 68, 93, 118, 143, 168, 193, 218, 243, 268, 293,
   19, 44, 69, 94, 119, 144, 169, 194, 219, 244, 269, 294,
   20, 45, 70, 95, 120, 145, 170, 195, 220, 245, 270, 295,
   21, 46, 71, 96, 121, 146, 171, 196, 221, 246, 271, 296,
   22, 47, 72, 97, 122, 147, 172, 197, 222, 247, 272, 297,
   23, 48, 73, 98, 123, 148, 173, 198, 223, 248, 273, 298,
   24, 49, 74, 99, 124, 149, 174, 199, 224, 249, 274, 299]

/-- `PUNCTURE_LIST_OUT`. -/
def PUNCTURE_LIST_OUT : List Nat :=
  [3, 11, 17, 25, 31, 39, 45, 53, 59, 67,
   73, 81, 87, 95, 101, 109, 115, 123, 129, 137,
   143, 151, 157, 165, 171, 179, 185, 193, 199, 207,
   213, 221, 227, 235, 241, 249, 255, 263, 269, 277,
   283, 291, 297, 305, 311, 319, 325, 333, 339, 347]

/-- `NXDN_CAC_IN_FEC_LENGTH_BITS`. -/
def NXDN_CAC_IN_FEC_LENGTH_BITS : Nat := 252

/-- `NXDN_CAC_IN_FEC_LENGTH_BYTES`. -/
def NXDN_CAC_IN_FEC_LENGTH_BYTES : Nat := NXDN_CAC_IN_FEC_LENGTH_BITS / 8 + 1

/-- `NXDN_CAC_SHORT_CRC_LENGTH_BITS`. -/
def NXDN_CAC_SHORT_CRC_LENGTH_BITS : Nat := 126

/-- `NXDN_CAC_SHORT_LENGTH_BITS`. -/
def NXDN_CAC_SHORT_LENGTH_BITS : Nat := 106

/-- `NXDN_CAC_LONG_LENGTH_BITS`. -/
def NXDN_CAC_LONG_LENGTH_BITS : Nat := 136

/-- `NXDN_CAC_LENGTH_BITS`. -/
def NXDN_CAC_LENGTH_BITS : Nat := 155

/-- `NXDN_CAC_E_POST_FIELD_BITS`. -/
def NXDN_CAC_E_POST_FIELD_BITS : Nat := 24

/-- The tables of the outbound channel, with the `NXDN_CAC_` lengths. -/
def codingOut : Coding where
  interleaveTable := INTERLEAVE_TABLE_OUT
  punctureList := PUNCTURE_LIST_OUT
  fecBits := 300
  convBits := 350
  crcBits := 175

/-- The tables of the long inbound channel, with the `NXDN_CAC_IN_` and `NXDN_CAC_LONG_` lengths. -/
def codingLongIn : Coding where
  interleaveTable := INTERLEAVE_TABLE_IN
  punctureList := PUNCTURE_LIST_LONG_IN
  fecBits := NXDN_CAC_IN_FEC_LENGTH_BITS
  convBits := 312
  crcBits := 156

/-- `NXDN_FSW_LENGTH_BITS + NXDN_LICH_LENGTH_BITS`. -/
def base : Nat := 20 + 16

/-- The stack as `decode` finds it behind its loop `// deinterleave`: `buffer`, and what lies behind it. -/
def stack (behind data : Bytes) : Bytes := fun i =>
  if i < NXDN_CAC_IN_FEC_LENGTH_BYTES then
    deinterleave INTERLEAVE_TABLE_IN base NXDN_CAC_IN_FEC_LENGTH_BITS data (fun _ => 0) i
  else behind (i - NXDN_CAC_IN_FEC_LENGTH_BYTES)

/-- A turn of the loop `// decode convolution`, whose `n` is `2 * i`; none once it has returned false. -/
def readTurn (i : Nat) : Option Convolution → Access UInt8 (Option Convolution)
  | none => pure none
  | some conv => do
      let s0 ← Access.cell (2 * i)
      let s1 ← Access.cell (2 * i + 1)
      pure (if (conv.decode s0 s1).1 then some (conv.decode s0 s1).2 else none)

/-- The loop `// decode convolution`. -/
def readLoop (conv : Convolution) : Nat → Access UInt8 (Option Convolution)
  | 0 => pure (some conv)
  | i + 1 => do
      let conv ← readLoop conv i
      readTurn i conv

/-- The lines of `decode` behind the convolution. -/
def finish (ch : CAC) (conv : Convolution) : Bool × CAC :=
  let m_data := (conv.chainback ch.m_data NXDN_CAC_SHORT_CRC_LENGTH_BITS).1
  if CRC.checkCRC16 m_data NXDN_CAC_SHORT_LENGTH_BITS then
    let crc := copyBits (fun _ => 0) 0 m_data (NXDN_CAC_SHORT_CRC_LENGTH_BITS - 20) 16
    (true,
      { m_ran := m_data 0 &&& 0x3F
        m_structure := m_data 0 >>> 6 &&& 0x03
        m_data
        m_rxCRC := (crc 0).toUInt16 <<< 8 ||| (crc 1).toUInt16 <<< 0 })
  else (false, { ch with m_data })

/-- What `decode` returns, by the outcome of the loop. -/
def outcome (ch : CAC) : Option Convolution → Bool × CAC
  | none => (false, ch)
  | some conv => ch.finish conv

/-- `decode`, over the stack. -/
def decodeStack (ch : CAC) (conv : Convolution) : Access UInt8 (Bool × CAC) := do
  let conv ← readLoop conv.start (NXDN_CAC_SHORT_CRC_LENGTH_BITS + 4)
  pure (ch.outcome conv)

/-- `decode` of a frame. -/
def decode (ch : CAC) (conv : Convolution) (behind data : Bytes) : Bool × CAC :=
  (ch.decodeStack conv).value (stack behind data)

/-- The octets of a long inbound CAC: the first one as `encode` sets it, and the payload. -/
def withHeader (ch : CAC) : Bytes := setByte ch.m_data 0 (ch.m_ran ||| ch.m_structure <<< 6 &&& 0xC0)

/-- A long inbound CAC: 136 bits, the CRC-16 and four zeros, and of their 312 symbols the 252 that are kept. -/
def encodeLongIn (ch : CAC) (mem : Memory) (data : Bytes) : Bytes :=
  let buffer := copyBits (fun _ => 0) 0 ch.withHeader 0 NXDN_CAC_LONG_LENGTH_BITS
  let buffer := CRC.addCRC16 buffer NXDN_CAC_LONG_LENGTH_BITS
  encodeBits codingLongIn mem base buffer data

/-! ## Outbound frames -/

/-- The collision control field: `m_idleBusy`, `m_txContinuous` and `m_receive`. -/
structure Control where
  m_idleBusy : Bool
  m_txContinuous : Bool
  m_receive : Bool

/-- The lines `// apply control field` that fill `control`. -/
def Control.octets (c : Control) (crc : UInt16) : Bytes :=
  let parity : UInt8 := if c.m_idleBusy && c.m_txContinuous then 0x01 else 0x03
  let control := setByte (fun _ => 0) 0 ((if c.m_idleBusy then 0x03 else 0x01) <<< (6 : UInt8) +
    (if c.m_txContinuous then 0x03 else 0x01) <<< (4 : UInt8) + parity <<< (2 : UInt8) +
    (if c.m_receive then 0x03 else 0x01))
  let control := setByte control 1 (crc >>> (8 : UInt16) &&& 0xFF).toUInt8
  setByte control 2 (crc >>> (0 : UInt16) &&& 0xFF).toUInt8

/-- `encode`: the object, whose `m_data` it changes, and the frame. -/
def encode (ch : CAC) (control : Control) (mem : Memory) (data : Bytes) : CAC × Bytes :=
  let m_data := setByte ch.m_data 0 ch.m_ran
  let m_data := setByte m_data 0 (m_data 0 ||| ch.m_structure <<< 6 &&& 0xC0)
  let buffer := copyBits (fun _ => 0) 0 m_data 0 NXDN_CAC_LENGTH_BITS
  let crc := CRC.createCRC16 buffer NXDN_CAC_LENGTH_BITS
  let buffer := CRC.addCRC16 buffer NXDN_CAC_LENGTH_BITS
  let data := encodeBits codingOut mem base buffer data
  let data := copyBits data (base + codingOut.fecBits) (control.octets crc) 0 NXDN_CAC_E_POST_FIELD_BITS
  ({ ch with m_data }, data)

/-! ## What `decode` reads and writes -/

/-- Below 300 steps no symbol makes the decoder fail. -/
theorem value_readLoop (conv : Convolution) (m : Bytes) {n : Nat} (hn : conv.m_dp + n ≤ 300) :
    ∃ c, (readLoop conv n).value m = some c ∧ c.m_dp = conv.m_dp + n := by
  induction n with
  | zero => exact ⟨conv, rfl, rfl⟩
  | succ n ih =>
      obtain ⟨c, hc, hdp⟩ := ih (by omega)
      obtain ⟨hok, hnext, -⟩ := Convolution.decode_spec (c := c) (m (2 * n)) (m (2 * n + 1)) (by omega)
      refine ⟨(c.decode (m (2 * n)) (m (2 * n + 1))).2, ?_, by omega⟩
      rw [readLoop, Access.value_bind, hc, readTurn]
      simp only [Access.value_bind, Access.value_cell, Access.value_pure, hok, if_true]

/-- Each turn reads the two octets at `n`. -/
theorem touched_readLoop (conv : Convolution) (m : Bytes) {n i : Nat} (hn : conv.m_dp + n ≤ 300) (hi : i < 2 * n) :
    i ∈ (readLoop conv n).touched m := by
  induction n with
  | zero => omega
  | succ n ih =>
      obtain ⟨c, hc, -⟩ := value_readLoop conv m (n := n) (by omega)
      rw [readLoop, Access.touched_bind, List.mem_append]
      rcases Nat.lt_or_ge i (2 * n) with hlt | hge
      · exact Or.inl (ih (by omega) hlt)
      · refine Or.inr ?_
        rw [hc, readTurn]
        simp only [Access.touched_bind, Access.touched_cell, List.mem_append, List.mem_singleton]
        omega

theorem readBit_chainback_of_ge (c : Convolution) (out : Bytes) {n k : Nat} (hk : n ≤ k) :
    readBit (c.chainback out n).1 k = readBit out k := by
  have hloop : ∀ n dp state out, n ≤ k →
      readBit (Convolution.chainbackLoop c.m_decisions n dp state out) k = readBit out k := by
    intro n
    induction n with
    | zero => exact fun _ _ _ _ => rfl
    | succ n ih =>
        intro dp state out hn
        rw [Convolution.chainbackLoop, ih _ _ _ (by omega), readBit_writeBit, if_neg (by omega)]
  exact hloop n c.m_dp 0 out hk

theorem m_data_finish (ch : CAC) (conv : Convolution) :
    (ch.finish conv).2.m_data = (conv.chainback ch.m_data NXDN_CAC_SHORT_CRC_LENGTH_BITS).1 := by
  rw [finish, apply_ite Prod.snd, apply_ite CAC.m_data, ite_self]

/-- `decode` leaves `m_data` from bit 126 on as it was. -/
theorem readBit_decode_of_ge (ch : CAC) (conv : Convolution) (behind data : Bytes) {k : Nat} (hk : 126 ≤ k) :
    readBit (ch.decode conv behind data).2.m_data k = readBit ch.m_data k := by
  rw [decode, decodeStack, Access.value_bind, Access.value_pure]
  rcases (readLoop conv.start (NXDN_CAC_SHORT_CRC_LENGTH_BITS + 4)).value (stack behind data) with _ | c
  · rfl
  · rw [outcome, m_data_finish, readBit_chainback_of_ge c ch.m_data (show NXDN_CAC_SHORT_CRC_LENGTH_BITS ≤ k from hk)]

/-- **The stack is read up to address 259**, whatever it holds. -/
theorem touched_decodeStack (ch : CAC) (conv : Convolution) (m : Bytes) {i : Nat} (hi : i < 260) :
    i ∈ (ch.decodeStack conv).touched m := by
  have hdp : conv.start.m_dp = 0 := rfl
  have hloop : i ∈ (readLoop conv.start (NXDN_CAC_SHORT_CRC_LENGTH_BITS + 4)).touched m :=
    touched_readLoop conv.start m (by rw [hdp]; decide) hi
  rw [decodeStack, Access.touched_bind]
  exact List.mem_append_left _ hloop

end CAC

end DvmHost.Nxdn

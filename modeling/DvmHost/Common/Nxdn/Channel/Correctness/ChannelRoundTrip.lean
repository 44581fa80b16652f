import DvmHost.Common.Nxdn.Channel.CAC
import DvmHost.Common.Nxdn.Channel.SACCH
import DvmHost.Common.Nxdn.Channel.FACCH1
import DvmHost.Common.Nxdn.Channel.UDCH
import DvmHost.Common.Nxdn.Channel.Correctness.ChannelRepair

/-!
# `Common.Nxdn.Channel.Correctness.ChannelRoundTrip` — SACCH, FACCH1 and UDCH carry their data

The tables of the three channels pass the checks of `ChannelRepair`, so the block with its CRC comes back after one
inverted bit of the frame; the CRC then checks, and the object holds the octets that were sent.

Inbound CACs are not recovered. Their `decode` has no depuncturing. It hands octets of `buffer` to the convolution where
symbols belong, and at two octets a step it leaves the 32 of `buffer` behind after 16 of its 130 steps. The chainback is
that of a short CAC: of the 128 bits of a long payload it writes the first 118.
-/

namespace DvmHost.Nxdn

open Channel

theorem SACCH.interleaveTable_eq : SACCH.INTERLEAVE_TABLE = blockTable 12 5 := by decide

theorem SACCH.sound : Sound SACCH.coding 35 where
  crcBits := rfl
  convBits := rfl
  tableLength := by decide
  tableNodup := by
    show SACCH.INTERLEAVE_TABLE.Nodup
    rw [SACCH.interleaveTable_eq]
    exact nodup_blockTable
  tableLt := by decide
  sorted := by decide
  gap := by decide
  separates := by decide +kernel
  room := by decide

theorem SACCH.endsBehind : EndsBehind SACCH.coding 35 where
  entry := by decide
  notMem := by decide
  below := by decide
  fecBits := by decide

theorem FACCH1.interleaveTable_eq : FACCH1.INTERLEAVE_TABLE = blockTable 16 9 := by decide

theorem FACCH1.sound : Sound FACCH1.coding 95 where
  crcBits := rfl
  convBits := rfl
  tableLength := by decide +kernel
  tableNodup := by
    show FACCH1.INTERLEAVE_TABLE.Nodup
    rw [FACCH1.interleaveTable_eq]
    exact nodup_blockTable
  tableLt := by decide +kernel
  sorted := by decide
  gap := by decide
  separates := by decide +kernel
  room := by decide

theorem FACCH1.endsInside : EndsInside FACCH1.coding 95 where
  pos := by decide
  entry := by decide
  below := by decide
  fecBits := by decide

theorem UDCH.interleaveTable_eq : UDCH.INTERLEAVE_TABLE = blockTable 12 29 := by decide +kernel

theorem UDCH.sound : Sound UDCH.coding 202 where
  crcBits := rfl
  convBits := rfl
  tableLength := by decide +kernel
  tableNodup := by
    show UDCH.INTERLEAVE_TABLE.Nodup
    rw [UDCH.interleaveTable_eq]
    exact nodup_blockTable
  tableLt := by decide +kernel
  sorted := by decide +kernel
  gap := by decide +kernel
  separates := by decide +kernel
  room := by decide

theorem UDCH.endsInside : EndsInside UDCH.coding 202 where
  pos := by decide
  entry := by decide
  below := by decide
  fecBits := by decide

/-! ## The objects -/

theorem or_and_distrib (a b c : UInt8) : (a ||| b) &&& c = a &&& c ||| b &&& c :=
  byte_ext fun j _ => by simp only [bitOf_and, bitOf_or, Bool.and_or_distrib_right]

theorem SACCH.header_fields (x r s : UInt8) :
    ((x &&& 0xC0 ||| r) &&& 0x3F ||| s <<< (6 : UInt8) &&& (0xC0 : UInt8)) &&& 0x3F = r &&& 0x3F ∧
    ((x &&& 0xC0 ||| r) &&& 0x3F ||| s <<< (6 : UInt8) &&& (0xC0 : UInt8)) >>> (6 : UInt8) &&& (0x03 : UInt8)
      = s &&& 0x03 := by
  have hlow : ∀ v : Fin 256, (UInt8.ofNat v &&& 0x3F) >>> (6 : UInt8) = 0 := by decide +kernel
  have hhigh : ∀ v : Fin 256, (UInt8.ofNat v <<< (6 : UInt8) &&& (0xC0 : UInt8)) >>> (6 : UInt8) &&& (0x03 : UInt8)
      = UInt8.ofNat v &&& 0x03 := by decide +kernel
  have hmask : (0xC0 : UInt8) &&& 0x3F = 0 := rfl
  have hofNat : ∀ v : UInt8, UInt8.ofNat (⟨v.toNat, v.toNat_lt⟩ : Fin 256) = v := fun v => UInt8.ofNat_toNat
  refine ⟨?_, ?_⟩
  · rw [or_and_distrib, UInt8.and_assoc (s <<< 6), hmask, UInt8.and_zero, UInt8.or_zero,
      UInt8.and_assoc, UInt8.and_self, or_and_distrib, UInt8.and_assoc x, hmask, UInt8.and_zero,
      UInt8.zero_or]
  · have h0 := hlow ⟨(x &&& 0xC0 ||| r).toNat, UInt8.toNat_lt _⟩
    have h1 := hhigh ⟨s.toNat, s.toNat_lt⟩
    rw [hofNat] at h0 h1
    rw [UInt8.shiftRight_or, h0, UInt8.zero_or, h1]

/-- Octet 0 of what `encode` writes into the frame, as the fields that `decode` takes from it. -/
theorem SACCH.withHeader_zero (ch : SACCH) :
    SACCH.withHeader ch 0 &&& 0x3F = ch.m_ran &&& 0x3F ∧
    SACCH.withHeader ch 0 >>> 6 &&& 0x03 = ch.m_structure &&& 0x03 := by
  have hoctet : SACCH.withHeader ch 0
      = (ch.m_data 0 &&& 0xC0 ||| ch.m_ran) &&& 0x3F ||| ch.m_structure <<< (6 : UInt8) &&& (0xC0 : UInt8) := by
    simp [SACCH.withHeader]
  rw [hoctet]
  exact SACCH.header_fields ..

theorem SACCH.withHeader_of_pos (ch : SACCH) {i : Nat} (hi : 0 < i) : SACCH.withHeader ch i = ch.m_data i := by
  have hne : i ≠ 0 := by omega
  simp [SACCH.withHeader, setByte_of_ne, hne]

/-- The receiver has the structure, the RAN and the payload of the sender: two, six and 18 bits. -/
def SACCH.Holds (rx tx : SACCH) : Prop :=
  rx.m_ran = tx.m_ran &&& 0x3F ∧ rx.m_structure = tx.m_structure &&& 0x03 ∧
    ∀ k, 8 ≤ k → k < 26 → readBit rx.m_data k = readBit tx.m_data k

/-- The receiver has the ten octets of the sender. -/
def FACCH1.Holds (rx tx : FACCH1) : Prop := ∀ i < 10, rx.m_data i = tx.m_data i

/-- The receiver has the RAN, of six bits, and the 22 octets of payload. -/
def UDCH.Holds (rx tx : UDCH) : Prop :=
  rx.m_ran = tx.m_ran &&& 0x3F ∧ ∀ i, 1 ≤ i → i < 23 → rx.m_data i = tx.m_data i

section Recover

variable (mem : Memory) (frame : Bytes) {S : List Nat} (hS : S.length ≤ 1)

include hS

theorem SACCH.recover (tx rx : SACCH) :
    (rx.decode mem (flipBits S (tx.encode mem frame).2)).1 = true ∧
      (rx.decode mem (flipBits S (tx.encode mem frame).2)).2.Holds tx := by
  have hdata : ∀ k < 26, readBit (CRC.addCRC6 (copyBits (fun _ => 0) 0 tx.withHeader 0 26) 26) k
      = readBit tx.withHeader k := fun k hk => by
    rw [CRC.addCRC6, CRC.readBit_writeCRC _ _ _ _ hk, readBit_copyBits, if_pos (by omega)]
    congr 1
    omega
  obtain ⟨out, hout, hbits⟩ := decodeBits_encodeBits SACCH.sound mem (Or.inr ⟨SACCH.endsBehind, rfl⟩) SACCH.base
    (CRC.addCRC6 (copyBits (fun _ => 0) 0 tx.withHeader 0 26) 26)
    (fun k hk => by
      rw [CRC.addCRC6, CRC.writeCRC, readBit_copyBits, if_neg (by omega), readBit_copyBits, if_neg (by omega),
        readBit_eq]
      exact bitOf_zero _)
    frame rx.m_data hS
  have hcrc : CRC.checkCRC6 out NXDN_SACCH_LENGTH_BITS = true :=
    CRC.checkCRC6_of_add fun k hk => hbits k (by unfold NXDN_SACCH_LENGTH_BITS at hk; omega)
  have hsame : ∀ k < 26, readBit out k = readBit tx.withHeader k := fun k hk => by
    rw [hbits k (by omega), hdata k hk]
  have hoctet : out 0 = tx.withHeader 0 := byte_of_bits (n := 1) (fun k hk => hsame k (by omega)) (by omega)
  have hdecode : rx.decode mem (flipBits S (tx.encode mem frame).2)
      = (true, { m_ran := out 0 &&& 0x3F, m_structure := out 0 >>> 6 &&& 0x03, m_data := out }) := by
    unfold SACCH.decode SACCH.encode
    rw [NXDN_SACCH_LENGTH_BITS] at hcrc ⊢
    rw [hout]
    dsimp only
    rw [if_pos hcrc]
  rw [hdecode, hoctet]
  refine ⟨rfl, (tx.withHeader_zero).1, (tx.withHeader_zero).2, fun k h8 hk => ?_⟩
  show readBit out k = _
  rw [hsame k hk, readBit_eq, readBit_eq, tx.withHeader_of_pos (by omega)]

theorem FACCH1.recover (tx rx : FACCH1) (offset : Nat) :
    (rx.decode mem (flipBits S (tx.encode mem frame offset)) offset).1 = true ∧
      (rx.decode mem (flipBits S (tx.encode mem frame offset)) offset).2.Holds tx := by
  obtain ⟨out, hout, hbits⟩ := decodeBits_encodeBits FACCH1.sound mem (Or.inl FACCH1.endsInside) offset
    (CRC.addCRC12 (memcpy (fun _ => 0) 0 tx.m_data 10) 80)
    (fun k hk => by
      rw [CRC.addCRC12, CRC.addCRC, CRC.writeCRC, readBit_copyBits, if_neg (by omega), readBit_eq,
        memcpy, if_neg (by omega)]
      exact bitOf_zero _)
    frame rx.m_data hS
  have hcrc : CRC.checkCRC12 out 80 = true := CRC.checkCRC12_of_add fun k hk => hbits k (by omega)
  have hoctets : ∀ i < 10, out i = tx.m_data i := fun i hi => by
    have hmem := memcpy_add (fun _ => 0) 0 tx.m_data hi
    rw [Nat.zero_add] at hmem
    rw [← hmem]
    refine byte_of_bits (n := 10) (fun k hk => ?_) hi
    rw [hbits k (by omega), CRC.addCRC12, CRC.addCRC, CRC.readBit_writeCRC _ _ _ _ (by omega)]
  have hdecode : rx.decode mem (flipBits S (tx.encode mem frame offset)) offset = (true, { m_data := out }) := by
    unfold FACCH1.decode FACCH1.encode
    rw [NXDN_FACCH1_LENGTH_BITS, hout]
    dsimp only
    rw [if_pos hcrc]
  rw [hdecode]
  exact ⟨rfl, hoctets⟩

theorem UDCH.recover (tx rx : UDCH) :
    (rx.decode mem (flipBits S (tx.encode mem frame).2)).1 = true ∧
      (rx.decode mem (flipBits S (tx.encode mem frame).2)).2.Holds tx := by
  obtain ⟨out, hout, hbits⟩ := decodeBits_encodeBits UDCH.sound mem (Or.inl UDCH.endsInside) UDCH.base
    (CRC.addCRC15 (memcpy (fun _ => 0) 0 (setByte tx.m_data 0 tx.m_ran) 23) 184)
    (fun k hk => by
      rw [CRC.addCRC15, CRC.addCRC, CRC.writeCRC, readBit_copyBits, if_neg (by omega), readBit_eq,
        memcpy, if_neg (by omega)]
      exact bitOf_zero _)
    frame rx.m_data hS
  have hcrc : CRC.checkCRC15 out 184 = true := CRC.checkCRC15_of_add fun k hk => hbits k (by omega)
  have hoctets : ∀ i < 23, out i = setByte tx.m_data 0 tx.m_ran i := fun i hi => by
    have hmem := memcpy_add (fun _ => 0) 0 (setByte tx.m_data 0 tx.m_ran) hi
    rw [Nat.zero_add] at hmem
    rw [← hmem]
    refine byte_of_bits (n := 23) (fun k hk => ?_) hi
    rw [hbits k (by omega), CRC.addCRC15, CRC.addCRC, CRC.readBit_writeCRC _ _ _ _ (by omega)]
  have hdecode : rx.decode mem (flipBits S (tx.encode mem frame).2)
      = (true, { m_ran := out 0 &&& 0x3F, m_data := out }) := by
    unfold UDCH.decode UDCH.encode
    rw [NXDN_UDCH_LENGTH_BITS]
    dsimp only
    rw [hout]
    dsimp only
    rw [if_pos hcrc]
  rw [hdecode, hoctets 0 (by omega)]
  refine ⟨rfl, ?_, fun i h1 hi => ?_⟩
  · show setByte tx.m_data 0 tx.m_ran 0 &&& 0x3F = _
    rw [setByte_same]
  · show out i = _
    rw [hoctets i hi, setByte_of_ne _ _ (by omega)]

end Recover

/-- **NXDN channel coding.** Whatever lies behind the puncture lists and in memory that was not cleared: for every
    object and frame, `decode` of what `encode` wrote, with at most one bit of the frame inverted, returns true and
    gives the receiver the sender's data; and `encode` leaves the bits outside the channel's region alone. -/
theorem channels_recover (mem : Memory) (frame : Bytes) (S : List Nat) (hS : S.length ≤ 1) :
    (∀ tx rx : SACCH,
      (rx.decode mem (flipBits S (tx.encode mem frame).2)).1 = true ∧
      (rx.decode mem (flipBits S (tx.encode mem frame).2)).2.Holds tx ∧
      ∀ k, k < 36 ∨ 96 ≤ k → readBit (tx.encode mem frame).2 k = readBit frame k) ∧
    (∀ (tx rx : FACCH1) (offset : Nat),
      (rx.decode mem (flipBits S (tx.encode mem frame offset)) offset).1 = true ∧
      (rx.decode mem (flipBits S (tx.encode mem frame offset)) offset).2.Holds tx ∧
      ∀ k, k < offset ∨ offset + 144 ≤ k → readBit (tx.encode mem frame offset) k = readBit frame k) ∧
    (∀ tx rx : UDCH,
      (rx.decode mem (flipBits S (tx.encode mem frame).2)).1 = true ∧
      (rx.decode mem (flipBits S (tx.encode mem frame).2)).2.Holds tx ∧
      ∀ k, k < 36 ∨ 384 ≤ k → readBit (tx.encode mem frame).2 k = readBit frame k) := by
  refine ⟨fun tx rx => ?_, fun tx rx offset => ?_, fun tx rx => ?_⟩
  · obtain ⟨hok, hholds⟩ := SACCH.recover mem frame hS tx rx
    exact ⟨hok, hholds, fun k hk => readBit_encodeBits_outside SACCH.sound mem SACCH.base _ frame hk⟩
  · obtain ⟨hok, hholds⟩ := FACCH1.recover mem frame hS tx rx offset
    exact ⟨hok, hholds, fun k hk => readBit_encodeBits_outside FACCH1.sound mem offset _ frame hk⟩
  · obtain ⟨hok, hholds⟩ := UDCH.recover mem frame hS tx rx
    refine ⟨hok, hholds, fun k hk => ?_⟩
    have hregion : k < UDCH.base ∨ UDCH.base + UDCH.coding.fecBits ≤ k := by
      simp only [UDCH.base, UDCH.coding]
      omega
    have hframe : ∀ buffer, readBit (encodeBits UDCH.coding mem UDCH.base buffer frame) k = readBit frame k :=
      fun buffer => readBit_encodeBits_outside UDCH.sound mem UDCH.base buffer frame hregion
    simp only [UDCH.encode, hframe]

/-- Bit 50 inverted. -/
theorem channels_recover_50 :
    ([50] : List Nat).length ≤ 1 ∧
    ∀ tx rx : SACCH,
      (rx.decode ⟨fun _ => 0, fun _ => 0, ⟨fun _ => 0, fun _ => 0, fun _ => 0, 0⟩⟩ (flipBits [50]
        (tx.encode ⟨fun _ => 0, fun _ => 0, ⟨fun _ => 0, fun _ => 0, fun _ => 0, 0⟩⟩ fun _ => 0).2)).2.Holds tx :=
  ⟨by decide, fun tx rx => ((channels_recover _ _ [50] (by decide)).1 tx rx).2.1⟩

/-! ## Inbound CACs -/

/-- The receiver has the RAN, the structure and the payload of the sender: six, two and 128 bits. -/
def CAC.Holds (rx tx : CAC) : Prop :=
  rx.m_ran = tx.m_ran &&& 0x3F ∧ rx.m_structure = tx.m_structure &&& 0x03 ∧
    ∀ k, 8 ≤ k → k < 136 → readBit rx.m_data k = readBit tx.m_data k

/-- The last ten bits of a payload are there only if they were there before. -/
theorem CAC.tail_of_holds {tx rx : CAC} {conv : Convolution} {behind data : Bytes}
    (h : (rx.decode conv behind data).2.Holds tx) {k : Nat} (hk : 126 ≤ k) (hk' : k < 136) :
    readBit rx.m_data k = readBit tx.m_data k := by
  have hsent := h.2.2 k (by omega) hk'
  rwa [readBit_decode_of_ge rx conv behind data hk] at hsent

theorem CAC.not_within_buffer (rx : CAC) (conv : Convolution) (m : Bytes) :
    ¬ (rx.decodeStack conv).Within m NXDN_CAC_IN_FEC_LENGTH_BYTES := fun h =>
  absurd (h 32 (touched_decodeStack rx conv m (by decide))) (by decide)

/-- **Inbound CACs.** Whatever the frame, the stack behind `buffer` and the receiver hold: `decode` reads outside of
    `buffer`; it gives a receiver the payload of a long inbound CAC only if the receiver had the last ten bits of it
    before; and for each such CAC there is a receiver that had not. -/
theorem inboundCac_lost (mem : Memory) (behind frame : Bytes) (tx : CAC) :
    (∀ (rx : CAC) (data : Bytes),
      ¬ (rx.decodeStack mem.conv).Within (CAC.stack behind data) CAC.NXDN_CAC_IN_FEC_LENGTH_BYTES) ∧
    (∀ rx : CAC, (rx.decode mem.conv behind (tx.encodeLongIn mem frame)).2.Holds tx →
      ∀ k, 126 ≤ k → k < 136 → readBit rx.m_data k = readBit tx.m_data k) ∧
    ∃ rx : CAC, ¬ (rx.decode mem.conv behind (tx.encodeLongIn mem frame)).2.Holds tx := by
  refine ⟨fun rx data => rx.not_within_buffer _ _, fun rx h k hk hk' => CAC.tail_of_holds h hk hk', ?_⟩
  refine ⟨{ tx with m_data := writeBit tx.m_data 126 (!readBit tx.m_data 126) }, fun h => ?_⟩
  have htail : readBit (writeBit tx.m_data 126 (!readBit tx.m_data 126)) 126 = readBit tx.m_data 126 :=
    CAC.tail_of_holds h (by decide) (by decide)
  rw [readBit_writeBit, if_pos rfl] at htail
  exact Bool.not_ne_self _ htail

/-- RAN 1 with bit 130 set in the payload, for a new receiver on a clear stack. -/
theorem inboundCac_payload_130 :
    let tx : CAC := ⟨1, 0, fun i => if i = 16 then 0x20 else 0, 0⟩
    let rx : CAC := ⟨0, 0, fun _ => 0, 0⟩
    let mem : Memory := ⟨fun _ => 0, fun _ => 0, ⟨fun _ => 0, fun _ => 0, fun _ => 0, 0⟩⟩
    let data := tx.encodeLongIn mem fun _ => 0
    ¬ ((rx.decode mem.conv (fun _ => 0) data).1 = true ∧ (rx.decode mem.conv (fun _ => 0) data).2.Holds tx) ∧
    ¬ (rx.decodeStack mem.conv).Within (CAC.stack (fun _ => 0) data) CAC.NXDN_CAC_IN_FEC_LENGTH_BYTES := by
  refine ⟨fun h => ?_, CAC.not_within_buffer _ _ _⟩
  have htail := CAC.tail_of_holds (k := 130) h.2 (by decide) (by decide)
  exact absurd htail (by decide)

end DvmHost.Nxdn

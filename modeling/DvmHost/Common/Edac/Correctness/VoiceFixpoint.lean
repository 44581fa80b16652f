import DvmHost.Common.Edac.AMBEFEC
import DvmHost.Common.Edac.Correctness.VoiceRepair
import DvmHost.Lib.MinDistance

/-!
# `Common.Edac.Correctness.VoiceFixpoint` — voice that was regenerated

A frame that was regenerated is made of codewords, so that regenerating it again should find no error. For P25 it does:
the ones that are lost in front of the words are the only errors of the second run, and each is corrected. For DMR and
NXDN it does unless the frame was replaced by silence (`settles_iff`): the second word of the silence is not a codeword
under the whitening of the first, which is written with a zero behind it as no other word is, and three of its bits are
corrected by the second run.
-/

namespace DvmHost

open Lib Lib.Gf2Division Lib.Blocks

namespace AMBEFEC

/-! ## What settles -/

/-- `PRNG_TABLE[data]`. -/
def prng (data : Nat) : Nat := PRNG_TABLE.getD data 0

/-- The words of a frame that is not replaced by silence. The first is accepted, with at most two errors, or with three
    and at most two in the second word. -/
def Kept (a b : Nat) : Prop :=
  ∃ data, Golay24128.decode24128 a = some (true, data) ∧
    (countBits32 (Golay24128.encode24128 data ^^^ a) ≤ 2 ∨
      countBits32 (Golay24128.encode24128 data ^^^ a) = 3 ∧
        ∃ datb < 4096, countBits32 (Golay24128.encode23127 datb >>> 1 ^^^ (b ^^^ prng data >>> 1)) ≤ 2)

/-- The three routines. -/
inductive Routine where
  | DMR
  | IMBE
  | NXDN
deriving DecidableEq, Repr

/-- What a routine makes of its frame. -/
def Routine.regenerate : Routine → Bytes → Option (Nat × Bytes)
  | .DMR => regenerateDMR prng
  | .IMBE => regenerateIMBE
  | .NXDN => regenerateNXDN prng

/-- The routine finds no error in what it made of the frame, and leaves it. -/
def Settles (routine : Routine) (bytes : Bytes) : Prop :=
  ∃ errors bytes', routine.regenerate bytes = some (errors, bytes') ∧ routine.regenerate bytes' = some (0, bytes')

/-- By name, so that the numerals of `Fin 3` carry no proof of their own. -/
local instance neZero_three : NeZero 3 := ⟨by decide⟩

/-- No voice frame is replaced by silence. -/
def KeptBy : Routine → Bytes → Prop
  | .DMR, bytes => ∀ frame, Kept (readWord bytes AMBE_A_TABLE frame) (readWord bytes AMBE_B_TABLE frame)
  | .IMBE, _ => True
  | .NXDN, bytes => Kept (readWord bytes AMBE_A_TABLE 0) (readWord bytes AMBE_B_TABLE 0)

end AMBEFEC

namespace Golay24128

/-! ## The first word -/

/-- A word of 24 bits is decoded, to the data of a codeword. -/
theorem decode24128_total {a : Nat} (ha : a < 2 ^ 24) :
    ∃ valid data, decode24128 a = some (valid, data) ∧ data < 4096 := by
  have hlt : a >>> 1 < 2 ^ 23 := by
    rw [Nat.shiftRight_one]
    omega
  have htable := (decoding_table (rem_lt genpol_lt genpol_top 23 (a >>> 1))).1
  have hshift : DECODING_TABLE_23127.getD (rem GENPOL 11 23 (a >>> 1)) 0 <<< 1 < 2 ^ 24 := by
    rw [Nat.shiftLeft_eq]
    omega
  have hout := Nat.xor_lt_two_pow ha hshift
  unfold decode24128
  rw [getSyndrome23127_eq hlt, Option.bind_eq_bind, Option.bind_some]
  refine ⟨_, _, rfl, ?_⟩
  show (a ^^^ DECODING_TABLE_23127.getD (rem GENPOL 11 23 (a >>> 1)) 0 <<< 1) >>> 12 < 4096
  rw [Nat.shiftRight_eq_div_pow]
  omega

/-- A codeword is accepted. -/
theorem decode24128_encode {c : Nat} (hc : c < 4096) : decode24128 (encode24128 c) = some (true, c) := by
  have hlt : encode24128 c >>> 1 < 2 ^ 23 := by
    have := encode24128_lt hc
    rw [Nat.shiftRight_one]
    omega
  have hpattern : DECODING_TABLE_23127.getD 0 0 = 0 := by
    have h : DECODING_TABLE_23127.head? = some 0 := by decide
    rw [List.getD_eq_getElem?_getD, ← List.head?_eq_getElem?, h]
    rfl
  unfold decode24128
  rw [getSyndrome23127_eq hlt, syndrome_encode24128 hc, Option.bind_eq_bind, Option.bind_some]
  dsimp only
  rw [hpattern, Nat.zero_shiftLeft, Nat.xor_zero, encode24128_data hc]
  rfl

/-- The codeword of a word of 23 bits, its data and the distance. -/
theorem nearest_spec {r : Nat} (hr : r < 2 ^ 23) :
    ∃ d < 4096, decode23127 r = some d ∧ encode23127 d >>> 1 = nearest r ∧ weight 23 (nearest r ^^^ r) ≤ 3 := by
  obtain ⟨hdecode, hencode⟩ := decode23127_eq hr
  refine ⟨nearest r >>> 11, ?_, hdecode, ?_, ?_⟩
  · have := nearest_lt hr
    rw [Nat.shiftRight_eq_div_pow]
    omega
  · rw [hencode, Nat.shiftRight_one]
    omega
  · have hdiff : nearest r ^^^ r = DECODING_TABLE_23127.getD (syndrome r) 0 := by
      unfold nearest
      rw [Nat.xor_comm, ← Nat.xor_assoc, Nat.xor_self, Nat.zero_xor]
    rw [hdiff]
    exact (decoding_table (rem_lt genpol_lt genpol_top 23 r)).2.2

/-- A codeword is its own nearest. -/
theorem nearest_nearest {r : Nat} (hr : r < 2 ^ 23) : nearest (nearest r) = nearest r := by
  refine (nearest_eq_iff (nearest_lt hr) (nearest_lt hr) (syndrome_nearest r)).mpr ?_
  rw [Nat.xor_self, weight_zero]
  exact Nat.zero_le 3

/-- No codeword is nearer than the nearest. -/
theorem exists_near_iff {r : Nat} (hr : r < 2 ^ 23) {t : Nat} (ht : t ≤ 3) :
    (∃ d < 4096, weight 23 (encode23127 d >>> 1 ^^^ r) ≤ t) ↔ weight 23 (nearest r ^^^ r) ≤ t := by
  obtain ⟨d, hd, -, hencode, -⟩ := nearest_spec hr
  constructor
  · rintro ⟨d', hd', hnear⟩
    have hword : encode23127 d' >>> 1 = encode24128 d' >>> 1 := by
      rw [encode23127_eq hd', Nat.shiftRight_one]
      omega
    have hlt : encode24128 d' >>> 1 < 2 ^ 23 := by
      have := encode24128_lt hd'
      rw [Nat.shiftRight_one]
      omega
    rw [hword] at hnear
    rw [(nearest_eq_iff hr hlt (syndrome_encode24128 hd')).mpr (by rw [Nat.xor_comm]; omega)]
    exact hnear
  · intro hnear
    exact ⟨d, hd, by rw [hencode]; exact hnear⟩

end Golay24128

namespace AMBEFEC

/-! ## The words of a frame -/

theorem prng_lt (data : Nat) : prng data >>> 1 < 2 ^ 23 := by
  have hall : (PRNG_TABLE.all fun p => Nat.blt p (2 ^ 24)) = true := by decide +kernel
  have hlt : prng data < 2 ^ 24 := by
    unfold prng
    rw [List.getD_eq_getElem?_getD]
    cases h : PRNG_TABLE[data]? with
    | none => exact Nat.two_pow_pos 24
    | some p => exact Nat.le_of_ble_eq_true (List.all_eq_true.mp hall p (List.mem_of_getElem? h))
  rw [Nat.shiftRight_one]
  omega

/-- The silence is taken for a frame with three errors. -/
theorem regenerate_silence :
    ∃ words, regenerate prng 0xF00292 0x0E0B20 0x000000 = some (words, 3) := by
  have h : (regenerate prng 0xF00292 0x0E0B20 0x000000).map Prod.snd = some 3 := by decide +kernel
  obtain ⟨⟨words, errors⟩, hrun, herrors⟩ := Option.map_eq_some_iff.mp h
  exact ⟨words, hrun.trans (congrArg (fun e => some (words, e)) herrors)⟩

/-- The words fit their tables. -/
def Fits (words : Nat × Nat × Nat) : Prop := words.1 < 2 ^ 24 ∧ words.2.1 < 2 ^ 23 ∧ words.2.2 < 2 ^ 25

theorem fits_silence : Fits (0xF00292, 0x0E0B20, 0x000000) := ⟨by decide, by decide, by decide⟩

/-- **One frame.** Its words are regenerated once and for all if it is kept, and to the silence if not. -/
theorem regenerate_spec {a b c : Nat} (ha : a < 2 ^ 24) (hb : b < 2 ^ 23) (hc : c < 2 ^ 25) :
    ∃ words errors, regenerate prng a b c = some (words, errors) ∧ Fits words ∧
      (Kept a b → regenerate prng words.1 words.2.1 words.2.2 = some (words, 0)) ∧
        (¬Kept a b → ∃ words', regenerate prng words.1 words.2.1 words.2.2 = some (words', 3)) := by
  obtain ⟨valid, data, hdecode, hdata⟩ := Golay24128.decode24128_total ha
  have hp := prng_lt data
  have hx : b ^^^ prng data >>> 1 < 2 ^ 23 := Nat.xor_lt_two_pow hb hp
  obtain ⟨datb, hdatb, hdecodeB, hencodeB, hthree⟩ := Golay24128.nearest_spec hx
  generalize hn : Golay24128.nearest (b ^^^ prng data >>> 1) = n at *
  have hnlt : n < 2 ^ 23 := hn ▸ Golay24128.nearest_lt hx
  have herrsB : n ^^^ prng data >>> 1 ^^^ b = n ^^^ (b ^^^ prng data >>> 1) := by
    rw [Nat.xor_assoc, Nat.xor_comm (prng data >>> 1) b]
  have hblt : n ^^^ (b ^^^ prng data >>> 1) < 2 ^ 23 := Nat.xor_lt_two_pow hnlt hx
  have hkept : Kept a b ↔ valid = true ∧
      (countBits32 (Golay24128.encode24128 data ^^^ a) ≤ 2 ∨ countBits32 (Golay24128.encode24128 data ^^^ a) = 3 ∧
        countBits32 (n ^^^ prng data >>> 1 ^^^ b) ≤ 2) := by
    have hnear := Golay24128.exists_near_iff hx (t := 2) (by decide)
    rw [hn, ← countBits32_of_lt hblt] at hnear
    have hcount : (∃ datb < 4096, countBits32 (Golay24128.encode23127 datb >>> 1 ^^^ (b ^^^ prng data >>> 1)) ≤ 2) ↔
        ∃ datb < 4096, weight 23 (Golay24128.encode23127 datb >>> 1 ^^^ (b ^^^ prng data >>> 1)) ≤ 2 := by
      refine exists_congr fun d => and_congr_right fun hd => ?_
      have hlt := Golay24128.encode24128_lt hd
      have hword : Golay24128.encode23127 d >>> 1 < 2 ^ 23 := by
        rw [Golay24128.encode23127_eq hd, Nat.shiftRight_one, Nat.shiftRight_one]
        omega
      rw [countBits32_of_lt (Nat.xor_lt_two_pow hword hx)]
    rw [herrsB, ← hnear, ← hcount]
    unfold Kept
    rw [hdecode]
    constructor
    · rintro ⟨data', heq, hfew⟩
      obtain ⟨rfl, rfl⟩ := Prod.mk.inj (Option.some.inj heq)
      exact ⟨rfl, hfew⟩
    · rintro ⟨rfl, hfew⟩
      exact ⟨data, rfl, hfew⟩
  have hthree' : countBits32 (n ^^^ prng data >>> 1 ^^^ b) ≤ 3 := by
    rw [herrsB, countBits32_of_lt hblt]
    exact hthree
  have hrun : regenerate prng a b c =
      if !valid then some ((0xF00292, 0x0E0B20, 0x000000), countBits32 (data ^^^ a))
      else if countBits32 (Golay24128.encode24128 data ^^^ a) ≥ 4 ∨
          countBits32 (Golay24128.encode24128 data ^^^ a) + countBits32 (n ^^^ prng data >>> 1 ^^^ b) ≥ 6 ∧
            countBits32 (Golay24128.encode24128 data ^^^ a) ≥ 2 then
        some ((0xF00292, 0x0E0B20, 0x000000), countBits32 (Golay24128.encode24128 data ^^^ a) +
          countBits32 (n ^^^ prng data >>> 1 ^^^ b))
      else
        some ((Golay24128.encode24128 data, n ^^^ prng data >>> 1, c),
          countBits32 (Golay24128.encode24128 data ^^^ a) + countBits32 (n ^^^ prng data >>> 1 ^^^ b)) := by
    unfold regenerate
    rw [hdecode, Option.bind_eq_bind, Option.bind_some]
    dsimp only
    rw [hdecodeB, Option.bind_eq_bind, Option.bind_some, hencodeB]
  rw [hkept]
  by_cases hsilent : valid = true ∧
      ¬(countBits32 (Golay24128.encode24128 data ^^^ a) ≥ 4 ∨
        countBits32 (Golay24128.encode24128 data ^^^ a) + countBits32 (n ^^^ prng data >>> 1 ^^^ b) ≥ 6 ∧
          countBits32 (Golay24128.encode24128 data ^^^ a) ≥ 2)
  · obtain ⟨rfl, hfew⟩ := hsilent
    refine ⟨(Golay24128.encode24128 data, n ^^^ prng data >>> 1, c),
      countBits32 (Golay24128.encode24128 data ^^^ a) + countBits32 (n ^^^ prng data >>> 1 ^^^ b), ?_,
      ⟨Golay24128.encode24128_lt hdata, Nat.xor_lt_two_pow hnlt hp, hc⟩, fun _ => ?_, fun hnot => ?_⟩
    · rw [hrun, if_neg (by decide), if_neg hfew]
    · -- both words are codewords now
      have hagain : n ^^^ prng data >>> 1 ^^^ prng data >>> 1 = n := by
        rw [Nat.xor_assoc, Nat.xor_self, Nat.xor_zero]
      obtain ⟨datb', -, hdecode', hencode', -⟩ := Golay24128.nearest_spec hnlt
      rw [← hn, Golay24128.nearest_nearest hx, hn] at hencode'
      unfold regenerate
      rw [Golay24128.decode24128_encode hdata, Option.bind_eq_bind, Option.bind_some]
      dsimp only
      rw [hagain, hdecode', Option.bind_eq_bind, Option.bind_some, hencode', Nat.xor_self, Nat.xor_self]
      rfl
    · exact absurd ⟨rfl, by omega⟩ hnot
  · have hsilence : ∃ errors, regenerate prng a b c = some ((0xF00292, 0x0E0B20, 0x000000), errors) := by
      rw [hrun]
      cases valid with
      | false => exact ⟨_, rfl⟩
      | true =>
          rw [if_neg (by decide), if_pos (not_not.mp fun hnot => hsilent ⟨rfl, hnot⟩)]
          exact ⟨_, rfl⟩
    obtain ⟨errors, hsilence⟩ := hsilence
    refine ⟨_, errors, hsilence, fits_silence, fun hkeep => ?_, fun _ => regenerate_silence⟩
    exact absurd ⟨hkeep.1, by omega⟩ hsilent

/-! ## Where the words are -/

/-- `AMBE_A_TABLE`, `AMBE_B_TABLE` and `AMBE_C_TABLE`. -/
def tableOf : Fin 3 → List Nat
  | 0 => AMBE_A_TABLE
  | 1 => AMBE_B_TABLE
  | 2 => AMBE_C_TABLE

/-- The words by their tables. -/
def wordOf (words : Nat × Nat × Nat) : Fin 3 → Nat
  | 0 => words.1
  | 1 => words.2.1
  | 2 => words.2.2

/-- The bits of the words of some frames: the table, the index in it and the frame. -/
def slots (frames : List (Fin 3)) : List (Fin 3 × Nat × Fin 3) :=
  (List.finRange 3).flatMap fun t => (List.range (tableOf t).length).flatMap fun i => frames.map fun frame => (t, i, frame)

/-- The place of a bit. -/
def slotPos (s : Fin 3 × Nat × Fin 3) : Nat := ambePos ((tableOf s.1).getD s.2.1 0) s.2.2

/-- The bit of a word. -/
def slotBit (words : Fin 3 → Nat × Nat × Nat) (s : Fin 3 × Nat × Fin 3) : Bool :=
  LC.unpackWord (tableOf s.1).length (wordOf (words s.2.2) s.1) (fun _ => false) s.2.1

/-- Writing the words of some frames back. -/
def writeFrames (frames : List (Fin 3)) (words : Fin 3 → Nat × Nat × Nat) (bytes : Bytes) : Bytes :=
  (slots frames).foldl (fun bytes s => writeBit bytes (slotPos s) (slotBit words s)) bytes

theorem writeWords_eq (words : Fin 3 → Nat × Nat × Nat) (bytes : Bytes) :
    writeWords AMBE_C_TABLE (fun frame => (words frame).2.2) (writeWords AMBE_B_TABLE (fun frame => (words frame).2.1)
      (writeWords AMBE_A_TABLE (fun frame => (words frame).1) bytes)) = writeFrames (List.finRange 3) words bytes := by
  unfold writeFrames slots
  rw [show List.finRange 3 = [0, 1, 2] from rfl]
  simp only [List.flatMap_cons, List.flatMap_nil, List.append_nil, List.foldl_append, List.foldl_flatMap,
    List.foldl_map]
  rfl

theorem writeWord_eq (words : Nat × Nat × Nat) (bytes : Bytes) :
    writeWord AMBE_C_TABLE words.2.2 (writeWord AMBE_B_TABLE words.2.1 (writeWord AMBE_A_TABLE words.1 bytes)) =
      writeFrames [0] (fun _ => words) bytes := by
  unfold writeFrames slots
  rw [show List.finRange 3 = [0, 1, 2] from rfl]
  simp only [List.flatMap_cons, List.flatMap_nil, List.append_nil, List.foldl_append, List.foldl_flatMap,
    List.map_cons, List.map_nil, List.foldl_cons, List.foldl_nil]
  rfl

theorem mem_slots {frames : List (Fin 3)} {t : Fin 3} {i : Nat} {frame : Fin 3} :
    (t, i, frame) ∈ slots frames ↔ i < (tableOf t).length ∧ frame ∈ frames := by
  unfold slots
  simp only [List.mem_flatMap, List.mem_finRange, true_and, List.mem_range, List.mem_map, Prod.mk.injEq]
  constructor
  · rintro ⟨t', i', hi', frame', hframe', rfl, rfl, rfl⟩
    exact ⟨hi', hframe'⟩
  · rintro ⟨hi, hframe⟩
    exact ⟨t, i, hi, frame, hframe, rfl, rfl, rfl⟩

/-- No two bits share a place. -/
theorem nodup_slotPos : ((slots (List.finRange 3)).map slotPos).Nodup := by decide +kernel

example : (slots (List.finRange 3)).length = 3 * 72 := by decide +kernel

theorem slotPos_inj {s s' : Fin 3 × Nat × Fin 3} (hs : s ∈ slots (List.finRange 3)) (hs' : s' ∈ slots (List.finRange 3))
    (h : slotPos s = slotPos s') : s = s' := List.inj_on_of_nodup_map nodup_slotPos hs hs' h

theorem slots_subset (frames : List (Fin 3)) {s : Fin 3 × Nat × Fin 3} (hs : s ∈ slots frames) :
    s ∈ slots (List.finRange 3) := by
  obtain ⟨t, i, frame⟩ := s
  exact mem_slots.mpr ⟨(mem_slots.mp hs).1, List.mem_finRange frame⟩

theorem readBit_writeFrames (frames : List (Fin 3)) (words : Fin 3 → Nat × Nat × Nat) (bytes : Bytes) :
    readBit (writeFrames frames words bytes) = scatter (slots frames) slotPos (slotBit words) (readBit bytes) :=
  P25Utils.readBit_foldl_writeBit _ _ _ _

theorem length_tableOf : (tableOf 0).length = 24 ∧ (tableOf 1).length = 23 ∧ (tableOf 2).length = 25 :=
  ⟨rfl, rfl, rfl⟩

/-- A word fits its table. -/
theorem wordOf_lt {words : Nat × Nat × Nat} (h : Fits words) (t : Fin 3) :
    wordOf words t < 2 ^ (tableOf t).length := by
  obtain ⟨ha, hb, hc⟩ := h
  obtain ⟨hlenA, hlenB, hlenC⟩ := length_tableOf
  match t with
  | 0 =>
      rw [hlenA]
      exact ha
  | 1 =>
      rw [hlenB]
      exact hb
  | 2 =>
      rw [hlenC]
      exact hc

section Frames

variable {frames : List (Fin 3)} (hnd : (slots frames).Nodup)

include hnd

theorem readBit_slotPos (words : Fin 3 → Nat × Nat × Nat) (bytes : Bytes) {s : Fin 3 × Nat × Fin 3}
    (hs : s ∈ slots frames) : readBit (writeFrames frames words bytes) (slotPos s) = slotBit words s := by
  rw [readBit_writeFrames]
  exact scatter_of_mem hnd hs fun s' hs' he => slotPos_inj (slots_subset frames hs') (slots_subset frames hs) he

/-- **What was written is read.** -/
theorem readWord_writeFrames {words : Fin 3 → Nat × Nat × Nat} (hfits : ∀ frame, Fits (words frame)) (bytes : Bytes)
    (t : Fin 3) {frame : Fin 3} (hframe : frame ∈ frames) :
    readWord (writeFrames frames words bytes) (tableOf t) frame = wordOf (words frame) t := by
  have hlt := wordOf_lt (hfits frame) t
  unfold readWord
  refine (LC.packWord_congr fun i hi => ?_).trans (LC.packWord_unpackWord hlt fun _ => false)
  have hbit := readBit_slotPos hnd words bytes (s := (t, i, frame)) (mem_slots.mpr ⟨hi, hframe⟩)
  unfold slotPos slotBit at hbit
  exact hbit

/-- **Writing what was read changes nothing.** -/
theorem writeFrames_readWord {words : Fin 3 → Nat × Nat × Nat} {bytes : Bytes}
    (hwords : ∀ t, ∀ frame ∈ frames, wordOf (words frame) t = readWord bytes (tableOf t) frame) :
    writeFrames frames words bytes = bytes := by
  refine bytes_ext fun k => ?_
  by_cases hk : ∃ s ∈ slots frames, slotPos s = k
  · obtain ⟨⟨t, i, frame⟩, hs, rfl⟩ := hk
    obtain ⟨hi, hframe⟩ := mem_slots.mp hs
    have hpos : (tableOf t).length - 1 - ((tableOf t).length - 1 - i) = i := by omega
    rw [readBit_slotPos hnd words bytes hs]
    unfold slotBit
    rw [hwords t frame hframe, LC.unpackWord_apply, if_pos hi]
    unfold readWord
    have hlt : (tableOf t).length - 1 - i < (tableOf t).length := by omega
    rw [LC.testBit_packWord, decide_eq_true hlt, Bool.true_and, hpos]
    rfl
  · rw [readBit_writeFrames]
    exact scatter_of_not_mem fun s hs he => hk ⟨s, hs, he.symm⟩

end Frames

theorem nodup_slots : (slots (List.finRange 3)).Nodup := List.Nodup.of_map slotPos nodup_slotPos

theorem nodup_slots_first : (slots [0]).Nodup := by decide +kernel

/-- The words that are read fit. -/
theorem fits_readWord (bytes : Bytes) (frame : Fin 3) :
    Fits (readWord bytes AMBE_A_TABLE frame, readWord bytes AMBE_B_TABLE frame, readWord bytes AMBE_C_TABLE frame) := by
  have hlt : ∀ t, readWord bytes (tableOf t) frame < 2 ^ (tableOf t).length := fun t => LC.packWord_lt _ _
  obtain ⟨hlenA, hlenB, hlenC⟩ := length_tableOf
  have ha := hlt 0
  have hb := hlt 1
  have hc := hlt 2
  rw [hlenA] at ha
  rw [hlenB] at hb
  rw [hlenC] at hc
  exact ⟨ha, hb, hc⟩

/-! ## NXDN -/

theorem settles_nxdn_iff (bytes : Bytes) : Settles .NXDN bytes ↔ KeptBy .NXDN bytes := by
  obtain ⟨ha, hb, hc⟩ := fits_readWord bytes 0
  obtain ⟨words, errors, hrun, hfits, hkept, hsilent⟩ := regenerate_spec ha hb hc
  have hfirst : regenerateNXDN prng bytes = some (errors, writeFrames [0] (fun _ => words) bytes) := by
    unfold regenerateNXDN
    rw [hrun, Option.bind_eq_bind, Option.bind_some]
    exact congrArg (fun b => some (errors, b)) (writeWord_eq words bytes)
  have hread : ∀ t, readWord (writeFrames [0] (fun _ => words) bytes) (tableOf t) 0 = wordOf words t := fun t =>
    readWord_writeFrames nodup_slots_first (fun _ => hfits) bytes t (List.mem_singleton.mpr rfl)
  have hsecond : regenerateNXDN prng (writeFrames [0] (fun _ => words) bytes) =
      (regenerate prng words.1 words.2.1 words.2.2).map fun r =>
        (r.2, writeFrames [0] (fun _ => r.1) (writeFrames [0] (fun _ => words) bytes)) := by
    unfold regenerateNXDN
    rw [show readWord _ AMBE_A_TABLE 0 = words.1 from hread 0, show readWord _ AMBE_B_TABLE 0 = words.2.1 from hread 1,
      show readWord _ AMBE_C_TABLE 0 = words.2.2 from hread 2]
    cases regenerate prng words.1 words.2.1 words.2.2 with
    | none => rfl
    | some r => exact congrArg (fun b => some (r.2, b)) (writeWord_eq r.1 _)
  constructor
  · rintro ⟨errors', bytes', hrun', hagain⟩
    by_contra hnot
    obtain ⟨words', hthree⟩ := hsilent hnot
    obtain ⟨-, rfl⟩ := Prod.mk.inj (Option.some.inj (hfirst.symm.trans hrun'))
    have herrors := congrArg Prod.fst (Option.some.inj
      ((hsecond.trans (congrArg _ hthree)).symm.trans hagain))
    exact absurd (show 3 = 0 from herrors) (by decide)
  · intro hkeep
    refine ⟨errors, writeFrames [0] (fun _ => words) bytes, hfirst, ?_⟩
    refine hsecond.trans ?_
    rw [hkept hkeep]
    refine congrArg (fun b => some (0, b)) (writeFrames_readWord nodup_slots_first fun t frame hframe => ?_)
    rw [List.mem_singleton.mp hframe]
    exact (hread t).symm

/-! ## DMR -/

theorem regenerateDMR_eq {bytes : Bytes} {words : Fin 3 → Nat × Nat × Nat} {errors : Fin 3 → Nat}
    (h : ∀ frame, regenerate prng (readWord bytes AMBE_A_TABLE frame) (readWord bytes AMBE_B_TABLE frame)
      (readWord bytes AMBE_C_TABLE frame) = some (words frame, errors frame)) :
    regenerateDMR prng bytes =
      some (errors 0 + errors 1 + errors 2, writeFrames (List.finRange 3) words bytes) := by
  have hwords : (fun | 0 => words 0 | 1 => words 1 | 2 => words 2 : Fin 3 → Nat × Nat × Nat) = words := by
    funext frame
    match frame with
    | 0 | 1 | 2 => rfl
  have hwrite := writeWords_eq (fun | 0 => words 0 | 1 => words 1 | 2 => words 2 : Fin 3 → Nat × Nat × Nat) bytes
  unfold regenerateDMR
  dsimp only
  rw [h 0, Option.bind_eq_bind, Option.bind_some, h 1, Option.bind_some, h 2, Option.bind_some,
    ← congrArg (fun w => writeFrames (List.finRange 3) w bytes) hwords]
  exact congrArg (fun b => some (errors 0 + errors 1 + errors 2, b)) hwrite

/-- **The middle of a burst is not touched.** -/
theorem readBit_middle (words : Fin 3 → Nat × Nat × Nat) (bytes : Bytes) {k : Nat} (hlo : 108 ≤ k) (hhi : k < 156) :
    readBit (writeFrames (List.finRange 3) words bytes) k = readBit bytes k := by
  have hout : ∀ s ∈ slots (List.finRange 3), slotPos s < 108 ∨ 156 ≤ slotPos s := by decide +kernel
  rw [readBit_writeFrames]
  refine scatter_of_not_mem fun s hs he => ?_
  have := hout s hs
  omega

/-- A burst is regenerated to words that fit. -/
theorem regenerateDMR_spec (bytes : Bytes) :
    ∃ words errors, regenerateDMR prng bytes = some (errors, writeFrames (List.finRange 3) words bytes) ∧
      (∀ frame, Fits (words frame)) ∧
        ∀ frame, (Kept (readWord bytes AMBE_A_TABLE frame) (readWord bytes AMBE_B_TABLE frame) →
            regenerate prng (words frame).1 (words frame).2.1 (words frame).2.2 = some (words frame, 0)) ∧
          (¬Kept (readWord bytes AMBE_A_TABLE frame) (readWord bytes AMBE_B_TABLE frame) →
            ∃ words', regenerate prng (words frame).1 (words frame).2.1 (words frame).2.2 = some (words', 3)) := by
  have hframe := fun frame =>
    let hfits := fits_readWord bytes frame
    regenerate_spec hfits.1 hfits.2.1 hfits.2.2
  choose words errors hrun hfits hkept hsilent using hframe
  exact ⟨words, errors 0 + errors 1 + errors 2, regenerateDMR_eq hrun, hfits, fun frame => ⟨hkept frame, hsilent frame⟩⟩

theorem settles_dmr_iff (bytes : Bytes) : Settles .DMR bytes ↔ KeptBy .DMR bytes := by
  obtain ⟨words, errors, hfirst, hfits, hagain⟩ := regenerateDMR_spec bytes
  have hread : ∀ t frame, readWord (writeFrames (List.finRange 3) words bytes) (tableOf t) frame =
      wordOf (words frame) t := fun t frame =>
    readWord_writeFrames nodup_slots hfits bytes t (List.mem_finRange frame)
  -- the second run of a frame
  have hframe : ∀ frame, ∃ words' errors',
      regenerate prng (words frame).1 (words frame).2.1 (words frame).2.2 = some (words', errors') ∧
        (errors' = 0 → Kept (readWord bytes AMBE_A_TABLE frame) (readWord bytes AMBE_B_TABLE frame)) := fun frame => by
    by_cases hkeep : Kept (readWord bytes AMBE_A_TABLE frame) (readWord bytes AMBE_B_TABLE frame)
    · exact ⟨words frame, 0, (hagain frame).1 hkeep, fun _ => hkeep⟩
    · obtain ⟨words', hthree⟩ := (hagain frame).2 hkeep
      exact ⟨words', 3, hthree, fun h => absurd h (by decide)⟩
  have hsecond : ∀ {words' : Fin 3 → Nat × Nat × Nat} {errors' : Fin 3 → Nat},
      (∀ frame, regenerate prng (words frame).1 (words frame).2.1 (words frame).2.2 =
        some (words' frame, errors' frame)) →
      regenerateDMR prng (writeFrames (List.finRange 3) words bytes) =
        some (errors' 0 + errors' 1 + errors' 2,
          writeFrames (List.finRange 3) words' (writeFrames (List.finRange 3) words bytes)) := fun h =>
    regenerateDMR_eq fun frame => by
      rw [show readWord _ AMBE_A_TABLE frame = (words frame).1 from hread 0 frame,
        show readWord _ AMBE_B_TABLE frame = (words frame).2.1 from hread 1 frame,
        show readWord _ AMBE_C_TABLE frame = (words frame).2.2 from hread 2 frame]
      exact h frame
  constructor
  · rintro ⟨errors', bytes', hrun', hsame⟩ frame
    choose words' errors'' hrun'' hzero using hframe
    obtain ⟨-, rfl⟩ := Prod.mk.inj (Option.some.inj (hfirst.symm.trans hrun'))
    have hsum := congrArg Prod.fst (Option.some.inj ((hsecond hrun'').symm.trans hsame))
    dsimp only at hsum
    refine hzero frame ?_
    match frame with
    | 0 | 1 | 2 => omega
  · intro hkeep
    refine ⟨errors, writeFrames (List.finRange 3) words bytes, hfirst, ?_⟩
    have hclean : ∀ frame, regenerate prng (words frame).1 (words frame).2.1 (words frame).2.2 =
        some (words frame, (fun _ => 0 : Fin 3 → Nat) frame) := fun frame => (hagain frame).1 (hkeep frame)
    refine (hsecond hclean).trans ?_
    refine congrArg (fun b => some (0, b)) (writeFrames_readWord nodup_slots fun t frame _ => ?_)
    exact (hread t frame).symm

/-! ## P25 -/

theorem golayWord_congr {w w' : Bits} (h : ∀ j < 23, w j = w' j) (hw : GolayWord w) : GolayWord w' := by
  unfold GolayWord at hw ⊢
  rw [← hw]
  exact congrArg _ (LC.packWord_congr fun j hj => (h j hj).symm)

theorem hammingWord_congr {w w' : Bits} (h : ∀ j < 15, w j = w' j) (hw : HammingWord w) : HammingWord w' := by
  unfold HammingWord at hw ⊢
  rw [← hw]
  exact ParityCode.syndrome_congr (n := 15) (by decide) (by decide) fun j hj => (h j hj).symm

/-- A Golay word is always corrected to a codeword. -/
theorem fixGolay_word (bit : Nat) (temp : Bits) :
    ∃ data temp', fixGolay bit temp = some (data, temp') ∧ (∀ i < bit, temp' i = temp i) ∧
      GolayWord (fromBit bit temp') ∧ data = LC.packWord 23 (fromBit bit temp') >>> 11 := by
  obtain ⟨data, temp', hfix, -, hkeep, hright⟩ := fixGolay_spec bit temp
  have hlt := LC.packWord_lt 23 (fromBit bit temp)
  have hnear := Golay24128.nearest_lt hlt
  have hpack := LC.packWord_unpackWord hnear fun _ => false
  have hword : GolayWord (LC.unpackWord 23 (Golay24128.nearest (LC.packWord 23 (fromBit bit temp))) fun _ => false) := by
    unfold GolayWord
    rw [hpack]
    exact Golay24128.syndrome_nearest _
  obtain ⟨hiff, hdata⟩ := hright _ hword
  obtain ⟨-, -, -, -, hthree⟩ := Golay24128.nearest_spec hlt
  have hbits := hiff.mpr (by
    rw [← weight_packWord_xor, hpack, Nat.xor_comm]
    exact hthree)
  refine ⟨data, temp', hfix, fun i hi => hkeep i (Or.inl hi), golayWord_congr (fun j hj => (hbits j hj).symm) hword, ?_⟩
  rw [hdata hbits]
  exact congrArg (· >>> 11) (LC.packWord_congr fun j hj => (hbits j hj).symm)

/-- A Hamming word too. -/
theorem decode15113_1_word (bit : Nat) (temp : Bits) :
    (∀ i < bit, atBit bit (fun d => (Hamming.decode15113_1 d).2) temp i = temp i) ∧
      HammingWord (fromBit bit (atBit bit (fun d => (Hamming.decode15113_1 d).2) temp)) := by
  refine ⟨fun i hi => (atBit_decode15113_1 bit temp).1 i (Or.inl hi), ?_⟩
  have hsame : fromBit bit (atBit bit (fun d => (Hamming.decode15113_1 d).2) temp) =
      (Hamming.decode15113_1 (fromBit bit temp)).2 := by
    funext i
    unfold fromBit atBit
    rw [if_neg (by omega), Nat.add_sub_cancel_left]
    rfl
  rw [hsame]
  exact ParityCode.syndrome_decode (by decide) (by decide) _

/-- **The words that come out** are codewords under the whitening of the first. -/
theorem fixIMBE_words (orig : Bits) :
    ∃ p, fixIMBE orig = some (whiten (seed p) p) ∧ (∀ bit ∈ [0, 23, 46, 69], GolayWord (fromBit bit p)) ∧
      ∀ bit ∈ [92, 107, 122], HammingWord (fromBit bit p) := by
  obtain ⟨c0data, t0, hfix0, -, hword0, hdata0⟩ := fixGolay_word 0 orig
  obtain ⟨_, t1, hfix1, hkeep1, hword1, -⟩ := fixGolay_word 23 (whiten c0data t0)
  obtain ⟨_, t2, hfix2, hkeep2, hword2, -⟩ := fixGolay_word 46 t1
  obtain ⟨_, t3, hfix3, hkeep3, hword3, -⟩ := fixGolay_word 69 t2
  unfold fixIMBE
  rw [hfix0, Option.bind_eq_bind, Option.bind_some]
  dsimp only
  rw [hfix1, Option.bind_some]
  dsimp only
  rw [hfix2, Option.bind_some]
  dsimp only
  rw [hfix3, Option.bind_some]
  dsimp only
  obtain ⟨hkeep4, hword4⟩ := decode15113_1_word 92 t3
  generalize atBit 92 (fun d => (Hamming.decode15113_1 d).2) t3 = t4 at *
  obtain ⟨hkeep5, hword5⟩ := decode15113_1_word 107 t4
  generalize atBit 107 (fun d => (Hamming.decode15113_1 d).2) t4 = t5 at *
  obtain ⟨hkeep6, hword6⟩ := decode15113_1_word 122 t5
  generalize atBit 122 (fun d => (Hamming.decode15113_1 d).2) t5 = t6 at *
  -- each word stays as its turn left it
  have h5 : ∀ i < 107, t6 i = t4 i := fun i hi => (hkeep6 i (by omega)).trans (hkeep5 i hi)
  have h4 : ∀ i < 92, t6 i = t3 i := fun i hi => (h5 i (by omega)).trans (hkeep4 i hi)
  have h3 : ∀ i < 69, t6 i = t2 i := fun i hi => (h4 i (by omega)).trans (hkeep3 i hi)
  have h2 : ∀ i < 46, t6 i = t1 i := fun i hi => (h3 i (by omega)).trans (hkeep2 i hi)
  have h1 : ∀ i < 23, t6 i = t0 i := fun i hi =>
    (h2 i (by omega)).trans ((hkeep1 i hi).trans (whiten_of_lt c0data t0 hi))
  have hseed : seed t6 = c0data := by
    unfold seed
    rw [hdata0]
    refine congrArg (· >>> 11) (LC.packWord_congr fun j hj => ?_)
    rw [h1 j hj, fromBit, Nat.zero_add]
  refine ⟨t6, ?_, ?_, ?_⟩
  · rw [hseed]
  · simp only [List.forall_mem_cons, List.not_mem_nil, false_implies, implies_true, and_true]
    refine ⟨golayWord_congr (fun j hj => ?_) hword0, golayWord_congr (fun j hj => ?_) hword1,
      golayWord_congr (fun j hj => ?_) hword2, golayWord_congr (fun j hj => ?_) hword3⟩
    · exact (h1 _ (by omega)).symm
    · exact (h2 _ (by omega)).symm
    · exact (h3 _ (by omega)).symm
    · exact (h4 _ (by omega)).symm
  · simp only [List.forall_mem_cons, List.not_mem_nil, false_implies, implies_true, and_true]
    refine ⟨hammingWord_congr (fun j hj => ?_) hword4, hammingWord_congr (fun j hj => ?_) hword5, hword6⟩
    · exact (h5 _ (by omega)).symm
    · exact (hkeep6 _ (by omega)).symm

/-- Nothing is flipped between a frame and itself. -/
theorem flipped_self (frame : Bytes) (bit n : Nat) : flipped frame frame bit n = 0 :=
  diffs_eq_zero_iff.mpr fun _ _ => rfl

/-- Interleaving what was there. -/
theorem interleave_same {temp : Bits} {bytes : Bytes} (h : ∀ i < 144, temp i = deinterleave bytes i) :
    interleave temp bytes = bytes := by
  refine bytes_ext fun k => ?_
  by_cases hk : ∃ i < 144, place i = k
  · obtain ⟨i, hi, rfl⟩ := hk
    rw [readBit_interleave temp bytes hi, h i hi]
    rfl
  · unfold interleave
    rw [P25Utils.readBit_foldl_writeBit]
    exact scatter_of_not_mem fun i hi he => hk ⟨i, List.mem_range.mp hi, he.symm⟩

/-- **A valid frame has no error** and stays as it is. -/
theorem regenerateIMBE_of_valid {frame : Bytes} (hvalid : ValidIMBE frame) :
    regenerateIMBE frame = some (0, frame) := by
  have hcorrectable : Correctable frame frame :=
    ⟨fun _ _ => flipped_self frame _ _ ▸ Nat.zero_le 3, fun _ _ => flipped_self frame _ _ ▸ Nat.zero_le 1,
      flipped_self frame _ _⟩
  have hspared : Spared frame frame :=
    ⟨fun _ _ _ => flipped_self frame _ _ ▸ Nat.succ_pos 2, fun _ => flipped_self frame _ _ ▸ Nat.one_pos⟩
  obtain ⟨temp, hfix, hiff⟩ := fixIMBE_iff hvalid hcorrectable
  have hsame := hiff.mpr hspared
  unfold regenerateIMBE
  dsimp only
  rw [hfix, Option.bind_eq_bind, Option.bind_some, interleave_same hsame, countErrors_eq,
    diffs_eq_zero_iff.mpr fun i hi => (hsame i hi).symm]

theorem settles_imbe (bytes : Bytes) : Settles .IMBE bytes := by
  obtain ⟨p, hfix, hgolay, hhamming⟩ := fixIMBE_words (deinterleave bytes)
  have hvalid := validIMBE_interleave hgolay hhamming bytes
  refine ⟨countErrors (deinterleave bytes) (whiten (seed p) p), interleave (whiten (seed p) p) bytes, ?_, ?_⟩
  · show regenerateIMBE bytes = _
    unfold regenerateIMBE
    dsimp only
    rw [hfix, Option.bind_eq_bind, Option.bind_some]
  · exact regenerateIMBE_of_valid hvalid

/-! ## The routines -/

/-- **Voice that was regenerated.** A frame settles if and only if no voice frame in it was replaced by silence, which
    never happens to P25, and no burst of DMR loses a bit of its middle. -/
theorem settles_iff (routine : Routine) (bytes : Bytes) :
    (Settles routine bytes ↔ KeptBy routine bytes) ∧
      ∀ errors bytes', regenerateDMR prng bytes = some (errors, bytes') →
        ∀ k, 108 ≤ k → k < 156 → readBit bytes' k = readBit bytes k := by
  refine ⟨?_, fun errors bytes' hrun k hlo hhi => ?_⟩
  · match routine with
    | .DMR => exact settles_dmr_iff bytes
    | .IMBE => exact iff_of_true (settles_imbe bytes) trivial
    | .NXDN => exact settles_nxdn_iff bytes
  · obtain ⟨words, errors', hfirst, -, -⟩ := regenerateDMR_spec bytes
    obtain ⟨-, rfl⟩ := Prod.mk.inj (Option.some.inj (hfirst.symm.trans hrun))
    exact readBit_middle words bytes hlo hhi

/-- Four ones, where the last bits of the first word stand. -/
def weakFrame : Bytes := fun i => if i = 1 ∨ i = 2 then 0x44 else 0x00

/-- **A frame that does not settle**: its first word has four errors. -/
theorem weakFrame_not_settles : ¬ Settles .NXDN weakFrame := by
  rw [settles_nxdn_iff]
  rintro ⟨data, hdecode, -⟩
  have hfirst : Golay24128.decode24128 (readWord weakFrame AMBE_A_TABLE 0) = some (false, 0) := by decide
  obtain ⟨hvalid, -⟩ := Prod.mk.inj (Option.some.inj (hfirst.symm.trans hdecode))
  exact absurd hvalid (by decide)

end AMBEFEC

end DvmHost

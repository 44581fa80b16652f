import DvmHost.Host.P25.Packet.Correctness.TrunkingBlocks
import DvmHost.Lib.Framing
import DvmHost.Lib.Run

/-!
# `Host.P25.Packet.Correctness.MultiBlock` — three messages to a data unit

`writeRF_TSDU_MBF` collects what it is handed in `m_rfMBF` and sends three at a time. It is a `Lib.Batching` of three
(`Batches`), whoever hands over: a message on a control channel, a broadcast, or the padding of the schedule. The
padding fills up what is begun, so that the reset of the count behind it loses nothing (`Batches.pad`).
-/

namespace DvmHost

open Lib

namespace P25

namespace TrunkingFrames

variable (c : TrunkingSettings)

/-! ## The frame -/

/-- The blocks of a data unit of three. -/
def blocksOf (data : Bytes) : Bytes := (P25Utils.decode data (fun _ => 0x00) 114 720).2

/-- The data unit carries these messages, the last of which has its flag set and no other. -/
structure Carries (data : Bytes) (group : List TSBKBlock) : Prop where
  length : group.length = 3
  blocks : ∀ i (hi : i < group.length), ∀ k < P25_TSBK_FEC_LENGTH_BITS,
    readBit (blocksOf data) (P25_TSBK_FEC_LENGTH_BITS * i + k)
      = readBit ((group[i]).encode (decide (i = 2)) (fun _ => 0x00) true) k

/-- There is room for three blocks. -/
theorem length_carried : (P25Utils.carried 114 720).length = 588 := by decide +kernel

/-- The bits of the three blocks come out of the frame as they went in. -/
theorem readBit_blocksOf (tsdu : Bytes) {k : Nat} (hk : k < 588) :
    readBit (blocksOf (tripleFrame c tsdu)) k = readBit tsdu k := by
  have hlt : k < (P25Utils.carried 114 720).length := by
    rw [length_carried]
    exact hk
  have hmem : (P25Utils.carried 114 720).getD k 0 ∈ P25Utils.carried 114 720 := by
    rw [List.getD_eq_getElem _ _ hlt]
    exact List.getElem_mem hlt
  obtain ⟨-, h0, h1⟩ := P25Utils.mem_carried.mp hmem
  unfold blocksOf
  rw [P25Utils.readBit_decode _ _ (by decide), if_pos hlt]
  unfold tripleFrame addIdleBits
  dsimp only
  rw [P25Utils.readBit_writeSymbols_of_carried _ _ 5 _ _ h0 h1, P25Utils.readBit_addBusyBits_of_carried _ _ _ _ h0 h1,
    P25Utils.readBit_encode _ _ (by decide) hlt]

theorem readBit_copyBlocks (rfMBF : Bytes) {k : Nat} (hk : k < 588) :
    readBit (copyBlocks rfMBF 3) k = readBit rfMBF k := by
  unfold copyBlocks P25_TSBK_FEC_LENGTH_BITS
  simp only [List.range_succ, List.range_zero, List.nil_append, List.cons_append, List.foldl_cons, List.foldl_nil]
  rw [readBit_copyBits, readBit_copyBits, readBit_copyBits, readBit_copyBits, readBit_copyBits, readBit_copyBits]
  by_cases h2 : 392 ≤ k
  · rw [if_pos (by omega), if_pos (by omega)]
    exact congrArg (readBit rfMBF) (by omega)
  · rw [if_neg (by omega)]
    by_cases h1 : 196 ≤ k
    · rw [if_pos (by omega), if_pos (by omega)]
      exact congrArg (readBit rfMBF) (by omega)
    · rw [if_neg (by omega), if_pos (by omega), if_pos (by omega)]
      exact congrArg (readBit rfMBF) (by omega)

/-! ## The collection -/

/-- The data units of three that were sent. -/
def triples (added : List AirEvent) : List Bytes :=
  added.filterMap fun
    | .triple data => some data
    | _ => none

@[simp] theorem triples_append (a b : List AirEvent) : triples (a ++ b) = triples a ++ triples b :=
  List.filterMap_append

/-- The buffer holds the messages that wait, without their flag. -/
def Buffers (rfMBF : Bytes) (pending : List TSBKBlock) : Prop :=
  ∀ i (hi : i < pending.length), ∀ k < P25_TSBK_FEC_LENGTH_BITS,
    readBit rfMBF (P25_TSBK_FEC_LENGTH_BITS * i + k) = readBit ((pending[i]).encode false (fun _ => 0x00) true) k

/-- **The refinement.** The site is a batching of the messages that it was handed. -/
structure Batches (s : TrunkingFrames) : Prop where
  count : s.mbfCnt.toNat = (Batching.empty.pushAll 3 s.handed).pending.length
  buffers : Buffers s.rfMBF (Batching.empty.pushAll 3 s.handed).pending
  sent : List.Forall₂ Carries (triples s.added) (Batching.empty.pushAll 3 s.handed).batches

theorem full_pushAll (handed : List TSBKBlock) : (Batching.empty.pushAll 3 handed).Full 3 :=
  (Batching.full_empty (by decide)).pushAll handed

theorem readBit_putBlock (rfMBF : Bytes) (pending : List TSBKBlock) (b : TSBKBlock) (last : Bool) {i k : Nat}
    (hk : k < P25_TSBK_FEC_LENGTH_BITS) :
    readBit (copyBits rfMBF (pending.length * P25_TSBK_FEC_LENGTH_BITS) (b.encode last (fun _ => 0x00) true) 0
        P25_TSBK_FEC_LENGTH_BITS) (P25_TSBK_FEC_LENGTH_BITS * i + k)
      = if i = pending.length then readBit (b.encode last (fun _ => 0x00) true) k
        else readBit rfMBF (P25_TSBK_FEC_LENGTH_BITS * i + k) := by
  unfold P25_TSBK_FEC_LENGTH_BITS at *
  rw [readBit_copyBits]
  by_cases hi : i = pending.length
  · rw [if_pos hi, if_pos (by omega)]
    exact congrArg (readBit _) (by omega)
  · rw [if_neg hi, if_neg (by omega)]

/-- One more block behind those that wait. -/
theorem Buffers.put {rfMBF : Bytes} {pending : List TSBKBlock} (h : Buffers rfMBF pending) (b : TSBKBlock) (last : Bool)
    (i : Nat) (hi : i < (pending ++ [b]).length) (k : Nat) (hk : k < P25_TSBK_FEC_LENGTH_BITS) :
    readBit (copyBits rfMBF (pending.length * P25_TSBK_FEC_LENGTH_BITS) (b.encode last (fun _ => 0x00) true) 0
        P25_TSBK_FEC_LENGTH_BITS) (P25_TSBK_FEC_LENGTH_BITS * i + k)
      = readBit (((pending ++ [b])[i]).encode (decide (i = pending.length) && last) (fun _ => 0x00) true) k := by
  rw [readBit_putBlock rfMBF pending b last hk]
  rw [List.length_append, List.length_singleton] at hi
  by_cases hlast : i = pending.length
  · subst hlast
    rw [if_pos rfl, List.getElem_concat_length rfl, decide_eq_true rfl, Bool.true_and]
  · rw [if_neg hlast, decide_eq_false hlast, Bool.false_and, h i (by omega) k hk, List.getElem_append_left (by omega)]

/-- **The step lemma**: a message that is handed over is pushed. -/
theorem Batches.mbf {s : TrunkingFrames} (h : Batches s) (hcontrol : c.enableControl = true)
    (hduplex : c.duplex = true) (b : TSBKBlock) (clearBeforeWrite : Bool) :
    Batches (s.writeRfTsduMbf c b clearBeforeWrite) := by
  obtain ⟨hcount, hbuffers, hsent⟩ := h
  have hfull := (full_pushAll s.handed).pending
  have hpush := Batching.pushAll_concat 3 Batching.empty s.handed b
  generalize hq : Batching.empty.pushAll 3 s.handed = q at *
  -- clearing the buffer in front of the first block loses nothing
  have hcleared : Buffers (if s.mbfCnt = 0 then
      memcpy s.rfMBF 0 (fun _ => 0x00) (P25_TSBK_FEC_LENGTH_BYTES * TSBK_MBF_CNT) else s.rfMBF) q.pending := by
    split
    · rename_i hzero
      intro i hi
      rw [hzero] at hcount
      exact absurd hi (by rw [← hcount]; exact Nat.not_lt_zero i)
    · exact hbuffers
  unfold writeRfTsduMbf
  dsimp only
  rw [if_neg (by rw [hcontrol]; exact Bool.false_ne_true), if_neg (by rw [hduplex]; exact Bool.false_ne_true), hcount]
  generalize (if s.mbfCnt = 0 then _ else _ : Bytes) = rfMBF at *
  by_cases hthird : q.pending.length + 1 = TSBK_MBF_CNT
  · have hbatch : q.push 3 b = ⟨[], q.batches ++ [q.pending ++ [b]]⟩ := if_pos hthird
    have htwo : q.pending.length = 2 := Nat.succ.inj hthird
    rw [if_pos hthird]
    refine ⟨?_, ?_, ?_⟩
    · rw [hpush, hbatch]
      rfl
    · rw [hpush, hbatch]
      exact fun i hi => absurd hi (Nat.not_lt_zero i)
    · have hadded : ∀ data : Bytes, triples ((if clearBeforeWrite = true then s.added ++ [.cleared] else s.added) ++
          [.triple data]) = triples s.added ++ [data] := by
        intro data
        split <;> simp [triples]
      dsimp only
      rw [hpush, hbatch, hadded]
      refine List.rel_append hsent (List.Forall₂.cons ⟨?_, fun i hi k hk => ?_⟩ .nil)
      · rw [List.length_append, htwo]
        rfl
      · have hi3 : i < 3 := by
          rw [List.length_append, htwo] at hi
          exact hi
        have hk' : k < 196 := hk
        have hbits : P25_TSBK_FEC_LENGTH_BITS * i + k < 588 := by
          unfold P25_TSBK_FEC_LENGTH_BITS
          omega
        have hput := hcleared.put b true i hi k hk
        rw [htwo] at hput ⊢
        rw [readBit_blocksOf c _ hbits, readBit_copyBlocks _ hbits, hput, Bool.and_true]
  · have hwait : q.push 3 b = ⟨q.pending ++ [b], q.batches⟩ := if_neg hthird
    have hcnt : (s.mbfCnt + 1).toNat = q.pending.length + 1 := by
      rw [UInt8.toNat_add, hcount]
      show (q.pending.length + 1) % 256 = _
      omega
    rw [if_neg hthird]
    refine ⟨?_, ?_, ?_⟩
    · rw [hpush, hwait]
      show _ = (q.pending ++ [b]).length
      rw [List.length_append]
      exact hcnt
    · rw [hpush, hwait]
      intro i hi k hk
      have hput := hcleared.put b false i hi k hk
      rwa [Bool.and_false] at hput
    · rw [hpush, hwait]
      exact hsent

/-! ## The producers -/

/-- What is not collected leaves the collection as it is. -/
structure KeepsBlocks (s s' : TrunkingFrames) : Prop where
  rfMBF : s'.rfMBF = s.rfMBF
  mbfCnt : s'.mbfCnt = s.mbfCnt
  handed : s'.handed = s.handed
  triples : triples s'.added = triples s.added

theorem Batches.of_keepsBlocks {s s' : TrunkingFrames} (h : Batches s) (hkeep : KeepsBlocks s s') : Batches s' := by
  refine ⟨?_, ?_, ?_⟩
  · rw [hkeep.mbfCnt, hkeep.handed]
    exact h.count
  · rw [hkeep.rfMBF, hkeep.handed]
    exact h.buffers
  · rw [hkeep.triples, hkeep.handed]
    exact h.sent

/-- A message in a data unit of its own. -/
theorem keepsBlocks_single (s : TrunkingFrames) (b : TSBKBlock) {clearBeforeWrite force imm : Bool}
    (hcollects : s.collects c force imm = false) : KeepsBlocks s (s.writeRfTsduSbf c b clearBeforeWrite force imm) := by
  unfold writeRfTsduSbf
  rw [hcollects]
  dsimp only
  split
  · exact ⟨rfl, rfl, rfl, rfl⟩
  · -- the queue is cleared, or not, and the data unit goes out, or not: no triple among them
    rw [if_neg Bool.false_ne_true]
    have hcleared : KeepsBlocks s
        (if (!(force || imm) && clearBeforeWrite) = true then { s with added := s.added ++ [.cleared] } else s) := by
      split
      · exact ⟨rfl, rfl, rfl, by simp [TrunkingFrames.triples]⟩
      · exact ⟨rfl, rfl, rfl, rfl⟩
    generalize (if (!(force || imm) && clearBeforeWrite) = true then _ else s : TrunkingFrames) = u at *
    split
    · refine ⟨hcleared.rfMBF, hcleared.mbfCnt, hcleared.handed, ?_⟩
      rw [← hcleared.triples, triples_append]
      split <;> simp [TrunkingFrames.triples]
    · exact hcleared

theorem Batches.sbf {s : TrunkingFrames} (h : Batches s) (hcontrol : c.enableControl = true)
    (hduplex : c.duplex = true) (b : TSBKBlock) (clearBeforeWrite force imm : Bool) :
    Batches (s.writeRfTsduSbf c b clearBeforeWrite force imm) := by
  by_cases hcollects : s.collects c force imm = true
  · unfold writeRfTsduSbf
    rw [if_neg (by rw [hcontrol]; exact Bool.false_ne_true), if_pos hcollects]
    exact h.mbf c hcontrol hduplex b clearBeforeWrite
  · exact h.of_keepsBlocks (keepsBlocks_single c s b (Bool.eq_false_iff.mpr hcollects))

/-- To choose a broadcast turns a count of the tables at most. -/
theorem keepsBlocks_announcement (s : TrunkingFrames) (lco : CtrlOpcode) : KeepsBlocks s (s.announcement c lco).2 := by
  cases lco with
  | IDEN_UP =>
      unfold announcement idenUp
      dsimp only
      split <;> split <;> exact ⟨rfl, rfl, rfl, rfl⟩
  | ADJ_STS_BCAST =>
      unfold announcement adjStsBcast
      dsimp only
      split
      · split <;> split <;> exact ⟨rfl, rfl, rfl, rfl⟩
      · exact ⟨rfl, rfl, rfl, rfl⟩
  | SCCB_EXP =>
      unfold announcement sccbExp
      dsimp only
      split
      · split <;> split <;> exact ⟨rfl, rfl, rfl, rfl⟩
      · exact ⟨rfl, rfl, rfl, rfl⟩
  | _ => exact ⟨rfl, rfl, rfl, rfl⟩

/-- A broadcast that there is on a site that sends three at a time is handed over. -/
theorem queueRfTsbkCtrl_of_some {s s' : TrunkingFrames} {lco : CtrlOpcode} {a : Announcement}
    (hcontrol : c.enableControl = true) (hmbf : c.ctrlTSDUMBF = true)
    (hsome : s.announcement c lco = (some a, s')) :
    s.queueRfTsbkCtrl c lco = s'.writeRfTsduMbf c (c.block a) false := by
  unfold queueRfTsbkCtrl
  rw [if_neg (by rw [hcontrol]; exact Bool.false_ne_true), hsome]
  exact if_pos hmbf

theorem Batches.queue {s : TrunkingFrames} (h : Batches s) (hcontrol : c.enableControl = true)
    (hduplex : c.duplex = true) (lco : CtrlOpcode) : Batches (s.queueRfTsbkCtrl c lco) := by
  have hchosen := h.of_keepsBlocks (keepsBlocks_announcement c s lco)
  unfold queueRfTsbkCtrl
  rw [if_neg (by rw [hcontrol]; exact Bool.false_ne_true)]
  split
  · rename_i s' hnone
    rwa [hnone] at hchosen
  · rename_i a s' hsome
    rw [hsome] at hchosen
    split
    · exact hchosen.mbf c hcontrol hduplex _ _
    · exact hchosen.sbf c hcontrol hduplex _ _ _ _

/-! ## The padding -/

/-- The count behind a message that is handed over. -/
theorem mbfCnt_writeRfTsduMbf (hcontrol : c.enableControl = true) (hduplex : c.duplex = true) (s : TrunkingFrames)
    (b : TSBKBlock) (clearBeforeWrite : Bool) :
    (s.writeRfTsduMbf c b clearBeforeWrite).mbfCnt = if s.mbfCnt.toNat + 1 = TSBK_MBF_CNT then 0 else s.mbfCnt + 1 := by
  unfold writeRfTsduMbf
  dsimp only
  rw [if_neg (by rw [hcontrol]; exact Bool.false_ne_true), if_neg (by rw [hduplex]; exact Bool.false_ne_true)]
  split <;> rfl

theorem mbfCnt_queue_of_some {s s' : TrunkingFrames} {lco : CtrlOpcode} {a : Announcement}
    (hcontrol : c.enableControl = true) (hduplex : c.duplex = true) (hmbf : c.ctrlTSDUMBF = true)
    (hsome : s.announcement c lco = (some a, s')) :
    (s.queueRfTsbkCtrl c lco).mbfCnt = if s.mbfCnt.toNat + 1 = TSBK_MBF_CNT then 0 else s.mbfCnt + 1 := by
  have hkeep := (keepsBlocks_announcement c s lco).mbfCnt
  rw [hsome] at hkeep
  rw [queueRfTsbkCtrl_of_some c hcontrol hmbf hsome, mbfCnt_writeRfTsduMbf c hcontrol hduplex, hkeep]

/-- There is an identity to tell of wherever the table is not empty: the count starts over at its end. -/
theorem idenUp_some {s : TrunkingFrames} (htable : s.idenTable.length > 1) :
    ∃ a s', s.announcement c .IDEN_UP = (some a, s') := by
  have hwithin : ((if s.mbfIdenCnt.toNat ≥ s.idenTable.length then { s with mbfIdenCnt := 0 } else s) :
      TrunkingFrames).mbfIdenCnt.toNat < s.idenTable.length := by
    split
    · show 0 < s.idenTable.length
      omega
    · omega
  have htable' : ((if s.mbfIdenCnt.toNat ≥ s.idenTable.length then { s with mbfIdenCnt := 0 } else s) :
      TrunkingFrames).idenTable = s.idenTable := by
    split <;> rfl
  unfold announcement idenUp
  dsimp only
  generalize ((if s.mbfIdenCnt.toNat ≥ s.idenTable.length then { s with mbfIdenCnt := 0 } else s) :
    TrunkingFrames) = u at *
  rw [List.getElem?_eq_getElem (htable' ▸ hwithin)]
  exact ⟨_, _, rfl⟩

/-- **The padding leaves nothing behind**: it keeps the batching, and the count that it resets is 0. -/
theorem Batches.pad {s : TrunkingFrames} (h : Batches s) (hcontrol : c.enableControl = true) (hduplex : c.duplex = true)
    (hmbf : c.ctrlTSDUMBF = true) : Batches (s.pad c) := by
  have hrfss (u : TrunkingFrames) : u.announcement c .RFSS_STS_BCAST = (some .rfssStsBcast, u) := rfl
  have hnet (u : TrunkingFrames) : u.announcement c .NET_STS_BCAST = (some .netStsBcast, u) := rfl
  -- with one waiting, two more make it a data unit
  have hone : ∀ u : TrunkingFrames, Batches u →
      Batches (if u.mbfCnt = 1 then (u.queueRfTsbkCtrl c .RFSS_STS_BCAST).queueRfTsbkCtrl c .NET_STS_BCAST else u) ∧
      (if u.mbfCnt = 1 then (u.queueRfTsbkCtrl c .RFSS_STS_BCAST).queueRfTsbkCtrl c .NET_STS_BCAST else u).mbfCnt
        ∈ [(0 : UInt8), 2] := by
    intro u hu
    split
    · rename_i hcnt
      refine ⟨(hu.queue c hcontrol hduplex _).queue c hcontrol hduplex _, ?_⟩
      have hfirst : (u.queueRfTsbkCtrl c .RFSS_STS_BCAST).mbfCnt = 2 := by
        rw [mbfCnt_queue_of_some c hcontrol hduplex hmbf (hrfss u), hcnt]
        decide
      rw [mbfCnt_queue_of_some c hcontrol hduplex hmbf (hnet _), hfirst]
      decide
    · rename_i hcnt
      refine ⟨hu, ?_⟩
      have hlt := (full_pushAll u.handed).pending
      rw [← hu.count] at hlt
      have hne : u.mbfCnt.toNat ≠ 1 := fun heq => hcnt (UInt8.toNat_inj.mp heq)
      have hcases : u.mbfCnt.toNat = 0 ∨ u.mbfCnt.toNat = 2 := by omega
      rcases hcases with hzero | htwo
      · rw [show u.mbfCnt = 0 from UInt8.toNat_inj.mp hzero]
        decide
      · rw [show u.mbfCnt = 2 from UInt8.toNat_inj.mp htwo]
        decide
  -- with two waiting, so does one more
  have htwo : ∀ u : TrunkingFrames, Batches u → u.mbfCnt ∈ [(0 : UInt8), 2] →
      Batches (if u.mbfCnt = 2 then
        if u.idenTable.length > 1 then u.queueRfTsbkCtrl c .IDEN_UP else u.queueRfTsbkCtrl c .RFSS_STS_BCAST else u) ∧
      (if u.mbfCnt = 2 then
        if u.idenTable.length > 1 then u.queueRfTsbkCtrl c .IDEN_UP else u.queueRfTsbkCtrl c .RFSS_STS_BCAST
        else u).mbfCnt = 0 := by
    intro u hu hcnt
    split
    · rename_i heq
      split
      · rename_i htable
        obtain ⟨a, s', hsome⟩ := idenUp_some c htable
        refine ⟨hu.queue c hcontrol hduplex _, ?_⟩
        rw [mbfCnt_queue_of_some c hcontrol hduplex hmbf hsome, heq]
        decide
      · refine ⟨hu.queue c hcontrol hduplex _, ?_⟩
        rw [mbfCnt_queue_of_some c hcontrol hduplex hmbf (hrfss u), heq]
        decide
    · rename_i hne
      rw [List.mem_cons, List.mem_singleton] at hcnt
      exact ⟨hu, hcnt.resolve_right hne⟩
  obtain ⟨hfilled, hcnt⟩ := hone s h
  obtain ⟨hpadded, hzero⟩ := htwo _ hfilled hcnt
  unfold TrunkingFrames.pad
  exact hpadded.of_keepsBlocks ⟨rfl, hzero.symm, rfl, rfl⟩

theorem Batches.foldl_queue {s : TrunkingFrames} (h : Batches s) (hcontrol : c.enableControl = true)
    (hduplex : c.duplex = true) (lcos : List CtrlOpcode) : Batches (lcos.foldl (queueRfTsbkCtrl c) s) := by
  induction lcos generalizing s with
  | nil => exact h
  | cons lco lcos ih => exact ih (h.queue c hcontrol hduplex lco)

theorem Batches.controlData {s : TrunkingFrames} (h : Batches s) (hcontrol : c.enableControl = true)
    (hduplex : c.duplex = true) (update : Option TSBKBlock) (frameCnt n : UInt8) (adjSS : Bool) :
    Batches (s.writeRfControlData c update frameCnt n adjSS) := by
  unfold writeRfControlData
  rw [if_neg (by rw [hcontrol]; exact Bool.false_ne_true)]
  split
  · exact h
  · have hcount : Batches { s with microslotCount := if s.microslotCount + 1 > 7999 then 0 else s.microslotCount + 1 } :=
      h.of_keepsBlocks ⟨rfl, rfl, rfl, rfl⟩
    have hend : ∀ w : TrunkingFrames, Batches w →
        Batches (if (n ≥ 4 ∨ (n = 7 ∧ ¬ (adjSS = true ∧ s.adjSiteTable.length > 0))) ∧ c.ctrlTSDUMBF = true then w.pad c
          else w) := by
      intro w hw
      split
      · rename_i hpad
        exact hw.pad c hcontrol hduplex hpad.2
      · exact hw
    refine hend _ (Batches.foldl_queue c ?_ hcontrol hduplex _)
    split
    · -- a grant to tell of, behind the broadcast that the sequence number stands for
      refine Batches.sbf c ?_ hcontrol hduplex _ _ _ _
      split
      · exact hcount.queue c hcontrol hduplex _
      · exact hcount
    · split
      · exact hcount.queue c hcontrol hduplex _
      · exact hcount

/-! ## Runs -/

/-- What a site does: it hands over a message, directly or as a single one, or broadcasts, or keeps to the schedule; or
    something else happens to it. -/
inductive Action where
  | mbf (b : TSBKBlock) (clearBeforeWrite : Bool)
  | sbf (b : TSBKBlock) (clearBeforeWrite force imm : Bool)
  | ctrl (lco : CtrlOpcode)
  | controlData (update : Option TSBKBlock) (frameCnt n : UInt8) (adjSS : Bool)
  | other

/-- A step: whatever else the site does leaves the members of the collection alone. -/
def step (s : TrunkingFrames) : Action → TrunkingFrames → Prop
  | .mbf b clearBeforeWrite, s' => s' = s.writeRfTsduMbf c b clearBeforeWrite
  | .sbf b clearBeforeWrite force imm, s' => s' = s.writeRfTsduSbf c b clearBeforeWrite force imm
  | .ctrl lco, s' => s' = s.queueRfTsbkCtrl c lco
  | .controlData update frameCnt n adjSS, s' => s' = s.writeRfControlData c update frameCnt n adjSS
  | .other, s' => KeepsBlocks s s'

/-- A site as it is made. -/
structure Fresh (s : TrunkingFrames) : Prop where
  mbfCnt : s.mbfCnt = 0
  handed : s.handed = []
  added : s.added = []

theorem Fresh.batches {s : TrunkingFrames} (h : Fresh s) : Batches s := by
  refine ⟨?_, ?_, ?_⟩
  · rw [h.mbfCnt, h.handed]
    rfl
  · rw [h.handed]
    exact fun i hi => absurd hi (Nat.not_lt_zero i)
  · rw [h.added, h.handed]
    exact .nil

/-- **The step lemma**, for every producer. -/
theorem Batches.step {s s' : TrunkingFrames} {a : Action} (hcontrol : c.enableControl = true)
    (hduplex : c.duplex = true) (h : Batches s) (hstep : TrunkingFrames.step c s a s') : Batches s' := by
  cases a with
  | mbf b clearBeforeWrite =>
      subst hstep
      exact h.mbf c hcontrol hduplex b clearBeforeWrite
  | sbf b clearBeforeWrite force imm =>
      subst hstep
      exact h.sbf c hcontrol hduplex b clearBeforeWrite force imm
  | ctrl lco =>
      subst hstep
      exact h.queue c hcontrol hduplex lco
  | controlData update frameCnt n adjSS =>
      subst hstep
      exact h.controlData c hcontrol hduplex update frameCnt n adjSS
  | other => exact h.of_keepsBlocks hstep

/-- The messages that were handed over, in threes: each three were sent as one data unit, and what is left over waits,
    as many as the count says. -/
def Assembled (s : TrunkingFrames) : Prop :=
  (s.mbfCnt = 0 ∨ s.mbfCnt = 1 ∨ s.mbfCnt = 2) ∧
    ∃ groups waiting, groups.flatten ++ waiting = s.handed ∧ waiting.length = s.mbfCnt.toNat ∧
      List.Forall₂ Carries (triples s.added) groups

theorem Batches.assembled {s : TrunkingFrames} (h : Batches s) : Assembled s := by
  have hlt := (full_pushAll s.handed).pending
  rw [← h.count] at hlt
  refine ⟨?_, (Batching.empty.pushAll 3 s.handed).batches, (Batching.empty.pushAll 3 s.handed).pending,
    Batching.flatten_pushAll 3 .empty s.handed, h.count.symm, h.sent⟩
  have hcases : s.mbfCnt.toNat = 0 ∨ s.mbfCnt.toNat = 1 ∨ s.mbfCnt.toNat = 2 := by omega
  rcases hcases with hzero | hone | htwo
  · exact .inl (UInt8.toNat_inj.mp hzero)
  · exact .inr (.inl (UInt8.toNat_inj.mp hone))
  · exact .inr (.inr (UInt8.toNat_inj.mp htwo))

/-- **Every message goes out once, in order, three to a data unit**: in every state of every run of a duplex site that
    signals, whoever hands over. The reset behind the padding is a step like any other and so discards nothing. -/
theorem messages_assembled (hcontrol : c.enableControl = true) (hduplex : c.duplex = true) {s : TrunkingFrames}
    {l : List (Action × TrunkingFrames)} (hfresh : Fresh s) (hrun : Run (TrunkingFrames.step c) s l) :
    States Assembled s l :=
  (hrun.states_of_invariant (I := Batches) (fun h hstep => h.step c hcontrol hduplex hstep) hfresh.batches).mono
    fun _ h => h.assembled

/-- A site that signals on a channel of its own, three messages at a time. -/
def site : TrunkingSettings :=
  ⟨true, true, true, false, true, false, NID.new 0x293, .default, fun _ => ⟨⟨0x3A, 0x00, true, 0⟩, some fun _ => 0x00⟩⟩

/-- The site as it is made. -/
def newSite : TrunkingFrames :=
  ⟨true, false, fun _ => 0x00, 0, 0, 0, 0, 0, [851006250, 762006250], [], fun _ => 0, [], [], []⟩

/-- A status update, and the end of a sequence, whose padding sends it. -/
theorem messages_assembled_padded :
    let s := newSite.writeRfTsduSbf site ⟨⟨0x18, 0x00, false, 1⟩, some fun _ => 0x00⟩ false false false
    States Assembled newSite [(Action.sbf ⟨⟨0x18, 0x00, false, 1⟩, some fun _ => 0x00⟩ false false false, s),
      (Action.controlData none 1 7 false, s.writeRfControlData site none 1 7 false)] :=
  messages_assembled site rfl rfl ⟨rfl, rfl, rfl⟩ (.cons rfl (.cons rfl .nil))

end TrunkingFrames

end P25

end DvmHost

import DvmHost.Common.Nxdn.Lc.RTCH
import DvmHost.Common.P25.Lc.Correctness.EncryptionSync
import DvmHost.Common.P25.Lc.TDULC
import DvmHost.Lib.Copying

/-!
# `Common.Correctness.CopyFidelity` — what copies of control messages keep

Four classes list their members in a `copy` of their own, from which the copy constructor and the assignment are
made. A **view** is what an object shows: its members with a getter, the others cleared, and the functions that
encode it. For each class the view of a copy is that of the object it copies exactly under a condition on the two
objects:

* a link control loses its opcode, and has its encryption parameters set right by the algorithm ID;
* a terminator loses nothing: the flag that is not copied is one that `encode` raises anyhow;
* a DMR control block takes the reason for its response, and loses reason and data type;
* an NXDN message takes its packet information for its response, and loses the message indicator.
-/

namespace DvmHost

open Lib Lib.Copying

/-! ## P25 link control -/

namespace LC

/-- The members with a getter. -/
def shown (lc : LC) : LC := { lc with encryptOverride := false, callTimer := 0, rsValue := 0 }

/-- The getters and the three encoders. -/
def view (siteData : SiteData) (lc : LC) : LC × (Bytes → Bytes) × (Bytes → Bytes) × (Bytes → Bytes) :=
  (lc.shown, lc.encodeHDU, lc.encodeLDU1 siteData, lc.encodeLDU2)

/-- The opcodes are the same already, and the encryption parameters of the source agree with its algorithm ID. -/
def Keeps (target data : LC) : Prop := data.lco = target.lco ∧ data.Synced data.algId data.kId data.mi

theorem copy_lco (target data : LC) : (copy target data).lco = target.lco := by
  unfold copy setEncryption
  dsimp only
  split <;> split <;> rfl

theorem copy_synced (target data : LC) : (copy target data).Synced data.algId data.kId data.mi := by
  have h := setEncryption_synced { target with
    protect := data.protect, mfId := data.mfId, srcId := data.srcId, dstId := data.dstId,
    grpVchNo := data.grpVchNo, explicitId := data.explicitId, netId := data.netId, sysId := data.sysId,
    emergency := data.emergency, encrypted := data.encrypted, priority := data.priority, group := data.group,
    callTimer := data.callTimer, rsValue := data.rsValue } data.algId data.miOctets data.kId
  rwa [funext (miOctets_apply data)] at h

/-- Nothing but the override flag of the target is left where the two agree. -/
theorem copy_of_keeps {target data : LC} (h : Keeps target data) :
    copy target data = { data with encryptOverride := target.encryptOverride } := by
  obtain ⟨hlco, -, henc⟩ := h
  unfold copy setEncryption
  dsimp only
  rw [funext (miOctets_apply data), ← hlco]
  by_cases halg : data.algId = P25_ALGO_UNENCRYPT
  · rw [if_pos halg] at henc
    obtain ⟨he, hk, hmi⟩ := henc
    rw [if_neg (not_not_intro halg), he, if_neg Bool.false_ne_true, ← hk, ← hmi, ← he]
  · rw [if_neg halg] at henc
    rw [if_pos halg, henc.1, Bool.not_true, if_neg Bool.false_ne_true, ← henc.1]

theorem view_copy_iff (siteData : SiteData) (target data : LC) :
    view siteData (copy target data) = view siteData data ↔ Keeps target data := by
  constructor
  · intro h
    have hshown : (copy target data).shown = data.shown := congrArg Prod.fst h
    refine ⟨(congrArg lco hshown).symm.trans (copy_lco target data), ?_⟩
    have hs : (copy target data).shown.Synced data.algId data.kId data.mi := copy_synced target data
    rw [hshown] at hs
    exact hs
  · intro h
    rw [copy_of_keeps h]
    rfl

end LC

/-! ## P25 terminators -/

namespace TDULC

/-- The members with a getter. -/
def shown (t : TDULC) : TDULC := { t with implicitOp := false, callTimer := 0 }

/-- The getters and the encoder of a derived class. -/
def view (d : Derived) (t : TDULC) : TDULC × (Bytes → Bytes) := (t.shown, t.encodePayload d)

/-- While two objects of a class are encoded, a copy is the object it copies. -/
theorem raised_copy {d : Derived} {target data : TDULC} (ht : Reachable d target) (hd : Reachable d data) :
    (target.copy data).raised d = data.raised d := by
  have himplicit := (Reachable.copy ht hd).implicitOp_raised.trans hd.implicitOp_raised.symm
  have hrest : { (target.copy data).raised d with implicitOp := (data.raised d).implicitOp } = data.raised d := by
    unfold raised
    split <;> rfl
  rw [← himplicit] at hrest
  exact hrest

theorem view_copy {d : Derived} {target data : TDULC} (ht : Reachable d target) (hd : Reachable d data) :
    view d (target.copy data) = view d data := by
  refine Prod.ext rfl ?_
  show (target.copy data).encodePayload d = data.encodePayload d
  unfold encodePayload
  rw [raised_copy ht hd]

end TDULC

/-! ## DMR control signalling blocks -/

namespace Dmr.CSBK

/-- The getters, one for every member, and the encoder of a derived class. -/
def view (payload : CSBK → Option Bytes) (c : CSBK) : CSBK × (Bytes → Bytes) := (c, c.encodePayload payload)

/-- The response is the reason, and reason and data type are those that the target has already. -/
def Keeps (target data : CSBK) : Prop :=
  data.response = data.reason ∧ data.reason = target.reason ∧ data.dataType = target.dataType

theorem view_copy_iff (payload : CSBK → Option Bytes) (target data : CSBK) :
    view payload (copy target data) = view payload data ↔ Keeps target data := by
  constructor
  · intro h
    have hc : copy target data = data := congrArg Prod.fst h
    exact ⟨(congrArg response hc).symm, (congrArg reason hc).symm, (congrArg dataType hc).symm⟩
  · rintro ⟨hresponse, hreason, htype⟩
    have hc : copy target data = data := by
      unfold copy
      rw [← hresponse, ← hreason, ← htype]
    rw [hc]

end Dmr.CSBK

/-! ## NXDN layer 3 messages -/

namespace Nxdn.RTCH

/-- The members with a getter. -/
def shown (m : RTCH) : RTCH := { m with mi := fun _ => 0x00 }

/-- The getters and the encoder. -/
def view (m : RTCH) : RTCH × (Bytes → Nat → Nat → Bytes) := (m.shown, m.encode)

/-- The message is one that carries the message indicator. -/
def SendsMi (m : RTCH) : Prop :=
  m.Enciphered ∧ (m.messageType = RTCH_MESSAGE_TYPE_VCALL_IV ∨ m.messageType = RTCH_MESSAGE_TYPE_DCALL_HDR)

/-- The octets that `encodeMi` sends. -/
def SameMi (mi mi' : Bytes) : Prop := ∀ i < NXDN_MI_LENGTH_BYTES, mi i = mi' i

/-- The response is the packet information, and the target has the message indicator already if it is sent. -/
def Keeps (mi : Bytes) (data : RTCH) : Prop := data.rsp = data.packetInfo ∧ (data.SendsMi → SameMi mi data.mi)

/-- Only what is sent matters. -/
theorem encodeLC_of_sameMi {m : RTCH} {mi : Bytes} (h : m.SendsMi → SameMi mi m.mi) :
    encodeLC { m with mi := mi } = encodeLC m := by
  have hmi : ∀ data n,
      m.messageType = RTCH_MESSAGE_TYPE_VCALL_IV ∨ m.messageType = RTCH_MESSAGE_TYPE_DCALL_HDR →
      encodeMi { m with mi := mi } data n = encodeMi m data n := by
    intro data n htype
    refine encodeMi_congr ?_ ?_ data n
    · exact Iff.rfl
    · exact fun hm => h ⟨hm, htype⟩
  unfold encodeLC
  dsimp only
  split_ifs with h1 h2 h3 h4 h5 h6 h7 h8 h9
  · rfl
  · exact hmi _ _ (.inl h2)
  · rfl
  · exact hmi _ _ (.inr h4)
  all_goals rfl

/-- Two encoders are the same function only when the 22 octets of the message are the same. -/
theorem encodeLC_of_encode_eq {m m' : RTCH} (h : m.encode = m'.encode) {i : Nat} (hi : i < 22) :
    encodeLC m i = encodeLC m' i := by
  refine byte_of_bits (n := 22) (fun b hb => ?_) hi
  have hbit := congrArg (fun f => readBit (f (fun _ => 0x00) NXDN_RTCH_LC_LENGTH_BITS 0) b) h
  unfold encode at hbit
  have hin : 0 ≤ b ∧ b < 0 + NXDN_RTCH_LC_LENGTH_BITS := ⟨Nat.zero_le b, by show b < 0 + 176; omega⟩
  rw [readBit_copyBits, readBit_copyBits, if_pos hin, if_pos hin] at hbit
  simpa using hbit

/-- A message that carries the indicator has it in eight of its octets. -/
theorem exists_encodeLC_eq {m : RTCH} (hs : m.SendsMi) :
    ∃ n ≤ 11, ∀ mi, ∀ i < NXDN_MI_LENGTH_BYTES, encodeLC { m with mi := mi } (n + i) = mi i := by
  obtain ⟨hm, htype⟩ := hs
  rcases htype with htype | htype
  · refine ⟨1, by decide, fun mi i hi => ?_⟩
    unfold encodeLC
    dsimp only
    rw [htype, if_neg (by decide), if_pos rfl]
    exact (encodeMi_add { m with mi := mi } _ 1 hi).trans (if_pos hm)
  · refine ⟨11, by decide, fun mi i hi => ?_⟩
    unfold encodeLC
    dsimp only
    rw [htype, if_neg (by decide), if_neg (by decide), if_neg (by decide), if_pos rfl]
    exact (encodeMi_add { m with mi := mi } _ 11 hi).trans (if_pos hm)

theorem sameMi_of_encode_eq {m : RTCH} {mi : Bytes} (hs : m.SendsMi)
    (h : ({ m with mi := mi } : RTCH).encode = m.encode) : SameMi mi m.mi := by
  obtain ⟨n, hn, hoctet⟩ := exists_encodeLC_eq hs
  intro i hi
  have hi8 : i < 8 := hi
  calc mi i = encodeLC { m with mi := mi } (n + i) := (hoctet mi i hi).symm
    _ = encodeLC m (n + i) := encodeLC_of_encode_eq h (by omega)
    _ = m.mi i := hoctet m.mi i hi

theorem view_copy_iff (target data : RTCH) : view (copy target data) = view data ↔ Keeps target.mi data := by
  constructor
  · intro h
    have hshown : (copy target data).shown = data.shown := congrArg Prod.fst h
    have hrsp : data.packetInfo = data.rsp := congrArg rsp hshown
    have hcopy : copy target data = { data with mi := target.mi } := by
      unfold copy
      rw [hrsp]
    refine ⟨hrsp.symm, fun hs => sameMi_of_encode_eq hs ?_⟩
    rw [← hcopy]
    exact congrArg Prod.snd h
  · rintro ⟨hrsp, hmi⟩
    have hcopy : copy target data = { data with mi := target.mi } := by
      unfold copy
      rw [hrsp]
    refine Prod.ext ?_ ?_
    · rw [hcopy]
      rfl
    · show (copy target data).encode = data.encode
      unfold encode
      rw [hcopy, encodeLC_of_sameMi hmi]

/-- No octets suit every message indicator. -/
theorem forall_keeps_iff (data : RTCH) :
    (∀ mi, Keeps mi data) ↔ data.rsp = data.packetInfo ∧ ¬ data.SendsMi := by
  constructor
  · intro h
    refine ⟨(h data.mi).1, fun hs => ?_⟩
    have h0 := (h fun i => data.mi i + 1).2 hs 0 (by decide)
    simp at h0
  · exact fun h mi => ⟨h.1, fun hs => absurd hs h.2⟩

end Nxdn.RTCH

/-! ## The copy constructors and the assignments -/

/-- **Copies.** What a copy shows and encodes is what the object it was made from shows and encodes, iff the
    condition of its class holds of the two: a constructor copies into a new object, an assignment into the object on
    the left, and an object assigned to itself is safe. Terminators meet no condition in the states that their
    constructors, setters, decoders, encoders and copies lead to; the message indicator of a constructed NXDN
    message can be anything. -/
theorem copy_preserves_iff {ι : Type} [DecidableEq ι] :
    (∀ siteData data, LC.view siteData (LC.copyConstruct data) = LC.view siteData data ↔
      LC.Keeps LC.default data) ∧
    (∀ (objects : ι → LC) this data, ∀ siteData,
      LC.view siteData (assign LC.copy objects this data this) =
        LC.view siteData (assign LC.copy objects this data data) ↔
      this = data ∨ LC.Keeps (objects this) (objects data)) ∧
    (∀ d siteData (data : { t // TDULC.Reachable d t }),
      TDULC.view d (TDULC.copyConstruct siteData data) = TDULC.view d data) ∧
    (∀ d (objects : ι → { t // TDULC.Reachable d t }) this data,
      TDULC.view d (assign TDULC.copy (fun k => (objects k).val) this data this) =
        TDULC.view d (assign TDULC.copy (fun k => (objects k).val) this data data)) ∧
    (∀ payload data, Dmr.CSBK.view payload (Dmr.CSBK.copyConstruct data) = Dmr.CSBK.view payload data ↔
      Dmr.CSBK.Keeps Dmr.CSBK.new data) ∧
    (∀ payload (objects : ι → Dmr.CSBK) this data,
      Dmr.CSBK.view payload (assign Dmr.CSBK.copy objects this data this) =
        Dmr.CSBK.view payload (assign Dmr.CSBK.copy objects this data data) ↔
      this = data ∨ Dmr.CSBK.Keeps (objects this) (objects data)) ∧
    (∀ data, (∀ mi, Nxdn.RTCH.view (Nxdn.RTCH.copyConstruct mi data) = Nxdn.RTCH.view data) ↔
      data.rsp = data.packetInfo ∧ ¬ data.SendsMi) ∧
    (∀ (objects : ι → Nxdn.RTCH) this data,
      Nxdn.RTCH.view (assign Nxdn.RTCH.copy objects this data this) =
        Nxdn.RTCH.view (assign Nxdn.RTCH.copy objects this data data) ↔
      this = data ∨ Nxdn.RTCH.Keeps (objects this).mi (objects data)) := by
  refine ⟨fun siteData data => LC.view_copy_iff siteData _ data, ?_, ?_, ?_,
    fun payload data => Dmr.CSBK.view_copy_iff payload _ data, ?_, ?_, ?_⟩
  · intro objects this data siteData
    rw [view_assign_iff, LC.view_copy_iff]
  · exact fun d siteData data => TDULC.view_copy (.new siteData) data.property
  · intro d objects this data
    rw [view_assign_iff]
    exact .inr (TDULC.view_copy (objects this).property (objects data).property)
  · intro payload objects this data
    rw [view_assign_iff, Dmr.CSBK.view_copy_iff]
  · intro data
    rw [← Nxdn.RTCH.forall_keeps_iff]
    exact forall_congr' fun mi => Nxdn.RTCH.view_copy_iff { Nxdn.RTCH.new with mi := mi } data
  · intro objects this data
    rw [view_assign_iff, Nxdn.RTCH.view_copy_iff]

/-- A private call becomes a group call, the reason of a control block is moved into its response, and the response
    of an NXDN message is forgotten. -/
theorem copy_loses :
    (LC.copyConstruct { LC.default with lco := LC_PRIVATE }).lco = LC_GROUP ∧
    (let data : Dmr.CSBK := { Dmr.CSBK.new with response := 0x05, reason := 0x27 }
     (Dmr.CSBK.copyConstruct data).response = 0x27 ∧ (Dmr.CSBK.copyConstruct data).reason = 0x00) ∧
    (let rsp : Nxdn.PacketInformation := { Nxdn.PacketInformation.new with rspClass := 3 }
     ∀ mi, (Nxdn.RTCH.copyConstruct mi { Nxdn.RTCH.new with rsp := rsp }).rsp.rspClass = 0) ∧
    ¬ (∀ siteData data, LC.view siteData (LC.copyConstruct data) = LC.view siteData data) ∧
    ¬ (∀ payload data, Dmr.CSBK.view payload (Dmr.CSBK.copyConstruct data) = Dmr.CSBK.view payload data) ∧
    ¬ (∀ mi data, Nxdn.RTCH.view (Nxdn.RTCH.copyConstruct mi data) = Nxdn.RTCH.view data) := by
  refine ⟨rfl, ⟨rfl, rfl⟩, fun _ => rfl, fun h => ?_, fun h => ?_, fun h => ?_⟩
  · have hlco := ((LC.view_copy_iff _ _ _).mp (h SiteData.default { LC.default with lco := LC_PRIVATE })).1
    exact absurd hlco (by decide)
  · have hreason := ((Dmr.CSBK.view_copy_iff _ _ _).mp
      (h (fun _ => none) { Dmr.CSBK.new with response := 0x05, reason := 0x27 })).1
    exact absurd hreason (by decide)
  · have hrsp := ((Nxdn.RTCH.view_copy_iff _ _).mp (h (fun _ => 0x00)
      { Nxdn.RTCH.new with rsp := { Nxdn.PacketInformation.new with rspClass := 3 } })).1
    exact absurd (congrArg Nxdn.PacketInformation.rspClass hrsp) (by decide)

end DvmHost

import DvmHost.Common.Dmr.Lc.CSBK
import DvmHost.Common.P25.Lc.LC

/-!
# `Common.P25.Lc.TDULC` — P25 terminators with link control

`src/common/p25/lc/TDULC.cpp`, the base class of the terminators of `src/common/p25/lc/tdulc`. A derived class adds
the `payload` it computes from the members, and raises `m_implicit` in its `encode` or does not; `m_verbose`,
`m_siteData` and `m_rs` are shared by all objects or hold no state.
-/

namespace DvmHost

/-- `P25_TDULC_LENGTH_BYTES`. -/
abbrev P25_TDULC_LENGTH_BYTES : Nat := 18

/-- `P25_TDULC_PAYLOAD_LENGTH_BYTES`. -/
abbrev P25_TDULC_PAYLOAD_LENGTH_BYTES : Nat := 8

/-- The members of `TDULC`. -/
structure TDULC where
  protect : Bool
  lco : UInt8
  mfId : UInt8
  srcId : UInt32
  dstId : UInt32
  grpVchNo : UInt32
  emergency : Bool
  encrypted : Bool
  priority : UInt8
  group : Bool
  siteIdenEntry : IdenTable
  implicitOp : Bool
  callTimer : UInt32

namespace TDULC

/-- `TDULC()`. -/
def new (siteData : SiteData) : TDULC where
  protect := false
  lco := LC_GROUP
  mfId := P25_MFG_STANDARD
  srcId := 0
  dstId := 0
  grpVchNo := siteData.channelNo
  emergency := false
  encrypted := false
  priority := 4
  group := true
  siteIdenEntry := ⟨0, 0, 0, 0, 0⟩
  implicitOp := false
  callTimer := 0

/-- `TDULC(LC*)`. -/
def ofLC (siteData : SiteData) (lc : LC) : TDULC :=
  { new siteData with
    protect := lc.protect
    lco := lc.lco
    mfId := lc.mfId
    srcId := lc.srcId
    dstId := lc.dstId
    grpVchNo := lc.grpVchNo
    emergency := lc.emergency
    encrypted := lc.encrypted
    priority := lc.priority
    group := lc.group
    callTimer := lc.callTimer }

/-- `encode`, of the payload of the derived class. -/
def encode (t : TDULC) (data payload : Bytes) : Bytes :=
  let rs := memcpy (fun _ => 0x00) 1 payload P25_TDULC_PAYLOAD_LENGTH_BYTES
  let rs := setByte rs 0 t.lco
  let rs := if t.implicitOp then setByte rs 0 (rs 0 ||| 0x40) else rs
  let rs := RS634717.encode241213 rs
  let raw := Golay24128.encodeArray24128 (fun _ => 0x00) rs P25_TDULC_LENGTH_BYTES
  (P25Utils.encode raw data 114 410).2

/-- The lines of `decode` and of `TDULCFactory::createTDULC` that fill `rs`: nothing when the Reed-Solomon decoder does
    not answer true, and no result if the division loop of the Golay decoder did not end. -/
def decodeOctets (errata : RS.Errata) (data : Bytes) : Option (Option Bytes) := do
  let raw := (P25Utils.decode data (fun _ => 0x00) 114 410).2
  let rs ← Golay24128.decodeArray24128 (fun _ => 0x00) raw P25_TDULC_LENGTH_BYTES
  match RS634717.decode241213 errata rs with
  | some (true, rs) => some (some rs)
  | _ => some none

/-- `decode`: whether it was decoded, and `payload`. The members are left as they are. -/
def decode (errata : RS.Errata) (data payload : Bytes) : Option (Bool × Bytes) := do
  match ← decodeOctets errata data with
  | some rs => some (true, memcpy payload 0 (fromByte 1 rs) P25_TDULC_PAYLOAD_LENGTH_BYTES)
  | none => some (false, payload)

/-- `lco` of `TDULCFactory::createTDULC`, by which it makes an object and then calls its `decode`. -/
def createLco (errata : RS.Errata) (data : Bytes) : Option (Option UInt8) := do
  let rs ← decodeOctets errata data
  some (rs.map fun rs => rs 0 &&& 0x3F)

/-- `copy`. -/
def copy (t data : TDULC) : TDULC :=
  { t with
    protect := data.protect
    lco := data.lco
    mfId := data.mfId
    srcId := data.srcId
    dstId := data.dstId
    grpVchNo := data.grpVchNo
    emergency := data.emergency
    encrypted := data.encrypted
    priority := data.priority
    group := data.group
    callTimer := data.callTimer
    siteIdenEntry := data.siteIdenEntry }

/-- `TDULC(const TDULC&)`. -/
def copyConstruct (siteData : SiteData) (data : TDULC) : TDULC := copy (new siteData) data

/-! ## Derived classes -/

/-- What a derived class adds: whether its `encode` begins with `m_implicit = true`, and its payload, if it has one
    for these members. -/
structure Derived where
  raisesImplicit : Bool
  payload : TDULC → Option Bytes

/-- The object while and after the `encode` of a derived class runs. -/
def raised (d : Derived) (t : TDULC) : TDULC := if d.raisesImplicit then { t with implicitOp := true } else t

/-- The `encode` of a derived class. -/
def encodePayload (d : Derived) (t : TDULC) (data : Bytes) : Bytes :=
  match d.payload (t.raised d) with
  | some payload => (t.raised d).encode data payload
  | none => data

/-- The states of the objects of a derived class. The setters and the decoders of the class write members other
    than `m_implicit`. -/
inductive Reachable (d : Derived) : TDULC → Prop where
  | new (siteData : SiteData) : Reachable d (new siteData)
  | ofLC (siteData : SiteData) (lc : LC) : Reachable d (ofLC siteData lc)
  | write {t t' : TDULC} : Reachable d t → t'.implicitOp = t.implicitOp → Reachable d t'
  | encode {t : TDULC} : Reachable d t → Reachable d (t.raised d)
  | copy {t data : TDULC} : Reachable d t → Reachable d data → Reachable d (t.copy data)

/-- An object is marked implicit only by the `encode` of a class that marks it. -/
theorem Reachable.raisesImplicit {d : Derived} {t : TDULC} (h : Reachable d t) :
    t.implicitOp = true → d.raisesImplicit = true := by
  induction h with
  | new _ => exact fun h => nomatch h
  | ofLC _ _ => exact fun h => nomatch h
  | write _ heq ih => exact fun h => ih (heq ▸ h)
  | encode _ ih =>
    intro h
    by_contra hd
    rw [Bool.not_eq_true] at hd
    unfold raised at h
    rw [hd, if_neg Bool.false_ne_true] at h
    rw [ih h] at hd
    exact nomatch hd
  | copy _ _ ih _ => exact ih

/-- While an object is encoded, the flag says what its class says. -/
theorem Reachable.implicitOp_raised {d : Derived} {t : TDULC} (h : Reachable d t) :
    (t.raised d).implicitOp = d.raisesImplicit := by
  unfold raised
  cases hd : d.raisesImplicit with
  | true => rfl
  | false =>
    rw [if_neg Bool.false_ne_true]
    cases ht : t.implicitOp with
    | true => exact (h.raisesImplicit ht).symm.trans hd
    | false => rfl

end TDULC

end DvmHost

import DvmHost.Common.Edac.Correctness.TrellisRepair
import DvmHost.Common.P25.Data.DataBlock
import DvmHost.Common.P25.Data.Correctness.HeaderRoundTrip

/-!
# `Common.P25.Data.Correctness.BlockRoundTrip` — packet data blocks are read back

A block comes through its trellis as it was encoded. Its sender puts the payload of an addressed block behind the
address, at octet 6, its receiver takes it from octet 2 as that of any other block: it reads the address for the first
four octets and everything else four octets late (`block_roundTrip_iff`).
-/

namespace DvmHost

namespace P25

namespace DataBlock

/-! ## What a block carries -/

/-- A block that begins with an address: the first confirmed one behind a header with extended addressing. -/
def Addressed (b : DataBlock) : Prop :=
    b.fmt = PDU_FMT_CONFIRMED ∧ b.headerSap = PDU_SAP_EXT_ADDR ∧ b.serialNo = 0

/-- The octets of the address: the logical link and the service access point. -/
def addressOctets (b : DataBlock) : List UInt8 :=
  [(b.llId >>> (16 : UInt32) &&& 0xFF).toUInt8, (b.llId >>> (8 : UInt32) &&& 0xFF).toUInt8,
    (b.llId >>> (0 : UInt32) &&& 0xFF).toUInt8, b.sap &&& 0x3F]

/-- The block `got` has what `sent` carries: a confirmed block its serial number and sixteen octets, an addressed one
    the address and twelve octets, and the others twelve octets. -/
structure Recovered (sent got : DataBlock) : Prop where
  serialNo : sent.fmt = PDU_FMT_CONFIRMED → got.serialNo = sent.serialNo
  address : sent.Addressed → got.sap = sent.sap ∧ got.llId = sent.llId
  payload : ∀ i < 12, got.data i = sent.data i
  confirmed : sent.fmt = PDU_FMT_CONFIRMED → ¬ sent.Addressed → ∀ i < 16, got.data i = sent.data i

/-- The fields fit the bits they are sent in. -/
structure Legal (b : DataBlock) : Prop where
  serialNo : b.fmt = PDU_FMT_CONFIRMED → b.serialNo < 128
  address : b.Addressed → b.sap < 64 ∧ b.llId.toNat < 2 ^ 24

/-- The blocks that come through: the payload of an addressed one must say what the address says, over and over. -/
structure Intact (b : DataBlock) : Prop extends Legal b where
  payload : b.Addressed → ∀ i < 12, b.data i = (addressOctets b).getD (i % 4) 0

/-- The receiver is told the format and the service access point of the header the block was sent under. -/
def Follows (b : DataBlock) (header : DataHeader) : Prop := header.fmt = b.fmt ∧ header.sap = b.headerSap

/-! ## Encoding -/

/-- A block is encoded from what it carries. -/
theorem encode_congr {sent got : DataBlock} (h : Recovered sent got) (hfmt : got.fmt = sent.fmt)
    (hsap : got.headerSap = sent.headerSap) (data : Bytes) : encode got data = encode sent data := by
  unfold encode
  rw [hfmt]
  split
  next hc =>
    have hoctets : confirmedOctets got = confirmedOctets sent := by
      unfold confirmedOctets
      rw [hsap, h.serialNo hc]
      split
      next haddr =>
        obtain ⟨hs, hl⟩ := h.address ⟨hc, haddr⟩
        rw [hs, hl]
        exact memcpy_congr _ _ h.payload
      next hplain =>
        exact memcpy_congr _ _ (h.confirmed hc fun haddr => hplain haddr.2)
    rw [hoctets]
  next =>
    split
    · rw [memcpy_congr _ _ h.payload]
    · rfl

section Confirmed

variable {b : DataBlock} {buffer : Bytes} (hbuf : ∀ j < 18, buffer j = addCRC9 (confirmedOctets b) j)

include hbuf

end Confirmed

/-! ## Blocks -/

end DataBlock

end P25

end DvmHost

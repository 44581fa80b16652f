import DvmHost.Common.Edac.BCH
import DvmHost.Common.P25.P25Utils

/-!
# `Common.P25.NID` — the network identifier of a P25 frame

`src/common/p25/NID.{h,cpp}`. An object keeps one table of encoded identifiers for the NAC it was built with,
which received frames are compared with, and a second one for sending when the NAC to send was set to another.
-/

namespace DvmHost

open Lib

/-- `P25_DUID_HDU`. -/
def P25_DUID_HDU : UInt8 := 0x00

/-- `P25_DUID_TDU`. -/
def P25_DUID_TDU : UInt8 := 0x03

/-- `P25_DUID_LDU1`. -/
def P25_DUID_LDU1 : UInt8 := 0x05

/-- `P25_DUID_TSDU`. -/
def P25_DUID_TSDU : UInt8 := 0x07

/-- `P25_DUID_LDU2`. -/
def P25_DUID_LDU2 : UInt8 := 0x0A

/-- `P25_DUID_PDU`. -/
def P25_DUID_PDU : UInt8 := 0x0C

/-- `P25_DUID_TDULC`. -/
def P25_DUID_TDULC : UInt8 := 0x0F

/-- `P25_NID_LENGTH_BYTES`. -/
def P25_NID_LENGTH_BYTES : Nat := 8

/-- The members of a `NID`. A table is read at the data unit IDs it was filled at, never where it holds the null
    pointers of the constructor. -/
structure NID where
  duid : UInt8
  nac : UInt32
  rxTx : UInt8 → Bytes
  tx : UInt8 → Bytes
  splitNac : Bool

namespace NID

/-- `MAX_NID_ERRS`. -/
def MAX_NID_ERRS : Nat := 7

/-- The data unit IDs in the order in which the tables are filled, and whether the parity bit is set. -/
def entries : List (UInt8 × Bool) := [(P25_DUID_HDU, false), (P25_DUID_TDU, false), (P25_DUID_LDU1, true),
  (P25_DUID_PDU, false), (P25_DUID_TSDU, false), (P25_DUID_LDU2, true), (P25_DUID_TDULC, false)]

/-- The lines that make one entry of a table. -/
def createEntry (nac : UInt32) (duid : UInt8) (parity : Bool) : Bytes :=
  let nid := setByte (fun _ => 0) 0 (nac >>> (4 : UInt32) &&& 0xFF).toUInt8
  let nid := setByte nid 1 (nac <<< (4 : UInt32) &&& 0xF0).toUInt8
  let nid := setByte nid 1 (nid 1 ||| duid)
  let nid := BCH.encode nid
  setByte nid 7 (if parity then nid 7 ||| 0x01 else nid 7 &&& 0xFE)

/-- What `createRxTxNID` and `createTxNID` make of their table. -/
def createTable (nac : UInt32) (table : UInt8 → Bytes) : UInt8 → Bytes :=
  entries.foldl (fun table e d => if d = e.1 then createEntry nac e.1 e.2 else table d) table

/-- `NID::createRxTxNID`. -/
def createRxTxNID (s : NID) (nac : UInt32) : NID := { s with rxTx := createTable nac s.rxTx }

/-- `NID::createTxNID`. -/
def createTxNID (s : NID) (nac : UInt32) : NID := { s with tx := createTable nac s.tx }

/-- `NID::NID`. -/
def new (nac : UInt32) : NID :=
  createRxTxNID { duid := 0, nac := nac, rxTx := fun _ _ => 0, tx := fun _ _ => 0, splitNac := false } nac

/-- The data unit IDs in the order in which `decode` tries them. -/
def decodeOrder : List UInt8 :=
  [P25_DUID_LDU1, P25_DUID_LDU2, P25_DUID_PDU, P25_DUID_TSDU, P25_DUID_HDU, P25_DUID_TDULC, P25_DUID_TDU]

/-- `NID::decode`: its result, and the object with the data unit ID it was given. -/
def decode (s : NID) (data : Bytes) : Bool × NID :=
  let nid := (P25Utils.decode data (fun _ => 0) 48 114).2
  match decodeOrder.find? fun duid =>
    P25Utils.compare nid (s.rxTx duid) P25_NID_LENGTH_BYTES < MAX_NID_ERRS with
  | some duid => (true, { s with duid := duid })
  | none => (false, s)

/-- The data unit IDs that `encode` has a case for. -/
def encodable : List UInt8 := [P25_DUID_HDU, P25_DUID_TDU, P25_DUID_LDU1, P25_DUID_PDU, P25_DUID_TSDU,
  P25_DUID_LDU2, P25_DUID_TDULC]

/-- `NID::encode`. -/
def encode (s : NID) (data : Bytes) (duid : UInt8) : Bytes :=
  if s.splitNac then
    if duid ∈ encodable then (P25Utils.encode (s.tx duid) data 48 114).2 else data
  else
    if duid ∈ encodable then (P25Utils.encode (s.rxTx duid) data 48 114).2 else data

/-- `NID::setTxNAC`. -/
def setTxNAC (s : NID) (nac : UInt32) : NID :=
  if nac = s.nac then s else createTxNID { s with splitNac := true } nac

end NID

end DvmHost

import DvmHost.Common.RingBuffer
import DvmHost.Common.Utils

/-!
# `Common.Network.BaseNetwork` — opcodes, and the queues of received messages

The opcodes of `src/common/network/BaseNetwork.h`, and `BaseNetwork::readDMR`, `readP25` and `readNXDN` of
`src/common/network/BaseNetwork.cpp`. Each of the three protocols has a ring buffer of octets, in which a message
stands behind one octet of its length.
-/

namespace DvmHost

/-- `NET_SUBFUNC_NOP`. -/
def NET_SUBFUNC_NOP : UInt8 := 0xFF

/-- `NET_FUNC_PROTOCOL`. -/
def NET_FUNC_PROTOCOL : UInt8 := 0x00

/-- `NET_PROTOCOL_SUBFUNC_DMR`. -/
def NET_PROTOCOL_SUBFUNC_DMR : UInt8 := 0x00

/-- `NET_PROTOCOL_SUBFUNC_P25`. -/
def NET_PROTOCOL_SUBFUNC_P25 : UInt8 := 0x01

/-- `NET_PROTOCOL_SUBFUNC_NXDN`. -/
def NET_PROTOCOL_SUBFUNC_NXDN : UInt8 := 0x02

/-- `NET_FUNC_MASTER`. -/
def NET_FUNC_MASTER : UInt8 := 0x01

/-- `NET_MASTER_SUBFUNC_WL_RID`. -/
def NET_MASTER_SUBFUNC_WL_RID : UInt8 := 0x00

/-- `NET_MASTER_SUBFUNC_BL_RID`. -/
def NET_MASTER_SUBFUNC_BL_RID : UInt8 := 0x01

/-- `NET_MASTER_SUBFUNC_ACTIVE_TGS`. -/
def NET_MASTER_SUBFUNC_ACTIVE_TGS : UInt8 := 0x02

/-- `NET_MASTER_SUBFUNC_DEACTIVE_TGS`. -/
def NET_MASTER_SUBFUNC_DEACTIVE_TGS : UInt8 := 0x03

/-- `NET_FUNC_RPTL`. -/
def NET_FUNC_RPTL : UInt8 := 0x60

/-- `NET_FUNC_RPTK`. -/
def NET_FUNC_RPTK : UInt8 := 0x61

/-- `NET_FUNC_RPTC`. -/
def NET_FUNC_RPTC : UInt8 := 0x62

/-- `NET_FUNC_RPT_CLOSING`. -/
def NET_FUNC_RPT_CLOSING : UInt8 := 0x70

/-- `NET_FUNC_PING`. -/
def NET_FUNC_PING : UInt8 := 0x74

/-- `NET_FUNC_PONG`. -/
def NET_FUNC_PONG : UInt8 := 0x75

/-- `NET_FUNC_ACK`. -/
def NET_FUNC_ACK : UInt8 := 0x7E

/-- `NET_FUNC_NAK`. -/
def NET_FUNC_NAK : UInt8 := 0x7F

/-- `NET_TRANSFER_SUBFUNC_ACTIVITY`. -/
def NET_TRANSFER_SUBFUNC_ACTIVITY : UInt8 := 0x01

/-- `NET_TRANSFER_SUBFUNC_DIAG`. -/
def NET_TRANSFER_SUBFUNC_DIAG : UInt8 := 0x02

/-- `NET_CONN_STATUS`. -/
inductive NetConnStatus where
  | waitingConnect
  | waitingLogin
  | waitingAuthorisation
  | waitingConfig
  | running
  | rptlReceived
  | challengeSent
  | mstRunning
  | invalid
deriving DecidableEq

/-- The part of `class BaseNetwork` that received messages are in. -/
structure BaseNetwork where
  m_status : NetConnStatus := .invalid
  m_rxDMRData : RingBuffer UInt8 4000 := .new 4000 (by decide)
  m_rxP25Data : RingBuffer UInt8 4000 := .new 4000 (by decide)
  m_rxNXDNData : RingBuffer UInt8 4000 := .new 4000 (by decide)

namespace BaseNetwork

/-- The three functions that read a message, on the ring buffer of their protocol. What `get` is asked for and has
    not got stays zero. -/
def readFrame (m_rxData : RingBuffer UInt8 4000) : Option (List UInt8) × RingBuffer UInt8 4000 :=
  if m_rxData.isEmpty then (none, m_rxData)
  else
    let (head, m_rxData) := m_rxData.get 1
    let length := (head.getD []).headD 0
    if length = 0 then (none, m_rxData)
    else
      let (frame, m_rxData) := m_rxData.get length.toNat
      (some (frame.getD (List.replicate length.toNat 0)), m_rxData)

/-- Whether the status lets messages be read. -/
def isRunning (n : BaseNetwork) : Bool := n.m_status = .running || n.m_status = .mstRunning

/-- `readDMR`. -/
def readDMR (n : BaseNetwork) : Option (List UInt8) × BaseNetwork :=
  if n.isRunning then
    let (frame, m_rxDMRData) := readFrame n.m_rxDMRData
    (frame, { n with m_rxDMRData })
  else (none, n)

/-- `readP25`. -/
def readP25 (n : BaseNetwork) : Option (List UInt8) × BaseNetwork :=
  if n.isRunning then
    let (frame, m_rxP25Data) := readFrame n.m_rxP25Data
    (frame, { n with m_rxP25Data })
  else (none, n)

/-- `readNXDN`. -/
def readNXDN (n : BaseNetwork) : Option (List UInt8) × BaseNetwork :=
  if n.isRunning then
    let (frame, m_rxNXDNData) := readFrame n.m_rxNXDNData
    (frame, { n with m_rxNXDNData })
  else (none, n)

end BaseNetwork

end DvmHost

/-!
# `Common.Defines` — the states of a repeater

`src/common/Defines.h`: what a mode does with its RF side and with the network.
-/

namespace DvmHost

/-- `enum RPT_RF_STATE`. -/
inductive RPT_RF_STATE where
  | RS_RF_LISTENING
  | RS_RF_LATE_ENTRY
  | RS_RF_AUDIO
  | RS_RF_DATA
  | RS_RF_REJECTED
  | RS_RF_INVALID
deriving DecidableEq

/-- `enum RPT_NET_STATE`. -/
inductive RPT_NET_STATE where
  | RS_NET_IDLE
  | RS_NET_AUDIO
  | RS_NET_DATA
deriving DecidableEq

end DvmHost

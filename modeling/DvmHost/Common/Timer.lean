/-!
# `Common.Timer` — the tick counter behind every timeout

`src/common/Timer.h` / `Timer.cpp`. All counters are `uint32_t`; the timeout is computed in 64 bits and cut
back to 32. A timer whose count is `0` is not running.
-/

namespace DvmHost

/-- `class Timer`. -/
structure Timer where
  ticksPerSec : UInt32
  timeout : UInt32
  timer : UInt32
  paused : Bool
deriving DecidableEq, Repr

namespace Timer

/-- `Timer()`. -/
instance : Inhabited Timer := ⟨⟨1000, 0, 0, false⟩⟩

/-- The tick count of `secs` and `msecs`, plus one: the 64-bit computation shared by the constructor and
    `setTimeout`. -/
def timeoutTicks (ticksPerSec secs msecs : UInt32) : UInt32 :=
  let temp : UInt64 := (secs.toUInt64 * 1000 + msecs.toUInt64) * ticksPerSec.toUInt64
  (temp / 1000 + 1).toUInt32

/-- `Timer(ticksPerSec, secs, msecs)`. -/
def new (ticksPerSec secs msecs : UInt32) : Timer :=
  { ticksPerSec
    timeout := if secs > 0 ∨ msecs > 0 then timeoutTicks ticksPerSec secs msecs else 0
    timer := 0
    paused := false }

/-- `start()`: the count restarts at `1`, unless there is no timeout. -/
def start (t : Timer) : Timer :=
  { t with timer := if t.timeout > 0 then 1 else t.timer, paused := false }

/-- `stop()`. -/
def stop (t : Timer) : Timer := { t with timer := 0, paused := false }

/-- `isRunning()`. -/
def isRunning (t : Timer) : Bool := t.timer > 0

/-- `hasExpired()`. -/
def hasExpired (t : Timer) : Bool :=
  if t.timeout = 0 ∨ t.timer = 0 then false else t.timer ≥ t.timeout

/-- `clock(ticks)`. -/
def clock (t : Timer) (ticks : UInt32) : Timer :=
  if t.paused then t
  else if t.timer > 0 ∧ t.timeout > 0 then { t with timer := t.timer + ticks }
  else t

end Timer

end DvmHost

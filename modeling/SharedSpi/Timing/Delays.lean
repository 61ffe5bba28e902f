import SharedSpi.Timing.Register
import SharedSpi.Timing.Ticks

/-!
# Chip select delays

A device asks for a delay before the first clock edge and one after the last.
The register is programmed incrementally: only a delay that differs from the
one in effect is computed again, and nothing changes unless every changed delay
fits.
-/

namespace SharedSpi

/-- Delays around the clock edges, in microseconds. -/
structure SelectDelays where
  /-- Before the first clock edge. -/
  first : UInt32
  /-- After the last clock edge. -/
  last : UInt32
  deriving DecidableEq, Repr

/-- The delays that a configured controller starts with. -/
def SelectDelays.zero : SelectDelays := ⟨0, 0⟩

/-- Why delays cannot be programmed. -/
inductive DelayError where
  /-- The clock of the controller is stopped. -/
  | stoppedClock
  /-- The first delay takes too many ticks. -/
  | firstTooLong
  /-- The last delay takes too many ticks. -/
  | lastTooLong
  deriving DecidableEq, Repr

namespace SelectDelays

/-- The tick count for a requested delay: a delay already in effect keeps the field as it is held. -/
def fieldTicks (current requested : UInt32) (tick : UInt64) (held : UInt8) : Option UInt8 :=
  if requested = current then some held else ticksOfMicros requested tick

/-- The register with the requested delays, when `current` is in effect and `timing` is held. -/
def retime (current requested : SelectDelays) (clock : UInt32) (timing : SelectTiming) :
    Except DelayError SelectTiming :=
  match nsPerTick clock with
  | none => .error .stoppedClock
  | some tick =>
      match fieldTicks current.first requested.first tick timing.pre with
      | none => .error .firstTooLong
      | some pre =>
          match fieldTicks current.last requested.last tick timing.post with
          | none => .error .lastTooLong
          | some post => .ok { timing with pre := pre, post := post }

end SelectDelays

end SharedSpi

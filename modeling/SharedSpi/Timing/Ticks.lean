/-!
# Delays in ticks of the clock

A delay in microseconds is programmed as a count of clock ticks. The length of
a tick is taken in whole nanoseconds, rounded to the nearest, and the count is
rounded down, but to one tick at least. The arithmetic is that of 64-bit words.
-/

namespace SharedSpi

/-- The largest tick count that is programmed. -/
def maxTicks : UInt64 := 255

/-- The length of a clock tick in nanoseconds: a second divided by the frequency, rounded to the
nearest and a half up, but one at least. A stopped clock has none. -/
def nsPerTick (hz : UInt32) : Option UInt64 :=
  if hz = 0 then none
  else some (max ((1000000000 + hz.toUInt64 / 2) / hz.toUInt64) 1)

/-- The tick count of a delay, given the length of a tick. No delay takes one tick. A delay of more
ticks than can be programmed has no count. -/
def ticksOfMicros (us : UInt32) (tick : UInt64) : Option UInt8 :=
  if us = 0 then some 1
  else
    let ticks := max (us.toUInt64 * 1000 / max tick 1) 1
    if ticks > maxTicks then none else some ticks.toUInt8

theorem ticksOfMicros_zero (tick : UInt64) : ticksOfMicros 0 tick = some 1 := rfl

end SharedSpi

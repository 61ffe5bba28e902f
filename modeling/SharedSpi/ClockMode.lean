/-!
# Clock modes

A clock mode says at which level the clock rests and on which of its edges data
is sampled. Modes are numbered 0 to 3; the controllers number the two middle
modes the other way round.
-/

namespace SharedSpi

/-- The level of the clock between transfers. -/
inductive Polarity where
  | idleLow
  | idleHigh
  deriving DecidableEq, Repr

/-- The clock edge on which data is sampled. -/
inductive Phase where
  | firstEdge
  | secondEdge
  deriving DecidableEq, Repr

/-- Clock polarity and phase in the usual numbering. -/
inductive ClockMode where
  | mode0
  | mode1
  | mode2
  | mode3
  deriving DecidableEq, Repr

/-- Clock polarity and phase as the controllers number them. -/
inductive HardwareMode where
  | mode0
  | mode1
  | mode2
  | mode3
  deriving DecidableEq, Repr

namespace ClockMode

/-- The number of a mode. -/
def number : ClockMode → Nat
  | mode0 => 0
  | mode1 => 1
  | mode2 => 2
  | mode3 => 3

/-- The mode of a number, none above 3. -/
def ofNumber? : Nat → Option ClockMode
  | 0 => some mode0
  | 1 => some mode1
  | 2 => some mode2
  | 3 => some mode3
  | _ => none

/-- The mode of a polarity and a phase: polarity is the high bit of the number. -/
def ofPolarityPhase : Polarity → Phase → ClockMode
  | .idleLow, .firstEdge => mode0
  | .idleLow, .secondEdge => mode1
  | .idleHigh, .firstEdge => mode2
  | .idleHigh, .secondEdge => mode3

/-- The mode as the controllers number it: 1 and 2 change places. -/
def hardware : ClockMode → HardwareMode
  | mode0 => .mode0
  | mode1 => .mode2
  | mode2 => .mode1
  | mode3 => .mode3

end ClockMode

/-- The number of a mode in the controllers' numbering. -/
def HardwareMode.number : HardwareMode → Nat
  | mode0 => 0
  | mode1 => 1
  | mode2 => 2
  | mode3 => 3

end SharedSpi

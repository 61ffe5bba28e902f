/-!
# Words on the wire

How many data lines carry a word, in which order its bits go and how many there
are. Devices here always use the standard width and words of eight bits.
-/

namespace SharedSpi

/-- The data lines in use. -/
inductive Width where
  /-- One line shared by both directions. -/
  | threeWire
  /-- One line for each direction. -/
  | standard
  | dual
  | quad
  deriving DecidableEq, Repr

/-- The number of a width. -/
def Width.number : Width → Nat
  | threeWire => 0
  | standard => 1
  | dual => 2
  | quad => 3

/-- Which bit of a word goes first. -/
inductive BitOrder where
  | msbFirst
  | lsbFirst
  deriving DecidableEq, Repr, Inhabited

/-- The size of a word in bits. -/
def wordBits : UInt8 := 8

end SharedSpi

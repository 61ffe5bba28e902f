/-!
# Serial line parameters

The line that a sensor server talks over.
-/

namespace SharedSpi.Iio

/-- Data bits of a character. -/
inductive DataBits where
  | five
  | six
  | seven
  | eight
  deriving DecidableEq, Repr

namespace DataBits

/-- The number of bits. -/
def count : DataBits → Nat
  | five => 5
  | six => 6
  | seven => 7
  | eight => 8

/-- The choice for a number of bits, if it can be chosen. -/
def ofCount? : Nat → Option DataBits
  | 5 => some five
  | 6 => some six
  | 7 => some seven
  | 8 => some eight
  | _ => none

end DataBits

/-- Stop bits of a character. -/
inductive StopBits where
  | one
  | two
  deriving DecidableEq, Repr

/-- The number of bits. -/
def StopBits.count : StopBits → Nat
  | one => 1
  | two => 2

/-- The choice for a number of bits, if it can be chosen. -/
def StopBits.ofCount? : Nat → Option StopBits
  | 1 => some one
  | 2 => some two
  | _ => none

/-- What a parity bit adds up to. -/
inductive Parity where
  | odd
  | even
  deriving DecidableEq, Repr

/-- Parameters of a serial line. -/
structure UartParams where
  device : UInt8
  /-- Bits per second. -/
  baud : UInt32
  dataBits : DataBits
  stopBits : StopBits
  /-- There need not be a parity bit. -/
  parity : Option Parity
  deriving DecidableEq, Repr

end SharedSpi.Iio

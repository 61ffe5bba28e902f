/-!
# Pin multiplexing

Which pins a controller takes over when it is initialized. Of the select lines
only the device's own is enabled, so that the other devices on the bus keep
theirs free.
-/

namespace SharedSpi

/-- The supply of the bus pins. -/
inductive Supply where
  | vddio
  | vddioh
  deriving DecidableEq, Repr, Inhabited

/-- The number of select lines of a controller. -/
def selectLines : Nat := 3

/-- The pins that a controller uses. -/
structure PinMux where
  clock : Bool
  select0 : Bool
  select1 : Bool
  select2 : Bool
  receive : Bool
  transmit : Bool
  data2 : Bool
  data3 : Bool
  highSupply : Bool
  deriving DecidableEq, Repr

namespace PinMux

/-- Four wires with the select line `select`; a number above the last line enables none. -/
def fourWire (select : UInt8) (supply : Supply) : PinMux where
  clock := true
  select0 := select == 0
  select1 := select == 1
  select2 := select == 2
  receive := true
  transmit := true
  data2 := false
  data3 := false
  highSupply := supply == .vddioh

/-- How many select lines are enabled. -/
def selectCount (pins : PinMux) : Nat :=
  [pins.select0, pins.select1, pins.select2].count true

end PinMux

end SharedSpi

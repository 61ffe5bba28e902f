/-!
# Status codes, faults and errors

A controller call ends with a signed status. Zero is success and every other
status is a fault. Two faults have a meaning of their own, a parameter out of
range and a state that does not allow the call; all others keep their status.
A device reports its own errors, into which faults are turned.
-/

namespace SharedSpi

/-- Why a controller call failed. -/
inductive Fault where
  /-- A parameter was out of range. -/
  | badParameter
  /-- The controller is in a state that does not allow the call. -/
  | badState
  /-- Any other status. -/
  | other (status : Int32)
  deriving DecidableEq, Repr

namespace Fault

/-- The status of a call that succeeded. -/
def successStatus : Int32 := 0

/-- The status of a parameter out of range. -/
def badParameterStatus : Int32 := -3

/-- The status of a state that does not allow the call. -/
def badStateStatus : Int32 := -7

/-- The fault that a status stands for, none for success. -/
def ofStatus? (status : Int32) : Option Fault :=
  if status = successStatus then none
  else if status = badParameterStatus then some badParameter
  else if status = badStateStatus then some badState
  else some (other status)

/-- The status that a fault stands for. -/
def status : Fault → Int32
  | badParameter => badParameterStatus
  | badState => badStateStatus
  | other status => status

theorem ofStatus?_success : ofStatus? successStatus = none := rfl

/-- No status other than zero is taken for success, and none is altered. -/
theorem status_of_ofStatus? {status : Int32} {fault : Fault}
    (found : ofStatus? status = some fault) : fault.status = status := by
  unfold ofStatus? at found
  split at found
  · cases found
  · split at found
    · cases found; simp_all [Fault.status]
    · split at found
      · cases found; simp_all [Fault.status]
      · cases found; rfl

end Fault

/-- Why a call on a device failed. -/
inductive SpiError where
  /-- The caller's input, or a configuration the controller refuses. -/
  | invalidArgument
  /-- A descriptor could not be allocated. -/
  | noMemory
  /-- The controller's state did not allow a transaction. -/
  | busy
  /-- A transaction ended with a status that has no meaning of its own. -/
  | vendor (status : Int32)
  deriving DecidableEq, Repr

/-- The text of an error. -/
def SpiError.message : SpiError → String
  | invalidArgument => "invalid argument"
  | noMemory => "out of memory"
  | busy => "peripheral busy"
  | vendor status => "vendor error code: " ++ toString status.toInt

/-- The error that a failed transaction reports. -/
def Fault.toError : Fault → SpiError
  | badParameter => .invalidArgument
  | badState => .busy
  | other status => .vendor status

end SharedSpi

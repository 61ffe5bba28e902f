import SharedSpi.ClockMode
import SharedSpi.Controller
import SharedSpi.PinMux
import SharedSpi.Request
import SharedSpi.Status
import SharedSpi.Timing.Register
import SharedSpi.Timing.Wait
import SharedSpi.WordFormat

/-!
# Boards

A board is what devices run on: the two controllers with their timing
registers, and a busy wait. It is given by its state and by what each call does
to the state. Reading the clock or the timing register changes nothing.
-/

namespace SharedSpi

/-- How a controller is initialized. -/
structure ControllerConfig where
  master : Bool
  quad : Bool
  /-- The number of select lines in use. -/
  slaves : UInt32
  /-- One bit for each select line, set if the line is active high. -/
  polarity : UInt32
  /-- The frequency of the bus clock in hertz. -/
  speed : UInt32
  pins : PinMux
  deriving DecidableEq, Repr

/-- A call that takes part in configuring a controller. -/
inductive SetupCall where
  | init (config : ControllerConfig)
  | setMode (mode : HardwareMode)
  | setWidth (width : Width)
  | setDataSize (bits : UInt8)
  deriving DecidableEq, Repr

/-- The calls that a board answers. -/
class Board (σ : Type) where
  /-- Makes a configuring call, and tells the fault if it failed. -/
  setup : σ → Controller → SetupCall → σ × Option Fault
  /-- The clock of a controller in hertz, 0 if it is stopped. -/
  clock : σ → Controller → UInt32
  /-- The select timing register of a controller. -/
  timing : σ → Controller → SelectTiming
  /-- Writes the select timing register of a controller. -/
  setTiming : σ → Controller → SelectTiming → σ
  /-- Disables a controller. -/
  shutdown : σ → Controller → σ
  /-- Runs a transaction to its end, and gives the bytes stored in the receive buffer. -/
  transact : σ → Controller → Request → σ × Except Fault Bytes
  /-- Waits for a time in nanoseconds. -/
  wait : σ → UInt32 → σ

namespace Board

variable {σ : Type} [Board σ]

/-- Makes configuring calls up to the first that fails, and tells whether all succeeded. -/
def setupAll (board : σ) (controller : Controller) : List SetupCall → σ × Bool
  | [] => (board, true)
  | call :: rest =>
      match setup board controller call with
      | (after, none) => setupAll after controller rest
      | (after, some _) => (after, false)

/-- Makes waits one after the other. -/
def waitAll (board : σ) (times : List UInt32) : σ :=
  times.foldl wait board

/-- Waits for a time in microseconds. -/
def waitMicros (board : σ) (us : UInt32) : σ :=
  waitAll board (waitSlices us)

end Board

end SharedSpi

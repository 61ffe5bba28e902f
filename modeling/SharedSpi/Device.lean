import SharedSpi.Board
import SharedSpi.SelectTable

/-!
# Devices

A device is a chip select of a controller together with the settings the
controller has to have when that chip select is driven. Devices share a bus:
the board and the select table. A link is a device on its bus, and an outcome
is what a call on a link leaves behind.
-/

namespace SharedSpi

/-- Settings beyond those that every platform has. -/
structure Platform where
  /-- The number of select lines in use. -/
  slaves : UInt32
  /-- One bit for each select line, set if the line is active high. -/
  polarity : UInt32
  /-- The supply of the bus pins. -/
  supply : Supply
  deriving DecidableEq, Repr

/-- What a device is opened with. -/
structure Params where
  /-- The index of the controller. -/
  controller : Nat
  /-- The frequency of the bus clock in hertz. -/
  speed : UInt32
  select : UInt8
  mode : ClockMode
  order : BitOrder
  /-- A device cannot be opened without these. -/
  platform : Option Platform
  deriving DecidableEq, Repr

/-- A chip select of a controller and its settings. -/
structure Device where
  controller : Controller
  speed : UInt32
  select : UInt8
  mode : ClockMode
  order : BitOrder
  platform : Platform
  /-- The delays that the device last programmed. -/
  delays : SelectDelays
  deriving DecidableEq, Repr

namespace Device

/-- The device that parameters describe, if they are complete and name a controller. -/
def ofParams? (params : Params) : Option Device :=
  match params.platform, Controller.ofIndex? params.controller with
  | some platform, some controller =>
      some {
        controller := controller
        speed := params.speed
        select := params.select
        mode := params.mode
        order := params.order
        platform := platform
        delays := .zero }
  | _, _ => none

/-- How the controller is initialized for a device. -/
def config (device : Device) : ControllerConfig where
  master := true
  quad := false
  slaves := device.platform.slaves
  polarity := device.platform.polarity
  speed := device.speed
  pins := .fourWire device.select device.platform.supply

/-- The calls that configure the controller for a device, in their order. -/
def setupCalls (device : Device) : List SetupCall :=
  [.init device.config, .setMode device.mode.hardware, .setWidth .standard,
    .setDataSize wordBits]

end Device

/-- What the devices of a board share. -/
structure Bus (σ : Type) where
  board : σ
  table : SelectTable

/-- A device on its bus. -/
structure Link (σ : Type) where
  bus : Bus σ
  device : Device

namespace Link

variable {σ : Type}

/-- The board of a link. -/
def board (link : Link σ) : σ := link.bus.board

/-- Replaces the board of a link. -/
def withBoard (link : Link σ) (board : σ) : Link σ :=
  { link with bus := { link.bus with board := board } }

@[simp] theorem board_withBoard (link : Link σ) (board : σ) : (link.withBoard board).board = board :=
  rfl

@[simp] theorem device_withBoard (link : Link σ) (board : σ) :
    (link.withBoard board).device = link.device := rfl

@[simp] theorem table_withBoard (link : Link σ) (board : σ) :
    (link.withBoard board).bus.table = link.bus.table := rfl

end Link

/-- What a call leaves behind: the link, the caller's data as it is now, and why the call failed if
it did. -/
structure Outcome (σ α : Type) where
  link : Link σ
  data : α
  failure : Option SpiError

/-- Looks at the data of an outcome in another way. -/
def Outcome.map {σ α β : Type} (view : α → β) (outcome : Outcome σ α) : Outcome σ β where
  link := outcome.link
  data := view outcome.data
  failure := outcome.failure

end SharedSpi

import SharedSpi.Device

/-!
# Configuring a controller

A controller is configured for a device by four calls and a write of the timing
register. If a call fails, the controller is shut down and nothing else
changes. If all succeed, setup and hold times are one tick, the device
remembers delays of zero and the table remembers its chip select. Before a
transfer a device is selected: its controller is configured only if the table
holds another chip select.
-/

namespace SharedSpi

variable {σ : Type} [Board σ]

namespace Link

/-- The link once every call succeeded and left `board`: setup and hold times become one tick, the
device remembers no delays and the table its chip select. -/
def configured (link : Link σ) (board : σ) : Link σ where
  bus := {
    board := Board.setTiming board link.device.controller
      (Board.timing board link.device.controller).shortest
    table := link.bus.table.record link.device.controller link.device.select }
  device := { link.device with delays := .zero }

/-- Configures the controller for the device. Any fault is an invalid argument. -/
def configure (link : Link σ) : Outcome σ Unit :=
  match Board.setupAll link.board link.device.controller link.device.setupCalls with
  | (board, true) => ⟨link.configured board, (), none⟩
  | (board, false) =>
      ⟨link.withBoard (Board.shutdown board link.device.controller), (), some .invalidArgument⟩

/-- Configures the controller if it was configured for another chip select last. -/
def select (link : Link σ) : Outcome σ Unit :=
  if link.bus.table.mustConfigure link.device.controller.index link.device.select then
    link.configure
  else ⟨link, (), none⟩

/-- Drives another chip select. The controller is configured at the next transfer. -/
def setSelect (link : Link σ) (select : UInt8) : Link σ :=
  { link with device := { link.device with select := select } }

/-- Gives the device up and shuts its controller down. -/
def close (link : Link σ) : Bus σ :=
  { link.bus with board := Board.shutdown link.board link.device.controller }

end Link

/-- What opening a device leaves behind: the bus, and the device or why there is none. -/
structure Opened (σ : Type) where
  bus : Bus σ
  device : Except SpiError Device

/-- Opens a device and configures its controller. Incomplete parameters are refused at once. -/
def Bus.openDevice (bus : Bus σ) (params : Params) : Opened σ :=
  match Device.ofParams? params with
  | none => ⟨bus, .error .invalidArgument⟩
  | some device =>
      let outcome := Link.configure ⟨bus, device⟩
      match outcome.failure with
      | none => ⟨outcome.link.bus, .ok outcome.link.device⟩
      | some error => ⟨outcome.link.bus, .error error⟩

end SharedSpi

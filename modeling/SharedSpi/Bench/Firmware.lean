import SharedSpi.Bench.Basic

/-!
# The firmware library

A bench that stands for the vendor's library of C functions. A controller is
named by the address of its registers, arguments are C integers, and the clock
of a controller is a signed number, negative for an error. The log holds the
calls of the functions; the timing registers are accessed directly, which
leaves no trace.
-/

namespace SharedSpi

/-- The address of the registers of a controller. -/
def Controller.address : Controller → UInt32
  | spi0 => 0x400be000
  | spi1 => 0x40046000

/-- A truth value as a C integer. -/
def flag (value : Bool) : Int32 :=
  if value then 1 else 0

/-- The record that describes a transaction to the library. -/
structure TransferRecord where
  select : Int32
  release : Int32
  /-- The bytes to send, if there is a send buffer. -/
  send : Option Bytes
  /-- The number of bytes to receive, if there is a receive buffer. -/
  receive : Option UInt32
  /-- Whether bytes are sent from and received into one buffer. -/
  shared : Bool
  /-- The counter of bytes sent so far. -/
  sendCounter : UInt32
  /-- The counter of bytes received so far. -/
  receiveCounter : UInt32
  /-- Whether a function is to be called at the end. -/
  callback : Bool
  deriving DecidableEq, Repr

/-- The record for a request. Lengths are narrowed to 32 bits, counters start at zero and there is no
function to call. -/
def TransferRecord.ofRequest (request : Request) : TransferRecord where
  select := Int32.ofNat request.select.toNat
  release := flag request.release
  send := request.buffers.sendSide?.map fun data =>
    data.take (UInt32.ofNat request.sendLength).toNat
  receive := request.buffers.receiveSide?.map fun _ => UInt32.ofNat request.receiveLength
  shared := request.buffers.isInPlace && decide (0 < UInt32.ofNat request.sendLength)
  sendCounter := 0
  receiveCounter := 0
  callback := false

/-- The number of bytes that a transaction stores if it succeeds. -/
def TransferRecord.storedLength (record : TransferRecord) : Nat :=
  (record.receive.getD 0).toNat

/-- A call of a library function, or of the busy wait. -/
inductive FirmwareCall where
  | init (spi : UInt32) (master quad slaves : Int32) (polarity speed : UInt32) (pins : PinMux)
  | setMode (spi : UInt32) (mode : Int32)
  | setWidth (spi : UInt32) (width : Int32)
  | setDataSize (spi : UInt32) (bits : Int32)
  | shutdown (spi : UInt32)
  | transaction (spi : UInt32) (record : TransferRecord)
  | wait (ns : UInt32)
  deriving DecidableEq, Repr

/-- The state of the library and the registers. -/
structure Firmware where
  clocks : Bank Int32
  registers : Bank UInt32
  responses : Responses
  log : List FirmwareCall

namespace Firmware

/-- A library that was not used yet. -/
def initial : Firmware where
  clocks := .both (Int32.ofNat benchClock)
  registers := .both benchTiming.bits
  responses := .initial
  log := []

/-- Adds a call at the end of the log. -/
def record (firmware : Firmware) (call : FirmwareCall) : Firmware :=
  { firmware with log := firmware.log ++ [call] }

/-- Logs the call of a function and takes its status. -/
def invoke (firmware : Firmware) (kind : CallKind) (call : FirmwareCall) : Firmware × Int32 :=
  ({ firmware.record call with responses := firmware.responses.afterCall kind },
    firmware.responses.status kind)

/-- Makes a configuring call. -/
def setup (firmware : Firmware) (controller : Controller) : SetupCall → Firmware × Int32
  | .init config =>
      firmware.invoke .init (.init controller.address (flag config.master) (flag config.quad)
        config.slaves.toInt32 config.polarity config.speed config.pins)
  | .setMode mode =>
      firmware.invoke .setMode (.setMode controller.address (Int32.ofNat mode.number))
  | .setWidth width =>
      firmware.invoke .setWidth (.setWidth controller.address (Int32.ofNat width.number))
  | .setDataSize bits =>
      firmware.invoke .setDataSize (.setDataSize controller.address (Int32.ofNat bits.toNat))

/-- The clock of a controller in hertz. An error reads as a stopped clock. -/
def clock (firmware : Firmware) (controller : Controller) : UInt32 :=
  UInt32.ofNat (firmware.clocks.get controller).toInt.toNat

/-- Runs a transaction. -/
def transact (firmware : Firmware) (controller : Controller) (request : Request) :
    Firmware × Except Fault Bytes :=
  let record := TransferRecord.ofRequest request
  let called := firmware.invoke .transaction (.transaction controller.address record)
  match Fault.ofStatus? called.2 with
  | some fault => (called.1, .error fault)
  | none =>
      ({ called.1 with responses := called.1.responses.afterBytes record.storedLength },
        .ok (called.1.responses.upcoming record.storedLength))

/-- Makes adjustments. -/
def adjust (firmware : Firmware) (settings : BenchSettings) : Firmware :=
  { firmware with
    clocks := firmware.clocks.overwrite (settings.clocks.map Int32.ofInt)
    registers := firmware.registers.overwrite settings.timing
    responses := firmware.responses.adjust settings }

instance : Bench Firmware FirmwareCall where
  setup firmware controller call :=
    let called := firmware.setup controller call
    (called.1, Fault.ofStatus? called.2)
  clock := clock
  timing firmware controller := .ofBits (firmware.registers.get controller)
  setTiming firmware controller timing :=
    { firmware with registers := firmware.registers.set controller timing.bits }
  shutdown firmware controller := (firmware.invoke .shutdown (.shutdown controller.address)).1
  transact := transact
  wait firmware ns := firmware.record (.wait ns)
  adjust := adjust
  log := Firmware.log

end Firmware

end SharedSpi

import SharedSpi.Bench.Basic
import SharedSpi.Iio.Service
import SharedSpi.Iio.Uart
import SharedSpi.Transfer

/-!
# A service on a bench

The sensor opens a device on a bus of its own and may exchange a probe with it.
The server polls the first device of its table, one exchange for each poll,
until an exchange fails or no poll is left. The stage is the bus with a log in
which the steps of the service stand among the events of the bench.
-/

namespace SharedSpi.Iio

/-- Why the sensor or the server of the demonstration fails. -/
inductive Cause where
  | code (value : Int)
  | spi (error : SpiError)
  deriving DecidableEq, Repr

/-- The text of a cause. -/
def Cause.message : Cause → String
  | code value => toString value
  | spi error => error.message

/-- What the sensor and the server do. -/
structure Script where
  /-- The sensor fails before it opens a device. -/
  sensorError : Option Int
  /-- The sensor exchanges these bytes once its device is open. -/
  probe : Option Bytes
  /-- The server fails to start. -/
  serverError : Option Int
  /-- The bytes of each poll. -/
  polls : List Bytes
  /-- How the server fails when no poll is left. -/
  runError : Int

/-- The steps of a service and the events `ε` of the bench. -/
inductive ServiceEvent (ε : Type) where
  | bench (event : ε)
  | sensorStart (params : Params)
  | probed (bytes : Bytes)
  /-- The table shows names and buffer sizes. -/
  | serverStart (devices : List (String × Option Nat)) (line : UartParams)
  | serverRun
  | polled (bytes : Bytes)

/-- A bus and the log of what happened on it. -/
structure Stage (σ ε : Type) where
  bus : Bus σ
  log : List (ServiceEvent ε)

namespace Stage

variable {σ ε : Type}

/-- A bus on which nothing happened yet. -/
def initial (board : σ) : Stage σ ε where
  bus := ⟨board, .initial⟩
  log := []

/-- Adds a step of the service to the log. -/
def note (stage : Stage σ ε) (event : ServiceEvent ε) : Stage σ ε :=
  { stage with log := stage.log ++ [event] }

variable [Bench σ ε]

/-- Goes on with another state of the bus, and logs what the bench was asked meanwhile. -/
def goOn (stage : Stage σ ε) (bus : Bus σ) : Stage σ ε where
  bus := bus
  log := stage.log ++
    ((Bench.log bus.board).drop (Bench.log stage.bus.board).length).map .bench

/-- Exchanges bytes with a device and logs what came back. -/
def exchange (stage : Stage σ ε) (device : Device) (bytes : Bytes)
    (event : Bytes → ServiceEvent ε) : Stage σ ε × Except SpiError Device :=
  let outcome := Link.roundTrip ⟨stage.bus, device⟩ bytes
  let after := stage.goOn outcome.link.bus
  match outcome.failure with
  | some error => (after, .error error)
  | none => (after.note (event outcome.data), .ok outcome.link.device)

/-- Opens a device. -/
def openDevice (stage : Stage σ ε) (params : Params) : Stage σ ε × Except SpiError Device :=
  let opened := stage.bus.openDevice params
  (stage.goOn opened.bus, opened.device)

/-- Polls a device until a poll fails. -/
def pollAll (stage : Stage σ ε) (device : Device) : List Bytes → Stage σ ε × Option SpiError
  | [] => (stage, none)
  | bytes :: rest =>
      match stage.exchange device bytes .polled with
      | (after, .error error) => (after, some error)
      | (after, .ok next) => after.pollAll next rest

end Stage

namespace Script

variable {σ ε : Type} [Bench σ ε]

/-- The sensor of the demonstration. -/
def sensorDriver (script : Script) : SensorDriver (Stage σ ε) Params Device Cause where
  start stage params :=
    let noted := stage.note (.sensorStart params)
    match script.sensorError with
    | some value => (noted, .error (.code value))
    | none =>
        match noted.openDevice params with
        | (after, .error error) => (after, .error (.spi error))
        | (after, .ok device) =>
            match script.probe with
            | none => (after, .ok device)
            | some bytes =>
                match after.exchange device bytes .probed with
                | (probed, .error error) => (probed, .error (.spi error))
                | (probed, .ok next) => (probed, .ok next)

/-- The server of the demonstration. It keeps its table. -/
def server (script : Script) :
    Server (Stage σ ε) Device UartParams (List (ServedDevice Device)) Cause where
  start stage params :=
    let noted := stage.note (.serverStart
      (params.devices.map fun device => (device.name, device.buffer)) params.line)
    match script.serverError with
    | some value => (noted, .error (.code value))
    | none => (noted, .ok params.devices)
  run stage devices :=
    let noted := stage.note .serverRun
    match devices with
    | [] => (noted, .code script.runError)
    | first :: _ =>
        match noted.pollAll first.sensor script.polls with
        | (after, some error) => (after, .spi error)
        | (after, none) => (after, .code script.runError)

/-- Runs the service of the demonstration on a board. -/
def serveOn (script : Script) (board : σ) (params : Params) (line : UartParams) :
    Stage σ ε × ServiceFailure Cause Cause :=
  serve script.sensorDriver script.server (.initial board) params line

end Script

end SharedSpi.Iio

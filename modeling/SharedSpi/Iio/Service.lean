/-!
# Serving a sensor

A service brings one sensor up, registers it with a server and lets the server
run. It ends only by a failure. Sensor and server are given by what they do to
the state of the world.
-/

namespace SharedSpi.Iio

/-- How a sensor is brought up from parameters `π`: it becomes a `δ` or fails with an `ε`. -/
structure SensorDriver (ω π δ ε : Type) where
  start : ω → π → ω × Except ε δ

/-- A sensor in the table of a server. -/
structure ServedDevice (δ : Type) where
  name : String
  sensor : δ
  /-- The size in bytes of the buffer for samples, if the sensor is read in bursts. -/
  buffer : Option Nat

/-- What a server is started with. -/
structure ServerParams (δ υ : Type) where
  devices : List (ServedDevice δ)
  line : υ

/-- A server of sensors `δ` over a line `υ`: it becomes an `α` and runs until it fails with an `ε`. -/
structure Server (ω δ υ α ε : Type) where
  start : ω → ServerParams δ υ → ω × Except ε α
  run : ω → α → ω × ε

/-- Why a service ended. -/
inductive ServiceFailure (ε φ : Type) where
  /-- The sensor could not be brought up. -/
  | sensor (cause : ε)
  /-- The server could not be started, or stopped. -/
  | server (cause : φ)
  deriving DecidableEq, Repr

/-- The text of a failure, given the texts of the causes. -/
def ServiceFailure.message {ε φ : Type} (sensorText : ε → String) (serverText : φ → String) :
    ServiceFailure ε φ → String
  | sensor cause => "sensor initialization failed: " ++ sensorText cause
  | server cause => "IIO server error: " ++ serverText cause

/-- The name that the sensor is served under. -/
def servedName : String := "adis16505"

/-- The size in bytes of the sample buffer: 400 samples of 13 channels of 4 bytes. -/
def sampleBufferSize : Nat := 400 * 13 * 4

/-- The table of a server with one sensor and the whole sample buffer. -/
def deviceTable {δ : Type} (sensor : δ) : List (ServedDevice δ) :=
  [{ name := servedName, sensor := sensor, buffer := some sampleBufferSize }]

/-- Brings the sensor up, starts the server and runs it until it fails. -/
def serve {ω π δ υ α ε φ : Type} (driver : SensorDriver ω π δ ε) (server : Server ω δ υ α φ)
    (world : ω) (params : π) (line : υ) : ω × ServiceFailure ε φ :=
  match driver.start world params with
  | (world, .error cause) => (world, .sensor cause)
  | (world, .ok sensor) =>
      match server.start world { devices := deviceTable sensor, line := line } with
      | (world, .error cause) => (world, .server cause)
      | (world, .ok running) =>
          let ended := server.run world running
          (ended.1, .server ended.2)

end SharedSpi.Iio

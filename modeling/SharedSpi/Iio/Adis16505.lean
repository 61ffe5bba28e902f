import SharedSpi.Device
import SharedSpi.Iio.Uart

/-!
# The ADIS16505 board

How the inertial sensor and its server are connected.
-/

namespace SharedSpi.Iio.Adis16505

/-- The sensor's bus: controller 1, chip select 1, 1 MHz, mode 3, pins on the high supply. -/
def busParams : Params where
  controller := 1
  speed := 1000000
  select := 1
  mode := .mode3
  order := .msbFirst
  platform := some {
    slaves := 1
    polarity := 0
    supply := .vddioh }

/-- The server's line: 115200 baud, eight data bits, one stop bit, no parity. -/
def lineParams : UartParams where
  device := 0
  baud := 115200
  dataBits := .eight
  stopBits := .one
  parity := none

end SharedSpi.Iio.Adis16505

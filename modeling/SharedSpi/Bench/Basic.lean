import SharedSpi.Bench.Responses
import SharedSpi.Board

/-!
# Benches

A bench is a board for trying devices out. What it answers can be adjusted at
any time, and it keeps a log of what was asked of it.
-/

namespace SharedSpi

/-- Adjustments of a bench. Lists shorter than the number of controllers set the first ones only. -/
structure BenchSettings where
  /-- The clocks of the controllers in hertz; a negative clock stands for an error. -/
  clocks : List Int
  /-- The select timing registers. -/
  timing : List UInt32
  /-- Statuses to add at the ends of the queues. -/
  statuses : CallKind → List Int32
  /-- The pattern of a new received stream. -/
  stream : Option Bytes

/-- The script with adjustments made. -/
def Responses.adjust (responses : Responses) (settings : BenchSettings) : Responses :=
  let queued := responses.enqueue settings.statuses
  match settings.stream with
  | none => queued
  | some pattern => queued.restart pattern

/-- A board with a script and a log of events of type `ε`. -/
class Bench (σ : Type) (ε : outParam Type) extends Board σ where
  /-- Makes adjustments. -/
  adjust : σ → BenchSettings → σ
  /-- Everything that was asked so far, in order. -/
  log : σ → List ε

/-- The clock of a bench that was not adjusted, in hertz. -/
def benchClock : Nat := 50000000

/-- The select timing of a bench that was not adjusted. -/
def benchTiming : SelectTiming where
  pre := 7
  post := 7
  inactive := 4
  reserved := 0

end SharedSpi

import SharedSpi.Bench.Basic

/-!
# The recorder

A bench that logs the calls of the board itself, with the statuses that they
end with. Reading the clock or the timing register is not logged. A transaction
is logged with the buffers as they are sent; if it succeeds, the next bytes of
the stream are stored.
-/

namespace SharedSpi

/-- A call on a board. -/
inductive BoardCall where
  | setup (controller : Controller) (call : SetupCall)
  | setTiming (controller : Controller) (timing : SelectTiming)
  | shutdown (controller : Controller)
  | transaction (controller : Controller) (request : Request)
  | wait (ns : UInt32)
  deriving DecidableEq, Repr

/-- A call and the status that it ended with, if calls of its kind end with one. -/
structure BoardEvent where
  call : BoardCall
  status : Option Int32
  deriving DecidableEq, Repr

/-- The kind of a configuring call. -/
def SetupCall.kind : SetupCall → CallKind
  | init _ => .init
  | setMode _ => .setMode
  | setWidth _ => .setWidth
  | setDataSize _ => .setDataSize

/-- A bench that logs the calls of the board. -/
structure Recorder where
  clocks : Bank UInt32
  timing : Bank SelectTiming
  responses : Responses
  log : List BoardEvent

namespace Recorder

/-- A recorder that was not used yet. -/
def initial : Recorder where
  clocks := .both (UInt32.ofNat benchClock)
  timing := .both benchTiming
  responses := .initial
  log := []

/-- Adds a call at the end of the log. -/
def record (recorder : Recorder) (call : BoardCall) (status : Option Int32) : Recorder :=
  { recorder with log := recorder.log ++ [⟨call, status⟩] }

/-- Answers a call with the next status of its kind, and logs both. -/
def answer (recorder : Recorder) (kind : CallKind) (call : BoardCall) : Recorder :=
  { recorder.record call (some (recorder.responses.status kind)) with
    responses := recorder.responses.afterCall kind }

/-- The fault that the next call of a kind ends with. -/
def fault? (recorder : Recorder) (kind : CallKind) : Option Fault :=
  Fault.ofStatus? (recorder.responses.status kind)

/-- Uses up the bytes that a transaction stores. -/
def received (recorder : Recorder) (count : Nat) : Recorder :=
  { recorder with responses := recorder.responses.afterBytes count }

/-- Runs a transaction. -/
def transact (recorder : Recorder) (controller : Controller) (request : Request) :
    Recorder × Except Fault Bytes :=
  let answered := recorder.answer .transaction (.transaction controller request)
  match recorder.fault? .transaction with
  | some fault => (answered, .error fault)
  | none =>
      (answered.received request.receiveLength,
        .ok (answered.responses.upcoming request.receiveLength))

/-- Makes adjustments. -/
def adjust (recorder : Recorder) (settings : BenchSettings) : Recorder :=
  { recorder with
    clocks := recorder.clocks.overwrite (settings.clocks.map fun hz => UInt32.ofNat hz.toNat)
    timing := recorder.timing.overwrite (settings.timing.map .ofBits)
    responses := recorder.responses.adjust settings }

instance : Bench Recorder BoardEvent where
  setup recorder controller call :=
    (recorder.answer call.kind (.setup controller call), recorder.fault? call.kind)
  clock recorder controller := recorder.clocks.get controller
  timing recorder controller := recorder.timing.get controller
  setTiming recorder controller timing :=
    { recorder.record (.setTiming controller timing) none with
      timing := recorder.timing.set controller timing }
  shutdown recorder controller := recorder.record (.shutdown controller) none
  transact := transact
  wait recorder ns := recorder.record (.wait ns) none
  adjust := adjust
  log := Recorder.log

end Recorder

end SharedSpi

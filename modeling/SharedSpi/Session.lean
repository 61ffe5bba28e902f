import SharedSpi.Bench.Basic
import SharedSpi.Transaction

/-!
# Sessions

A session runs commands on devices that share one bench. Devices are kept in
numbered slots. Every command gives a report: its answer, the receive buffers
as it left them, the events it caused, and the state that the bench, the select
table and the device of the slot are in afterwards.
-/

namespace SharedSpi

/-- What a device is asked to be opened with; the clock mode is a number still to be checked. -/
structure OpenRequest where
  controller : Nat
  speed : UInt32
  select : UInt8
  mode : Nat
  order : BitOrder
  platform : Option Platform
  deriving DecidableEq, Repr

/-- The parameters of a request, unless its mode has no meaning. -/
def OpenRequest.params? (request : OpenRequest) : Option Params :=
  (ClockMode.ofNumber? request.mode).map fun mode => {
    controller := request.controller
    speed := request.speed
    select := request.select
    mode := mode
    order := request.order
    platform := request.platform }

/-- Opens a device as requested. -/
def Bus.openRequested {σ : Type} [Board σ] (bus : Bus σ) (request : OpenRequest) : Opened σ :=
  match request.params? with
  | none => ⟨bus, .error .invalidArgument⟩
  | some params => bus.openDevice params

/-- A call that moves data. -/
inductive DataCall where
  | transfer (messages : List Message)
  | transaction (operations : List Operation)
  | roundTrip (buffer : Bytes)
  | deviceRead (buffer : Bytes)
  | deviceWrite (data : Bytes)
  | deviceTransfer (data buffer : Bytes)
  | deviceInPlace (buffer : Bytes)
  /-- Sends a buffer and replaces it by what comes back, without a transaction. -/
  | plainExchange (buffer : Bytes)
  /-- Sends bytes without a transaction. -/
  | plainWrite (data : Bytes)
  deriving DecidableEq, Repr

/-- The receive buffers of a call. -/
inductive Received where
  /-- The call has no receive buffer. -/
  | nothing
  | buffer (bytes : Bytes)
  /-- The receive buffer of each part of the call that has one. -/
  | buffers (parts : List (Option Bytes))
  deriving DecidableEq, Repr

/-- Makes a call on a link. -/
def Link.call {σ : Type} [Board σ] (link : Link σ) : DataCall → Outcome σ Received
  | .transfer messages =>
      (link.transfer messages).map fun sent => .buffers (sent.map Buffers.receiveSide?)
  | .transaction operations =>
      (link.transaction operations).map fun done => .buffers (done.map Operation.receiveSide?)
  | .roundTrip buffer => (link.roundTrip buffer).map .buffer
  | .deviceRead buffer => (link.deviceRead buffer).map .buffer
  | .deviceWrite data => (link.deviceWrite data).map fun _ => .nothing
  | .deviceTransfer data buffer => (link.deviceTransfer data buffer).map .buffer
  | .deviceInPlace buffer => (link.deviceInPlace buffer).map .buffer
  | .plainExchange buffer => (link.roundTrip buffer).map .buffer
  | .plainWrite data => (link.writeOnly data).map fun _ => .nothing

/-- What to do with the device of a slot. -/
inductive DeviceAction where
  /-- Closes the device and opens another one. -/
  | reopen (request : OpenRequest)
  | close
  | setSelect (select : UInt8)
  /-- Shows the settings of the device. -/
  | describe
  | data (call : DataCall)

/-- What to do. -/
inductive Action where
  /-- Adjusts the bench. -/
  | adjust (settings : BenchSettings)
  /-- Looks a controller up in the select table. -/
  | lookUp (controller : Nat) (select : UInt8)
  /-- Opens a device; if that succeeds it takes the place of the one in the slot, which is not
  closed. -/
  | openDevice (request : OpenRequest)
  | onDevice (action : DeviceAction)

/-- An action on a slot. -/
structure Command where
  slot : Nat
  action : Action

/-- The answer to a command. -/
inductive Answer where
  | done
  | failed (error : SpiError)
  /-- There is no device in the slot. -/
  | emptySlot
  /-- The chip select that a controller was configured for last, if there is such a controller, and
  whether it has to be configured. -/
  | looked (last : Option UInt8) (mustConfigure : Bool)
  | closed
  | described (device : Device)
  deriving DecidableEq, Repr

/-- The answer of a call that may have failed. -/
def Answer.ofFailure : Option SpiError → Answer
  | none => done
  | some error => failed error

/-- What a command did. -/
structure Report (ε : Type) where
  answer : Answer
  received : Received
  /-- What was asked of the bench, in order. -/
  events : List ε
  /-- The select timing registers. -/
  timing : Bank SelectTiming
  /-- The select table. -/
  table : SelectTable
  /-- The delays that the device of the slot remembers, if there is a device. -/
  delays : Option SelectDelays

/-- Devices in slots, sharing one bus. -/
structure Session (σ : Type) where
  bus : Bus σ
  slots : Nat → Option Device

/-- What carrying a command out leaves behind. -/
structure Performed (σ : Type) where
  session : Session σ
  answer : Answer
  received : Received

namespace Session

variable {σ ε : Type}

/-- A session without devices. -/
def initial (board : σ) : Session σ where
  bus := ⟨board, .initial⟩
  slots := fun _ => none

/-- Puts a device into a slot, or empties the slot. -/
def setSlot (session : Session σ) (slot : Nat) (device : Option Device) : Session σ :=
  { session with slots := fun other => if other = slot then device else session.slots other }

/-- Puts a link back: its device into the slot, and its bus as the bus of the session. -/
def putLink (session : Session σ) (slot : Nat) (link : Link σ) : Session σ :=
  { session.setSlot slot (some link.device) with bus := link.bus }

/-- The session with an answer, and no receive buffer. -/
def answering (session : Session σ) (answer : Answer) : Performed σ :=
  ⟨session, answer, .nothing⟩

section

variable [Board σ]

/-- Opens a device into a slot. If that fails the slot keeps what it holds. -/
def openInto (session : Session σ) (slot : Nat) (request : OpenRequest) : Performed σ :=
  let opened := session.bus.openRequested request
  let after := { session with bus := opened.bus }
  match opened.device with
  | .ok device => (after.setSlot slot (some device)).answering .done
  | .error error => after.answering (.failed error)

/-- Closes the device of a slot. -/
def closeSlot (session : Session σ) (slot : Nat) (device : Device) : Session σ :=
  { session.setSlot slot none with bus := Link.close ⟨session.bus, device⟩ }

/-- Carries out an action on the device of a slot. -/
def onDevice (session : Session σ) (slot : Nat) (device : Device) : DeviceAction → Performed σ
  | .reopen request => (session.closeSlot slot device).openInto slot request
  | .close => (session.closeSlot slot device).answering .closed
  | .setSelect select =>
      (session.putLink slot (Link.setSelect ⟨session.bus, device⟩ select)).answering .done
  | .describe => session.answering (.described device)
  | .data call =>
      let outcome := Link.call ⟨session.bus, device⟩ call
      ⟨session.putLink slot outcome.link, .ofFailure outcome.failure, outcome.data⟩

end

variable [Bench σ ε]

/-- Carries out a command. -/
def perform (session : Session σ) (command : Command) : Performed σ :=
  match command.action with
  | .adjust settings =>
      let board := Bench.adjust session.bus.board settings
      { session with bus := { session.bus with board := board } }.answering .done
  | .lookUp controller select =>
      session.answering (.looked (session.bus.table.last? controller)
        (session.bus.table.mustConfigure controller select))
  | .openDevice request => session.openInto command.slot request
  | .onDevice action =>
      match session.slots command.slot with
      | none => session.answering .emptySlot
      | some device => session.onDevice command.slot device action

/-- The report on a command, given what the session was before. -/
def report (before : Session σ) (slot : Nat) (performed : Performed σ) : Report ε :=
  let after := performed.session
  let board := after.bus.board
  { answer := performed.answer
    received := performed.received
    events := (Bench.log board).drop (Bench.log before.bus.board).length
    timing := ⟨Board.timing board .spi0, Board.timing board .spi1⟩
    table := after.bus.table
    delays := (after.slots slot).map Device.delays }

/-- The session after a command. -/
def step (session : Session σ) (command : Command) : Session σ :=
  (session.perform command).session

/-- The session after commands in order. -/
def run (session : Session σ) (commands : List Command) : Session σ :=
  commands.foldl step session

/-- The reports on commands in order. -/
def reports (session : Session σ) : List Command → List (Report ε)
  | [] => []
  | command :: rest =>
      let performed := session.perform command
      session.report command.slot performed :: performed.session.reports rest

@[simp] theorem run_nil (session : Session σ) : session.run [] = session := rfl

@[simp] theorem run_cons (session : Session σ) (command : Command) (rest : List Command) :
    session.run (command :: rest) = (session.step command).run rest := rfl

theorem run_append (session : Session σ) (first second : List Command) :
    session.run (first ++ second) = (session.run first).run second := by
  rw [run, List.foldl_append]
  rfl

end Session

end SharedSpi

import SharedSpi.Schedule
import SharedSpi.Transfer

/-!
# Transactions

A transaction carries its operations out under one assertion of chip select:
every message but the last keeps it asserted. A controller cannot release chip
select on its own, so a transaction that fails half-way configures the
controller again, which resets it. The error reported is that of the message
that failed, whatever becomes of the configuration.
-/

namespace SharedSpi

variable {σ : Type} [Board σ]

namespace Link

/-- Runs steps up to the first message that fails. Every message asks for the same delays, and the
last one releases chip select. -/
def runSteps (link : Link σ) (delays : SelectDelays) : List Step → Outcome σ (List Buffers)
  | [] => ⟨link, [], none⟩
  | .wait ns :: rest => (link.withBoard (Board.wait link.board ns)).runSteps delays rest
  | .part buffers :: rest =>
      let message := { Message.ofBuffers buffers with
        release := !rest.any Step.isPart
        delays := delays }
      let sent := link.send message
      match sent.failure with
      | some error => ⟨sent.link, sent.data :: Step.buffers rest, some error⟩
      | none =>
          let later := sent.link.runSteps delays rest
          ⟨later.link, sent.data :: later.data, later.failure⟩

/-- Configures the controller again if a call failed, and forgets how that went. -/
def recover {α : Type} (outcome : Outcome σ α) : Outcome σ α :=
  match outcome.failure with
  | none => outcome
  | some _ => { outcome with link := outcome.link.configure.link }

/-- Runs a schedule, and configures the controller again if it fails. -/
def runSchedule (link : Link σ) (schedule : Schedule) : Outcome σ (List Buffers) :=
  recover (link.runSteps schedule.delays schedule.body)

/-- Carries operations out on a selected device. If none carries bytes, chip select is never asserted
and the delays are waited for. -/
def perform (link : Link σ) (operations : List Operation) : Outcome σ (List Operation) :=
  let steps := Step.ofOperations operations
  if steps.any Step.isPart then
    (link.runSchedule (.ofSteps steps)).map (Operation.restoreAll operations)
  else ⟨link.withBoard (Board.waitAll link.board (Step.waits steps)), operations, none⟩

/-- Selects the device and carries operations out under one assertion of chip select. -/
def transaction (link : Link σ) (operations : List Operation) : Outcome σ (List Operation) :=
  link.afterSelect operations fun ready => ready.perform operations

/-- The receive buffer of the only operation of a transaction. -/
def onlyReceived (operations : List Operation) : Bytes :=
  operations.flatMap fun operation => operation.receiveSide?.getD []

/-- A transaction of one read. -/
def deviceRead (link : Link σ) (buffer : Bytes) : Outcome σ Bytes :=
  (link.transaction [.read buffer]).map onlyReceived

/-- A transaction of one write. -/
def deviceWrite (link : Link σ) (data : Bytes) : Outcome σ Bytes :=
  (link.transaction [.write data]).map fun _ => data

/-- A transaction that sends one buffer and receives into another. -/
def deviceTransfer (link : Link σ) (data buffer : Bytes) : Outcome σ Bytes :=
  (link.transaction [.exchange data buffer]).map onlyReceived

/-- A transaction that sends one buffer and receives into it. -/
def deviceInPlace (link : Link σ) (buffer : Bytes) : Outcome σ Bytes :=
  (link.transaction [.inPlace buffer]).map onlyReceived

end Link

end SharedSpi

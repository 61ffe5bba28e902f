import SharedSpi.Configure

/-!
# Transfers

A transfer selects the device and sends its messages in order, up to the first
that fails. Messages already sent stay sent; the buffers of a message that
failed or was not reached stay as they were.
-/

namespace SharedSpi

variable {σ : Type} [Board σ]

namespace Link

/-- Programs the delays a message asks for, unless they are in effect. A request that cannot be
programmed changes nothing, and does not keep the message from being sent. -/
def updateDelays (link : Link σ) (requested : SelectDelays) : Link σ :=
  if requested = link.device.delays then link
  else
    let controller := link.device.controller
    match link.device.delays.retime requested (Board.clock link.board controller)
        (Board.timing link.board controller) with
    | .ok timing =>
        { link.withBoard (Board.setTiming link.board controller timing) with
          device := { link.device with delays := requested } }
    | .error _ => link

/-- Sends a message on a selected device. A count above a buffer is refused before anything is done. -/
def send (link : Link σ) (message : Message) : Outcome σ Buffers :=
  if message.fits then
    let ready := link.updateDelays message.delays
    match Board.transact ready.board ready.device.controller
        (.ofMessage ready.device.select message) with
    | (board, .ok bytes) =>
        ⟨ready.withBoard (Board.waitMicros board message.waitAfter), message.buffers.store bytes, none⟩
    | (board, .error fault) => ⟨ready.withBoard board, message.buffers, some fault.toError⟩
  else ⟨link, message.buffers, some .invalidArgument⟩

/-- Sends messages on a selected device up to the first that fails. -/
def sendAll (link : Link σ) : List Message → Outcome σ (List Buffers)
  | [] => ⟨link, [], none⟩
  | message :: rest =>
      let sent := link.send message
      match sent.failure with
      | some error => ⟨sent.link, sent.data :: rest.map Message.buffers, some error⟩
      | none =>
          let later := sent.link.sendAll rest
          ⟨later.link, sent.data :: later.data, later.failure⟩

/-- Goes on with a call once the device is selected. If that fails the caller's data stays as it is. -/
def afterSelect {α : Type} (link : Link σ) (untouched : α) (body : Link σ → Outcome σ α) :
    Outcome σ α :=
  let selected := link.select
  match selected.failure with
  | some error => ⟨selected.link, untouched, some error⟩
  | none => body selected.link

/-- Selects the device and sends messages up to the first that fails. -/
def transfer (link : Link σ) (messages : List Message) : Outcome σ (List Buffers) :=
  link.afterSelect (messages.map Message.buffers) fun ready => ready.sendAll messages

/-- Selects the device and sends one message on its own. -/
def exchange (link : Link σ) (buffers : Buffers) : Outcome σ Buffers :=
  link.afterSelect buffers fun ready => ready.send (.single buffers)

/-- Sends a buffer and replaces it by the bytes that come back. -/
def roundTrip (link : Link σ) (buffer : Bytes) : Outcome σ Bytes :=
  (link.exchange (.inPlace buffer)).map Buffers.received

/-- Sends bytes and drops what comes back. -/
def writeOnly (link : Link σ) (data : Bytes) : Outcome σ Bytes :=
  (link.exchange (.write data)).map fun _ => data

theorem sendAll_nil (link : Link σ) : link.sendAll [] = ⟨link, [], none⟩ := rfl

end Link

end SharedSpi

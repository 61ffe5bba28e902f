import SharedSpi.Proofs.FailedTransactions

/-!
# Calls that send one message

One message on its own can be sent by a batch of one, by a call made for it, or
by a transaction of one operation, which works out delays and the release of
chip select for itself. All of them ask the device for the same errand. So they
end alike, whatever the device remembers and whether it has to be selected
first; only a transaction that fails goes on, and configures the controller
again.
-/

namespace SharedSpi

/-- What a call shows that has one buffer to receive into at most. -/
def Received.ofSide : Option Bytes → Received
  | none => .nothing
  | some bytes => .buffer bytes

namespace DataCall

/-- The calls that are no transactions and are made for one message. -/
inductive SendsPlainly : DataCall → Buffers → Prop where
  | roundTrip (buffer : Bytes) : SendsPlainly (.roundTrip buffer) (.inPlace buffer)
  | plainExchange (buffer : Bytes) : SendsPlainly (.plainExchange buffer) (.inPlace buffer)
  | plainWrite (data : Bytes) : SendsPlainly (.plainWrite data) (.write data)

/-- The transactions of one operation with bytes. If it has two buffers, they are equally long. -/
inductive SendsOnce : DataCall → Buffers → Prop where
  | deviceRead {buffer : Bytes} (some : buffer ≠ []) : SendsOnce (.deviceRead buffer) (.read buffer)
  | deviceWrite {data : Bytes} (some : data ≠ []) : SendsOnce (.deviceWrite data) (.write data)
  | deviceInPlace {buffer : Bytes} (some : buffer ≠ []) :
      SendsOnce (.deviceInPlace buffer) (.inPlace buffer)
  | deviceTransfer {data buffer : Bytes} (some : data ≠ []) (even : data.length = buffer.length) :
      SendsOnce (.deviceTransfer data buffer) (.exchange data buffer)

/-- A call whose only errand is a message on its own, and that shows what the message received. -/
structure StandsFor (call : DataCall) (buffers : Buffers) : Prop where
  errands : call.errands = [.message (.single buffers)]
  received : ∀ left : Buffers, left.receiveSide?.isSome = buffers.receiveSide?.isSome →
    call.received [left] = .ofSide left.receiveSide?

end DataCall

namespace Operation

theorem whole_of_some {bytes : Bytes} (some : bytes ≠ []) (buffers : Buffers) :
    whole buffers bytes = [buffers] := by
  rw [whole, if_neg (by simpa using some)]

theorem parts_exchange_of_even {data buffer : Bytes} (some : data ≠ [])
    (even : data.length = buffer.length) :
    (exchange data buffer).parts = [.exchange data buffer] := by
  have all : min data.length buffer.length = data.length := by rw [even, Nat.min_self]
  have allOfBuffer : buffer.take data.length = buffer := by rw [even, List.take_length]
  have noneOfBuffer : buffer.drop data.length = [] := by rw [even, List.drop_length]
  simp only [parts, all, List.take_length, List.drop_length, allOfBuffer, noneOfBuffer,
    whole_of_some some]
  rfl

/-- The receive buffer of an operation is that of its only part. -/
theorem onlyReceived_of_one_part {operation : Operation} {part : Buffers}
    (one : operation.parts = [part]) (receives : operation.receiveSide?.isSome = true)
    (left : Buffers) : Link.onlyReceived (restoreAll [operation] [left]) = left.received := by
  have restored : restoreAll [operation] [left] = [operation.restore [left]] := by
    rw [restoreAll, one]
    rfl
  have own : [left].flatMap Buffers.received = left.received := List.flatMap_singleton _ _
  rw [restored, Link.onlyReceived, List.flatMap_singleton]
  cases operation with
  | read buffer => exact own
  | exchange data buffer => exact own
  | inPlace buffer => exact own
  | write data => cases receives
  | delay ns => cases receives

end Operation

namespace Errand

/-- An operation that comes down to one part is a message on its own: there are no delays around it, and
no part follows it. -/
theorem ofOperations_of_one_part {operation : Operation} {part : Buffers}
    (one : operation.parts = [part]) :
    ofOperations [operation] = [.message (.single part)] := by
  have steps : Step.ofOperations [operation] = [.part part] := by
    rcases Step.ofOperation_cases operation with ⟨ns, rfl, _⟩ | ⟨_, same⟩
    · cases one
    · rw [Step.ofOperations, List.flatMap_singleton, same, one]
      rfl
  have schedule : Schedule.ofSteps [.part part] = ⟨[], [.part part], []⟩ := rfl
  have quiet : Schedule.delays ⟨[], [.part part], []⟩ = .zero := by
    simp only [Schedule.delays, show totalMicros [] = 0 from by decide]
    rfl
  simp only [ofOperations, steps, schedule, quiet]
  rfl

end Errand

namespace DataCall

variable {call : DataCall} {buffers : Buffers}

/-- A call whose message receives shows the bytes received. -/
theorem StandsFor.of_received (errands : call.errands = [.message (.single buffers)])
    (receives : buffers.receiveSide?.isSome = true)
    (shown : ∀ left : Buffers, call.received [left] = .buffer left.received) :
    call.StandsFor buffers := by
  refine ⟨errands, fun left same => ?_⟩
  obtain ⟨bytes, side⟩ := Option.isSome_iff_exists.mp (same.trans receives)
  rw [shown, Buffers.received, side]
  rfl

/-- A call whose message does not receive shows nothing. -/
theorem StandsFor.of_silent (errands : call.errands = [.message (.single buffers)])
    (silent : buffers.receiveSide? = none) (shown : ∀ sent, call.received sent = .nothing) :
    call.StandsFor buffers := by
  refine ⟨errands, fun left same => ?_⟩
  rw [silent, Option.isSome_none, Option.isSome_eq_false_iff, Option.isNone_iff_eq_none] at same
  rw [shown, same]
  rfl

theorem SendsPlainly.standsFor (sends : call.SendsPlainly buffers) : call.StandsFor buffers := by
  have only (left : Buffers) : Received.buffer ([left].flatMap Buffers.received) =
      .buffer left.received := by rw [List.flatMap_singleton]
  cases sends with
  | roundTrip buffer => exact .of_received rfl rfl only
  | plainExchange buffer => exact .of_received rfl rfl only
  | plainWrite data => exact .of_silent rfl rfl fun _ => rfl

theorem SendsOnce.standsFor (sends : call.SendsOnce buffers) : call.StandsFor buffers := by
  cases sends with
  | @deviceRead buffer some =>
      have one : (Operation.read buffer).parts = _ := Operation.whole_of_some some (.read buffer)
      exact .of_received (Errand.ofOperations_of_one_part one) rfl fun left =>
        congrArg Received.buffer (Operation.onlyReceived_of_one_part one rfl left)
  | @deviceWrite data some =>
      have one : (Operation.write data).parts = _ := Operation.whole_of_some some (.write data)
      exact .of_silent (Errand.ofOperations_of_one_part one) rfl fun _ => rfl
  | @deviceInPlace buffer some =>
      have one : (Operation.inPlace buffer).parts = _ :=
        Operation.whole_of_some some (.inPlace buffer)
      exact .of_received (Errand.ofOperations_of_one_part one) rfl fun left =>
        congrArg Received.buffer (Operation.onlyReceived_of_one_part one rfl left)
  | @deviceTransfer data buffer some even =>
      have one := Operation.parts_exchange_of_even some even
      exact .of_received (Errand.ofOperations_of_one_part one) rfl fun left =>
        congrArg Received.buffer (Operation.onlyReceived_of_one_part one rfl left)

theorem SendsPlainly.recovers (sends : call.SendsPlainly buffers) : call.recovers = false := by
  cases sends <;> rfl

theorem SendsOnce.recovers (sends : call.SendsOnce buffers) : call.recovers = true := by
  cases sends <;> rfl

end DataCall

namespace Link

section

variable {σ : Type} [Board σ]

/-- A message keeps its receive side, whether it was sent or not. -/
theorem isSome_receiveSide?_send (link : Link σ) (message : Message) :
    (link.send message).data.receiveSide?.isSome = message.buffers.receiveSide?.isSome := by
  unfold send
  split
  · dsimp only
    split
    · rw [Buffers.receiveSide?_store, Option.isSome_map]
    · rfl
  · rfl

/-- A call that stands for a message shows what a transfer of the message leaves, and fails as it does.
If it recovers from a failure to send the message, it goes on where the transfer ends. -/
theorem call_of_standsFor {call : DataCall} {buffers : Buffers} (stands : call.StandsFor buffers)
    (link : Link σ) :
    let transferred := link.call (.transfer [.single buffers])
    (link.call call).failure = transferred.failure ∧
      (∃ side, transferred.data = .buffers [side] ∧ (link.call call).data = .ofSide side) ∧
      (link.call call).link =
        if call.recovers = true ∧ link.select.failure = none ∧ transferred.failure ≠ none then
          transferred.link.configure.link
        else transferred.link := by
  intro transferred
  cases selected : link.select.failure with
  | some error =>
      have stopped : transferred = _ := call_of_unselected selected (.transfer [.single buffers])
      rw [call_of_unselected selected, stopped, stands.errands]
      refine ⟨rfl, ⟨buffers.receiveSide?, rfl, stands.received buffers rfl⟩, ?_⟩
      rw [if_neg fun goesOn => by cases goesOn.2.1]
  | none =>
      let sent := link.select.link.send (.single buffers)
      have ended : transferred = ⟨sent.link, .buffers [sent.data.receiveSide?], sent.failure⟩ := by
        have carried : transferred = _ := call_of_selected selected (.transfer [.single buffers])
        rw [carried]
        simp only [DataCall.recovers, DataCall.operations?, Option.isSome_none, Bool.false_and,
          Bool.false_eq_true, if_false, DataCall.errands, DataCall.messages, List.map_cons,
          List.map_nil, carryOut_single]
        rfl
      have side := link.select.link.isSome_receiveSide?_send (.single buffers)
      rw [call_of_selected selected, ended, stands.errands, carryOut_single]
      refine ⟨rfl, ⟨_, rfl, stands.received sent.data side⟩, ?_⟩
      simp only [Outcome.map, Bool.and_eq_true, Option.isSome_iff_ne_none, true_and]
      rfl

end

/-- What a transfer of one message on its own does is done by every call for one message: it succeeds or
fails alike, shows the same bytes, makes the same calls and leaves the same link. So does a transaction of
one operation if the device cannot be selected or the transaction succeeds. If it fails, the link is the
one that the transfer leaves, on which one attempt to configure the controller was made. -/
theorem single_messages_agree (link : Link Recorder) :
    (∀ call buffers, call.SendsPlainly buffers →
      let transferred := link.call (.transfer [.single buffers])
      (link.call call).link = transferred.link ∧
        (link.call call).failure = transferred.failure ∧
        ∃ side, transferred.data = .buffers [side] ∧ (link.call call).data = .ofSide side) ∧
      ∀ call buffers, call.SendsOnce buffers →
        let transferred := link.call (.transfer [.single buffers])
        (link.call call).failure = transferred.failure ∧
          (∃ side, transferred.data = .buffers [side] ∧ (link.call call).data = .ofSide side) ∧
          (link.select.failure ≠ none ∨ (link.call call).failure = none →
            (link.call call).link = transferred.link) ∧
          (link.select.failure = none → (link.call call).failure ≠ none →
            (link.call call).link = transferred.link.configure.link ∧
              ∃ attempt, (link.call call).link.board.log = transferred.link.board.log ++ attempt ∧
                Attempt link.device attempt (link.call call).link) := by
  refine ⟨fun call buffers sends => ?_, fun call buffers sends => ?_⟩
  · obtain ⟨failure, data, same⟩ := call_of_standsFor sends.standsFor link
    rw [sends.recovers, if_neg fun recovers => by cases recovers.1] at same
    exact ⟨same, failure, data⟩
  · obtain ⟨failure, data, same⟩ := call_of_standsFor sends.standsFor link
    refine ⟨failure, data, fun unhurt => ?_, fun selected failed => ?_⟩
    · rw [same, if_neg]
      rintro ⟨_, selected, failed⟩
      rcases unhurt with unselected | succeeded
      · exact unselected selected
      · exact failed (failure.symm.trans succeeded)
    · have again : (link.call call).link = _ :=
        same.trans (if_pos ⟨sends.recovers, selected, failure ▸ failed⟩)
      obtain ⟨attempt, grown, made⟩ :=
        (link.call (.transfer [.single buffers])).link.configure_attempt
      have device : (link.call (.transfer [.single buffers])).link.device = { link.device with
          delays := (link.call (.transfer [.single buffers])).link.device.delays } :=
        (link.call_course _).confined.device
      rw [again]
      exact ⟨rfl, attempt, grown, made.of_device device⟩

/-- A device that remembers delays sends one message in two ways. The transaction of one operation fails
like the transfer, and so does the configuration after it. -/
theorem single_messages_agree_of_failing_exchange :
    let device : Device :=
      { controller := .spi1, speed := 1000000, select := 0, mode := .mode2, order := .msbFirst,
        platform := { slaves := 1, polarity := 0, supply := .vddio }, delays := ⟨3, 0⟩ }
    let responses : Responses :=
      { Responses.initial with
        statuses := fun kind =>
          match kind with
          | .transaction => [-7]
          | .setWidth => [-1]
          | _ => [] }
    let link : Link Recorder :=
      ⟨⟨{ Recorder.initial with responses := responses }, .initial⟩, device⟩
    let message := Message.single (.exchange [1, 2] [0, 0])
    let exchange := DataCall.deviceTransfer [1, 2] [0, 0]
    let roundTrip := DataCall.roundTrip [5]
    (exchange.SendsOnce message.buffers ∧ roundTrip.SendsPlainly (.inPlace [5]) ∧
        link.select.failure = none ∧ (link.call exchange).failure = some .busy) ∧
      ((link.call (.transfer [message])).link.board.log.length = 2 ∧
        (link.call exchange).link.board.log.length = 6) ∧
      (∃ side, (link.call (.transfer [message])).data = .buffers [side] ∧
        (link.call exchange).data = .ofSide side) ∧
      (link.call exchange).link = (link.call (.transfer [message])).link.configure.link ∧
      (link.call roundTrip).link = (link.call (.transfer [.single (.inPlace [5])])).link := by
  intro device responses link message exchange roundTrip
  have once : exchange.SendsOnce message.buffers := .deviceTransfer (by decide) rfl
  have plain : roundTrip.SendsPlainly (.inPlace [5]) := .roundTrip [5]
  have selected : link.select.failure = none := by decide +kernel
  have busy : (link.call exchange).failure = some .busy := by decide +kernel
  have lengths : (link.call (.transfer [message])).link.board.log.length = 2 ∧
      (link.call exchange).link.board.log.length = 6 := by decide +kernel
  obtain ⟨plainly, byOperation⟩ := single_messages_agree link
  obtain ⟨_, data, _, recovered⟩ := byOperation exchange message.buffers once
  have failed : (link.call exchange).failure ≠ none := by
    rw [busy]
    exact Option.some_ne_none _
  exact ⟨⟨once, plain, selected, busy⟩, lengths, data, (recovered selected failed).1,
    (plainly roundTrip _ plain).1⟩

end Link

end SharedSpi

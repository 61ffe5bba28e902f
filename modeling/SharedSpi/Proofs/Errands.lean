import SharedSpi.Session

/-!
# Errands

The calls that move data differ in how they put their messages together, and
not in how these are carried out: the device is selected, waits and messages
follow in order up to the first message that fails, and a transaction that
failed configures the controller again. A call is brought into this one shape
here, so that what holds of errands holds of every call. The shape leaves open
how the device is selected: a call selects it in the usual way.
-/

namespace SharedSpi

theorem Step.any_isPart_ofOperations (operations : List Operation) :
    (ofOperations operations).any isPart = operations.any Operation.carriesData := by
  have parts : ∀ operation : Operation,
      (operation.parts.map part).any isPart = operation.carriesData := by
    intro operation
    have some : ∀ data : List Buffers, (data.map part).any isPart = !data.isEmpty := by
      intro data
      cases data <;> rfl
    rw [some, operation.isEmpty_parts, Bool.not_not]
  have one : ∀ operation, (ofOperation operation).any isPart = operation.carriesData := by
    intro operation
    cases operation with
    | delay ns => rfl
    | read buffer => exact parts _
    | write data => exact parts _
    | exchange data buffer => exact parts _
    | inPlace buffer => exact parts _
  simp only [ofOperations, List.any_flatMap, one]

/-- Operations that carry no data have no messages. -/
theorem Operation.parts_of_idle {operations : List Operation}
    (idle : operations.any carriesData = false) : operations.flatMap parts = [] :=
  List.flatMap_eq_nil_iff.mpr fun operation found =>
    parts_eq_nil_iff.mpr (Bool.not_eq_true _ |>.mp (List.any_eq_false.mp idle operation found))

/-- Between the outer waits the steps start with a message. -/
theorem Schedule.body_of_isPart {steps : List Step} (sends : steps.any Step.isPart = true) :
    ∃ part rest, (ofSteps steps).body = .part part :: rest := by
  induction steps with
  | nil => cases sends
  | cons step rest ih =>
      cases step with
      | part data => exact ⟨data, Step.untilLastPart rest, by
          simp [ofSteps, Step.fromFirstPart, Step.untilLastPart, Step.isPart]⟩
      | wait ns => exact ih sends

namespace Step

theorem buffers_append (first second : List Step) :
    buffers (first ++ second) = buffers first ++ buffers second := by
  induction first with
  | nil => rfl
  | cons step rest ih =>
      cases step with
      | wait ns => exact ih
      | part data => exact congrArg (data :: ·) ih

theorem buffers_map_wait (times : List UInt32) : buffers (times.map wait) = [] := by
  induction times with
  | nil => rfl
  | cons ns rest ih => exact ih

theorem buffers_map_part (parts : List Buffers) : buffers (parts.map part) = parts := by
  induction parts with
  | nil => rfl
  | cons data rest ih => exact congrArg (data :: ·) ih

/-- The messages of a transaction are those for the parts of its operations. -/
theorem buffers_ofOperations (operations : List Operation) :
    buffers (ofOperations operations) = operations.flatMap Operation.parts := by
  induction operations with
  | nil => rfl
  | cons operation rest ih =>
      rw [ofOperations, List.flatMap_cons, buffers_append, List.flatMap_cons]
      refine congr (congrArg _ ?_) ih
      cases operation with
      | delay ns => rfl
      | read buffer => exact buffers_map_part _
      | write data => exact buffers_map_part _
      | exchange data buffer => exact buffers_map_part _
      | inPlace buffer => exact buffers_map_part _

/-- The outer waits hold no message. -/
theorem buffers_body (steps : List Step) :
    buffers (Schedule.ofSteps steps).body = buffers steps := by
  have whole := Schedule.steps_ofSteps steps
  unfold Schedule.steps at whole
  rw [← whole, buffers_append, buffers_append, buffers_map_wait, buffers_map_wait,
    List.nil_append, List.append_nil, whole]

end Step

/-- What a call asks of a selected device. -/
inductive Errand where
  | pause (ns : UInt32)
  | message (message : Message)

namespace Errand

/-- The buffers of the messages among the errands. -/
def buffers : List Errand → List Buffers
  | [] => []
  | pause _ :: rest => buffers rest
  | message asked :: rest => asked.buffers :: buffers rest

/-- The messages among the errands. -/
def messages : List Errand → List Message
  | [] => []
  | pause _ :: rest => messages rest
  | message asked :: rest => asked :: messages rest

/-- The message for a part of a transaction, given the delays of the transaction and the steps that
follow. -/
def partMessage (delays : SelectDelays) (part : Buffers) (later : List Step) : Message :=
  { Message.ofBuffers part with
    release := !later.any Step.isPart
    delays := delays }

/-- The errands for steps under common delays. -/
def ofSteps (delays : SelectDelays) : List Step → List Errand
  | [] => []
  | .wait ns :: rest => pause ns :: ofSteps delays rest
  | .part part :: rest => message (partMessage delays part rest) :: ofSteps delays rest

/-- The errands of a transaction. -/
def ofOperations (operations : List Operation) : List Errand :=
  let steps := Step.ofOperations operations
  if steps.any Step.isPart then
    ofSteps (Schedule.ofSteps steps).delays (Schedule.ofSteps steps).body
  else (Step.waits steps).map pause

/-- The errands of a transaction with data start with a message. -/
theorem ofOperations_of_sends {operations : List Operation}
    (sends : operations.any Operation.carriesData = true) :
    ∃ part rest, (Schedule.ofSteps (Step.ofOperations operations)).body = .part part :: rest ∧
      ofOperations operations =
        ofSteps (Schedule.ofSteps (Step.ofOperations operations)).delays (.part part :: rest) := by
  have parts := (Step.any_isPart_ofOperations operations).trans sends
  obtain ⟨part, rest, body⟩ := Schedule.body_of_isPart parts
  refine ⟨part, rest, body, ?_⟩
  rw [← body]
  exact if_pos parts

/-- The errands of a transaction without data are its waits. -/
theorem ofOperations_of_idle {operations : List Operation}
    (idle : operations.any Operation.carriesData = false) :
    ofOperations operations = (Step.waits (Step.ofOperations operations)).map pause := by
  have silent := (Step.any_isPart_ofOperations operations).trans idle
  simp only [ofOperations, silent, Bool.false_eq_true, if_false]

theorem fits_partMessage (delays : SelectDelays) (part : Buffers) (later : List Step) :
    (partMessage delays part later).fits = true :=
  Message.fits_ofBuffers part

theorem buffers_eq_map (errands : List Errand) :
    buffers errands = (messages errands).map Message.buffers := by
  induction errands with
  | nil => rfl
  | cons errand rest ih =>
      cases errand with
      | pause ns => exact ih
      | message asked => exact congrArg (asked.buffers :: ·) ih

@[simp] theorem messages_map_message (messages : List Message) :
    Errand.messages (messages.map message) = messages := by
  induction messages with
  | nil => rfl
  | cons asked rest ih => simp only [List.map_cons, Errand.messages, ih]

@[simp] theorem messages_map_pause (times : List UInt32) : messages (times.map pause) = [] := by
  induction times with
  | nil => rfl
  | cons ns rest ih => exact ih

@[simp] theorem buffers_map_message (messages : List Message) :
    buffers (messages.map message) = messages.map Message.buffers := by
  rw [buffers_eq_map, messages_map_message]

@[simp] theorem buffers_ofSteps (delays : SelectDelays) (steps : List Step) :
    buffers (ofSteps delays steps) = Step.buffers steps := by
  induction steps with
  | nil => rfl
  | cons step rest ih =>
      cases step with
      | wait ns => exact ih
      | part data => exact congrArg (data :: ·) ih

theorem buffers_map_pause (times : List UInt32) : buffers (times.map pause) = [] := by
  rw [buffers_eq_map, messages_map_pause, List.map_nil]

theorem fits_ofSteps (delays : SelectDelays) (steps : List Step) :
    ∀ message ∈ messages (ofSteps delays steps), message.fits = true := by
  induction steps with
  | nil => simp [ofSteps, messages]
  | cons step rest ih =>
      cases step with
      | wait ns => exact ih
      | part part => exact List.forall_mem_cons.mpr ⟨fits_partMessage delays part rest, ih⟩

/-- Every message of a transaction fits. -/
theorem fits_ofOperations (operations : List Operation) :
    ∀ message ∈ messages (ofOperations operations), message.fits = true := by
  unfold ofOperations
  dsimp only
  split
  · exact fits_ofSteps _ _
  · simp

/-- The messages of a transaction have the buffers of its operations. -/
theorem buffers_ofOperations (operations : List Operation) :
    buffers (ofOperations operations) = operations.flatMap Operation.parts := by
  cases sends : operations.any Operation.carriesData with
  | true =>
      obtain ⟨part, rest, body, errands⟩ := ofOperations_of_sends sends
      rw [errands, ← body, buffers_ofSteps, Step.buffers_body, Step.buffers_ofOperations]
  | false => rw [ofOperations_of_idle sends, buffers_map_pause, Operation.parts_of_idle sends]

end Errand

namespace DataCall

/-- The operations of a call that is a transaction. -/
def operations? : DataCall → Option (List Operation)
  | transaction operations => some operations
  | deviceRead buffer => some [.read buffer]
  | deviceWrite data => some [.write data]
  | deviceTransfer data buffer => some [.exchange data buffer]
  | deviceInPlace buffer => some [.inPlace buffer]
  | _ => none

/-- The messages of a call that is no transaction. -/
def messages : DataCall → List Message
  | transfer messages => messages
  | roundTrip buffer => [.single (.inPlace buffer)]
  | plainExchange buffer => [.single (.inPlace buffer)]
  | plainWrite data => [.single (.write data)]
  | _ => []

/-- What a call asks of the device. -/
def errands (call : DataCall) : List Errand :=
  match call.operations? with
  | some operations => Errand.ofOperations operations
  | none => call.messages.map .message

/-- Whether a call configures the controller again if it fails. -/
def recovers (call : DataCall) : Bool :=
  call.operations?.isSome

/-- What the receive buffers of a call hold once its messages have these buffers. -/
def received (call : DataCall) (sent : List Buffers) : Received :=
  match call with
  | .transfer _ => .buffers (sent.map Buffers.receiveSide?)
  | .transaction operations =>
      .buffers ((Operation.restoreAll operations sent).map Operation.receiveSide?)
  | .roundTrip _ => .buffer (sent.flatMap Buffers.received)
  | .plainExchange _ => .buffer (sent.flatMap Buffers.received)
  | .deviceRead buffer => .buffer (Link.onlyReceived (Operation.restoreAll [.read buffer] sent))
  | .deviceTransfer data buffer =>
      .buffer (Link.onlyReceived (Operation.restoreAll [.exchange data buffer] sent))
  | .deviceInPlace buffer =>
      .buffer (Link.onlyReceived (Operation.restoreAll [.inPlace buffer] sent))
  | .deviceWrite _ => .nothing
  | .plainWrite _ => .nothing

end DataCall

/-- Outcomes that agree in all but the caller's data. -/
structure Outcome.Agrees {σ α β : Type} (first : Outcome σ α) (second : Outcome σ β) : Prop where
  link : first.link = second.link
  failure : first.failure = second.failure

namespace Link

variable {σ : Type} [Board σ]

/-- Carries errands out up to the first message that fails. -/
def carryOut (link : Link σ) : List Errand → Outcome σ (List Buffers)
  | [] => ⟨link, [], none⟩
  | .pause ns :: rest => (link.withBoard (Board.wait link.board ns)).carryOut rest
  | .message message :: rest =>
      let sent := link.send message
      match sent.failure with
      | some error => ⟨sent.link, sent.data :: Errand.buffers rest, some error⟩
      | none =>
          let later := sent.link.carryOut rest
          ⟨later.link, sent.data :: later.data, later.failure⟩

/-- Carries errands out, and configures the controller again after a failure if that is asked for. -/
def carryOutAll (link : Link σ) (recovers : Bool) (errands : List Errand) :
    Outcome σ (List Buffers) :=
  if recovers then recover (link.carryOut errands) else link.carryOut errands

/-- The common shape of the calls that move data. -/
def conduct (link : Link σ) (call : DataCall) : Outcome σ (List Buffers) :=
  link.afterSelect (Errand.buffers call.errands) fun ready =>
    ready.carryOutAll call.recovers call.errands

theorem send_of_unfit (link : Link σ) {message : Message} (unfit : message.fits = false) :
    link.send message = ⟨link, message.buffers, some .invalidArgument⟩ := by
  simp only [send, unfit, Bool.false_eq_true, if_false]

theorem carryOut_message_of_sent {link : Link σ} {message : Message}
    (sent : (link.send message).failure = none) (rest : List Errand) :
    link.carryOut (.message message :: rest) =
      ⟨((link.send message).link.carryOut rest).link,
        (link.send message).data :: ((link.send message).link.carryOut rest).data,
        ((link.send message).link.carryOut rest).failure⟩ := by
  simp only [carryOut, sent]

theorem carryOut_message_of_failed {link : Link σ} {message : Message} {error : SpiError}
    (failed : (link.send message).failure = some error) (rest : List Errand) :
    link.carryOut (.message message :: rest) =
      ⟨(link.send message).link, (link.send message).data :: Errand.buffers rest, some error⟩ := by
  simp only [carryOut, failed]

theorem sendAll_eq_carryOut (messages : List Message) (link : Link σ) :
    link.sendAll messages = link.carryOut (messages.map .message) := by
  induction messages generalizing link with
  | nil => rfl
  | cons message rest ih =>
      cases result : (link.send message).failure with
      | none => simp only [sendAll, result, ih, List.map_cons, carryOut_message_of_sent result]
      | some error =>
          simp only [sendAll, result, List.map_cons, carryOut_message_of_failed result,
            Errand.buffers_map_message]

theorem runSteps_eq_carryOut (delays : SelectDelays) (steps : List Step) (link : Link σ) :
    link.runSteps delays steps = link.carryOut (Errand.ofSteps delays steps) := by
  induction steps generalizing link with
  | nil => rfl
  | cons step rest ih =>
      cases step with
      | wait ns => exact ih _
      | part data =>
          cases result : (link.send (Errand.partMessage delays data rest)).failure with
          | none =>
              rw [Errand.ofSteps, carryOut_message_of_sent result, ← ih]
              simp only [Errand.partMessage] at result ⊢
              simp only [runSteps, result]
          | some error =>
              rw [Errand.ofSteps, carryOut_message_of_failed result, Errand.buffers_ofSteps]
              simp only [Errand.partMessage] at result ⊢
              simp only [runSteps, result]

theorem carryOut_pauses (times : List UInt32) (link : Link σ) :
    link.carryOut (times.map .pause) =
      ⟨link.withBoard (Board.waitAll link.board times), [], none⟩ := by
  induction times generalizing link with
  | nil => rfl
  | cons ns rest ih => exact ih _

/-- Carrying operations out is carrying out their errands and putting the receive buffers together. -/
theorem perform_eq_carryOutAll (link : Link σ) (operations : List Operation) :
    link.perform operations =
      (link.carryOutAll true (Errand.ofOperations operations)).map
        (Operation.restoreAll operations) := by
  cases sends : operations.any Operation.carriesData with
  | true =>
      have parts := (Step.any_isPart_ofOperations operations).trans sends
      simp only [perform, Errand.ofOperations, parts, if_true, runSchedule, runSteps_eq_carryOut,
        carryOutAll]
  | false =>
      have parts := (Step.any_isPart_ofOperations operations).trans sends
      have same := Operation.restoreAll_parts operations
      rw [Operation.parts_of_idle sends] at same
      simp only [perform, Errand.ofOperations, parts, Bool.false_eq_true, if_false, carryOutAll,
        if_true, carryOut_pauses, recover, Outcome.map, same]

theorem carryOut_single (link : Link σ) (message : Message) :
    link.carryOut [.message message] = (link.send message).map fun sent => [sent] := by
  cases result : (link.send message).failure with
  | none =>
      rw [carryOut_message_of_sent result, carryOut]
      simp only [Outcome.map, result]
  | some error =>
      rw [carryOut_message_of_failed result]
      simp only [Outcome.map, result, Errand.buffers]

/-- Makes a call on a link whose device is selected in a given way. -/
def callWith (choose : Link σ → Outcome σ Unit) (link : Link σ) (call : DataCall) :
    Outcome σ Received :=
  let chosen := choose link
  match chosen.failure with
  | some error => ⟨chosen.link, call.received (Errand.buffers call.errands), some error⟩
  | none => (chosen.link.carryOutAll call.recovers call.errands).map call.received

theorem callWith_select_of_operations (link : Link σ) {call : DataCall}
    {operations : List Operation} (view : List Operation → Received)
    (shape : call.operations? = some operations)
    (received : ∀ sent, call.received sent = view (Operation.restoreAll operations sent)) :
    link.callWith select call = (link.transaction operations).map view := by
  simp only [callWith, transaction, afterSelect, DataCall.errands, DataCall.recovers, shape,
    Option.isSome_some, perform_eq_carryOutAll, received, Errand.buffers_ofOperations,
    Operation.restoreAll_parts]
  cases link.select.failure with
  | none => simp only [Outcome.map, received]
  | some error => rfl

theorem callWith_select_of_exchange (link : Link σ) {call : DataCall} {buffers : Buffers}
    (view : Buffers → Received) (shape : call.operations? = none)
    (single : call.messages = [.single buffers])
    (received : ∀ sent, call.received [sent] = view sent) :
    link.callWith select call = (link.exchange buffers).map view := by
  simp only [callWith, exchange, afterSelect, DataCall.errands, DataCall.recovers, shape, single,
    Option.isSome_none, carryOutAll, Bool.false_eq_true, if_false, List.map_cons, List.map_nil,
    carryOut_single]
  cases link.select.failure with
  | none => simp only [Outcome.map, received]
  | some error =>
      exact congrArg (fun data => (⟨link.select.link, data, some error⟩ : Outcome σ Received))
        (received buffers)

/-- A call is one whose device is selected in the usual way. -/
theorem callWith_select (link : Link σ) (call : DataCall) :
    link.callWith select call = link.call call := by
  have only (buffer : Buffers) : ([buffer].flatMap Buffers.received) = buffer.received := by simp
  cases call with
  | transfer messages =>
      simp only [callWith, Link.call, transfer, afterSelect, DataCall.errands, DataCall.recovers,
        DataCall.operations?, DataCall.messages, Option.isSome_none, carryOutAll,
        Bool.false_eq_true, if_false, sendAll_eq_carryOut, Errand.buffers_map_message]
      cases link.select.failure <;> rfl
  | transaction operations =>
      exact link.callWith_select_of_operations
        (fun done => .buffers (done.map Operation.receiveSide?)) rfl fun _ => rfl
  | deviceRead buffer =>
      exact link.callWith_select_of_operations (fun done => .buffer (onlyReceived done)) rfl
        fun _ => rfl
  | deviceWrite data =>
      exact link.callWith_select_of_operations (fun _ => .nothing) rfl fun _ => rfl
  | deviceTransfer data buffer =>
      exact link.callWith_select_of_operations (fun done => .buffer (onlyReceived done)) rfl
        fun _ => rfl
  | deviceInPlace buffer =>
      exact link.callWith_select_of_operations (fun done => .buffer (onlyReceived done)) rfl
        fun _ => rfl
  | roundTrip buffer =>
      exact link.callWith_select_of_exchange (fun sent => .buffer sent.received) rfl rfl
        fun sent => congrArg Received.buffer (only sent)
  | plainExchange buffer =>
      exact link.callWith_select_of_exchange (fun sent => .buffer sent.received) rfl rfl
        fun sent => congrArg Received.buffer (only sent)
  | plainWrite data =>
      exact link.callWith_select_of_exchange (fun _ => .nothing) rfl rfl fun _ => rfl

/-- A call whose device cannot be selected. -/
theorem call_of_unselected {link : Link σ} {error : SpiError}
    (failed : link.select.failure = some error) (call : DataCall) :
    link.call call =
      ⟨link.select.link, call.received ((Errand.messages call.errands).map Message.buffers),
        some error⟩ := by
  rw [← callWith_select, callWith, ← Errand.buffers_eq_map]
  simp only [failed]

/-- A call whose device is selected: after a failure the controller is configured again if the call
recovers. -/
theorem call_of_selected {link : Link σ} (selected : link.select.failure = none)
    (call : DataCall) :
    let carried := link.select.link.carryOut call.errands
    link.call call =
      ⟨if call.recovers && carried.failure.isSome then carried.link.configure.link else carried.link,
        call.received carried.data, carried.failure⟩ := by
  intro carried
  rw [← callWith_select, callWith]
  simp only [selected]
  rw [carryOutAll]
  cases call.recovers with
  | false => rfl
  | true =>
      change (recover carried).map call.received = _
      obtain ⟨after, data, failure⟩ := carried
      cases failure with
      | none => rfl
      | some error => rfl

/-- Every call that moves data is carried out as its errands. -/
theorem call_agrees_conduct (link : Link σ) (call : DataCall) :
    (link.call call).Agrees (link.conduct call) := by
  rw [← callWith_select]
  cases result : link.select.failure with
  | none =>
      simp only [callWith, conduct, afterSelect, result]
      exact ⟨rfl, rfl⟩
  | some error =>
      simp only [callWith, conduct, afterSelect, result]
      exact ⟨rfl, rfl⟩

/-- What a call on a selected device leaves alone: the table, and all of the device but the delays it
remembers. -/
structure Kept (before after : Link σ) : Prop where
  table : after.bus.table = before.bus.table
  device : after.device = { before.device with delays := after.device.delays }

namespace Kept

omit [Board σ]

theorem refl (link : Link σ) : Kept link link := ⟨rfl, rfl⟩

theorem withBoard (link : Link σ) (board : σ) : Kept link (link.withBoard board) := ⟨rfl, rfl⟩

theorem trans {first second third : Link σ} (left : Kept first second)
    (right : Kept second third) : Kept first third := by
  refine ⟨right.table.trans left.table, ?_⟩
  rw [right.device, left.device]

theorem controller {before after : Link σ} (kept : Kept before after) :
    after.device.controller = before.device.controller := by
  rw [kept.device]

theorem select {before after : Link σ} (kept : Kept before after) :
    after.device.select = before.device.select := by
  rw [kept.device]

end Kept

theorem updateDelays_kept (link : Link σ) (requested : SelectDelays) :
    Kept link (link.updateDelays requested) := by
  unfold updateDelays
  split
  · exact .refl link
  · dsimp only
    split
    · exact ⟨rfl, rfl⟩
    · exact .refl link

theorem send_kept (link : Link σ) (message : Message) : Kept link (link.send message).link := by
  have updated := link.updateDelays_kept message.delays
  unfold send
  split
  · dsimp only
    split
    · exact updated.trans (.withBoard _ _)
    · exact updated.trans (.withBoard _ _)
  · exact .refl link

theorem carryOut_kept (errands : List Errand) (link : Link σ) :
    Kept link (link.carryOut errands).link := by
  induction errands generalizing link with
  | nil => exact .refl link
  | cons errand rest ih =>
      cases errand with
      | pause ns => exact (Kept.withBoard link _).trans (ih _)
      | message message =>
          have sent := link.send_kept message
          cases result : (link.send message).failure with
          | none =>
              rw [carryOut_message_of_sent result]
              exact sent.trans (ih _)
          | some error =>
              rw [carryOut_message_of_failed result]
              exact sent

/-- A device is configured exactly if the table holds another chip select. -/
theorem select_cases (link : Link σ) :
    (link.bus.table.last.get link.device.controller = link.device.select ∧
        link.select = ⟨link, (), none⟩) ∨
      (link.bus.table.last.get link.device.controller ≠ link.device.select ∧
        link.select = link.configure) := by
  unfold select
  rw [SelectTable.mustConfigure_index]
  by_cases entry : link.bus.table.last.get link.device.controller = link.device.select
  · exact Or.inl ⟨entry, by simp [entry]⟩
  · exact Or.inr ⟨entry, by simp [entry]⟩

/-- A configuration that did not fail leaves the device as it was but for its delays, and its chip
select in the table. -/
theorem configure_of_accepted {link : Link σ} (accepted : link.configure.failure = none) :
    ∃ board, link.configure = ⟨link.configured board, (), none⟩ := by
  unfold configure at accepted ⊢
  split at accepted
  · exact ⟨_, rfl⟩
  · cases accepted

theorem configure_controller (link : Link σ) :
    link.configure.link.device.controller = link.device.controller := by
  unfold configure
  split
  · rfl
  · rfl

theorem select_controller (link : Link σ) :
    link.select.link.device.controller = link.device.controller := by
  rcases link.select_cases with ⟨_, same⟩ | ⟨_, same⟩
  · rw [same]
  · rw [same]
    exact link.configure_controller

/-- Selecting that did not fail leaves the table at the device's chip select. -/
theorem entry_of_select {link : Link σ} (selected : link.select.failure = none) :
    link.select.link.bus.table.last.get link.device.controller = link.device.select := by
  rcases link.select_cases with ⟨entry, same⟩ | ⟨_, same⟩
  · rw [same]
    exact entry
  · rw [same] at selected ⊢
    obtain ⟨board, result⟩ := configure_of_accepted selected
    simp [result, configured, SelectTable.record]

/-- A call stops after selecting, or carries its errands out, or configures the controller again
after they failed. -/
theorem call_cases (link : Link σ) (call : DataCall) :
    (∃ error, link.select.failure = some error ∧ (link.call call).link = link.select.link) ∨
      (link.select.failure = none ∧
        ((link.call call).link = (link.select.link.carryOut call.errands).link ∨
          (∃ error, (link.select.link.carryOut call.errands).failure = some error ∧
            (link.call call).link =
              (link.select.link.carryOut call.errands).link.configure.link))) := by
  rw [(link.call_agrees_conduct call).link]
  cases result : link.select.failure with
  | some error => exact Or.inl ⟨error, rfl, by simp only [conduct, afterSelect, result]⟩
  | none =>
      refine Or.inr ⟨rfl, ?_⟩
      simp only [conduct, afterSelect, result, carryOutAll]
      split
      · cases ended : (link.select.link.carryOut call.errands).failure with
        | none => exact Or.inl (by simp only [recover, ended])
        | some error => exact Or.inr ⟨error, rfl, by simp only [recover, ended]⟩
      · exact Or.inl rfl

end Link

end SharedSpi

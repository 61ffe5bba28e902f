import SharedSpi.Proofs.FailedTransactions
import SharedSpi.Proofs.SlicedWaits

/-!
# Exchanges

A message that comes to a transaction is an exchange, whether the transaction
succeeds or not. The messages of a call are taken in their order: first those
that came to a transaction, then those that came to none. The exchanges are the
transactions in the log, and what the call leaves of its buffers can be read off
them. A call ends when all messages are sent, at the first transaction that
fails, or at the first message whose count does not fit.
-/

namespace SharedSpi

/-- A message that came to a transaction. -/
structure Exchange where
  message : Message
  /-- The status that the transaction ended with. -/
  status : Int32
  /-- The bytes that it stored. -/
  received : Bytes

namespace Exchange

/-- The transaction of an exchange, as it stands in the log. -/
def event (device : Device) (exchange : Exchange) : BoardEvent :=
  ⟨.transaction device.controller (.ofMessage device.select exchange.message),
    some exchange.status⟩

/-- The buffers of the message once the bytes are stored. -/
def result (exchange : Exchange) : Buffers :=
  exchange.message.buffers.store exchange.received

/-- How many bytes a transaction stores: none if it fails or if there is no receive buffer. -/
def storedLength (exchange : Exchange) : Nat :=
  if exchange.status = 0 ∧ exchange.message.buffers.receiveSide?.isSome = true then
    exchange.message.count
  else 0

end Exchange

/-- What became of the messages of a call. -/
structure Dialogue where
  exchanges : List Exchange
  /-- The messages that came to no transaction. -/
  unsent : List Message

namespace Dialogue

/-- All messages, in their order. -/
def messages (dialogue : Dialogue) : List Message :=
  dialogue.exchanges.map Exchange.message ++ dialogue.unsent

/-- The buffers of all messages as the call leaves them. -/
def buffers (dialogue : Dialogue) : List Buffers :=
  dialogue.exchanges.map Exchange.result ++ dialogue.unsent.map Message.buffers

/-- The bytes that were stored, one exchange after the other. -/
def received (dialogue : Dialogue) : Bytes :=
  dialogue.exchanges.flatMap Exchange.received

/-- Puts an exchange in front. -/
def cons (exchange : Exchange) (dialogue : Dialogue) : Dialogue :=
  { dialogue with exchanges := exchange :: dialogue.exchanges }

/-- How a dialogue ends that added events to the log, and why the call failed if it did. -/
inductive Ends (device : Device) (events : List BoardEvent) :
    Dialogue → Option SpiError → Prop where
  /-- Every transaction succeeded, and there was none left. -/
  | complete {exchanges : List Exchange}
      (accepted : ∀ exchange ∈ exchanges, exchange.status = 0) :
      Ends device events ⟨exchanges, []⟩ none
  /-- A transaction failed, and it is the last event. -/
  | refused (done : List Exchange) {last : Exchange} {unsent : List Message} {fault : Fault}
      (accepted : ∀ exchange ∈ done, exchange.status = 0)
      (found : Fault.ofStatus? last.status = some fault)
      (final : ∃ before, events = before ++ [last.event device]) :
      Ends device events ⟨done ++ [last], unsent⟩ (some fault.toError)
  /-- The count of a message did not fit. -/
  | unfit {exchanges : List Exchange} {message : Message} {later : List Message}
      (accepted : ∀ exchange ∈ exchanges, exchange.status = 0)
      (unfit : message.fits = false) :
      Ends device events ⟨exchanges, message :: later⟩ (some .invalidArgument)

theorem Ends.cons {device : Device} {first events : List BoardEvent} {dialogue : Dialogue}
    {failure : Option SpiError} {exchange : Exchange} (zero : exchange.status = 0)
    (ends : Ends device events dialogue failure) :
    Ends device (first ++ events) (dialogue.cons exchange) failure := by
  cases ends with
  | complete accepted => exact .complete (List.forall_mem_cons.mpr ⟨zero, accepted⟩)
  | refused done accepted found final =>
      obtain ⟨before, rfl⟩ := final
      exact .refused (exchange :: done) (List.forall_mem_cons.mpr ⟨zero, accepted⟩) found
        ⟨first ++ before, (List.append_assoc _ _ _).symm⟩
  | unfit accepted unfit => exact .unfit (List.forall_mem_cons.mpr ⟨zero, accepted⟩) unfit

/-- Of the device, only its controller and its chip select matter. -/
theorem Ends.of_device {first second : Device} {events : List BoardEvent} {dialogue : Dialogue}
    {failure : Option SpiError} (ends : Ends second events dialogue failure)
    (same : Exchange.event second = Exchange.event first) : Ends first events dialogue failure := by
  cases ends with
  | complete accepted => exact .complete accepted
  | refused done accepted found final =>
      rw [same] at final
      exact .refused done accepted found final
  | unfit accepted unfit => exact .unfit accepted unfit

theorem Ends.after {device : Device} {events : List BoardEvent} {dialogue : Dialogue}
    {failure : Option SpiError} (ends : Ends device events dialogue failure)
    (first : List BoardEvent) : Ends device (first ++ events) dialogue failure := by
  cases ends with
  | complete accepted => exact .complete accepted
  | refused done accepted found final =>
      obtain ⟨before, rfl⟩ := final
      exact .refused done accepted found ⟨first ++ before, (List.append_assoc _ _ _).symm⟩
  | unfit accepted unfit => exact .unfit accepted unfit

end Dialogue

/-- Whether an event is a transaction. -/
def BoardEvent.isTransaction (event : BoardEvent) : Bool :=
  event.call.request?.isSome

theorem filter_isTransaction_of_quiet {events : List BoardEvent}
    (quiet : ∀ event ∈ events, event.call.request? = none) :
    events.filter BoardEvent.isTransaction = [] := by
  rw [List.filter_eq_nil_iff]
  intro event found
  rw [BoardEvent.isTransaction, quiet event found]
  exact Bool.false_ne_true

/-- A transaction that failed leaves the buffers of its message as they were. -/
theorem Exchange.result_of_failed {exchange : Exchange}
    (length : exchange.received.length = exchange.storedLength) (bad : exchange.status ≠ 0) :
    exchange.result = exchange.message.buffers := by
  rw [storedLength, if_neg fun accepted => bad accepted.1] at length
  rw [result, List.eq_nil_of_length_eq_zero length, Buffers.store_nil]

/-- From one script to another, bytes were taken from the received stream and nothing else changed in
it. -/
structure Responses.Advanced (before after : Responses) (count : Nat) : Prop where
  stream : after.stream = before.stream
  position : after.position = before.position + count

theorem Responses.Advanced.upcoming_add {before after : Responses} {taken : Nat}
    (advanced : Advanced before after taken) (count : Nat) :
    before.upcoming (taken + count) = before.upcoming taken ++ after.upcoming count := by
  rw [Responses.upcoming_add]
  simp only [upcoming, afterBytes, advanced.stream, advanced.position]

/-- What an exchange adds to the log: the timing register is written if need be, the transaction is run,
and if it succeeds the wait after the message is made. -/
structure Exchange.Adds (device : Device) (exchange : Exchange) (writes : List BoardEvent)
    (waits : List UInt32) : Prop where
  writes : writes = [] ∨ ∃ timing, writes = [⟨.setTiming device.controller timing, none⟩]
  accepted : exchange.status = 0 →
    (waits.map UInt32.toNat).sum = 1000 * exchange.message.waitAfter.toNat
  refused : exchange.status ≠ 0 → waits = []

/-- The transaction of an exchange is the only one among the events it adds. -/
theorem Exchange.Adds.transactions {device : Device} {exchange : Exchange}
    {writes : List BoardEvent} {waits : List UInt32} (adds : exchange.Adds device writes waits) :
    (writes ++ exchange.event device :: waits.map waitEvent).filter BoardEvent.isTransaction =
      [exchange.event device] := by
  have before : writes.filter BoardEvent.isTransaction = [] := by
    refine filter_isTransaction_of_quiet fun event found => ?_
    rcases adds.writes with none | ⟨timing, one⟩
    · rw [none] at found
      cases found
    · rw [one] at found
      rw [List.mem_singleton.mp found]
      rfl
  have after : (waits.map waitEvent).filter BoardEvent.isTransaction = [] := by
    refine filter_isTransaction_of_quiet fun event found => ?_
    obtain ⟨ns, _, rfl⟩ := List.mem_map.mp found
    rfl
  rw [List.filter_append, before, List.nil_append, List.filter_cons_of_pos rfl, after]

namespace Link

/-- What a message that fits leaves behind: it is one exchange. -/
structure Exchanged (link : Link Recorder) (exchange : Exchange) (writes : List BoardEvent)
    (waits : List UInt32) (sent : Outcome Recorder Buffers) : Prop where
  status : exchange.status = link.board.responses.status .transaction
  log : sent.link.board.log =
    link.board.log ++ (writes ++ exchange.event link.device :: waits.map waitEvent)
  adds : exchange.Adds link.device writes waits
  data : sent.data = exchange.result
  received : exchange.received = link.board.responses.upcoming exchange.storedLength
  advanced : Responses.Advanced link.board.responses sent.link.board.responses exchange.storedLength
  ended : (exchange.status = 0 ∧ sent.failure = none) ∨
    ∃ fault, Fault.ofStatus? exchange.status = some fault ∧ sent.failure = some fault.toError

theorem Exchanged.length {link : Link Recorder} {exchange : Exchange} {writes : List BoardEvent}
    {waits : List UInt32} {sent : Outcome Recorder Buffers}
    (exchanged : link.Exchanged exchange writes waits sent) :
    exchange.received.length = exchange.storedLength := by
  rw [exchanged.received, Responses.length_upcoming]

theorem send_exchanged (link : Link Recorder) {message : Message} (fits : message.fits = true) :
    ∃ exchange writes waits, exchange.message = message ∧
      link.Exchanged exchange writes waits (link.send message) := by
  have kept := link.updateDelays_kept message.delays
  obtain ⟨writes, written, most⟩ := link.updateDelays_writes message.delays
  let ready := link.updateDelays message.delays
  have responses : ready.board.responses = link.board.responses :=
    link.updateDelays_responses message.delays
  have stream : ready.board.responses.stream = link.board.responses.stream := by rw [responses]
  have position : ready.board.responses.position = link.board.responses.position := by
    rw [responses]
  let status := ready.board.responses.status .transaction
  have asked : status = link.board.responses.status .transaction := by
    simp only [status, responses]
  cases result : Fault.ofStatus? status with
  | none =>
      have zero : status = 0 := (Fault.ofStatus?_eq_none_iff _).mp result
      let wanted := (ready.request message).receiveLength
      let exchange : Exchange := ⟨message, 0, link.board.responses.upcoming wanted⟩
      have stored : exchange.storedLength = wanted := by
        simp only [Exchange.storedLength, exchange, true_and]
        rfl
      rw [link.send_of_accepted fits zero]
      refine ⟨exchange, writes, waitSlices message.waitAfter, rfl, zero.symm.trans asked, ?_,
        ⟨most, fun _ => ?_, fun bad => (bad rfl).elim⟩, ?_, ?_, ?_, Or.inl ⟨rfl, rfl⟩⟩
      · rw [← List.append_assoc, ← written, Exchange.event, ← kept.controller, ← kept.select]
        rfl
      · rw [sum_waitSlices, Nat.mul_comm]
      · simp only [Exchange.result, exchange, ← responses]
        rfl
      · rw [stored]
      · rw [stored]
        exact ⟨stream, congrArg (· + wanted) position⟩
  | some fault =>
      let exchange : Exchange := ⟨message, status, []⟩
      have bad : exchange.status ≠ 0 := Fault.ne_zero_of_ofStatus? result
      have stored : exchange.storedLength = 0 := if_neg fun accepted => bad accepted.1
      rw [link.send_of_rejected fits result]
      refine ⟨exchange, writes, [], rfl, asked, ?_,
        ⟨most, fun zero => (bad zero).elim, fun _ => rfl⟩, (Buffers.store_nil _).symm, ?_, ?_,
        Or.inr ⟨fault, result, rfl⟩⟩
      · rw [← List.append_assoc, ← written, Exchange.event, ← kept.controller, ← kept.select]
        rfl
      · rw [stored]
        rfl
      · rw [stored]
        exact ⟨stream, position⟩

/-- What messages leave behind: they are a dialogue, whose exchanges are the transactions among the
events. -/
structure Held (link : Link Recorder) (messages : List Message) (dialogue : Dialogue)
    (events : List BoardEvent) (failure : Option SpiError) : Prop where
  messages : dialogue.messages = messages
  fit : ∀ exchange ∈ dialogue.exchanges, exchange.message.fits = true
  transactions : events.filter BoardEvent.isTransaction =
    dialogue.exchanges.map (Exchange.event link.device)
  lengths : ∀ exchange ∈ dialogue.exchanges, exchange.received.length = exchange.storedLength
  received : dialogue.received = link.board.responses.upcoming dialogue.received.length
  ends : dialogue.Ends link.device events failure

/-- Messages none of which comes to a transaction. -/
theorem Held.of_unsent (link : Link Recorder) {messages : List Message}
    {failure : Option SpiError} (ends : Dialogue.Ends link.device [] ⟨[], messages⟩ failure) :
    link.Held messages ⟨[], messages⟩ [] failure :=
  ⟨rfl, by simp, rfl, by simp, rfl, ends⟩

/-- A message that was sent, and those behind it. -/
theorem Held.cons {link : Link Recorder} {exchange : Exchange} {writes events : List BoardEvent}
    {waits : List UInt32} {sent : Outcome Recorder Buffers} {messages : List Message}
    {dialogue : Dialogue} {failure : Option SpiError}
    (fits : exchange.message.fits = true) (exchanged : link.Exchanged exchange writes waits sent)
    (zero : exchange.status = 0) (kept : Kept link sent.link)
    (held : sent.link.Held messages dialogue events failure) :
    link.Held (exchange.message :: messages) (dialogue.cons exchange)
      (writes ++ exchange.event link.device :: waits.map waitEvent ++ events) failure := by
  have length := exchanged.length
  have same : Exchange.event sent.link.device = Exchange.event link.device := by
    rw [kept.device]
    rfl
  refine ⟨congrArg (exchange.message :: ·) held.messages,
    List.forall_mem_cons.mpr ⟨fits, held.fit⟩, ?_,
    List.forall_mem_cons.mpr ⟨length, held.lengths⟩, ?_, (held.ends.of_device same).cons zero⟩
  · rw [List.filter_append, exchanged.adds.transactions, held.transactions, same]
    rfl
  · have joined : (dialogue.cons exchange).received = exchange.received ++ dialogue.received := rfl
    rw [joined, List.length_append, length, exchanged.advanced.upcoming_add, ← exchanged.received,
      ← held.received]

/-- Errands are carried out as a dialogue. -/
theorem carryOut_held (errands : List Errand) (link : Link Recorder) :
    ∃ dialogue events, (link.carryOut errands).link.board.log = link.board.log ++ events ∧
      (link.carryOut errands).data = dialogue.buffers ∧
      link.Held (Errand.messages errands) dialogue events (link.carryOut errands).failure := by
  induction errands generalizing link with
  | nil =>
      exact ⟨⟨[], []⟩, [], (List.append_nil _).symm, rfl, .of_unsent link (.complete (by simp))⟩
  | cons errand rest ih =>
      cases errand with
      | pause ns =>
          obtain ⟨dialogue, events, grown, data, held⟩ :=
            ih (link.withBoard (Board.wait link.board ns))
          refine ⟨dialogue, waitEvent ns :: events, ?_, data, held.messages, held.fit,
            held.transactions, held.lengths, held.received, held.ends.after [waitEvent ns]⟩
          rw [carryOut, grown]
          exact List.append_assoc _ [waitEvent ns] events
      | message message =>
          cases fits : message.fits with
          | false =>
              have unsent := link.send_of_unfit fits
              have failed : (link.send message).failure = some .invalidArgument := by rw [unsent]
              rw [carryOut_message_of_failed failed, unsent, Errand.buffers_eq_map]
              exact ⟨_, [], (List.append_nil _).symm, rfl, .of_unsent link (.unfit (by simp) fits)⟩
          | true =>
              obtain ⟨exchange, writes, waits, rfl, exchanged⟩ := link.send_exchanged fits
              rcases exchanged.ended with ⟨zero, sent⟩ | ⟨fault, found, failed⟩
              · obtain ⟨dialogue, events, grown, data, held⟩ :=
                  ih (link.send exchange.message).link
                rw [carryOut_message_of_sent sent, exchanged.data, data]
                refine ⟨dialogue.cons exchange, _, ?_, rfl,
                  held.cons fits exchanged zero (link.send_kept _)⟩
                rw [grown, exchanged.log, List.append_assoc]
              · have length := exchanged.length
                have only : Dialogue.received ⟨[exchange], Errand.messages rest⟩ =
                    exchange.received := List.flatMap_singleton _ _
                rw [carryOut_message_of_failed failed, exchanged.data, Errand.buffers_eq_map]
                have nothing := exchanged.adds.refused (Fault.ne_zero_of_ofStatus? found)
                refine ⟨⟨[exchange], Errand.messages rest⟩, _, exchanged.log, rfl, rfl,
                  by simpa using fits, exchanged.adds.transactions, by simpa using length, ?_,
                  .refused [] (by simp) found ⟨writes, by rw [nothing]; rfl⟩⟩
                rw [only, length, ← exchanged.received]

/-- Selecting a device changes nothing that a dialogue depends on. -/
theorem Held.of_select {link : Link Recorder} {messages : List Message} {dialogue : Dialogue}
    {events : List BoardEvent} {failure : Option SpiError}
    (held : link.select.link.Held messages dialogue events failure) :
    link.Held messages dialogue events failure := by
  have same : Exchange.event link.select.link.device = Exchange.event link.device := by
    rw [link.select_confined.device]
    rfl
  obtain ⟨stream, position⟩ := link.select_stream
  refine ⟨held.messages, held.fit, held.transactions.trans (by rw [same]), held.lengths, ?_,
    held.ends.of_device same⟩
  rw [held.received, Responses.length_upcoming, Responses.upcoming, stream, position]
  rfl

/-- A call on a selected device is a dialogue, and perhaps a configuration after it. -/
theorem call_held {link : Link Recorder} (selected : link.select.failure = none)
    (call : DataCall) :
    let carried := link.select.link.carryOut call.errands
    ∃ dialogue traffic recovering,
      carried.link.board.log = link.select.link.board.log ++ traffic ∧
      (link.call call).link.board.log = link.select.link.board.log ++ (traffic ++ recovering) ∧
      (link.call call).data = call.received dialogue.buffers ∧
      link.Held (Errand.messages call.errands) dialogue traffic (link.call call).failure ∧
      (∀ event ∈ traffic, event.IsTraffic link.device.controller) ∧
      ((call.recovers = false ∨ (link.call call).failure = none) ∧
          (link.call call).link = carried.link ∧ recovering = [] ∨
        (call.recovers = true ∧ (link.call call).failure ≠ none) ∧
          (link.call call).link = carried.link.configure.link ∧
          Attempt link.device recovering carried.link.configure.link) := by
  intro carried
  obtain ⟨dialogue, traffic, grown, data, held⟩ := link.select.link.carryOut_held call.errands
  obtain ⟨events, alsoGrown, each⟩ := link.select.link.carryOut_traffic call.errands
  obtain rfl : traffic = events := List.append_cancel_left (grown.symm.trans alsoGrown)
  rw [link.select_controller] at each
  rw [call_of_selected selected]
  -- A recovery adds events behind the dialogue and leaves its outcome as it is.
  by_cases again : call.recovers = true ∧ carried.failure ≠ none
  · obtain ⟨recovers, failed⟩ := again
    obtain ⟨recovering, regrown, attempt⟩ := carried.link.configure_attempt
    have asked : (call.recovers && carried.failure.isSome) = true := by
      rw [recovers, Bool.true_and, Option.isSome_iff_ne_none]
      exact failed
    have device : carried.link.device =
        { link.device with delays := carried.link.device.delays } := by
      rw [(link.select.link.carryOut_kept call.errands).device, link.select_confined.device]
    refine ⟨dialogue, traffic, recovering, grown, ?_, congrArg call.received data, held.of_select,
      each, Or.inr ⟨⟨recovers, failed⟩, ?_, attempt.of_device device⟩⟩
    · rw [asked, if_pos rfl, regrown, ← List.append_assoc, ← grown]
    · rw [asked, if_pos rfl]
  · have asked : ¬ (call.recovers && carried.failure.isSome) = true := by
      rw [Bool.and_eq_true, Option.isSome_iff_ne_none]
      exact again
    refine ⟨dialogue, traffic, [], grown, ?_, congrArg call.received data, held.of_select, each,
      Or.inl ⟨?_, if_neg asked, rfl⟩⟩
    · rw [List.append_nil, if_neg asked]
      exact grown
    · by_cases recovers : call.recovers = true
      · exact Or.inr (Classical.not_not.mp fun failed => again ⟨recovers, failed⟩)
      · exact Or.inl (Bool.eq_false_iff.mpr recovers)

end Link

end SharedSpi

import SharedSpi.Proofs.Exchanges
import SharedSpi.Proofs.Standings

/-!
# What a device sees of its board

A device depends on the clocks, on the timing register and the table entry of its
own controller, and on the statuses of its calls. Two boards that agree on these
stay in step: whatever the device does, it adds the same events to both logs.
The queues of statuses are shared by the controllers, but while every status is
success it does not matter which of them takes one from a queue. So one board may
be ahead of the other by some successes, and the received streams may differ
altogether.
-/

namespace SharedSpi

/-- The call ended with success, if calls of its kind end with a status. -/
def BoardEvent.EndedWell (event : BoardEvent) : Prop :=
  event.status.getD 0 = 0

instance (event : BoardEvent) : Decidable event.EndedWell :=
  inferInstanceAs (Decidable (event.status.getD 0 = 0))

namespace Responses

/-- The queues of the second script, behind successes that were taken from it already. -/
def Lags (first second : Responses) : Prop :=
  ∀ kind, ∃ count, first.statuses kind = List.replicate count 0 ++ second.statuses kind

namespace Lags

variable {first second third : Responses}

theorem refl (responses : Responses) : Lags responses responses :=
  fun _ => ⟨0, rfl⟩

theorem trans (left : Lags first second) (right : Lags second third) : Lags first third := by
  intro kind
  obtain ⟨some, earlier⟩ := left kind
  obtain ⟨more, later⟩ := right kind
  refine ⟨some + more, ?_⟩
  rw [earlier, later, ← List.append_assoc, List.replicate_append_replicate]

theorem status (lags : Lags first second) {kind : CallKind} (zero : second.status kind = 0) :
    first.status kind = 0 := by
  obtain ⟨count, same⟩ := lags kind
  rw [Responses.status, same]
  cases count with
  | zero => exact zero
  | succ count => rfl

/-- A call that succeeds takes a success from its queue, unless this was empty. -/
theorem of_afterCall {responses : Responses} {kind : CallKind} (zero : responses.status kind = 0) :
    Lags responses (responses.afterCall kind) := by
  intro asked
  simp only [Responses.afterCall]
  by_cases same : asked = kind
  · rw [if_pos same, same]
    unfold Responses.status at zero
    cases queue : responses.statuses kind with
    | nil => exact ⟨0, rfl⟩
    | cons status rest =>
        rw [queue] at zero
        exact ⟨1, congrArg (· :: rest) zero⟩
  · rw [if_neg same]
    exact ⟨0, rfl⟩

/-- Both scripts have answered a call of one kind. -/
theorem afterCall (lags : Lags first second) {kind : CallKind} (zero : second.status kind = 0) :
    Lags (first.afterCall kind) (second.afterCall kind) := by
  intro asked
  obtain ⟨count, same⟩ := lags asked
  obtain ⟨taken, later⟩ := of_afterCall zero asked
  by_cases own : asked = kind
  · cases count with
    | zero =>
        refine ⟨0, ?_⟩
        simp only [Responses.afterCall, own, if_true]
        rw [← own, same]
        rfl
    | succ count =>
        refine ⟨count + taken, ?_⟩
        rw [← List.replicate_append_replicate, List.append_assoc, ← later]
        simp only [Responses.afterCall, own, if_true]
        rw [← own, same]
        rfl
  · refine ⟨count, ?_⟩
    simp only [Responses.afterCall, own, if_false]
    exact same

theorem adjust (lags : Lags first second) (settings : BenchSettings) :
    Lags (first.adjust settings) (second.adjust settings) := by
  have queued : Lags (first.enqueue settings.statuses) (second.enqueue settings.statuses) := by
    intro kind
    obtain ⟨count, same⟩ := lags kind
    exact ⟨count, by simp only [enqueue, same, List.append_assoc]⟩
  unfold Responses.adjust
  split
  · exact queued
  · exact queued

end Lags

end Responses

namespace Recorder

/-- Two boards on which a device of a controller finds the same, the second of which may still have
successes in its queues that are taken from the first. -/
structure SameFor (controller : Controller) (shared alone : Recorder) : Prop where
  clocks : alone.clocks = shared.clocks
  timing : alone.timing.get controller = shared.timing.get controller
  lags : alone.responses.Lags shared.responses

/-- Two such boards, with the same events since their logs were `first` and `second`. -/
structure InStep (controller : Controller) (first second : List BoardEvent)
    (shared alone : Recorder) : Prop extends SameFor controller shared alone where
  logs : ∃ events, shared.log = first ++ events ∧ alone.log = second ++ events

variable {controller : Controller} {first second : List BoardEvent}
  {shared alone sharedAfter aloneAfter : Recorder}

theorem SameFor.inStep (same : SameFor controller shared alone) :
    InStep controller shared.log alone.log shared alone :=
  ⟨same, [], (List.append_nil _).symm, (List.append_nil _).symm⟩

namespace InStep

/-- Boards stay in step if the same events are added. -/
theorem append (inStep : InStep controller first second shared alone)
    (same : SameFor controller sharedAfter aloneAfter) {events : List BoardEvent}
    (one : sharedAfter.log = shared.log ++ events) (other : aloneAfter.log = alone.log ++ events) :
    InStep controller first second sharedAfter aloneAfter := by
  obtain ⟨earlier, left, right⟩ := inStep.logs
  refine ⟨same, earlier ++ events, ?_, ?_⟩
  · rw [one, left, List.append_assoc]
  · rw [other, right, List.append_assoc]

/-- What is in step since some time later is in step since the earlier one. -/
theorem since (inStep : InStep controller first second shared alone)
    (later : InStep controller shared.log alone.log sharedAfter aloneAfter) :
    InStep controller first second sharedAfter aloneAfter := by
  obtain ⟨events, one, other⟩ := later.logs
  exact inStep.append later.toSameFor one other

theorem record (inStep : InStep controller first second shared alone) (call : BoardCall)
    (status : Option Int32) :
    InStep controller first second (shared.record call status) (alone.record call status) :=
  inStep.append ⟨inStep.clocks, inStep.timing, inStep.lags⟩ rfl rfl

theorem setTiming (inStep : InStep controller first second shared alone) (timing : SelectTiming) :
    InStep controller first second (Board.setTiming shared controller timing)
      (Board.setTiming alone controller timing) := by
  refine inStep.append ⟨inStep.clocks, ?_, inStep.lags⟩ rfl rfl
  rw [setTiming_eq, setTiming_eq, Bank.get_set_same, Bank.get_set_same]

/-- A call that succeeds on the first board succeeds on the second. -/
theorem answer (inStep : InStep controller first second shared alone) {kind : CallKind}
    (zero : shared.responses.status kind = 0) (call : BoardCall) :
    InStep controller first second (shared.answer kind call) (alone.answer kind call) := by
  have also := inStep.lags.status zero
  refine inStep.append ⟨inStep.clocks, inStep.timing, inStep.lags.afterCall zero⟩
    (show _ = _ ++ [_] from rfl) ?_
  simp only [Recorder.answer, Recorder.record, zero, also]

theorem setupAll (calls : List SetupCall)
    (inStep : InStep controller first second shared alone)
    (accepted : (Board.setupAll shared controller calls).2 = true) :
    (Board.setupAll alone controller calls).2 = true ∧
      InStep controller first second (Board.setupAll shared controller calls).1
        (Board.setupAll alone controller calls).1 := by
  induction calls generalizing shared alone with
  | nil => exact ⟨rfl, inStep⟩
  | cons call rest ih =>
      cases result : shared.fault? call.kind with
      | some fault =>
          simp only [Board.setupAll, setup_eq, result, Bool.false_eq_true] at accepted
      | none =>
          have zero : shared.responses.status call.kind = 0 :=
            (Fault.ofStatus?_eq_none_iff _).mp result
          have also : alone.fault? call.kind = none :=
            (Fault.ofStatus?_eq_none_iff _).mpr (inStep.lags.status zero)
          simp only [Board.setupAll, setup_eq, result, also] at accepted ⊢
          exact ih (inStep.answer zero (.setup controller call)) accepted

end InStep

/-- Configuring calls that all succeed take nothing but successes. -/
theorem setupAll_lags (calls : List SetupCall) (recorder : Recorder) (controller : Controller)
    (accepted : (Board.setupAll recorder controller calls).2 = true) :
    recorder.responses.Lags (Board.setupAll recorder controller calls).1.responses := by
  induction calls generalizing recorder with
  | nil => exact .refl _
  | cons call rest ih =>
      cases result : recorder.fault? call.kind with
      | some fault =>
          simp only [Board.setupAll, setup_eq, result, Bool.false_eq_true] at accepted
      | none =>
          simp only [Board.setupAll, setup_eq, result] at accepted ⊢
          exact (Responses.Lags.of_afterCall ((Fault.ofStatus?_eq_none_iff _).mp result)).trans
            (ih (recorder.answer call.kind (.setup controller call)) accepted)

end Recorder

namespace Exchange

/-- The same message with the same end; the bytes received may differ, but not their number. -/
structure Resembles (one other : Exchange) : Prop where
  message : other.message = one.message
  status : other.status = one.status
  length : other.received.length = one.received.length

end Exchange

/-- Dialogues that differ in the values of received bytes at most. -/
structure Dialogue.Resembles (one other : Dialogue) : Prop where
  exchanges : List.Forall₂ Exchange.Resembles one.exchanges other.exchanges
  unsent : other.unsent = one.unsent

namespace Link

/-- A configuration during which every call ended well is not refused. -/
theorem configure_of_endedWell {link : Link Recorder}
    (well : ∀ event ∈ link.configure.link.board.log, event.EndedWell) :
    link.configure.failure = none := by
  rcases link.configure_cases with ⟨board, completed⟩ | ⟨board, refused⟩
  · exact completed.failure
  · obtain ⟨failing, status, bad, found⟩ := refused.mem_log
    exact (bad (well _ found)).elim

theorem select_of_endedWell {link : Link Recorder}
    (well : ∀ event ∈ link.select.link.board.log, event.EndedWell) :
    link.select.failure = none := by
  rcases link.select_cases with ⟨_, same⟩ | ⟨_, same⟩
  · rw [same]
  · rw [same] at well ⊢
    exact configure_of_endedWell well

/-- A configuration that is not refused, as the calls that it makes. -/
theorem configure_of_setupAll {link : Link Recorder} (accepted : link.configure.failure = none) :
    (Board.setupAll link.board link.device.controller link.device.setupCalls).2 = true ∧
      link.configure.link = link.configured
        (Board.setupAll link.board link.device.controller link.device.setupCalls).1 := by
  unfold configure at accepted ⊢
  split at accepted
  · next same => exact ⟨by rw [same], by rw [same]⟩
  · cases accepted

/-- A message of which every call ended well was refused for its count or not at all. -/
theorem status_of_endedWell {link : Link Recorder} {message : Message} (fits : message.fits = true)
    (well : ∀ event ∈ (link.send message).link.board.log, event.EndedWell) :
    (link.updateDelays message.delays).board.responses.status .transaction = 0 := by
  cases result : Fault.ofStatus?
      ((link.updateDelays message.delays).board.responses.status .transaction) with
  | none => exact (Fault.ofStatus?_eq_none_iff _).mp result
  | some fault =>
      rw [link.send_of_rejected fits result] at well
      exact well _ (List.mem_append_right _ List.mem_cons_self)

/-- While every call ends well, a device takes nothing but successes. -/
theorem Course.lags {before after : Link Recorder} {deeds : List (Deed Recorder)}
    (course : Course before deeds after) (well : ∀ event ∈ after.board.log, event.EndedWell) :
    before.board.responses.Lags after.board.responses := by
  have configured (link : Link Recorder) (accepted : link.configure.failure = none) :
      link.board.responses.Lags link.configure.link.board.responses := by
    obtain ⟨done, same⟩ := configure_of_setupAll accepted
    rw [same]
    exact Recorder.setupAll_lags _ _ _ done
  induction course with
  | stay link => exact .refl _
  | configured accepted => exact configured _ accepted
  | refused failed => exact configured _ (configure_of_endedWell well)
  | waited link ns => exact .refl _
  | @sent link message fits =>
      have zero := status_of_endedWell fits well
      rw [link.send_of_accepted fits zero, ← link.updateDelays_responses message.delays]
      exact .of_afterCall zero
  | append left right first second =>
      obtain ⟨events, grown, _⟩ := right.concern
      exact (first (forall_mem_of_grown grown well)).trans (second well)

/-- One device on two boards that are in step since their logs were `first` and `second`. -/
structure InStep (first second : List BoardEvent) (shared alone : Link Recorder) : Prop where
  board : Recorder.InStep shared.device.controller first second shared.board alone.board
  entry : alone.bus.table.last.get shared.device.controller =
    shared.bus.table.last.get shared.device.controller
  device : alone.device = shared.device

namespace InStep

variable {first second : List BoardEvent} {shared alone : Link Recorder}

theorem controller (inStep : InStep first second shared alone) :
    alone.device.controller = shared.device.controller := by
  rw [inStep.device]

/-- The boards are in step since the link that is at hand. -/
theorem now (inStep : InStep first second shared alone) :
    InStep shared.board.log alone.board.log shared alone :=
  ⟨inStep.board.toSameFor.inStep, inStep.entry, inStep.device⟩

theorem since {sharedAfter aloneAfter : Link Recorder} (inStep : InStep first second shared alone)
    (later : InStep shared.board.log alone.board.log sharedAfter aloneAfter)
    (controller : sharedAfter.device.controller = shared.device.controller) :
    InStep first second sharedAfter aloneAfter := by
  refine ⟨?_, later.entry, later.device⟩
  have board := later.board
  rw [controller] at board ⊢
  exact inStep.board.since board

theorem withBoard (inStep : InStep first second shared alone) {one other : Recorder}
    (board : Recorder.InStep shared.device.controller first second one other) :
    InStep first second (shared.withBoard one) (alone.withBoard other) :=
  ⟨board, inStep.entry, inStep.device⟩

/-- If the controller is configured on the first board, so it is on the second. -/
theorem configure (inStep : InStep first second shared alone)
    (accepted : shared.configure.failure = none) :
    alone.configure.failure = none ∧
      InStep first second shared.configure.link alone.configure.link := by
  obtain ⟨done, same⟩ := configure_of_setupAll accepted
  obtain ⟨also, board⟩ := inStep.board.setupAll _ done
  rw [← inStep.device] at also board
  have fine : alone.configure.failure = none := by
    unfold Link.configure
    split
    · rfl
    · next ended =>
      rw [ended] at also
      cases also
  obtain ⟨_, alike⟩ := configure_of_setupAll fine
  refine ⟨fine, ?_⟩
  rw [same, alike]
  refine ⟨?_, ?_, ?_⟩
  · have written := board.setTiming
      (Board.timing (Board.setupAll shared.board alone.device.controller alone.device.setupCalls).1
        alone.device.controller).shortest
    rw [inStep.device] at written board ⊢
    simp only [configured, Link.board, Recorder.timing_eq] at written board ⊢
    rw [inStep.device, board.timing]
    exact written
  · simp only [configured, SelectTable.record, inStep.device, Bank.get_set_same]
  · simp only [configured, inStep.device]

theorem select (inStep : InStep first second shared alone)
    (accepted : shared.select.failure = none) :
    alone.select.failure = none ∧ InStep first second shared.select.link alone.select.link := by
  rcases shared.select_cases with ⟨entry, same⟩ | ⟨entry, same⟩
  · rcases alone.select_cases with ⟨_, also⟩ | ⟨differ, _⟩
    · rw [same, also]
      exact ⟨rfl, inStep⟩
    · rw [inStep.device, inStep.entry] at differ
      exact (differ entry).elim
  · rcases alone.select_cases with ⟨agree, _⟩ | ⟨_, also⟩
    · rw [inStep.device, inStep.entry] at agree
      exact (entry agree).elim
    · rw [same] at accepted ⊢
      rw [also]
      exact inStep.configure accepted

theorem updateDelays (inStep : InStep first second shared alone) (requested : SelectDelays) :
    InStep first second (shared.updateDelays requested) (alone.updateDelays requested) := by
  unfold Link.updateDelays
  dsimp only
  rw [inStep.device, Recorder.clock_eq, Recorder.clock_eq, Recorder.timing_eq, Recorder.timing_eq,
    inStep.board.clocks, inStep.board.timing]
  split
  · exact inStep
  · split
    · next timing _ => exact ⟨inStep.board.setTiming timing, inStep.entry, rfl⟩
    · exact inStep

/-- While every call ends well, a message has the same end on both boards. -/
theorem send (inStep : InStep first second shared alone) {message : Message}
    (well : ∀ event ∈ (shared.send message).link.board.log, event.EndedWell) :
    (alone.send message).failure = (shared.send message).failure ∧
      InStep first second (shared.send message).link (alone.send message).link := by
  cases fits : message.fits with
  | false =>
      rw [send_of_unfit _ fits, send_of_unfit _ fits]
      exact ⟨rfl, inStep⟩
  | true =>
      have zero := status_of_endedWell fits well
      have ready := inStep.updateDelays message.delays
      have also := ready.board.lags.status zero
      rw [send_of_accepted _ fits zero, send_of_accepted _ fits also]
      refine ⟨rfl, ready.withBoard ?_⟩
      rw [ready.controller, request, request, ready.device]
      exact ready.board.append
        ⟨ready.board.clocks, ready.board.timing, ready.board.lags.afterCall zero⟩ rfl rfl

theorem carryOut (errands : List Errand) (inStep : InStep first second shared alone)
    (well : ∀ event ∈ (shared.carryOut errands).link.board.log, event.EndedWell) :
    (alone.carryOut errands).failure = (shared.carryOut errands).failure ∧
      InStep first second (shared.carryOut errands).link (alone.carryOut errands).link := by
  induction errands generalizing shared alone with
  | nil => exact ⟨rfl, inStep⟩
  | cons errand rest ih =>
      cases errand with
      | pause ns => exact ih (inStep.withBoard (inStep.board.record (.wait ns) none)) well
      | message message =>
          cases result : (shared.send message).failure with
          | none =>
              rw [carryOut_message_of_sent result] at well ⊢
              obtain ⟨events, grown, _⟩ := (shared.send message).link.carryOut_traffic rest
              obtain ⟨failure, sent⟩ := inStep.send (forall_mem_of_grown grown well)
              rw [result] at failure
              rw [carryOut_message_of_sent failure]
              exact ih sent well
          | some error =>
              rw [carryOut_message_of_failed result] at well ⊢
              obtain ⟨failure, sent⟩ := inStep.send well
              rw [result] at failure
              rw [carryOut_message_of_failed failure]
              exact ⟨rfl, sent⟩

end InStep

/-- The same messages with the same transactions resemble each other. -/
theorem resembles_of_events {device : Device} {exchanges others : List Exchange}
    (messages : exchanges.map Exchange.message = others.map Exchange.message)
    (events : exchanges.map (Exchange.event device) = others.map (Exchange.event device))
    (lengths : ∀ exchange ∈ exchanges, exchange.received.length = exchange.storedLength)
    (otherLengths : ∀ exchange ∈ others, exchange.received.length = exchange.storedLength) :
    List.Forall₂ Exchange.Resembles exchanges others := by
  induction exchanges generalizing others with
  | nil =>
      cases others with
      | nil => exact .nil
      | cons other later => cases messages
  | cons exchange rest ih =>
      cases others with
      | nil => cases messages
      | cons other later =>
          obtain ⟨message, messages⟩ := List.cons.inj messages
          obtain ⟨event, events⟩ := List.cons.inj events
          obtain ⟨length, lengths⟩ := List.forall_mem_cons.mp lengths
          obtain ⟨otherLength, otherLengths⟩ := List.forall_mem_cons.mp otherLengths
          have status : exchange.status = other.status :=
            Option.some.inj (congrArg BoardEvent.status event)
          refine .cons ⟨message.symm, status.symm, ?_⟩ (ih messages events lengths otherLengths)
          rw [length, otherLength, Exchange.storedLength, Exchange.storedLength, status, message]

/-- Dialogues of the same messages with the same transactions. -/
theorem Held.resembles {shared alone : Link Recorder} {messages : List Message}
    {one other : Dialogue} {events : List BoardEvent} {failure otherFailure : Option SpiError}
    (held : shared.Held messages one events failure)
    (also : alone.Held messages other events otherFailure)
    (device : Exchange.event alone.device = Exchange.event shared.device) :
    one.Resembles other := by
  have transactions := held.transactions.symm.trans also.transactions
  rw [device] at transactions
  have count := congrArg List.length transactions
  obtain ⟨sent, unsent⟩ := List.append_inj (held.messages.trans also.messages.symm)
    (by simpa using count)
  exact ⟨resembles_of_events sent transactions held.lengths also.lengths, unsent.symm⟩

/-- While every call ends well, a call has the same end on both boards and leaves its buffers alike, but
for the values of received bytes. -/
theorem InStep.call {first second : List BoardEvent} {shared alone : Link Recorder}
    (inStep : InStep first second shared alone) (call : DataCall)
    (well : ∀ event ∈ (shared.call call).link.board.log, event.EndedWell) :
    (alone.call call).failure = (shared.call call).failure ∧
      InStep first second (shared.call call).link (alone.call call).link ∧
      ∃ one other : Dialogue, one.Resembles other ∧ one.messages = Errand.messages call.errands ∧
        (shared.call call).data = call.received one.buffers ∧
        (alone.call call).data = call.received other.buffers := by
  rcases shared.callDeeds_cases call with ⟨error, failed, ended, _⟩ | ⟨selected, _, _, course⟩
  · rw [ended] at well
    rw [select_of_endedWell well] at failed
    cases failed
  obtain ⟨alsoSelected, selecting⟩ := inStep.select selected
  obtain ⟨one, traffic, recovering, carried, log, data, held, _, _⟩ := call_held selected call
  obtain ⟨other, otherTraffic, _, alsoCarried, _, otherData, otherHeld, _, _⟩ :=
    call_held alsoSelected call
  have grown : (shared.call call).link.board.log =
      (shared.select.link.carryOut call.errands).link.board.log ++ recovering := by
    rw [log, carried, List.append_assoc]
  obtain ⟨failure, done⟩ := selecting.now.carryOut call.errands (forall_mem_of_grown grown well)
  -- The two dialogues have the same transactions, since they added the same events.
  obtain ⟨events, added, alsoAdded⟩ := done.board.logs
  obtain rfl : traffic = events := List.append_cancel_left (carried.symm.trans added)
  obtain rfl : otherTraffic = traffic := List.append_cancel_left (alsoCarried.symm.trans alsoAdded)
  have resembles := held.resembles otherHeld (by rw [inStep.device])
  have kept := (shared.select.link.carryOut_kept call.errands).controller
  have whole : InStep first second (shared.select.link.carryOut call.errands).link
      (alone.select.link.carryOut call.errands).link := selecting.since done kept
  refine ⟨?_, ?_, one, other, resembles, held.messages, data, otherData⟩
  · rw [call_of_selected selected, call_of_selected alsoSelected]
    exact failure
  · rw [call_of_selected selected] at well ⊢
    rw [call_of_selected alsoSelected]
    dsimp only at well ⊢
    rw [failure]
    split
    · next again =>
      rw [if_pos again] at well
      exact (whole.configure (configure_of_endedWell well)).2
    · exact whole

end Link

end SharedSpi

import Mathlib.Algebra.GroupWithZero.Nat
import SharedSpi.Proofs.RecordedCalls

/-!
# Transactions that succeed

If the device can be selected and every request is accepted, a transaction can be
read off its steps. The register is written at most once, before the first
request: delays that were programmed or refused are not programmed again. Every
step then adds its own events to the log, and the messages take the received
stream in turn.
-/

namespace SharedSpi

/-- A request that ended with status 0, or no request at all. -/
def BoardEvent.Accepted (event : BoardEvent) : Prop :=
  event.call.request?.isSome = true → event.status = some 0

instance (event : BoardEvent) : Decidable event.Accepted :=
  inferInstanceAs (Decidable (event.call.request?.isSome = true → event.status = some 0))

/-- How many received bytes a message with these buffers stores if it clocks all it can. -/
def Buffers.storeCount (buffers : Buffers) : Nat :=
  if buffers.receiveSide?.isSome then buffers.capacity else 0

/-- The buffers of messages that clock all they can, as the received stream leaves them. -/
def Responses.fill (responses : Responses) : List Buffers → List Buffers
  | [] => []
  | buffers :: rest =>
      buffers.store (responses.upcoming buffers.storeCount) ::
        (responses.afterBytes buffers.storeCount).fill rest

/-- Only the stream and the position in it matter. -/
theorem Responses.fill_congr {first second : Responses} (stream : first.stream = second.stream)
    (position : first.position = second.position) (parts : List Buffers) :
    first.fill parts = second.fill parts := by
  induction parts generalizing first second with
  | nil => rfl
  | cons buffers rest ih =>
      have same : first.upcoming buffers.storeCount = second.upcoming buffers.storeCount := by
        rw [upcoming, upcoming, stream, position]
      have later : (first.afterBytes buffers.storeCount).fill rest =
          (second.afterBytes buffers.storeCount).fill rest :=
        ih stream (congrArg (· + buffers.storeCount) position)
      rw [fill, fill, same, later]

namespace Step

/-- The request for a part, given the steps that follow it. -/
def partRequest (select : UInt8) (part : Buffers) (later : List Step) : Request where
  select := select
  release := !later.any isPart
  buffers := part
  count := part.capacity

/-- The requests for steps. -/
def requests (select : UInt8) : List Step → List Request
  | [] => []
  | wait _ :: rest => requests select rest
  | part data :: rest => partRequest select data rest :: requests select rest

/-- The events of a part whose request is accepted: a wait of length zero follows it. -/
def partEvents (controller : Controller) (request : Request) : List BoardEvent :=
  [⟨.transaction controller request, some 0⟩, waitEvent 0]

/-- The events of steps whose requests are accepted. -/
def events (controller : Controller) (select : UInt8) : List Step → List BoardEvent
  | [] => []
  | wait ns :: rest => waitEvent ns :: events controller select rest
  | part data :: rest =>
      partEvents controller (partRequest select data rest) ++ events controller select rest

theorem filterMap_request?_events (controller : Controller) (select : UInt8) (steps : List Step) :
    (events controller select steps).filterMap (·.call.request?) = requests select steps := by
  induction steps with
  | nil => rfl
  | cons step rest ih =>
      cases step with
      | wait ns => exact ih
      | part data => exact congrArg (partRequest select data rest :: ·) ih

/-- Every request is for one message, and clocks all that the message can. -/
theorem map_buffers_requests (select : UInt8) (steps : List Step) :
    (requests select steps).map Request.buffers = buffers steps ∧
      ∀ request ∈ requests select steps, request.count = request.buffers.capacity := by
  induction steps with
  | nil => exact ⟨rfl, by simp [requests]⟩
  | cons step rest ih =>
      cases step with
      | wait ns => exact ih
      | part data =>
          constructor
          · exact congrArg (data :: ·) ih.1
          · intro request found
            rcases List.mem_cons.mp found with rfl | later
            · rfl
            · exact ih.2 request later

end Step

namespace Link

/-- Asking for the delays changes nothing. -/
def Settled (link : Link Recorder) (delays : SelectDelays) : Prop :=
  link.updateDelays delays = link

/-- A request for delays that was made once changes nothing when it is made again. -/
theorem settled_updateDelays (link : Link Recorder) (delays : SelectDelays) :
    (link.updateDelays delays).Settled delays := by
  rcases link.updateDelays_cases delays with ⟨timing, _, _, same⟩ | ⟨_, same⟩
  · rw [same]
    exact if_pos rfl
  · rw [same]
    exact same

/-- What changes neither clocks nor registers keeps delays settled. -/
theorem Settled.withBoard {link : Link Recorder} {delays : SelectDelays}
    (settled : link.Settled delays) {board : Recorder} (clocks : board.clocks = link.board.clocks)
    (timing : board.timing = link.board.timing) : (link.withBoard board).Settled delays := by
  rcases (link.withBoard board).updateDelays_cases delays with
    ⟨programmed, differ, accepted, _⟩ | ⟨_, same⟩
  · rw [board_withBoard, clocks, timing] at accepted
    rcases link.updateDelays_cases delays with ⟨_, _, _, same⟩ | ⟨remembered | ⟨_, refused⟩, _⟩
    · have taken : link.device.delays = delays := by
        rw [← settled, same]
      exact (differ taken.symm).elim
    · exact (differ remembered).elim
    · rw [device_withBoard, refused] at accepted
      cases accepted
  · exact same

/-- What steps leave behind if every request is accepted. -/
structure Carried (link : Link Recorder) (steps : List Step)
    (outcome : Outcome Recorder (List Buffers)) : Prop where
  failure : outcome.failure = none
  log : outcome.link.board.log = link.board.log ++
    Step.events link.device.controller link.device.select steps
  data : outcome.data = link.board.responses.fill (Step.buffers steps)
  stream : outcome.link.board.responses.stream = link.board.responses.stream
  position : outcome.link.board.responses.position = link.board.responses.position +
    ((Step.buffers steps).map Buffers.storeCount).sum

/-- The link once the request for a part was accepted. -/
def afterPart (link : Link Recorder) (part : Buffers) (later : List Step) : Link Recorder :=
  link.withBoard (link.board.afterTransaction link.device.controller
    (Step.partRequest link.device.select part later) 0)

theorem log_afterPart (link : Link Recorder) (part : Buffers) (later : List Step) :
    (link.afterPart part later).board.log = link.board.log ++
      Step.partEvents link.device.controller (Step.partRequest link.device.select part later) := rfl

/-- A part whose request is accepted, with settled delays. -/
theorem send_part_of_settled {link : Link Recorder} {delays : SelectDelays}
    (settled : link.Settled delays) (zero : link.board.responses.status .transaction = 0)
    (part : Buffers) (later : List Step) :
    link.send (Errand.partMessage delays part later) =
      ⟨link.afterPart part later, part.store (link.board.responses.upcoming part.storeCount),
        none⟩ := by
  have same : link.updateDelays (Errand.partMessage delays part later).delays = link := settled
  have sent := link.send_of_accepted (Errand.fits_partMessage delays part later)
    (by rw [same]; exact zero)
  rw [same] at sent
  exact sent

/-- A part whose request is refused leaves the request in the log, with its status. -/
theorem send_part_of_refused {link : Link Recorder} {delays : SelectDelays}
    (settled : link.Settled delays) (status : link.board.responses.status .transaction ≠ 0)
    (part : Buffers) (later : List Step) :
    (∃ error, (link.send (Errand.partMessage delays part later)).failure = some error) ∧
      (link.send (Errand.partMessage delays part later)).link.board.log = link.board.log ++
        [⟨.transaction link.device.controller (Step.partRequest link.device.select part later),
          some (link.board.responses.status .transaction)⟩] := by
  have same : link.updateDelays (Errand.partMessage delays part later).delays = link := settled
  cases result : Fault.ofStatus? (link.board.responses.status .transaction) with
  | none => exact (status ((Fault.ofStatus?_eq_none_iff _).mp result)).elim
  | some fault =>
      have sent := link.send_of_rejected (Errand.fits_partMessage delays part later)
        (by rw [same]; exact result)
      rw [same] at sent
      rw [sent]
      exact ⟨⟨_, rfl⟩, rfl⟩

theorem Carried.wait {link : Link Recorder} {ns : UInt32} {rest : List Step}
    {outcome : Outcome Recorder (List Buffers)}
    (later : Carried (link.withBoard (Board.wait link.board ns)) rest outcome) :
    link.Carried (.wait ns :: rest) outcome where
  failure := later.failure
  log := by
    rw [later.log]
    simp [Recorder.record, waitEvent, Step.events]
  data := later.data
  stream := later.stream
  position := later.position

theorem Carried.part {link : Link Recorder} {part : Buffers} {rest : List Step}
    {outcome : Outcome Recorder (List Buffers)}
    (later : (link.afterPart part rest).Carried rest outcome) :
    link.Carried (.part part :: rest)
      ⟨outcome.link, part.store (link.board.responses.upcoming part.storeCount) :: outcome.data,
        outcome.failure⟩ where
  failure := later.failure
  log := by
    rw [later.log, log_afterPart, List.append_assoc]
    rfl
  data := by
    have rest : (link.afterPart part rest).board.responses.fill (Step.buffers rest) =
        (link.board.responses.afterBytes part.storeCount).fill (Step.buffers rest) := by
      apply Responses.fill_congr
      · rfl
      · rfl
    simp only [later.data, rest, Step.buffers, Responses.fill]
  stream := later.stream
  position := by
    have position : (link.afterPart part rest).board.responses.position =
        link.board.responses.position + part.storeCount := rfl
    simp only [later.position, position, Step.buffers, List.map_cons, List.sum_cons, Nat.add_assoc]

/-- Steps with settled delays are carried out if every request is accepted. -/
theorem carryOut_settled (steps : List Step) (link : Link Recorder) {delays : SelectDelays}
    (settled : link.Settled delays)
    (accepted : ∀ events, (link.carryOut (Errand.ofSteps delays steps)).link.board.log =
      link.board.log ++ events → ∀ event ∈ events, event.Accepted) :
    link.Carried steps (link.carryOut (Errand.ofSteps delays steps)) := by
  induction steps generalizing link with
  | nil => exact ⟨rfl, (List.append_nil _).symm, rfl, rfl, rfl⟩
  | cons step rest ih =>
      cases step with
      | wait ns =>
          refine Carried.wait (ih _ (settled.withBoard rfl rfl) ?_)
          intro events grown event found
          refine accepted (waitEvent ns :: events) ?_ event (List.mem_cons_of_mem _ found)
          rw [Errand.ofSteps, carryOut, grown]
          simp [Recorder.record, waitEvent]
      | part data =>
          by_cases zero : link.board.responses.status .transaction = 0
          · have sent := send_part_of_settled settled zero data rest
            have done : (link.send (Errand.partMessage delays data rest)).failure = none := by
              rw [sent]
            rw [Errand.ofSteps, carryOut_message_of_sent done, sent] at accepted ⊢
            refine Carried.part (ih _ (settled.withBoard rfl rfl) ?_)
            intro events grown event found
            rw [log_afterPart, List.append_assoc] at grown
            exact accepted _ grown event (List.mem_append_right _ found)
          · -- A refused request would stand in the log.
            obtain ⟨⟨error, failed⟩, log⟩ := send_part_of_refused settled zero data rest
            rw [Errand.ofSteps, carryOut_message_of_failed failed] at accepted
            have status := accepted _ log _ (List.mem_singleton_self _) rfl
            exact (zero (Option.some.inj status)).elim

/-- Programming the delays of a message beforehand makes no difference to the message. -/
theorem send_updateDelays (link : Link Recorder) {message : Message} (fits : message.fits = true) :
    (link.updateDelays message.delays).send message = link.send message := by
  have settled : (link.updateDelays message.delays).updateDelays message.delays =
      link.updateDelays message.delays := link.settled_updateDelays message.delays
  simp only [send, fits, if_true, settled]

theorem carryOut_updateDelays (link : Link Recorder) (delays : SelectDelays) (part : Buffers)
    (rest : List Step) :
    (link.updateDelays delays).carryOut (Errand.ofSteps delays (.part part :: rest)) =
      link.carryOut (Errand.ofSteps delays (.part part :: rest)) := by
  have same := link.send_updateDelays (Errand.fits_partMessage delays part rest)
  cases result : (link.send (Errand.partMessage delays part rest)).failure with
  | none =>
      rw [Errand.ofSteps, carryOut_message_of_sent result, carryOut_message_of_sent]
      · rw [← same]
        rfl
      · rw [← result, ← same]
        rfl
  | some error =>
      rw [Errand.ofSteps, carryOut_message_of_failed result, carryOut_message_of_failed]
      · rw [← same]
        rfl
      · rw [← result, ← same]
        rfl

/-- A transaction that carries no data waits, and does nothing else once the device is selected. -/
theorem transaction_of_idle {link : Link Recorder} {operations : List Operation}
    (selected : link.select.failure = none)
    (idle : operations.any Operation.carriesData = false) :
    link.transaction operations =
      ⟨link.select.link.withBoard
        (Board.waitAll link.select.link.board (Step.waits (Step.ofOperations operations))),
        operations, none⟩ := by
  have silent := (Step.any_isPart_ofOperations operations).trans idle
  simp only [transaction, afterSelect, selected, perform, silent, Bool.false_eq_true, if_false]

/-- A transaction that carries data carries out the steps between the outer waits. -/
theorem transaction_of_accepted {link : Link Recorder} {operations : List Operation}
    (selected : link.select.failure = none)
    (sends : operations.any Operation.carriesData = true)
    (accepted : ∀ event ∈ (link.transaction operations).link.board.log.drop link.board.log.length,
      event.Accepted) :
    let schedule := Schedule.ofSteps (Step.ofOperations operations)
    ∃ carried, link.transaction operations =
        ⟨carried.link, Operation.restoreAll operations carried.data, none⟩ ∧
      (link.select.link.updateDelays schedule.delays).Carried schedule.body carried := by
  intro schedule
  have parts := (Step.any_isPart_ofOperations operations).trans sends
  obtain ⟨part, rest, body⟩ := Schedule.body_of_isPart parts
  let carried := (link.select.link.updateDelays schedule.delays).carryOut
    (Errand.ofSteps schedule.delays schedule.body)
  have ended : link.transaction operations =
      (recover carried).map (Operation.restoreAll operations) := by
    simp only [transaction, afterSelect, selected, perform, parts, if_true, runSchedule,
      runSteps_eq_carryOut, carried, schedule, body, carryOut_updateDelays]
  have grown : ∃ more,
      (link.transaction operations).link.board.log = carried.link.board.log ++ more := by
    rw [ended]
    cases result : carried.failure with
    | none => exact ⟨[], by simp only [recover, result, Outcome.map, List.append_nil]⟩
    | some error =>
        obtain ⟨more, again, _⟩ := carried.link.configure_quiet
        exact ⟨more, by simp only [recover, result, Outcome.map, again]⟩
  have done : (link.select.link.updateDelays schedule.delays).Carried schedule.body carried := by
    apply carryOut_settled
    · exact link.select.link.settled_updateDelays schedule.delays
    · intro events log event found
      obtain ⟨configuring, chosen, _⟩ := link.select_quiet
      obtain ⟨writes, written, _⟩ := link.select.link.updateDelays_log schedule.delays
      obtain ⟨more, whole⟩ := grown
      apply accepted
      rw [whole, show carried.link.board.log = _ from log, written, chosen]
      simp only [List.append_assoc, List.drop_left, List.mem_append]
      exact Or.inr (Or.inr (Or.inl found))
  refine ⟨carried, ?_, done⟩
  rw [ended]
  simp only [recover, done.failure, Outcome.map]

end Link

end SharedSpi

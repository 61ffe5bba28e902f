import SharedSpi.Bench.Recorder
import SharedSpi.Proofs.Errands

/-!
# What a recorder records

One lemma for each thing a device does says what it adds to the log of a
recorder and what it leaves alone. Configuring calls change only the log and the
queues of statuses; a message adds at most one write of the timing register,
then its transaction, then its waits.
-/

namespace SharedSpi

theorem Fault.ofStatus?_eq_none_iff (status : Int32) : ofStatus? status = none ↔ status = 0 := by
  by_cases zero : status = 0
  · simp only [zero, iff_true]
    exact ofStatus?_success
  · simp only [zero, iff_false]
    unfold ofStatus?
    rw [if_neg (show ¬ status = successStatus from zero)]
    split
    · exact fun impossible => by cases impossible
    · split <;> exact fun impossible => by cases impossible

/-- A status that stands for a fault is not that of success. -/
theorem Fault.ne_zero_of_ofStatus? {status : Int32} {fault : Fault}
    (found : ofStatus? status = some fault) : status ≠ 0 := by
  intro zero
  rw [(ofStatus?_eq_none_iff status).mpr zero] at found
  cases found

/-- A busy wait as it stands in a log. -/
def waitEvent (ns : UInt32) : BoardEvent := ⟨.wait ns, none⟩

/-- A configuring call and its status as they stand in a log. -/
def setupEvent (controller : Controller) (status : Int32) (call : SetupCall) : BoardEvent :=
  ⟨.setup controller call, some status⟩

/-- The request of a call that is a transaction. -/
def BoardCall.request? : BoardCall → Option Request
  | transaction _ request => some request
  | _ => none

/-- The controller that a call is made on; a busy wait is made on none. -/
def BoardCall.controller? : BoardCall → Option Controller
  | setup controller _ => some controller
  | setTiming controller _ => some controller
  | shutdown controller => some controller
  | transaction controller _ => some controller
  | wait _ => none

/-- What a selected device asks of its controller: the timing register is written, transactions are
run, and waits are made. -/
def BoardEvent.IsTraffic (event : BoardEvent) (controller : Controller) : Prop :=
  match event.call with
  | .setTiming asked _ => asked = controller
  | .transaction asked _ => asked = controller
  | .wait _ => True
  | .setup _ _ => False
  | .shutdown _ => False

theorem isTraffic_waitEvent (ns : UInt32) (controller : Controller) :
    (waitEvent ns).IsTraffic controller :=
  True.intro

/-- Events of which none writes a timing register. -/
def Unwritten (events : List BoardEvent) : Prop :=
  ∀ event ∈ events, ∀ controller timing, event.call ≠ .setTiming controller timing

namespace Unwritten

theorem append {first second : List BoardEvent} (left : Unwritten first)
    (right : Unwritten second) : Unwritten (first ++ second) :=
  List.forall_mem_append.mpr ⟨left, right⟩

theorem singleton {event : BoardEvent}
    (other : ∀ controller timing, event.call ≠ .setTiming controller timing) :
    Unwritten [event] := by
  intro found listed
  rw [List.mem_singleton.mp listed]
  exact other

theorem setups (controller : Controller) (status : Int32) (calls : List SetupCall) :
    Unwritten (calls.map (setupEvent controller status)) := by
  intro event found
  obtain ⟨call, _, rfl⟩ := List.mem_map.mp found
  exact fun _ _ => BoardCall.noConfusion

theorem of_waits {events : List BoardEvent} (waits : ∀ event ∈ events, ∃ ns, event = waitEvent ns) :
    Unwritten events := by
  intro event found
  obtain ⟨ns, rfl⟩ := waits event found
  exact fun _ _ => BoardCall.noConfusion

end Unwritten

namespace Recorder

/-- A recorder with an empty log. -/
def cleared (recorder : Recorder) : Recorder := { recorder with log := [] }

/-- What configuring calls leave alone. -/
structure Undisturbed (before after : Recorder) : Prop where
  clocks : after.clocks = before.clocks
  timing : after.timing = before.timing
  stream : after.responses.stream = before.responses.stream
  position : after.responses.position = before.responses.position

theorem Undisturbed.refl (recorder : Recorder) : Undisturbed recorder recorder :=
  ⟨rfl, rfl, rfl, rfl⟩

theorem Undisturbed.trans {first second third : Recorder} (left : Undisturbed first second)
    (right : Undisturbed second third) : Undisturbed first third :=
  ⟨right.clocks.trans left.clocks, right.timing.trans left.timing,
    right.stream.trans left.stream, right.position.trans left.position⟩

theorem undisturbed_answer (recorder : Recorder) (kind : CallKind) (call : BoardCall) :
    Undisturbed recorder (recorder.answer kind call) :=
  ⟨rfl, rfl, rfl, rfl⟩

theorem setup_eq (recorder : Recorder) (controller : Controller) (call : SetupCall) :
    Board.setup recorder controller call =
      (recorder.answer call.kind (.setup controller call), recorder.fault? call.kind) := rfl

@[simp] theorem clock_eq (recorder : Recorder) (controller : Controller) :
    Board.clock recorder controller = recorder.clocks.get controller := rfl

@[simp] theorem timing_eq (recorder : Recorder) (controller : Controller) :
    Board.timing recorder controller = recorder.timing.get controller := rfl

@[simp] theorem wait_eq (recorder : Recorder) (ns : UInt32) :
    Board.wait recorder ns = recorder.record (.wait ns) none := rfl

@[simp] theorem shutdown_eq (recorder : Recorder) (controller : Controller) :
    Board.shutdown recorder controller = recorder.record (.shutdown controller) none := rfl

@[simp] theorem setTiming_eq (recorder : Recorder) (controller : Controller) (timing : SelectTiming) :
    Board.setTiming recorder controller timing =
      { recorder.record (.setTiming controller timing) none with
        timing := recorder.timing.set controller timing } := rfl

theorem waitAll_eq (times : List UInt32) (recorder : Recorder) :
    Board.waitAll recorder times =
      { recorder with log := recorder.log ++ times.map waitEvent } := by
  induction times generalizing recorder with
  | nil => simp [Board.waitAll]
  | cons ns rest ih =>
      have later := ih (recorder.record (.wait ns) none)
      simpa [Board.waitAll, record, waitEvent] using later

/-- Configuring calls are made up to the first that does not end with status 0. -/
theorem setupAll_cases (calls : List SetupCall) (recorder : Recorder) (controller : Controller) :
    ∃ after, Undisturbed recorder after ∧
      ((Board.setupAll recorder controller calls = (after, true) ∧
          after.log = recorder.log ++ calls.map (setupEvent controller 0)) ∨
        (Board.setupAll recorder controller calls = (after, false) ∧
          ∃ accepted refused skipped status, calls = accepted ++ refused :: skipped ∧ status ≠ 0 ∧
            after.log = recorder.log ++
              (accepted.map (setupEvent controller 0) ++ [setupEvent controller status refused]))) := by
  induction calls generalizing recorder with
  | nil => exact ⟨recorder, .refl recorder, Or.inl ⟨rfl, (List.append_nil _).symm⟩⟩
  | cons call rest ih =>
      let answered := recorder.answer call.kind (.setup controller call)
      have step : Undisturbed recorder answered := undisturbed_answer _ _ _
      have logged : answered.log =
          recorder.log ++ [setupEvent controller (recorder.responses.status call.kind) call] := rfl
      cases result : recorder.fault? call.kind with
      | none =>
          have zero : recorder.responses.status call.kind = 0 :=
            (Fault.ofStatus?_eq_none_iff _).mp result
          have goesOn : Board.setupAll recorder controller (call :: rest) =
              Board.setupAll answered controller rest := by
            simp only [Board.setupAll, setup_eq, result, answered]
          obtain ⟨after, undisturbed, ended⟩ := ih answered
          refine ⟨after, step.trans undisturbed, ?_⟩
          rw [zero] at logged
          rw [goesOn]
          rcases ended with ⟨same, log⟩ | ⟨same, accepted, refused, skipped, status, split, bad, log⟩
          · refine Or.inl ⟨same, ?_⟩
            rw [log, logged, List.append_assoc, List.singleton_append, List.map_cons]
          · refine Or.inr ⟨same, call :: accepted, refused, skipped, status, ?_, bad, ?_⟩
            · rw [split, List.cons_append]
            · rw [log, logged, List.append_assoc, List.singleton_append, List.map_cons,
                List.cons_append]
      | some fault =>
          have bad : recorder.responses.status call.kind ≠ 0 := Fault.ne_zero_of_ofStatus? result
          refine ⟨answered, step, Or.inr ⟨?_, [], call, rest, _, rfl, bad, logged⟩⟩
          simp only [Board.setupAll, setup_eq, result, answered]

/-- The recorder once a transaction was answered and its waits are over. -/
def afterTransaction (recorder : Recorder) (controller : Controller) (request : Request)
    (waitAfter : UInt32) : Recorder :=
  { recorder with
    responses := (recorder.responses.afterCall .transaction).afterBytes request.receiveLength
    log := recorder.log ++
      (⟨.transaction controller request, some 0⟩ :: (waitSlices waitAfter).map waitEvent) }

theorem transact_of_accepted {recorder : Recorder}
    (zero : recorder.responses.status .transaction = 0) (controller : Controller)
    (request : Request) :
    Board.transact recorder controller request =
      ((recorder.answer .transaction (.transaction controller request)).received
          request.receiveLength,
        .ok (recorder.responses.upcoming request.receiveLength)) := by
  have quiet : recorder.fault? .transaction = none := (Fault.ofStatus?_eq_none_iff _).mpr zero
  change Recorder.transact _ _ _ = _
  simp only [Recorder.transact, quiet]
  rfl

theorem transact_of_rejected {recorder : Recorder} {fault : Fault}
    (found : Fault.ofStatus? (recorder.responses.status .transaction) = some fault)
    (controller : Controller) (request : Request) :
    Board.transact recorder controller request =
      (recorder.answer .transaction (.transaction controller request), .error fault) := by
  have loud : recorder.fault? .transaction = some fault := found
  change Recorder.transact _ _ _ = _
  simp only [Recorder.transact, loud]

/-- A wait after an accepted transaction. -/
theorem waitMicros_received {recorder : Recorder}
    (zero : recorder.responses.status .transaction = 0) (controller : Controller)
    (request : Request) (waitAfter : UInt32) :
    Board.waitMicros ((recorder.answer .transaction (.transaction controller request)).received
        request.receiveLength) waitAfter =
      recorder.afterTransaction controller request waitAfter := by
  simp only [Board.waitMicros, waitAll_eq, afterTransaction, received, answer, record, zero,
    List.append_assoc, List.singleton_append]

end Recorder

namespace Link

/-- A configuration of which every call succeeded and left `board`. -/
structure Completed (link : Link Recorder) (board : Recorder) : Prop where
  result : link.configure = ⟨link.configured board, (), none⟩
  undisturbed : Recorder.Undisturbed link.board board
  logged : board.log = link.board.log ++
    link.device.setupCalls.map (setupEvent link.device.controller 0)

/-- A configuration of which a call failed and left `board`. -/
structure Refused (link : Link Recorder) (board : Recorder) : Prop where
  result : link.configure =
    ⟨link.withBoard (Board.shutdown board link.device.controller), (), some .invalidArgument⟩
  undisturbed : Recorder.Undisturbed link.board board
  logged : ∃ accepted refused skipped status,
    link.device.setupCalls = accepted ++ refused :: skipped ∧ status ≠ 0 ∧
      board.log = link.board.log ++ (accepted.map (setupEvent link.device.controller 0) ++
        [setupEvent link.device.controller status refused])

theorem configure_cases (link : Link Recorder) :
    (∃ board, link.Completed board) ∨ ∃ board, link.Refused board := by
  obtain ⟨after, undisturbed, ⟨ended, log⟩ | ⟨ended, log⟩⟩ :=
    Recorder.setupAll_cases link.device.setupCalls link.board link.device.controller
  · exact Or.inl ⟨after, by simp only [configure, ended], undisturbed, log⟩
  · exact Or.inr ⟨after, by simp only [configure, ended], undisturbed, log⟩

namespace Completed

variable {link : Link Recorder} {board : Recorder}

theorem failure (completed : link.Completed board) : link.configure.failure = none := by
  rw [completed.result]

theorem log (completed : link.Completed board) :
    link.configure.link.board.log = link.board.log ++
      (link.device.setupCalls.map (setupEvent link.device.controller 0) ++
        [⟨.setTiming link.device.controller
          (link.board.timing.get link.device.controller).shortest, none⟩]) := by
  rw [completed.result]
  simp only [configured, Link.board, Recorder.setTiming_eq, Recorder.timing_eq, Recorder.record]
  rw [completed.logged, completed.undisturbed.timing, List.append_assoc]
  rfl

theorem timing (completed : link.Completed board) :
    link.configure.link.board.timing = link.board.timing.set link.device.controller
      (link.board.timing.get link.device.controller).shortest := by
  rw [completed.result]
  simp only [configured, Link.board, Recorder.setTiming_eq, Recorder.timing_eq]
  rw [completed.undisturbed.timing]
  rfl

end Completed

namespace Refused

variable {link : Link Recorder} {board : Recorder}

theorem failure (refused : link.Refused board) :
    link.configure.failure = some .invalidArgument := by
  rw [refused.result]

theorem log (refused : link.Refused board) :
    link.configure.link.board.log =
      board.log ++ [⟨.shutdown link.device.controller, none⟩] := by
  rw [refused.result]
  rfl

/-- The call that failed stands in the log. -/
theorem mem_log (refused : link.Refused board) :
    ∃ failing status, status ≠ 0 ∧
      setupEvent link.device.controller status failing ∈ link.configure.link.board.log := by
  obtain ⟨accepted, failing, skipped, status, _, bad, logged⟩ := refused.logged
  refine ⟨failing, status, bad, ?_⟩
  rw [refused.log, logged]
  simp

/-- A configuration that fails writes no register. -/
theorem unwritten (refused : link.Refused board) :
    link.configure.link.board.timing = link.board.timing ∧
      ∃ events, link.configure.link.board.log = link.board.log ++ events ∧ Unwritten events := by
  obtain ⟨accepted, failing, skipped, status, _, _, logged⟩ := refused.logged
  refine ⟨?_, _, by rw [refused.log, logged, List.append_assoc], ?_⟩
  · rw [refused.result]
    exact refused.undisturbed.timing
  · exact ((Unwritten.setups _ _ accepted).append (.singleton fun _ _ => BoardCall.noConfusion)).append
      (.singleton fun _ _ => BoardCall.noConfusion)

end Refused

/-- A configuration adds calls on its controller to the log, but no transaction. -/
theorem configure_added (link : Link Recorder) :
    ∃ events, link.configure.link.board.log = link.board.log ++ events ∧
      ∀ event ∈ events, event.call.request? = none ∧
        event.call.controller? = some link.device.controller := by
  rcases link.configure_cases with ⟨board, completed⟩ | ⟨board, refused⟩
  · refine ⟨_, completed.log, ?_⟩
    intro event found
    rcases List.mem_append.mp found with configuring | timing
    · obtain ⟨call, _, rfl⟩ := List.mem_map.mp configuring
      exact ⟨rfl, rfl⟩
    · rw [List.mem_singleton.mp timing]
      exact ⟨rfl, rfl⟩
  · obtain ⟨accepted, failing, skipped, status, _, _, logged⟩ := refused.logged
    refine ⟨_, by rw [refused.log, logged, List.append_assoc], ?_⟩
    intro event found
    simp only [List.append_assoc, List.mem_append, List.mem_map, List.mem_singleton] at found
    rcases found with ⟨call, _, rfl⟩ | rfl | rfl
    · exact ⟨rfl, rfl⟩
    · exact ⟨rfl, rfl⟩
    · exact ⟨rfl, rfl⟩

theorem configure_quiet (link : Link Recorder) :
    ∃ events, link.configure.link.board.log = link.board.log ++ events ∧
      ∀ event ∈ events, event.call.request? = none := by
  obtain ⟨events, grown, added⟩ := link.configure_added
  exact ⟨events, grown, fun event found => (added event found).1⟩

theorem select_quiet (link : Link Recorder) :
    ∃ events, link.select.link.board.log = link.board.log ++ events ∧
      ∀ event ∈ events, event.call.request? = none := by
  rcases link.select_cases with ⟨_, same⟩ | ⟨_, same⟩
  · rw [same]
    exact ⟨[], (List.append_nil _).symm, by simp⟩
  · rw [same]
    exact link.configure_quiet

/-- Selecting uses up no bytes of the received stream. -/
theorem select_stream (link : Link Recorder) :
    link.select.link.board.responses.stream = link.board.responses.stream ∧
      link.select.link.board.responses.position = link.board.responses.position := by
  rcases link.select_cases with ⟨_, same⟩ | ⟨_, same⟩
  · rw [same]
    exact ⟨rfl, rfl⟩
  · rw [same]
    rcases link.configure_cases with ⟨board, completed⟩ | ⟨board, refused⟩
    · rw [completed.result]
      exact ⟨completed.undisturbed.stream, completed.undisturbed.position⟩
    · rw [refused.result]
      exact ⟨refused.undisturbed.stream, refused.undisturbed.position⟩

/-- Programming delays either writes the timing register once or does nothing at all. -/
theorem updateDelays_cases (link : Link Recorder) (requested : SelectDelays) :
    (∃ timing, requested ≠ link.device.delays ∧
      link.device.delays.retime requested (link.board.clocks.get link.device.controller)
        (link.board.timing.get link.device.controller) = .ok timing ∧
      link.updateDelays requested =
        { link.withBoard (Board.setTiming link.board link.device.controller timing) with
          device := { link.device with delays := requested } }) ∨
    ((requested = link.device.delays ∨ ∃ error,
      link.device.delays.retime requested (link.board.clocks.get link.device.controller)
        (link.board.timing.get link.device.controller) = .error error) ∧
      link.updateDelays requested = link) := by
  by_cases same : requested = link.device.delays
  · exact Or.inr ⟨Or.inl same, by rw [updateDelays, if_pos same]⟩
  · cases result : link.device.delays.retime requested
        (link.board.clocks.get link.device.controller)
        (link.board.timing.get link.device.controller) with
    | ok timing =>
        refine Or.inl ⟨timing, same, rfl, ?_⟩
        rw [updateDelays, if_neg same]
        simp only [Recorder.clock_eq, Recorder.timing_eq, result]
    | error error =>
        refine Or.inr ⟨Or.inr ⟨error, rfl⟩, ?_⟩
        rw [updateDelays, if_neg same]
        simp only [Recorder.clock_eq, Recorder.timing_eq, result]

/-- The request that a device makes for a message. -/
def request (link : Link Recorder) (message : Message) : Request :=
  .ofMessage link.device.select message

/-- A message that fits and whose transaction ends with status 0. -/
theorem send_of_accepted (link : Link Recorder) {message : Message} (fits : message.fits = true)
    (zero : (link.updateDelays message.delays).board.responses.status .transaction = 0) :
    let ready := link.updateDelays message.delays
    link.send message =
      ⟨ready.withBoard (ready.board.afterTransaction ready.device.controller
          (ready.request message) message.waitAfter),
        message.buffers.store
          (ready.board.responses.upcoming (ready.request message).receiveLength), none⟩ := by
  intro ready
  simp only [send, fits, if_true, Recorder.transact_of_accepted zero,
    Recorder.waitMicros_received zero]
  rfl

/-- A message that fits and whose transaction ends with another status. -/
theorem send_of_rejected (link : Link Recorder) {message : Message} (fits : message.fits = true)
    {fault : Fault} (found : Fault.ofStatus?
      ((link.updateDelays message.delays).board.responses.status .transaction) = some fault) :
    let ready := link.updateDelays message.delays
    link.send message =
      ⟨ready.withBoard (ready.board.answer .transaction
          (.transaction ready.device.controller (ready.request message))),
        message.buffers, some fault.toError⟩ := by
  intro ready
  simp only [send, fits, if_true, Recorder.transact_of_rejected found]
  rfl

theorem updateDelays_responses (link : Link Recorder) (requested : SelectDelays) :
    (link.updateDelays requested).board.responses = link.board.responses := by
  rcases link.updateDelays_cases requested with ⟨timing, _, _, same⟩ | ⟨_, same⟩
  · rw [same]
    rfl
  · rw [same]

/-- Programming delays writes the register of the controller at most once. -/
theorem updateDelays_writes (link : Link Recorder) (requested : SelectDelays) :
    ∃ writes, (link.updateDelays requested).board.log = link.board.log ++ writes ∧
      (writes = [] ∨ ∃ timing, writes = [⟨.setTiming link.device.controller timing, none⟩]) := by
  rcases link.updateDelays_cases requested with ⟨timing, _, _, same⟩ | ⟨_, same⟩
  · rw [same]
    exact ⟨_, rfl, Or.inr ⟨timing, rfl⟩⟩
  · rw [same]
    exact ⟨[], (List.append_nil _).symm, Or.inl rfl⟩

theorem updateDelays_log (link : Link Recorder) (requested : SelectDelays) :
    ∃ writes, (link.updateDelays requested).board.log = link.board.log ++ writes ∧
      ∀ event ∈ writes, ∃ timing, event = ⟨.setTiming link.device.controller timing, none⟩ := by
  obtain ⟨writes, written, none | ⟨timing, one⟩⟩ := link.updateDelays_writes requested
  · exact ⟨writes, written, by simp [none]⟩
  · refine ⟨writes, written, ?_⟩
    intro event found
    rw [one] at found
    exact ⟨timing, List.mem_singleton.mp found⟩

theorem requests_of_writes {controller : Controller} {writes : List BoardEvent}
    (timings : ∀ event ∈ writes, ∃ timing, event = ⟨.setTiming controller timing, none⟩) :
    writes.filterMap (·.call.request?) = [] := by
  apply List.filterMap_eq_nil_iff.mpr
  intro event found
  obtain ⟨timing, rfl⟩ := timings event found
  rfl

theorem requests_of_waits {events : List BoardEvent}
    (waits : ∀ event ∈ events, ∃ ns, event = waitEvent ns) :
    events.filterMap (·.call.request?) = [] := by
  apply List.filterMap_eq_nil_iff.mpr
  intro event found
  obtain ⟨ns, rfl⟩ := waits event found
  rfl

/-- A message that fits writes the timing register if it has to, then runs its transaction. -/
theorem send_log (link : Link Recorder) {message : Message} (fits : message.fits = true) :
    ∃ status rest, (link.send message).link.board.log =
        (link.updateDelays message.delays).board.log ++
          ⟨.transaction link.device.controller (link.request message), some status⟩ :: rest ∧
      ∀ event ∈ rest, ∃ ns, event = waitEvent ns := by
  have kept := link.updateDelays_kept message.delays
  have asked : (link.updateDelays message.delays).request message = link.request message := by
    simp only [request, kept.select]
  by_cases zero : (link.updateDelays message.delays).board.responses.status .transaction = 0
  · rw [link.send_of_accepted fits zero]
    refine ⟨0, _, by rw [asked, kept.controller]; rfl, ?_⟩
    intro event found
    obtain ⟨ns, _, rfl⟩ := List.mem_map.mp found
    exact ⟨ns, rfl⟩
  · cases result : Fault.ofStatus?
        ((link.updateDelays message.delays).board.responses.status .transaction) with
    | none => exact (zero ((Fault.ofStatus?_eq_none_iff _).mp result)).elim
    | some fault =>
        rw [link.send_of_rejected fits result]
        exact ⟨_, [], by rw [asked, kept.controller]; rfl, by simp⟩

/-- Once the delays are programmed, a message writes no register. -/
theorem send_unwritten (link : Link Recorder) {message : Message} (fits : message.fits = true) :
    ∃ events, (link.send message).link.board.log =
      (link.updateDelays message.delays).board.log ++ events ∧ Unwritten events := by
  obtain ⟨status, rest, sent, waits⟩ := link.send_log fits
  refine ⟨[_] ++ rest, sent, ?_⟩
  exact (Unwritten.singleton fun _ _ => BoardCall.noConfusion).append (.of_waits waits)

theorem send_traffic (link : Link Recorder) (message : Message) :
    ∃ events, (link.send message).link.board.log = link.board.log ++ events ∧
      ∀ event ∈ events, event.IsTraffic link.device.controller := by
  cases fits : message.fits with
  | false => exact ⟨[], by rw [link.send_of_unfit fits, List.append_nil], by simp⟩
  | true =>
      obtain ⟨writes, written, timings⟩ := link.updateDelays_log message.delays
      obtain ⟨status, rest, sent, waits⟩ := link.send_log fits
      refine ⟨writes ++ ⟨.transaction link.device.controller (link.request message), some status⟩ ::
        rest, by rw [sent, written, List.append_assoc], ?_⟩
      intro event found
      rcases List.mem_append.mp found with write | later
      · obtain ⟨timing, rfl⟩ := timings event write
        rfl
      · rcases List.mem_cons.mp later with rfl | wait
        · rfl
        · obtain ⟨ns, rfl⟩ := waits event wait
          exact True.intro

/-- Errands add traffic of the device's controller, and nothing else. -/
theorem carryOut_traffic (errands : List Errand) (link : Link Recorder) :
    ∃ events, (link.carryOut errands).link.board.log = link.board.log ++ events ∧
      ∀ event ∈ events, event.IsTraffic link.device.controller := by
  induction errands generalizing link with
  | nil => exact ⟨[], (List.append_nil _).symm, by simp⟩
  | cons errand rest ih =>
      cases errand with
      | pause ns =>
          obtain ⟨events, grown, traffic⟩ := ih (link.withBoard (Board.wait link.board ns))
          refine ⟨waitEvent ns :: events, ?_, ?_⟩
          · rw [carryOut, grown]
            simp [Recorder.record, waitEvent]
          · intro event found
            rcases List.mem_cons.mp found with rfl | later
            · exact True.intro
            · exact traffic event later
      | message message =>
          obtain ⟨first, grown, traffic⟩ := link.send_traffic message
          have kept := link.send_kept message
          cases result : (link.send message).failure with
          | none =>
              obtain ⟨second, regrown, later⟩ := ih (link.send message).link
              rw [kept.controller] at later
              rw [carryOut_message_of_sent result]
              exact ⟨first ++ second, by rw [regrown, grown, List.append_assoc],
                List.forall_mem_append.mpr ⟨traffic, later⟩⟩
          | some error =>
              rw [carryOut_message_of_failed result]
              exact ⟨first, grown, traffic⟩

end Link

end SharedSpi

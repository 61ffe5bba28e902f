import SharedSpi.Proofs.CarriedSteps

/-!
# Runs cut short

A run whose transactions all succeed tells what a run does whose first failure
is the transaction at some place: the two are the same up to this place, where
the second one stops. An obliging recorder is the one that the first run is
made on: every transaction succeeds, and everything else is answered as before.
-/

namespace SharedSpi

namespace Responses

/-- The same responses, but that every transaction succeeds. -/
def obliging (responses : Responses) : Responses :=
  { responses with
    statuses := fun kind => if kind = .transaction then [] else responses.statuses kind }

theorem afterCall_obliging (responses : Responses) (kind : CallKind) :
    responses.obliging.afterCall kind = (responses.afterCall kind).obliging := by
  simp only [obliging, afterCall, mk.injEq, and_true]
  funext other
  by_cases transaction : other = .transaction
  · simp [transaction]
  · simp [transaction]

theorem status_obliging_of_setup (responses : Responses) (call : SetupCall) :
    responses.obliging.status call.kind = responses.status call.kind := by
  cases call <;> rfl

end Responses

namespace Recorder

/-- The same recorder, but that every transaction succeeds. -/
def obliging (recorder : Recorder) : Recorder :=
  { recorder with responses := recorder.responses.obliging }

theorem setup_obliging (recorder : Recorder) (controller : Controller) (call : SetupCall) :
    Board.setup recorder.obliging controller call =
      ((Board.setup recorder controller call).1.obliging,
        (Board.setup recorder controller call).2) := by
  have status := recorder.responses.status_obliging_of_setup call
  simp only [setup_eq, answer, fault?, obliging, record, status, Responses.afterCall_obliging]

theorem setupAll_obliging (calls : List SetupCall) (recorder : Recorder)
    (controller : Controller) :
    Board.setupAll recorder.obliging controller calls =
      ((Board.setupAll recorder controller calls).1.obliging,
        (Board.setupAll recorder controller calls).2) := by
  induction calls generalizing recorder with
  | nil => rfl
  | cons call rest ih =>
      rw [Board.setupAll, setup_obliging, Board.setupAll]
      rcases Board.setup recorder controller call with ⟨after, _ | fault⟩
      · exact ih after
      · rfl

theorem setupAll_transactions (calls : List SetupCall) (recorder : Recorder)
    (controller : Controller) :
    (Board.setupAll recorder controller calls).1.responses.statuses .transaction =
      recorder.responses.statuses .transaction := by
  induction calls generalizing recorder with
  | nil => rfl
  | cons call rest ih =>
      have kept : (Board.setup recorder controller call).1.responses.statuses .transaction =
          recorder.responses.statuses .transaction := by
        cases call <;> rfl
      rw [← kept, Board.setupAll]
      rcases Board.setup recorder controller call with ⟨after, _ | fault⟩
      · exact ih after
      · rfl

theorem afterTransaction_obliging (recorder : Recorder) (controller : Controller)
    (request : Request) (waitAfter : UInt32) :
    recorder.obliging.afterTransaction controller request waitAfter =
      (recorder.afterTransaction controller request waitAfter).obliging := by
  have responses := recorder.responses.afterCall_obliging .transaction
  simp only [afterTransaction, obliging, responses]
  rfl

end Recorder

namespace Link

/-- The same link, but that every transaction succeeds. -/
def obliging (link : Link Recorder) : Link Recorder :=
  link.withBoard link.board.obliging

theorem configure_obliging (link : Link Recorder) :
    link.obliging.configure =
      ⟨link.configure.link.obliging, (), link.configure.failure⟩ := by
  have calls := Recorder.setupAll_obliging link.device.setupCalls link.board link.device.controller
  simp only [configure, obliging, board_withBoard, device_withBoard, calls]
  rcases Board.setupAll link.board link.device.controller link.device.setupCalls with
    ⟨board, _ | _⟩
  · rfl
  · rfl

theorem select_obliging (link : Link Recorder) :
    link.obliging.select = ⟨link.select.link.obliging, (), link.select.failure⟩ := by
  rcases link.select_cases with ⟨entry, same⟩ | ⟨entry, same⟩
  · rcases link.obliging.select_cases with ⟨_, alsoSame⟩ | ⟨differ, _⟩
    · rw [same, alsoSame]
    · exact (differ entry).elim
  · rcases link.obliging.select_cases with ⟨alsoEntry, _⟩ | ⟨_, alsoSame⟩
    · exact (entry alsoEntry).elim
    · rw [same, alsoSame, configure_obliging]

theorem updateDelays_obliging (link : Link Recorder) (requested : SelectDelays) :
    link.obliging.updateDelays requested = (link.updateDelays requested).obliging := by
  rcases link.updateDelays_cases requested with ⟨timing, differ, accepted, same⟩ | ⟨idle, same⟩
  · rcases link.obliging.updateDelays_cases requested with
      ⟨alsoTiming, _, alsoAccepted, alsoSame⟩ | ⟨remembered | ⟨_, refused⟩, _⟩
    · cases accepted.symm.trans alsoAccepted
      rw [same, alsoSame]
      rfl
    · exact (differ remembered).elim
    · cases accepted.symm.trans refused
  · rcases link.obliging.updateDelays_cases requested with
      ⟨_, differ, accepted, _⟩ | ⟨_, alsoSame⟩
    · rcases idle with remembered | ⟨_, refused⟩
      · exact (differ remembered).elim
      · cases accepted.symm.trans refused
    · rw [same, alsoSame]

theorem configure_transactions (link : Link Recorder) :
    link.configure.link.board.responses.statuses .transaction =
      link.board.responses.statuses .transaction := by
  have calls := Recorder.setupAll_transactions link.device.setupCalls link.board
    link.device.controller
  unfold configure
  split
  · next ended =>
    rw [ended] at calls
    exact calls
  · next ended =>
    rw [ended] at calls
    exact calls

/-- On an obliging link a message that fits is sent. -/
theorem send_obliging (link : Link Recorder) {message : Message} (fits : message.fits = true) :
    let ready := link.updateDelays message.delays
    link.obliging.send message =
      ⟨(ready.withBoard (ready.board.afterTransaction ready.device.controller
          (ready.request message) message.waitAfter)).obliging,
        message.buffers.store
          (ready.board.responses.upcoming (ready.request message).receiveLength), none⟩ := by
  intro ready
  have same := link.updateDelays_obliging message.delays
  have sent := link.obliging.send_of_accepted fits (by rw [same]; rfl)
  rw [same] at sent
  rw [sent]
  simp only [obliging, board_withBoard, Recorder.afterTransaction_obliging]
  rfl

/-- A message whose transaction succeeds is sent on an obliging link in the same way. -/
theorem send_obliging_of_accepted (link : Link Recorder) {message : Message}
    (fits : message.fits = true) (zero : link.board.responses.status .transaction = 0) :
    (link.send message).failure = none ∧
      link.obliging.send message =
        ⟨(link.send message).link.obliging, (link.send message).data, none⟩ := by
  rw [← link.updateDelays_responses message.delays] at zero
  rw [link.send_obliging fits, link.send_of_accepted fits zero]
  exact ⟨rfl, rfl⟩

/-- A message that fits adds one request to the log. -/
theorem send_requests (link : Link Recorder) {message : Message} (fits : message.fits = true) :
    ∃ added, (link.send message).link.board.log = link.board.log ++ added ∧
      added.filterMap (·.call.request?) = [link.request message] := by
  obtain ⟨writes, written, timings⟩ := link.updateDelays_log message.delays
  obtain ⟨status, rest, sent, waits⟩ := link.send_log fits
  refine ⟨writes ++ _ :: rest, by rw [sent, written, List.append_assoc], ?_⟩
  rw [List.filterMap_append, requests_of_writes timings, List.filterMap_cons,
    requests_of_waits waits]
  rfl

/-- A message that fits takes the next status of a transaction. -/
theorem send_transactions (link : Link Recorder) {message : Message}
    (fits : message.fits = true) :
    (link.send message).link.board.responses.statuses .transaction =
      (link.board.responses.statuses .transaction).tail := by
  rw [← link.updateDelays_responses message.delays]
  cases result : Fault.ofStatus?
      ((link.updateDelays message.delays).board.responses.status .transaction) with
  | none =>
      rw [link.send_of_accepted fits ((Fault.ofStatus?_eq_none_iff _).mp result)]
      rfl
  | some fault =>
      rw [link.send_of_rejected fits result]
      rfl

/-- An outcome of errands that is another outcome of them, cut short at a transaction that failed.
The log is the same up to this transaction, and the messages from it on have their buffers as they were. -/
structure CutAt (link : Link Recorder) (errands : List Errand) (before : List BoardEvent)
    (request : Request) (status : Int32) (whole cut : Outcome Recorder (List Buffers)) : Prop where
  wholeLog : ∃ after, whole.link.board.log = link.board.log ++
    (before ++ ⟨.transaction link.device.controller request, some 0⟩ :: after)
  cutLog : cut.link.board.log = link.board.log ++
    (before ++ [⟨.transaction link.device.controller request, some status⟩])
  failure : cut.failure = (Fault.ofStatus? status).map Fault.toError
  data : ∃ sent unsent, Errand.buffers errands = sent ++ request.buffers :: unsent ∧
    sent.length = (before.filterMap (·.call.request?)).length ∧
    cut.data = whole.data.take sent.length ++ request.buffers :: unsent

theorem CutAt.pause {link : Link Recorder} {ns : UInt32} {rest : List Errand}
    {before : List BoardEvent} {request : Request} {status : Int32}
    {whole cut : Outcome Recorder (List Buffers)}
    (later : CutAt (link.withBoard (Board.wait link.board ns)) rest before request status whole cut) :
    link.CutAt (.pause ns :: rest) (waitEvent ns :: before) request status whole cut where
  wholeLog := by
    obtain ⟨after, log⟩ := later.wholeLog
    exact ⟨after, by rw [log]; simp [Recorder.record, waitEvent]⟩
  cutLog := by
    rw [later.cutLog]
    simp [Recorder.record, waitEvent]
  failure := later.failure
  data := later.data

/-- A message that is sent comes before the cut. -/
theorem CutAt.message {link : Link Recorder} {message : Message} {rest : List Errand}
    {added before : List BoardEvent} {request : Request} {status : Int32}
    {whole cut : Outcome Recorder (List Buffers)}
    (grown : (link.send message).link.board.log = link.board.log ++ added)
    (one : (added.filterMap (·.call.request?)).length = 1)
    (later : (link.send message).link.CutAt rest before request status whole cut) :
    link.CutAt (.message message :: rest) (added ++ before) request status
      ⟨whole.link, (link.send message).data :: whole.data, whole.failure⟩
      ⟨cut.link, (link.send message).data :: cut.data, cut.failure⟩ where
  wholeLog := by
    obtain ⟨after, log⟩ := later.wholeLog
    refine ⟨after, ?_⟩
    rw [log, grown, (link.send_kept message).controller]
    simp only [List.append_assoc]
  cutLog := by
    rw [later.cutLog, grown, (link.send_kept message).controller]
    simp only [List.append_assoc]
  failure := later.failure
  data := by
    obtain ⟨sent, unsent, split, length, data⟩ := later.data
    refine ⟨message.buffers :: sent, unsent, ?_, ?_, ?_⟩
    · rw [Errand.buffers, split, List.cons_append]
    · rw [List.filterMap_append, List.length_append, one, List.length_cons, length, Nat.add_comm]
    · simp only [data, List.length_cons, List.take_succ_cons, List.cons_append]

/-- A message whose transaction fails is where the cut is. -/
theorem CutAt.here {link : Link Recorder} {message : Message} {rest : List Errand}
    (fits : message.fits = true) {fault : Fault}
    (found : Fault.ofStatus? (link.board.responses.status .transaction) = some fault) :
    ∃ before, before.filterMap (·.call.request?) = [] ∧
      link.CutAt (.message message :: rest) before (link.request message)
        (link.board.responses.status .transaction)
        (link.obliging.carryOut (.message message :: rest))
        (link.carryOut (.message message :: rest)) := by
  let ready := link.updateDelays message.delays
  have kept := link.updateDelays_kept message.delays
  have asked : ready.request message = link.request message := by
    rw [request, kept.select]
    rfl
  obtain ⟨before, written, timings⟩ := link.updateDelays_log message.delays
  have responses := link.updateDelays_responses message.delays
  have rejected := link.send_of_rejected fits (by rw [responses]; exact found)
  have failed : (link.send message).failure = some fault.toError := by rw [rejected]
  have sent := link.send_obliging fits
  have done : (link.obliging.send message).failure = none := by rw [sent]
  obtain ⟨more, grown, _⟩ := (link.obliging.send message).link.carryOut_traffic rest
  have logged : (link.obliging.send message).link.board.log = link.board.log ++
      (before ++ ⟨.transaction link.device.controller (link.request message), some 0⟩ ::
        (waitSlices message.waitAfter).map waitEvent) := by
    rw [sent, ← List.append_assoc, ← written, ← asked, ← kept.controller]
    rfl
  have silent := requests_of_writes timings
  rw [carryOut_message_of_sent done, carryOut_message_of_failed failed]
  refine ⟨before, silent, ⟨(waitSlices message.waitAfter).map waitEvent ++ more, ?_⟩, ?_, ?_, ?_⟩
  · rw [grown, logged]
    simp only [List.append_assoc, List.cons_append]
  · rw [rejected, ← List.append_assoc, ← written, ← asked, ← kept.controller, ← responses]
    rfl
  · rw [found]
    rfl
  · refine ⟨[], Errand.buffers rest, rfl, ?_, ?_⟩
    · rw [silent]
      rfl
    · rw [rejected]
      rfl

/-- Errands whose transactions succeed up to one that fails are cut short there. -/
theorem carryOut_cut (errands : List Errand) (link : Link Recorder)
    {accepted later : List Int32} {status : Int32} {fault : Fault}
    (script : link.board.responses.statuses .transaction = accepted ++ status :: later)
    (zero : ∀ earlier ∈ accepted, earlier = 0) (found : Fault.ofStatus? status = some fault)
    {events : List BoardEvent}
    (whole : (link.obliging.carryOut errands).link.board.log = link.board.log ++ events)
    (reached : accepted.length < (events.filterMap (·.call.request?)).length) :
    ∃ before request, (before.filterMap (·.call.request?)).length = accepted.length ∧
      link.CutAt errands before request status (link.obliging.carryOut errands)
        (link.carryOut errands) := by
  induction errands generalizing link accepted events with
  | nil =>
      have none : events = [] := List.append_right_eq_self.mp whole.symm
      rw [none] at reached
      cases reached
  | cons errand rest ih =>
      cases errand with
      | pause ns =>
          let next := link.withBoard (Board.wait link.board ns)
          obtain ⟨more, grown, _⟩ := next.obliging.carryOut_traffic rest
          have split : events = waitEvent ns :: more := by
            have log : link.board.log ++ events = link.board.log ++ ([waitEvent ns] ++ more) := by
              rw [← whole, ← List.append_assoc]
              exact grown
            exact List.append_cancel_left log
          rw [split] at reached
          obtain ⟨before, request, count, cut⟩ := ih next script zero grown reached
          exact ⟨waitEvent ns :: before, request, count, cut.pause⟩
      | message message =>
          cases fits : message.fits with
          | false =>
              have unsent := link.obliging.send_of_unfit fits
              have failed : (link.obliging.send message).failure = some .invalidArgument := by
                rw [unsent]
              rw [carryOut_message_of_failed failed, unsent] at whole
              have none : events = [] := List.append_right_eq_self.mp whole.symm
              rw [none] at reached
              cases reached
          | true =>
              cases accepted with
              | nil =>
                  have now : link.board.responses.status .transaction = status := by
                    rw [Responses.status, script]
                    rfl
                  rw [← now] at found ⊢
                  obtain ⟨before, silent, cut⟩ := CutAt.here fits found
                  exact ⟨before, link.request message, by rw [silent]; rfl, cut⟩
              | cons first others =>
                  have now : link.board.responses.status .transaction = 0 := by
                    rw [Responses.status, script]
                    exact zero first List.mem_cons_self
                  obtain ⟨sent, same⟩ := link.send_obliging_of_accepted fits now
                  obtain ⟨added, grown, one⟩ := link.send_requests fits
                  have next : (link.send message).link.board.responses.statuses .transaction =
                      others ++ status :: later := by
                    rw [link.send_transactions fits, script]
                    rfl
                  have done : (link.obliging.send message).failure = none := by rw [same]
                  rw [carryOut_message_of_sent done, same] at whole ⊢
                  rw [carryOut_message_of_sent sent]
                  obtain ⟨more, regrown, _⟩ := (link.send message).link.obliging.carryOut_traffic rest
                  have split : events = added ++ more := by
                    have log : link.board.log ++ events = link.board.log ++ (added ++ more) := by
                      rw [← whole, ← List.append_assoc, ← grown]
                      exact regrown
                    exact List.append_cancel_left log
                  rw [split, List.filterMap_append, one] at reached
                  obtain ⟨before, request, count, cut⟩ := ih (link.send message).link next
                    (fun earlier member => zero earlier (List.mem_cons_of_mem _ member)) regrown
                    (Nat.lt_of_succ_lt_succ reached)
                  refine ⟨added ++ before, request, ?_, cut.message grown (by rw [one]; rfl)⟩
                  rw [List.filterMap_append, one, List.length_append, count]
                  exact Nat.add_comm 1 _

/-- Steps with settled delays are carried out if no status of a transaction is to come. -/
theorem carryOut_untroubled (steps : List Step) (link : Link Recorder) {delays : SelectDelays}
    (settled : link.Settled delays)
    (untroubled : link.board.responses.statuses .transaction = []) :
    link.Carried steps (link.carryOut (Errand.ofSteps delays steps)) := by
  induction steps generalizing link with
  | nil => exact ⟨rfl, (List.append_nil _).symm, rfl, rfl, rfl⟩
  | cons step rest ih =>
      cases step with
      | wait ns => exact Carried.wait (ih _ (settled.withBoard rfl rfl) untroubled)
      | part data =>
          have zero : link.board.responses.status .transaction = 0 := by
            rw [Responses.status, untroubled]
            rfl
          have sent := send_part_of_settled settled zero data rest
          have done : (link.send (Errand.partMessage delays data rest)).failure = none := by
            rw [sent]
          have next : (link.afterPart data rest).board.responses.statuses .transaction = [] :=
            congrArg List.tail untroubled
          rw [Errand.ofSteps, carryOut_message_of_sent done, sent]
          exact Carried.part (ih _ (settled.withBoard rfl rfl) next)

theorem select_transactions (link : Link Recorder) :
    link.select.link.board.responses.statuses .transaction =
      link.board.responses.statuses .transaction := by
  rcases link.select_cases with ⟨_, same⟩ | ⟨_, same⟩
  · rw [same]
  · rw [same]
    exact link.configure_transactions

end Link

end SharedSpi

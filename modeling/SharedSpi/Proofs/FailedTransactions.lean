import SharedSpi.Proofs.ByteFlow
import SharedSpi.Proofs.DelaysInEffect
import SharedSpi.Proofs.Framing
import SharedSpi.Proofs.InService
import SharedSpi.Proofs.ObligingRuns

/-!
# Failed transactions

A transaction that fails half-way does not leave chip select asserted: the
controller is configured again, which resets it. What went before is what a
transaction without the failure does, so it never asked to release chip select,
and what was not reached keeps the bytes that it held.
-/

namespace SharedSpi

namespace Operation

/-- Puts received bytes at the front of the receive buffer. -/
def store (operation : Operation) (bytes : Bytes) : Operation :=
  match operation with
  | read buffer => read (bytes ++ buffer.drop bytes.length)
  | write data => write data
  | exchange data buffer => exchange data (bytes ++ buffer.drop bytes.length)
  | inPlace buffer => inPlace (bytes ++ buffer.drop bytes.length)
  | delay ns => delay ns

/-- Messages of which some were sent store their bytes at the front. -/
theorem restore_eq_store {operation : Operation} {sent : List Buffers} {bytes : Bytes}
    (received : sent.flatMap Buffers.received = bytes ++ operation.received.drop bytes.length) :
    operation.restore sent = operation.store bytes := by
  cases operation with
  | read buffer => exact congrArg read received
  | write data => rfl
  | exchange data buffer => exact congrArg (exchange data) received
  | inPlace buffer => exact congrArg inPlace received
  | delay ns => rfl

theorem length_restoreAll (operations : List Operation) (sent : List Buffers) :
    (restoreAll operations sent).length = operations.length := by
  induction operations generalizing sent with
  | nil => rfl
  | cons operation rest ih => rw [restoreAll, List.length_cons, List.length_cons, ih]

theorem restoreAll_append (first second : List Operation) (sent : List Buffers) :
    restoreAll (first ++ second) sent =
      restoreAll first (sent.take (first.flatMap parts).length) ++
        restoreAll second (sent.drop (first.flatMap parts).length) := by
  induction first generalizing sent with
  | nil => rfl
  | cons operation rest ih =>
      have own : (sent.take (operation.parts.length + (rest.flatMap parts).length)).take
          operation.parts.length = sent.take operation.parts.length := by
        rw [List.take_take, Nat.min_eq_left (Nat.le_add_right _ _)]
      rw [List.cons_append, restoreAll, ih, restoreAll, List.flatMap_cons, List.length_append, own,
        List.drop_take, Nat.add_sub_cancel_left, List.drop_drop, List.cons_append]

/-- A message of operations belongs to one of them. -/
theorem exists_hit {operations : List Operation} {sent unsent : List Buffers} {part : Buffers}
    (split : operations.flatMap parts = sent ++ part :: unsent) :
    ∃ done hit pending first last, operations = done ++ hit :: pending ∧
      hit.parts = first ++ part :: last ∧ sent = done.flatMap parts ++ first ∧
        unsent = last ++ pending.flatMap parts := by
  induction operations generalizing sent with
  | nil =>
      cases sent <;> cases split
  | cons operation rest ih =>
      rw [List.flatMap_cons] at split
      have later : ∀ more, sent = operation.parts ++ more →
          rest.flatMap parts = more ++ part :: unsent →
          ∃ done hit pending first last, operation :: rest = done ++ hit :: pending ∧
            hit.parts = first ++ part :: last ∧ sent = done.flatMap parts ++ first ∧
              unsent = last ++ pending.flatMap parts := by
        intro more same rest
        obtain ⟨done, hit, pending, first, last, listed, own, before, after⟩ := ih rest
        refine ⟨operation :: done, hit, pending, first, last, ?_, own, ?_, after⟩
        · rw [listed, List.cons_append]
        · rw [same, before, List.flatMap_cons, List.append_assoc]
      rcases List.append_eq_append_iff.mp split with ⟨more, same, rest⟩ | ⟨more, same, more'⟩
      · exact later more same rest
      · cases more with
        | nil => exact later [] (by simpa using same.symm) more'.symm
        | cons own more =>
            obtain ⟨rfl, after⟩ := List.cons.inj more'
            exact ⟨[], operation, rest, sent, more, rfl, same, rfl, after⟩

/-- If the messages up to one were sent, the operations before the one it belongs to are as if all had
been sent, this one has received what was sent of it, and those after it are as they were. -/
theorem restoreAll_cut {operations done pending : List Operation} {hit : Operation}
    {first last whole : List Buffers} {part : Buffers}
    (listed : operations = done ++ hit :: pending) (own : hit.parts = first ++ part :: last)
    (enough : (done.flatMap parts ++ first).length ≤ whole.length) :
    restoreAll operations
        (whole.take (done.flatMap parts ++ first).length ++
          part :: (last ++ pending.flatMap parts)) =
      (restoreAll operations whole).take done.length ++
        hit.restore ((whole.drop (done.flatMap parts).length).take first.length ++ part :: last) ::
          pending := by
  rw [List.length_append] at enough ⊢
  have before : ((whole.take ((done.flatMap parts).length + first.length) ++
      part :: (last ++ pending.flatMap parts))).take (done.flatMap parts).length =
        whole.take (done.flatMap parts).length := by
    rw [List.take_append_of_le_length (by rw [List.length_take]; omega), List.take_take,
      Nat.min_eq_left (Nat.le_add_right _ _)]
  have after : ((whole.take ((done.flatMap parts).length + first.length) ++
      part :: (last ++ pending.flatMap parts))).drop (done.flatMap parts).length =
        ((whole.drop (done.flatMap parts).length).take first.length ++ part :: last) ++
          pending.flatMap parts := by
    rw [List.drop_append_of_le_length (by rw [List.length_take]; omega), List.drop_take,
      Nat.add_sub_cancel_left, List.append_assoc, List.cons_append]
  have length : ((whole.drop (done.flatMap parts).length).take first.length ++
      part :: last).length = hit.parts.length := by
    rw [own, List.length_append, List.length_append, List.length_take, List.length_drop]
    omega
  rw [listed, restoreAll_append, restoreAll_append, before, after, restoreAll,
    List.take_left' length, List.drop_left' length, restoreAll_parts,
    List.take_left' (length_restoreAll _ _)]

theorem flatMap_received_operations (operations : List Operation) :
    (operations.flatMap parts).flatMap Buffers.received = operations.flatMap received := by
  rw [List.flatMap_assoc]
  exact List.flatMap_congr fun operation _ => operation.flatMap_received_parts

theorem even_of_mem_flatMap {operations : List Operation} :
    ∀ part ∈ operations.flatMap parts, part.Even := by
  intro part found
  obtain ⟨operation, _, own⟩ := List.mem_flatMap.mp found
  exact operation.even_parts part own

/-- What an operation has received once some of its messages were sent stands at the front of its
receive buffer. -/
theorem store_of_fill {hit : Operation} {first last : List Buffers} {part : Buffers}
    (own : hit.parts = first ++ part :: last) (responses : Responses) :
    hit.restore (responses.fill first ++ part :: last) =
      hit.store (responses.upcoming (first.flatMap Buffers.received).length) := by
  have even : ∀ buffers ∈ first, buffers.Even := by
    intro buffers found
    apply hit.even_parts
    rw [own]
    exact List.mem_append_left _ found
  have received := hit.flatMap_received_parts
  rw [own, List.flatMap_append] at received
  apply restore_eq_store
  rw [List.flatMap_append, (Responses.flatMap_received_fill even responses).1,
    Responses.length_upcoming, ← received, List.drop_left]

/-- The operations of a transaction of which only the messages before one were sent. -/
theorem restoreAll_fill_cut {operations done pending : List Operation} {hit : Operation}
    {first last : List Buffers} {part : Buffers} (listed : operations = done ++ hit :: pending)
    (own : hit.parts = first ++ part :: last) (responses : Responses) :
    restoreAll operations
        ((responses.fill (operations.flatMap parts)).take (done.flatMap parts ++ first).length ++
          part :: (last ++ pending.flatMap parts)) =
      (restoreAll operations (responses.fill (operations.flatMap parts))).take done.length ++
        hit.store ((responses.afterBytes (done.flatMap received).length).upcoming
          (first.flatMap Buffers.received).length) :: pending := by
  have split : operations.flatMap parts =
      done.flatMap parts ++ (first ++ (part :: last ++ pending.flatMap parts)) := by
    rw [listed, List.flatMap_append, List.flatMap_cons, own, List.append_assoc]
  have enough : (done.flatMap parts ++ first).length ≤
      (responses.fill (operations.flatMap parts)).length := by
    simp only [Responses.length_fill, split, List.length_append]
    omega
  have even : ∀ part ∈ done.flatMap parts, part.Even := even_of_mem_flatMap
  have used := (Responses.flatMap_received_fill even responses).2
  rw [flatMap_received_operations] at used
  have filled : ((responses.fill (operations.flatMap parts)).drop (done.flatMap parts).length).take
      first.length = (responses.afterBytes (done.flatMap received).length).fill first := by
    rw [split, Responses.fill_append, List.drop_left' (Responses.length_fill _ _), used,
      Responses.fill_append, List.take_left' (Responses.length_fill _ _)]
  rw [restoreAll_cut listed own enough, filled, store_of_fill own]

end Operation

namespace Link

/-- The events of an attempt to configure the controller of a device, and the link that it leaves:
either every call succeeds, setup and hold times become one tick, the device remembers no delays and the
table its chip select; or the first call that fails is the last, and the controller is shut down. -/
def Attempt (device : Device) (events : List BoardEvent) (after : Link Recorder) : Prop :=
  (∃ timing : SelectTiming, timing.pre = 1 ∧ timing.post = 1 ∧
    events =
      fullConfiguration device.controller device.config device.mode.hardware timing ∧
    after.device.delays = .zero ∧
    after.bus.table.last.get device.controller = device.select) ∨
  ∃ made refused skipped status, device.setupCalls = made ++ refused :: skipped ∧ status ≠ 0 ∧
    events = made.map (setupEvent device.controller 0) ++
      [setupEvent device.controller status refused, ⟨.shutdown device.controller, none⟩]

theorem configure_attempt (link : Link Recorder) :
    ∃ events, link.configure.link.board.log = link.board.log ++ events ∧
      Attempt link.device events link.configure.link := by
  rcases link.configure_cases with ⟨board, completed⟩ | ⟨board, refused⟩
  · refine ⟨_, completed.log, Or.inl ⟨_, rfl, rfl, rfl, ?_, ?_⟩⟩
    · rw [completed.result]
      rfl
    · rw [completed.result]
      exact Bank.get_set_same _ _ _
  · obtain ⟨made, failing, skipped, status, split, bad, logged⟩ := refused.logged
    refine ⟨_, ?_, Or.inr ⟨made, failing, skipped, status, split, bad, rfl⟩⟩
    rw [refused.log, logged]
    simp only [List.append_assoc, List.cons_append, List.nil_append]

/-- An attempt does not depend on the delays that the device remembers. -/
theorem Attempt.of_device {first second : Device} {events : List BoardEvent}
    {after : Link Recorder} (attempt : Attempt second events after)
    (same : second = { first with delays := second.delays }) : Attempt first events after := by
  rw [same] at attempt
  exact attempt

/-- The errands of a transaction with data succeed on an obliging link, and only the last request
releases chip select. -/
theorem carryOut_operations_obliging (link : Link Recorder) {operations : List Operation}
    (sends : operations.any Operation.carriesData = true) :
    let whole := link.obliging.carryOut (Errand.ofOperations operations)
    whole.failure = none ∧
      whole.data = link.board.responses.fill (operations.flatMap Operation.parts) ∧
      ∃ events earlier final, whole.link.board.log = link.board.log ++ events ∧
        events.filterMap (·.call.request?) = earlier ++ [final] ∧
        ∀ request ∈ earlier, request.release = false := by
  intro whole
  let schedule := Schedule.ofSteps (Step.ofOperations operations)
  obtain ⟨part, rest, body, errands⟩ := Errand.ofOperations_of_sends sends
  let ready := link.obliging.updateDelays schedule.delays
  have carried : ready.Carried schedule.body whole := by
    have untroubled := ready.carryOut_untroubled schedule.body
      (link.obliging.settled_updateDelays schedule.delays)
      (by rw [link.obliging.updateDelays_responses]; rfl)
    simp only [whole, errands, schedule, body, ready, carryOut_updateDelays] at untroubled ⊢
    exact untroubled
  obtain ⟨writes, written, timings⟩ := link.obliging.updateDelays_log schedule.delays
  have silent := requests_of_writes timings
  have sending : schedule.body.any Step.isPart = true := by
    rw [body]
    rfl
  obtain ⟨earlier, final, asked, _, kept⟩ := Step.release_requests sending ready.device.select
  refine ⟨carried.failure, ?_, writes ++ Step.events ready.device.controller ready.device.select
    schedule.body, earlier, final, ?_, ?_, kept⟩
  · rw [carried.data, Step.buffers_body, Step.buffers_ofOperations]
    exact Responses.fill_congr (by rw [link.obliging.updateDelays_responses]; rfl)
      (by rw [link.obliging.updateDelays_responses]; rfl) _
  · rw [carried.log, written, List.append_assoc]
    rfl
  · rw [List.filterMap_append, silent, Step.filterMap_request?_events, asked, List.nil_append]

theorem transaction_of_selected {link : Link Recorder} (selected : link.select.failure = none)
    (operations : List Operation) :
    link.transaction operations =
      (link.select.link.carryOutAll true (Errand.ofOperations operations)).map
        (Operation.restoreAll operations) := by
  simp only [transaction, afterSelect, selected, perform_eq_carryOutAll]

theorem transaction_obliging {link : Link Recorder} {operations : List Operation}
    (selected : link.select.failure = none)
    (sends : operations.any Operation.carriesData = true) :
    link.obliging.transaction operations =
      (link.select.link.obliging.carryOut (Errand.ofOperations operations)).map
        (Operation.restoreAll operations) := by
  have done := (link.select.link.carryOut_operations_obliging sends).1
  have alsoSelected : link.obliging.select.failure = none := by
    rw [link.select_obliging]
    exact selected
  rw [transaction_of_selected alsoSelected, link.select_obliging]
  simp only [carryOutAll, if_true, recover, done]

theorem transaction_of_failed {link : Link Recorder} {operations : List Operation}
    {error : SpiError} (selected : link.select.failure = none)
    (failed : (link.select.link.carryOut (Errand.ofOperations operations)).failure = some error) :
    link.transaction operations =
      let cut := link.select.link.carryOut (Errand.ofOperations operations)
      ⟨cut.link.configure.link, Operation.restoreAll operations cut.data, some error⟩ := by
  rw [transaction_of_selected selected]
  simp only [carryOutAll, if_true, recover, failed, Outcome.map]

/-- A transaction ends as its errands do, or configures the controller again if they failed. -/
theorem transaction_cases {link : Link Recorder} (selected : link.select.failure = none)
    (operations : List Operation) :
    let carried := link.select.link.carryOut (Errand.ofOperations operations)
    ((link.transaction operations).failure = none ∧
        (link.transaction operations).link = carried.link) ∨
      ∃ error, (link.transaction operations).failure = some error ∧
        (link.transaction operations).link = carried.link.configure.link := by
  intro carried
  cases result : (link.select.link.carryOut (Errand.ofOperations operations)).failure with
  | none =>
      have ended : link.transaction operations =
          ⟨carried.link, Operation.restoreAll operations carried.data, none⟩ := by
        rw [transaction_of_selected selected]
        simp only [carryOutAll, if_true, recover, result, Outcome.map, carried]
      rw [ended]
      exact Or.inl ⟨rfl, rfl⟩
  | some error =>
      rw [transaction_of_failed selected result]
      exact Or.inr ⟨error, rfl, rfl⟩

/-- A transaction that was cut short is cut within one of its operations. -/
theorem CutAt.operations {link : Link Recorder} {operations : List Operation}
    {before : List BoardEvent} {request : Request} {status : Int32}
    {whole cut : Outcome Recorder (List Buffers)}
    (cutAt : link.CutAt (Errand.ofOperations operations) before request status whole cut)
    (data : whole.data = link.board.responses.fill (operations.flatMap Operation.parts)) :
    ∃ done hit pending first last,
      operations = done ++ hit :: pending ∧
      hit.parts = first ++ request.buffers :: last ∧
      (done.flatMap Operation.parts ++ first).length =
        (before.filterMap (·.call.request?)).length ∧
      Operation.restoreAll operations cut.data =
        (Operation.restoreAll operations whole.data).take done.length ++
          hit.store ((link.board.responses.afterBytes
              (done.flatMap Operation.received).length).upcoming
            (first.flatMap Buffers.received).length) :: pending := by
  obtain ⟨sent, unsent, listed, length, cutData⟩ := cutAt.data
  rw [Errand.buffers_ofOperations] at listed
  obtain ⟨done, hit, pending, first, last, found, own, rfl, rfl⟩ := Operation.exists_hit listed
  refine ⟨done, hit, pending, first, last, found, own, length, ?_⟩
  rw [cutData, data]
  exact Operation.restoreAll_fill_cut found own link.board.responses

/-- Requests in front of another one are none of the last. -/
theorem kept_of_split {before after earlier : List Request} {request final : Request}
    (split : before ++ request :: after = earlier ++ [final])
    (kept : ∀ request ∈ earlier, request.release = false) :
    ∀ request ∈ before, request.release = false := by
  intro asked found
  have shorter := congrArg List.dropLast split
  rw [List.dropLast_concat, List.dropLast_append_of_ne_nil (List.cons_ne_nil _ _)] at shorter
  exact kept asked (shorter ▸ List.mem_append_left _ found)

/-- A transaction whose requests reach the controller carries data. -/
theorem sends_of_requests {link : Link Recorder} {operations : List Operation}
    (selected : link.select.failure = none)
    (some : ((link.transaction operations).link.board.log.drop
      link.board.log.length).filterMap (·.call.request?) ≠ []) :
    operations.any Operation.carriesData = true := by
  cases sends : operations.any Operation.carriesData with
  | true => rfl
  | false =>
      have parts := (moved_of_idle selected sends).parts
      rw [Operation.parts_of_idle sends] at parts
      exact (some (List.map_eq_nil_iff.mp parts)).elim

/-- If the device is selected, the transactions before one succeed and that one fails, a call does
what it does when every transaction succeeds, up to that transaction: none of those before it releases
chip select, its status is what the call reports, and it is followed by one attempt to configure the
controller and by nothing else. The operations done by then are as when every transaction succeeds, and
the others hold what they held but for the bytes of the messages that were sent of one of them. -/
theorem release_after_failure {link : Link Recorder} {operations : List Operation}
    {accepted later : List Int32} {status : Int32}
    (selected : link.select.failure = none)
    (script : link.board.responses.statuses .transaction = accepted ++ status :: later)
    (zero : ∀ earlier ∈ accepted, earlier = 0) (failing : status ≠ 0)
    (reached : accepted.length < (((link.obliging.transaction operations).link.board.log.drop
      link.board.log.length).filterMap (·.call.request?)).length) :
    let whole := link.obliging.transaction operations
    let cut := link.transaction operations
    ∃ before request after recovery,
      whole.failure = none ∧
      whole.link.board.log = link.board.log ++
        (before ++ ⟨.transaction link.device.controller request, some 0⟩ :: after) ∧
      cut.link.board.log = link.board.log ++
        (before ++ ⟨.transaction link.device.controller request, some status⟩ :: recovery) ∧
      (before.filterMap (·.call.request?)).length = accepted.length ∧
      (∀ earlier ∈ before.filterMap (·.call.request?), earlier.release = false) ∧
      (∃ fault, Fault.ofStatus? status = some fault ∧ cut.failure = some fault.toError) ∧
      Attempt link.device recovery cut.link ∧
      ∃ done hit pending first last,
        operations = done ++ hit :: pending ∧
        hit.parts = first ++ request.buffers :: last ∧
        (done.flatMap Operation.parts ++ first).length = accepted.length ∧
        cut.data = whole.data.take done.length ++
          hit.store ((link.board.responses.afterBytes
              (done.flatMap Operation.received).length).upcoming
            (first.flatMap Buffers.received).length) :: pending := by
  intro whole cut
  let ready := link.select.link
  let errands := Errand.ofOperations operations
  have sends : operations.any Operation.carriesData = true := by
    have alsoSelected : link.obliging.select.failure = none := by
      rw [link.select_obliging]
      exact selected
    exact sends_of_requests alsoSelected (List.ne_nil_of_length_pos (Nat.zero_lt_of_lt reached))
  have wholly : whole = _ := transaction_obliging selected sends
  obtain ⟨untroubled, data, events, earlier, final, grown, asked, kept⟩ :=
    ready.carryOut_operations_obliging sends
  obtain ⟨fault, found⟩ : ∃ fault, Fault.ofStatus? status = some fault := by
    cases result : Fault.ofStatus? status with
    | none => exact (failing ((Fault.ofStatus?_eq_none_iff status).mp result)).elim
    | some fault => exact ⟨fault, rfl⟩
  have wholeGrown : whole.link.board.log = link.select.link.board.log ++ events := by
    rw [wholly]
    exact grown
  rw [show _ = events.filterMap _ from requests_after_select wholeGrown] at reached
  obtain ⟨before, request, count, cutAt⟩ := ready.carryOut_cut errands
    (by rw [link.select_transactions]; exact script) zero found grown reached
  have failed : (ready.carryOut errands).failure = some fault.toError := by
    rw [cutAt.failure, found]
    rfl
  have cutShort : cut = _ := transaction_of_failed selected failed
  obtain ⟨configuring, chosen, quiet⟩ := link.select_quiet
  have silent : configuring.filterMap (·.call.request?) = [] :=
    List.filterMap_eq_nil_iff.mpr quiet
  obtain ⟨recovery, recovered, attempt⟩ := (ready.carryOut errands).link.configure_attempt
  have device : (ready.carryOut errands).link.device = { link.device with
      delays := (ready.carryOut errands).link.device.delays } := by
    rw [(ready.carryOut_kept errands).device, link.select_confined.device]
  have controller : ready.device.controller = link.device.controller := link.select_controller
  obtain ⟨after, wholeLog⟩ := cutAt.wholeLog
  have split : events = before ++ ⟨.transaction ready.device.controller request, some 0⟩ :: after :=
    List.append_cancel_left (grown.symm.trans wholeLog)
  rw [split, List.filterMap_append] at asked
  refine ⟨configuring ++ before, request, after, recovery, ?_, ?_, ?_, ?_, ?_, ⟨fault, found, ?_⟩,
    ?_, ?_⟩
  · rw [wholly]
    exact untroubled
  · rw [wholly, ← controller, List.append_assoc, ← List.append_assoc, ← chosen]
    exact wholeLog
  · rw [cutShort]
    refine Eq.trans recovered ?_
    rw [cutAt.cutLog, controller, show ready.board.log = _ from chosen]
    simp only [List.append_assoc, List.cons_append, List.nil_append]
  · rw [List.filterMap_append, silent, List.nil_append, count]
  · rw [List.filterMap_append, silent, List.nil_append]
    exact kept_of_split asked kept
  · rw [cutShort]
  · rw [cutShort]
    exact attempt.of_device device
  · obtain ⟨done, hit, pending, first, last, found, own, length, cutData⟩ := cutAt.operations data
    refine ⟨done, hit, pending, first, last, found, own, length.trans count, ?_⟩
    have stream : ∀ used wanted, (ready.board.responses.afterBytes used).upcoming wanted =
        (link.board.responses.afterBytes used).upcoming wanted := by
      intro used wanted
      simp only [Responses.upcoming, Responses.afterBytes, ready, link.select_stream]
    rw [cutShort, wholly, ← stream]
    exact cutData

/-- An exchange whose second message fails, and a configuration after it that fails too. -/
theorem release_after_failed_exchange :
    let device : Device :=
      { controller := .spi0, speed := 1000000, select := 1, mode := .mode0, order := .msbFirst,
        platform := { slaves := 1, polarity := 0, supply := .vddio }, delays := .zero }
    let responses : Responses :=
      { Responses.initial with
        statuses := fun kind =>
          match kind with
          | .init => [0, -1]
          | .transaction => [0, 0, -7, 5]
          | _ => [] }
    let link : Link Recorder :=
      ⟨⟨{ Recorder.initial with responses := responses }, .initial⟩, device⟩
    let operations : List Operation :=
      [.delay 1000, .read [0], .delay 7, .exchange [2] [0, 0, 0], .write [3]]
    let cut := link.transaction operations
    (link.select.failure = none ∧
        link.board.responses.statuses .transaction = [0, 0] ++ -7 :: [5] ∧
        (∀ earlier ∈ ([0, 0] : List Int32), earlier = 0) ∧ (-7 : Int32) ≠ 0 ∧
        ([0, 0] : List Int32).length <
          (((link.obliging.transaction operations).link.board.log.drop
            link.board.log.length).filterMap (·.call.request?)).length) ∧
      ∃ before request recovery,
        cut.link.board.log = link.board.log ++
          (before ++ ⟨.transaction .spi0 request, some (-7)⟩ :: recovery) ∧
        (∀ earlier ∈ before.filterMap (·.call.request?), earlier.release = false) ∧
        (∃ fault, Fault.ofStatus? (-7) = some fault ∧ cut.failure = some fault.toError) ∧
        Attempt device recovery cut.link := by
  intro device responses link operations
  dsimp only
  have selected : link.select.failure = none := by decide +kernel
  have script : link.board.responses.statuses .transaction = [0, 0] ++ -7 :: [5] := rfl
  have zero : ∀ earlier ∈ ([0, 0] : List Int32), earlier = 0 := by simp
  have reached : ([0, 0] : List Int32).length <
      (((link.obliging.transaction operations).link.board.log.drop
        link.board.log.length).filterMap (·.call.request?)).length := by decide +kernel
  obtain ⟨before, request, _, recovery, _, _, log, _, kept, failure, attempt, _⟩ :=
    release_after_failure selected script zero (by decide) reached
  exact ⟨⟨selected, script, zero, by decide, reached⟩, before, request, recovery, log, kept,
    failure, attempt⟩

end Link

end SharedSpi

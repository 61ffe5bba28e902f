import SharedSpi.Proofs.CarriedSteps

/-!
# Chip select framing

A transaction that succeeds keeps chip select asserted from its first request to
its last. Delays before the first operation with data and after the last are
left to the setup and hold times; those in between are waited for where they
stand. A transaction without data only waits.
-/

namespace SharedSpi

namespace Operation

/-- The length of a delay, if the operation is one. -/
def delay? : Operation → Option UInt32
  | delay ns => some ns
  | _ => none

/-- What an operation with its requests adds to the log: a delay is waited for, and a wait of length
zero follows every request. -/
def frame (controller : Controller) (group : Operation × List Request) : List BoardEvent :=
  match group.1 with
  | delay ns => [waitEvent ns]
  | _ => group.2.flatMap (Step.partEvents controller)

theorem frame_of_no_delay {operation : Operation} (none : operation.delay? = none)
    (controller : Controller) (requests : List Request) :
    frame controller (operation, requests) = requests.flatMap (Step.partEvents controller) := by
  cases operation with
  | delay ns => cases none
  | read buffer => rfl
  | write data => rfl
  | exchange data buffer => rfl
  | inPlace buffer => rfl

/-- Operations of which one carries data have a first and a last that do. -/
theorem exists_core {operations : List Operation} (sends : operations.any carriesData = true) :
    ∃ lead core trail, operations = lead ++ (core ++ trail) ∧
      (∀ operation ∈ lead, operation.carriesData = false) ∧
      (∀ operation ∈ trail, operation.carriesData = false) ∧
      (∃ first rest, core = first :: rest ∧ first.carriesData = true) ∧
      ∃ rest last, core = rest ++ [last] ∧ last.carriesData = true := by
  induction operations with
  | nil => cases sends
  | cons operation rest ih =>
      cases more : rest.any carriesData with
      | true =>
          obtain ⟨lead, core, trail, split, idle, after, first, others, last, ends, carries⟩ :=
            ih more
          cases starts : operation.carriesData with
          | true =>
              refine ⟨[], operation :: (lead ++ core), trail, ?_, by simp, after,
                ⟨operation, _, rfl, starts⟩, operation :: (lead ++ others), last, ?_, carries⟩
              · rw [split]
                simp
              · rw [ends]
                simp
          | false =>
              refine ⟨operation :: lead, core, trail, ?_, ?_, after, first, others, last, ends,
                carries⟩
              · rw [split]
                rfl
              · intro other found
                rcases List.mem_cons.mp found with rfl | old
                · exact starts
                · exact idle other old
      | false =>
          have starts : operation.carriesData = true := by
            rw [List.any_cons, more, Bool.or_false] at sends
            exact sends
          refine ⟨[], [operation], rest, rfl, by simp, ?_, ⟨operation, [], rfl, starts⟩, [],
            operation, rfl, starts⟩
          intro other found
          exact Bool.not_eq_true _ |>.mp (List.any_eq_false.mp more other found)

end Operation

namespace Step

theorem ofOperations_append (first second : List Operation) :
    ofOperations (first ++ second) = ofOperations first ++ ofOperations second :=
  List.flatMap_append

/-- An operation is its delay or its parts. -/
theorem ofOperation_cases (operation : Operation) :
    (∃ ns, operation = .delay ns ∧ ofOperation operation = [wait ns]) ∨
      (operation.delay? = none ∧ ofOperation operation = operation.parts.map part) := by
  cases operation with
  | delay ns => exact Or.inl ⟨ns, rfl, rfl⟩
  | read buffer => exact Or.inr ⟨rfl, rfl⟩
  | write data => exact Or.inr ⟨rfl, rfl⟩
  | exchange data buffer => exact Or.inr ⟨rfl, rfl⟩
  | inPlace buffer => exact Or.inr ⟨rfl, rfl⟩

/-- Operations without data come down to their delays. -/
theorem ofOperations_of_idle {operations : List Operation}
    (idle : ∀ operation ∈ operations, operation.carriesData = false) :
    ofOperations operations = (operations.filterMap Operation.delay?).map wait := by
  induction operations with
  | nil => rfl
  | cons operation rest ih =>
      have later := ih fun other found => idle other (List.mem_cons_of_mem _ found)
      unfold ofOperations at later ⊢
      rw [List.flatMap_cons, later]
      rcases ofOperation_cases operation with ⟨ns, rfl, steps⟩ | ⟨none, steps⟩
      · rw [steps]
        rfl
      · have empty : operation.parts = [] :=
          Operation.parts_eq_nil_iff.mpr (idle operation List.mem_cons_self)
        rw [steps, empty, List.filterMap_cons_none none]
        rfl

theorem ofOperation_of_carriesData {operation : Operation}
    (carries : operation.carriesData = true) :
    operation.parts ≠ [] ∧ ofOperation operation = operation.parts.map part := by
  rcases ofOperation_cases operation with ⟨ns, rfl, _⟩ | ⟨_, steps⟩
  · cases carries
  · refine ⟨fun empty => ?_, steps⟩
    rw [Operation.parts_eq_nil_iff.mp empty] at carries
    cases carries

theorem fromFirstPart_map_wait (times : List UInt32) (steps : List Step) :
    fromFirstPart (times.map wait ++ steps) = fromFirstPart steps := by
  induction times with
  | nil => rfl
  | cons ns rest ih => exact ih

theorem any_isPart_map_wait (times : List UInt32) : (times.map wait).any isPart = false := by
  induction times with
  | nil => rfl
  | cons ns rest ih => exact ih

theorem untilLastPart_of_silent {steps : List Step} (silent : steps.any isPart = false) :
    untilLastPart steps = [] := by
  cases steps with
  | nil => rfl
  | cons step rest => simp [untilLastPart, silent]

theorem untilLastPart_append (steps : List Step) (last : Buffers) (times : List UInt32) :
    untilLastPart ((steps ++ [part last]) ++ times.map wait) = steps ++ [part last] := by
  induction steps with
  | nil =>
      have silent := untilLastPart_of_silent (any_isPart_map_wait times)
      simp [untilLastPart, isPart, silent]
  | cons step rest ih =>
      have more : (step :: ((rest ++ [part last]) ++ times.map wait)).any isPart = true := by
        simp [isPart]
      rw [List.cons_append, List.cons_append, untilLastPart, if_pos more, ih]

end Step

/-- The body of a schedule is what stands between the outer waits. -/
theorem Schedule.body_between {core : List Step} (starts : ∃ first rest, core = .part first :: rest)
    (ends : ∃ rest last, core = rest ++ [.part last]) (lead trail : List UInt32) :
    (ofSteps (lead.map .wait ++ (core ++ trail.map .wait))).body = core := by
  obtain ⟨first, others, head⟩ := starts
  obtain ⟨rest, last, foot⟩ := ends
  have fromFirst : Step.fromFirstPart (core ++ trail.map .wait) = core ++ trail.map .wait := by
    rw [head]
    rfl
  simp only [ofSteps, Step.fromFirstPart_map_wait, fromFirst]
  rw [foot, Step.untilLastPart_append]

namespace Step

theorem requests_of_silent {steps : List Step} (silent : steps.any isPart = false)
    (select : UInt8) : requests select steps = [] := by
  induction steps with
  | nil => rfl
  | cons step rest ih =>
      cases step with
      | wait ns => exact ih silent
      | part data => cases silent

/-- Every request but the last keeps chip select asserted, and the last releases it. -/
theorem release_requests {steps : List Step} (sends : steps.any isPart = true) (select : UInt8) :
    ∃ earlier final, requests select steps = earlier ++ [final] ∧ final.release = true ∧
      ∀ request ∈ earlier, request.release = false := by
  induction steps with
  | nil => cases sends
  | cons step rest ih =>
      cases step with
      | wait ns => exact ih sends
      | part data =>
          cases more : rest.any isPart with
          | true =>
              obtain ⟨earlier, final, split, released, kept⟩ := ih more
              refine ⟨partRequest select data rest :: earlier, final, ?_, released, ?_⟩
              · rw [requests, split]
                rfl
              · intro request found
                rcases List.mem_cons.mp found with rfl | later
                · simp [partRequest, more]
                · exact kept request later
          | false =>
              refine ⟨[], partRequest select data rest, ?_, ?_, by simp⟩
              · rw [requests, requests_of_silent more]
                rfl
              · simp [partRequest, more]

/-- The requests and events of parts, whatever steps follow them. -/
theorem events_map_part (controller : Controller) (select : UInt8) (parts : List Buffers)
    (later : List Step) :
    ∃ group : List Request, group.length = parts.length ∧
      requests select (parts.map part ++ later) = group ++ requests select later ∧
      events controller select (parts.map part ++ later) =
        group.flatMap (partEvents controller) ++ events controller select later := by
  induction parts with
  | nil => exact ⟨[], rfl, rfl, rfl⟩
  | cons data rest ih =>
      obtain ⟨group, length, asked, logged⟩ := ih
      refine ⟨partRequest select data (rest.map part ++ later) :: group, ?_, ?_, ?_⟩
      · rw [List.length_cons, List.length_cons, length]
      · rw [List.map_cons, List.cons_append, requests, asked, List.cons_append]
      · rw [List.map_cons, List.cons_append, events, logged, List.flatMap_cons, List.append_assoc]

/-- The events of operations are those of their frames, in order. -/
theorem events_ofOperations (controller : Controller) (select : UInt8)
    (operations : List Operation) :
    ∃ groups : List (Operation × List Request), groups.map Prod.fst = operations ∧
      groups.flatMap Prod.snd = requests select (ofOperations operations) ∧
      groups.flatMap (Operation.frame controller) =
        events controller select (ofOperations operations) ∧
      ∀ group ∈ groups, group.2 = [] ↔ group.1.carriesData = false := by
  induction operations with
  | nil => exact ⟨[], rfl, rfl, rfl, by simp⟩
  | cons operation rest ih =>
      obtain ⟨groups, listed, asked, logged, each⟩ := ih
      have split : ofOperations (operation :: rest) = ofOperation operation ++ ofOperations rest :=
        List.flatMap_cons
      rcases ofOperation_cases operation with ⟨ns, rfl, steps⟩ | ⟨none, steps⟩
      · refine ⟨(.delay ns, []) :: groups, ?_, ?_, ?_, ?_⟩
        · rw [List.map_cons, listed]
        · rw [split, steps, List.flatMap_cons, asked]
          rfl
        · rw [split, steps, List.flatMap_cons, logged]
          rfl
        · intro group found
          rcases List.mem_cons.mp found with rfl | old
          · exact ⟨fun _ => rfl, fun _ => rfl⟩
          · exact each group old
      · obtain ⟨group, length, own, events⟩ :=
          events_map_part controller select operation.parts (ofOperations rest)
        refine ⟨(operation, group) :: groups, ?_, ?_, ?_, ?_⟩
        · rw [List.map_cons, listed]
        · rw [split, steps, own, List.flatMap_cons, asked]
        · rw [split, steps, events, List.flatMap_cons, Operation.frame_of_no_delay none, logged]
        · intro other found
          rcases List.mem_cons.mp found with rfl | old
          · rw [← List.length_eq_zero_iff, length, List.length_eq_zero_iff]
            exact Operation.parts_eq_nil_iff
          · exact each other old

theorem waits_ofOperations (operations : List Operation) :
    waits (ofOperations operations) = operations.filterMap Operation.delay? := by
  have silent : ∀ (parts : List Buffers) (later : List Step),
      waits (parts.map part ++ later) = waits later := by
    intro parts later
    induction parts with
    | nil => rfl
    | cons data rest ih => exact ih
  induction operations with
  | nil => rfl
  | cons operation rest ih =>
      have split : ofOperations (operation :: rest) = ofOperation operation ++ ofOperations rest :=
        List.flatMap_cons
      rcases ofOperation_cases operation with ⟨ns, rfl, steps⟩ | ⟨none, steps⟩
      · rw [split, steps]
        exact congrArg (ns :: ·) ih
      · rw [split, steps, silent, ih, List.filterMap_cons_none none]

end Step

/-- The steps of operations that start and end with data start and end with a message. -/
theorem Step.ofOperations_core {core : List Operation}
    (starts : ∃ first rest, core = first :: rest ∧ first.carriesData = true)
    (ends : ∃ rest last, core = rest ++ [last] ∧ last.carriesData = true) :
    (∃ first rest, ofOperations core = part first :: rest) ∧
      ∃ rest last, ofOperations core = rest ++ [part last] := by
  obtain ⟨first, others, head, carries⟩ := starts
  obtain ⟨rest, last, foot, alsoCarries⟩ := ends
  obtain ⟨some, opening⟩ := ofOperation_of_carriesData carries
  obtain ⟨alsoSome, closing⟩ := ofOperation_of_carriesData alsoCarries
  constructor
  · obtain ⟨data, parts, opened⟩ := List.exists_cons_of_ne_nil some
    refine ⟨data, parts.map part ++ ofOperations others, ?_⟩
    rw [head, ofOperations, List.flatMap_cons, opening, opened]
    rfl
  · refine ⟨ofOperations rest ++ last.parts.dropLast.map part, last.parts.getLast alsoSome, ?_⟩
    have closed := congrArg (List.map part) (List.dropLast_concat_getLast alsoSome)
    rw [List.map_append] at closed
    rw [foot, ofOperations_append, List.append_assoc]
    apply congrArg
    rw [ofOperations, List.flatMap_singleton, closing]
    exact closed.symm

/-- The body of a schedule is what operations from the first with data to the last come down to. -/
theorem Schedule.body_of_core {lead core trail : List Operation}
    (before : ∀ operation ∈ lead, operation.carriesData = false)
    (after : ∀ operation ∈ trail, operation.carriesData = false)
    (starts : ∃ first rest, core = first :: rest ∧ first.carriesData = true)
    (ends : ∃ rest last, core = rest ++ [last] ∧ last.carriesData = true) :
    (ofSteps (Step.ofOperations (lead ++ (core ++ trail)))).body = Step.ofOperations core := by
  obtain ⟨opens, closes⟩ := Step.ofOperations_core starts ends
  rw [Step.ofOperations_append, Step.ofOperations_append, Step.ofOperations_of_idle before,
    Step.ofOperations_of_idle after]
  exact body_between opens closes _ _

namespace Link

/-- A transaction whose device is selected and whose requests are all accepted succeeds. If an
operation carries data, the log grows by a write of the timing register if need be, and then by the
frames of the operations from the first with data to the last; only the last request releases chip
select. If none carries data, the delays are waited for and nothing else is done. -/
theorem framing_of_transaction {link : Link Recorder} {operations : List Operation}
    (selected : link.select.failure = none)
    (accepted : ∀ event ∈ (link.transaction operations).link.board.log.drop link.board.log.length,
      event.Accepted) :
    let outcome := link.transaction operations
    let controller := link.device.controller
    outcome.failure = none ∧
      (∃ configuring, link.select.link.board.log = link.board.log ++ configuring ∧
        ∀ event ∈ configuring, event.call.request? = none) ∧
      (operations.any Operation.carriesData = true →
        ∃ (lead trail : List Operation) (core : List (Operation × List Request))
          (writes : List BoardEvent),
          operations = lead ++ (core.map Prod.fst ++ trail) ∧
            (∀ operation ∈ lead, operation.carriesData = false) ∧
            (∀ operation ∈ trail, operation.carriesData = false) ∧
            (∃ first rest, core.map Prod.fst = first :: rest ∧ first.carriesData = true) ∧
            (∃ rest last, core.map Prod.fst = rest ++ [last] ∧ last.carriesData = true) ∧
            outcome.link.board.log = link.select.link.board.log ++
              (writes ++ core.flatMap (Operation.frame controller)) ∧
            (writes = [] ∨ ∃ timing, writes = [⟨.setTiming controller timing, none⟩]) ∧
            (∀ group ∈ core, group.2 = [] ↔ group.1.carriesData = false) ∧
            ∃ earlier final, core.flatMap Prod.snd = earlier ++ [final] ∧ final.release = true ∧
              ∀ request ∈ earlier, request.release = false) ∧
      (operations.any Operation.carriesData = false →
        outcome.link.board.log = link.select.link.board.log ++
          (operations.filterMap Operation.delay?).map waitEvent) := by
  intro outcome controller
  cases sends : operations.any Operation.carriesData with
  | false =>
      have ended : outcome = _ := transaction_of_idle selected sends
      rw [ended, Recorder.waitAll_eq, Step.waits_ofOperations]
      exact ⟨rfl, link.select_quiet, fun impossible => (by cases impossible), fun _ => rfl⟩
  | true =>
      obtain ⟨carried, ended, done⟩ := transaction_of_accepted selected sends accepted
      obtain ⟨lead, between, trail, split, before, after, starts, ends⟩ :=
        Operation.exists_core sends
      have body : (Schedule.ofSteps (Step.ofOperations operations)).body =
          Step.ofOperations between := by
        rw [split]
        exact Schedule.body_of_core before after starts ends
      obtain ⟨writes, written, most⟩ := link.select.link.updateDelays_writes
        (Schedule.ofSteps (Step.ofOperations operations)).delays
      have kept := link.select.link.updateDelays_kept
        (Schedule.ofSteps (Step.ofOperations operations)).delays
      obtain ⟨core, listed, asked, logged, each⟩ := Step.events_ofOperations controller
        link.select.link.device.select between
      have sending : (Step.ofOperations between).any Step.isPart = true := by
        rw [Step.any_isPart_ofOperations]
        obtain ⟨first, rest, head, carries⟩ := starts
        rw [head, List.any_cons, carries, Bool.true_or]
      obtain ⟨earlier, final, framed⟩ :=
        Step.release_requests sending link.select.link.device.select
      have ended : outcome = _ := ended
      rw [ended]
      refine ⟨rfl, link.select_quiet, fun _ => ?_, fun impossible => (by cases impossible)⟩
      refine ⟨lead, trail, core, writes, ?_, before, after, ?_, ?_, ?_, ?_, each, earlier, final, ?_⟩
      · rw [listed]
        exact split
      · rw [listed]
        exact starts
      · rw [listed]
        exact ends
      · rw [logged, done.log, body, written, kept.controller, kept.select,
          link.select_controller, List.append_assoc]
      · rw [link.select_controller] at most
        exact most
      · rw [asked]
        exact framed

/-- A transaction with delays before, between and after its data. -/
theorem framing_of_delayed_exchange :
    let device : Device :=
      { controller := .spi0, speed := 1000000, select := 1, mode := .mode0, order := .msbFirst,
        platform := { slaves := 1, polarity := 0, supply := .vddio }, delays := .zero }
    let link : Link Recorder := ⟨⟨Recorder.initial, .initial⟩, device⟩
    let operations : List Operation :=
      [.delay 1000, .write [1], .delay 7, .read [], .exchange [2] [0, 0], .delay 9]
    let outcome := link.transaction operations
    (link.select.failure = none ∧
        (∀ event ∈ outcome.link.board.log.drop link.board.log.length, event.Accepted) ∧
        operations.any Operation.carriesData = true) ∧
      ∃ (lead trail : List Operation) (core : List (Operation × List Request))
        (writes : List BoardEvent),
        operations = lead ++ (core.map Prod.fst ++ trail) ∧
          (∀ operation ∈ lead, operation.carriesData = false) ∧
          (∀ operation ∈ trail, operation.carriesData = false) ∧
          (∃ first rest, core.map Prod.fst = first :: rest ∧ first.carriesData = true) ∧
          (∃ rest last, core.map Prod.fst = rest ++ [last] ∧ last.carriesData = true) ∧
          outcome.link.board.log = link.select.link.board.log ++
            (writes ++ core.flatMap (Operation.frame .spi0)) ∧
          (writes = [] ∨ ∃ timing, writes = [⟨.setTiming .spi0 timing, none⟩]) ∧
          (∀ group ∈ core, group.2 = [] ↔ group.1.carriesData = false) ∧
          ∃ earlier final, core.flatMap Prod.snd = earlier ++ [final] ∧ final.release = true ∧
            ∀ request ∈ earlier, request.release = false := by
  intro device link operations
  dsimp only
  have selected : link.select.failure = none := by decide +kernel
  have accepted : ∀ event ∈ (link.transaction operations).link.board.log.drop link.board.log.length,
      event.Accepted := by decide +kernel
  have sends : operations.any Operation.carriesData = true := by decide
  obtain ⟨_, _, framed, _⟩ := framing_of_transaction selected accepted
  exact ⟨⟨selected, accepted, sends⟩, framed sends⟩

end Link

end SharedSpi

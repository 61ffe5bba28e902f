import Mathlib.Data.List.Induction
import SharedSpi.Proofs.Exchanges
import SharedSpi.Proofs.SharedControllers

/-!
# The table is faithful

Configuring a controller is attempted when a device is opened, when it is
selected while the table holds another chip select, and after a transaction call
that failed. The attempts of a run are collected in their order. They are the
places of the log at which a controller is initialized, and each has run to
completion or broken off there. The table holds, for each controller, the chip
select of the device for which the last completed attempt was made. It is
compared with the chip select of the device before each call, and nothing else
decides whether the call configures the controller first.
-/

namespace SharedSpi

/-- The controller that a call initializes, and how. -/
def BoardCall.init? : BoardCall → Option (Controller × ControllerConfig)
  | setup controller (.init config) => some (controller, config)
  | _ => none

/-- The places of a log at which a controller is initialized, for events that come after the first
`start` ones. -/
def initsAt (start : Nat) (events : List BoardEvent) :
    List (Nat × Controller × ControllerConfig) :=
  (events.zipIdx start).filterMap fun (event, place) => event.call.init?.map (place, ·)

theorem initsAt_append (start : Nat) (first second : List BoardEvent) :
    initsAt start (first ++ second) =
      initsAt start first ++ initsAt (start + first.length) second := by
  rw [initsAt, List.zipIdx_append, List.filterMap_append]
  rfl

theorem initsAt_of_quiet {events : List BoardEvent}
    (quiet : ∀ event ∈ events, event.call.init? = none) (start : Nat) :
    initsAt start events = [] := by
  refine List.filterMap_eq_nil_iff.mpr fun ⟨event, place⟩ found => ?_
  simp only [quiet event (List.fst_mem_of_mem_zipIdx found), Option.map_none]

theorem BoardEvent.IsTraffic.init?_eq_none {event : BoardEvent} {controller : Controller}
    (traffic : event.IsTraffic controller) : event.call.init? = none := by
  obtain ⟨call, status⟩ := event
  cases call with
  | setup asked call => cases traffic
  | setTiming asked timing => rfl
  | shutdown asked => rfl
  | transaction asked request => rfl
  | wait ns => rfl

namespace Link

/-- The events start with the initialization for a device, and it is the only one. -/
def Initializes (device : Device) (events : List BoardEvent) : Prop :=
  ∃ status rest, events = ⟨.setup device.controller (.init device.config), status⟩ :: rest ∧
    ∀ event ∈ rest, event.call.init? = none

theorem Attempt.initializes {device : Device} {events : List BoardEvent} {after : Link Recorder}
    (attempt : Attempt device events after) : Initializes device events := by
  rcases attempt with ⟨timing, _, _, rfl, _⟩ | ⟨made, refused, skipped, status, split, _, rfl⟩
  · exact ⟨some 0, _, rfl, by simp [BoardCall.init?]⟩
  · cases made with
    | nil =>
        obtain ⟨rfl, _⟩ := List.cons.inj split
        exact ⟨some status, _, rfl, by simp [BoardCall.init?]⟩
    | cons first made =>
        obtain ⟨rfl, others⟩ := List.cons.inj split
        have quiet : ∀ call ∈ made ++ refused :: skipped, ∀ own code,
            (setupEvent own code call).call.init? = none := by
          rw [show made ++ refused :: skipped = _ from others.symm]
          simp [setupEvent, BoardCall.init?]
        refine ⟨some 0, made.map (setupEvent device.controller 0) ++
          [setupEvent device.controller status refused, ⟨.shutdown device.controller, none⟩], rfl, ?_⟩
        intro event found
        simp only [List.mem_append, List.mem_map, List.mem_cons, List.not_mem_nil, or_false]
          at found
        rcases found with ⟨call, listed, rfl⟩ | rfl | rfl
        · exact quiet call (List.mem_append_left _ listed) _ _
        · exact quiet refused List.mem_append_cons_self _ _
        · rfl

/-- An attempt to configure the controller of a link, as it stands in the log: it ran to completion
exactly if the configuration did not fail. -/
structure Tried (link : Link Recorder) (events : List BoardEvent) : Prop where
  attempt : Attempt link.device events link.configure.link
  completed : link.configure.failure = none ↔ ∃ timing,
    events = fullConfiguration link.device.controller link.device.config
      link.device.mode.hardware timing

theorem configure_tried (link : Link Recorder) :
    ∃ events, link.configure.link.board.log = link.board.log ++ events ∧ link.Tried events := by
  obtain ⟨events, grown, attempt⟩ := link.configure_attempt
  refine ⟨events, grown, attempt, ?_⟩
  rcases link.configure_cases with ⟨board, completed⟩ | ⟨board, refused⟩
  · rw [completed.failure]
    exact ⟨fun _ => ⟨_, List.append_cancel_left (grown.symm.trans completed.log)⟩, fun _ => rfl⟩
  · rw [refused.failure]
    refine ⟨fun impossible => (by cases impossible), ?_⟩
    -- A refused configuration ends with a shutdown, which a full one does not contain.
    rintro ⟨timing, rfl⟩
    have last : (⟨.shutdown link.device.controller, none⟩ : BoardEvent) ∈ fullConfiguration
        link.device.controller link.device.config link.device.mode.hardware timing := by
      obtain ⟨accepted, failing, _, status, _, _, logged⟩ := refused.logged
      rw [refused.log, logged, List.append_assoc] at grown
      rw [← List.append_cancel_left grown]
      simp
    simp [fullConfiguration] at last

/-- The attempts made when a device is selected: each is the link that the controller is configured
on. -/
def selectAttempts (link : Link Recorder) : List (Link Recorder) :=
  if link.bus.table.mustConfigure link.device.controller.index link.device.select then [link]
  else []

/-- The attempts of a call. -/
def callAttempts (link : Link Recorder) (call : DataCall) : List (Link Recorder) :=
  let carried := link.select.link.carryOut call.errands
  link.selectAttempts ++
    if link.select.failure.isNone && (call.recovers && carried.failure.isSome) then [carried.link]
    else []

/-- Whether an attempt is made on a controller and runs to completion. -/
def completesOn (controller : Controller) (link : Link Recorder) : Bool :=
  decide (link.device.controller = controller) && link.configure.failure.isNone

/-- The place of the log at which an attempt initializes its controller, and how it does. -/
def initAt (link : Link Recorder) : Nat × Controller × ControllerConfig :=
  (link.board.log.length, link.device.controller, link.device.config)

end Link

/-- The chip select of the device for which the last attempt on a controller was made that ran to
completion, none if no attempt did. -/
def lastSelect? (attempts : List (Link Recorder)) (controller : Controller) : Option UInt8 :=
  (attempts.filter (Link.completesOn controller)).getLast?.map fun attempt => attempt.device.select

/-- From one bus to another, these attempts and no others were made to configure controllers. -/
structure Attempted (attempts : List (Link Recorder)) (before after : Bus Recorder) : Prop where
  entry : ∀ controller, after.table.last.get controller =
    (lastSelect? attempts controller).getD (before.table.last.get controller)
  logged : ∃ events, after.board.log = before.board.log ++ events ∧
    initsAt before.board.log.length events = attempts.map Link.initAt ∧
    ∀ attempt ∈ attempts, ∃ own later,
      after.board.log = attempt.board.log ++ (own ++ later) ∧ attempt.Tried own

namespace Attempted

variable {first second third : Bus Recorder} {earlier later : List (Link Recorder)}

theorem append (left : Attempted earlier first second) (right : Attempted later second third) :
    Attempted (earlier ++ later) first third := by
  obtain ⟨old, grown, inits, tried⟩ := left.logged
  obtain ⟨new, regrown, alsoInits, alsoTried⟩ := right.logged
  constructor
  · intro controller
    rw [right.entry, left.entry]
    unfold lastSelect?
    rw [List.filter_append, List.getLast?_append]
    cases (later.filter (Link.completesOn controller)).getLast? with
    | none => rfl
    | some attempt => rfl
  · refine ⟨old ++ new, by rw [regrown, grown, List.append_assoc], ?_, ?_⟩
    · rw [grown, List.length_append] at alsoInits
      rw [initsAt_append, inits, alsoInits, List.map_append]
    · intro attempt found
      rcases List.mem_append.mp found with here | there
      · obtain ⟨own, rest, log, made⟩ := tried attempt here
        exact ⟨own, rest ++ new, by rw [regrown, log]; simp only [List.append_assoc], made⟩
      · exact alsoTried attempt there

theorem of_quiet {before after : Bus Recorder} (table : after.table = before.table)
    {events : List BoardEvent} (grown : after.board.log = before.board.log ++ events)
    (quiet : ∀ event ∈ events, event.call.init? = none) : Attempted [] before after :=
  ⟨fun _ => by rw [table]; rfl, events, grown, initsAt_of_quiet quiet _, by simp⟩

theorem of_unchanged {before after : Bus Recorder} (table : after.table = before.table)
    (log : after.board.log = before.board.log) : Attempted [] before after :=
  of_quiet table (log.trans (List.append_nil _).symm) (by simp)

end Attempted

namespace Link

theorem configure_attempted (link : Link Recorder) :
    Attempted [link] link.bus link.configure.link.bus := by
  obtain ⟨own, grown, tried⟩ := link.configure_tried
  constructor
  · intro controller
    rcases link.configure_cases with ⟨board, completed⟩ | ⟨board, refused⟩
    · by_cases same : link.device.controller = controller
      · simp [lastSelect?, completesOn, completed.result, configured, SelectTable.record, ← same]
      · simp [lastSelect?, completesOn, completed.result, configured, SelectTable.record, same,
          Bank.get_set_other _ (Ne.symm same)]
    · simp [lastSelect?, completesOn, refused.result]
  · refine ⟨own, grown, ?_, fun attempt found => ?_⟩
    · obtain ⟨status, rest, rfl, quiet⟩ := tried.attempt.initializes
      have first : initsAt link.bus.board.log.length
          [⟨.setup link.device.controller (.init link.device.config), status⟩] =
            [link.initAt] := rfl
      rw [← List.singleton_append, initsAt_append, first, initsAt_of_quiet quiet]
      rfl
    · rw [List.mem_singleton.mp found]
      exact ⟨own, [], by rw [List.append_nil]; exact grown, tried⟩

theorem select_attempted (link : Link Recorder) :
    Attempted link.selectAttempts link.bus link.select.link.bus := by
  unfold selectAttempts
  rw [SelectTable.mustConfigure_index]
  rcases link.select_cases with ⟨entry, same⟩ | ⟨entry, same⟩
  · rw [same, if_neg (by simp [entry])]
    exact .of_unchanged rfl rfl
  · rw [same, if_pos (by simp [entry])]
    exact link.configure_attempted

theorem carryOut_attempted (errands : List Errand) (link : Link Recorder) :
    Attempted [] link.bus (link.carryOut errands).link.bus := by
  obtain ⟨events, grown, traffic⟩ := link.carryOut_traffic errands
  exact .of_quiet (link.carryOut_kept errands).table grown
    fun event found => (traffic event found).init?_eq_none

theorem call_attempted (link : Link Recorder) (call : DataCall) :
    Attempted (link.callAttempts call) link.bus (link.call call).link.bus := by
  unfold callAttempts
  have selecting := link.select_attempted
  cases selected : link.select.failure with
  | some error =>
      rw [call_of_unselected selected]
      simpa using selecting
  | none =>
      have carried := selecting.append (carryOut_attempted call.errands link.select.link)
      rw [List.append_nil] at carried
      rw [call_of_selected selected]
      -- The attempt to recover comes last, and nothing else of a call comes after its errands.
      by_cases again : call.recovers && (link.select.link.carryOut call.errands).failure.isSome
      · have recovering := (link.select.link.carryOut call.errands).link.configure_attempted
        simpa [again] using carried.append recovering
      · simpa [again] using carried

end Link

/-- A call that recovers only has messages that fit. -/
theorem Errand.fits_of_recovers {call : DataCall} (recovers : call.recovers = true) :
    ∀ message ∈ messages call.errands, message.fits = true := by
  obtain ⟨operations, shape⟩ := Option.isSome_iff_exists.mp recovers
  simp only [DataCall.errands, shape]
  exact fits_ofOperations operations

namespace Link

/-- Where the events of a call configure the controller: first if the table holds another chip select,
and last if a transaction failed that the call recovers from. If the call succeeds, the table holds the
chip select of the device. -/
structure Conducted (link : Link Recorder) (call : DataCall)
    (selecting traffic recovering : List BoardEvent) : Prop where
  log : (link.call call).link.board.log =
    link.board.log ++ (selecting ++ (traffic ++ recovering))
  selected : (link.bus.table.last.get link.device.controller = link.device.select ∧
      selecting = []) ∨
    (link.bus.table.last.get link.device.controller ≠ link.device.select ∧
      Initializes link.device selecting)
  quiet : ∀ event ∈ traffic, event.call.init? = none
  recovered : ((call.recovers = true → ∀ event ∈ traffic, event.Accepted) ∧ recovering = []) ∨
    ((call.recovers = true ∧ ∃ before failing, traffic = before ++ [failing] ∧
      ¬ failing.Accepted) ∧ Initializes link.device recovering)
  entry : (link.call call).failure = none →
    (link.call call).link.bus.table.last.get link.device.controller = link.device.select

/-- A call starts by initializing the controller exactly if the table holds another chip select. -/
theorem Conducted.starts_iff {link : Link Recorder} {call : DataCall}
    {selecting traffic recovering : List BoardEvent}
    (conducted : link.Conducted call selecting traffic recovering) :
    (∃ config status rest, selecting ++ (traffic ++ recovering) =
        ⟨.setup link.device.controller (.init config), status⟩ :: rest) ↔
      link.bus.table.last.get link.device.controller ≠ link.device.select := by
  constructor
  · rintro ⟨config, status, rest, starts⟩ entry
    rcases conducted.selected with ⟨_, rfl⟩ | ⟨differ, _⟩
    · cases traffic with
      | cons first later =>
          have quiet := conducted.quiet first List.mem_cons_self
          rw [(List.cons.inj starts).1] at quiet
          cases quiet
      | nil =>
          rcases conducted.recovered with ⟨_, rfl⟩ | ⟨⟨_, before, failing, nothing, _⟩, _⟩
          · cases starts
          · exact List.append_ne_nil_of_right_ne_nil before (by simp) nothing.symm
    · exact differ entry
  · intro differ
    rcases conducted.selected with ⟨entry, _⟩ | ⟨_, status, rest, rfl, _⟩
    · exact (differ entry).elim
    · exact ⟨_, status, _, rfl⟩

theorem select_initializes (link : Link Recorder) :
    ∃ selecting, link.select.link.board.log = link.board.log ++ selecting ∧
      ((link.bus.table.last.get link.device.controller = link.device.select ∧ selecting = []) ∨
        (link.bus.table.last.get link.device.controller ≠ link.device.select ∧
          Initializes link.device selecting)) := by
  rcases link.select_cases with ⟨entry, same⟩ | ⟨differ, same⟩
  · rw [same]
    exact ⟨[], (List.append_nil _).symm, Or.inl ⟨entry, rfl⟩⟩
  · rw [same]
    obtain ⟨events, grown, attempt⟩ := link.configure_attempt
    exact ⟨events, grown, Or.inr ⟨differ, attempt.initializes⟩⟩

/-- The transactions of a dialogue that is complete were all accepted. -/
theorem Held.accepted {link : Link Recorder} {messages : List Message} {dialogue : Dialogue}
    {events : List BoardEvent} (held : link.Held messages dialogue events none) :
    ∀ event ∈ events, event.Accepted := by
  intro event found transaction
  have listed : event ∈ dialogue.exchanges.map (Exchange.event link.device) := by
    rw [← held.transactions]
    exact List.mem_filter.mpr ⟨found, transaction⟩
  obtain ⟨exchange, own, rfl⟩ := List.mem_map.mp listed
  have ends := held.ends
  cases ends with
  | complete accepted => exact congrArg some (accepted exchange own)

/-- A dialogue of messages that fit breaks off at a transaction that failed. -/
theorem Held.broken {link : Link Recorder} {messages : List Message} {dialogue : Dialogue}
    {events : List BoardEvent} {failure : Option SpiError}
    (held : link.Held messages dialogue events failure)
    (fit : ∀ message ∈ messages, message.fits = true) (failed : failure ≠ none) :
    ∃ before failing, events = before ++ [failing] ∧ ¬ failing.Accepted := by
  have ends := held.ends
  cases ends with
  | complete accepted => exact (failed rfl).elim
  | @refused done last unsent fault accepted found final =>
      obtain ⟨before, rfl⟩ := final
      refine ⟨before, _, rfl, fun zero => ?_⟩
      exact Fault.ne_zero_of_ofStatus? found (Option.some.inj (zero rfl))
  | @unfit exchanges message later accepted unfit =>
      have fits := fit message (by rw [← held.messages]; simp [Dialogue.messages])
      rw [fits] at unfit
      cases unfit

theorem exists_conducted (link : Link Recorder) (call : DataCall) :
    ∃ selecting traffic recovering, link.Conducted call selecting traffic recovering := by
  obtain ⟨selecting, grown, chosen⟩ := link.select_initializes
  cases selected : link.select.failure with
  | some error =>
      refine ⟨selecting, [], [], ?_, chosen, by simp, Or.inl ⟨by simp, rfl⟩, ?_⟩
      · rw [call_of_unselected selected, grown, List.append_nil, List.append_nil]
      · rw [call_of_unselected selected]
        exact fun impossible => by cases impossible
  | none =>
      obtain ⟨dialogue, traffic, recovering, _, log, _, held, each, ended⟩ :=
        call_held selected call
      refine ⟨selecting, traffic, recovering, by rw [log, grown, List.append_assoc], chosen,
        fun event found => (each event found).init?_eq_none, ?_, fun succeeded => ?_⟩
      · rcases ended with ⟨unbroken, _, rfl⟩ | ⟨⟨recovers, failed⟩, _, attempt⟩
        · refine Or.inl ⟨fun recovers => ?_, rfl⟩
          rw [unbroken.resolve_left (by simp [recovers])] at held
          exact held.accepted
        · exact Or.inr ⟨⟨recovers, held.broken (Errand.fits_of_recovers recovers) failed⟩,
            attempt.initializes⟩
      · rcases ended with ⟨_, same, _⟩ | ⟨⟨_, failed⟩, _, _⟩
        · rw [same, (link.select.link.carryOut_kept call.errands).table, entry_of_select selected]
        · exact (failed succeeded).elim

end Link

namespace Session

/-- The attempt of opening a device, unless the request is refused at once. -/
def openAttempts (session : Session Recorder) (request : OpenRequest) : List (Link Recorder) :=
  match request.params?.bind Device.ofParams? with
  | none => []
  | some device => [session.link device]

/-- The attempts of a command. -/
def attempts (session : Session Recorder) (command : Command) : List (Link Recorder) :=
  match command.action with
  | .openDevice request => session.openAttempts request
  | .onDevice action =>
      match session.slots command.slot, action with
      | some device, .reopen request => (session.closeSlot command.slot device).openAttempts request
      | some device, .data call => (session.link device).callAttempts call
      | _, _ => []
  | _ => []

/-- The attempts of a run, in their order. -/
def attemptsIn (session : Session Recorder) : List Command → List (Link Recorder)
  | [] => []
  | command :: rest => session.attempts command ++ (session.step command).attemptsIn rest

theorem openInto_attempted (session : Session Recorder) (slot : Nat) (request : OpenRequest) :
    Attempted (session.openAttempts request) session.bus
      (session.openInto slot request).session.bus := by
  unfold openAttempts openInto Bus.openRequested
  cases asked : request.params? with
  | none => exact .of_unchanged rfl rfl
  | some params =>
      simp only [Option.bind_some, Bus.openDevice]
      cases described : Device.ofParams? params with
      | none => exact .of_unchanged rfl rfl
      | some device =>
          have tried := (session.link device).configure_attempted
          cases result : (session.link device).configure.failure with
          | none =>
              simp only [link] at result
              simp only [result]
              exact tried
          | some error =>
              simp only [link] at result
              simp only [result]
              exact tried

theorem closeSlot_attempted (session : Session Recorder) (slot : Nat) (device : Device) :
    Attempted [] session.bus (session.closeSlot slot device).bus := by
  have grown : (session.closeSlot slot device).bus.board.log =
      session.bus.board.log ++ [⟨.shutdown device.controller, none⟩] := rfl
  exact .of_quiet rfl grown (by simp [BoardCall.init?])

theorem step_attempted (session : Session Recorder) (command : Command) :
    Attempted (session.attempts command) session.bus (session.step command).bus := by
  obtain ⟨slot, action⟩ := command
  cases action with
  | adjust settings => exact .of_unchanged rfl rfl
  | lookUp controller select => exact .of_unchanged rfl rfl
  | openDevice request => exact session.openInto_attempted slot request
  | onDevice action =>
      cases live : session.slots slot with
      | none =>
          simp only [attempts, step, perform, live]
          exact .of_unchanged rfl rfl
      | some device =>
          simp only [attempts, step, perform, live]
          cases action with
          | reopen request =>
              exact (session.closeSlot_attempted slot device).append
                ((session.closeSlot slot device).openInto_attempted slot request)
          | close => exact session.closeSlot_attempted slot device
          | setSelect select => exact .of_unchanged rfl rfl
          | describe => exact .of_unchanged rfl rfl
          | data call => exact (session.link device).call_attempted call

theorem run_attempted (commands : List Command) (session : Session Recorder) :
    Attempted (session.attemptsIn commands) session.bus (session.run commands).bus := by
  induction commands generalizing session with
  | nil => exact .of_unchanged rfl rfl
  | cons command rest ih => exact (session.step_attempted command).append (ih _)

/-- In every run, the places at which the log initializes a controller are those of the attempts to
configure it, each of which runs to completion or breaks off there; the table holds, for each
controller, the chip select of the last attempt on it that ran to completion, 0 if there is none; and a
data call configures the controller of its device first exactly if the table holds another chip select
than that of the device. -/
theorem table_faithful (board : Recorder) (commands : List Command) :
    let start := initial board.cleared
    let attempts := start.attemptsIn commands
    let after := start.run commands
    initsAt 0 after.bus.board.log = attempts.map Link.initAt ∧
      (∀ attempt ∈ attempts, ∃ own later,
        after.bus.board.log = attempt.board.log ++ (own ++ later) ∧ attempt.Tried own) ∧
      (∀ controller,
        after.bus.table.last.get controller = (lastSelect? attempts controller).getD 0) ∧
      ∀ slot device call, after.slots slot = some device →
        ∃ selecting traffic recovering,
          (after.link device).Conducted call selecting traffic recovering ∧
          ((∃ config status rest, selecting ++ (traffic ++ recovering) =
              ⟨.setup device.controller (.init config), status⟩ :: rest) ↔
            after.bus.table.last.get device.controller ≠ device.select) := by
  intro start attempts after
  have attempted : Attempted attempts start.bus after.bus := start.run_attempted commands
  obtain ⟨events, grown, inits, tried⟩ := attempted.logged
  have whole : after.bus.board.log = events := grown.trans (List.nil_append events)
  refine ⟨by rw [whole]; exact inits, tried, fun controller => ?_, fun slot device call live => ?_⟩
  · rw [attempted.entry]
    cases controller <;> rfl
  · obtain ⟨selecting, traffic, recovering, conducted⟩ := (after.link device).exists_conducted call
    exact ⟨selecting, traffic, recovering, conducted, conducted.starts_iff⟩

/-- A second device is refused, and the first one is moved: the table still holds the chip select that it
was opened with. -/
theorem table_faithful_of_moved_device :
    let refusal : BenchSettings :=
      { clocks := [], timing := [], stream := none,
        statuses := fun kind => if kind = .init then [0, -1] else [] }
    let device : Device :=
      { controller := .spi0, speed := 1000000, select := 200, mode := .mode0, order := .msbFirst,
        platform := { slaves := 1, polarity := 0, supply := .vddio }, delays := .zero }
    let commands : List Command :=
      [⟨0, .adjust refusal⟩, ⟨0, .openDevice (sampleRequest 1)⟩, ⟨1, .openDevice (sampleRequest 2)⟩,
        ⟨0, .onDevice (.setSelect 200)⟩]
    let start := initial Recorder.initial.cleared
    let after := start.run commands
    ((start.attemptsIn commands).length = 2 ∧ after.slots 0 = some device ∧
        after.bus.table.last.get .spi0 = 1) ∧
      initsAt 0 after.bus.board.log = (start.attemptsIn commands).map Link.initAt ∧
      (∃ attempt ∈ start.attemptsIn commands, ∃ own later,
        after.bus.board.log = attempt.board.log ++ (own ++ later) ∧ attempt.Tried own) ∧
      ∃ selecting traffic recovering,
        (after.link device).Conducted (.roundTrip [7]) selecting traffic recovering ∧
        ∃ config status rest, selecting ++ (traffic ++ recovering) =
          ⟨.setup .spi0 (.init config), status⟩ :: rest := by
  intro refusal device commands start after
  have count : (start.attemptsIn commands).length = 2 := by decide +kernel
  have live : after.slots 0 = some device := by decide +kernel
  have entry : after.bus.table.last.get .spi0 = 1 := by decide +kernel
  obtain ⟨inits, tried, _, calls⟩ := table_faithful Recorder.initial commands
  obtain ⟨attempt, found⟩ := List.exists_mem_of_length_pos (Nat.lt_of_lt_of_eq Nat.two_pos count.symm)
  obtain ⟨selecting, traffic, recovering, conducted, starts⟩ := calls 0 device (.roundTrip [7]) live
  refine ⟨⟨count, live, entry⟩, inits, ⟨attempt, found, tried attempt found⟩,
    selecting, traffic, recovering, conducted, starts.mpr ?_⟩
  decide +kernel

end Session

end SharedSpi

import SharedSpi.Iio.Adis16505
import SharedSpi.Iio.Demo
import SharedSpi.Proofs.Batches

/-!
# Runs of a service

A service makes at most three calls, in this order: the sensor is brought up, the
server is started with it and with the line, and the server runs. Whichever of
them fails is the last, and its failure is that of the service. In the
demonstration the sensor's device is opened by one attempt to configure its
controller, and every exchange after that finds the device selected and asks for
no delays. So however long the server polls, each probe and each poll is one
transaction, and nothing else is asked of the board but the wait after it.
-/

namespace SharedSpi.Iio

/-- A call of a service on its sensor driver or on its server. -/
inductive ServiceCall (π δ υ α : Type) where
  | sensorStart (params : π)
  | serverStart (params : ServerParams δ υ)
  | serverRun (running : α)

section

variable {ω π δ υ α ε φ : Type}

/-- The driver in a world in which the calls of the service are listed. -/
def SensorDriver.watched (υ α : Type) (driver : SensorDriver ω π δ ε) :
    SensorDriver (ω × List (ServiceCall π δ υ α)) π δ ε where
  start world params :=
    let started := driver.start world.1 params
    ((started.1, world.2 ++ [.sensorStart params]), started.2)

/-- The server in a world in which the calls of the service are listed. -/
def Server.watched (π : Type) (server : Server ω δ υ α φ) :
    Server (ω × List (ServiceCall π δ υ α)) δ υ α φ where
  start world params :=
    let started := server.start world.1 params
    ((started.1, world.2 ++ [.serverStart params]), started.2)
  run world running :=
    let ended := server.run world.1 running
    ((ended.1, world.2 ++ [.serverRun running]), ended.2)

/-- How a service is wired: which calls it makes, and how it ends. The server gets the line as it is,
and a table with the sensor that was brought up and the whole sample buffer. -/
inductive Wired (driver : SensorDriver ω π δ ε) (server : Server ω δ υ α φ) (world : ω) (params : π)
    (line : υ) : List (ServiceCall π δ υ α) → ω × ServiceFailure ε φ → Prop where
  | sensorFails {after : ω} {cause : ε}
      (failed : driver.start world params = (after, .error cause)) :
      Wired driver server world params line [.sensorStart params] (after, .sensor cause)
  | serverFails {ready after : ω} {sensor : δ} {cause : φ}
      (started : driver.start world params = (ready, .ok sensor))
      (failed : server.start ready ⟨deviceTable sensor, line⟩ = (after, .error cause)) :
      Wired driver server world params line
        [.sensorStart params, .serverStart ⟨deviceTable sensor, line⟩] (after, .server cause)
  | served {ready serving after : ω} {sensor : δ} {running : α} {cause : φ}
      (started : driver.start world params = (ready, .ok sensor))
      (accepted : server.start ready ⟨deviceTable sensor, line⟩ = (serving, .ok running))
      (stopped : server.run serving running = (after, cause)) :
      Wired driver server world params line
        [.sensorStart params, .serverStart ⟨deviceTable sensor, line⟩, .serverRun running]
        (after, .server cause)

/-- Every service is wired like this, whatever its sensor and its server do. That its calls are listed
changes nothing about it. -/
theorem serve_wired (driver : SensorDriver ω π δ ε) (server : Server ω δ υ α φ) (world : ω)
    (params : π) (line : υ) :
    let ended := serve driver server world params line
    ∃ calls, serve (driver.watched υ α) (server.watched π) (world, []) params line =
        ((ended.1, calls), ended.2) ∧
      Wired driver server world params line calls ended := by
  unfold serve SensorDriver.watched Server.watched
  cases started : driver.start world params with
  | mk ready brought =>
      cases brought with
      | error cause =>
          simp only [started]
          exact ⟨_, rfl, .sensorFails started⟩
      | ok sensor =>
          cases accepted : server.start ready ⟨deviceTable sensor, line⟩ with
          | mk serving result =>
              cases result with
              | error cause =>
                  simp only [started, accepted]
                  exact ⟨_, rfl, .serverFails started accepted⟩
              | ok running =>
                  simp only [started, accepted]
                  exact ⟨_, rfl, .served started accepted rfl⟩

/-- A service fails by its sensor exactly if the sensor cannot be brought up. -/
theorem Wired.sensor_iff {driver : SensorDriver ω π δ ε} {server : Server ω δ υ α φ} {world : ω}
    {params : π} {line : υ} {calls : List (ServiceCall π δ υ α)} {ended : ω × ServiceFailure ε φ}
    (wired : Wired driver server world params line calls ended) (cause : ε) :
    ended.2 = .sensor cause ↔ (driver.start world params).2 = .error cause := by
  cases wired with
  | sensorFails failed => rw [failed, ServiceFailure.sensor.injEq, Except.error.injEq]
  | serverFails started failed =>
      rw [started]
      exact ⟨fun impossible => (by cases impossible), fun impossible => (by cases impossible)⟩
  | served started accepted stopped =>
      rw [started]
      exact ⟨fun impossible => (by cases impossible), fun impossible => (by cases impossible)⟩

end

theorem fits_single (buffers : Buffers) : (Message.single buffers).fits = true :=
  (Message.fits_iff _).mpr (Nat.le_refl _)

/-- The event of the bench that a step is, if it is one. -/
def ServiceEvent.bench? {ε : Type} : ServiceEvent ε → Option ε
  | bench event => some event
  | _ => none

/-- The events of the bench among the steps of a log. -/
def benchEvents {ε : Type} (steps : List (ServiceEvent ε)) : List ε :=
  steps.filterMap ServiceEvent.bench?

@[simp] theorem benchEvents_append {ε : Type} (first second : List (ServiceEvent ε)) :
    benchEvents (first ++ second) = benchEvents first ++ benchEvents second :=
  List.filterMap_append

@[simp] theorem benchEvents_map_bench {ε : Type} (events : List ε) :
    benchEvents (events.map .bench) = events := by
  rw [benchEvents, List.filterMap_map]
  exact List.filterMap_some

/-- The steps of an exchange that waits nowhere: its transaction and, if that succeeds, a wait of no
time and what came back. -/
def exchangeSteps (device : Device) (note : Bytes → ServiceEvent BoardEvent) (exchange : Exchange) :
    List (ServiceEvent BoardEvent) :=
  .bench (exchange.event device) ::
    if exchange.status = 0 then [.bench (waitEvent 0), note exchange.received] else []

theorem exchangeSteps_of_accepted {exchange : Exchange} (zero : exchange.status = 0)
    (device : Device) (note : Bytes → ServiceEvent BoardEvent) :
    exchangeSteps device note exchange =
      [exchange.event device, waitEvent 0].map .bench ++ [note exchange.received] := by
  rw [exchangeSteps, if_pos zero]
  rfl

theorem exchangeSteps_of_refused {exchange : Exchange} (bad : exchange.status ≠ 0)
    (device : Device) (note : Bytes → ServiceEvent BoardEvent) :
    exchangeSteps device note exchange = [exchange.event device].map .bench := by
  rw [exchangeSteps, if_neg bad]
  rfl

/-- The exchange of bytes in place on a bench that answers by a script, why it failed if it did, and
what is left of the script. Chip select is released and no delays are asked for. -/
inductive RoundTripped (before : Responses) (bytes : Bytes) :
    Exchange → Option SpiError → Responses → Prop where
  | accepted (zero : before.status .transaction = 0) :
      RoundTripped before bytes ⟨.single (.inPlace bytes), 0, before.upcoming bytes.length⟩ none
        ((before.afterCall .transaction).afterBytes bytes.length)
  | refused {fault : Fault} (found : Fault.ofStatus? (before.status .transaction) = some fault) :
      RoundTripped before bytes ⟨.single (.inPlace bytes), before.status .transaction, []⟩
        (some fault.toError) (before.afterCall .transaction)

/-- Exchanges in place, one after the other up to the first that fails. -/
inductive Conversed : Responses → List Bytes → List Exchange → Option SpiError → Responses → Prop where
  | nothing {responses : Responses} : Conversed responses [] [] none responses
  | stopped {before after : Responses} {bytes : Bytes} {rest : List Bytes} {exchange : Exchange}
      {error : SpiError} (failed : RoundTripped before bytes exchange (some error) after) :
      Conversed before (bytes :: rest) [exchange] (some error) after
  | more {before next after : Responses} {bytes : Bytes} {rest : List Bytes} {exchange : Exchange}
      {exchanges : List Exchange} {failure : Option SpiError}
      (sent : RoundTripped before bytes exchange none next)
      (later : Conversed next rest exchanges failure after) :
      Conversed before (bytes :: rest) (exchange :: exchanges) failure after

/-- One exchange, and none after it. -/
theorem RoundTripped.conversed {before after : Responses} {bytes : Bytes} {exchange : Exchange}
    {failure : Option SpiError} (tripped : RoundTripped before bytes exchange failure after) :
    Conversed before [bytes] [exchange] failure after := by
  cases failure with
  | none => exact .more tripped .nothing
  | some error => exact .stopped tripped

namespace Stage

/-- From one stage to another, these steps were added to the log, and the log of the board grew by the
events of the bench among them. -/
structure Adds (before after : Stage Recorder BoardEvent) (steps : List (ServiceEvent BoardEvent)) :
    Prop where
  log : after.log = before.log ++ steps
  board : after.bus.board.log = before.bus.board.log ++ benchEvents steps

namespace Adds

theorem refl (stage : Stage Recorder BoardEvent) : Adds stage stage [] :=
  ⟨(List.append_nil _).symm, (List.append_nil _).symm⟩

theorem trans {first second third : Stage Recorder BoardEvent}
    {earlier later : List (ServiceEvent BoardEvent)} (left : Adds first second earlier)
    (right : Adds second third later) : Adds first third (earlier ++ later) := by
  constructor
  · rw [right.log, left.log, List.append_assoc]
  · rw [right.board, left.board, benchEvents_append, List.append_assoc]

theorem of_note (stage : Stage Recorder BoardEvent) {event : ServiceEvent BoardEvent}
    (silent : event.bench? = none) : Adds stage (stage.note event) [event] := by
  constructor
  · rfl
  · rw [benchEvents, List.filterMap_cons_none silent, List.filterMap_nil, List.append_nil]
    rfl

theorem of_goOn (stage : Stage Recorder BoardEvent) (bus : Bus Recorder) {events : List BoardEvent}
    (grown : bus.board.log = stage.bus.board.log ++ events) :
    Adds stage (stage.goOn bus) (events.map .bench) := by
  constructor
  · have fresh : (Bench.log bus.board).drop (Bench.log stage.bus.board).length = events := by
      change bus.board.log.drop stage.bus.board.log.length = events
      rw [grown, List.drop_left]
    rw [goOn, fresh]
  · rw [benchEvents_map_bench]
    exact grown

end Adds

/-- The device is the one that its controller was configured for last, and it remembers no delays. -/
structure Ready (stage : Stage Recorder BoardEvent) (device : Device) : Prop where
  entry : stage.bus.table.last.get device.controller = device.select
  delays : device.delays = .zero

section

variable {stage : Stage Recorder BoardEvent} {device : Device}

/-- On a stage that is ready an exchange is a single message: nothing is configured before it. -/
theorem Ready.roundTrip (ready : stage.Ready device) (bytes : Bytes) :
    Link.roundTrip ⟨stage.bus, device⟩ bytes =
      (Link.send ⟨stage.bus, device⟩ (.single (.inPlace bytes))).map Buffers.received := by
  have selected : Link.select ⟨stage.bus, device⟩ = ⟨⟨stage.bus, device⟩, (), none⟩ :=
    Link.select_of_entry ready.entry
  simp only [Link.roundTrip, Link.exchange, Link.afterSelect, selected]

/-- The message asks for the delays that the device remembers, so none are programmed. -/
theorem Ready.updateDelays (ready : stage.Ready device) (bytes : Bytes) :
    Link.updateDelays ⟨stage.bus, device⟩ (Message.single (.inPlace bytes)).delays =
      ⟨stage.bus, device⟩ :=
  if_pos ready.delays.symm

theorem Ready.exchange_of_accepted (ready : stage.Ready device)
    (zero : stage.bus.board.responses.status .transaction = 0) (bytes : Bytes)
    (note : Bytes → ServiceEvent BoardEvent) :
    let request := Request.ofMessage device.select (.single (.inPlace bytes))
    let back := stage.bus.board.responses.upcoming bytes.length
    let board := stage.bus.board.afterTransaction device.controller request 0
    stage.exchange device bytes note =
      ((stage.goOn { stage.bus with board := board }).note (note back), .ok device) := by
  intro request back board
  have sent : Link.send ⟨stage.bus, device⟩ (.single (.inPlace bytes)) =
      ⟨⟨{ stage.bus with board := board }, device⟩,
        (Message.single (.inPlace bytes)).buffers.store back, none⟩ := by
    have sent := Link.send_of_accepted ⟨stage.bus, device⟩ (fits_single (.inPlace bytes))
      (by rw [ready.updateDelays]; exact zero)
    rw [ready.updateDelays] at sent
    exact sent
  have stored : ((Message.single (.inPlace bytes)).buffers.store back).received = back := by
    change back ++ bytes.drop back.length = back
    rw [Responses.length_upcoming, List.drop_length, List.append_nil]
  simp only [Stage.exchange, ready.roundTrip, Outcome.map]
  rw [sent, stored]

theorem Ready.exchange_of_refused (ready : stage.Ready device) {fault : Fault}
    (found : Fault.ofStatus? (stage.bus.board.responses.status .transaction) = some fault)
    (bytes : Bytes) (note : Bytes → ServiceEvent BoardEvent) :
    let request := Request.ofMessage device.select (.single (.inPlace bytes))
    let board := stage.bus.board.answer .transaction (.transaction device.controller request)
    stage.exchange device bytes note =
      (stage.goOn { stage.bus with board := board }, .error fault.toError) := by
  have sent := Link.send_of_rejected ⟨stage.bus, device⟩ (fits_single (.inPlace bytes))
    (by rw [ready.updateDelays]; exact found)
  rw [ready.updateDelays] at sent
  simp only [Stage.exchange, ready.roundTrip, Outcome.map, sent]
  rfl

/-- On a stage that is ready an exchange is one transaction. If it succeeds the stage is ready again. -/
theorem Ready.exchange (ready : stage.Ready device) (bytes : Bytes)
    (note : Bytes → ServiceEvent BoardEvent)
    (silent : ∀ received, (note received).bench? = none) :
    let ended := stage.exchange device bytes note
    ∃ exchange failure,
      RoundTripped stage.bus.board.responses bytes exchange failure ended.1.bus.board.responses ∧
        Adds stage ended.1 (exchangeSteps device note exchange) ∧
        ended.2 = failure.elim (.ok device) .error ∧ (failure = none → ended.1.Ready device) := by
  intro ended
  cases result : Fault.ofStatus? (stage.bus.board.responses.status .transaction) with
  | none =>
      have zero := (Fault.ofStatus?_eq_none_iff _).mp result
      have done : ended = _ := ready.exchange_of_accepted zero bytes note
      rw [done]
      refine ⟨_, none, .accepted zero, ?_, rfl, fun _ => ⟨ready.entry, ready.delays⟩⟩
      rw [exchangeSteps_of_accepted rfl]
      exact (Adds.of_goOn stage _ rfl).trans (.of_note _ (silent _))
  | some fault =>
      have done : ended = _ := ready.exchange_of_refused result bytes note
      rw [done]
      refine ⟨_, some fault.toError, .refused result, ?_, rfl,
        fun impossible => (by cases impossible)⟩
      rw [exchangeSteps_of_refused (Fault.ne_zero_of_ofStatus? result)]
      exact .of_goOn stage _ rfl

end

/-- Exchanges a probe with a device, if there is one. -/
def probe (stage : Stage Recorder BoardEvent) (device : Device) :
    Option Bytes → Stage Recorder BoardEvent × Except SpiError Device
  | none => (stage, .ok device)
  | some bytes => stage.exchange device bytes .probed

theorem Ready.probe {stage : Stage Recorder BoardEvent} {device : Device}
    (ready : stage.Ready device) (bytes : Option Bytes) :
    let ended := stage.probe device bytes
    ∃ exchanges failure,
      Conversed stage.bus.board.responses bytes.toList exchanges failure
          ended.1.bus.board.responses ∧
        Adds stage ended.1 (exchanges.flatMap (exchangeSteps device .probed)) ∧
        ended.2 = failure.elim (.ok device) .error ∧ (failure = none → ended.1.Ready device) := by
  cases bytes with
  | none => exact ⟨[], none, .nothing, .refl stage, rfl, fun _ => ready⟩
  | some bytes =>
      obtain ⟨exchange, failure, tripped, adds, answer, again⟩ :=
        ready.exchange bytes .probed fun _ => rfl
      refine ⟨[exchange], failure, tripped.conversed, ?_, answer, again⟩
      rw [List.flatMap_singleton]
      exact adds

/-- Polls are exchanges one after the other, however many there are. -/
theorem Ready.pollAll (polls : List Bytes) {stage : Stage Recorder BoardEvent} {device : Device}
    (ready : stage.Ready device) :
    let ended := stage.pollAll device polls
    ∃ exchanges,
      Conversed stage.bus.board.responses polls exchanges ended.2 ended.1.bus.board.responses ∧
        Adds stage ended.1 (exchanges.flatMap (exchangeSteps device .polled)) := by
  -- A poll that succeeds leaves the stage ready, which is all that the next one depends on.
  induction polls generalizing stage with
  | nil => exact ⟨[], .nothing, .refl stage⟩
  | cons bytes rest ih =>
      obtain ⟨exchange, failure, tripped, adds, answer, again⟩ :=
        ready.exchange bytes .polled fun _ => rfl
      simp only [Stage.pollAll]
      cases result : stage.exchange device bytes .polled with
      | mk next given =>
          rw [result] at tripped adds answer again
          obtain rfl : given = _ := answer
          cases failure with
          | none =>
              obtain ⟨exchanges, conversed, later⟩ := ih (again rfl)
              exact ⟨exchange :: exchanges, .more tripped conversed, adds.trans later⟩
          | some error =>
              refine ⟨[exchange], .stopped tripped, ?_⟩
              rw [List.flatMap_singleton]
              exact adds

end Stage

/-- The script as configuring calls leave it: no status of a transaction and no byte is used up. -/
structure Unspent (before after : Responses) : Prop where
  transactions : after.statuses .transaction = before.statuses .transaction
  stream : after.stream = before.stream
  position : after.position = before.position

/-- An attempt to configure the controller of the device that parameters describe, broken off at a call
that failed: the controller is shut down. -/
def BrokenOff (params : Params) (events : List BoardEvent) : Prop :=
  ∃ device made refused skipped status, Device.ofParams? params = some device ∧
    device.setupCalls = made ++ refused :: skipped ∧ status ≠ 0 ∧
    events = made.map (setupEvent device.controller 0) ++
      [setupEvent device.controller status refused, ⟨.shutdown device.controller, none⟩]

/-- What opening a device asks of its board and what comes of it: nothing if the parameters describe no
device, and otherwise one attempt to configure its controller. -/
inductive Opening (params : Params) (before : Responses) :
    List BoardEvent → Responses → Except SpiError Device → Prop where
  | undescribed (nothing : Device.ofParams? params = none) :
      Opening params before [] before (.error .invalidArgument)
  | brokenOff {events : List BoardEvent} {after : Responses} (broken : BrokenOff params events) :
      Opening params before events after (.error .invalidArgument)
  | completed {device : Device} {timing : SelectTiming} {after : Responses}
      (described : Device.ofParams? params = some device) (pre : timing.pre = 1)
      (post : timing.post = 1) (unspent : Unspent before after) :
      Opening params before
        (fullConfiguration device.controller device.config device.mode.hardware timing) after
        (.ok device)

/-- A device that was opened is ready for exchanges. -/
theorem Stage.openDevice_opening (stage : Stage Recorder BoardEvent) (params : Params) :
    let opened := stage.openDevice params
    ∃ events, Adds stage opened.1 (events.map .bench) ∧
      Opening params stage.bus.board.responses events opened.1.bus.board.responses opened.2 ∧
      ∀ device, opened.2 = .ok device → opened.1.Ready device := by
  intro opened
  cases described : Device.ofParams? params with
  | none =>
      have same : opened = (stage.goOn stage.bus, .error .invalidArgument) := by
        simp only [opened, openDevice, Bus.openDevice_of_undescribed described]
      rw [same]
      exact ⟨[], .of_goOn stage _ (List.append_nil _).symm, .undescribed described,
        fun device impossible => (by cases impossible)⟩
  | some device =>
      let link : Link Recorder := ⟨stage.bus, device⟩
      rcases link.configure_cases with ⟨board, completed⟩ | ⟨board, refused⟩
      · -- A new device remembers no delays as it is, so configuring its controller leaves it alone.
        have delays := Device.delays_of_ofParams? described
        have configured : link.configure = ⟨⟨(link.configured board).bus, device⟩, (), none⟩ := by
          rw [completed.result, Link.configured, ← delays]
        have same : opened = (stage.goOn (link.configured board).bus, .ok device) := by
          simp only [opened, openDevice, Bus.openDevice_of_accepted described completed.failure]
          rw [configured]
        have grown := completed.log
        have transactions := link.configure_transactions
        rw [configured] at grown transactions
        rw [same]
        refine ⟨_, .of_goOn stage _ grown, .completed described rfl rfl ⟨transactions, ?_, ?_⟩, ?_⟩
        · exact completed.undisturbed.stream
        · exact completed.undisturbed.position
        · intro other answer
          cases Except.ok.inj answer
          exact ⟨Bank.get_set_same _ _ _, delays⟩
      · obtain ⟨made, failing, skipped, status, split, bad, logged⟩ := refused.logged
        have same : opened = (stage.goOn link.configure.link.bus, .error .invalidArgument) := by
          simp only [opened, openDevice, Bus.openDevice_of_refused described refused.failure]
          rfl
        have grown := refused.log
        rw [logged, List.append_assoc, List.append_assoc] at grown
        rw [same]
        exact ⟨_, .of_goOn stage _ grown,
          .brokenOff ⟨device, made, failing, skipped, status, described, split, bad, rfl⟩,
          fun device impossible => (by cases impossible)⟩

/-- How the sensor is brought up: the steps it takes, what is left of the script, and the sensor or why
there is none. -/
inductive BroughtUp (script : Script) (params : Params) (before : Responses) :
    List (ServiceEvent BoardEvent) → Responses → Except Cause Device → Prop where
  | scripted {value : Int} (fails : script.sensorError = some value) :
      BroughtUp script params before [.sensorStart params] before (.error (.code value))
  | unopened {events : List BoardEvent} {after : Responses} {error : SpiError}
      (tries : script.sensorError = none)
      (opening : Opening params before events after (.error error)) :
      BroughtUp script params before (.sensorStart params :: events.map .bench) after
        (.error (.spi error))
  | opened {events : List BoardEvent} {ready after : Responses} {device : Device}
      {exchanges : List Exchange} {failure : Option SpiError}
      (tries : script.sensorError = none)
      (opening : Opening params before events ready (.ok device))
      (conversed : Conversed ready script.probe.toList exchanges failure after) :
      BroughtUp script params before
        (.sensorStart params ::
          (events.map .bench ++ exchanges.flatMap (exchangeSteps device .probed)))
        after (failure.elim (.ok device) fun error => .error (.spi error))

theorem Script.start_of_opened {script : Script} {stage after : Stage Recorder BoardEvent}
    {params : Params} {device : Device} (tries : script.sensorError = none)
    (opened : (stage.note (.sensorStart params)).openDevice params = (after, .ok device)) :
    script.sensorDriver.start stage params =
      ((after.probe device script.probe).1, (after.probe device script.probe).2.mapError .spi) := by
  simp only [sensorDriver, tries, opened, Stage.probe]
  cases script.probe with
  | none => rfl
  | some bytes =>
      cases result : after.exchange device bytes .probed with
      | mk probed answer =>
          simp only [result]
          cases answer with
          | error error => rfl
          | ok next => rfl

/-- A sensor that was brought up is ready for exchanges. -/
theorem Script.sensorDriver_broughtUp (script : Script) (stage : Stage Recorder BoardEvent)
    (params : Params) :
    let started := script.sensorDriver.start stage params
    ∃ steps, stage.Adds started.1 steps ∧
      BroughtUp script params stage.bus.board.responses steps started.1.bus.board.responses
        started.2 ∧
      ∀ device, started.2 = .ok device → started.1.Ready device := by
  intro started
  have noted : stage.Adds (stage.note (.sensorStart params)) [.sensorStart params] :=
    .of_note stage rfl
  cases scripted : script.sensorError with
  | some value =>
      have same : started = (stage.note (.sensorStart params), .error (.code value)) := by
        simp only [started, sensorDriver, scripted]
      rw [same]
      exact ⟨_, noted, .scripted scripted, fun device impossible => (by cases impossible)⟩
  | none =>
      obtain ⟨events, asked, opening, ready⟩ :=
        (stage.note (.sensorStart params)).openDevice_opening params
      cases result : (stage.note (.sensorStart params)).openDevice params with
      | mk after answer =>
          rw [result] at asked opening ready
          cases answer with
          | error error =>
              have same : started = (after, .error (.spi error)) := by
                simp only [started, sensorDriver, scripted, result]
              rw [same]
              exact ⟨_, noted.trans asked, .unopened scripted opening,
                fun device impossible => (by cases impossible)⟩
          | ok device =>
              obtain ⟨exchanges, failure, conversed, probing, answer, again⟩ :=
                (ready device rfl).probe script.probe
              have same : started = _ := start_of_opened scripted result
              rw [answer] at same
              rw [same]
              refine ⟨_, (noted.trans asked).trans probing, ?_, ?_⟩
              · cases failure with
                | none => exact .opened scripted opening conversed
                | some error => exact .opened scripted opening conversed
              · cases failure with
                | none =>
                    intro other answer
                    cases Except.ok.inj answer
                    exact again rfl
                | some error => exact fun other impossible => (by cases impossible)

theorem Script.server_start (script : Script) (stage : Stage Recorder BoardEvent) (device : Device)
    (line : UartParams) :
    script.server.start stage ⟨deviceTable device, line⟩ =
      (stage.note (.serverStart [(servedName, some sampleBufferSize)] line),
        script.serverError.elim (.ok (deviceTable device)) fun value => .error (.code value)) := by
  simp only [server]
  cases script.serverError with
  | none => rfl
  | some value => rfl

theorem Script.server_run (script : Script) (stage : Stage Recorder BoardEvent) (device : Device) :
    let polled := (stage.note .serverRun).pollAll device script.polls
    script.server.run stage (deviceTable device) =
      (polled.1, polled.2.elim (.code script.runError) .spi) := by
  simp only [server, deviceTable]
  cases (stage.note .serverRun).pollAll device script.polls with
  | mk after failure =>
      cases failure with
      | none => rfl
      | some error => rfl

/-- The steps of a service, and its failure, on a bench that answers by a script. -/
inductive Course (script : Script) (params : Params) (line : UartParams) (before : Responses) :
    List (ServiceEvent BoardEvent) → ServiceFailure Cause Cause → Prop where
  | sensorFails {steps : List (ServiceEvent BoardEvent)} {after : Responses} {cause : Cause}
      (brought : BroughtUp script params before steps after (.error cause)) :
      Course script params line before steps (.sensor cause)
  | serverFails {steps : List (ServiceEvent BoardEvent)} {after : Responses} {device : Device}
      {value : Int} (brought : BroughtUp script params before steps after (.ok device))
      (fails : script.serverError = some value) :
      Course script params line before
        (steps ++ [.serverStart [(servedName, some sampleBufferSize)] line]) (.server (.code value))
  | polled {steps : List (ServiceEvent BoardEvent)} {ready after : Responses} {device : Device}
      {exchanges : List Exchange} {failure : Option SpiError}
      (brought : BroughtUp script params before steps ready (.ok device))
      (starts : script.serverError = none)
      (conversed : Conversed ready script.polls exchanges failure after) :
      Course script params line before
        (steps ++ ([.serverStart [(servedName, some sampleBufferSize)] line, .serverRun] ++
          exchanges.flatMap (exchangeSteps device .polled)))
        (.server (failure.elim (.code script.runError) .spi))

theorem Wired.course {script : Script} {stage : Stage Recorder BoardEvent} {params : Params}
    {line : UartParams}
    {calls : List (ServiceCall Params Device UartParams (List (ServedDevice Device)))}
    {ended : Stage Recorder BoardEvent × ServiceFailure Cause Cause}
    (wired : Wired script.sensorDriver script.server stage params line calls ended) :
    ∃ steps, stage.Adds ended.1 steps ∧
      Course script params line stage.bus.board.responses steps ended.2 := by
  obtain ⟨steps, adds, brought, ready⟩ := script.sensorDriver_broughtUp stage params
  cases wired with
  | sensorFails failed =>
      rw [failed] at adds brought
      exact ⟨steps, adds, .sensorFails brought⟩
  | @serverFails middle after device cause started failed =>
      rw [started] at adds brought
      rw [script.server_start] at failed
      cases fails : script.serverError with
      | none =>
          rw [fails] at failed
          cases failed
      | some value =>
          rw [fails] at failed
          cases failed
          exact ⟨_, adds.trans (.of_note middle rfl), .serverFails brought fails⟩
  | @served middle serving after device running cause started accepted stopped =>
      rw [started] at adds brought ready
      rw [script.server_start] at accepted
      cases starts : script.serverError with
      | some value =>
          rw [starts] at accepted
          cases accepted
      | none =>
          rw [starts] at accepted
          cases accepted
          rw [script.server_run] at stopped
          cases stopped
          let stage := (middle.note (.serverStart [(servedName, some sampleBufferSize)] line)).note
            .serverRun
          have noted : middle.Adds stage
              [.serverStart [(servedName, some sampleBufferSize)] line, .serverRun] :=
            (Stage.Adds.of_note middle rfl).trans (.of_note _ rfl)
          have ready : stage.Ready device := ⟨(ready device rfl).entry, (ready device rfl).delays⟩
          obtain ⟨exchanges, conversed, polling⟩ := ready.pollAll script.polls
          exact ⟨_, adds.trans (noted.trans polling), .polled brought starts conversed⟩

/-- An event of an exchange in place on a selected device: its only transaction, which releases chip
select, or the wait of no time after it. -/
def RoundTripEvent (device : Device) (event : BoardEvent) : Prop :=
  event = waitEvent 0 ∨ ∃ bytes status, event =
    ⟨.transaction device.controller (.ofMessage device.select (.single (.inPlace bytes))), some status⟩

/-- The controller of a device that parameters describe was configured, and after that there were
exchanges in place only. -/
def Configured (params : Params) (device : Device) (events : List BoardEvent) : Prop :=
  Device.ofParams? params = some device ∧ ∃ timing traffic,
    events = fullConfiguration device.controller device.config device.mode.hardware timing ++ traffic ∧
      ∀ event ∈ traffic, RoundTripEvent device event

/-- At most one attempt was made to configure a controller. If it broke off it is all there is, and if
it ran to completion there were exchanges in place only after it. -/
inductive OneAttempt (params : Params) : List BoardEvent → Prop where
  | untried : OneAttempt params []
  | brokenOff {events : List BoardEvent} (broken : BrokenOff params events) :
      OneAttempt params events
  | completed {device : Device} {events : List BoardEvent}
      (configured : Configured params device events) : OneAttempt params events

theorem RoundTripped.message {before after : Responses} {bytes : Bytes} {exchange : Exchange}
    {failure : Option SpiError} (tripped : RoundTripped before bytes exchange failure after) :
    exchange.message = .single (.inPlace bytes) := by
  cases tripped with
  | accepted zero => rfl
  | refused found => rfl

/-- Every exchange is that of one of the byte strings. -/
theorem Conversed.message {before after : Responses} {polls : List Bytes}
    {exchanges : List Exchange} {failure : Option SpiError}
    (conversed : Conversed before polls exchanges failure after) :
    ∀ exchange ∈ exchanges, ∃ bytes ∈ polls, exchange.message = .single (.inPlace bytes) := by
  induction conversed with
  | nothing => simp
  | @stopped before after bytes rest exchange error failed =>
      intro other found
      rw [List.mem_singleton.mp found]
      exact ⟨bytes, List.mem_cons_self, failed.message⟩
  | @more before next after bytes rest exchange exchanges failure sent later ih =>
      intro other found
      rcases List.mem_cons.mp found with rfl | found
      · exact ⟨bytes, List.mem_cons_self, sent.message⟩
      · obtain ⟨asked, listed, message⟩ := ih other found
        exact ⟨asked, List.mem_cons_of_mem _ listed, message⟩

theorem Conversed.roundTripEvent {before after : Responses} {polls : List Bytes}
    {exchanges : List Exchange} {failure : Option SpiError}
    (conversed : Conversed before polls exchanges failure after) (device : Device)
    (note : Bytes → ServiceEvent BoardEvent) (silent : ∀ received, (note received).bench? = none) :
    ∀ event ∈ benchEvents (exchanges.flatMap (exchangeSteps device note)),
      RoundTripEvent device event := by
  intro event found
  obtain ⟨step, listed, shown⟩ := List.mem_filterMap.mp found
  obtain ⟨exchange, made, own⟩ := List.mem_flatMap.mp listed
  obtain ⟨bytes, _, message⟩ := conversed.message exchange made
  rcases List.mem_cons.mp own with rfl | later
  · cases Option.some.inj shown
    exact Or.inr ⟨bytes, exchange.status, by rw [Exchange.event, message]⟩
  · by_cases zero : exchange.status = 0
    · rw [if_pos zero, List.mem_pair] at later
      rcases later with rfl | rfl
      · exact Or.inl (Option.some.inj shown).symm
      · rw [silent] at shown
        cases shown
    · rw [if_neg zero] at later
      cases later

theorem Configured.append {params : Params} {device : Device} {first second : List BoardEvent}
    (configured : Configured params device first)
    (later : ∀ event ∈ second, RoundTripEvent device event) :
    Configured params device (first ++ second) := by
  obtain ⟨described, timing, traffic, rfl, each⟩ := configured
  exact ⟨described, timing, traffic ++ second, List.append_assoc _ _ _,
    List.forall_mem_append.mpr ⟨each, later⟩⟩

theorem BroughtUp.oneAttempt {script : Script} {params : Params} {before after : Responses}
    {steps : List (ServiceEvent BoardEvent)} {outcome : Except Cause Device}
    (brought : BroughtUp script params before steps after outcome) :
    OneAttempt params (benchEvents steps) ∧
      ∀ device, outcome = .ok device → Configured params device (benchEvents steps) := by
  have start : ∀ steps : List (ServiceEvent BoardEvent),
      benchEvents (.sensorStart params :: steps) = benchEvents steps := fun steps =>
    List.filterMap_cons_none rfl
  cases brought with
  | scripted fails => exact ⟨.untried, fun device impossible => (by cases impossible)⟩
  | unopened tries opening =>
      refine ⟨?_, fun device impossible => (by cases impossible)⟩
      rw [start, benchEvents_map_bench]
      cases opening with
      | undescribed nothing => exact .untried
      | brokenOff broken => exact .brokenOff broken
  | @opened events ready after device exchanges failure tries opening conversed =>
      rw [start, benchEvents_append, benchEvents_map_bench]
      cases opening with
      | @completed device timing ready described pre post unspent =>
          have configured : Configured params device (fullConfiguration device.controller
              device.config device.mode.hardware timing ++ _) :=
            ⟨described, timing, _, rfl, conversed.roundTripEvent device .probed fun _ => rfl⟩
          refine ⟨.completed configured, fun other answer => ?_⟩
          cases failure with
          | none =>
              cases Except.ok.inj answer
              exact configured
          | some error => cases answer

theorem Course.oneAttempt {script : Script} {params : Params} {line : UartParams}
    {before : Responses} {steps : List (ServiceEvent BoardEvent)}
    {failure : ServiceFailure Cause Cause}
    (course : Course script params line before steps failure) :
    OneAttempt params (benchEvents steps) := by
  cases course with
  | sensorFails brought => exact brought.oneAttempt.1
  | serverFails brought fails =>
      rw [benchEvents_append]
      exact .completed ((brought.oneAttempt.2 _ rfl).append (List.forall_mem_nil _))
  | polled brought starts conversed =>
      rw [benchEvents_append, benchEvents_append]
      exact .completed ((brought.oneAttempt.2 _ rfl).append
        (conversed.roundTripEvent _ .polled fun _ => rfl))

/-- In every run of the service, whatever its bench answers: it fails by its sensor exactly if the sensor
cannot be brought up; it makes the calls that it is wired for, each at most once, and fails as the last of
them does; the probe and the polls up to the first that fails are one transaction each; and at most one
attempt is made to configure a controller, after which there are no other calls on it than these. -/
theorem service_in_order (script : Script) (board : Recorder) (params : Params) (line : UartParams) :
    let start : Stage Recorder BoardEvent := .initial board
    let driver := script.sensorDriver
    let server := script.server
    let ended := script.serveOn board params line
    (∀ cause, ended.2 = .sensor cause ↔ (driver.start start params).2 = .error cause) ∧
      (∃ calls, serve (driver.watched _ _) (server.watched _) (start, []) params line =
          ((ended.1, calls), ended.2) ∧
        Wired driver server start params line calls ended) ∧
      Course script params line board.responses ended.1.log ended.2 ∧
      ended.1.bus.board.log = board.log ++ benchEvents ended.1.log ∧
      OneAttempt params (benchEvents ended.1.log) := by
  intro start driver server ended
  obtain ⟨calls, watched, wired⟩ := serve_wired driver server start params line
  obtain ⟨steps, adds, course⟩ := wired.course
  have whole : ended.1.log = steps := adds.log
  rw [whole]
  exact ⟨wired.sensor_iff, ⟨calls, watched, wired⟩, course, adds.board, course.oneAttempt⟩

/-- A service whose third exchange fails: the poll behind it is never sent. -/
theorem service_in_order_of_failing_poll :
    let script : Script :=
      { sensorError := none, probe := some [0x72, 0], serverError := none,
        polls := [[1, 2, 3], [], [4]], runError := -110 }
    let responses : Responses :=
      { Responses.initial with
        statuses := fun kind => if kind = .transaction then [0, 0, -7] else [] }
    let board : Recorder := { Recorder.initial with responses := responses }
    let params := Adis16505.busParams
    let line := Adis16505.lineParams
    let ended := script.serveOn board params line
    (ended.2 = .server (.spi .busy) ∧
        (ended.1.bus.board.log.filter BoardEvent.isTransaction).length = 3) ∧
      Course script params line responses ended.1.log ended.2 ∧
      OneAttempt params (benchEvents ended.1.log) := by
  intro script responses board params line ended
  obtain ⟨_, _, course, _, attempt⟩ := service_in_order script board params line
  have answers : ended.2 = .server (.spi .busy) ∧
      (ended.1.bus.board.log.filter BoardEvent.isTransaction).length = 3 := by
    decide +kernel
  exact ⟨answers, course, attempt⟩

end SharedSpi.Iio

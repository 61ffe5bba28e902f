import SharedSpi.Proofs.EagerReference
import SharedSpi.Proofs.ObligingRuns
import SharedSpi.Proofs.Turns

/-!
# Twin devices

A device that is configured before every call has a twin that is configured only
if need be. What they hold of the timing register may differ in setup and hold
times, since a configuration resets these. Before every transaction both program
the delays of its message, so that the same stands at their controllers whenever
it matters.
-/

namespace SharedSpi

/-- The log tells what the timing registers hold. -/
def Recorder.Told (start : Bank Standing) (recorder : Recorder) : Prop :=
  recorder.Holds (standings start recorder.log)

theorem Recorder.Registered.told {start : Bank Standing} {before after : Recorder}
    (registered : Registered before after) (told : before.Told start) : after.Told start := by
  obtain ⟨events, grown, holds⟩ := registered
  rw [Told, grown, standings_append]
  exact holds _ told

/-- What programs setup and hold times leaves alone; nothing is seen of it. -/
structure Unseen (start : Bank Standing) (before after : Recorder) : Prop where
  clocks : after.clocks = before.clocks
  shortest : ∀ controller,
    (after.timing.get controller).shortest = (before.timing.get controller).shortest
  statuses : after.responses.statuses .transaction = before.responses.statuses .transaction
  stream : after.responses.stream = before.responses.stream
  position : after.responses.position = before.responses.position
  seen : sights start after.log = sights start before.log
  told : before.Told start → after.Told start

/-- Two boards that differ at most in setup and hold times, and on which the same was seen. -/
structure Alike (start : Bank Standing) (lazy eager : Recorder) : Prop where
  clocks : eager.clocks = lazy.clocks
  shortest : ∀ controller,
    (eager.timing.get controller).shortest = (lazy.timing.get controller).shortest
  statuses : eager.responses.statuses .transaction = lazy.responses.statuses .transaction
  stream : eager.responses.stream = lazy.responses.stream
  position : eager.responses.position = lazy.responses.position
  seen : sights start eager.log = sights start lazy.log
  settings : ∀ controller, ((standings start eager.log).get controller).settings =
    ((standings start lazy.log).get controller).settings
  lazyTold : lazy.Told start
  eagerTold : eager.Told start

namespace Unseen

variable {start : Bank Standing}

theorem refl (recorder : Recorder) : Unseen start recorder recorder :=
  ⟨rfl, fun _ => rfl, rfl, rfl, rfl, rfl, id⟩

/-- Writing setup and hold times goes unseen. -/
theorem setTiming (recorder : Recorder) (controller : Controller) {timing : SelectTiming}
    (same : timing.shortest = (recorder.timing.get controller).shortest) :
    Unseen start recorder (Board.setTiming recorder controller timing) where
  clocks := rfl
  shortest asked := by
    rw [Recorder.setTiming_eq, Bank.get_set]
    by_cases own : asked = controller
    · rw [if_pos own, own, same]
    · rw [if_neg own]
  statuses := rfl
  stream := rfl
  position := rfl
  seen := by
    have unseen : ∀ event ∈ [(⟨.setTiming controller timing, none⟩ : BoardEvent)],
        ∀ bank, event.sight? bank = none := by simp [BoardEvent.sight?]
    rw [Recorder.setTiming_eq, Recorder.record, sights_append, sights_unseen unseen,
      List.append_nil]
  told := (Recorder.Registered.setTiming recorder controller timing).told

end Unseen

/-- Registers that hold the same but for setup and hold times, and the same of these. -/
theorem SelectTiming.eq_of_shortest {one other : SelectTiming}
    (same : one.shortest = other.shortest) (pre : one.pre = other.pre)
    (post : one.post = other.post) : one = other := by
  cases one
  cases other
  simp_all [SelectTiming.shortest]

theorem Standing.eq_of_settings {one other : Standing} (same : one.settings = other.settings)
    (timing : one.timing = other.timing) : one = other := by
  cases one
  cases other
  simp_all [Standing.settings]

theorem SelectDelays.shortest_of_retime {current requested : SelectDelays} {clock : UInt32}
    {before after : SelectTiming} (accepted : current.retime requested clock before = .ok after) :
    after.shortest = before.shortest := by
  obtain ⟨tick, pre, post, _, _, _, rfl⟩ := retime_ok_iff.mp accepted
  rfl

namespace Link

theorem updateDelays_unseen (link : Link Recorder) (requested : SelectDelays)
    (start : Bank Standing) : Unseen start link.board (link.updateDelays requested).board := by
  rcases link.updateDelays_cases requested with ⟨timing, _, accepted, same⟩ | ⟨_, same⟩
  · rw [same]
    exact .setTiming link.board link.device.controller (SelectDelays.shortest_of_retime accepted)
  · rw [same]
    exact .refl link.board

/-- A configuration all of whose calls succeeded goes unseen. -/
theorem configure_unseen {link : Link Recorder}
    (succeeded : ∀ event ∈ link.configure.link.board.log, event.Succeeded)
    (start : Bank Standing) : Unseen start link.board link.configure.link.board := by
  obtain ⟨accepted, log⟩ := configure_of_succeeded succeeded
  have statuses := link.configure_transactions
  have confined := link.configure_confined
  rcases link.configure_cases with ⟨board, completed⟩ | ⟨board, refused⟩
  · refine ⟨confined.clocks, fun asked => ?_, statuses, ?_, ?_, ?_, link.configure_registered.told⟩
    · by_cases same : asked = link.device.controller
      · rw [same, completed.timing, Bank.get_set_same]
        rfl
      · rw [confined.timing asked same]
    · rw [completed.result]
      exact completed.undisturbed.stream
    · rw [completed.result]
      exact completed.undisturbed.position
    · have calls : ∀ event ∈ fullConfiguration link.device.controller link.device.config
          link.device.mode.hardware (link.board.timing.get link.device.controller).shortest,
          ∀ bank, event.sight? bank = none := by simp [fullConfiguration, BoardEvent.sight?]
      rw [log, sights_append, sights_unseen calls, List.append_nil]
  · rw [refused.failure] at accepted
    cases accepted

end Link

/-- A transaction and the waits after it change nothing that stands at controllers, and look the same
where the same stands at the controller of the transaction. -/
theorem transaction_unchanged {one other : Bank Standing} {controller : Controller}
    (standing : one.get controller = other.get controller) (request : Request) (status : Int32)
    (times : List UInt32) :
    let events := ⟨.transaction controller request, some status⟩ :: times.map waitEvent
    (∀ event ∈ events, ∀ bank, event.note bank = bank) ∧
      ∀ event ∈ events, event.sight? one = event.sight? other := by
  refine ⟨List.forall_mem_cons.mpr ⟨fun bank => Bank.set_get bank controller, ?_⟩,
    List.forall_mem_cons.mpr ⟨?_, ?_⟩⟩
  · intro event found bank
    obtain ⟨ns, _, rfl⟩ := List.mem_map.mp found
    rfl
  · simp only [BoardEvent.sight?, standing]
  · intro event found
    obtain ⟨ns, _, rfl⟩ := List.mem_map.mp found
    rfl

namespace Alike

variable {start : Bank Standing} {lazy eager lazyAfter eagerAfter : Recorder}

/-- Boards stay alike if nothing is seen on either and the settings stay the same. -/
theorem unseen (alike : Alike start lazy eager) (one : Unseen start lazy lazyAfter)
    (other : Unseen start eager eagerAfter)
    (settings : ∀ controller, ((standings start eagerAfter.log).get controller).settings =
      ((standings start lazyAfter.log).get controller).settings) :
    Alike start lazyAfter eagerAfter where
  clocks := by rw [one.clocks, other.clocks, alike.clocks]
  shortest controller := by rw [one.shortest, other.shortest, alike.shortest]
  statuses := by rw [one.statuses, other.statuses, alike.statuses]
  stream := by rw [one.stream, other.stream, alike.stream]
  position := by rw [one.position, other.position, alike.position]
  seen := by rw [one.seen, other.seen, alike.seen]
  settings := settings
  lazyTold := one.told alike.lazyTold
  eagerTold := other.told alike.eagerTold

/-- Where setup and hold times are the same, everything that stands at a controller is the same. -/
theorem standing (alike : Alike start lazy eager) {controller : Controller}
    (pre : (eager.timing.get controller).pre = (lazy.timing.get controller).pre)
    (post : (eager.timing.get controller).post = (lazy.timing.get controller).post) :
    (standings start eager.log).get controller = (standings start lazy.log).get controller := by
  have timing := SelectTiming.eq_of_shortest (alike.shortest controller) pre post
  rw [← alike.eagerTold controller, ← alike.lazyTold controller] at timing
  exact Standing.eq_of_settings (alike.settings controller) timing

/-- Boards stay alike if the same transactions and waits are seen on both. -/
theorem append (alike : Alike start lazy eager) {events : List BoardEvent}
    (noted : ∀ event ∈ events, ∀ bank, event.note bank = bank)
    (same : ∀ event ∈ events, event.sight? (standings start eager.log) =
      event.sight? (standings start lazy.log))
    (lazyLog : lazyAfter.log = lazy.log ++ events) (eagerLog : eagerAfter.log = eager.log ++ events)
    (lazyClocks : lazyAfter.clocks = lazy.clocks) (eagerClocks : eagerAfter.clocks = eager.clocks)
    (lazyTiming : lazyAfter.timing = lazy.timing) (eagerTiming : eagerAfter.timing = eager.timing)
    (statuses : eagerAfter.responses.statuses .transaction =
      lazyAfter.responses.statuses .transaction)
    (stream : eagerAfter.responses.stream = lazyAfter.responses.stream)
    (position : eagerAfter.responses.position = lazyAfter.responses.position) :
    Alike start lazyAfter eagerAfter := by
  have still : ∀ bank, standings bank events = bank := by
    intro bank
    clear same lazyLog eagerLog
    induction events generalizing bank with
    | nil => rfl
    | cons event rest ih =>
        rw [standings_cons, noted event List.mem_cons_self]
        exact ih (fun later found => noted later (List.mem_cons_of_mem _ found)) bank
  have view : sights (standings start eager.log) events =
      sights (standings start lazy.log) events := by
    clear lazyLog eagerLog still
    induction events with
    | nil => rfl
    | cons event rest ih =>
        rw [sights, sights, noted event List.mem_cons_self, noted event List.mem_cons_self,
          same event List.mem_cons_self,
          ih (fun later found => noted later (List.mem_cons_of_mem _ found))
            (fun later found => same later (List.mem_cons_of_mem _ found))]
  refine ⟨by rw [lazyClocks, eagerClocks, alike.clocks], fun controller => ?_, statuses, stream,
    position, ?_, fun controller => ?_, fun controller => ?_, fun controller => ?_⟩
  · rw [lazyTiming, eagerTiming, alike.shortest]
  · rw [lazyLog, eagerLog, sights_append, sights_append, alike.seen, view]
  · rw [lazyLog, eagerLog, standings_append, standings_append, still, still, alike.settings]
  · rw [lazyLog, lazyTiming, standings_append, still, alike.lazyTold]
  · rw [eagerLog, eagerTiming, standings_append, still, alike.eagerTold]

end Alike

namespace Link

/-- A configuration all of whose calls succeeded changes the settings of one controller. -/
theorem settings_configure {link : Link Recorder}
    (succeeded : ∀ event ∈ link.configure.link.board.log, event.Succeeded) (start : Bank Standing)
    (asked : Controller) :
    ((standings start link.configure.link.board.log).get asked).settings =
      if asked = link.device.controller then (some link.device.config, some link.device.mode.hardware)
      else ((standings start link.board.log).get asked).settings := by
  by_cases same : asked = link.device.controller
  · rw [if_pos same, same]
    exact suits_configure succeeded start
  · obtain ⟨events, grown, own⟩ := link.configure_concern
    rw [if_neg same, grown, standings_append,
      standings_other fun event found => own event found asked same]

/-- Two devices that differ at most in the delays they remember, on boards that are alike. -/
structure Twins (start : Bank Standing) (lazy eager : Link Recorder) : Prop where
  board : Alike start lazy.board eager.board
  table : eager.bus.table = lazy.bus.table
  device : eager.device = { lazy.device with delays := eager.device.delays }

/-- Twins whose delays are in effect. -/
structure Paired (start : Bank Standing) (lazy eager : Link Recorder) : Prop
    extends Twins start lazy eager where
  lazyInEffect : lazy.InEffect
  eagerInEffect : eager.InEffect

namespace Paired

variable {start : Bank Standing} {lazy eager : Link Recorder}

theorem controller (paired : Paired start lazy eager) :
    eager.device.controller = lazy.device.controller := by
  rw [paired.device]

/-- Twins that remember the same delays find the same at their controllers. -/
theorem standing (paired : Paired start lazy eager)
    (delays : eager.device.delays = lazy.device.delays) :
    (standings start eager.board.log).get lazy.device.controller =
      (standings start lazy.board.log).get lazy.device.controller := by
  have held := paired.eagerInEffect
  unfold InEffect at held
  rw [paired.controller, delays, paired.board.clocks, paired.lazyInEffect] at held
  obtain ⟨pre, post⟩ := Prod.mk.inj (Option.some.inj held)
  exact paired.board.standing pre.symm post.symm

theorem updateDelays (paired : Paired start lazy eager) {requested : SelectDelays}
    (ticks : (requested.ticks? (lazy.board.clocks.get lazy.device.controller)).isSome = true) :
    Paired start (lazy.updateDelays requested) (eager.updateDelays requested) ∧
      (lazy.updateDelays requested).device.delays = requested ∧
        (eager.updateDelays requested).device.delays = requested := by
  obtain ⟨lazyInEffect, one⟩ := updateDelays_inEffect paired.lazyInEffect requested
  obtain ⟨eagerInEffect, other⟩ := updateDelays_inEffect paired.eagerInEffect requested
  rw [if_pos ticks] at one
  rw [paired.controller, paired.board.clocks, if_pos ticks] at other
  have lazyKept := lazy.updateDelays_kept requested
  have eagerKept := eager.updateDelays_kept requested
  have settings (link : Link Recorder) (asked : Controller) :
      ((standings start (link.updateDelays requested).board.log).get asked).settings =
        ((standings start link.board.log).get asked).settings := by
    obtain ⟨writes, written, timings⟩ := link.updateDelays_log requested
    rw [written, standings_append]
    refine settings_standings (fun event found call => ?_) _
    obtain ⟨timing, rfl⟩ := timings event found
    exact fun impossible => by cases impossible
  refine ⟨⟨⟨?_, ?_, ?_⟩, lazyInEffect, eagerInEffect⟩, one, other⟩
  · refine paired.board.unseen (lazy.updateDelays_unseen requested start)
      (eager.updateDelays_unseen requested start) fun asked => ?_
    rw [settings, settings, paired.board.settings]
  · rw [eagerKept.table, lazyKept.table, paired.table]
  · rw [eagerKept.device, lazyKept.device, paired.device]

/-- A message does the same on twins if its delays have ticks. -/
theorem send (paired : Paired start lazy eager) {message : Message}
    (ticks : (message.delays.ticks? (lazy.board.clocks.get lazy.device.controller)).isSome = true) :
    (eager.send message).data = (lazy.send message).data ∧
      (eager.send message).failure = (lazy.send message).failure ∧
        Paired start (lazy.send message).link (eager.send message).link := by
  cases fits : message.fits with
  | false =>
      rw [send_of_unfit _ fits, send_of_unfit _ fits]
      exact ⟨rfl, rfl, paired⟩
  | true =>
      obtain ⟨ready, one, other⟩ := paired.updateDelays ticks
      have status : (eager.updateDelays message.delays).board.responses.status .transaction =
          (lazy.updateDelays message.delays).board.responses.status .transaction := by
        rw [Responses.status, Responses.status, ready.board.statuses]
      have asked : (eager.updateDelays message.delays).request message =
          (lazy.updateDelays message.delays).request message := by
        rw [request, request, ready.device]
      -- The transaction finds the same at the controller, and the waits after it change nothing.
      have unchanged := transaction_unchanged (ready.standing (other.trans one.symm))
        ((lazy.updateDelays message.delays).request message)
      cases result : Fault.ofStatus?
          ((lazy.updateDelays message.delays).board.responses.status .transaction) with
      | none =>
          have zero := (Fault.ofStatus?_eq_none_iff _).mp result
          rw [send_of_accepted _ fits zero, send_of_accepted _ fits (status.trans zero)]
          refine ⟨?_, rfl, ⟨⟨?_, ready.table, ready.device⟩, ready.lazyInEffect.withBoard rfl rfl,
            ready.eagerInEffect.withBoard rfl rfl⟩⟩
          · simp only [asked, Responses.upcoming, ready.board.stream, ready.board.position]
          · obtain ⟨noted, same⟩ := unchanged 0 (waitSlices message.waitAfter)
            rw [ready.controller, asked]
            refine ready.board.append noted same rfl rfl rfl rfl rfl rfl ?_ ready.board.stream ?_
            · exact congrArg List.tail ready.board.statuses
            · exact congrArg (· + _) ready.board.position
      | some fault =>
          rw [send_of_rejected _ fits result, send_of_rejected _ fits (by rw [status]; exact result)]
          refine ⟨rfl, rfl, ⟨⟨?_, ready.table, ready.device⟩, ready.lazyInEffect.withBoard rfl rfl,
            ready.eagerInEffect.withBoard rfl rfl⟩⟩
          obtain ⟨noted, same⟩ := unchanged
            ((lazy.updateDelays message.delays).board.responses.status .transaction) []
          rw [ready.controller, asked]
          refine ready.board.append noted same rfl ?_ rfl rfl rfl rfl ?_ ready.board.stream
            ready.board.position
          · rw [← status]
            rfl
          · exact congrArg List.tail ready.board.statuses

/-- Errands do the same on twins if the delays of all messages have ticks. -/
theorem carryOut {errands : List Errand} (paired : Paired start lazy eager)
    (ticks : ∀ message, Errand.message message ∈ errands →
      (message.delays.ticks? (lazy.board.clocks.get lazy.device.controller)).isSome = true) :
    (eager.carryOut errands).data = (lazy.carryOut errands).data ∧
      (eager.carryOut errands).failure = (lazy.carryOut errands).failure ∧
        Paired start (lazy.carryOut errands).link (eager.carryOut errands).link := by
  induction errands generalizing lazy eager with
  | nil => exact ⟨rfl, rfl, paired⟩
  | cons errand rest ih =>
      have later : ∀ message, Errand.message message ∈ rest →
          (message.delays.ticks? (lazy.board.clocks.get lazy.device.controller)).isSome = true :=
        fun message found => ticks message (List.mem_cons_of_mem _ found)
      cases errand with
      | pause ns =>
          refine ih ⟨⟨?_, paired.table, paired.device⟩, paired.lazyInEffect.withBoard rfl rfl,
            paired.eagerInEffect.withBoard rfl rfl⟩ later
          refine paired.board.append ?_ ?_ rfl rfl rfl rfl rfl rfl paired.board.statuses
            paired.board.stream paired.board.position
          · simp [BoardEvent.note, BoardCall.controller?]
          · simp [BoardEvent.sight?]
      | message message =>
          obtain ⟨data, failure, next⟩ := paired.send (ticks message List.mem_cons_self)
          have confined := lazy.send_confined message
          cases result : (lazy.send message).failure with
          | none =>
              rw [result] at failure
              rw [carryOut_message_of_sent result, carryOut_message_of_sent failure]
              obtain ⟨moreData, moreFailure, ended⟩ := ih next fun asked found => by
                rw [confined.clocks, confined.controller]
                exact later asked found
              exact ⟨by rw [data, moreData], moreFailure, ended⟩
          | some error =>
              rw [result] at failure
              rw [carryOut_message_of_failed result, carryOut_message_of_failed failure, data]
              exact ⟨rfl, rfl, next⟩

end Paired

namespace Twins

variable {start : Bank Standing} {lazy eager : Link Recorder}

theorem controller (twins : Twins start lazy eager) :
    eager.device.controller = lazy.device.controller := by
  rw [twins.device]

theorem select (twins : Twins start lazy eager) : eager.device.select = lazy.device.select := by
  rw [twins.device]

/-- Twins that are both configured have their delays in effect. -/
theorem configure (twins : Twins start lazy eager)
    (lazySucceeded : ∀ event ∈ lazy.configure.link.board.log, event.Succeeded)
    (eagerSucceeded : ∀ event ∈ eager.configure.link.board.log, event.Succeeded) :
    Paired start lazy.configure.link eager.configure.link := by
  have one := (configure_of_succeeded lazySucceeded).1
  have other := (configure_of_succeeded eagerSucceeded).1
  have alike : Alike start lazy.configure.link.board eager.configure.link.board := by
    refine twins.board.unseen (configure_unseen lazySucceeded start)
      (configure_unseen eagerSucceeded start) fun asked => ?_
    rw [settings_configure lazySucceeded, settings_configure eagerSucceeded, twins.board.settings,
      twins.device]
    rfl
  refine ⟨⟨alike, ?_, ?_⟩, (configure_inEffect one).1, (configure_inEffect other).1⟩
  · obtain ⟨board, same⟩ := configure_of_accepted one
    obtain ⟨alsoBoard, alsoSame⟩ := configure_of_accepted other
    rw [same, alsoSame, configured, configured, twins.table, twins.controller, twins.select]
  · rw [lazy.configure_confined.device, eager.configure_confined.device, twins.device]

/-- A device that is not configured, since its chip select stands in the table, stays the twin of one
that is, if its settings are at the controller and its delays in effect. -/
theorem configure_eager (twins : Twins start lazy eager)
    (entry : lazy.bus.table.last.get lazy.device.controller = lazy.device.select)
    (own : ((standings start lazy.board.log).get lazy.device.controller).Suits lazy.device)
    (inEffect : lazy.InEffect)
    (succeeded : ∀ event ∈ eager.configure.link.board.log, event.Succeeded) :
    Paired start lazy eager.configure.link := by
  have accepted := (configure_of_succeeded succeeded).1
  have alike : Alike start lazy.board eager.configure.link.board := by
    refine twins.board.unseen (.refl _) (configure_unseen succeeded start) fun asked => ?_
    rw [settings_configure succeeded, twins.board.settings, twins.device]
    split
    · next same =>
      rw [same]
      exact own.symm
    · rfl
  refine ⟨⟨alike, ?_, ?_⟩, inEffect, (configure_inEffect accepted).1⟩
  · obtain ⟨board, same⟩ := configure_of_accepted accepted
    rw [same, configured, twins.table, twins.controller, twins.select, ← entry]
    exact congrArg SelectTable.mk (Bank.set_get _ _)
  · rw [eager.configure_confined.device, twins.device]

end Twins

/-- Errands after which twins are configured again if need be do the same on both. -/
theorem Paired.carryOutAll {start : Bank Standing} {lazy eager : Link Recorder}
    (paired : Paired start lazy eager) (recovers : Bool) {errands : List Errand}
    (ticks : ∀ message, Errand.message message ∈ errands →
      (message.delays.ticks? (lazy.board.clocks.get lazy.device.controller)).isSome = true)
    (lazySucceeded : ∀ event ∈ (lazy.carryOutAll recovers errands).link.board.log,
      event.Succeeded)
    (eagerSucceeded : ∀ event ∈ (eager.carryOutAll recovers errands).link.board.log,
      event.Succeeded) :
    (eager.carryOutAll recovers errands).data = (lazy.carryOutAll recovers errands).data ∧
      (eager.carryOutAll recovers errands).failure = (lazy.carryOutAll recovers errands).failure ∧
        Twins start (lazy.carryOutAll recovers errands).link
          (eager.carryOutAll recovers errands).link := by
  obtain ⟨data, failure, next⟩ := paired.carryOut ticks
  cases recovers with
  | false => exact ⟨data, failure, next.toTwins⟩
  | true =>
      cases result : (lazy.carryOut errands).failure with
      | none =>
          rw [result] at failure
          simp only [Link.carryOutAll, if_true, recover, result, failure]
          exact ⟨data, trivial, next.toTwins⟩
      | some error =>
          rw [result] at failure
          simp only [Link.carryOutAll, if_true, recover, result] at lazySucceeded
          simp only [Link.carryOutAll, if_true, recover, failure] at eagerSucceeded
          simp only [Link.carryOutAll, if_true, recover, result, failure]
          exact ⟨data, trivial, (next.toTwins.configure lazySucceeded eagerSucceeded).toTwins⟩

/-- A call does the same on twins if the chip select of the lazy one stands in the table only with its
settings at the controller and its delays in effect. -/
theorem Twins.call {start : Bank Standing} {lazy eager : Link Recorder}
    (twins : Twins start lazy eager) {call : DataCall}
    (trusted : lazy.bus.table.last.get lazy.device.controller = lazy.device.select →
      ((standings start lazy.board.log).get lazy.device.controller).Suits lazy.device ∧
        lazy.InEffect)
    (ticks : ∀ message, Errand.message message ∈ call.errands →
      (message.delays.ticks? (lazy.board.clocks.get lazy.device.controller)).isSome = true)
    (lazySucceeded : ∀ event ∈ (lazy.callWith Link.select call).link.board.log, event.Succeeded)
    (eagerSucceeded : ∀ event ∈ (eager.callWith Link.configure call).link.board.log,
      event.Succeeded) :
    (eager.callWith Link.configure call).data = (lazy.callWith Link.select call).data ∧
      (eager.callWith Link.configure call).failure = (lazy.callWith Link.select call).failure ∧
        Twins start (lazy.callWith Link.select call).link (eager.callWith Link.configure call).link := by
  have eagerChosen : ∀ event ∈ eager.configure.link.board.log, event.Succeeded := by
    obtain ⟨events, grown⟩ := callWith_grown Link.configure eager call
    exact forall_mem_of_grown grown eagerSucceeded
  have lazyChosen : ∀ event ∈ lazy.select.link.board.log, event.Succeeded := by
    obtain ⟨events, grown⟩ := callWith_grown Link.select lazy call
    exact forall_mem_of_grown grown lazySucceeded
  obtain ⟨selected, paired⟩ :
      lazy.select.failure = none ∧ Paired start lazy.select.link eager.configure.link := by
    rcases lazy.select_cases with ⟨entry, same⟩ | ⟨_, same⟩
    · obtain ⟨own, inEffect⟩ := trusted entry
      rw [same]
      exact ⟨rfl, twins.configure_eager entry own inEffect eagerChosen⟩
    · rw [same] at lazyChosen ⊢
      exact ⟨(configure_of_succeeded lazyChosen).1, twins.configure lazyChosen eagerChosen⟩
  have configured := (configure_of_succeeded eagerChosen).1
  have confined := lazy.select_confined
  rw [callWith_of_chosen selected] at lazySucceeded ⊢
  rw [callWith_of_chosen configured] at eagerSucceeded ⊢
  obtain ⟨data, failure, ended⟩ := paired.carryOutAll call.recovers
    (by rw [confined.clocks, confined.controller]; exact ticks) lazySucceeded eagerSucceeded
  exact ⟨congrArg call.received data, failure, ended⟩

end Link

end SharedSpi

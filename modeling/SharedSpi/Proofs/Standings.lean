import SharedSpi.Proofs.DelaysInEffect
import SharedSpi.Proofs.InService

/-!
# What stands at a controller

What a controller was last initialized with, the mode that it was last put into
and what its timing register was last written with can be read off a log. A
configuration that ran to completion leaves the settings of its device there.
Traffic changes nothing but the register, and calls on one controller change
nothing at the other. What a register holds is what the log tells, at every
message of a device and at the end.
-/

namespace SharedSpi

/-- What stands at a controller. -/
structure Standing where
  /-- What the controller was last initialized with. -/
  config : Option ControllerConfig
  /-- The mode that the controller was last put into. -/
  mode : Option HardwareMode
  timing : SelectTiming
  deriving DecidableEq, Repr

namespace Standing

/-- What stands there once a call on the controller was made. -/
def note (standing : Standing) : BoardCall → Standing
  | .setup _ (.init config) => { standing with config := some config }
  | .setup _ (.setMode mode) => { standing with mode := some mode }
  | .setTiming _ timing => { standing with timing := timing }
  | _ => standing

/-- All but the timing. -/
def settings (standing : Standing) : Option ControllerConfig × Option HardwareMode :=
  (standing.config, standing.mode)

/-- The settings are those of a device. -/
def Suits (standing : Standing) (device : Device) : Prop :=
  standing.settings = (some device.config, some device.mode.hardware)

instance (standing : Standing) (device : Device) : Decidable (standing.Suits device) :=
  inferInstanceAs (Decidable (_ = _))

end Standing

/-- A controller that nobody used yet. -/
def Recorder.unused (recorder : Recorder) : Bank Standing where
  spi0 := ⟨none, none, recorder.timing.spi0⟩
  spi1 := ⟨none, none, recorder.timing.spi1⟩

/-- What stands at the controllers after an event. -/
def BoardEvent.note (event : BoardEvent) (bank : Bank Standing) : Bank Standing :=
  match event.call.controller? with
  | none => bank
  | some controller => bank.set controller ((bank.get controller).note event.call)

/-- What stands at the controllers after events. -/
def standings (start : Bank Standing) (events : List BoardEvent) : Bank Standing :=
  events.foldl (fun bank event => event.note bank) start

theorem standings_append (start : Bank Standing) (first second : List BoardEvent) :
    standings start (first ++ second) = standings (standings start first) second :=
  List.foldl_append

theorem standings_cons (start : Bank Standing) (event : BoardEvent) (rest : List BoardEvent) :
    standings start (event :: rest) = standings (event.note start) rest := rfl

/-- Calls on one controller leave alone what stands at the others. -/
theorem BoardEvent.note_other {event : BoardEvent} {controller : Controller}
    (other : event.call.controller? ≠ some controller) (bank : Bank Standing) :
    (event.note bank).get controller = bank.get controller := by
  unfold note
  cases asked : event.call.controller? with
  | none => rfl
  | some changed =>
      refine Bank.get_set_other _ ?_ _
      rintro rfl
      exact other asked

theorem standings_other {controller : Controller} {events : List BoardEvent}
    (others : ∀ event ∈ events, event.call.controller? ≠ some controller) (start : Bank Standing) :
    (standings start events).get controller = start.get controller := by
  induction events generalizing start with
  | nil => rfl
  | cons event rest ih =>
      rw [standings_cons, ih (fun later found => others later (List.mem_cons_of_mem _ found)),
        event.note_other (others event List.mem_cons_self)]

theorem BoardEvent.settings_note {event : BoardEvent} {controller : Controller}
    (still : ∀ call, event.call ≠ .setup controller call) (bank : Bank Standing) :
    ((event.note bank).get controller).settings = (bank.get controller).settings := by
  by_cases own : event.call.controller? = some controller
  · obtain ⟨call, status⟩ := event
    cases call with
    | setup asked call =>
        cases own
        exact (still call rfl).elim
    | setTiming asked timing =>
        cases own
        simp [note, BoardCall.controller?, Standing.note, Standing.settings]
    | shutdown asked =>
        cases own
        simp [note, BoardCall.controller?, Standing.note]
    | transaction asked request =>
        cases own
        simp [note, BoardCall.controller?, Standing.note]
    | wait ns => cases own
  · rw [event.note_other own]

/-- Only configuring calls change the settings of a controller. -/
theorem settings_standings {controller : Controller} {events : List BoardEvent}
    (still : ∀ event ∈ events, ∀ call, event.call ≠ .setup controller call)
    (start : Bank Standing) :
    ((standings start events).get controller).settings = (start.get controller).settings := by
  induction events generalizing start with
  | nil => rfl
  | cons event rest ih =>
      rw [standings_cons, ih (fun later found => still later (List.mem_cons_of_mem _ found)),
        event.settings_note (still event List.mem_cons_self)]

theorem BoardEvent.timing_note {event : BoardEvent} {controller : Controller}
    (unwritten : ∀ timing, event.call ≠ .setTiming controller timing) (bank : Bank Standing) :
    ((event.note bank).get controller).timing = (bank.get controller).timing := by
  by_cases own : event.call.controller? = some controller
  · obtain ⟨call, status⟩ := event
    cases call with
    | setup asked call =>
        cases own
        cases call <;> simp [note, BoardCall.controller?, Standing.note]
    | setTiming asked timing =>
        cases own
        exact (unwritten timing rfl).elim
    | shutdown asked =>
        cases own
        simp [note, BoardCall.controller?, Standing.note]
    | transaction asked request =>
        cases own
        simp [note, BoardCall.controller?, Standing.note]
    | wait ns => cases own
  · rw [event.note_other own]

/-- Only writes of registers change the timing of a controller. -/
theorem timing_standings {controller : Controller} {events : List BoardEvent}
    (unwritten : Unwritten events) (start : Bank Standing) :
    ((standings start events).get controller).timing = (start.get controller).timing := by
  induction events generalizing start with
  | nil => rfl
  | cons event rest ih =>
      rw [standings_cons, ih (fun later found => unwritten later (List.mem_cons_of_mem _ found)),
        event.timing_note (unwritten event List.mem_cons_self controller)]

/-- A configuration that ran to completion decides all that stands at its controller. -/
theorem standings_fullConfiguration (start : Bank Standing) (controller : Controller)
    (config : ControllerConfig) (mode : HardwareMode) (timing : SelectTiming) :
    (standings start (fullConfiguration controller config mode timing)).get controller =
      ⟨some config, some mode, timing⟩ := by
  simp [fullConfiguration, standings, BoardEvent.note, BoardCall.controller?, Standing.note]

theorem standings_setTiming (start : Bank Standing) (log : List BoardEvent)
    (controller asked : Controller) (timing : SelectTiming) :
    (standings start (log ++ [⟨.setTiming controller timing, none⟩])).get asked =
      if asked = controller then { (standings start log).get controller with timing := timing }
      else (standings start log).get asked := by
  rw [standings_append]
  exact Bank.get_set _ _ _ _

namespace Recorder

/-- The timings of a bank are those that a recorder holds. -/
def Holds (recorder : Recorder) (bank : Bank Standing) : Prop :=
  ∀ controller, (bank.get controller).timing = recorder.timing.get controller

theorem holds_unused (recorder : Recorder) : recorder.Holds recorder.unused := by
  intro controller
  cases controller <;> rfl

/-- The log grew, and what was added to it tells what became of the timing registers. -/
def Registered (before after : Recorder) : Prop :=
  ∃ events, after.log = before.log ++ events ∧
    ∀ bank, before.Holds bank → after.Holds (standings bank events)

namespace Registered

variable {before after : Recorder}

theorem refl (recorder : Recorder) : Registered recorder recorder :=
  ⟨[], (List.append_nil _).symm, fun _ holds => holds⟩

theorem trans {middle : Recorder} (left : Registered before middle)
    (right : Registered middle after) : Registered before after := by
  obtain ⟨old, grown, early⟩ := left
  obtain ⟨new, regrown, late⟩ := right
  refine ⟨old ++ new, by rw [regrown, grown, List.append_assoc], fun bank holds => ?_⟩
  rw [standings_append]
  exact late _ (early bank holds)

theorem of_unwritten {events : List BoardEvent} (grown : after.log = before.log ++ events)
    (timing : after.timing = before.timing) (unwritten : Unwritten events) :
    Registered before after := by
  refine ⟨events, grown, fun bank holds controller => ?_⟩
  rw [timing_standings unwritten, timing]
  exact holds controller

theorem setTiming (recorder : Recorder) (controller : Controller) (timing : SelectTiming) :
    Registered recorder (Board.setTiming recorder controller timing) := by
  refine ⟨[⟨.setTiming controller timing, none⟩], rfl, fun bank holds asked => ?_⟩
  have written := standings_setTiming bank [] controller asked timing
  rw [List.nil_append] at written
  rw [written, setTiming_eq, Bank.get_set]
  by_cases own : asked = controller
  · rw [if_pos own, if_pos own]
  · rw [if_neg own, if_neg own]
    exact holds asked

/-- What a register holds can be read off the events since then. -/
theorem timing (registered : Registered before after) {events : List BoardEvent}
    (grown : after.log = before.log ++ events) (controller : Controller) :
    ((standings before.unused events).get controller).timing = after.timing.get controller := by
  obtain ⟨added, same, holds⟩ := registered
  obtain rfl : events = added := List.append_cancel_left (grown.symm.trans same)
  exact holds _ before.holds_unused controller

end Registered

end Recorder

/-- What is seen from outside: waits, and transactions with what stands at their controllers. -/
inductive Sight where
  | transaction (controller : Controller) (request : Request) (status : Option Int32)
      (standing : Standing)
  | wait (ns : UInt32)
  deriving DecidableEq, Repr

/-- What is seen of an event. -/
def BoardEvent.sight? (event : BoardEvent) (bank : Bank Standing) : Option Sight :=
  match event.call with
  | .transaction controller request =>
      some (.transaction controller request event.status (bank.get controller))
  | .wait ns => some (.wait ns)
  | _ => none

/-- What is seen of events. -/
def sights (start : Bank Standing) : List BoardEvent → List Sight
  | [] => []
  | event :: rest => (event.sight? start).toList ++ sights (event.note start) rest

theorem sights_append (start : Bank Standing) (first second : List BoardEvent) :
    sights start (first ++ second) = sights start first ++ sights (standings start first) second := by
  induction first generalizing start with
  | nil => rfl
  | cons event rest ih =>
      rw [List.cons_append, sights, sights, ih, standings_cons, List.append_assoc]

/-- Of events without transactions and waits nothing is seen. -/
theorem sights_unseen {events : List BoardEvent}
    (unseen : ∀ event ∈ events, ∀ bank, event.sight? bank = none) (start : Bank Standing) :
    sights start events = [] := by
  induction events generalizing start with
  | nil => rfl
  | cons event rest ih =>
      rw [sights, unseen event List.mem_cons_self,
        ih fun later found => unseen later (List.mem_cons_of_mem _ found)]
      rfl

/-- Events that concern no controller but one. -/
def Concern (controller : Controller) (events : List BoardEvent) : Prop :=
  ∀ event ∈ events, ∀ other, other ≠ controller → event.call.controller? ≠ some other

theorem Concern.append {controller : Controller} {first second : List BoardEvent}
    (left : Concern controller first) (right : Concern controller second) :
    Concern controller (first ++ second) :=
  List.forall_mem_append.mpr ⟨left, right⟩

theorem Concern.of_traffic {controller : Controller} {events : List BoardEvent}
    (traffic : ∀ event ∈ events, event.IsTraffic controller) : Concern controller events := by
  intro event found other differ asked
  have busy := traffic event found
  obtain ⟨call, status⟩ := event
  cases call with
  | setup controller call => exact busy
  | setTiming controller timing => exact differ ((Option.some.inj asked).symm.trans busy)
  | shutdown controller => exact busy
  | transaction controller request => exact differ ((Option.some.inj asked).symm.trans busy)
  | wait ns => cases asked

/-- If the event is a configuring call, it ended with status 0. -/
def BoardEvent.Succeeded (event : BoardEvent) : Prop :=
  match event.call with
  | .setup _ _ => event.status = some 0
  | _ => True

instance (event : BoardEvent) : Decidable event.Succeeded :=
  match event with
  | ⟨.setup _ _, status⟩ => inferInstanceAs (Decidable (status = some 0))
  | ⟨.setTiming _ _, _⟩ => isTrue True.intro
  | ⟨.shutdown _, _⟩ => isTrue True.intro
  | ⟨.transaction _ _, _⟩ => isTrue True.intro
  | ⟨.wait _, _⟩ => isTrue True.intro

/-- What holds of the events of a log holds of those of an earlier one. -/
theorem forall_mem_of_grown {holds : BoardEvent → Prop} {log events whole : List BoardEvent}
    (grown : whole = log ++ events) (every : ∀ event ∈ whole, holds event) :
    ∀ event ∈ log, holds event := by
  rw [grown] at every
  exact (List.forall_mem_append.mp every).1

namespace Link

theorem configure_concern (link : Link Recorder) :
    ∃ events, link.configure.link.board.log = link.board.log ++ events ∧
      Concern link.device.controller events := by
  obtain ⟨events, grown, added⟩ := link.configure_added
  refine ⟨events, grown, ?_⟩
  intro event found other differ asked
  rw [(added event found).2] at asked
  exact differ (Option.some.inj asked).symm

/-- Everything that a device does concerns its own controller. -/
theorem Course.concern {before after : Link Recorder} {deeds : List (Deed Recorder)}
    (course : Course before deeds after) :
    ∃ events, after.board.log = before.board.log ++ events ∧
      Concern before.device.controller events := by
  induction course with
  | stay link => exact ⟨[], (List.append_nil _).symm, by simp [Concern]⟩
  | @configured link accepted => exact link.configure_concern
  | @refused link error failed => exact link.configure_concern
  | waited link ns => exact ⟨[waitEvent ns], rfl, .of_traffic (by simp [isTraffic_waitEvent])⟩
  | @sent link message fits =>
      obtain ⟨events, grown, traffic⟩ := link.send_traffic message
      exact ⟨events, grown, .of_traffic traffic⟩
  | @append one two three earlier later left right first second =>
      obtain ⟨old, grown, own⟩ := first
      obtain ⟨new, regrown, alsoOwn⟩ := second
      rw [left.confined.controller] at alsoOwn
      exact ⟨old ++ new, by rw [regrown, grown, List.append_assoc], own.append alsoOwn⟩

/-- Every request is made on the device's own controller. -/
theorem Course.controller_of_request {before after : Link Recorder} {deeds : List (Deed Recorder)}
    (course : Course before deeds after) {earlier later : List BoardEvent}
    {controller : Controller} {request : Request} {status : Option Int32}
    (split : after.board.log =
      before.board.log ++ (earlier ++ ⟨.transaction controller request, status⟩ :: later)) :
    controller = before.device.controller := by
  obtain ⟨events, grown, own⟩ := course.concern
  obtain rfl := List.append_cancel_left (grown.symm.trans split)
  refine Decidable.byContradiction fun other => ?_
  exact own _ List.mem_append_cons_self controller other rfl

theorem configure_registered (link : Link Recorder) :
    Recorder.Registered link.board link.configure.link.board := by
  rcases link.configure_cases with ⟨board, completed⟩ | ⟨board, refused⟩
  · have called : Recorder.Registered link.board board :=
      .of_unwritten completed.logged completed.undisturbed.timing (.setups _ _ _)
    rw [completed.result]
    exact called.trans (.setTiming board _ _)
  · obtain ⟨timing, events, grown, unwritten⟩ := refused.unwritten
    exact .of_unwritten grown timing unwritten

theorem updateDelays_registered (link : Link Recorder) (requested : SelectDelays) :
    Recorder.Registered link.board (link.updateDelays requested).board := by
  rcases link.updateDelays_cases requested with ⟨timing, _, _, same⟩ | ⟨_, same⟩
  · rw [same]
    exact .setTiming link.board link.device.controller timing
  · rw [same]
    exact .refl link.board

theorem send_registered (link : Link Recorder) {message : Message} (fits : message.fits = true) :
    Recorder.Registered link.board (link.send message).link.board := by
  obtain ⟨events, grown, unwritten⟩ := link.send_unwritten fits
  obtain ⟨board, same, _, timing⟩ := link.send_link fits
  refine (link.updateDelays_registered message.delays).trans (.of_unwritten grown ?_ unwritten)
  rw [same, board_withBoard, timing]

/-- Whatever a device does, the log tells what became of the registers: at the end, and whenever a
message comes to a transaction. -/
theorem Course.registered {before after : Link Recorder} {deeds : List (Deed Recorder)}
    (course : Course before deeds after) :
    Recorder.Registered before.board after.board ∧
      ∀ ready message, Deed.sending ready message ∈ deeds →
        Recorder.Registered before.board ready.board := by
  induction course with
  | stay link => exact ⟨.refl link.board, by simp⟩
  | @configured link accepted => exact ⟨link.configure_registered, by simp⟩
  | @refused link error failed => exact ⟨link.configure_registered, by simp⟩
  | waited link ns =>
      exact ⟨.of_unwritten rfl rfl (.singleton fun _ _ => BoardCall.noConfusion), by simp⟩
  | @sent link asked fits =>
      refine ⟨link.send_registered fits, fun ready message found => ?_⟩
      rw [(Deed.sending.inj (List.mem_singleton.mp found)).1]
      exact link.updateDelays_registered asked.delays
  | append left right first second =>
      refine ⟨first.1.trans second.1, fun ready message found => ?_⟩
      rcases List.mem_append.mp found with early | late
      · exact first.2 ready message early
      · exact first.1.trans (second.2 ready message late)

/-- A configuration all of whose calls succeeded leaves the settings of its device. -/
theorem configure_of_succeeded {link : Link Recorder}
    (succeeded : ∀ event ∈ link.configure.link.board.log, event.Succeeded) :
    link.configure.failure = none ∧
      link.configure.link.board.log = link.board.log ++
        fullConfiguration link.device.controller link.device.config link.device.mode.hardware
          (link.board.timing.get link.device.controller).shortest := by
  rcases link.configure_cases with ⟨board, completed⟩ | ⟨board, refused⟩
  · exact ⟨completed.failure, completed.log⟩
  · obtain ⟨failing, status, bad, found⟩ := refused.mem_log
    exact (bad (Option.some.inj (succeeded _ found))).elim

theorem suits_configure {link : Link Recorder}
    (succeeded : ∀ event ∈ link.configure.link.board.log, event.Succeeded)
    (start : Bank Standing) :
    ((standings start link.configure.link.board.log).get link.device.controller).Suits
      link.device := by
  rw [(configure_of_succeeded succeeded).2, standings_append, standings_fullConfiguration]
  rfl

/-- Devices that differ in the delays they remember only have the same settings. -/
theorem suits_congr {first second : Device}
    (same : second = { first with delays := second.delays }) (standing : Standing) :
    standing.Suits second ↔ standing.Suits first := by
  rw [same]
  rfl

/-- If every configuring call succeeds, a device leaves the settings of its controller as they are, or
its own settings. -/
theorem Course.settled {before after : Link Recorder} {deeds : List (Deed Recorder)}
    (course : Course before deeds after)
    (succeeded : ∀ event ∈ after.board.log, event.Succeeded) (start : Bank Standing) :
    ((standings start after.board.log).get before.device.controller).settings =
        ((standings start before.board.log).get before.device.controller).settings ∨
      ((standings start after.board.log).get before.device.controller).Suits before.device := by
  induction course with
  | stay link => exact Or.inl rfl
  | configured accepted => exact Or.inr (suits_configure succeeded start)
  | refused failed => exact Or.inr (suits_configure succeeded start)
  | waited link ns =>
      refine Or.inl ?_
      rw [board_withBoard, Recorder.wait_eq, Recorder.record, standings_append]
      exact settings_standings (by simp) _
  | @sent link message fits =>
      obtain ⟨events, grown, traffic⟩ := link.send_traffic message
      refine Or.inl ?_
      rw [grown, standings_append]
      exact settings_standings (fun event found => (traffic event found).not_setup) _
  | @append one two three earlier later left right first second =>
      obtain ⟨events, grown, _⟩ := right.concern
      have second := second succeeded
      rw [left.confined.controller, suits_congr left.confined.device] at second
      rcases second with same | own
      · rw [Standing.Suits, same]
        exact first (forall_mem_of_grown grown succeeded)
      · exact Or.inr own

/-- If every configuring call succeeds, a call leaves the table at the device's chip select, and the
settings at its controller are its own unless it found the table like this and left them alone. -/
theorem call_settled {link : Link Recorder} {call : DataCall}
    (succeeded : ∀ event ∈ (link.call call).link.board.log, event.Succeeded)
    (start : Bank Standing) :
    let controller := link.device.controller
    let after := (link.call call).link
    after.bus.table.last.get controller = link.device.select ∧
      (((standings start after.board.log).get controller).Suits link.device ∨
        link.bus.table.last.get controller = link.device.select ∧
          ((standings start after.board.log).get controller).settings =
            ((standings start link.board.log).get controller).settings) := by
  intro controller after
  rcases link.callDeeds_cases call with ⟨error, failed, ended, _⟩ | ⟨selected, later, _, course⟩
  · rw [ended] at succeeded
    rcases link.select_cases with ⟨_, same⟩ | ⟨_, same⟩
    · rw [same] at failed
      cases failed
    · rw [same] at failed succeeded
      rw [(configure_of_succeeded succeeded).1] at failed
      cases failed
  · have confined := link.select_confined
    have entry := course.confined.entry
    rw [confined.controller, confined.select, entry_of_select selected, or_self] at entry
    have settled := course.settled succeeded start
    rw [confined.controller, suits_congr confined.device] at settled
    refine ⟨entry, ?_⟩
    rcases settled with still | own
    · rcases link.select_cases with ⟨found, same⟩ | ⟨_, same⟩
      · rw [same] at still
        exact Or.inr ⟨found, still⟩
      · obtain ⟨events, grown, _⟩ := course.concern
        have configured : ((standings start link.configure.link.board.log).get controller).Suits
            link.device :=
          suits_configure (fun event found => succeeded event (by rw [grown, same]; simp [found]))
            start
        rw [same] at still
        exact Or.inl (still.trans configured)
    · exact Or.inl own

end Link

end SharedSpi

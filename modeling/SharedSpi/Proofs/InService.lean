import SharedSpi.Proofs.RecordedCalls
import SharedSpi.Proofs.SessionSteps

/-!
# Controllers in service

A controller is in service once a configuration of it ran to completion, until
it is shut down or a configuring call fails; from a shutdown on it is out of
service until the next configuring call. A configuration leaves it one or the
other, and traffic leaves it as it is, so the log tells of every transaction
whether it was made in service.
-/

namespace SharedSpi

namespace BoardEvent

/-- A shutdown of the controller, or a configuring call on it that failed. -/
def Disables (event : BoardEvent) (controller : Controller) : Prop :=
  event.call = .shutdown controller ∨
    ∃ call status, event = setupEvent controller status call ∧ status ≠ 0

theorem IsTraffic.not_disables {event : BoardEvent} {controller asked : Controller}
    (traffic : event.IsTraffic controller) : ¬ event.Disables asked := by
  rintro (shutdown | ⟨call, status, failed, _⟩)
  · rw [IsTraffic, shutdown] at traffic
    exact traffic
  · rw [failed] at traffic
    exact traffic

theorem IsTraffic.not_setup {event : BoardEvent} {controller asked : Controller}
    (traffic : event.IsTraffic controller) (call : SetupCall) :
    event.call ≠ .setup asked call := by
  intro setup
  rw [IsTraffic, setup] at traffic
  exact traffic

theorem not_disables_of_other {event : BoardEvent} {controller : Controller}
    (other : event.call.controller? ≠ some controller) : ¬ event.Disables controller := by
  rintro (shutdown | ⟨call, status, failed, _⟩)
  · exact other (by rw [shutdown]; rfl)
  · exact other (by rw [failed]; rfl)

end BoardEvent

/-- The events of a configuration that ran to completion. -/
def fullConfiguration (controller : Controller) (config : ControllerConfig) (mode : HardwareMode)
    (timing : SelectTiming) : List BoardEvent :=
  [⟨.setup controller (.init config), some 0⟩,
    ⟨.setup controller (.setMode mode), some 0⟩,
    ⟨.setup controller (.setWidth .standard), some 0⟩,
    ⟨.setup controller (.setDataSize wordBits), some 0⟩,
    ⟨.setTiming controller timing, none⟩]

/-- At the end of the log a configuration of the controller ran to completion, and since then the
controller was not shut down and no configuring call failed. -/
def InService (controller : Controller) (log : List BoardEvent) : Prop :=
  ∃ earlier config mode timing later,
    log = earlier ++ (fullConfiguration controller config mode timing ++ later) ∧
      ∀ event ∈ later, ¬ event.Disables controller

/-- At the end of the log the controller was shut down, and since then nobody set about to configure
it. -/
def OutOfService (controller : Controller) (log : List BoardEvent) : Prop :=
  ∃ earlier later, log = earlier ++ ⟨.shutdown controller, none⟩ :: later ∧
    ∀ event ∈ later, ∀ call, event.call ≠ .setup controller call

/-- Every transaction in the log is made on a controller that was in service by then. -/
def EachInService (log : List BoardEvent) : Prop :=
  ∀ earlier later controller request status,
    log = earlier ++ ⟨.transaction controller request, status⟩ :: later →
      InService controller earlier

namespace InService

variable {controller : Controller} {log events : List BoardEvent}

theorem append (inService : InService controller log)
    (harmless : ∀ event ∈ events, ¬ event.Disables controller) :
    InService controller (log ++ events) := by
  obtain ⟨earlier, config, mode, timing, later, split, calm⟩ := inService
  refine ⟨earlier, config, mode, timing, later ++ events, ?_, ?_⟩
  · rw [split, List.append_assoc, List.append_assoc]
  · exact List.forall_mem_append.mpr ⟨calm, harmless⟩

end InService

namespace OutOfService

variable {controller : Controller} {log events : List BoardEvent}

theorem append (outOfService : OutOfService controller log)
    (untouched : ∀ event ∈ events, ∀ call, event.call ≠ .setup controller call) :
    OutOfService controller (log ++ events) := by
  obtain ⟨earlier, later, split, calm⟩ := outOfService
  refine ⟨earlier, later ++ events, ?_, ?_⟩
  · rw [split, List.append_assoc, List.cons_append]
  · exact List.forall_mem_append.mpr ⟨calm, untouched⟩

/-- A controller is not both in service and out of service: the last configuration comes either
after the shutdown or before it. -/
theorem not_inService (outOfService : OutOfService controller log) :
    ¬ InService controller log := by
  rintro ⟨earlier, config, mode, timing, later, split, calm⟩
  obtain ⟨before, after, shutdown, untouched⟩ := outOfService
  rw [split] at shutdown
  rcases List.append_eq_append_iff.mp shutdown with ⟨middle, _, rest⟩ | ⟨middle, _, rest⟩
  · have found : ⟨.shutdown controller, none⟩ ∈
        fullConfiguration controller config mode timing ++ later := by
      rw [rest]
      exact List.mem_append_right _ List.mem_cons_self
    rcases List.mem_append.mp found with configuring | since
    · simp [fullConfiguration] at configuring
    · exact calm _ since (Or.inl rfl)
  · cases middle with
    | nil => simp [fullConfiguration] at rest
    | cons event middle =>
        have started : ⟨.setup controller (.init config), some 0⟩ ∈ after := by
          rw [(List.cons.inj rest).2]
          exact List.mem_append_right _ (List.mem_append_left _ List.mem_cons_self)
        exact untouched _ started _ rfl

end OutOfService

theorem eachInService_nil : EachInService [] := by
  intro earlier later controller request status split
  cases earlier <;> cases split

theorem EachInService.of_append {log events : List BoardEvent}
    (each : EachInService (log ++ events)) : EachInService log := by
  intro earlier later controller request status split
  refine each earlier (later ++ events) controller request status ?_
  rw [split, List.append_assoc, List.cons_append]

theorem EachInService.append {log events : List BoardEvent} (each : EachInService log)
    (new : ∀ first last controller request status,
      events = first ++ ⟨.transaction controller request, status⟩ :: last →
        InService controller (log ++ first)) :
    EachInService (log ++ events) := by
  intro earlier later controller request status split
  rcases List.append_eq_append_iff.mp split with ⟨middle, rfl, rest⟩ | ⟨middle, rfl, rest⟩
  · exact new middle later controller request status rest
  · cases middle with
    | nil =>
        simpa using new [] later controller request status rest.symm
    | cons event middle =>
        obtain ⟨rfl, _⟩ := List.cons.inj rest
        exact each earlier middle controller request status rfl

/-- Events without transactions are added in service. -/
theorem EachInService.append_quiet {log events : List BoardEvent} (each : EachInService log)
    (quiet : ∀ event ∈ events, event.call.request? = none) : EachInService (log ++ events) := by
  apply each.append
  intro first last controller request status split
  have found : ⟨.transaction controller request, status⟩ ∈ events := by
    rw [split]
    simp
  cases quiet _ found

/-- The log grew by what concerned one controller, whose state is known afterwards, and no
transaction was added out of service. -/
structure Served (controller : Controller) (before after : List BoardEvent) : Prop where
  grown : ∃ events, after = before ++ events ∧
    ∀ event ∈ events, ∀ other, other ≠ controller → event.call.controller? ≠ some other
  known : InService controller after ∨ OutOfService controller after
  each : EachInService before → EachInService after

namespace Served

variable {controller : Controller} {before middle after : List BoardEvent}

theorem trans (left : Served controller before middle) (right : Served controller middle after) :
    Served controller before after := by
  refine ⟨?_, right.known, fun each => right.each (left.each each)⟩
  obtain ⟨first, split, own⟩ := left.grown
  obtain ⟨second, resplit, alsoOwn⟩ := right.grown
  exact ⟨first ++ second, by rw [resplit, split, List.append_assoc],
    List.forall_mem_append.mpr ⟨own, alsoOwn⟩⟩

/-- What is known of the other controllers stays known. -/
theorem known_other (served : Served controller before after) {other : Controller}
    (differ : other ≠ controller)
    (known : InService other before ∨ OutOfService other before) :
    InService other after ∨ OutOfService other after := by
  obtain ⟨events, split, own⟩ := served.grown
  rw [split]
  rcases known with inService | outOfService
  · exact Or.inl (inService.append fun event found =>
      BoardEvent.not_disables_of_other (own event found other differ))
  · refine Or.inr (outOfService.append fun event found call setup => ?_)
    exact own event found other differ (by rw [setup]; rfl)

/-- Traffic of a controller in service leaves it in service. -/
theorem of_traffic {events : List BoardEvent} (inService : InService controller before)
    (traffic : ∀ event ∈ events, event.IsTraffic controller) :
    Served controller before (before ++ events) := by
  refine ⟨⟨events, rfl, ?_⟩, Or.inl ?_, fun each => each.append ?_⟩
  · intro event found other differ asked
    have busy := traffic event found
    obtain ⟨call, status⟩ := event
    cases call <;> simp_all [BoardEvent.IsTraffic, BoardCall.controller?]
  · exact inService.append fun event found => (traffic event found).not_disables
  · intro first last asked request status split
    have same : asked = controller :=
      traffic ⟨.transaction asked request, status⟩ (by rw [split]; simp)
    rw [same]
    refine inService.append fun event found => (traffic event ?_).not_disables
    rw [split]
    exact List.mem_append_left _ found

/-- Events without transactions are served if they concern no other controller, and the state is known
afterwards. -/
theorem of_quiet {events : List BoardEvent}
    (own : ∀ event ∈ events, ∀ other, other ≠ controller → event.call.controller? ≠ some other)
    (quiet : ∀ event ∈ events, event.call.request? = none)
    (known : InService controller (before ++ events) ∨ OutOfService controller (before ++ events)) :
    Served controller before (before ++ events) :=
  ⟨⟨events, rfl, own⟩, known, fun each => each.append_quiet quiet⟩

/-- Waits change nothing. -/
theorem of_waits (known : InService controller before ∨ OutOfService controller before)
    (times : List UInt32) : Served controller before (before ++ times.map waitEvent) := by
  have waits : ∀ event ∈ times.map waitEvent, ∃ ns, event = waitEvent ns := by
    intro event found
    obtain ⟨ns, _, rfl⟩ := List.mem_map.mp found
    exact ⟨ns, rfl⟩
  apply of_quiet
  · intro event found other differ
    obtain ⟨ns, rfl⟩ := waits event found
    simp [waitEvent, BoardCall.controller?]
  · intro event found
    obtain ⟨ns, rfl⟩ := waits event found
    rfl
  · rcases known with inService | outOfService
    · refine Or.inl (inService.append fun event found => ?_)
      obtain ⟨ns, rfl⟩ := waits event found
      exact (isTraffic_waitEvent ns controller).not_disables
    · refine Or.inr (outOfService.append fun event found => ?_)
      obtain ⟨ns, rfl⟩ := waits event found
      exact (isTraffic_waitEvent ns controller).not_setup

end Served

namespace Link

/-- A configuration leaves the controller in service if it ran to completion, and out of service
otherwise. -/
theorem configure_served (link : Link Recorder) :
    Served link.device.controller link.board.log link.configure.link.board.log ∧
      (link.configure.failure = none →
        InService link.device.controller link.configure.link.board.log) := by
  obtain ⟨events, grown, added⟩ := link.configure_added
  have served (known : InService link.device.controller link.configure.link.board.log ∨
      OutOfService link.device.controller link.configure.link.board.log) :
      Served link.device.controller link.board.log link.configure.link.board.log := by
    rw [grown] at known ⊢
    refine .of_quiet (fun event found other differ same => ?_)
      (fun event found => (added event found).1) known
    rw [(added event found).2] at same
    exact differ (Option.some.inj same).symm
  rcases link.configure_cases with ⟨board, completed⟩ | ⟨board, refused⟩
  · have inService : InService link.device.controller link.configure.link.board.log := by
      rw [completed.log]
      refine ⟨link.board.log, link.device.config, link.device.mode.hardware,
        (link.board.timing.get link.device.controller).shortest, [], ?_, ?_⟩
      · rw [List.append_nil]
        rfl
      · simp
    exact ⟨served (Or.inl inService), fun _ => inService⟩
  · have outOfService : OutOfService link.device.controller link.configure.link.board.log := by
      rw [refused.log]
      exact ⟨_, [], rfl, by simp⟩
    refine ⟨served (Or.inr outOfService), fun accepted => ?_⟩
    rw [refused.failure] at accepted
    cases accepted

end Link

end SharedSpi

import Mathlib.Data.List.Induction
import SharedSpi.Proofs.InService

/-!
# Stale devices

A configuration that fails shuts the controller down and leaves the select
table alone. A device whose chip select still stands in the table is then not
configured before it sends. This is the only way to a transaction out of
service: the transactions of a run are all made in service exactly if no stale
device makes a call that comes to a transaction.
-/

namespace SharedSpi

/-- Whether errands come to a transaction. -/
def Errand.reachTransaction : List Errand → Bool
  | [] => false
  | pause _ :: rest => reachTransaction rest
  | message asked :: _ => asked.fits

/-- Whether a call on a selected device comes to a transaction. -/
def DataCall.reachesBus (call : DataCall) : Bool :=
  match call.operations? with
  | some operations => operations.any Operation.carriesData
  | none => call.messages.head?.any Message.fits

namespace Errand

theorem reachTransaction_messages (messages : List Message) :
    reachTransaction (messages.map message) = messages.head?.any Message.fits := by
  cases messages <;> rfl

theorem reachTransaction_pauses (times : List UInt32) :
    reachTransaction (times.map pause) = false := by
  induction times with
  | nil => rfl
  | cons ns rest ih => exact ih

theorem reachTransaction_ofOperations (operations : List Operation) :
    reachTransaction (ofOperations operations) = operations.any Operation.carriesData := by
  cases sends : operations.any Operation.carriesData with
  | true =>
      obtain ⟨part, rest, _, errands⟩ := ofOperations_of_sends sends
      rw [errands]
      exact fits_partMessage _ part rest
  | false => rw [ofOperations_of_idle sends, reachTransaction_pauses]

end Errand

theorem DataCall.reachTransaction_errands (call : DataCall) :
    Errand.reachTransaction call.errands = call.reachesBus := by
  unfold errands reachesBus
  cases call.operations? with
  | none => exact Errand.reachTransaction_messages _
  | some operations => exact Errand.reachTransaction_ofOperations operations

namespace Link

/-- Errands that come to no transaction add waits only. -/
theorem carryOut_idle {errands : List Errand} (idle : Errand.reachTransaction errands = false)
    (link : Link Recorder) :
    ∃ times : List UInt32,
      (link.carryOut errands).link.board.log = link.board.log ++ times.map waitEvent := by
  induction errands generalizing link with
  | nil => exact ⟨[], (List.append_nil _).symm⟩
  | cons errand rest ih =>
      cases errand with
      | pause ns =>
          obtain ⟨times, grown⟩ := ih idle (link.withBoard (Board.wait link.board ns))
          exact ⟨ns :: times, by rw [carryOut, grown]; simp [Recorder.record, waitEvent]⟩
      | message message =>
          have unsent := link.send_of_unfit idle
          have failed : (link.send message).failure = some .invalidArgument := by rw [unsent]
          rw [carryOut_message_of_failed failed, unsent]
          exact ⟨[], (List.append_nil _).symm⟩

/-- Errands that come to a transaction have only traffic before it. -/
theorem carryOut_reaches {errands : List Errand} (reaches : Errand.reachTransaction errands = true)
    (link : Link Recorder) :
    ∃ first request status last, (link.carryOut errands).link.board.log = link.board.log ++
        (first ++ ⟨.transaction link.device.controller request, status⟩ :: last) ∧
      ∀ event ∈ first, event.IsTraffic link.device.controller := by
  induction errands generalizing link with
  | nil => cases reaches
  | cons errand rest ih =>
      cases errand with
      | pause ns =>
          obtain ⟨first, request, status, last, grown, traffic⟩ :=
            ih reaches (link.withBoard (Board.wait link.board ns))
          refine ⟨waitEvent ns :: first, request, status, last, ?_, ?_⟩
          · rw [carryOut, grown]
            simp [Recorder.record, waitEvent]
          · intro event found
            rcases List.mem_cons.mp found with rfl | later
            · exact True.intro
            · exact traffic event later
      | message message =>
          obtain ⟨writes, written, timings⟩ := link.updateDelays_log message.delays
          obtain ⟨status, waits, sent, _⟩ := link.send_log reaches
          rw [written, List.append_assoc] at sent
          have traffic : ∀ event ∈ writes, event.IsTraffic link.device.controller := by
            intro event found
            obtain ⟨timing, rfl⟩ := timings event found
            rfl
          cases result : (link.send message).failure with
          | none =>
              obtain ⟨more, grown, _⟩ := (link.send message).link.carryOut_traffic rest
              rw [carryOut_message_of_sent result]
              refine ⟨writes, link.request message, some status, waits ++ more, ?_, traffic⟩
              rw [grown, sent]
              simp
          | some error =>
              rw [carryOut_message_of_failed result]
              exact ⟨writes, link.request message, some status, waits, sent, traffic⟩

/-- The device's chip select stands in the table although its controller is out of service, and the
call comes to a transaction. -/
def Stale (link : Link Recorder) (call : DataCall) : Prop :=
  call.reachesBus = true ∧
    link.bus.table.last.get link.device.controller = link.device.select ∧
      OutOfService link.device.controller link.board.log

theorem carryOut_served (link : Link Recorder) (errands : List Errand)
    (inService : InService link.device.controller link.board.log) :
    Served link.device.controller link.board.log (link.carryOut errands).link.board.log := by
  obtain ⟨events, grown, traffic⟩ := link.carryOut_traffic errands
  rw [grown]
  exact .of_traffic inService traffic

/-- Configuring again after errands only adds to what was served. -/
theorem served_of_call {link ready : Link Recorder} {errands : List Errand} {after : Link Recorder}
    (same : ready.device.controller = link.device.controller)
    (served : Served link.device.controller link.board.log
      (ready.carryOut errands).link.board.log)
    (ended : after = (ready.carryOut errands).link ∨
      ∃ error, (ready.carryOut errands).failure = some error ∧
        after = (ready.carryOut errands).link.configure.link) :
    Served link.device.controller link.board.log after.board.log := by
  rcases ended with rfl | ⟨_, _, rfl⟩
  · exact served
  · have again := (ready.carryOut errands).link.configure_served.1
    rw [(ready.carryOut_kept errands).controller, same] at again
    exact served.trans again

/-- A call that is not stale runs its transactions in service. -/
theorem call_served {link : Link Recorder} {call : DataCall} (fresh : ¬ link.Stale call)
    (known : InService link.device.controller link.board.log ∨
      OutOfService link.device.controller link.board.log) :
    Served link.device.controller link.board.log (link.call call).link.board.log := by
  rcases link.select_cases with ⟨entry, unchanged⟩ | ⟨_, configured⟩
  · rcases link.call_cases call with ⟨error, failed, _⟩ | ⟨_, ended⟩
    · rw [unchanged] at failed
      cases failed
    · rw [unchanged] at ended
      refine served_of_call rfl ?_ ended
      cases reaches : call.reachesBus with
      | true =>
          rcases known with inService | outOfService
          · exact link.carryOut_served _ inService
          · exact (fresh ⟨reaches, entry, outOfService⟩).elim
      | false =>
          have idle := call.reachTransaction_errands.trans reaches
          obtain ⟨times, grown⟩ := link.carryOut_idle idle
          rw [grown]
          exact .of_waits known times
  · obtain ⟨served, inService⟩ := link.configure_served
    rcases link.call_cases call with ⟨_, _, ended⟩ | ⟨accepted, ended⟩
    · rw [ended, configured]
      exact served
    · rw [configured] at accepted ended
      obtain ⟨board, result⟩ := configure_of_accepted accepted
      have same : link.configure.link.device.controller = link.device.controller := by
        rw [result]
        rfl
      have carried := link.configure.link.carryOut_served call.errands
        (by rw [same]; exact inService accepted)
      rw [same] at carried
      exact served_of_call same (served.trans carried) ended

/-- A stale call runs a transaction out of service. -/
theorem not_eachInService_of_stale {link : Link Recorder} {call : DataCall}
    (stale : link.Stale call) : ¬ EachInService (link.call call).link.board.log := by
  obtain ⟨reaches, entry, outOfService⟩ := stale
  have unchanged : link.select = ⟨link, (), none⟩ := by
    rcases link.select_cases with ⟨_, same⟩ | ⟨differ, _⟩
    · exact same
    · exact (differ entry).elim
  obtain ⟨first, request, status, last, grown, traffic⟩ :=
    link.carryOut_reaches (call.reachTransaction_errands.trans reaches)
  have early : ¬ EachInService (link.carryOut call.errands).link.board.log := by
    intro each
    have late := (outOfService.append fun event found => (traffic event found).not_setup)
    refine late.not_inService (each (link.board.log ++ first) last _ request status ?_)
    rw [grown, List.append_assoc]
  rcases link.call_cases call with ⟨error, failed, _⟩ | ⟨_, ended⟩
  · rw [unchanged] at failed
    cases failed
  · rw [unchanged] at ended
    rcases ended with ended | ⟨_, _, ended⟩
    · rw [ended]
      exact early
    · obtain ⟨events, regrown, _⟩ := (link.carryOut call.errands).link.configure_served.1.grown
      rw [ended, regrown]
      exact fun each => early each.of_append

end Link

namespace Session

/-- A data call on a device that is stale. -/
def Stale (session : Session Recorder) (command : Command) : Prop :=
  ∃ device call, command.action = .onDevice (.data call) ∧
    session.slots command.slot = some device ∧ Link.Stale ⟨session.bus, device⟩ call

/-- The controller of every live device is known to be in service or out of service. -/
def Accounted (session : Session Recorder) : Prop :=
  ∀ slot device, session.slots slot = some device →
    InService device.controller session.bus.board.log ∨
      OutOfService device.controller session.bus.board.log

/-- What concerned one controller keeps the account of a session whose other devices stayed. -/
theorem Accounted.of_served {before after : Session Recorder} {controller : Controller}
    (accounted : before.Accounted)
    (served : Served controller before.bus.board.log after.bus.board.log)
    (stayed : ∀ slot device, after.slots slot = some device →
      device.controller = controller ∨ before.slots slot = some device) :
    after.Accounted := by
  intro slot device live
  by_cases same : device.controller = controller
  · rw [same]
    exact served.known
  · rcases stayed slot device live with impossible | old
    · exact (same impossible).elim
    · exact served.known_other same (accounted slot device old)

theorem stayed_putLink (session : Session Recorder) (slot : Nat) (link : Link Recorder)
    (asked : Nat) (device : Device) (live : (session.putLink slot link).slots asked = some device) :
    device.controller = link.device.controller ∨ session.slots asked = some device := by
  by_cases same : asked = slot
  · rw [same, slots_putLink_same] at live
    exact Or.inl (by rw [Option.some.inj live])
  · rw [slots_putLink_other session same] at live
    exact Or.inr live

/-- A shutdown leaves its controller out of service. -/
theorem served_shutdown (controller : Controller) (log : List BoardEvent) :
    Served controller log (log ++ [⟨.shutdown controller, none⟩]) := by
  apply Served.of_quiet
  · intro event found other differ same
    rw [List.mem_singleton.mp found] at same
    exact differ (Option.some.inj same).symm
  · intro event found
    rw [List.mem_singleton.mp found]
    rfl
  · exact Or.inr ⟨log, [], rfl, by simp⟩

/-- What a part of a run does to the account and to the log. -/
structure Serves (before after : Session Recorder) : Prop where
  grown : ∃ events, after.bus.board.log = before.bus.board.log ++ events
  accounted : before.Accounted → after.Accounted
  each : EachInService before.bus.board.log → EachInService after.bus.board.log

namespace Serves

theorem of_unchanged {before after : Session Recorder}
    (log : after.bus.board.log = before.bus.board.log)
    (stayed : ∀ slot device, after.slots slot = some device →
      ∃ old, before.slots slot = some old ∧ old.controller = device.controller) :
    Serves before after := by
  refine ⟨⟨[], by rw [log, List.append_nil]⟩, ?_, ?_⟩
  · intro accounted slot device live
    obtain ⟨old, lived, same⟩ := stayed slot device live
    rw [log, ← same]
    exact accounted slot old lived
  · rw [log]
    exact id

theorem of_served {before after : Session Recorder} {controller : Controller}
    (served : Served controller before.bus.board.log after.bus.board.log)
    (stayed : ∀ slot device, after.slots slot = some device →
      device.controller = controller ∨ before.slots slot = some device) :
    Serves before after := by
  refine ⟨?_, fun accounted => accounted.of_served served stayed, served.each⟩
  obtain ⟨events, split, _⟩ := served.grown
  exact ⟨events, split⟩

theorem trans {first second third : Session Recorder} (left : Serves first second)
    (right : Serves second third) : Serves first third := by
  refine ⟨?_, fun accounted => right.accounted (left.accounted accounted),
    fun each => right.each (left.each each)⟩
  obtain ⟨old, split⟩ := left.grown
  obtain ⟨new, resplit⟩ := right.grown
  exact ⟨old ++ new, by rw [resplit, split, List.append_assoc]⟩

end Serves

theorem Move.serves {slot : Nat} {before after : Session Recorder} {deeds : List (Deed Recorder)}
    (move : Move slot before deeds after) : Serves before after := by
  cases move with
  | stay => exact .of_unchanged rfl fun _ device live => ⟨device, live, rfl⟩
  | @opened device unused accepted =>
      have served := (Link.configure_served ⟨before.bus, device⟩).1
      refine .of_served served fun asked live found => ?_
      rw [← Link.configure_controller ⟨before.bus, device⟩]
      exact stayed_putLink _ _ _ _ _ found
  | @refused device error failed =>
      have served := (Link.configure_served ⟨before.bus, device⟩).1
      exact .of_served served fun _ _ found => Or.inr found
  | @closed device live =>
      refine .of_served (served_shutdown device.controller _) fun asked other found => Or.inr ?_
      by_cases same : asked = slot
      · simp [closeSlot, setSlot, same] at found
      · simpa [closeSlot, setSlot, same] using found
  | @retargeted device live select =>
      refine .of_unchanged rfl fun asked other found => ?_
      by_cases same : asked = slot
      · rw [same, slots_putLink_same] at found
        refine ⟨device, same ▸ live, ?_⟩
        rw [← Option.some.inj found]
        rfl
      · rw [slots_putLink_other _ same] at found
        exact ⟨other, found, rfl⟩

/-- No call moves a device to another controller. -/
theorem call_controller (link : Link Recorder) (call : DataCall) :
    (link.call call).link.device.controller = link.device.controller := by
  have carried := (link.select.link.carryOut_kept call.errands).controller.trans
    link.select_controller
  rcases link.call_cases call with ⟨_, _, ended⟩ | ⟨_, ended | ⟨_, _, ended⟩⟩
  · rw [ended, link.select_controller]
  · rw [ended, carried]
  · rw [ended, Link.configure_controller, carried]

/-- Every call only adds to the log. -/
theorem call_grown (link : Link Recorder) (call : DataCall) :
    ∃ events, (link.call call).link.board.log = link.board.log ++ events := by
  obtain ⟨first, grown, _⟩ := link.select_quiet
  obtain ⟨second, regrown, _⟩ := link.select.link.carryOut_traffic call.errands
  rcases link.call_cases call with ⟨_, _, ended⟩ | ⟨_, ended | ⟨_, _, ended⟩⟩
  · exact ⟨first, by rw [ended, grown]⟩
  · exact ⟨first ++ second, by rw [ended, regrown, grown, List.append_assoc]⟩
  · obtain ⟨third, again, _⟩ := (link.select.link.carryOut call.errands).link.configure_quiet
    exact ⟨first ++ (second ++ third), by
      rw [ended, again, regrown, grown, List.append_assoc, List.append_assoc]⟩

theorem adjusted_serves (session : Session Recorder) (settings : BenchSettings) :
    Serves session (session.adjusted settings) :=
  .of_unchanged rfl fun _ device live => ⟨device, live, rfl⟩

theorem step_grown (session : Session Recorder) (command : Command) :
    ∃ events, (session.step command).bus.board.log = session.bus.board.log ++ events := by
  rcases session.step_cases command with
    ⟨device, call, _, _, same, _⟩ | ⟨settings, _, same, _⟩ | ⟨_, first, second⟩
  · rw [same]
    exact call_grown ⟨session.bus, device⟩ call
  · rw [same]
    exact (session.adjusted_serves settings).grown
  · exact (first.serves.trans second.serves).grown

theorem run_grown (commands : List Command) (session : Session Recorder) :
    ∃ events, (session.run commands).bus.board.log = session.bus.board.log ++ events := by
  induction commands generalizing session with
  | nil => exact ⟨[], (List.append_nil _).symm⟩
  | cons command rest ih =>
      obtain ⟨first, grown⟩ := session.step_grown command
      obtain ⟨second, regrown⟩ := ih (session.step command)
      exact ⟨first ++ second, by rw [run_cons, regrown, grown, List.append_assoc]⟩

/-- A command that is no stale call keeps the account, and adds no transaction out of service. -/
theorem step_serves {session : Session Recorder} {command : Command}
    (accounted : session.Accounted) (fresh : ¬ session.Stale command) :
    Serves session (session.step command) := by
  rcases session.step_cases command with
    ⟨device, call, asked, live, same, _⟩ | ⟨settings, _, same, _⟩ | ⟨_, first, second⟩
  · have served : Served device.controller session.bus.board.log
        (Link.call ⟨session.bus, device⟩ call).link.board.log :=
      Link.call_served (fun stale => fresh ⟨device, call, asked, live, stale⟩)
        (accounted command.slot device live)
    rw [same]
    refine .of_served served fun slot other found => ?_
    rw [← call_controller ⟨session.bus, device⟩ call]
    exact stayed_putLink _ _ _ _ _ found
  · rw [same]
    exact session.adjusted_serves settings
  · exact first.serves.trans second.serves

/-- A stale call is a transaction out of service. -/
theorem not_eachInService_of_stale {session : Session Recorder} {command : Command}
    (stale : session.Stale command) :
    ¬ EachInService (session.step command).bus.board.log := by
  obtain ⟨device, call, asked, live, staleCall⟩ := stale
  have same : session.step command =
      session.putLink command.slot (Link.call ⟨session.bus, device⟩ call).link := by
    obtain ⟨slot, action⟩ := command
    cases asked
    simp only [step, perform, live]
    rfl
  rw [same]
  exact Link.not_eachInService_of_stale staleCall

theorem eachInService_of_fresh (commands : List Command) (board : Recorder)
    (fresh : ∀ earlier command later, commands = earlier ++ command :: later →
      ¬ ((initial board.cleared).run earlier).Stale command) :
    EachInService ((initial board.cleared).run commands).bus.board.log ∧
      ((initial board.cleared).run commands).Accounted := by
  induction commands using List.reverseRecOn with
  | nil => exact ⟨eachInService_nil, fun slot device live => by cases live⟩
  | append_singleton commands command ih =>
      obtain ⟨each, accounted⟩ := ih fun earlier other later split =>
        fresh earlier other (later ++ [command]) (by rw [split]; simp)
      have serves := step_serves accounted (fresh commands command [] rfl)
      rw [run_concat]
      exact ⟨serves.each each, serves.accounted accounted⟩

/-- The transactions of a run are all made in service exactly if no call of it is stale. -/
theorem eachInService_run_iff (board : Recorder) (commands : List Command) :
    EachInService ((initial board.cleared).run commands).bus.board.log ↔
      ∀ earlier command later, commands = earlier ++ command :: later →
        ¬ ((initial board.cleared).run earlier).Stale command := by
  constructor
  · intro each earlier command later split stale
    obtain ⟨events, grown⟩ :=
      run_grown later (((initial board.cleared).run earlier).step command)
    rw [split, run_append, run_cons, grown] at each
    exact not_eachInService_of_stale stale each.of_append
  · intro fresh
    exact (eachInService_of_fresh commands board fresh).1

/-- A second device whose configuration fails leaves the controller shut down under the first one,
which then sends without configuring it. -/
theorem transaction_out_of_service :
    let refusal : BenchSettings :=
      { clocks := [], timing := [], stream := none,
        statuses := fun kind => if kind = .init then [-1] else [] }
    let commands : List Command :=
      [⟨0, .openDevice (sampleRequest 1)⟩, ⟨0, .adjust refusal⟩, ⟨1, .openDevice (sampleRequest 2)⟩,
        ⟨0, .onDevice (.data (.roundTrip [1]))⟩]
    ∃ earlier later request status,
      ((initial Recorder.initial.cleared).run commands).bus.board.log =
          earlier ++ ⟨.transaction .spi0 request, status⟩ :: later ∧
        ¬ InService .spi0 earlier := by
  intro refusal commands
  let log := ((initial Recorder.initial.cleared).run commands).bus.board.log
  have shutdown : log.take 7 = log.take 6 ++ [⟨.shutdown .spi0, none⟩] := by decide
  refine ⟨log.take 7, log.drop 8, ⟨1, true, .inPlace [1], 1⟩, some 0, by decide, ?_⟩
  exact OutOfService.not_inService ⟨log.take 6, [], shutdown, by simp⟩

end Session

end SharedSpi

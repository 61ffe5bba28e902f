import SharedSpi.Proofs.Turns

/-!
# Removals

Removing a device shuts its controller down and leaves the select table alone.
The table then still holds the chip select of the device that had the last turn.
If this was the removed device, every other device of the controller is
configured again by its next call. If it was another device, the next call of
that device goes to a controller that is shut down.
-/

namespace SharedSpi

/-- Events without a shutdown. -/
def Unbroken (events : List BoardEvent) : Prop :=
  ∀ event ∈ events, ∀ controller, event.call ≠ .shutdown controller

theorem Unbroken.append {first second : List BoardEvent} (left : Unbroken first)
    (right : Unbroken second) : Unbroken (first ++ second) :=
  List.forall_mem_append.mpr ⟨left, right⟩

theorem Unbroken.of_traffic {controller : Controller} {events : List BoardEvent}
    (traffic : ∀ event ∈ events, event.IsTraffic controller) : Unbroken events := by
  intro event found asked shutdown
  have busy := traffic event found
  rw [BoardEvent.IsTraffic, shutdown] at busy
  exact busy

/-- If every configuring call succeeds, devices shut no controller down while they are in use. -/
theorem Link.Course.unbroken {before after : Link Recorder} {deeds : List (Deed Recorder)}
    (course : Course before deeds after)
    (succeeded : ∀ event ∈ after.board.log, event.Succeeded) :
    ∃ events, after.board.log = before.board.log ++ events ∧ Unbroken events := by
  have configuring (link : Link Recorder)
      (succeeded : ∀ event ∈ link.configure.link.board.log, event.Succeeded) :
      ∃ events, link.configure.link.board.log = link.board.log ++ events ∧ Unbroken events := by
    refine ⟨_, (configure_of_succeeded succeeded).2, ?_⟩
    simp [Unbroken, fullConfiguration]
  induction course with
  | stay link => exact ⟨[], (List.append_nil _).symm, by simp [Unbroken]⟩
  | @configured link accepted => exact configuring link succeeded
  | @refused link error failed => exact configuring link succeeded
  | waited link ns => exact ⟨[waitEvent ns], rfl, by simp [Unbroken, waitEvent]⟩
  | @sent link message fits =>
      obtain ⟨events, grown, traffic⟩ := link.send_traffic message
      exact ⟨events, grown, .of_traffic traffic⟩
  | append left right first second =>
      obtain ⟨new, regrown, calm⟩ := second succeeded
      obtain ⟨old, grown, alsoCalm⟩ :=
        first (forall_mem_of_grown regrown succeeded)
      exact ⟨old ++ new, by rw [regrown, grown, List.append_assoc], alsoCalm.append calm⟩

namespace Session

/-- A command gives a live device up. -/
def Removes (session : Session Recorder) (command : Command) (removed : Device) : Prop :=
  session.slots command.slot = some removed ∧
    (command.action = .onDevice .close ∨
      ∃ request, command.action = .onDevice (.reopen request))

theorem openInto_unbroken (session : Session Recorder) (slot : Nat) (request : OpenRequest)
    (succeeded : ∀ event ∈ (session.openInto slot request).session.bus.board.log,
      event.Succeeded) :
    ∃ events, (session.openInto slot request).session.bus.board.log =
      session.bus.board.log ++ events ∧ Unbroken events := by
  unfold openInto at succeeded ⊢
  rcases openRequested_cases session.bus request with
    ⟨_, same⟩ | ⟨device, _, ⟨accepted, same⟩ | ⟨_, failed, same⟩⟩
  · rw [same]
    exact ⟨[], (List.append_nil _).symm, by simp [Unbroken]⟩
  · rw [same] at succeeded ⊢
    exact (Link.Course.configured accepted).unbroken succeeded
  · rw [same] at succeeded ⊢
    exact (Link.Course.refused failed).unbroken succeeded

/-- If every configuring call succeeds, a command adds no shutdown, or removes a device and adds the
shutdown of its controller first. -/
theorem step_unbroken (session : Session Recorder) (command : Command)
    (succeeded : ∀ event ∈ (session.step command).bus.board.log, event.Succeeded) :
    (∃ events, (session.step command).bus.board.log = session.bus.board.log ++ events ∧
        Unbroken events) ∨
      ∃ removed events, session.Removes command removed ∧
        (session.step command).bus.board.log =
          session.bus.board.log ++ ⟨.shutdown removed.controller, none⟩ :: events ∧
        Unbroken events := by
  have still {after : Session Recorder} (same : after.bus.board.log = session.bus.board.log) :
      ∃ events, after.bus.board.log = session.bus.board.log ++ events ∧ Unbroken events :=
    ⟨[], by rw [same, List.append_nil], by simp [Unbroken]⟩
  obtain ⟨slot, action⟩ := command
  cases action with
  | adjust settings => exact Or.inl (still rfl)
  | lookUp controller select => exact Or.inl (still rfl)
  | openDevice request => exact Or.inl (openInto_unbroken session slot request succeeded)
  | onDevice action =>
      cases live : session.slots slot with
      | none => exact Or.inl (still (by simp only [step, perform, live, answering]))
      | some device =>
          cases action with
          | reopen request =>
              simp only [step, perform, live] at succeeded ⊢
              obtain ⟨events, grown, calm⟩ :=
                openInto_unbroken (session.closeSlot slot device) slot request succeeded
              refine Or.inr ⟨device, events, ⟨live, Or.inr ⟨request, rfl⟩⟩, ?_, calm⟩
              refine Eq.trans grown ?_
              simp [closeSlot, Link.close, Recorder.record, Link.board]
          | close =>
              refine Or.inr ⟨device, [], ⟨live, Or.inl rfl⟩, ?_, by simp [Unbroken]⟩
              simp only [step, perform, live]
              rfl
          | setSelect select => exact Or.inl (still (by simp only [step, perform, live]; rfl))
          | describe => exact Or.inl (still (by simp only [step, perform, live]; rfl))
          | data call =>
              rw [step_of_data rfl live] at succeeded ⊢
              exact Or.inl (((session.link device).call_course call).unbroken succeeded)

variable {start : Session Recorder} {commands : List Command} {time : Nat}

/-- If every configuring call succeeds, every shutdown in the log of a run is the removal of a
device. -/
theorem removal_of_shutdown (empty : start.bus.board.log = [])
    (succeeded : ∀ event ∈ (start.run commands).bus.board.log, event.Succeeded)
    (within : time ≤ commands.length) {before after : List BoardEvent} {controller : Controller}
    (split : (start.after commands time).bus.board.log =
      before ++ ⟨.shutdown controller, none⟩ :: after) :
    ∃ removal command removed, removal < time ∧ commands[removal]? = some command ∧
      (start.after commands removal).Removes command removed ∧
        removed.controller = controller ∧
          (start.after commands removal).bus.board.log = before := by
  induction time generalizing after with
  | zero =>
      have none : before ++ ⟨.shutdown controller, none⟩ :: after = [] := split.symm.trans empty
      cases before <;> cases none
  | succ time ih =>
      obtain ⟨command, next⟩ : ∃ command, commands[time]? = some command :=
        ⟨_, List.getElem?_eq_getElem within⟩
      have cleanly := succeeded_after succeeded (time + 1)
      rw [start.after_succ next] at cleanly split
      have absent {events first : List BoardEvent} (calm : Unbroken events)
          (split : events = first ++ ⟨.shutdown controller, none⟩ :: after) : False :=
        calm ⟨.shutdown controller, none⟩ (by rw [split]; simp) controller rfl
      by_cases late : (start.after commands time).bus.board.log.length ≤ before.length
      · rcases (start.after commands time).step_unbroken command cleanly with
          ⟨events, grown, calm⟩ | ⟨removed, events, removes, grown, calm⟩
        · rw [grown] at split
          obtain ⟨first, _, listed⟩ := split_of_late split late
          exact (absent calm listed).elim
        · rw [grown] at split
          obtain ⟨first, same, listed⟩ := split_of_late split late
          cases first with
          | nil =>
              obtain ⟨shutdown, _⟩ := List.cons.inj listed
              cases shutdown
              exact ⟨time, command, removed, Nat.lt_succ_self time, next, removes, rfl,
                by rw [same, List.append_nil]⟩
          | cons head first => exact (absent calm (List.cons.inj listed).2).elim
      · obtain ⟨events, grown⟩ := (start.after commands time).step_grown command
        rw [grown] at split
        obtain ⟨later, old⟩ := split_of_early split (Nat.lt_of_not_le late)
        obtain ⟨removal, remover, removed, before, rest⟩ := ih (Nat.le_of_succ_le within) old
        exact ⟨removal, remover, removed, Nat.lt_succ_of_lt before, rest⟩

/-- After the removal of a device, and before its controller is set up again, a data call that comes to
a transaction is made on a device of this controller. -/
structure CalledAfterRemoval (start : Session Recorder) (commands : List Command)
    (removal time slot : Nat) (removed device : Device) : Prop where
  earlier : removal < time
  removes : ∃ command, commands[removal]? = some command ∧
    (start.after commands removal).Removes command removed
  shared : removed.controller = device.controller
  calls : ∃ call, commands[time]? = some ⟨slot, .onDevice (.data call)⟩ ∧ call.reachesBus = true
  live : (start.after commands time).slots slot = some device
  untouched : ∃ events, (start.after commands time).bus.board.log =
      (start.after commands removal).bus.board.log ++
        ⟨.shutdown device.controller, none⟩ :: events ∧
    ∀ event ∈ events, ∀ call, event.call ≠ .setup device.controller call

/-- The device of a slot had the last turn at a controller before a time. -/
def LastTurn (start : Session Recorder) (commands : List Command) (time slot : Nat)
    (controller : Controller) : Prop :=
  ∃ turn device, turn < time ∧ start.Drives commands slot turn device ∧
    device.controller = controller ∧
    ∀ later other rival, turn < later → later < time → start.Drives commands other later rival →
      rival.controller ≠ controller

/-- Only one slot had the last turn. -/
theorem LastTurn.unique {slot other : Nat} {controller : Controller}
    (one : start.LastTurn commands time slot controller)
    (two : start.LastTurn commands time other controller) : slot = other := by
  obtain ⟨turn, device, early, drives, same, last⟩ := one
  obtain ⟨again, rival, alsoEarly, alsoDrives, alsoSame, alsoLast⟩ := two
  rcases Nat.lt_trichotomy turn again with before | rfl | after
  · exact (last again other rival before alsoEarly alsoDrives alsoSame).elim
  · obtain ⟨command, next, rfl, _⟩ := drives
    obtain ⟨asked, found, rfl, _⟩ := alsoDrives
    cases next.symm.trans found
    rfl
  · exact (alsoLast turn slot device after early drives same).elim

theorem Attended.lastTurn {slot turn : Nat} {device mine : Device}
    (attended : start.Attended commands time slot device turn mine) :
    start.LastTurn commands time slot device.controller :=
  ⟨turn, mine, attended.early, attended.drives, attended.continues.controller.symm, attended.last⟩

/-- A call on a device whose chip select stands in the table while its controller is shut down is
stale. -/
theorem CalledAfterRemoval.stale {removal slot : Nat} {removed device : Device}
    (called : start.CalledAfterRemoval commands removal time slot removed device)
    (entry : (start.after commands time).bus.table.last.get device.controller = device.select) :
    ∃ command, commands[time]? = some command ∧ (start.after commands time).Stale command := by
  obtain ⟨call, next, reaches⟩ := called.calls
  obtain ⟨events, log, untouched⟩ := called.untouched
  exact ⟨_, next, device, call, rfl, called.live, reaches, entry, _, events, log, untouched⟩

/-- If every configuring call succeeds, a stale call comes after a removal. -/
theorem calledAfterRemoval_of_stale (empty : start.bus.board.log = [])
    (succeeded : ∀ event ∈ (start.run commands).bus.board.log, event.Succeeded)
    {command : Command} (next : commands[time]? = some command)
    (stale : (start.after commands time).Stale command) :
    ∃ removal removed device,
      start.CalledAfterRemoval commands removal time command.slot removed device ∧
        (start.after commands time).bus.table.last.get device.controller = device.select := by
  obtain ⟨device, call, asked, live, reaches, entry, before, after, split, untouched⟩ := stale
  obtain ⟨within, _⟩ := List.getElem?_eq_some_iff.mp next
  obtain ⟨removal, remover, removed, early, found, removes, shared, log⟩ :=
    removal_of_shutdown empty succeeded (Nat.le_of_lt within) split
  obtain ⟨slot, action⟩ := command
  cases asked
  exact ⟨removal, removed, device, ⟨early, ⟨remover, found, removes⟩, shared, ⟨call, next, reaches⟩,
    live, after, by rw [log]; exact split, untouched⟩, entry⟩

/-- If every configuring call succeeds, a data call on a device whose chip select does not stand in the
table starts with a configuration for this device. -/
theorem configures_first {command : Command} {device : Device} {call : DataCall}
    (next : commands[time]? = some command)
    (succeeded : ∀ event ∈ (start.run commands).bus.board.log, event.Succeeded)
    (asked : command.action = .onDevice (.data call))
    (live : (start.after commands time).slots command.slot = some device)
    (differ : (start.after commands time).bus.table.last.get device.controller ≠ device.select) :
    ∃ timing later, (start.after commands (time + 1)).bus.board.log =
      (start.after commands time).bus.board.log ++
        (fullConfiguration device.controller device.config device.mode.hardware timing ++
          later) := by
  let link := (start.after commands time).link device
  have same : link.select = link.configure := by
    rcases link.select_cases with ⟨entry, _⟩ | ⟨_, same⟩
    · exact (differ entry).elim
    · exact same
  obtain ⟨later, grown⟩ : ∃ later,
      (link.call call).link.board.log = link.configure.link.board.log ++ later := by
    rw [← same]
    rcases link.callDeeds_cases call with ⟨_, _, ended, _⟩ | ⟨_, _, _, course⟩
    · exact ⟨[], by rw [ended, List.append_nil]⟩
    · obtain ⟨later, grown, _⟩ := course.concern
      exact ⟨later, grown⟩
  have log : (start.after commands (time + 1)).bus.board.log = (link.call call).link.board.log := by
    rw [start.after_succ next, step_of_data asked live]
    rfl
  have cleanly : ∀ event ∈ link.configure.link.board.log, event.Succeeded :=
    forall_mem_of_grown (log.trans grown) (succeeded_after succeeded (time + 1))
  refine ⟨(link.board.timing.get device.controller).shortest, later, ?_⟩
  rw [log, grown, (Link.configure_of_succeeded cleanly).2, List.append_assoc]
  rfl

/-- If every configuring call succeeds, the transactions of a run are all made in service exactly if
after every removal the next call at the controller is made on a device whose chip select does not
stand in the table. As long as devices that are live together never drive one chip select, this is so
for every device that did not have the last turn: its call starts with a configuration. -/
theorem service_after_removals (board : Recorder) (commands : List Command)
    (succeeded : ∀ event ∈ ((initial board.cleared).run commands).bus.board.log,
      event.Succeeded) :
    let start := initial board.cleared
    (EachInService (start.run commands).bus.board.log ↔
        ∀ removal time slot removed device,
          start.CalledAfterRemoval commands removal time slot removed device →
            (start.after commands time).bus.table.last.get device.controller ≠ device.select) ∧
      (start.SelectsApart commands → ∀ removal time slot removed device,
        start.CalledAfterRemoval commands removal time slot removed device →
          ∀ other, other ≠ slot → start.LastTurn commands time other device.controller →
            ∃ timing later, (start.after commands (time + 1)).bus.board.log =
              (start.after commands time).bus.board.log ++
                (fullConfiguration device.controller device.config device.mode.hardware timing ++
                  later)) := by
  intro start
  constructor
  · constructor
    · intro each removal time slot removed device called entry
      obtain ⟨command, next, stale⟩ := called.stale entry
      obtain ⟨events, grown⟩ := start.run_after commands (time + 1)
      rw [grown, start.after_succ next] at each
      exact not_eachInService_of_stale stale each.of_append
    · intro fresh
      refine (eachInService_of_fresh commands board fun earlier command later split stale => ?_).1
      have next : commands[earlier.length]? = some command := by simp [split]
      have now : start.after commands earlier.length = start.run earlier := by simp [after, split]
      obtain ⟨removal, removed, device, called, entry⟩ :=
        calledAfterRemoval_of_stale rfl succeeded next (by rw [now]; exact stale)
      exact fresh removal earlier.length command.slot removed device called entry
  · intro apart removal time slot removed device called other differ last
    obtain ⟨call, next, _⟩ := called.calls
    obtain ⟨within, _⟩ := List.getElem?_eq_some_iff.mp next
    refine configures_first next succeeded rfl called.live fun entry => ?_
    rcases attended_or_rivalled (fun _ => rfl) succeeded apart time (Nat.le_of_lt within) slot device
      called.live with ⟨turn, mine, attended⟩ | rivalled
    · exact differ (last.unique attended.lastTurn)
    · exact not_rivalled apart next rfl called.live entry rivalled

/-- Two devices, of which the one that was opened last is removed: the other is configured again before
it sends. -/
theorem service_after_last_removed :
    let commands : List Command :=
      [⟨0, .openDevice (sampleRequest 1)⟩, ⟨1, .openDevice (sampleRequest 2)⟩, ⟨1, .onDevice .close⟩,
        ⟨0, .onDevice (.data (.roundTrip [1]))⟩]
    let start := initial Recorder.initial.cleared
    ∃ removed device,
      ((∀ event ∈ (start.run commands).bus.board.log, event.Succeeded) ∧
          start.SelectsApart commands ∧
            start.CalledAfterRemoval commands 2 3 0 removed device ∧
              start.LastTurn commands 3 1 device.controller) ∧
        ∃ timing later, (start.after commands 4).bus.board.log =
          (start.after commands 3).bus.board.log ++
            (fullConfiguration device.controller device.config device.mode.hardware timing ++
              later) := by
  intro commands
  dsimp only
  let device (select : UInt8) : Device :=
    { controller := .spi0, speed := 1000000, select := select, mode := .mode0, order := .msbFirst,
      platform := { slaves := 1, polarity := 0, supply := .vddio }, delays := .zero }
  have succeeded : ∀ event ∈ ((initial Recorder.initial.cleared).run commands).bus.board.log,
      event.Succeeded := by decide +kernel
  have apart : (initial Recorder.initial.cleared).SelectsApart commands := by
    refine selectsApart_of_slots 2 (fun slot => if slot = 0 then 1 else 2) ?_ ?_ ?_
    · decide
    · decide +kernel
    · decide
  have removes : ((initial Recorder.initial.cleared).after commands 2).Removes
      ⟨1, .onDevice .close⟩ (device 2) := ⟨by decide +kernel, Or.inl rfl⟩
  have called : (initial Recorder.initial.cleared).CalledAfterRemoval commands 2 3 0 (device 2)
      (device 1) := by
    refine ⟨by decide, ⟨_, rfl, removes⟩, rfl, ⟨_, rfl, by decide⟩, by decide +kernel, [], ?_, ?_⟩
    · decide +kernel
    · simp
  have last : (initial Recorder.initial.cleared).LastTurn commands 3 1 .spi0 := by
    have opened : ((initial Recorder.initial.cleared).after commands 2).slots 1 =
        some (device 2) := by decide +kernel
    have accepted : (((initial Recorder.initial.cleared).after commands 1).bus.openRequested
        (sampleRequest 2)).device = .ok (device 2) := by decide +kernel
    refine ⟨1, device 2, by decide, ⟨_, rfl, rfl, Or.inl ⟨_, accepted⟩, opened⟩, rfl, ?_⟩
    rintro later other rival after before ⟨command, next, rfl, _, live⟩
    have now : later = 2 := by omega
    subst now
    cases next
    have emptied : ((initial Recorder.initial.cleared).after commands 3).slots 1 = none := by
      decide +kernel
    cases emptied.symm.trans live
  exact ⟨device 2, device 1, ⟨succeeded, apart, called, last⟩,
    (service_after_removals Recorder.initial commands succeeded).2 apart 2 3 0 _ _ called 1
      (by decide) last⟩

/-- Two devices, of which the one that was opened first is removed: the other sends to a controller
that is shut down. -/
theorem out_of_service_after_removal :
    let commands : List Command :=
      [⟨0, .openDevice (sampleRequest 1)⟩, ⟨1, .openDevice (sampleRequest 2)⟩, ⟨0, .onDevice .close⟩,
        ⟨1, .onDevice (.data (.roundTrip [1]))⟩]
    let start := initial Recorder.initial.cleared
    (∀ event ∈ (start.run commands).bus.board.log, event.status = none ∨ event.status = some 0) ∧
      start.SelectsApart commands ∧
        ¬ EachInService (start.run commands).bus.board.log := by
  intro commands start
  let log := (start.run commands).bus.board.log
  refine ⟨by decide +kernel, ?_, fun each => ?_⟩
  · refine selectsApart_of_slots 2 (fun slot => if slot = 0 then 1 else 2) ?_ ?_ ?_
    · decide
    · decide +kernel
    · decide
  · have shutdown : log.take 11 = log.take 10 ++ [⟨.shutdown .spi0, none⟩] := by decide +kernel
    have outOfService : OutOfService .spi0 (log.take 11) := ⟨log.take 10, [], shutdown, by simp⟩
    refine outOfService.not_inService (each (log.take 11) (log.drop 12) .spi0
      ⟨2, true, .inPlace [1], 1⟩ (some 0) ?_)
    decide +kernel

end Session

end SharedSpi

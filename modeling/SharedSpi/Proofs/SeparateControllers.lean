import SharedSpi.Proofs.OwnController
import SharedSpi.Proofs.SharedControllers
import SharedSpi.Proofs.StaleDevices

/-!
# Controllers are separate

Devices on one controller do not interfere with those on the other, as long as
every call on the board succeeds. Leave out of a run all that is done with the
devices of one controller: every other command is answered as before, makes the
same calls on the board in the same order, and leaves the same in the timing
register, in the select table and in the delays that devices remember. The
received stream is one and the same for both controllers, so only the values of
received bytes may be others.
-/

namespace SharedSpi

/-- Whether a command remains if all that is done with devices of other controllers is left out. Slots
belong to controllers. -/
def Command.remains (owner : Nat → Controller) (controller : Controller) (command : Command) : Bool :=
  match command.action with
  | .adjust _ => true
  | .lookUp _ _ => true
  | .openDevice _ => owner command.slot == controller
  | .onDevice _ => owner command.slot == controller

/-- Devices are opened on the controllers that their slots belong to. -/
def Command.Owned (owner : Nat → Controller) (command : Command) : Prop :=
  match command.action with
  | .openDevice request =>
      ∀ asked, Controller.ofIndex? request.controller = some asked → asked = owner command.slot
  | .onDevice (.reopen request) =>
      ∀ asked, Controller.ofIndex? request.controller = some asked → asked = owner command.slot
  | _ => True

/-- The answer to a command does not tell of another controller. -/
def Command.Concerns (controller : Controller) (command : Command) : Prop :=
  match command.action with
  | .lookUp index _ => ∀ asked, Controller.ofIndex? index = some asked → asked = controller
  | _ => True

/-- What a command received in one run and in another: receive buffers of which at most the values of
received bytes differ. -/
def Received.Resemble (command : Command) (one other : Received) : Prop :=
  other = one ∨ ∃ call first second, command.action = .onDevice (.data call) ∧
    first.messages = Errand.messages call.errands ∧ Dialogue.Resembles first second ∧
      one = call.received first.buffers ∧ other = call.received second.buffers

/-- What two reports on a command tell of a controller: the same, but for the values of received bytes. -/
structure Report.Matches (owner : Nat → Controller) (controller : Controller) (command : Command)
    (shared alone : Report BoardEvent) : Prop where
  answer : command.Concerns controller → alone.answer = shared.answer
  received : Received.Resemble command shared.received alone.received
  events : alone.events = shared.events
  timing : alone.timing.get controller = shared.timing.get controller
  entry : alone.table.last.get controller = shared.table.last.get controller
  delays : owner command.slot = controller → alone.delays = shared.delays

theorem Recorder.SameFor.adjust {controller : Controller} {shared alone : Recorder}
    (same : SameFor controller shared alone) (settings : BenchSettings) :
    SameFor controller (shared.adjust settings) (alone.adjust settings) := by
  refine ⟨?_, Bank.get_overwrite same.timing _, same.lags.adjust settings⟩
  simp only [Recorder.adjust, same.clocks]

namespace Session

/-- Every live device is on the controller that its slot belongs to. -/
def EachOwned (owner : Nat → Controller) (session : Session Recorder) : Prop :=
  ∀ slot device, session.slots slot = some device → device.controller = owner slot

/-- Two sessions in which devices of a controller find the same, with the same events since their logs
were `first` and `second`. -/
structure InStep (owner : Nat → Controller) (controller : Controller) (first second : List BoardEvent)
    (shared alone : Session Recorder) : Prop where
  board : Recorder.InStep controller first second shared.bus.board alone.bus.board
  entry : alone.bus.table.last.get controller = shared.bus.table.last.get controller
  slots : ∀ slot, owner slot = controller → alone.slots slot = shared.slots slot
  owned : shared.EachOwned owner

/-- What is left alone by commands on devices of other controllers. -/
structure Spares (owner : Nat → Controller) (controller : Controller)
    (before after : Session Recorder) : Prop where
  board : Recorder.SameFor controller after.bus.board before.bus.board
  entry : before.bus.table.last.get controller = after.bus.table.last.get controller
  slots : ∀ slot, owner slot = controller → before.slots slot = after.slots slot
  owned : before.EachOwned owner → after.EachOwned owner

variable {owner : Nat → Controller} {controller : Controller} {first second : List BoardEvent}
  {shared alone before after : Session Recorder} {slot : Nat}

theorem EachOwned.putLink (owned : before.EachOwned owner) {changed : Link Recorder}
    (own : changed.device.controller = owner slot) : (before.putLink slot changed).EachOwned owner := by
  intro asked device live
  by_cases same : asked = slot
  · rw [same, slots_putLink_same] at live
    rw [same, ← Option.some.inj live, own]
  · rw [slots_putLink_other _ same] at live
    exact owned asked device live

theorem EachOwned.closeSlot (owned : before.EachOwned owner) (device : Device) :
    (before.closeSlot slot device).EachOwned owner := by
  intro asked kept live
  by_cases same : asked = slot
  · rw [same, slots_closeSlot_same] at live
    cases live
  · rw [slots_closeSlot_other _ same] at live
    exact owned asked kept live

namespace Spares

theorem refl (session : Session Recorder) : Spares owner controller session session :=
  ⟨⟨rfl, rfl, .refl _⟩, rfl, fun _ _ => rfl, id⟩

theorem trans {middle : Session Recorder} (left : Spares owner controller before middle)
    (right : Spares owner controller middle after) : Spares owner controller before after where
  board := {
    clocks := left.board.clocks.trans right.board.clocks
    timing := left.board.timing.trans right.board.timing
    lags := left.board.lags.trans right.board.lags }
  entry := left.entry.trans right.entry
  slots slot own := (left.slots slot own).trans (right.slots slot own)
  owned := right.owned ∘ left.owned

/-- What a device does on its own controller spares the other one. -/
theorem board_of_course {device : Device} {deeds : List (Deed Recorder)} {changed : Link Recorder}
    (course : Link.Course (before.link device) deeds changed)
    (other : controller ≠ device.controller)
    (well : ∀ event ∈ changed.board.log, event.EndedWell) :
    Recorder.SameFor controller changed.board before.bus.board ∧
      before.bus.table.last.get controller = changed.bus.table.last.get controller :=
  ⟨⟨course.confined.clocks.symm, (course.confined.timing controller other).symm, course.lags well⟩,
    (course.confined.table controller other).symm⟩

theorem putLink {device : Device} {deeds : List (Deed Recorder)} {changed : Link Recorder}
    (course : Link.Course (before.link device) deeds changed)
    (own : device.controller = owner slot) (other : owner slot ≠ controller)
    (well : ∀ event ∈ changed.board.log, event.EndedWell) :
    Spares owner controller before (before.putLink slot changed) := by
  obtain ⟨board, entry⟩ := board_of_course course (own ▸ other.symm) well
  refine ⟨board, entry, fun asked mine => ?_, fun owned => ?_⟩
  · rw [slots_putLink_other]
    rintro rfl
    exact other mine
  · exact owned.putLink (course.confined.controller.trans own)

theorem openInto {request : OpenRequest}
    (owned : ∀ asked, Controller.ofIndex? request.controller = some asked → asked = owner slot)
    (other : owner slot ≠ controller)
    (well : ∀ event ∈ (before.openInto slot request).session.bus.board.log, event.EndedWell) :
    Spares owner controller before (before.openInto slot request).session := by
  cases described : request.device? with
  | none =>
      rw [openInto_of_undescribed described]
      exact .refl before
  | some device =>
      have own := owned _ (OpenRequest.controller_of_device? described)
      have course := (before.link device).configure_course
      cases result : (before.link device).configure.failure with
      | none =>
          rw [openInto_of_accepted described result] at well ⊢
          exact putLink course own other well
      | some error =>
          rw [openInto_of_refused described result] at well ⊢
          obtain ⟨board, entry⟩ := board_of_course course (own ▸ other.symm) well
          exact ⟨board, entry, fun _ _ => rfl, id⟩

theorem closeSlot (device : Device) (other : owner slot ≠ controller) :
    Spares owner controller before (before.closeSlot slot device) := by
  refine ⟨⟨rfl, rfl, .refl _⟩, rfl, fun asked mine => ?_, fun owned => owned.closeSlot device⟩
  rw [slots_closeSlot_other]
  rintro rfl
  exact other mine

end Spares

/-- A command that does not remain spares the controller. -/
theorem step_spares {command : Command} (left : command.remains owner controller = false)
    (owned : command.Owned owner) (live : before.EachOwned owner)
    (well : ∀ event ∈ (before.step command).bus.board.log, event.EndedWell) :
    Spares owner controller before (before.step command) := by
  obtain ⟨slot, action⟩ := command
  cases action with
  | adjust settings => cases left
  | lookUp index select => cases left
  | openDevice request => exact .openInto owned (beq_eq_false_iff_ne.mp left) well
  | onDevice action =>
      have other : owner slot ≠ controller := beq_eq_false_iff_ne.mp left
      cases held : before.slots slot with
      | none =>
          simp only [step, perform, held]
          exact .refl before
      | some device =>
          simp only [step, perform, held] at well ⊢
          have own := live slot device held
          cases action with
          | reopen request =>
              exact (Spares.closeSlot device other).trans (.openInto owned other well)
          | close => exact .closeSlot device other
          | setSelect select =>
              refine ⟨⟨rfl, rfl, .refl _⟩, rfl, fun asked mine => ?_, fun owned => owned.putLink own⟩
              exact (slots_putLink_other _ (by rintro rfl; exact other mine) _).symm
          | describe => exact .refl before
          | data call => exact .putLink ((before.link device).call_course call) own other well

namespace InStep

/-- Commands on devices of other controllers may be left out. -/
theorem skip (inStep : InStep owner controller first second shared alone)
    (spares : Spares owner controller shared after) :
    InStep owner controller after.bus.board.log alone.bus.board.log after alone where
  board := Recorder.SameFor.inStep {
    clocks := inStep.board.clocks.trans spares.board.clocks
    timing := inStep.board.timing.trans spares.board.timing
    lags := inStep.board.lags.trans spares.board.lags }
  entry := inStep.entry.trans spares.entry
  slots slot mine := (inStep.slots slot mine).trans (spares.slots slot mine)
  owned := spares.owned inStep.owned

/-- The sessions are in step since the moment that is at hand. -/
theorem now (inStep : InStep owner controller first second shared alone) :
    InStep owner controller shared.bus.board.log alone.bus.board.log shared alone :=
  ⟨inStep.board.toSameFor.inStep, inStep.entry, inStep.slots, inStep.owned⟩

/-- One device of the controller in both sessions. -/
theorem link (inStep : InStep owner controller first second shared alone) {device : Device}
    (own : device.controller = controller) :
    Link.InStep first second (shared.link device) (alone.link device) := by
  subst own
  exact ⟨inStep.board, inStep.entry, rfl⟩

theorem putLink (inStep : InStep owner controller first second shared alone)
    {one other : Link Recorder} (links : Link.InStep first second one other)
    (mine : owner slot = controller) (own : one.device.controller = controller) :
    InStep owner controller first second (shared.putLink slot one) (alone.putLink slot other) := by
  refine ⟨own ▸ links.board, own ▸ links.entry, fun asked found => ?_,
    inStep.owned.putLink (own.trans mine.symm)⟩
  by_cases same : asked = slot
  · rw [same, slots_putLink_same, slots_putLink_same, links.device]
  · rw [slots_putLink_other _ same, slots_putLink_other _ same]
    exact inStep.slots asked found

theorem closeSlot (inStep : InStep owner controller first second shared alone) (device : Device) :
    InStep owner controller first second (shared.closeSlot slot device)
      (alone.closeSlot slot device) := by
  refine ⟨inStep.board.record (.shutdown device.controller) none, inStep.entry,
    fun asked mine => ?_, inStep.owned.closeSlot device⟩
  by_cases same : asked = slot
  · rw [same, slots_closeSlot_same, slots_closeSlot_same]
  · rw [slots_closeSlot_other _ same, slots_closeSlot_other _ same]
    exact inStep.slots asked mine

theorem openInto (inStep : InStep owner controller first second shared alone) {request : OpenRequest}
    (owned : ∀ asked, Controller.ofIndex? request.controller = some asked → asked = owner slot)
    (mine : owner slot = controller)
    (well : ∀ event ∈ (shared.openInto slot request).session.bus.board.log, event.EndedWell) :
    (alone.openInto slot request).answer = (shared.openInto slot request).answer ∧
      (alone.openInto slot request).received = (shared.openInto slot request).received ∧
      InStep owner controller first second (shared.openInto slot request).session
        (alone.openInto slot request).session := by
  cases described : request.device? with
  | none =>
      rw [openInto_of_undescribed described, openInto_of_undescribed described]
      exact ⟨rfl, rfl, inStep⟩
  | some device =>
      have own : device.controller = controller :=
        (owned _ (OpenRequest.controller_of_device? described)).trans mine
      have accepted : (shared.link device).configure.failure = none := by
        cases result : (shared.link device).configure.failure with
        | none => rfl
        | some error =>
            rw [openInto_of_refused described result] at well
            exact result.symm.trans (Link.configure_of_endedWell well)
      obtain ⟨also, configured⟩ := (inStep.link own).configure accepted
      rw [openInto_of_accepted described accepted, openInto_of_accepted described also]
      refine ⟨rfl, rfl, inStep.putLink configured mine ?_⟩
      exact (shared.link device).configure_controller.trans own

/-- A command that remains does the same in both sessions. -/
theorem perform (inStep : InStep owner controller first second shared alone) {command : Command}
    (remains : command.remains owner controller = true) (owned : command.Owned owner)
    (well : ∀ event ∈ (shared.perform command).session.bus.board.log, event.EndedWell) :
    InStep owner controller first second (shared.perform command).session
        (alone.perform command).session ∧
      (command.Concerns controller →
        (alone.perform command).answer = (shared.perform command).answer) ∧
      Received.Resemble command (shared.perform command).received
        (alone.perform command).received := by
  obtain ⟨slot, action⟩ := command
  cases action with
  | adjust settings =>
      refine ⟨⟨?_, inStep.entry, inStep.slots, inStep.owned⟩, fun _ => rfl, Or.inl rfl⟩
      exact inStep.board.append (inStep.board.toSameFor.adjust settings) (List.append_nil _).symm
        (List.append_nil _).symm
  | lookUp index select =>
      refine ⟨inStep, fun concerns => ?_, Or.inl rfl⟩
      have entry : alone.bus.table.last? index = shared.bus.table.last? index := by
        simp only [SelectTable.last?]
        cases found : Controller.ofIndex? index with
        | none => rfl
        | some asked => simp only [Option.map_some, concerns asked found, inStep.entry]
      simp only [Session.perform, answering, SelectTable.mustConfigure, entry]
  | openDevice request =>
      obtain ⟨answer, received, opened⟩ := inStep.openInto owned (beq_iff_eq.mp remains) well
      exact ⟨opened, fun _ => answer, Or.inl received⟩
  | onDevice action =>
      have mine : owner slot = controller := beq_iff_eq.mp remains
      have held := inStep.slots slot mine
      cases live : shared.slots slot with
      | none =>
          rw [live] at held
          simp only [Session.perform, live, held]
          exact ⟨inStep, fun _ => rfl, Or.inl rfl⟩
      | some device =>
          rw [live] at held
          simp only [Session.perform, live, held] at well ⊢
          have own : device.controller = controller := (inStep.owned slot device live).trans mine
          cases action with
          | reopen request =>
              obtain ⟨answer, received, opened⟩ :=
                (inStep.closeSlot device).openInto owned mine well
              exact ⟨opened, fun _ => answer, Or.inl received⟩
          | close => exact ⟨inStep.closeSlot device, fun _ => rfl, Or.inl rfl⟩
          | setSelect select =>
              have links := inStep.link own
              refine ⟨inStep.putLink ⟨links.board, links.entry, rfl⟩ mine own, fun _ => rfl,
                Or.inl rfl⟩
          | describe => exact ⟨inStep, fun _ => rfl, Or.inl rfl⟩
          | data call =>
              obtain ⟨failure, links, one, other, resembles, messages, data, otherData⟩ :=
                (inStep.link own).call call well
              refine ⟨inStep.putLink links mine ?_, fun _ => congrArg Answer.ofFailure failure,
                Or.inr ⟨call, one, other, rfl, messages, resembles, data, otherData⟩⟩
              exact ((shared.link device).call_course call).confined.controller.trans own

end InStep

theorem get_timing_report (session : Session Recorder) (slot : Nat) (performed : Performed Recorder)
    (controller : Controller) :
    (session.report slot performed).timing.get controller =
      performed.session.bus.board.timing.get controller := by
  cases controller <;> rfl

/-- The reports on a command that remains match. -/
theorem InStep.report (inStep : InStep owner controller first second shared alone)
    {command : Command} (remains : command.remains owner controller = true)
    (owned : command.Owned owner)
    (well : ∀ event ∈ (shared.step command).bus.board.log, event.EndedWell) :
    Report.Matches owner controller command (shared.report command.slot (shared.perform command))
      (alone.report command.slot (alone.perform command)) := by
  obtain ⟨performed, answer, received⟩ := inStep.now.perform remains owned well
  obtain ⟨events, one, other⟩ := performed.board.logs
  refine ⟨answer, received, ?_, ?_, performed.entry, fun mine => ?_⟩
  · simp only [Session.report, Bench.log]
    rw [one, other, List.drop_left, List.drop_left]
  · rw [get_timing_report, get_timing_report]
    exact performed.board.timing
  · exact congrArg (Option.map Device.delays) (performed.slots command.slot mine)

/-- Leaving commands on devices of other controllers out of a run changes nothing for the rest. -/
theorem InStep.reports (commands : List Command)
    (inStep : InStep owner controller first second shared alone)
    (owned : ∀ command ∈ commands, command.Owned owner)
    (well : ∀ event ∈ (shared.run commands).bus.board.log, event.EndedWell) :
    let remaining := commands.filter (Command.remains owner controller)
    List.Forall₂ (fun told report => Report.Matches owner controller told.1 told.2 report)
        ((commands.zip (shared.reports commands)).filter fun told =>
          told.1.remains owner controller)
        (alone.reports remaining) ∧
      ∃ one other, InStep owner controller one other (shared.run commands)
        (alone.run remaining) := by
  induction commands generalizing shared alone first second with
  | nil => exact ⟨.nil, first, second, inStep⟩
  | cons command rest ih =>
      obtain ⟨own, owned⟩ := List.forall_mem_cons.mp owned
      obtain ⟨later, grown⟩ := run_grown rest (shared.step command)
      have here := forall_mem_of_grown grown well
      cases remains : command.remains owner controller with
      | true =>
          obtain ⟨matching, whole⟩ := ih (inStep.perform remains own here).1 owned well
          simp only [Session.reports, List.zip_cons_cons, List.filter_cons, remains, if_true,
            run_cons]
          exact ⟨.cons (inStep.report remains own here) matching, whole⟩
      | false =>
          have spares := step_spares remains own inStep.owned here
          obtain ⟨matching, whole⟩ := ih (inStep.skip spares) owned well
          simp only [Session.reports, List.zip_cons_cons, List.filter_cons, remains,
            Bool.false_eq_true, if_false, run_cons]
          exact ⟨matching, whole⟩

/-- Whatever the registers held at first: take a run in which every slot belongs to one controller and
every status is success, and leave out all commands on devices of other controllers than one. Then the
reports on the remaining commands match, one by one, and the devices of the controller are the same in
the end. -/
theorem controllers_separate (board : Recorder) (commands : List Command)
    (owner : Nat → Controller) (controller : Controller)
    (owned : ∀ command ∈ commands, command.Owned owner)
    (well : ∀ event ∈ ((initial board.cleared).run commands).bus.board.log, event.EndedWell) :
    let start := initial board.cleared
    let remaining := commands.filter (Command.remains owner controller)
    List.Forall₂ (fun told report => Report.Matches owner controller told.1 told.2 report)
        ((commands.zip (start.reports commands)).filter fun told =>
          told.1.remains owner controller)
        (start.reports remaining) ∧
      ∀ slot, owner slot = controller →
        (start.run remaining).slots slot = (start.run commands).slots slot := by
  intro start remaining
  have inStep : InStep owner controller [] [] start start :=
    ⟨⟨⟨rfl, rfl, .refl _⟩, [], rfl, rfl⟩, rfl, fun _ _ => rfl, fun slot device live => by cases live⟩
  obtain ⟨matching, one, other, ended⟩ := inStep.reports commands owned well
  exact ⟨matching, ended.slots⟩

/-- Each of two devices reads two bytes. With the second left out, the first receives the bytes that
went to the second before. -/
theorem controllers_separate_of_two_reads :
    let owner (slot : Nat) : Controller := if slot = 0 then .spi0 else .spi1
    let read : DataCall :=
      .transfer [{ Message.single (.read [0, 0]) with delays := { first := 2, last := 3 } }]
    let zeros : CallKind → List Int32 := fun _ => [0, 0, 0]
    let commands : List Command := [
      ⟨0, .adjust ⟨[10000000], [], zeros, some [1, 2, 3, 4]⟩⟩,
      ⟨0, .openDevice (sampleRequest 1)⟩,
      ⟨1, .openDevice { sampleRequest 2 with controller := 1 }⟩,
      ⟨1, .onDevice (.data read)⟩,
      ⟨1, .onDevice .close⟩,
      ⟨0, .onDevice (.data read)⟩]
    let start := initial Recorder.initial.cleared
    let remaining := commands.filter (Command.remains owner .spi0)
    ((start.reports commands).getLast?.map Report.received = some (.buffers [some [3, 4]]) ∧
        (start.reports remaining).getLast?.map Report.received = some (.buffers [some [1, 2]])) ∧
      (∀ event ∈ (start.run commands).bus.board.log, event.EndedWell) ∧
      List.Forall₂ (fun told report => Report.Matches owner .spi0 told.1 told.2 report)
          ((commands.zip (start.reports commands)).filter fun told => told.1.remains owner .spi0)
          (start.reports remaining) ∧
        ∀ slot, owner slot = .spi0 →
          (start.run remaining).slots slot = (start.run commands).slots slot := by
  intro owner read zeros commands start remaining
  have owned : ∀ command ∈ commands, command.Owned owner := by
    simp [commands, Command.Owned, owner, sampleRequest, Controller.ofIndex?]
  have well : ∀ event ∈ (start.run commands).bus.board.log, event.EndedWell := by decide +kernel
  have received : (start.reports commands).getLast?.map Report.received =
        some (.buffers [some [3, 4]]) ∧
      (start.reports remaining).getLast?.map Report.received = some (.buffers [some [1, 2]]) := by
    decide +kernel
  -- With the commands at hand, comparing statements would run the session.
  clear_value commands
  exact ⟨received, well, controllers_separate Recorder.initial commands owner .spi0 owned well⟩

end Session

end SharedSpi

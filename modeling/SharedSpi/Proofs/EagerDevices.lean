import SharedSpi.Proofs.Twins

/-!
# Eager devices

A device is configured before a call only if another chip select stands in the
select table. As long as devices that are live together never drive one chip
select, nothing is lost by this: devices that are configured before every call
give the same answers, receive the same bytes and run the same transactions,
each of them with the same configuration, mode and timing at its controller.
-/

namespace SharedSpi

/-- Whether the delays of an errand have ticks. -/
def Errand.hasTicks (clock : UInt32) : Errand → Bool
  | pause _ => true
  | message asked => (asked.delays.ticks? clock).isSome

/-- An action that keeps all devices open and does not show what they remember. -/
def Action.Ordinary : Action → Prop
  | .onDevice (.reopen _) => False
  | .onDevice .close => False
  | .onDevice .describe => False
  | _ => True

/-- Adjustments that keep clocks and registers keep boards alike. -/
theorem Alike.adjust {start : Bank Standing} {lazy eager : Recorder}
    (alike : Alike start lazy eager) (settings : BenchSettings)
    (lazyClocks : (lazy.adjust settings).clocks = lazy.clocks)
    (lazyTiming : (lazy.adjust settings).timing = lazy.timing)
    (eagerClocks : (eager.adjust settings).clocks = eager.clocks)
    (eagerTiming : (eager.adjust settings).timing = eager.timing) :
    Alike start (lazy.adjust settings) (eager.adjust settings) := by
  have log (recorder : Recorder) : (recorder.adjust settings).log = recorder.log ++ [] :=
    (List.append_nil _).symm
  refine alike.append (by simp) (by simp) (log lazy) (log eager) lazyClocks eagerClocks lazyTiming
    eagerTiming ?_ ?_ ?_
  · have statuses := congrArg (· ++ settings.statuses .transaction) alike.statuses
    simp only [Recorder.adjust, Responses.adjust]
    split
    · exact statuses
    · exact statuses
  · simp only [Recorder.adjust, Responses.adjust]
    split
    · exact alike.stream
    · rfl
  · simp only [Recorder.adjust, Responses.adjust]
    split
    · exact alike.position
    · rfl

namespace Session

/-- Sessions on boards that are alike, whose devices differ at most in the delays they remember. -/
structure Peers (start : Bank Standing) (lazy eager : Session Recorder) : Prop where
  board : Alike start lazy.bus.board eager.bus.board
  table : eager.bus.table = lazy.bus.table
  empty : ∀ slot, lazy.slots slot = none → eager.slots slot = none
  held : ∀ slot device, lazy.slots slot = some device →
    ∃ delays, eager.slots slot = some { device with delays := delays }

/-- If every configuring call succeeds, a device that is described is opened. -/
theorem openInto_of_succeeded {request : OpenRequest} {params : Params} {device : Device}
    (read : request.params? = some params) (described : Device.ofParams? params = some device)
    {session : Session Recorder} {slot : Nat}
    (succeeded : ∀ event ∈ (session.openInto slot request).session.bus.board.log,
      event.Succeeded) :
    session.openInto slot request =
        (session.putLink slot (session.link device).configure.link).answering .done ∧
      ∀ event ∈ (session.link device).configure.link.board.log, event.Succeeded := by
  have whole : request.device? = some device := Option.bind_eq_some_iff.mpr ⟨params, read, described⟩
  cases result : (session.link device).configure.failure with
  | none =>
      have opened := openInto_of_accepted whole result slot
      rw [opened] at succeeded
      exact ⟨opened, succeeded⟩
  | some error =>
      rw [openInto_of_refused whole result slot] at succeeded
      cases result.symm.trans (Link.configure_of_succeeded succeeded).1

namespace Peers

variable {start : Bank Standing} {lazy eager : Session Recorder}

/-- A device and its counterpart are twins. -/
theorem twins (peers : Peers start lazy eager) (device : Device) (delays : SelectDelays) :
    Link.Twins start (lazy.link device) (eager.link { device with delays := delays }) :=
  ⟨peers.board, peers.table, rfl⟩

theorem putLink (peers : Peers start lazy eager) (slot : Nat) {one other : Link Recorder}
    (twins : Link.Twins start one other) :
    Peers start (lazy.putLink slot one) (eager.putLink slot other) where
  board := twins.board
  table := twins.table
  empty asked none := by
    by_cases same : asked = slot
    · rw [same, slots_putLink_same] at none
      cases none
    · rw [slots_putLink_other _ same] at none ⊢
      exact peers.empty asked none
  held asked device live := by
    by_cases same : asked = slot
    · rw [same, slots_putLink_same] at live ⊢
      rw [← Option.some.inj live]
      exact ⟨other.device.delays, congrArg some twins.device⟩
    · rw [slots_putLink_other _ same] at live ⊢
      exact peers.held asked device live

/-- Opening a device does the same on peers. -/
theorem openInto (peers : Peers start lazy eager) (slot : Nat) (request : OpenRequest)
    (lazySucceeded : ∀ event ∈ (lazy.openInto slot request).session.bus.board.log,
      event.Succeeded)
    (eagerSucceeded : ∀ event ∈ (eager.openInto slot request).session.bus.board.log,
      event.Succeeded) :
    (eager.openInto slot request).answer = (lazy.openInto slot request).answer ∧
      Peers start (lazy.openInto slot request).session (eager.openInto slot request).session := by
  cases read : request.params? with
  | none =>
      simp only [Session.openInto, Bus.openRequested, read]
      exact ⟨rfl, peers⟩
  | some params =>
      cases described : Device.ofParams? params with
      | none =>
          simp only [Session.openInto, Bus.openRequested, read,
            Bus.openDevice_of_undescribed described]
          exact ⟨rfl, peers⟩
      | some device =>
          obtain ⟨one, lazily⟩ := openInto_of_succeeded read described lazySucceeded
          obtain ⟨other, eagerly⟩ := openInto_of_succeeded read described eagerSucceeded
          rw [one, other]
          have paired := (peers.twins device device.delays).configure lazily eagerly
          exact ⟨rfl, peers.putLink slot paired.toTwins⟩

/-- An ordinary command does the same on peers, if a device finds its chip select in the table only
with its settings at the controller and its delays in effect. -/
theorem step (peers : Peers start lazy eager) {command : Command}
    (ordinary : command.action.Ordinary)
    (steady : ∀ settings, command.action = .adjust settings →
      ((lazy.bus.board.adjust settings).clocks = lazy.bus.board.clocks ∧
          (lazy.bus.board.adjust settings).timing = lazy.bus.board.timing) ∧
        (eager.bus.board.adjust settings).clocks = eager.bus.board.clocks ∧
          (eager.bus.board.adjust settings).timing = eager.bus.board.timing)
    (trusted : ∀ device call, command.action = .onDevice (.data call) →
      lazy.slots command.slot = some device →
        lazy.bus.table.last.get device.controller = device.select →
          ((standings start lazy.bus.board.log).get device.controller).Suits device ∧
            (lazy.link device).InEffect)
    (programmable : ∀ device call, command.action = .onDevice (.data call) →
      lazy.slots command.slot = some device →
        call.errands.all (Errand.hasTicks (lazy.bus.board.clocks.get device.controller)) = true)
    (lazySucceeded : ∀ event ∈ (lazy.performWith Link.select command).session.bus.board.log,
      event.Succeeded)
    (eagerSucceeded : ∀ event ∈ (eager.performWith Link.configure command).session.bus.board.log,
      event.Succeeded) :
    (eager.performWith Link.configure command).answer =
        (lazy.performWith Link.select command).answer ∧
      (eager.performWith Link.configure command).received =
          (lazy.performWith Link.select command).received ∧
        Peers start (lazy.performWith Link.select command).session
          (eager.performWith Link.configure command).session := by
  obtain ⟨slot, action⟩ := command
  cases action with
  | adjust settings =>
      obtain ⟨⟨lazyClocks, lazyTiming⟩, eagerClocks, eagerTiming⟩ := steady settings rfl
      exact ⟨rfl, rfl, peers.board.adjust settings lazyClocks lazyTiming eagerClocks eagerTiming,
        peers.table, peers.empty, peers.held⟩
  | lookUp controller select =>
      refine ⟨?_, rfl, peers⟩
      simp only [performWith, perform, answering, peers.table]
  | openDevice request =>
      obtain ⟨answer, ended⟩ := peers.openInto slot request lazySucceeded eagerSucceeded
      have received (session : Session Recorder) :
          (session.openInto slot request).received = .nothing := by
        simp only [Session.openInto]
        split <;> rfl
      exact ⟨answer, (received eager).trans (received lazy).symm, ended⟩
  | onDevice action =>
      cases live : lazy.slots slot with
      | none =>
          have gone := peers.empty slot live
          cases action <;> simp only [performWith, perform, live, gone] <;>
            exact ⟨rfl, rfl, peers⟩
      | some device =>
          obtain ⟨delays, held⟩ := peers.held slot device live
          cases action with
          | reopen request => exact ordinary.elim
          | close => exact ordinary.elim
          | describe => exact ordinary.elim
          | setSelect select =>
              simp only [performWith, perform, live, held]
              exact ⟨rfl, rfl, peers.putLink slot ⟨peers.board, peers.table, rfl⟩⟩
          | data call =>
              simp only [performWith, live, held] at lazySucceeded eagerSucceeded ⊢
              obtain ⟨data, failure, ended⟩ := (peers.twins device delays).call
                (trusted device call rfl live)
                (fun message found => List.all_eq_true.mp (programmable device call rfl live) _ found)
                lazySucceeded eagerSucceeded
              exact ⟨congrArg Answer.ofFailure failure, data, peers.putLink slot ended⟩

end Peers

/-- The clocks of a run with devices selected in a given way are constant, and its registers are
written by devices only. -/
def SteadyWith (choose : Link Recorder → Outcome Recorder Unit) (session : Session Recorder)
    (commands : List Command) : Prop :=
  ∀ time slot settings, commands[time]? = some ⟨slot, .adjust settings⟩ →
    let board := (session.runWith choose (commands.take time)).bus.board
    (board.adjust settings).clocks = board.clocks ∧ (board.adjust settings).timing = board.timing

/-- The delays of every message of every call have ticks. -/
def Programmable (start : Session Recorder) (commands : List Command) : Prop :=
  ∀ time slot call device, commands[time]? = some ⟨slot, .onDevice (.data call)⟩ →
    (start.after commands time).slots slot = some device →
      call.errands.all (Errand.hasTicks (start.bus.board.clocks.get device.controller)) = true

variable {start : Session Recorder} {commands : List Command}

/-- At every time of a run the eager devices are peers of the others, and have given the same
replies. -/
theorem peers_at (empty : ∀ slot, start.slots slot = none)
    (told : start.bus.board.Told start.bus.board.unused)
    (ordinary : ∀ command ∈ commands, command.action.Ordinary)
    (apart : start.SelectsApart commands) (steady : start.Steady commands)
    (eagerSteady : start.SteadyWith Link.configure commands)
    (programmable : start.Programmable commands)
    (succeeded : ∀ event ∈ (start.run commands).bus.board.log, event.Succeeded)
    (eagerSucceeded : ∀ event ∈ (start.runWith Link.configure commands).bus.board.log,
      event.Succeeded) (time : Nat) (within : time ≤ commands.length) :
    Peers start.bus.board.unused (start.after commands time)
        (start.runWith Link.configure (commands.take time)) ∧
      start.repliesWith Link.configure (commands.take time) =
        start.repliesWith Link.select (commands.take time) := by
  induction time with
  | zero =>
      refine ⟨⟨⟨rfl, fun _ => rfl, rfl, rfl, rfl, rfl, fun _ => rfl, told, told⟩, rfl,
        fun _ none => none, fun slot device live => ?_⟩, rfl⟩
      rw [after, List.take_zero, run_nil, empty] at live
      cases live
  | succ time ih =>
      obtain ⟨peers, replies⟩ := ih (Nat.le_of_succ_le within)
      obtain ⟨command, next⟩ : ∃ command, commands[time]? = some command :=
        ⟨_, List.getElem?_eq_getElem within⟩
      have coherent := coherent_at empty steady apart time (Nat.le_of_succ_le within)
      let lazy := start.after commands time
      let eager := start.runWith Link.configure (commands.take time)
      have more : commands.take (time + 1) = commands.take time ++ [command] := by
        rw [List.take_add_one, next, Option.toList_some]
      have lazyNext : start.after commands (time + 1) =
          (lazy.performWith Link.select command).session := by
        rw [start.after_succ next, performWith_select, step]
      have eagerNext : start.runWith Link.configure (commands.take (time + 1)) =
          (eager.performWith Link.configure command).session := by
        rw [more, runWith_concat]
      have registers : ∀ settings, command.action = .adjust settings →
          ((lazy.bus.board.adjust settings).clocks = lazy.bus.board.clocks ∧
              (lazy.bus.board.adjust settings).timing = lazy.bus.board.timing) ∧
            (eager.bus.board.adjust settings).clocks = eager.bus.board.clocks ∧
              (eager.bus.board.adjust settings).timing = eager.bus.board.timing := by
        intro settings asked
        obtain ⟨slot, action⟩ := command
        cases asked
        exact ⟨steady time slot settings next, eagerSteady time slot settings next⟩
      -- No rival has driven the chip select that is found in the table.
      have trusted : ∀ device call, command.action = .onDevice (.data call) →
          lazy.slots command.slot = some device →
            lazy.bus.table.last.get device.controller = device.select →
              ((standings start.bus.board.unused lazy.bus.board.log).get
                  device.controller).Suits device ∧ (lazy.link device).InEffect := by
        intro device call asked live entry
        have alone := not_rivalled apart next asked live entry
        rcases attended_or_rivalled empty succeeded apart time (Nat.le_of_succ_le within)
          command.slot device live with ⟨turn, mine, attended⟩ | rivalled
        · exact ⟨(attended.continues.suits (entry.symm.trans attended.entry) _).mpr attended.own,
            (coherent.inEffect command.slot device live).resolve_right alone⟩
        · exact (alone rivalled).elim
      have ticking : ∀ device call, command.action = .onDevice (.data call) →
          lazy.slots command.slot = some device →
            call.errands.all
              (Errand.hasTicks (lazy.bus.board.clocks.get device.controller)) = true := by
        intro device call asked live
        rw [coherent.clocks]
        obtain ⟨slot, action⟩ := command
        cases asked
        exact programmable time slot call device next live
      have lazySucceeded : ∀ event ∈ (lazy.performWith Link.select command).session.bus.board.log,
          event.Succeeded := by
        rw [← lazyNext]
        exact succeeded_after succeeded (time + 1)
      have eagerSucceeded : ∀ event ∈
          (eager.performWith Link.configure command).session.bus.board.log, event.Succeeded := by
        rw [← eagerNext]
        obtain ⟨events, grown⟩ := runWith_grown Link.configure
          (fun link => (link.configure_quiet).imp fun _ added => added.1)
          (commands.drop (time + 1)) (start.runWith Link.configure (commands.take (time + 1)))
        rw [← runWith_append, List.take_append_drop] at grown
        exact forall_mem_of_grown grown eagerSucceeded
      obtain ⟨answer, received, ended⟩ := peers.step (ordinary command (List.mem_of_getElem? next))
        registers trusted ticking lazySucceeded eagerSucceeded
      rw [lazyNext, eagerNext, more, repliesWith_concat, repliesWith_concat, replies, answer,
        received, runWith_select]
      exact ⟨ended, rfl⟩

/-- With constant clocks, registers written by devices only, no chip select shared by devices that are
live together, configuring calls that succeed and delays that have ticks: devices that are configured
before every call give the same answers and receive the same bytes as devices that are configured if
need be, and the same is seen of them, every transaction with the same at its controller. -/
theorem eager_devices_agree (board : Recorder) (commands : List Command)
    (ordinary : ∀ command ∈ commands, command.action.Ordinary)
    (apart : (initial board.cleared).SelectsApart commands)
    (steady : (initial board.cleared).Steady commands)
    (eagerSteady : (initial board.cleared).SteadyWith Link.configure commands)
    (programmable : (initial board.cleared).Programmable commands)
    (succeeded : ∀ event ∈ ((initial board.cleared).run commands).bus.board.log, event.Succeeded)
    (eagerSucceeded : ∀ event ∈
      ((initial board.cleared).runWith Link.configure commands).bus.board.log, event.Succeeded) :
    let start := initial board.cleared
    let eager := start.runWith Link.configure commands
    start.repliesWith Link.configure commands =
        (start.reports commands).map (fun report => (report.answer, report.received)) ∧
      sights board.unused eager.bus.board.log =
        sights board.unused (start.run commands).bus.board.log := by
  intro start eager
  have told : board.cleared.Told board.unused := board.holds_unused
  obtain ⟨peers, replies⟩ := peers_at (fun _ => rfl) told ordinary apart steady eagerSteady
    programmable succeeded eagerSucceeded commands.length (Nat.le_refl _)
  rw [List.take_length] at peers replies
  rw [after, List.take_length] at peers
  exact ⟨by rw [replies, repliesWith_select], peers.board.seen⟩

/-- Two devices with modes of their own, the second of which fails once. -/
theorem eager_devices_agree_of_two_modes :
    let asked (delays : SelectDelays) : DataCall :=
      .transfer [{ Message.ofBuffers (.write [1]) with delays := delays }]
    let statuses : CallKind → List Int32
      | .transaction => [0, 0, -3]
      | _ => []
    let commands : List Command :=
      [⟨0, .openDevice (sampleRequest 1)⟩, ⟨1, .openDevice { sampleRequest 2 with mode := 3 }⟩,
        ⟨0, .adjust ⟨[], [], statuses, none⟩⟩, ⟨0, .onDevice (.data (asked ⟨5, 2⟩))⟩,
        ⟨0, .onDevice (.data (asked ⟨1, 2⟩))⟩, ⟨1, .onDevice (.data (.deviceTransfer [1] [0, 0]))⟩,
        ⟨1, .onDevice (.data (.roundTrip [1]))⟩]
    let start := initial Recorder.initial.cleared
    let eager := start.runWith Link.configure commands
    ((∀ command ∈ commands, command.action.Ordinary) ∧ start.SelectsApart commands ∧
        start.Steady commands ∧ start.SteadyWith Link.configure commands ∧
        start.Programmable commands ∧
        (∀ event ∈ (start.run commands).bus.board.log, event.Succeeded) ∧
        ∀ event ∈ eager.bus.board.log, event.Succeeded) ∧
      start.repliesWith Link.configure commands =
        (start.reports commands).map (fun report => (report.answer, report.received)) ∧
      sights Recorder.initial.unused eager.bus.board.log =
        sights Recorder.initial.unused (start.run commands).bus.board.log := by
  intro asked statuses commands
  dsimp only
  have ordinary : ∀ command ∈ commands, command.action.Ordinary := by
    simp [commands, Action.Ordinary]
  have apart : (initial Recorder.initial.cleared).SelectsApart commands := by
    refine selectsApart_of_slots 2 (fun slot => if slot = 0 then 1 else 2) ?_ ?_ ?_
    · decide
    · decide +kernel
    · decide
  have adjusted : ∀ (time slot : Nat) (settings : BenchSettings),
      commands[time]? = some ⟨slot, .adjust settings⟩ →
        settings = ⟨[], [], statuses, none⟩ := by
    intro time slot settings found
    have listed := List.mem_of_getElem? found
    simp only [commands, List.mem_cons, Command.mk.injEq, Action.adjust.injEq, reduceCtorEq,
      List.not_mem_nil, and_false, false_or, or_false] at listed
    exact listed.2
  have steady : (initial Recorder.initial.cleared).Steady commands := by
    intro time slot settings found
    rw [adjusted time slot settings found]
    exact ⟨rfl, rfl⟩
  have eagerSteady : (initial Recorder.initial.cleared).SteadyWith Link.configure commands := by
    intro time slot settings found
    rw [adjusted time slot settings found]
    exact ⟨rfl, rfl⟩
  have programmable : (initial Recorder.initial.cleared).Programmable commands := by
    intro time slot call device found _
    have clock : (initial Recorder.initial.cleared).bus.board.clocks.get device.controller =
        50000000 := by
      cases device.controller <;> rfl
    have listed := List.mem_of_getElem? found
    simp only [commands, List.mem_cons, Command.mk.injEq, Action.onDevice.injEq,
      DeviceAction.data.injEq, reduceCtorEq, List.not_mem_nil, and_false, false_or, or_false]
      at listed
    rw [clock]
    rcases listed with ⟨_, rfl⟩ | ⟨_, rfl⟩ | ⟨_, rfl⟩ | ⟨_, rfl⟩ <;> decide +kernel
  have succeeded : ∀ event ∈ ((initial Recorder.initial.cleared).run commands).bus.board.log,
      event.Succeeded := by decide +kernel
  have eagerSucceeded : ∀ event ∈ ((initial Recorder.initial.cleared).runWith Link.configure
      commands).bus.board.log, event.Succeeded := by decide +kernel
  exact ⟨⟨ordinary, apart, steady, eagerSteady, programmable, succeeded, eagerSucceeded⟩,
    eager_devices_agree Recorder.initial commands ordinary apart steady eagerSteady programmable
      succeeded eagerSucceeded⟩

end Session

end SharedSpi

import SharedSpi.Proofs.Turns

/-!
# Own settings

A device is configured before a call unless its chip select stands in the select
table, whoever left it there. So a transaction is run under the settings of
another device exactly if a device was moved to a chip select that the other one
had driven last. If devices that are live together never drive one chip select,
every transaction is run under the settings of its own device.
-/

namespace SharedSpi

namespace Link

/-- A transaction of a call is run once the device is selected, after traffic only. -/
theorem transaction_of_call {link : Link Recorder} {call : DataCall}
    {before after : List BoardEvent} {controller : Controller} {request : Request}
    {status : Option Int32}
    (log : (link.call call).link.board.log =
      before ++ ⟨.transaction controller request, status⟩ :: after)
    (late : link.board.log.length ≤ before.length) :
    link.select.failure = none ∧ call.reachesBus = true ∧
      ∃ first, before = link.select.link.board.log ++ first ∧
        ∀ event ∈ first, event.IsTraffic link.device.controller := by
  obtain ⟨configuring, chosen, quiet⟩ := link.select_quiet
  obtain ⟨events, grown, traffic⟩ := link.select.link.carryOut_traffic call.errands
  have absent {events : List BoardEvent} (quiet : ∀ event ∈ events, event.call.request? = none) :
      ⟨.transaction controller request, status⟩ ∉ events := by
    intro found
    cases quiet _ found
  rcases link.call_cases call with ⟨_, _, ended⟩ | ⟨selected, ended⟩
  · rw [ended, chosen] at log
    obtain ⟨first, _, split⟩ := split_of_late log late
    exact (absent quiet (by rw [split]; simp)).elim
  · obtain ⟨recovery, grownLater, alsoQuiet⟩ : ∃ recovery, (link.call call).link.board.log =
        (link.select.link.carryOut call.errands).link.board.log ++ recovery ∧
          ∀ event ∈ recovery, event.call.request? = none := by
      rcases ended with ended | ⟨_, _, ended⟩
      · exact ⟨[], by rw [ended, List.append_nil], by simp⟩
      · rw [ended]
        exact Link.configure_quiet _
    rw [grownLater, grown, chosen, List.append_assoc, List.append_assoc] at log
    obtain ⟨added, own, split⟩ := split_of_late log late
    obtain ⟨first, rfl, rest⟩ := split_after split (absent quiet)
    obtain ⟨last, sent⟩ := split_before rest (absent alsoQuiet)
    refine ⟨selected, ?_, first, by rw [own, chosen, List.append_assoc], ?_⟩
    · cases reaches : call.reachesBus with
      | true => rfl
      | false =>
          obtain ⟨times, waits⟩ :=
            link.select.link.carryOut_idle (call.reachTransaction_errands.trans reaches)
          rw [grown] at waits
          rw [List.append_cancel_left waits] at sent
          refine (absent (fun event found => ?_) (show _ ∈ times.map waitEvent by
            rw [sent]; simp)).elim
          obtain ⟨ns, _, rfl⟩ := List.mem_map.mp found
          rfl
    · intro event found
      rw [← link.select_controller]
      exact traffic event (by rw [sent]; simp [found])

/-- A call on a selected device that comes to a transaction runs one, after traffic only. -/
theorem transaction_of_reaches {link : Link Recorder} {call : DataCall}
    (selected : link.select.failure = none) (reaches : call.reachesBus = true) :
    ∃ first request status after, (link.call call).link.board.log =
        link.select.link.board.log ++ first ++
          ⟨.transaction link.device.controller request, status⟩ :: after ∧
      ∀ event ∈ first, event.IsTraffic link.device.controller := by
  obtain ⟨first, request, status, last, grown, traffic⟩ :=
    link.select.link.carryOut_reaches (call.reachTransaction_errands.trans reaches)
  rw [link.select_controller] at grown traffic
  rcases link.call_cases call with ⟨error, failed, _⟩ | ⟨_, ended | ⟨_, _, ended⟩⟩
  · rw [selected] at failed
    cases failed
  · exact ⟨first, request, status, last, by rw [ended, grown, List.append_assoc], traffic⟩
  · obtain ⟨recovery, regrown, _⟩ :=
      (link.select.link.carryOut call.errands).link.configure_quiet
    refine ⟨first, request, status, last ++ recovery, ?_, traffic⟩
    rw [ended, regrown, grown]
    simp

theorem suits_of_traffic {controller : Controller} {events : List BoardEvent}
    (traffic : ∀ event ∈ events, event.IsTraffic controller) (start : Bank Standing)
    (log : List BoardEvent) (device : Device) :
    ((standings start (log ++ events)).get device.controller).Suits device ↔
      ((standings start log).get device.controller).Suits device := by
  unfold Standing.Suits
  rw [standings_append, settings_standings fun event found => (traffic event found).not_setup]

/-- The device's chip select stands in the table although other settings stand at its controller, and
the call comes to a transaction. -/
def Borrows (start : Bank Standing) (link : Link Recorder) (call : DataCall) : Prop :=
  call.reachesBus = true ∧
    link.bus.table.last.get link.device.controller = link.device.select ∧
      ¬ ((standings start link.board.log).get link.device.controller).Suits link.device

/-- Only a device that borrows runs a transaction under settings that are not its own. -/
theorem suits_of_not_borrows {start : Bank Standing} {link : Link Recorder} {call : DataCall}
    (own : ¬ link.Borrows start call) {before after : List BoardEvent} {controller : Controller}
    {request : Request} {status : Option Int32}
    (log : (link.call call).link.board.log =
      before ++ ⟨.transaction controller request, status⟩ :: after)
    (late : link.board.log.length ≤ before.length) :
    ((standings start before).get link.device.controller).Suits link.device := by
  obtain ⟨selected, reaches, first, rfl, traffic⟩ := transaction_of_call log late
  rw [suits_of_traffic traffic]
  rcases link.select_cases with ⟨entry, same⟩ | ⟨_, same⟩
  · rw [same]
    by_contra differ
    exact own ⟨reaches, entry, differ⟩
  · rw [same] at selected ⊢
    rcases link.configure_cases with ⟨board, completed⟩ | ⟨board, refused⟩
    · rw [completed.log, standings_append]
      exact congrArg Standing.settings (standings_fullConfiguration _ _ _ _ _)
    · rw [refused.failure] at selected
      cases selected

/-- A device that borrows runs a transaction under settings that are not its own. -/
theorem transaction_of_borrows {start : Bank Standing} {link : Link Recorder} {call : DataCall}
    (borrows : link.Borrows start call) :
    ∃ before request status after, (link.call call).link.board.log =
        before ++ ⟨.transaction link.device.controller request, status⟩ :: after ∧
      link.board.log.length ≤ before.length ∧
      ¬ ((standings start before).get link.device.controller).Suits link.device := by
  obtain ⟨reaches, entry, other⟩ := borrows
  have unchanged : link.select = ⟨link, (), none⟩ := by
    rcases link.select_cases with ⟨_, same⟩ | ⟨differ, _⟩
    · exact same
    · exact (differ entry).elim
  obtain ⟨first, request, status, after, log, traffic⟩ :=
    transaction_of_reaches (by rw [unchanged]) reaches
  rw [unchanged] at log
  refine ⟨_, request, status, after, log, ?_, ?_⟩
  · rw [List.length_append]
    exact Nat.le_add_right _ _
  · rw [suits_of_traffic traffic]
    exact other

end Link

namespace Session

/-- A command has the device of its slot run a transaction once the log is `before`. -/
def Issues (session : Session Recorder) (command : Command) (device : Device)
    (before : List BoardEvent) : Prop :=
  ∃ call request status after, command.action = .onDevice (.data call) ∧
    session.slots command.slot = some device ∧
    (session.step command).bus.board.log =
      before ++ ⟨.transaction device.controller request, status⟩ :: after ∧
    session.bus.board.log.length ≤ before.length

/-- Every transaction of a run finds the settings of its own device at the controller. -/
def EachOwn (start : Session Recorder) (commands : List Command) : Prop :=
  ∀ time command device before, commands[time]? = some command →
    (start.after commands time).Issues command device before →
      ((standings start.bus.board.unused before).get device.controller).Suits device

/-- A call by which a device borrows the settings of another. -/
def Borrows (start : Bank Standing) (session : Session Recorder) (command : Command) : Prop :=
  ∃ device call, command.action = .onDevice (.data call) ∧
    session.slots command.slot = some device ∧ (session.link device).Borrows start call

/-- Every transaction of a run finds its own settings exactly if no device borrows any. -/
theorem eachOwn_iff (start : Session Recorder) (commands : List Command) :
    start.EachOwn commands ↔
      ∀ time command, commands[time]? = some command →
        ¬ (start.after commands time).Borrows start.bus.board.unused command := by
  constructor
  · rintro each time command next ⟨device, call, asked, live, borrows⟩
    obtain ⟨before, request, status, after, log, late, other⟩ := Link.transaction_of_borrows borrows
    refine other (each time command device before next ⟨call, request, status, after, asked, live,
      ?_, late⟩)
    rw [step_of_data asked live]
    exact log
  · rintro own time command device before next ⟨call, request, status, after, asked, live, log, late⟩
    rw [step_of_data asked live] at log
    exact Link.suits_of_not_borrows
      (fun borrows => own time command next ⟨device, call, asked, live, borrows⟩) log late

/-- The transactions of a run all find the settings of their own devices exactly if no device borrows
any. If every configuring call succeeds, none does as long as devices that are live together never drive
one chip select. -/
theorem own_settings_in_run (board : Recorder) (commands : List Command) :
    let start := initial board.cleared
    (start.EachOwn commands ↔
        ∀ time command, commands[time]? = some command →
          ¬ (start.after commands time).Borrows board.unused command) ∧
      ((∀ event ∈ (start.run commands).bus.board.log, event.Succeeded) →
        start.SelectsApart commands → start.EachOwn commands) := by
  intro start
  refine ⟨start.eachOwn_iff commands, fun succeeded apart => ?_⟩
  rw [eachOwn_iff]
  rintro time command next ⟨device, call, asked, live, _, entry, borrowed⟩
  obtain ⟨within, _⟩ := List.getElem?_eq_some_iff.mp next
  rcases attended_or_rivalled (fun _ => rfl) succeeded apart time (Nat.le_of_lt within) command.slot
    device live with ⟨turn, mine, attended⟩ | rivalled
  · refine borrowed ((attended.continues.suits ?_ _).mpr attended.own)
    exact Eq.trans entry.symm attended.entry
  · exact not_rivalled apart next asked live entry rivalled

/-- Two devices of one controller, in two clock modes, that send by turns. -/
theorem own_settings_of_two_modes :
    let message : Message := .single (.write [1])
    let commands : List Command :=
      [⟨0, .openDevice (sampleRequest 1)⟩, ⟨1, .openDevice { sampleRequest 2 with mode := 3 }⟩,
        ⟨0, .onDevice (.data (.transfer [message]))⟩,
        ⟨1, .onDevice (.data (.transfer [message]))⟩]
    let start := initial Recorder.initial.cleared
    ((∀ event ∈ (start.run commands).bus.board.log, event.Succeeded) ∧
        start.SelectsApart commands) ∧
      start.EachOwn commands := by
  intro message commands
  dsimp only
  have succeeded : ∀ event ∈ ((initial Recorder.initial.cleared).run commands).bus.board.log,
      event.Succeeded := by decide +kernel
  have apart : (initial Recorder.initial.cleared).SelectsApart commands := by
    refine selectsApart_of_slots 2 (fun slot => if slot = 0 then 1 else 2) ?_ ?_ ?_
    · decide
    · decide +kernel
    · decide
  exact ⟨⟨succeeded, apart⟩, (own_settings_in_run Recorder.initial commands).2 succeeded apart⟩

/-- Live devices of one controller have different chip selects. -/
def Distinct (session : Session Recorder) : Prop :=
  ∀ slot other device rival, slot ≠ other → session.slots slot = some device →
    session.slots other = some rival → device.controller = rival.controller →
      device.select ≠ rival.select

theorem distinct_of_slots {session : Session Recorder} (count : Nat)
    (beyond : ∀ slot, count ≤ slot → session.slots slot = none)
    (different : ∀ slot < count, ∀ other < slot, session.slots slot = none ∨
      (session.slots slot).map Device.select ≠ (session.slots other).map Device.select) :
    session.Distinct := by
  have inside : ∀ slot device, session.slots slot = some device → slot < count := by
    intro slot device live
    by_contra outside
    rw [beyond slot (Nat.le_of_not_lt outside)] at live
    cases live
  have ordered : ∀ slot other device rival, other < slot → session.slots slot = some device →
      session.slots other = some rival → device.select ≠ rival.select := by
    intro slot other device rival before live lived same
    rcases different slot (inside _ _ live) other before with none | distinct
    · rw [none] at live
      cases live
    · rw [live, lived] at distinct
      exact distinct (congrArg some same)
  intro slot other device rival differ live lived _
  rcases Nat.lt_or_gt_of_ne differ with before | after
  · exact (ordered other slot rival device before lived live).symm
  · exact ordered slot other device rival after live lived

/-- A device that moves to the chip select that another one drove last sends in the clock mode of the
other, although live devices have different chip selects at every time and every call succeeds. -/
theorem settings_borrowed_after_move :
    let commands : List Command :=
      [⟨0, .openDevice (sampleRequest 1)⟩, ⟨1, .openDevice { sampleRequest 2 with mode := 3 }⟩,
        ⟨1, .onDevice (.setSelect 3)⟩, ⟨0, .onDevice (.setSelect 2)⟩,
        ⟨0, .onDevice (.data (.roundTrip [1]))⟩]
    let start := initial Recorder.initial.cleared
    (∀ event ∈ (start.run commands).bus.board.log, event.status = none ∨ event.status = some 0) ∧
      (∀ time ≤ commands.length, (start.after commands time).Distinct) ∧
      ¬ start.EachOwn commands := by
  intro commands start
  let log := (start.run commands).bus.board.log
  let device : Device :=
    { controller := .spi0, speed := 1000000, select := 2, mode := .mode0, order := .msbFirst,
      platform := { slaves := 1, polarity := 0, supply := .vddio }, delays := .zero }
  refine ⟨by decide +kernel, ?_, ?_⟩
  · have different : ∀ time ≤ commands.length, ∀ slot < 2, ∀ other < slot,
        (start.after commands time).slots slot = none ∨
          ((start.after commands time).slots slot).map Device.select ≠
            ((start.after commands time).slots other).map Device.select := by decide +kernel
    have named : ∀ command ∈ commands, command.slot < 2 := by decide
    intro time within
    refine distinct_of_slots 2 (fun slot beyond => ?_) (different time within)
    refine slots_run_other _ start fun command found same => ?_
    have small := named command (List.mem_of_mem_take found)
    omega
  · intro each
    have live : (start.after commands 4).slots 0 = some device := by decide +kernel
    refine absurd (each 4 _ device (log.take 10) rfl
      ⟨.roundTrip [1], ⟨2, true, .inPlace [1], 1⟩, some 0, log.drop 11, rfl, live, ?_, ?_⟩) ?_
    · decide +kernel
    · decide +kernel
    · decide +kernel

end Session

end SharedSpi

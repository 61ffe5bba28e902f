import SharedSpi.Proofs.SharedControllers
import SharedSpi.Proofs.Standings
import SharedSpi.Proofs.StaleDevices

/-!
# Turns at a controller

A device has its turn at its controller when it is opened and at each of its
data calls. If every configuring call succeeds, a turn leaves the chip select of
the device in the select table, and every other command leaves table and
settings alone. So as long as devices that are live together never drive one
chip select, a device that finds its chip select in the table was the last to
have a turn, and finds its own settings at the controller.
-/

namespace SharedSpi

/-- An event that is added to a log comes after all of the log. -/
theorem split_of_late {log events before after : List BoardEvent} {event : BoardEvent}
    (split : log ++ events = before ++ event :: after) (late : log.length ≤ before.length) :
    ∃ first, before = log ++ first ∧ events = first ++ event :: after := by
  rcases List.append_eq_append_iff.mp split with ⟨first, same, rest⟩ | ⟨first, same, rest⟩
  · exact ⟨first, same, rest⟩
  · have none : first = [] := by
      apply List.eq_nil_of_length_eq_zero
      rw [same, List.length_append] at late
      omega
    subst none
    exact ⟨[], by simpa using same.symm, by simpa using rest.symm⟩

/-- An event that comes before the end of a log is in the log. -/
theorem split_of_early {log events before after : List BoardEvent} {event : BoardEvent}
    (split : log ++ events = before ++ event :: after) (early : before.length < log.length) :
    ∃ later, log = before ++ event :: later := by
  rcases List.append_eq_append_iff.mp split with ⟨first, same, _⟩ | ⟨first, same, rest⟩
  · rw [same, List.length_append] at early
    omega
  · cases first with
    | nil =>
        rw [same, List.append_nil] at early
        omega
    | cons head first =>
        obtain ⟨rfl, _⟩ := List.cons.inj rest
        exact ⟨first, same⟩

/-- An event that is none of the first events comes after them. -/
theorem split_after {quiet events before after : List BoardEvent} {event : BoardEvent}
    (split : quiet ++ events = before ++ event :: after) (none : event ∉ quiet) :
    ∃ first, before = quiet ++ first ∧ events = first ++ event :: after := by
  rcases List.append_eq_append_iff.mp split with ⟨first, same, rest⟩ | ⟨first, same, rest⟩
  · exact ⟨first, same, rest⟩
  · cases first with
    | nil => exact ⟨[], by simpa using same.symm, by simpa using rest.symm⟩
    | cons head first =>
        obtain ⟨rfl, _⟩ := List.cons.inj rest
        exact (none (by rw [same]; simp)).elim

/-- An event that is none of the last events comes before them. -/
theorem split_before {events quiet before after : List BoardEvent} {event : BoardEvent}
    (split : events ++ quiet = before ++ event :: after) (none : event ∉ quiet) :
    ∃ last, events = before ++ event :: last := by
  rcases List.append_eq_append_iff.mp split with ⟨last, _, rest⟩ | ⟨last, same, rest⟩
  · exact (none (by rw [rest]; simp)).elim
  · cases last with
    | nil =>
        have listed : event :: after = quiet := rest
        exact (none (listed ▸ List.mem_cons_self)).elim
    | cons head last =>
        obtain ⟨rfl, _⟩ := List.cons.inj rest
        exact ⟨last, same⟩

/-- One and the same device, but for its chip select and the delays that it remembers. -/
def Device.Continues (old device : Device) : Prop :=
  device = { old with select := device.select, delays := device.delays }

namespace Device.Continues

variable {old middle device : Device}

theorem refl (device : Device) : Continues device device := rfl

theorem trans (left : Continues old middle) (right : Continues middle device) :
    Continues old device := by
  unfold Continues at left right ⊢
  rw [right, left]

theorem controller (continues : Continues old device) : device.controller = old.controller := by
  rw [continues]

theorem suits (continues : Continues old device) (select : device.select = old.select)
    (standing : Standing) : standing.Suits device ↔ standing.Suits old := by
  rw [continues, select]
  rfl

end Device.Continues

namespace Session

theorem step_of_data {session : Session Recorder} {command : Command} {device : Device}
    {call : DataCall} (asked : command.action = .onDevice (.data call))
    (live : session.slots command.slot = some device) :
    session.step command =
      session.putLink command.slot ((session.link device).call call).link := by
  obtain ⟨slot, action⟩ := command
  cases asked
  simp only [step, perform, live]
  rfl

/-- Nothing happened that bears on the settings of a controller. -/
structure Idle (start : Bank Standing) (before after : Session Recorder) : Prop where
  table : after.bus.table = before.bus.table
  settings : ∀ controller,
    ((standings start after.bus.board.log).get controller).settings =
      ((standings start before.bus.board.log).get controller).settings
  continues : ∀ slot device, after.slots slot = some device →
    ∃ old, before.slots slot = some old ∧ old.Continues device

/-- The device of a slot had its turn at its controller and left its chip select in the table. -/
structure Turn (start : Bank Standing) (slot : Nat) (device : Device)
    (before after : Session Recorder) : Prop where
  live : after.slots slot = some device
  continues : ∀ other, other ≠ slot → ∀ kept, after.slots other = some kept →
    ∃ old, before.slots other = some old ∧ old.Continues kept
  table : ∀ controller, controller ≠ device.controller →
    after.bus.table.last.get controller = before.bus.table.last.get controller
  settings : ∀ controller, controller ≠ device.controller →
    ((standings start after.bus.board.log).get controller).settings =
      ((standings start before.bus.board.log).get controller).settings
  entry : after.bus.table.last.get device.controller = device.select

theorem Idle.refl (start : Bank Standing) (session : Session Recorder) :
    Idle start session session :=
  ⟨rfl, fun _ => rfl, fun _ device live => ⟨device, live, .refl device⟩⟩

theorem Idle.trans {start : Bank Standing} {first second third : Session Recorder}
    (left : Idle start first second) (right : Idle start second third) :
    Idle start first third := by
  refine ⟨right.table.trans left.table,
    fun controller => (right.settings controller).trans (left.settings controller), ?_⟩
  intro slot device live
  obtain ⟨middle, lived, continues⟩ := right.continues slot device live
  obtain ⟨old, before, alsoContinues⟩ := left.continues slot middle lived
  exact ⟨old, before, alsoContinues.trans continues⟩

theorem Idle.then {start : Bank Standing} {first second third : Session Recorder} {slot : Nat}
    {device : Device} (left : Idle start first second)
    (right : Turn start slot device second third) : Turn start slot device first third where
  live := right.live
  continues other differ kept found := by
    obtain ⟨middle, lived, continues⟩ := right.continues other differ kept found
    obtain ⟨old, before, alsoContinues⟩ := left.continues other middle lived
    exact ⟨old, before, alsoContinues.trans continues⟩
  table controller other := by rw [right.table controller other, left.table]
  settings controller other := by rw [right.settings controller other, left.settings]
  entry := right.entry

/-- What a device does on its own controller is a turn of it if the table comes to hold its chip
select. -/
theorem turn_putLink {start : Bank Standing} {session : Session Recorder} {device : Device}
    {changed : Link Recorder} {deeds : List (Deed Recorder)} (slot : Nat)
    (course : Link.Course (session.link device) deeds changed)
    (entry : changed.bus.table.last.get device.controller = device.select) :
    Turn start slot changed.device session (session.putLink slot changed) where
  live := slots_putLink_same _ _ _
  continues other differ kept found := by
    rw [slots_putLink_other _ differ] at found
    exact ⟨kept, found, .refl kept⟩
  table controller other := course.confined.table controller
    (by rwa [course.confined.controller] at other)
  settings controller other := by
    obtain ⟨events, grown, own⟩ := course.concern
    rw [course.confined.controller] at other
    rw [bus_putLink, show changed.bus.board.log = _ from grown, standings_append,
      standings_other fun event found => own event found controller other]
    rfl
  entry := by
    rw [course.confined.controller, course.confined.select]
    exact entry

/-- If every configuring call succeeds, a move without deeds bears on no settings, and one with deeds
is the turn of the device that it opens, which leaves its settings at the controller. -/
theorem Move.turn {slot : Nat} {before after : Session Recorder} {deeds : List (Deed Recorder)}
    (move : Move slot before deeds after)
    (succeeded : ∀ event ∈ after.bus.board.log, event.Succeeded) (start : Bank Standing) :
    (deeds = [] ∧ Idle start before after) ∨
      (deeds = [.configured] ∧ ∃ device, Turn start slot device before after ∧
        ((standings start after.bus.board.log).get device.controller).Suits device) := by
  cases move with
  | stay => exact Or.inl ⟨rfl, .refl start before⟩
  | @opened device unused accepted =>
      obtain ⟨board, same⟩ := Link.configure_of_accepted accepted
      have entry : (before.link device).configure.link.bus.table.last.get device.controller =
          device.select := by
        rw [link, same]
        exact Bank.get_set_same _ _ _
      have confined := Link.configure_confined ⟨before.bus, device⟩
      refine Or.inr ⟨rfl, _, turn_putLink slot (.configured accepted) entry, ?_⟩
      rw [confined.controller]
      exact (Link.suits_congr confined.device _).mpr (Link.suits_configure succeeded start)
  | @refused device error failed =>
      rw [(Link.configure_of_succeeded succeeded).1] at failed
      cases failed
  | @closed device live =>
      refine Or.inl ⟨rfl, rfl, fun controller => ?_, fun asked kept found => ?_⟩
      · simp only [closeSlot, Link.close, Recorder.shutdown_eq, Recorder.record, standings_append]
        exact settings_standings (by simp) _
      · by_cases same : asked = slot
        · simp [closeSlot, setSlot, same] at found
        · exact ⟨kept, by simpa [closeSlot, setSlot, same] using found, .refl kept⟩
  | @retargeted device live select =>
      refine Or.inl ⟨rfl, rfl, fun controller => rfl, fun asked kept found => ?_⟩
      by_cases same : asked = slot
      · rw [same, slots_putLink_same] at found
        refine ⟨device, same ▸ live, ?_⟩
        rw [← Option.some.inj found]
        rfl
      · rw [slots_putLink_other _ same] at found
        exact ⟨kept, found, .refl kept⟩

/-- A command has the device that it leaves in its slot drive its chip select: it puts the device
there, or makes a data call on it. -/
def Driving (session : Session Recorder) (command : Command) : Prop :=
  session.Reseats command ∨ ∃ call, command.action = .onDevice (.data call)

/-- If every configuring call succeeds, a command bears on no settings, or is the turn of the device
that it leaves in its slot. This leaves its settings at the controller, unless a data call found the
chip select in the table. -/
theorem step_turn (session : Session Recorder) (command : Command)
    (succeeded : ∀ event ∈ (session.step command).bus.board.log, event.Succeeded)
    (start : Bank Standing) :
    (Idle start session (session.step command) ∧
        ∀ device, (session.step command).slots command.slot = some device →
          ¬ session.Driving command) ∨
      ∃ device, Turn start command.slot device session (session.step command) ∧
        session.Driving command ∧
        (((standings start (session.step command).bus.board.log).get device.controller).Suits
            device ∨
          ∃ old call, command.action = .onDevice (.data call) ∧
            session.slots command.slot = some old ∧
            session.bus.table.last.get old.controller = old.select ∧
            device = { old with delays := device.delays } ∧
            ((standings start (session.step command).bus.board.log).get old.controller).settings =
              ((standings start session.bus.board.log).get old.controller).settings) := by
  by_cases called : ∃ call, command.action = .onDevice (.data call)
  · obtain ⟨call, asked⟩ := called
    cases live : session.slots command.slot with
    | none =>
        have same : session.step command = session := by
          obtain ⟨slot, action⟩ := command
          cases asked
          simp only [step, perform, live, answering]
        rw [same, live]
        exact Or.inl ⟨.refl start session, fun device impossible => by cases impossible⟩
    | some device =>
        have same := step_of_data asked live
        have course := (session.link device).call_course call
        rw [same] at succeeded ⊢
        obtain ⟨entry, settled⟩ := Link.call_settled succeeded start
        refine Or.inr ⟨_, turn_putLink command.slot course entry, Or.inr ⟨call, asked⟩, ?_⟩
        rcases settled with own | ⟨found, still⟩
        · refine Or.inl ?_
          rw [course.confined.controller]
          exact (Link.suits_congr course.confined.device _).mpr own
        · exact Or.inr ⟨device, call, asked, rfl, found, course.confined.device, still⟩
  · rcases session.step_cases command with
      ⟨_, call, asked, _⟩ | ⟨settings, asked, same, deeds⟩ | ⟨middle, first, second⟩
    · exact (called ⟨call, asked⟩).elim
    · have idle : Idle start session (session.adjusted settings) :=
        ⟨rfl, fun _ => rfl, fun _ device live => ⟨device, live, .refl device⟩⟩
      refine Or.inl ⟨by rw [same]; exact idle, ?_⟩
      rintro device live (reseats | data)
      · exact not_reseats_of_idle deeds live reseats
      · exact called data
    · obtain ⟨events, grown⟩ := second.serves.grown
      rcases first.turn (forall_mem_of_grown grown succeeded) start with
        ⟨_, idle⟩ | ⟨impossible, _⟩
      · rcases second.turn succeeded start with ⟨none, alsoIdle⟩ | ⟨opened, device, turn, own⟩
        · refine Or.inl ⟨idle.trans alsoIdle, ?_⟩
          rintro device live (reseats | data)
          · exact not_reseats_of_idle none live reseats
          · exact called data
        · refine Or.inr ⟨device, idle.then turn, Or.inl ?_, Or.inl own⟩
          exact (reseats_of_deeds (by rw [opened]; simp)).resolve_right called
      · cases impossible

variable {start : Session Recorder} {commands : List Command} {time slot : Nat} {command : Command}

/-- The device of a slot had its last turn at a time, as `mine`, and nobody else had one at its
controller since: its chip select of then stands in the table, and its settings at the controller. -/
structure Attended (start : Session Recorder) (commands : List Command) (time slot : Nat)
    (device : Device) (turn : Nat) (mine : Device) : Prop where
  early : turn < time
  drives : start.Drives commands slot turn mine
  held : start.Holds commands slot (turn + 1) time
  continues : mine.Continues device
  last : ∀ later other rival, turn < later → later < time →
    start.Drives commands other later rival → rival.controller ≠ device.controller
  entry : (start.after commands time).bus.table.last.get device.controller = mine.select
  own : ((standings start.bus.board.unused (start.after commands time).bus.board.log).get
    device.controller).Suits mine

theorem Attended.succ {old device mine : Device} {turn : Nat}
    (attended : start.Attended commands time slot old turn mine)
    (next : commands[time]? = some command) (continues : old.Continues device)
    (table : (start.after commands (time + 1)).bus.table.last.get device.controller =
      (start.after commands time).bus.table.last.get device.controller)
    (settings : ((standings start.bus.board.unused
        (start.after commands (time + 1)).bus.board.log).get device.controller).settings =
      ((standings start.bus.board.unused (start.after commands time).bus.board.log).get
        device.controller).settings)
    (kept : command.slot = slot → ¬ (start.after commands time).Reseats command)
    (elsewhere : ∀ rival, start.Drives commands command.slot time rival →
      rival.controller ≠ device.controller) :
    start.Attended commands (time + 1) slot device turn mine where
  early := Nat.lt_succ_of_lt attended.early
  drives := attended.drives
  held := attended.held.succ attended.early next kept
  continues := attended.continues.trans continues
  last := by
    intro later other rival after before driven
    rcases Nat.lt_succ_iff_lt_or_eq.mp before with old | rfl
    · rw [continues.controller]
      exact attended.last later other rival after old driven
    · obtain ⟨asked, found, rfl, _⟩ := id driven
      cases next.symm.trans found
      exact elsewhere rival driven
  entry := by
    rw [table, continues.controller]
    exact attended.entry
  own := by
    unfold Standing.Suits
    rw [settings, continues.controller]
    exact attended.own

theorem Rivalled.succ {old device : Device} (rivalled : start.Rivalled commands time slot old)
    (next : commands[time]? = some command) (continues : old.Continues device)
    (table : (start.after commands (time + 1)).bus.table.last.get device.controller =
      (start.after commands time).bus.table.last.get device.controller)
    (kept : command.slot = slot → ¬ (start.after commands time).Reseats command) :
    start.Rivalled commands (time + 1) slot device := by
  obtain ⟨other, drive, rival, differ, early, drives, controller, taken, held⟩ := rivalled
  rw [← continues.controller] at controller taken
  exact ⟨other, drive, rival, differ, Nat.lt_succ_of_lt early, drives, controller,
    table.trans taken, held.succ early next kept⟩

theorem run_after (start : Session Recorder) (commands : List Command) (time : Nat) :
    ∃ events, (start.run commands).bus.board.log =
      (start.after commands time).bus.board.log ++ events := by
  have whole := start.run_append (commands.take time) (commands.drop time)
  rw [List.take_append_drop] at whole
  rw [whole]
  exact run_grown _ _

/-- Where every configuring call of a run succeeds, so does every one until some time. -/
theorem succeeded_after (succeeded : ∀ event ∈ (start.run commands).bus.board.log, event.Succeeded)
    (time : Nat) : ∀ event ∈ (start.after commands time).bus.board.log, event.Succeeded := by
  obtain ⟨events, grown⟩ := start.run_after commands time
  exact forall_mem_of_grown grown succeeded

/-- If every configuring call succeeds and devices that are live together never drive one chip select,
every device was the last to have a turn at its controller, or has a rival there. -/
theorem attended_or_rivalled (empty : ∀ slot, start.slots slot = none)
    (succeeded : ∀ event ∈ (start.run commands).bus.board.log, event.Succeeded)
    (apart : start.SelectsApart commands) (time : Nat) (within : time ≤ commands.length) :
    ∀ slot device, (start.after commands time).slots slot = some device →
      (∃ turn mine, start.Attended commands time slot device turn mine) ∨
        start.Rivalled commands time slot device := by
  induction time with
  | zero =>
      intro slot device live
      rw [after, List.take_zero, run_nil, empty] at live
      cases live
  | succ time ih =>
      have before := ih (Nat.le_of_succ_le within)
      obtain ⟨command, next⟩ : ∃ command, commands[time]? = some command :=
        ⟨_, List.getElem?_eq_getElem within⟩
      have cleanly := succeeded_after succeeded (time + 1)
      have effect := (start.after commands time).step_turn command
        (by rw [← start.after_succ next]; exact cleanly) start.bus.board.unused
      rw [← start.after_succ next] at effect
      intro slot kept live
      -- What is neither the device's turn nor a turn at its controller leaves it as it stands.
      have carry (old : Device) (lived : (start.after commands time).slots slot = some old)
          (continues : old.Continues kept)
          (table : (start.after commands (time + 1)).bus.table.last.get kept.controller =
            (start.after commands time).bus.table.last.get kept.controller)
          (settings : ((standings start.bus.board.unused
              (start.after commands (time + 1)).bus.board.log).get kept.controller).settings =
            ((standings start.bus.board.unused (start.after commands time).bus.board.log).get
              kept.controller).settings)
          (stays : command.slot = slot → ¬ (start.after commands time).Reseats command)
          (elsewhere : ∀ rival, start.Drives commands command.slot time rival →
            rival.controller ≠ kept.controller) :
          (∃ turn mine, start.Attended commands (time + 1) slot kept turn mine) ∨
            start.Rivalled commands (time + 1) slot kept := by
        rcases before slot old lived with ⟨turn, mine, attended⟩ | rivalled
        · exact Or.inl ⟨turn, mine, attended.succ next continues table settings stays elsewhere⟩
        · exact Or.inr (rivalled.succ next continues table stays)
      rcases effect with ⟨idle, silent⟩ | ⟨device, turn, driving, settled⟩
      · obtain ⟨old, lived, continues⟩ := idle.continues slot kept live
        refine carry old lived continues (by rw [idle.table]) (idle.settings _) ?_ ?_
        · rintro rfl reseats
          exact silent kept live (Or.inl reseats)
        · rintro rival ⟨asked, found, _, driven, opened⟩
          cases next.symm.trans found
          exact (silent rival opened driven).elim
      · have drives : start.Drives commands command.slot time device :=
          ⟨command, next, rfl, driving, turn.live⟩
        by_cases same : slot = command.slot
        · subst same
          cases turn.live.symm.trans live
          refine Or.inl ⟨time, kept, Nat.lt_succ_self time, drives, holds_self _ _ _ _,
            .refl kept, fun _ _ _ _ _ => by omega, turn.entry, ?_⟩
          rcases settled with own | ⟨old, call, asked, lived, found, unchanged, still⟩
          · exact own
          · have controller : kept.controller = old.controller := by rw [unchanged]
            rcases before command.slot old lived with ⟨turn, mine, attended⟩ | rivalled
            · rw [Link.suits_congr unchanged, controller, Standing.Suits, still]
              exact (attended.continues.suits (found.symm.trans attended.entry) _).mpr attended.own
            · exact (not_rivalled apart next asked lived found rivalled).elim
        · obtain ⟨old, lived, continues⟩ := turn.continues slot same kept live
          by_cases shared : kept.controller = device.controller
          · refine Or.inr ⟨command.slot, time, device, Ne.symm same, Nat.lt_succ_self time, drives,
              shared.symm, ?_, holds_self _ _ _ _⟩
            rw [shared]
            exact turn.entry
          · refine carry old lived continues (turn.table _ shared) (turn.settings _ shared)
              (fun impossible => (same impossible.symm).elim) ?_
            rintro rival ⟨asked, found, _, _, opened⟩
            cases turn.live.symm.trans opened
            exact Ne.symm shared

theorem Move.slots_other {slot other : Nat} {before after : Session Recorder}
    {deeds : List (Deed Recorder)} (move : Move slot before deeds after) (differ : other ≠ slot) :
    after.slots other = before.slots other := by
  cases move with
  | stay => rfl
  | opened unused accepted => exact slots_putLink_other _ differ _
  | refused failed => rfl
  | closed live => simp [closeSlot, setSlot, differ]
  | retargeted live select => exact slots_putLink_other _ differ _

theorem slots_step_other (session : Session Recorder) {command : Command} {other : Nat}
    (differ : other ≠ command.slot) : (session.step command).slots other = session.slots other := by
  rcases session.step_cases command with
    ⟨_, _, _, _, same, _⟩ | ⟨_, _, same, _⟩ | ⟨_, first, second⟩
  · rw [same]
    exact slots_putLink_other _ differ _
  · rw [same]
    rfl
  · rw [second.slots_other differ, first.slots_other differ]

/-- A slot that no command names keeps what it holds. -/
theorem slots_run_other (commands : List Command) (session : Session Recorder) {other : Nat}
    (unnamed : ∀ command ∈ commands, command.slot ≠ other) :
    (session.run commands).slots other = session.slots other := by
  induction commands generalizing session with
  | nil => rfl
  | cons command rest ih =>
      rw [run_cons, ih _ fun later found => unnamed later (List.mem_cons_of_mem _ found),
        slots_step_other _ (unnamed command List.mem_cons_self).symm]

/-- Devices that keep chip selects of their own are apart. -/
theorem selectsApart_of_slots (count : Nat) (select : Nat → UInt8)
    (named : ∀ command ∈ commands, command.slot < count)
    (fixed : ∀ time ≤ commands.length, ∀ slot < count,
      ((start.after commands time).slots slot).all (fun device => device.select = select slot) = true)
    (different : ∀ slot < count, ∀ other < count, slot ≠ other → select slot ≠ select other) :
    start.SelectsApart commands := by
  have own : ∀ slot time device, start.Drives commands slot time device →
      slot < count ∧ device.select = select slot := by
    rintro slot time device ⟨command, next, rfl, _, live⟩
    obtain ⟨within, rfl⟩ := List.getElem?_eq_some_iff.mp next
    have inside := named _ (List.getElem_mem within)
    have kept := fixed (time + 1) within _ inside
    rw [live] at kept
    exact ⟨inside, by simpa using kept⟩
  intro slot other common first second device rival differ drives rivals _ _ _
  obtain ⟨inside, mine⟩ := own _ _ _ drives
  obtain ⟨alsoInside, theirs⟩ := own _ _ _ rivals
  rw [mine, theirs]
  exact different slot inside other alsoInside differ

end Session

end SharedSpi

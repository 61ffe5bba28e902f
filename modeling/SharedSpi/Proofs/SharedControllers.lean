import SharedSpi.Proofs.DelaysInEffect
import SharedSpi.Proofs.History

/-!
# Devices that share a controller

Each device remembers the delays that it programmed, and the timing register of
a controller is shared. A device finds its delays in effect unless another
device had the controller configured in between, and then the table holds the
chip select of that device. So as long as devices that are live together never
drive one chip select, every transaction is run with the delays in effect that
its own device asked for last.
-/

namespace SharedSpi

namespace Deed

variable {σ : Type}

/-- The deeds in one slot. -/
def ofSlot (slot : Nat) (history : List (Nat × Deed σ)) : List (Deed σ) :=
  history.filterMap fun told => if told.1 = slot then some told.2 else none

/-- The delays that the last message in a slot asked for whose delays have ticks, since the last
configuration for the device of the slot; zero if there is no such message. -/
def latestDelays (clocks : Bank UInt32) (slot : Nat) (history : List (Nat × Deed σ)) :
    SelectDelays :=
  (ofSlot slot history).foldl (update clocks) .zero

theorem ofSlot_append (slot : Nat) (first second : List (Nat × Deed σ)) :
    ofSlot slot (first ++ second) = ofSlot slot first ++ ofSlot slot second :=
  List.filterMap_append

theorem ofSlot_cons_same (slot : Nat) (deed : Deed σ) (history : List (Nat × Deed σ)) :
    ofSlot slot ((slot, deed) :: history) = deed :: ofSlot slot history := by
  simp [ofSlot]

theorem ofSlot_cons_other {slot other : Nat} (differ : other ≠ slot) (deed : Deed σ)
    (history : List (Nat × Deed σ)) :
    ofSlot slot ((other, deed) :: history) = ofSlot slot history := by
  simp [ofSlot, differ]

theorem ofSlot_map_same (slot : Nat) (deeds : List (Deed σ)) :
    ofSlot slot (deeds.map (slot, ·)) = deeds := by
  induction deeds with
  | nil => rfl
  | cons deed rest ih => rw [List.map_cons, ofSlot_cons_same, ih]

theorem ofSlot_map_other {slot other : Nat} (differ : other ≠ slot) (deeds : List (Deed σ)) :
    ofSlot slot (deeds.map (other, ·)) = [] := by
  induction deeds with
  | nil => rfl
  | cons deed rest ih => rw [List.map_cons, ofSlot_cons_other differ, ih]

theorem latestDelays_concat (clocks : Bank UInt32) (slot : Nat) (history : List (Nat × Deed σ))
    (deed : Deed σ) :
    latestDelays clocks slot (history ++ [(slot, deed)]) =
      deed.update clocks (latestDelays clocks slot history) := by
  rw [latestDelays, ofSlot_append, ofSlot_cons_same, List.foldl_append]
  rfl

end Deed

namespace Session

section

variable {σ ε : Type} [Bench σ ε]

/-- The session after the first commands of a list. -/
def after (session : Session σ) (commands : List Command) (time : Nat) : Session σ :=
  session.run (commands.take time)

theorem after_succ (session : Session σ) {commands : List Command} {time : Nat} {command : Command}
    (next : commands[time]? = some command) :
    session.after commands (time + 1) = (session.after commands time).step command := by
  rw [after, List.take_add_one, next, Option.toList_some, run_concat]
  rfl

theorem history_succ (session : Session σ) {commands : List Command} {time : Nat}
    {command : Command} (next : commands[time]? = some command) :
    session.history (commands.take (time + 1)) = session.history (commands.take time) ++
      ((session.after commands time).deeds command).map (command.slot, ·) := by
  rw [List.take_add_one, next, Option.toList_some, history_append, history, history,
    List.append_nil]
  rfl

/-- Whether a command ends the life of the device in its slot, or puts a new one there. -/
def Reseats (session : Session σ) (command : Command) : Prop :=
  match command.action with
  | .openDevice request => ∃ device, (session.bus.openRequested request).device = .ok device
  | .onDevice (.reopen _) => True
  | .onDevice .close => True
  | _ => False

/-- Between two times a slot holds one and the same device. -/
def Holds (session : Session σ) (commands : List Command) (slot one other : Nat) : Prop :=
  ∀ time command, min one other ≤ time → time < max one other → commands[time]? = some command →
    command.slot = slot → ¬ (session.after commands time).Reseats command

/-- The command at a time has the device of a slot drive its chip select: it opens the device, or
makes a data call on it. The device is the one that the command leaves in the slot. -/
def Drives (session : Session σ) (commands : List Command) (slot time : Nat) (device : Device) :
    Prop :=
  ∃ command, commands[time]? = some command ∧ command.slot = slot ∧
    ((session.after commands time).Reseats command ∨
      ∃ call, command.action = .onDevice (.data call)) ∧
    (session.after commands (time + 1)).slots slot = some device

/-- Two devices of one controller that are live at a common time never drive one chip select. -/
def SelectsApart (session : Session σ) (commands : List Command) : Prop :=
  ∀ slot other common first second device rival, slot ≠ other →
    session.Drives commands slot first device → session.Drives commands other second rival →
      session.Holds commands slot common (first + 1) →
        session.Holds commands other common (second + 1) →
          device.controller = rival.controller → device.select ≠ rival.select

/-- A command with deeds makes a data call or puts a new device into its slot. -/
theorem reseats_of_deeds {session : Session σ} {command : Command}
    (active : session.deeds command ≠ []) :
    session.Reseats command ∨ ∃ call, command.action = .onDevice (.data call) := by
  obtain ⟨slot, action⟩ := command
  cases action with
  | adjust settings => exact (active rfl).elim
  | lookUp controller select => exact (active rfl).elim
  | openDevice request =>
      refine Or.inl ?_
      simp only [deeds, openDeeds] at active
      cases result : (session.bus.openRequested request).device with
      | ok device => exact ⟨device, result⟩
      | error error =>
          rw [result] at active
          exact (active rfl).elim
  | onDevice action =>
      cases action with
      | reopen request => exact Or.inl True.intro
      | close => exact Or.inl True.intro
      | data call => exact Or.inr ⟨call, rfl⟩
      | setSelect select =>
          simp only [deeds] at active
          cases live : session.slots slot <;> simp [live] at active
      | describe =>
          simp only [deeds] at active
          cases live : session.slots slot <;> simp [live] at active

/-- A command without deeds that leaves a device in its slot left the one there that was there. -/
theorem not_reseats_of_idle {session : Session σ} {command : Command}
    (idle : session.deeds command = []) {device : Device}
    (live : (session.step command).slots command.slot = some device) :
    ¬ session.Reseats command := by
  obtain ⟨slot, action⟩ := command
  cases action with
  | adjust settings => exact id
  | lookUp controller select => exact id
  | openDevice request =>
      rintro ⟨opened, result⟩
      simp only [deeds, openDeeds, result] at idle
      cases idle
  | onDevice action =>
      cases held : session.slots slot with
      | none =>
          simp only [step, perform, held, answering] at live
          cases live
      | some old =>
          cases action with
          | setSelect select => exact id
          | describe => exact id
          | data call => exact id
          | close =>
              simp only [step, perform, held, onDevice, answering, closeSlot, setSlot, if_true]
                at live
              cases live
          | reopen request =>
              simp only [deeds, held, openDeeds] at idle
              simp only [step, perform, held] at live
              cases result : ((session.closeSlot slot old).bus.openRequested request).device with
              | ok opened =>
                  rw [result] at idle
                  cases idle
              | error error =>
                  have emptied : ((session.closeSlot slot old).openInto slot request).session.slots
                      slot = none := by
                    simp only [openInto, result, answering]
                    simp [closeSlot, setSlot]
                  rw [onDevice, emptied] at live
                  cases live

end

/-- The device of a slot with the bus. -/
def link (session : Session Recorder) (device : Device) : Link Recorder := ⟨session.bus, device⟩

/-- Every device of the later session was there before, with the same controller and delays. -/
def Stays (before after : Session Recorder) (slot : Nat) : Prop :=
  ∀ device, after.slots slot = some device → ∃ old, before.slots slot = some old ∧
    old.controller = device.controller ∧ old.delays = device.delays

/-- Nothing happened that bears on delays. -/
structure Calm (before after : Session Recorder) : Prop where
  clocks : after.bus.board.clocks = before.bus.board.clocks
  timing : after.bus.board.timing = before.bus.board.timing
  table : after.bus.table = before.bus.table
  stays : ∀ slot, Stays before after slot

/-- A device in a slot drove its chip select, and nothing else happened that bears on delays. -/
structure Took (slot : Nat) (device : Device) (before after : Session Recorder) : Prop where
  live : after.slots slot = some device
  clocks : after.bus.board.clocks = before.bus.board.clocks
  timing : ∀ controller, controller ≠ device.controller →
    after.bus.board.timing.get controller = before.bus.board.timing.get controller
  table : ∀ controller, controller ≠ device.controller →
    after.bus.table.last.get controller = before.bus.table.last.get controller
  entry : after.bus.table.last.get device.controller = device.select
  inEffect : (after.link device).InEffect
  stays : ∀ other, other ≠ slot → Stays before after other

theorem Stays.refl (session : Session Recorder) (slot : Nat) : Stays session session slot :=
  fun device live => ⟨device, live, rfl, rfl⟩

theorem Stays.trans {first second third : Session Recorder} {slot : Nat}
    (left : Stays first second slot) (right : Stays second third slot) :
    Stays first third slot := by
  intro device live
  obtain ⟨middle, lived, controller, delays⟩ := right device live
  obtain ⟨old, before, same, alsoSame⟩ := left middle lived
  exact ⟨old, before, same.trans controller, alsoSame.trans delays⟩

theorem Calm.trans {first second third : Session Recorder} (left : Calm first second)
    (right : Calm second third) : Calm first third :=
  ⟨right.clocks.trans left.clocks, right.timing.trans left.timing, right.table.trans left.table,
    fun slot => (left.stays slot).trans (right.stays slot)⟩

theorem Calm.then {first second third : Session Recorder} {slot : Nat} {device : Device}
    (left : Calm first second) (right : Took slot device second third) :
    Took slot device first third where
  live := right.live
  clocks := right.clocks.trans left.clocks
  timing controller other := by rw [right.timing controller other, left.timing]
  table controller other := by rw [right.table controller other, left.table]
  entry := right.entry
  inEffect := right.inEffect
  stays other differ := (left.stays other).trans (right.stays other differ)

/-- A confined change of a device that ends with its delays in effect. -/
theorem took_putLink {session : Session Recorder} {device : Device} {changed : Link Recorder}
    (slot : Nat) (confined : Link.Confined (session.link device) changed)
    (entry : changed.bus.table.last.get device.controller = device.select)
    (inEffect : changed.InEffect) :
    Took slot changed.device session (session.putLink slot changed) where
  live := slots_putLink_same _ _ _
  clocks := confined.clocks
  timing controller other := confined.timing controller (by rwa [confined.controller] at other)
  table controller other := confined.table controller (by rwa [confined.controller] at other)
  entry := by
    rw [confined.controller, confined.select]
    exact entry
  inEffect := inEffect
  stays other differ := by
    intro kept live
    rw [slots_putLink_other _ differ] at live
    exact ⟨kept, live, rfl, rfl⟩

/-- A move without deeds bears on no delays; one with deeds opens a device. -/
theorem Move.effect {slot : Nat} {before after : Session Recorder} {deeds : List (Deed Recorder)}
    (move : Move slot before deeds after) :
    (deeds = [] ∧ Calm before after) ∨
      (deeds = [.configured] ∧ ∃ device, device.delays = .zero ∧ Took slot device before after) := by
  cases move with
  | stay => exact Or.inl ⟨rfl, rfl, rfl, rfl, .refl before⟩
  | @opened device unused accepted =>
      obtain ⟨inEffect, zero⟩ := Link.configure_inEffect accepted
      have confined := (before.link device).configure_confined
      refine Or.inr ⟨rfl, _, zero, took_putLink slot confined ?_ inEffect⟩
      obtain ⟨board, same⟩ := Link.configure_of_accepted accepted
      rw [same]
      exact Bank.get_set_same _ _ _
  | @refused device error failed =>
      obtain ⟨board, same, clocks, timing⟩ := Link.configure_of_refused failed
      rw [same]
      exact Or.inl ⟨rfl, clocks, timing, rfl, fun asked kept live => ⟨kept, live, rfl, rfl⟩⟩
  | @closed device live =>
      refine Or.inl ⟨rfl, rfl, rfl, rfl, fun asked kept found => ?_⟩
      by_cases same : asked = slot
      · simp [closeSlot, setSlot, same] at found
      · exact ⟨kept, by simpa [closeSlot, setSlot, same] using found, rfl, rfl⟩
  | @retargeted device live select =>
      refine Or.inl ⟨rfl, rfl, rfl, rfl, fun asked kept found => ?_⟩
      by_cases same : asked = slot
      · rw [same, slots_putLink_same] at found
        refine ⟨device, same ▸ live, ?_, ?_⟩
        · rw [← Option.some.inj found]
          rfl
        · rw [← Option.some.inj found]
          rfl
      · rw [slots_putLink_other _ same] at found
        exact ⟨kept, found, rfl, rfl⟩

/-- A command bears on no delays, or has a device drive its chip select and leaves it with the delays
in effect that its deeds call for. -/
theorem step_effect (session : Session Recorder) (command : Command) (current : SelectDelays)
    (steady : ∀ settings, command.action = .adjust settings →
      (Bench.adjust session.bus.board settings).clocks = session.bus.board.clocks ∧
        (Bench.adjust session.bus.board settings).timing = session.bus.board.timing)
    (remembered : ∀ device, session.slots command.slot = some device → device.delays = current)
    (trusted : ∀ device call, command.action = .onDevice (.data call) →
      session.slots command.slot = some device →
        session.bus.table.last.get device.controller = device.select →
          (session.link device).InEffect) :
    (session.deeds command = [] ∧ Calm session (session.step command)) ∨
      ∃ device, Took command.slot device session (session.step command) ∧
        (session.Reseats command ∨ ∃ call, command.action = .onDevice (.data call)) ∧
        device.delays =
            (session.deeds command).foldl (Deed.update session.bus.board.clocks) current ∧
          Deed.EachEffective session.bus.board.clocks current (session.deeds command) := by
  rcases session.step_cases command with
    ⟨device, call, asked, live, same, deeds⟩ | ⟨settings, asked, same, deeds⟩ |
      ⟨middle, first, second⟩
  · have now := remembered device live
    rw [same, deeds]
    rcases (session.link device).call_effective call (trusted device call asked live) with
      ⟨idle, board, untouched, clocks, timing⟩ | ⟨inEffect, entry, ended, effective⟩
    · refine Or.inl ⟨idle, ?_⟩
      rw [link] at untouched
      rw [untouched]
      refine ⟨clocks, timing, rfl, fun asked kept found => ?_⟩
      by_cases own : asked = command.slot
      · rw [own, slots_putLink_same] at found
        cases found
        exact ⟨device, own ▸ live, rfl, rfl⟩
      · rw [slots_putLink_other _ own] at found
        exact ⟨kept, found, rfl, rfl⟩
    · have confined := ((session.link device).call_course call).confined
      rw [← now]
      exact Or.inr ⟨_, took_putLink command.slot confined entry inEffect, Or.inr ⟨call, asked⟩,
        ended, effective⟩
  · obtain ⟨clocks, timing⟩ := steady settings asked
    rw [same]
    exact Or.inl ⟨deeds, clocks, timing, rfl, .refl session⟩
  · have calm : Calm session middle := by
      rcases first.effect with ⟨_, calm⟩ | ⟨impossible, _⟩
      · exact calm
      · cases impossible
    rcases second.effect with ⟨idle, alsoCalm⟩ | ⟨opened, device, zero, took⟩
    · exact Or.inl ⟨idle, calm.trans alsoCalm⟩
    · refine Or.inr ⟨device, calm.then took, reseats_of_deeds (by rw [opened]; simp), ?_⟩
      rw [opened]
      exact ⟨zero, Deed.eachEffective_configured _ _⟩

variable {start : Session Recorder} {commands : List Command} {time slot : Nat} {command : Command}

theorem holds_self (start : Session Recorder) (commands : List Command) (slot time : Nat) :
    start.Holds commands slot time time := by
  intro asked other reached early
  omega

theorem Holds.succ {since : Nat} (holds : start.Holds commands slot since time)
    (ordered : since ≤ time) (next : commands[time]? = some command)
    (kept : command.slot = slot → ¬ (start.after commands time).Reseats command) :
    start.Holds commands slot since (time + 1) := by
  intro asked other reached early found own
  by_cases old : asked < time
  · exact holds asked other (by omega) (by omega) found own
  · have now : asked = time := by omega
    subst now
    rw [next] at found
    cases found
    exact kept own

/-- Since the device was put into its slot, a device of another slot drove the chip select that the
table holds for their controller. -/
def Rivalled (start : Session Recorder) (commands : List Command) (time slot : Nat)
    (device : Device) : Prop :=
  ∃ other drive rival, other ≠ slot ∧ drive < time ∧ start.Drives commands other drive rival ∧
    rival.controller = device.controller ∧
    (start.after commands time).bus.table.last.get device.controller = rival.select ∧
    start.Holds commands slot (drive + 1) time

/-- At a time of a run every device remembers the delays that the history calls for, and either they
are in effect or another device has the controller. -/
structure Coherent (start : Session Recorder) (commands : List Command) (time : Nat) : Prop where
  clocks : (start.after commands time).bus.board.clocks = start.bus.board.clocks
  told : ∀ slot, Deed.EachEffective start.bus.board.clocks .zero
    (Deed.ofSlot slot (start.history (commands.take time)))
  remembered : ∀ slot device, (start.after commands time).slots slot = some device →
    device.delays =
      Deed.latestDelays start.bus.board.clocks slot (start.history (commands.take time))
  inEffect : ∀ slot device, (start.after commands time).slots slot = some device →
    ((start.after commands time).link device).InEffect ∨
      Rivalled start commands time slot device

/-- A device whose chip select stands in the table has no rival when it makes a call. -/
theorem not_rivalled (apart : start.SelectsApart commands) (next : commands[time]? = some command)
    {device : Device} {call : DataCall} (asked : command.action = .onDevice (.data call))
    (live : (start.after commands time).slots command.slot = some device)
    (entry : (start.after commands time).bus.table.last.get device.controller = device.select) :
    ¬ Rivalled start commands time command.slot device := by
  rintro ⟨other, drive, rival, differ, early, drives, sameController, taken, held⟩
  let session := start.after commands time
  have confined := ((session.link device).call_course call).confined
  have step : session.step command =
      session.putLink command.slot ((session.link device).call call).link := by
    obtain ⟨slot, action⟩ := command
    cases asked
    simp only [session, Session.step, perform, live]
    rfl
  have driven : start.Drives commands command.slot time
      ((session.link device).call call).link.device := by
    refine ⟨command, next, rfl, Or.inr ⟨call, asked⟩, ?_⟩
    rw [start.after_succ next, step]
    exact slots_putLink_same _ _ _
  have common := held.succ early next fun _ reseats => by
    obtain ⟨slot, action⟩ := command
    cases asked
    exact reseats
  refine apart command.slot other (drive + 1) time drive _ rival differ.symm driven drives common
    (holds_self _ _ _ _) ?_ ?_
  · rw [confined.controller]
    exact sameController.symm
  · rw [confined.select, ← taken]
    exact entry.symm

/-- What bears on no delays keeps a device in effect or rivalled. -/
theorem Coherent.stays_inEffect (coherent : start.Coherent commands time)
    (next : commands[time]? = some command) {device : Device}
    (clocks : (start.after commands (time + 1)).bus.board.clocks =
      (start.after commands time).bus.board.clocks)
    (timing : (start.after commands (time + 1)).bus.board.timing.get device.controller =
      (start.after commands time).bus.board.timing.get device.controller)
    (table : (start.after commands (time + 1)).bus.table.last.get device.controller =
      (start.after commands time).bus.table.last.get device.controller)
    (kept : command.slot = slot → ¬ (start.after commands time).Reseats command)
    (stays : Stays (start.after commands time) (start.after commands (time + 1)) slot)
    (live : (start.after commands (time + 1)).slots slot = some device) :
    ((start.after commands (time + 1)).link device).InEffect ∨
      Rivalled start commands (time + 1) slot device := by
  obtain ⟨old, lived, controller, delays⟩ := stays device live
  rcases coherent.inEffect slot old lived with
    inEffect | ⟨other, drive, rival, differ, early, drives, same, taken, held⟩
  · refine Or.inl ?_
    unfold Link.InEffect at inEffect ⊢
    simp only [link, Link.board, controller, delays] at inEffect ⊢
    rw [clocks, timing]
    exact inEffect
  · rw [controller] at same taken
    exact Or.inr ⟨other, drive, rival, differ, Nat.lt_succ_of_lt early, drives, same,
      table.trans taken, held.succ early next kept⟩

/-- The invariant survives a command that bears on no delays. -/
theorem Coherent.calm (coherent : start.Coherent commands time)
    (next : commands[time]? = some command)
    (idle : (start.after commands time).deeds command = [])
    (calm : Calm (start.after commands time) (start.after commands (time + 1))) :
    start.Coherent commands (time + 1) := by
  have history : start.history (commands.take (time + 1)) =
      start.history (commands.take time) := by
    rw [start.history_succ next, idle, List.map_nil, List.append_nil]
  refine ⟨calm.clocks.trans coherent.clocks, ?_, ?_, ?_⟩
  · rw [history]
    exact coherent.told
  · intro slot device live
    obtain ⟨old, lived, _, delays⟩ := calm.stays slot device live
    rw [history, ← delays]
    exact coherent.remembered slot old lived
  · intro slot device live
    refine coherent.stays_inEffect next calm.clocks (by rw [calm.timing]) (by rw [calm.table])
      ?_ (calm.stays slot) live
    rintro rfl
    rw [start.after_succ next] at live
    exact not_reseats_of_idle idle live

/-- The invariant survives a command by which a device takes its controller. -/
theorem Coherent.took (coherent : start.Coherent commands time)
    (next : commands[time]? = some command) {device : Device}
    (took : Took command.slot device (start.after commands time)
      (start.after commands (time + 1)))
    (driving : (start.after commands time).Reseats command ∨
      ∃ call, command.action = .onDevice (.data call))
    (ended : device.delays = ((start.after commands time).deeds command).foldl
      (Deed.update start.bus.board.clocks)
      (Deed.latestDelays start.bus.board.clocks command.slot
        (start.history (commands.take time))))
    (effective : Deed.EachEffective start.bus.board.clocks
      (Deed.latestDelays start.bus.board.clocks command.slot
        (start.history (commands.take time)))
      ((start.after commands time).deeds command)) :
    start.Coherent commands (time + 1) := by
  have own : Deed.ofSlot command.slot (start.history (commands.take (time + 1))) =
      Deed.ofSlot command.slot (start.history (commands.take time)) ++
        (start.after commands time).deeds command := by
    rw [start.history_succ next, Deed.ofSlot_append, Deed.ofSlot_map_same]
  have others : ∀ slot, slot ≠ command.slot →
      Deed.ofSlot slot (start.history (commands.take (time + 1))) =
        Deed.ofSlot slot (start.history (commands.take time)) := by
    intro slot differ
    rw [start.history_succ next, Deed.ofSlot_append, Deed.ofSlot_map_other differ.symm,
      List.append_nil]
  refine ⟨took.clocks.trans coherent.clocks, ?_, ?_, ?_⟩
  · intro slot
    by_cases same : slot = command.slot
    · rw [same, own, Deed.eachEffective_append]
      exact ⟨coherent.told command.slot, effective⟩
    · rw [others slot same]
      exact coherent.told slot
  · intro slot kept live
    by_cases same : slot = command.slot
    · rw [same, took.live] at live
      cases live
      rw [same, ended, Deed.latestDelays, Deed.latestDelays, own, List.foldl_append]
    · obtain ⟨old, lived, _, delays⟩ := took.stays slot same kept live
      rw [Deed.latestDelays, others slot same, ← delays]
      exact coherent.remembered slot old lived
  · intro slot kept live
    by_cases same : slot = command.slot
    · rw [same, took.live] at live
      cases live
      exact Or.inl took.inEffect
    · by_cases shared : kept.controller = device.controller
      · refine Or.inr ⟨command.slot, time, device, Ne.symm same, Nat.lt_succ_self time,
          ⟨command, next, rfl, driving, took.live⟩, shared.symm, ?_, holds_self _ _ _ _⟩
        rw [shared]
        exact took.entry
      · exact coherent.stays_inEffect next took.clocks (took.timing _ shared) (took.table _ shared)
          (fun impossible => (same impossible.symm).elim) (took.stays slot same) live

/-- The clocks are constant, and the timing registers are written by devices only. -/
def Steady (session : Session Recorder) (commands : List Command) : Prop :=
  ∀ time slot settings, commands[time]? = some ⟨slot, .adjust settings⟩ →
    let board := (session.after commands time).bus.board
    (board.adjust settings).clocks = board.clocks ∧ (board.adjust settings).timing = board.timing

/-- The invariant holds at every time of a run that starts without devices. -/
theorem coherent_at (empty : ∀ slot, start.slots slot = none) (steady : start.Steady commands)
    (apart : start.SelectsApart commands) (time : Nat) (within : time ≤ commands.length) :
    start.Coherent commands time := by
  induction time with
  | zero =>
      refine ⟨rfl, fun slot => True.intro, ?_, ?_⟩
      · intro slot device live
        rw [after, List.take_zero, run_nil, empty] at live
        cases live
      · intro slot device live
        rw [after, List.take_zero, run_nil, empty] at live
        cases live
  | succ time ih =>
      have coherent := ih (Nat.le_of_succ_le within)
      obtain ⟨command, next⟩ : ∃ command, commands[time]? = some command :=
        ⟨_, List.getElem?_eq_getElem within⟩
      have effect := (start.after commands time).step_effect command
        (Deed.latestDelays start.bus.board.clocks command.slot
          (start.history (commands.take time)))
        ?_ (fun device live => coherent.remembered command.slot device live) ?_
      · rw [← start.after_succ next, coherent.clocks] at effect
        rcases effect with ⟨idle, calm⟩ | ⟨device, took, driving, ended, effective⟩
        · exact coherent.calm next idle calm
        · exact coherent.took next took driving ended effective
      · intro settings asked
        obtain ⟨slot, action⟩ := command
        cases asked
        exact steady time slot settings next
      · intro device call asked live entry
        rcases coherent.inEffect command.slot device live with inEffect | rivalled
        · exact inEffect
        · exact (not_rivalled apart next asked live entry rivalled).elim

/-- Every deed of a slot is effective with the delays that the history up to it calls for. -/
theorem effective_of_told {clocks : Bank UInt32} {slot : Nat}
    {before after : List (Nat × Deed Recorder)} {deed : Deed Recorder}
    (told : Deed.EachEffective clocks .zero (Deed.ofSlot slot (before ++ (slot, deed) :: after))) :
    deed.Effective clocks (Deed.latestDelays clocks slot (before ++ [(slot, deed)])) := by
  rw [Deed.ofSlot_append, Deed.eachEffective_append, Deed.ofSlot_cons_same] at told
  rw [Deed.latestDelays_concat]
  exact told.2.1

/-- Whatever the statuses, with constant clocks, registers written by devices only, and no chip
select shared by devices that are live together: every transaction is run for a message whose device
remembers the delays that it asked for last, with their ticks in the register. -/
theorem delays_in_effect (board : Recorder) (commands : List Command)
    (steady : (initial board.cleared).Steady commands)
    (apart : (initial board.cleared).SelectsApart commands) :
    let start := initial board.cleared
    let history := start.history commands
    (∀ earlier later controller request status,
        (start.run commands).bus.board.log =
          earlier ++ ⟨.transaction controller request, status⟩ :: later →
        ∃ before slot ready message after,
          history = before ++ (slot, .sending ready message) :: after ∧
            ready.board.log = earlier ∧ ready.device.controller = controller ∧
            ready.request message = request ∧
            ready.device.delays = Deed.latestDelays board.clocks slot
              (before ++ [(slot, .sending ready message)]) ∧
            ready.device.delays.ticks? (board.clocks.get controller) =
              some ((ready.board.timing.get controller).pre,
                (ready.board.timing.get controller).post) ∧
            ∀ ticks, message.delays.ticks? (board.clocks.get controller) = some ticks →
              ready.device.delays = message.delays) ∧
      ∀ slot device, (start.run commands).slots slot = some device →
        device.delays = Deed.latestDelays board.clocks slot history := by
  intro start history
  have coherent : start.Coherent commands commands.length :=
    coherent_at (fun _ => rfl) steady apart commands.length (Nat.le_refl _)
  have told := coherent.told
  have remembered := coherent.remembered
  rw [after, List.take_length] at remembered
  rw [List.take_length] at told
  refine ⟨?_, remembered⟩
  intro earlier later controller request status split
  obtain ⟨before, slot, ready, message, after, splitHistory, log, sameController, sameRequest⟩ :=
    deed_of_transaction (show start.bus.board.log = [] from rfl) split
  have toldHere := told slot
  rw [splitHistory] at toldHere
  obtain ⟨now, inRegister⟩ := effective_of_told toldHere
  rw [← now, sameController] at inRegister
  refine ⟨before, slot, ready, message, after, splitHistory, log, sameController, sameRequest, now,
    inRegister, ?_⟩
  intro ticks taken
  rw [now, Deed.latestDelays_concat, Deed.update, sameController]
  exact if_pos (Option.isSome_of_eq_some taken)

/-- Two devices on one controller, of which the first sends. -/
theorem delays_in_effect_of_two_devices :
    let message : Message := { Message.ofBuffers (.write [1]) with delays := ⟨5, 2⟩ }
    let commands : List Command :=
      [⟨0, .openDevice (sampleRequest 1)⟩, ⟨1, .openDevice (sampleRequest 2)⟩,
        ⟨0, .onDevice (.data (.transfer [message]))⟩]
    let start := initial Recorder.initial.cleared
    let log := (start.run commands).bus.board.log
    start.Steady commands ∧ start.SelectsApart commands ∧
      log = log.take 16 ++
        ⟨.transaction .spi0 ⟨1, false, .write [1], 1⟩, some 0⟩ :: log.drop 17 ∧
      ∃ before slot ready message after,
        start.history commands = before ++ (slot, .sending ready message) :: after ∧
          ready.board.log = log.take 16 ∧
          ready.device.delays = Deed.latestDelays Recorder.initial.clocks slot
            (before ++ [(slot, .sending ready message)]) := by
  -- The run is written out: seen through its name, it would be evaluated to compare statements.
  intro message commands
  dsimp only
  have steady : (initial Recorder.initial.cleared).Steady commands := by
    intro time slot settings found
    have listed := List.mem_of_getElem? found
    simp [commands] at listed
  have first : (((initial Recorder.initial.cleared).after commands 1).slots 0).map Device.select =
      some 1 := by decide +kernel
  have second : (((initial Recorder.initial.cleared).after commands 2).slots 1).map Device.select =
      some 2 := by decide +kernel
  have third : (((initial Recorder.initial.cleared).after commands 3).slots 0).map Device.select =
      some 1 := by decide +kernel
  have selects : ∀ slot time device,
      (initial Recorder.initial.cleared).Drives commands slot time device →
        (slot = 0 ∧ device.select = 1) ∨ (slot = 1 ∧ device.select = 2) := by
    rintro slot time driven ⟨command, next, rfl, _, live⟩
    rcases time with _ | _ | _ | time
    · cases next
      rw [show ((initial Recorder.initial.cleared).after commands 1).slots 0 = _ from live] at first
      exact Or.inl ⟨rfl, Option.some.inj first⟩
    · cases next
      rw [show ((initial Recorder.initial.cleared).after commands 2).slots 1 = _ from live]
        at second
      exact Or.inr ⟨rfl, Option.some.inj second⟩
    · cases next
      rw [show ((initial Recorder.initial.cleared).after commands 3).slots 0 = _ from live] at third
      exact Or.inl ⟨rfl, Option.some.inj third⟩
    · cases next
  have apart : (initial Recorder.initial.cleared).SelectsApart commands := by
    intro slot other common first second one two differ drives rival _ _ _ same
    rcases selects _ _ _ drives with ⟨rfl, left⟩ | ⟨rfl, left⟩
    · rcases selects _ _ _ rival with ⟨rfl, right⟩ | ⟨rfl, right⟩
      · exact differ rfl
      · rw [left, right] at same
        cases same
    · rcases selects _ _ _ rival with ⟨rfl, right⟩ | ⟨rfl, right⟩
      · rw [left, right] at same
        cases same
      · exact differ rfl
  have split := List.take_append_drop 16
    ((initial Recorder.initial.cleared).run commands).bus.board.log
  have next : ((initial Recorder.initial.cleared).run commands).bus.board.log.drop 16 =
      ⟨.transaction .spi0 ⟨1, false, .write [1], 1⟩, some 0⟩ ::
        ((initial Recorder.initial.cleared).run commands).bus.board.log.drop 17 := by
    decide +kernel
  rw [next] at split
  obtain ⟨before, slot, ready, message, after, history, earlier, _, _, delays, _⟩ :=
    (delays_in_effect Recorder.initial commands steady apart).1 _ _ _ _ _ split.symm
  exact ⟨steady, apart, split.symm, before, slot, ready, message, after, history, earlier, delays⟩

end Session

end SharedSpi

import SharedSpi.Proofs.Deeds

/-!
# Steps of a session

A command makes a data call on a live device, adjusts the bench, or opens,
closes or retargets a device. The last of these comes down to at most two moves,
of which only the second has deeds. So a property that every data call, every
adjustment and every move keeps is kept by every run. The history of a run
collects the deeds of its commands, slot by slot.
-/

namespace SharedSpi

/-- A new device remembers no delays. -/
theorem Device.delays_of_ofParams? {params : Params} {device : Device}
    (described : ofParams? params = some device) : device.delays = .zero := by
  unfold ofParams? at described
  split at described
  · rw [← Option.some.inj described]
  · cases described

namespace Bus

variable {σ : Type} [Board σ] {bus : Bus σ} {params : Params}

theorem openDevice_of_undescribed (undescribed : Device.ofParams? params = none) :
    bus.openDevice params = ⟨bus, .error .invalidArgument⟩ := by
  simp only [openDevice, undescribed]

theorem openDevice_of_accepted {device : Device} (described : Device.ofParams? params = some device)
    (accepted : (Link.configure ⟨bus, device⟩).failure = none) :
    bus.openDevice params = ⟨(Link.configure ⟨bus, device⟩).link.bus,
      .ok (Link.configure ⟨bus, device⟩).link.device⟩ := by
  simp only [openDevice, described, accepted]

theorem openDevice_of_refused {device : Device} {error : SpiError}
    (described : Device.ofParams? params = some device)
    (failed : (Link.configure ⟨bus, device⟩).failure = some error) :
    bus.openDevice params = ⟨(Link.configure ⟨bus, device⟩).link.bus, .error error⟩ := by
  simp only [openDevice, described, failed]

end Bus

/-- The device that a request describes, if it is complete and can be met. -/
def OpenRequest.device? (request : OpenRequest) : Option Device :=
  request.params?.bind Device.ofParams?

theorem OpenRequest.controller_of_device? {request : OpenRequest} {device : Device}
    (described : request.device? = some device) :
    Controller.ofIndex? request.controller = some device.controller := by
  obtain ⟨params, read, described⟩ := Option.bind_eq_some_iff.mp described
  obtain ⟨mode, _, rfl⟩ := Option.map_eq_some_iff.mp read
  unfold Device.ofParams? at described
  split at described
  · next found =>
    rw [← Option.some.inj described]
    exact found
  · cases described

namespace Session

variable {σ ε : Type}

@[simp] theorem slots_putLink_same (session : Session σ) (slot : Nat) (link : Link σ) :
    (session.putLink slot link).slots slot = some link.device := by
  simp [putLink, setSlot]

theorem slots_putLink_other (session : Session σ) {slot other : Nat} (differ : other ≠ slot)
    (link : Link σ) : (session.putLink slot link).slots other = session.slots other := by
  simp [putLink, setSlot, differ]

@[simp] theorem bus_putLink (session : Session σ) (slot : Nat) (link : Link σ) :
    (session.putLink slot link).bus = link.bus := rfl

section

variable [Board σ]

theorem slots_closeSlot_same (session : Session σ) (slot : Nat) (device : Device) :
    (session.closeSlot slot device).slots slot = none := by
  simp [closeSlot, setSlot]

theorem slots_closeSlot_other (session : Session σ) {slot other : Nat} (differ : other ≠ slot)
    (device : Device) : (session.closeSlot slot device).slots other = session.slots other := by
  simp [closeSlot, setSlot, differ]

end

variable [Bench σ ε]

/-- The deeds of opening a device. -/
def openDeeds (session : Session σ) (request : OpenRequest) : List (Deed σ) :=
  match (session.bus.openRequested request).device with
  | .ok _ => [.configured]
  | .error _ => []

/-- The deeds of a command, all of them those of the device in its slot. -/
def deeds (session : Session σ) (command : Command) : List (Deed σ) :=
  match command.action with
  | .openDevice request => session.openDeeds request
  | .onDevice action =>
      match session.slots command.slot, action with
      | some device, .reopen request => (session.closeSlot command.slot device).openDeeds request
      | some device, .data call => Link.callDeeds ⟨session.bus, device⟩ call
      | _, _ => []
  | _ => []

/-- The deeds of a run, each with the slot of the device. -/
def history (session : Session σ) : List Command → List (Nat × Deed σ)
  | [] => []
  | command :: rest =>
      (session.deeds command).map (command.slot, ·) ++ (session.step command).history rest

/-- A move of a session that looks after its devices, with the deeds in it. -/
inductive Move (slot : Nat) (session : Session σ) : List (Deed σ) → Session σ → Prop where
  | stay : Move slot session [] session
  | opened {device : Device} (unused : device.delays = .zero)
      (accepted : (Link.configure ⟨session.bus, device⟩).failure = none) :
      Move slot session [.configured]
        (session.putLink slot (Link.configure ⟨session.bus, device⟩).link)
  | refused {device : Device} {error : SpiError}
      (failed : (Link.configure ⟨session.bus, device⟩).failure = some error) :
      Move slot session []
        { session with bus := (Link.configure ⟨session.bus, device⟩).link.bus }
  | closed {device : Device} (live : session.slots slot = some device) :
      Move slot session [] (session.closeSlot slot device)
  | retargeted {device : Device} (live : session.slots slot = some device) (select : UInt8) :
      Move slot session [] (session.putLink slot (Link.setSelect ⟨session.bus, device⟩ select))

/-- A device is opened by configuring its controller, unless the request is refused at once. -/
theorem openRequested_cases (bus : Bus σ) (request : OpenRequest) :
    (∃ error, bus.openRequested request = ⟨bus, .error error⟩) ∨
      ∃ device, device.delays = .zero ∧
        (((Link.configure ⟨bus, device⟩).failure = none ∧ bus.openRequested request =
            ⟨(Link.configure ⟨bus, device⟩).link.bus,
              .ok (Link.configure ⟨bus, device⟩).link.device⟩) ∨
          ∃ error, (Link.configure ⟨bus, device⟩).failure = some error ∧
            bus.openRequested request =
              ⟨(Link.configure ⟨bus, device⟩).link.bus, .error error⟩) := by
  unfold Bus.openRequested
  cases request.params? with
  | none => exact Or.inl ⟨_, rfl⟩
  | some params =>
      cases described : Device.ofParams? params with
      | none => exact Or.inl ⟨_, Bus.openDevice_of_undescribed described⟩
      | some device =>
          refine Or.inr ⟨device, Device.delays_of_ofParams? described, ?_⟩
          cases result : (Link.configure ⟨bus, device⟩).failure with
          | none => exact Or.inl ⟨rfl, Bus.openDevice_of_accepted described result⟩
          | some error => exact Or.inr ⟨error, rfl, Bus.openDevice_of_refused described result⟩

theorem openInto_move (session : Session σ) (slot : Nat) (request : OpenRequest) :
    Move slot session (session.openDeeds request) (session.openInto slot request).session := by
  unfold openInto openDeeds
  rcases openRequested_cases session.bus request with
    ⟨_, same⟩ | ⟨device, unused, ⟨accepted, same⟩ | ⟨_, failed, same⟩⟩
  · rw [same]
    exact .stay
  · rw [same]
    exact .opened unused accepted
  · rw [same]
    exact .refused failed

/-- A request that describes no device is refused at once. -/
theorem openInto_of_undescribed {request : OpenRequest} (undescribed : request.device? = none)
    (session : Session σ) (slot : Nat) :
    session.openInto slot request = session.answering (.failed .invalidArgument) := by
  unfold OpenRequest.device? at undescribed
  cases read : request.params? with
  | none => simp only [openInto, Bus.openRequested, read]
  | some params =>
      rw [read, Option.bind_some] at undescribed
      simp only [openInto, Bus.openRequested, read, Bus.openDevice_of_undescribed undescribed]

/-- A device that is described is opened if its controller is configured for it. -/
theorem openInto_of_accepted {request : OpenRequest} {device : Device}
    (described : request.device? = some device) {session : Session σ}
    (accepted : (Link.configure ⟨session.bus, device⟩).failure = none) (slot : Nat) :
    session.openInto slot request =
      (session.putLink slot (Link.configure ⟨session.bus, device⟩).link).answering .done := by
  obtain ⟨params, read, described⟩ := Option.bind_eq_some_iff.mp described
  simp only [openInto, Bus.openRequested, read, Bus.openDevice_of_accepted described accepted]
  rfl

theorem openInto_of_refused {request : OpenRequest} {device : Device} {error : SpiError}
    (described : request.device? = some device) {session : Session σ}
    (failed : (Link.configure ⟨session.bus, device⟩).failure = some error) (slot : Nat) :
    session.openInto slot request =
      { session with bus := (Link.configure ⟨session.bus, device⟩).link.bus }.answering
        (.failed error) := by
  obtain ⟨params, read, described⟩ := Option.bind_eq_some_iff.mp described
  simp only [openInto, Bus.openRequested, read, Bus.openDevice_of_refused described failed]

/-- The session with its bench adjusted. -/
def adjusted (session : Session σ) (settings : BenchSettings) : Session σ :=
  { session with bus := { session.bus with board := Bench.adjust session.bus.board settings } }

/-- A command is a data call on a live device, an adjustment, or at most two moves. -/
theorem step_cases (session : Session σ) (command : Command) :
    (∃ device call, command.action = .onDevice (.data call) ∧
        session.slots command.slot = some device ∧
        session.step command =
          session.putLink command.slot (Link.call ⟨session.bus, device⟩ call).link ∧
        session.deeds command = Link.callDeeds ⟨session.bus, device⟩ call) ∨
      (∃ settings, command.action = .adjust settings ∧
        session.step command = session.adjusted settings ∧ session.deeds command = []) ∨
      ∃ middle, Move command.slot session [] middle ∧
        Move command.slot middle (session.deeds command) (session.step command) := by
  obtain ⟨slot, action⟩ := command
  cases action with
  | adjust settings => exact Or.inr (Or.inl ⟨settings, rfl, rfl, rfl⟩)
  | lookUp controller select => exact Or.inr (Or.inr ⟨_, .stay, .stay⟩)
  | openDevice request => exact Or.inr (Or.inr ⟨_, .stay, session.openInto_move slot request⟩)
  | onDevice action =>
      cases live : session.slots slot with
      | none =>
          refine Or.inr (Or.inr ⟨_, .stay, ?_⟩)
          simp only [step, perform, deeds, live]
          exact .stay
      | some device =>
          cases action with
          | reopen request =>
              refine Or.inr (Or.inr ⟨_, .closed live, ?_⟩)
              simp only [step, perform, deeds, live]
              exact openInto_move _ slot request
          | close =>
              refine Or.inr (Or.inr ⟨_, .stay, ?_⟩)
              simp only [step, perform, deeds, live]
              exact .closed live
          | setSelect select =>
              refine Or.inr (Or.inr ⟨_, .stay, ?_⟩)
              simp only [step, perform, deeds, live]
              exact .retargeted live select
          | describe =>
              refine Or.inr (Or.inr ⟨_, .stay, ?_⟩)
              simp only [step, perform, deeds, live]
              exact .stay
          | data call =>
              refine Or.inl ⟨device, call, rfl, rfl, ?_, ?_⟩
              · simp only [step, perform, live]
                rfl
              · simp only [deeds, live]

theorem history_append (session : Session σ) (first second : List Command) :
    session.history (first ++ second) =
      session.history first ++ (session.run first).history second := by
  induction first generalizing session with
  | nil => rfl
  | cons command rest ih =>
      rw [List.cons_append, history, history, ih, run_cons, List.append_assoc]

theorem run_concat (session : Session σ) (commands : List Command) (command : Command) :
    session.run (commands ++ [command]) = (session.run commands).step command := by
  rw [run_append, run_cons, run_nil]

/-- A request for a device of the first controller, for sample runs. -/
def sampleRequest (select : UInt8) : OpenRequest where
  controller := 0
  speed := 1000000
  select := select
  mode := 0
  order := .msbFirst
  platform := some { slaves := 1, polarity := 0, supply := .vddio }

end Session

end SharedSpi

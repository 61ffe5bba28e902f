import SharedSpi.Proofs.StaleDevices

/-!
# Runs with devices selected in another way

What becomes of a run if devices are selected in another way is told by putting
this way in the place of the usual one. An eager device, for one, has its
controller configured before every call.
-/

namespace SharedSpi

namespace Session

variable {σ ε : Type} [Bench σ ε]

/-- Carries out a command, with devices selected in a given way. -/
def performWith (choose : Link σ → Outcome σ Unit) (session : Session σ) (command : Command) :
    Performed σ :=
  match command.action with
  | .onDevice (.data call) =>
      match session.slots command.slot with
      | none => session.answering .emptySlot
      | some device =>
          let outcome := Link.callWith choose ⟨session.bus, device⟩ call
          ⟨session.putLink command.slot outcome.link, .ofFailure outcome.failure, outcome.data⟩
  | _ => session.perform command

/-- The session after commands in order, with devices selected in a given way. -/
def runWith (choose : Link σ → Outcome σ Unit) (session : Session σ) (commands : List Command) :
    Session σ :=
  commands.foldl (fun session command => (session.performWith choose command).session) session

/-- The answers to commands in order and what they left in the receive buffers, with devices selected
in a given way. -/
def repliesWith (choose : Link σ → Outcome σ Unit) (session : Session σ) :
    List Command → List (Answer × Received)
  | [] => []
  | command :: rest =>
      let performed := session.performWith choose command
      (performed.answer, performed.received) :: performed.session.repliesWith choose rest

theorem performWith_select (session : Session σ) (command : Command) :
    session.performWith Link.select command = session.perform command := by
  obtain ⟨slot, action⟩ := command
  cases action with
  | adjust settings => rfl
  | lookUp controller select => rfl
  | openDevice request => rfl
  | onDevice action =>
      cases action with
      | data call =>
          simp only [performWith, perform, Link.callWith_select]
          cases session.slots slot <;> rfl
      | reopen request => rfl
      | close => rfl
      | setSelect select => rfl
      | describe => rfl

/-- A run is one whose devices are selected in the usual way. -/
theorem runWith_select (commands : List Command) (session : Session σ) :
    session.runWith Link.select commands = session.run commands := by
  induction commands generalizing session with
  | nil => rfl
  | cons command rest ih =>
      rw [runWith, List.foldl_cons, performWith_select]
      exact ih _

theorem repliesWith_select (commands : List Command) (session : Session σ) :
    session.repliesWith Link.select commands =
      (session.reports commands).map fun report => (report.answer, report.received) := by
  induction commands generalizing session with
  | nil => rfl
  | cons command rest ih =>
      simp only [repliesWith, reports, List.map_cons, performWith_select, ih]
      rfl

theorem runWith_append (choose : Link σ → Outcome σ Unit) (session : Session σ)
    (first second : List Command) :
    session.runWith choose (first ++ second) = (session.runWith choose first).runWith choose second :=
  List.foldl_append

theorem runWith_concat (choose : Link σ → Outcome σ Unit) (session : Session σ)
    (commands : List Command) (command : Command) :
    session.runWith choose (commands ++ [command]) =
      ((session.runWith choose commands).performWith choose command).session := by
  rw [runWith_append]
  rfl

theorem repliesWith_concat (choose : Link σ → Outcome σ Unit) (commands : List Command)
    (session : Session σ) (command : Command) :
    session.repliesWith choose (commands ++ [command]) =
      session.repliesWith choose commands ++
        [(((session.runWith choose commands).performWith choose command).answer,
          ((session.runWith choose commands).performWith choose command).received)] := by
  induction commands generalizing session with
  | nil => rfl
  | cons first rest ih =>
      rw [List.cons_append, repliesWith, repliesWith, ih, List.cons_append]
      rfl

end Session

namespace Link

theorem carryOutAll_grown (link : Link Recorder) (recovers : Bool) (errands : List Errand) :
    ∃ events, (link.carryOutAll recovers errands).link.board.log = link.board.log ++ events := by
  obtain ⟨first, grown, _⟩ := link.carryOut_traffic errands
  unfold carryOutAll
  split
  · unfold recover
    split
    · exact ⟨first, grown⟩
    · obtain ⟨second, regrown, _⟩ := (link.carryOut errands).link.configure_quiet
      exact ⟨first ++ second, by rw [regrown, grown, List.append_assoc]⟩
  · exact ⟨first, grown⟩

theorem callWith_of_chosen {choose : Link Recorder → Outcome Recorder Unit} {link : Link Recorder}
    (chosen : (choose link).failure = none) (call : DataCall) :
    link.callWith choose call =
      ((choose link).link.carryOutAll call.recovers call.errands).map call.received := by
  simp only [callWith, chosen]

theorem callWith_grown (choose : Link Recorder → Outcome Recorder Unit) (link : Link Recorder)
    (call : DataCall) :
    ∃ events, (link.callWith choose call).link.board.log =
      (choose link).link.board.log ++ events := by
  cases chosen : (choose link).failure with
  | none =>
      rw [callWith_of_chosen chosen]
      exact carryOutAll_grown _ _ _
  | some error =>
      simp only [callWith, chosen]
      exact ⟨[], (List.append_nil _).symm⟩

end Link

namespace Session

theorem performWith_grown (choose : Link Recorder → Outcome Recorder Unit)
    (chosen : ∀ link, ∃ events, (choose link).link.board.log = link.board.log ++ events)
    (session : Session Recorder) (command : Command) :
    ∃ events, (session.performWith choose command).session.bus.board.log =
      session.bus.board.log ++ events := by
  obtain ⟨slot, action⟩ := command
  cases action with
  | adjust settings => exact session.step_grown _
  | lookUp controller select => exact session.step_grown _
  | openDevice request => exact session.step_grown _
  | onDevice action =>
      cases action with
      | reopen request => exact session.step_grown _
      | close => exact session.step_grown _
      | setSelect select => exact session.step_grown _
      | describe => exact session.step_grown _
      | data call =>
          simp only [performWith]
          cases live : session.slots slot with
          | none => exact ⟨[], (List.append_nil _).symm⟩
          | some device =>
              obtain ⟨first, grown⟩ := chosen ⟨session.bus, device⟩
              obtain ⟨second, regrown⟩ := Link.callWith_grown choose ⟨session.bus, device⟩ call
              refine ⟨first ++ second, Eq.trans regrown ?_⟩
              rw [grown, List.append_assoc]
              rfl

theorem runWith_grown (choose : Link Recorder → Outcome Recorder Unit)
    (chosen : ∀ link, ∃ events, (choose link).link.board.log = link.board.log ++ events)
    (commands : List Command) (session : Session Recorder) :
    ∃ events, (session.runWith choose commands).bus.board.log =
      session.bus.board.log ++ events := by
  induction commands generalizing session with
  | nil => exact ⟨[], (List.append_nil _).symm⟩
  | cons command rest ih =>
      obtain ⟨first, grown⟩ := performWith_grown choose chosen session command
      obtain ⟨second, regrown⟩ := ih (session.performWith choose command).session
      exact ⟨first ++ second, by rw [← List.append_assoc, ← grown]; exact regrown⟩

end Session

end SharedSpi

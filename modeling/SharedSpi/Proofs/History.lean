import SharedSpi.Proofs.RecordedCalls
import SharedSpi.Proofs.SessionSteps

/-!
# The history in the log

The transactions in the log of a run are those of its history: they come in the
same order, and each was added to the log that its link holds. So what holds of
every deed of the history holds of every transaction of the log.
-/

namespace SharedSpi

/-- A transaction, and the log that it was added to. -/
structure Moment where
  earlier : List BoardEvent
  controller : Controller
  request : Request

/-- The moments of the transactions among events that are added to a log. -/
def moments : List BoardEvent → List BoardEvent → List Moment
  | _, [] => []
  | earlier, event :: rest =>
      match event.call with
      | .transaction controller request =>
          ⟨earlier, controller, request⟩ :: moments (earlier ++ [event]) rest
      | _ => moments (earlier ++ [event]) rest

theorem moments_append (first second earlier : List BoardEvent) :
    moments earlier (first ++ second) =
      moments earlier first ++ moments (earlier ++ first) second := by
  induction first generalizing earlier with
  | nil => rw [List.nil_append, List.append_nil, moments, List.nil_append]
  | cons event rest ih =>
      have later := ih (earlier ++ [event])
      rw [List.append_assoc, List.singleton_append] at later
      obtain ⟨call, status⟩ := event
      cases call <;> simp only [List.cons_append, moments, later]

theorem moments_transaction (earlier : List BoardEvent) (controller : Controller)
    (request : Request) (status : Option Int32) (rest : List BoardEvent) :
    moments earlier (⟨.transaction controller request, status⟩ :: rest) =
      ⟨earlier, controller, request⟩ ::
        moments (earlier ++ [⟨.transaction controller request, status⟩]) rest := by
  rw [moments]

/-- Every transaction among the events has its moment, and there are no other moments. -/
theorem mem_moments_iff {moment : Moment} {earlier events : List BoardEvent} :
    moment ∈ moments earlier events ↔ ∃ before status after,
      events = before ++ ⟨.transaction moment.controller moment.request, status⟩ :: after ∧
        moment.earlier = earlier ++ before := by
  constructor
  · intro found
    induction events generalizing earlier with
    | nil => cases found
    | cons event rest ih =>
        have later (found : moment ∈ moments (earlier ++ [event]) rest) : ∃ before status after,
            event :: rest =
              before ++ ⟨.transaction moment.controller moment.request, status⟩ :: after ∧
            moment.earlier = earlier ++ before := by
          obtain ⟨before, status, after, rfl, same⟩ := ih found
          rw [List.append_assoc, List.singleton_append] at same
          exact ⟨event :: before, status, after, rfl, same⟩
        obtain ⟨call, status⟩ := event
        cases call with
        | transaction controller request =>
            rw [moments_transaction] at found
            rcases List.mem_cons.mp found with rfl | rest
            · exact ⟨[], status, _, rfl, (List.append_nil _).symm⟩
            · exact later rest
        | setup controller call => exact later found
        | setTiming controller timing => exact later found
        | shutdown controller => exact later found
        | wait ns => exact later found
  · rintro ⟨before, status, after, rfl, same⟩
    rw [moments_append, moments_transaction, ← same]
    exact List.mem_append_cons_self

/-- Events without transactions have no moments. -/
theorem moments_quiet {events : List BoardEvent}
    (quiet : ∀ event ∈ events, event.call.request? = none) (earlier : List BoardEvent) :
    moments earlier events = [] := by
  induction events generalizing earlier with
  | nil => rfl
  | cons event rest ih =>
      have later := ih (fun other found => quiet other (List.mem_cons_of_mem _ found))
        (earlier ++ [event])
      have first := quiet event List.mem_cons_self
      obtain ⟨call, status⟩ := event
      cases call with
      | transaction controller request => cases first
      | setup controller call => rw [moments, later]
      | setTiming controller timing => rw [moments, later]
      | shutdown controller => rw [moments, later]
      | wait ns => rw [moments, later]

/-- The moment of a deed, if it is a transaction. -/
def Deed.moment? : Deed Recorder → Option Moment
  | configured => none
  | sending ready message => some ⟨ready.board.log, ready.device.controller, ready.request message⟩

/-- The log grew, and the transactions added to it are those of the deeds. -/
def Recounted (deeds : List (Deed Recorder)) (before after : List BoardEvent) : Prop :=
  ∃ events, after = before ++ events ∧ moments before events = deeds.filterMap Deed.moment?

namespace Recounted

theorem append {earlier later : List (Deed Recorder)} {before middle after : List BoardEvent}
    (left : Recounted earlier before middle) (right : Recounted later middle after) :
    Recounted (earlier ++ later) before after := by
  obtain ⟨first, rfl, same⟩ := left
  obtain ⟨second, rfl, alsoSame⟩ := right
  refine ⟨first ++ second, List.append_assoc _ _ _, ?_⟩
  rw [moments_append, same, alsoSame, List.filterMap_append]

theorem of_quiet {deeds : List (Deed Recorder)} (silent : deeds.filterMap Deed.moment? = [])
    {before : List BoardEvent} (events : List BoardEvent)
    (quiet : ∀ event ∈ events, event.call.request? = none) :
    Recounted deeds before (before ++ events) :=
  ⟨events, rfl, by rw [moments_quiet quiet, silent]⟩

theorem of_unchanged (log : List BoardEvent) : Recounted [] log log :=
  ⟨[], (List.append_nil log).symm, rfl⟩

/-- Every transaction that was added is a deed. -/
theorem exists_deed {deeds : List (Deed Recorder)} {before after : List BoardEvent}
    (recounted : Recounted deeds before after) {earlier later : List BoardEvent}
    {controller : Controller} {request : Request} {status : Option Int32}
    (split : after = before ++ (earlier ++ ⟨.transaction controller request, status⟩ :: later)) :
    ∃ ready message, Deed.sending ready message ∈ deeds ∧
      ready.board.log = before ++ earlier ∧ ready.device.controller = controller ∧
        ready.request message = request := by
  obtain ⟨events, grown, same⟩ := recounted
  have found : (⟨before ++ earlier, controller, request⟩ : Moment) ∈ moments before events :=
    mem_moments_iff.mpr ⟨earlier, status, later, List.append_cancel_left (grown.symm.trans split), rfl⟩
  rw [same] at found
  obtain ⟨deed, told, moment⟩ := List.mem_filterMap.mp found
  cases deed with
  | configured => cases moment
  | sending ready message =>
      exact ⟨ready, message, told, Moment.mk.inj (Option.some.inj moment)⟩

/-- Every message that came to a transaction is in the log. -/
theorem exists_transaction {deeds : List (Deed Recorder)} {before after : List BoardEvent}
    (recounted : Recounted deeds before after) {ready : Link Recorder} {message : Message}
    (done : Deed.sending ready message ∈ deeds) :
    ∃ earlier status later, after = before ++ (earlier ++
        ⟨.transaction ready.device.controller (ready.request message), status⟩ :: later) ∧
      ready.board.log = before ++ earlier := by
  obtain ⟨events, rfl, same⟩ := recounted
  have found : (⟨ready.board.log, ready.device.controller, ready.request message⟩ : Moment) ∈
      moments before events := by
    rw [same]
    exact List.mem_filterMap.mpr ⟨_, done, rfl⟩
  obtain ⟨earlier, status, later, rfl, log⟩ := mem_moments_iff.mp found
  exact ⟨earlier, status, later, rfl, log⟩

end Recounted

namespace Link

theorem configure_recounted {deeds : List (Deed Recorder)}
    (silent : deeds.filterMap Deed.moment? = []) (link : Link Recorder) :
    Recounted deeds link.board.log link.configure.link.board.log := by
  obtain ⟨events, grown, quiet⟩ := link.configure_quiet
  rw [grown]
  exact .of_quiet silent events quiet

theorem send_recounted (link : Link Recorder) {message : Message} (fits : message.fits = true) :
    Recounted [.sending (link.updateDelays message.delays) message] link.board.log
      (link.send message).link.board.log := by
  have kept := link.updateDelays_kept message.delays
  obtain ⟨writes, written, timings⟩ := link.updateDelays_log message.delays
  obtain ⟨status, rest, sent, waits⟩ := link.send_log fits
  have before : moments link.board.log writes = [] := by
    refine moments_quiet (fun event found => ?_) _
    obtain ⟨timing, rfl⟩ := timings event found
    rfl
  have after : ∀ log, moments log rest = [] := by
    refine moments_quiet fun event found => ?_
    obtain ⟨ns, rfl⟩ := waits event found
    rfl
  refine ⟨writes ++ ⟨.transaction link.device.controller (link.request message), some status⟩ ::
    rest, by rw [sent, written, List.append_assoc], ?_⟩
  rw [moments_append, before, moments_transaction, after, ← written]
  simp [Deed.moment?, request, kept.controller, kept.select]

theorem Course.recounted {before after : Link Recorder} {deeds : List (Deed Recorder)}
    (course : Course before deeds after) : Recounted deeds before.board.log after.board.log := by
  induction course with
  | stay link => exact .of_unchanged _
  | configured accepted => exact configure_recounted rfl _
  | refused failed => exact configure_recounted rfl _
  | waited link ns =>
      refine .of_quiet rfl [waitEvent ns] fun event found => ?_
      rw [List.mem_singleton.mp found]
      rfl
  | sent link fits => exact link.send_recounted fits
  | append left right first second => exact first.append second

end Link

namespace Session

theorem Move.recounted {slot : Nat} {before after : Session Recorder}
    {deeds : List (Deed Recorder)} (move : Move slot before deeds after) :
    Recounted deeds before.bus.board.log after.bus.board.log := by
  cases move with
  | stay => exact .of_unchanged _
  | opened unused accepted => exact Link.configure_recounted rfl _
  | refused failed => exact Link.configure_recounted rfl _
  | @closed device live =>
      refine .of_quiet rfl [⟨.shutdown device.controller, none⟩] fun event found => ?_
      rw [List.mem_singleton.mp found]
      rfl
  | retargeted live select => exact .of_unchanged _

theorem step_recounted (session : Session Recorder) (command : Command) :
    Recounted (session.deeds command) session.bus.board.log
      (session.step command).bus.board.log := by
  rcases session.step_cases command with
    ⟨device, call, _, _, same, deeds⟩ | ⟨settings, _, same, deeds⟩ | ⟨_, first, second⟩
  · rw [same, deeds]
    exact (Link.call_course ⟨session.bus, device⟩ call).recounted
  · rw [same, deeds]
    exact .of_unchanged _
  · exact first.recounted.append second.recounted

/-- The transactions of a run are those of its history. -/
theorem run_recounted (commands : List Command) (session : Session Recorder) :
    Recounted ((session.history commands).map Prod.snd) session.bus.board.log
      (session.run commands).bus.board.log := by
  induction commands generalizing session with
  | nil => exact .of_unchanged _
  | cons command rest ih =>
      have deeds : ((session.deeds command).map fun deed => (command.slot, deed)).map Prod.snd =
          session.deeds command := by
        rw [List.map_map]
        exact List.map_id _
      rw [history, List.map_append, deeds, run_cons]
      exact (session.step_recounted command).append (ih _)

/-- Every transaction of a run is a deed of its history. -/
theorem deed_of_transaction {session : Session Recorder} {commands : List Command}
    (unused : session.bus.board.log = []) {earlier later : List BoardEvent}
    {controller : Controller} {request : Request} {status : Option Int32}
    (split : (session.run commands).bus.board.log =
      earlier ++ ⟨.transaction controller request, status⟩ :: later) :
    ∃ before slot ready message after,
      session.history commands = before ++ (slot, .sending ready message) :: after ∧
        ready.board.log = earlier ∧ ready.device.controller = controller ∧
          ready.request message = request := by
  have recounted := session.run_recounted commands
  rw [unused] at recounted
  obtain ⟨ready, message, done, log, controller, request⟩ := recounted.exists_deed split
  obtain ⟨⟨slot, _⟩, told, rfl⟩ := List.mem_map.mp done
  obtain ⟨before, after, history⟩ := List.append_of_mem told
  exact ⟨before, slot, ready, message, after, history, log, controller, request⟩

end Session

end SharedSpi

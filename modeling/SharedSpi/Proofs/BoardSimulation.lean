import SharedSpi.Proofs.Errands

/-!
# Boards that answer alike

A device asks its board for a few things only. If two boards of different kinds
give the same answers and keep doing so whatever is asked of them, then no device
can tell them apart: every call on one has the result that it has on the other.
The relation between the boards is left open; it has to be kept by each thing
that a board can be asked for. Transactions matter only as far as their length
can be counted in 32 bits.
-/

namespace SharedSpi

/-- Related boards give the same answers and stay related. -/
structure Simulation {σ τ : Type} [Board σ] [Board τ] (related : σ → τ → Prop) : Prop where
  setup : ∀ {first : σ} {second : τ}, related first second → ∀ controller call,
    related (Board.setup first controller call).1 (Board.setup second controller call).1 ∧
      (Board.setup first controller call).2 = (Board.setup second controller call).2
  clock : ∀ {first : σ} {second : τ}, related first second → ∀ controller,
    Board.clock first controller = Board.clock second controller
  timing : ∀ {first : σ} {second : τ}, related first second → ∀ controller,
    Board.timing first controller = Board.timing second controller
  setTiming : ∀ {first : σ} {second : τ}, related first second → ∀ controller timing,
    related (Board.setTiming first controller timing) (Board.setTiming second controller timing)
  shutdown : ∀ {first : σ} {second : τ}, related first second → ∀ controller,
    related (Board.shutdown first controller) (Board.shutdown second controller)
  transact : ∀ {first : σ} {second : τ}, related first second → ∀ controller request,
    request.count < UInt32.size →
      related (Board.transact first controller request).1
          (Board.transact second controller request).1 ∧
        (Board.transact first controller request).2 = (Board.transact second controller request).2
  wait : ∀ {first : σ} {second : τ}, related first second → ∀ ns,
    related (Board.wait first ns) (Board.wait second ns)

section

variable {σ τ α : Type}

/-- Links with one and the same device and table, on related boards. -/
structure Link.Coupled (related : σ → τ → Prop) (first : Link σ) (second : Link τ) : Prop where
  board : related first.board second.board
  table : first.bus.table = second.bus.table
  device : first.device = second.device

/-- Outcomes that agree in all but the boards, which are related. -/
structure Outcome.Coupled (related : σ → τ → Prop) (first : Outcome σ α) (second : Outcome τ α) :
    Prop where
  link : first.link.Coupled related second.link
  data : first.data = second.data
  failure : first.failure = second.failure

/-- What opening a device leaves behind, with related boards. -/
structure Opened.Coupled (related : σ → τ → Prop) (first : Opened σ) (second : Opened τ) : Prop where
  board : related first.bus.board second.bus.board
  table : first.bus.table = second.bus.table
  device : first.device = second.device

/-- Sessions that agree in all but the boards, which are related. -/
structure Session.Coupled (related : σ → τ → Prop) (first : Session σ) (second : Session τ) :
    Prop where
  board : related first.bus.board second.bus.board
  table : first.bus.table = second.bus.table
  slots : first.slots = second.slots

/-- What carrying a command out leaves behind, with related boards. -/
structure Performed.Coupled (related : σ → τ → Prop) (first : Performed σ) (second : Performed τ) :
    Prop where
  session : first.session.Coupled related second.session
  answer : first.answer = second.answer
  received : first.received = second.received

theorem Link.Coupled.withBoard {related : σ → τ → Prop} {first : Link σ} {second : Link τ}
    (coupled : first.Coupled related second) {one : σ} {other : τ} (boards : related one other) :
    (first.withBoard one).Coupled related (second.withBoard other) :=
  ⟨boards, coupled.table, coupled.device⟩

theorem Link.Coupled.setSelect {related : σ → τ → Prop} {first : Link σ} {second : Link τ}
    (coupled : first.Coupled related second) (select : UInt8) :
    (first.setSelect select).Coupled related (second.setSelect select) :=
  ⟨coupled.board, coupled.table,
    congrArg (fun device => { device with select := select }) coupled.device⟩

/-- The count of a message that is not refused needs no more than 32 bits. -/
def Message.Narrow (message : Message) : Prop :=
  message.fits = true → message.count < UInt32.size

end

namespace Simulation

variable {σ τ : Type} [Board σ] [Board τ] {related : σ → τ → Prop}
  {one : σ} {other : τ} {first : Link σ} {second : Link τ}

theorem setupAll (simulation : Simulation related) (boards : related one other)
    (controller : Controller) (calls : List SetupCall) :
    related (Board.setupAll one controller calls).1 (Board.setupAll other controller calls).1 ∧
      (Board.setupAll one controller calls).2 = (Board.setupAll other controller calls).2 := by
  induction calls generalizing one other with
  | nil => exact ⟨boards, rfl⟩
  | cons call rest ih =>
      obtain ⟨kept, same⟩ := simulation.setup boards controller call
      rw [Board.setupAll, Board.setupAll]
      generalize Board.setup one controller call = left at kept same ⊢
      generalize Board.setup other controller call = right at kept same ⊢
      obtain ⟨afterOne, fault⟩ := left
      obtain ⟨afterOther, _⟩ := right
      obtain rfl := same
      cases fault with
      | none => exact ih kept
      | some fault => exact ⟨kept, rfl⟩

theorem waitAll (simulation : Simulation related) (boards : related one other)
    (times : List UInt32) :
    related (Board.waitAll one times) (Board.waitAll other times) := by
  induction times generalizing one other with
  | nil => exact boards
  | cons ns rest ih => exact ih (simulation.wait boards ns)

theorem configure (simulation : Simulation related) (coupled : first.Coupled related second) :
    first.configure.Coupled related second.configure := by
  obtain ⟨kept, same⟩ :=
    simulation.setupAll coupled.board second.device.controller second.device.setupCalls
  unfold Link.configure
  rw [coupled.device]
  generalize Board.setupAll first.board _ _ = left at kept same ⊢
  generalize Board.setupAll second.board _ _ = right at kept same ⊢
  obtain ⟨afterOne, succeeded⟩ := left
  obtain ⟨afterOther, _⟩ := right
  obtain rfl := same
  cases succeeded with
  | true =>
      refine ⟨⟨?_, ?_, ?_⟩, rfl, rfl⟩
      · simp only [Link.configured, Link.board, coupled.device, simulation.timing kept]
        exact simulation.setTiming kept _ _
      · simp only [Link.configured, coupled.table, coupled.device]
      · simp only [Link.configured, coupled.device]
  | false => exact ⟨coupled.withBoard (simulation.shutdown kept _), rfl, rfl⟩

theorem select (simulation : Simulation related) (coupled : first.Coupled related second) :
    first.select.Coupled related second.select := by
  unfold Link.select
  rw [coupled.table, coupled.device]
  split
  · exact simulation.configure coupled
  · exact ⟨coupled, rfl, rfl⟩

theorem updateDelays (simulation : Simulation related) (coupled : first.Coupled related second)
    (requested : SelectDelays) :
    (first.updateDelays requested).Coupled related (second.updateDelays requested) := by
  unfold Link.updateDelays
  dsimp only
  rw [coupled.device, simulation.clock coupled.board, simulation.timing coupled.board]
  split
  · exact coupled
  · split
    · exact ⟨simulation.setTiming coupled.board _ _, coupled.table, rfl⟩
    · exact coupled

theorem send (simulation : Simulation related) (coupled : first.Coupled related second)
    {message : Message} (narrow : message.Narrow) :
    (first.send message).Coupled related (second.send message) := by
  unfold Link.send
  by_cases fits : message.fits = true
  · rw [if_pos fits, if_pos fits]
    have ready := simulation.updateDelays coupled message.delays
    dsimp only
    rw [ready.device]
    obtain ⟨kept, same⟩ := simulation.transact ready.board
      (second.updateDelays message.delays).device.controller
      (.ofMessage (second.updateDelays message.delays).device.select message) (narrow fits)
    generalize Board.transact (first.updateDelays message.delays).board _ _ = left at kept same ⊢
    generalize Board.transact (second.updateDelays message.delays).board _ _ = right at kept same ⊢
    obtain ⟨afterOne, answer⟩ := left
    obtain ⟨afterOther, _⟩ := right
    obtain rfl := same
    cases answer with
    | ok bytes => exact ⟨ready.withBoard (simulation.waitAll kept _), rfl, rfl⟩
    | error fault => exact ⟨ready.withBoard kept, rfl, rfl⟩
  · rw [if_neg fits, if_neg fits]
    exact ⟨coupled, rfl, rfl⟩

theorem carryOut (simulation : Simulation related) (errands : List Errand)
    (coupled : first.Coupled related second)
    (narrow : ∀ message ∈ Errand.messages errands, message.Narrow) :
    (first.carryOut errands).Coupled related (second.carryOut errands) := by
  induction errands generalizing first second with
  | nil => exact ⟨coupled, rfl, rfl⟩
  | cons errand rest ih =>
      cases errand with
      | pause ns => exact ih (coupled.withBoard (simulation.wait coupled.board ns)) narrow
      | message message =>
          obtain ⟨own, others⟩ := List.forall_mem_cons.mp narrow
          have sent := simulation.send coupled own
          have same := sent.failure
          cases result : (first.send message).failure with
          | none =>
              rw [result] at same
              have later := ih sent.link others
              rw [Link.carryOut_message_of_sent result, Link.carryOut_message_of_sent same.symm]
              exact ⟨later.link, congr (congrArg _ sent.data) later.data, later.failure⟩
          | some error =>
              rw [result] at same
              rw [Link.carryOut_message_of_failed result,
                Link.carryOut_message_of_failed same.symm, sent.data]
              exact ⟨sent.link, rfl, rfl⟩

/-- A call has the same result on related boards. -/
theorem call (simulation : Simulation related) (coupled : first.Coupled related second)
    {call : DataCall} (narrow : ∀ message ∈ Errand.messages call.errands, message.Narrow) :
    (first.call call).Coupled related (second.call call) := by
  have selecting := simulation.select coupled
  have same := selecting.failure
  cases selected : first.select.failure with
  | some error =>
      rw [selected] at same
      rw [Link.call_of_unselected selected, Link.call_of_unselected same.symm]
      exact ⟨selecting.link, rfl, rfl⟩
  | none =>
      rw [selected] at same
      have carried := simulation.carryOut call.errands selecting.link narrow
      rw [Link.call_of_selected selected, Link.call_of_selected same.symm]
      refine ⟨?_, congrArg call.received carried.data, carried.failure⟩
      rw [carried.failure]
      dsimp only
      split
      · exact (simulation.configure carried.link).link
      · exact carried.link

theorem openRequested (simulation : Simulation related) {bus : Bus σ} {otherBus : Bus τ}
    (boards : related bus.board otherBus.board) (table : bus.table = otherBus.table)
    (request : OpenRequest) :
    (bus.openRequested request).Coupled related (otherBus.openRequested request) := by
  unfold Bus.openRequested
  cases request.params? with
  | none => exact ⟨boards, table, rfl⟩
  | some params =>
      simp only [Bus.openDevice]
      cases Device.ofParams? params with
      | none => exact ⟨boards, table, rfl⟩
      | some device =>
          have tried : (Link.configure ⟨bus, device⟩).Coupled related
              (Link.configure ⟨otherBus, device⟩) := simulation.configure ⟨boards, table, rfl⟩
          have same := tried.failure
          cases result : (Link.configure ⟨bus, device⟩).failure with
          | none =>
              rw [result] at same
              simp only [result, ← same]
              exact ⟨tried.link.board, tried.link.table, congrArg Except.ok tried.link.device⟩
          | some error =>
              rw [result] at same
              simp only [result, ← same]
              exact ⟨tried.link.board, tried.link.table, rfl⟩

variable {session : Session σ} {shadow : Session τ}

theorem openInto (simulation : Simulation related) (coupled : session.Coupled related shadow)
    (slot : Nat) (request : OpenRequest) :
    (session.openInto slot request).Coupled related (shadow.openInto slot request) := by
  have opened := simulation.openRequested coupled.board coupled.table request
  have same := opened.device
  unfold Session.openInto
  cases result : (session.bus.openRequested request).device with
  | ok device =>
      rw [result] at same
      simp only [result, ← same]
      refine ⟨⟨opened.board, opened.table, ?_⟩, rfl, rfl⟩
      simp only [Session.answering, Session.setSlot, coupled.slots]
  | error error =>
      rw [result] at same
      simp only [result, ← same]
      exact ⟨⟨opened.board, opened.table, coupled.slots⟩, rfl, rfl⟩

theorem closeSlot (simulation : Simulation related) (coupled : session.Coupled related shadow)
    (slot : Nat) (device : Device) :
    (session.closeSlot slot device).Coupled related (shadow.closeSlot slot device) := by
  refine ⟨simulation.shutdown coupled.board _, coupled.table, ?_⟩
  simp only [Session.closeSlot, Session.setSlot, coupled.slots]

omit [Board σ] [Board τ] in
theorem putLink (coupled : session.Coupled related shadow) (links : first.Coupled related second)
    (slot : Nat) : (session.putLink slot first).Coupled related (shadow.putLink slot second) := by
  refine ⟨links.board, links.table, ?_⟩
  simp only [Session.putLink, Session.setSlot, coupled.slots, links.device]

/-- An action on a device has the same result on related boards. -/
theorem onDevice (simulation : Simulation related) (coupled : session.Coupled related shadow)
    (slot : Nat) (device : Device) {action : DeviceAction}
    (narrow : ∀ call, action = .data call →
      ∀ message ∈ Errand.messages call.errands, message.Narrow) :
    (session.onDevice slot device action).Coupled related (shadow.onDevice slot device action) := by
  have links : Link.Coupled related ⟨session.bus, device⟩ ⟨shadow.bus, device⟩ :=
    ⟨coupled.board, coupled.table, rfl⟩
  cases action with
  | reopen request =>
      exact simulation.openInto (simulation.closeSlot coupled slot device) slot request
  | close => exact ⟨simulation.closeSlot coupled slot device, rfl, rfl⟩
  | setSelect select => exact ⟨putLink coupled (links.setSelect select) slot, rfl, rfl⟩
  | describe => exact ⟨coupled, rfl, rfl⟩
  | data call =>
      have called := simulation.call links (narrow call rfl)
      exact ⟨putLink coupled called.link slot, congrArg Answer.ofFailure called.failure,
        called.data⟩

end Simulation

end SharedSpi

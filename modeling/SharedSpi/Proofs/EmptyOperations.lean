import SharedSpi.Proofs.FailedTransactions

/-!
# Empty operations

An operation with buffers but without bytes may stand anywhere in a transaction:
before the data, where delays count as setup time, behind it, where they count
as hold time, or between. It has no step of its own, and the outer waits are
separated step by step. So a transaction does the same with such operations and
without them, on any board and however it ends.
-/

namespace SharedSpi

namespace Operation

/-- Whether an operation has buffers and not a single byte in them. -/
def isEmpty : Operation → Bool
  | delay _ => false
  | operation => !operation.carriesData

/-- Operations without the empty ones. -/
def nonempty (operations : List Operation) : List Operation :=
  operations.filter fun operation => !operation.isEmpty

/-- Of values that belong to operations, those that belong to one that is not empty. -/
def atNonempty {α : Type} (operations : List Operation) (values : List α) : List α :=
  ((operations.zip values).filter fun place => !place.1.isEmpty).map Prod.snd

theorem parts_of_isEmpty {operation : Operation} (empty : operation.isEmpty = true) :
    operation.parts = [] := by
  have idle : operation.carriesData = false := by
    cases operation with
    | delay ns => rfl
    | _ => exact (Bool.not_eq_true' _).mp empty
  exact parts_eq_nil_iff.mpr idle

theorem nonempty_cons_of_isEmpty {operation : Operation} (empty : operation.isEmpty = true)
    (rest : List Operation) : nonempty (operation :: rest) = nonempty rest := by
  simp [nonempty, empty]

theorem nonempty_cons_of_not_isEmpty {operation : Operation} (some : operation.isEmpty = false)
    (rest : List Operation) : nonempty (operation :: rest) = operation :: nonempty rest := by
  simp [nonempty, some]

theorem atNonempty_self (operations : List Operation) :
    atNonempty operations operations = nonempty operations := by
  induction operations with
  | nil => rfl
  | cons operation rest ih =>
      unfold atNonempty at ih ⊢
      cases empty : operation.isEmpty with
      | true =>
          rw [nonempty_cons_of_isEmpty empty, ← ih]
          simp [empty]
      | false =>
          rw [nonempty_cons_of_not_isEmpty empty, ← ih]
          simp [empty]

/-- The buffers of the messages go to the operations that are not empty, in the same order. -/
theorem restoreAll_nonempty (operations : List Operation) (sent : List Buffers) :
    restoreAll (nonempty operations) sent = atNonempty operations (restoreAll operations sent) := by
  induction operations generalizing sent with
  | nil => rfl
  | cons operation rest ih =>
      unfold atNonempty at ih ⊢
      cases empty : operation.isEmpty with
      | true =>
          rw [nonempty_cons_of_isEmpty empty, ih, restoreAll, parts_of_isEmpty empty]
          simp [empty]
      | false =>
          rw [nonempty_cons_of_not_isEmpty empty, restoreAll, restoreAll, ih]
          simp [empty]

/-- An empty operation receives nothing. -/
theorem restore_of_isEmpty {operation : Operation} (empty : operation.isEmpty = true) :
    operation.restore [] = operation := by
  have restored := operation.restore_parts
  rw [parts_of_isEmpty empty] at restored
  exact restored

theorem eq_of_mem_zip_restoreAll (operations : List Operation) (sent : List Buffers) :
    ∀ place ∈ operations.zip (restoreAll operations sent),
      place.1.isEmpty = true → place.2 = place.1 := by
  induction operations generalizing sent with
  | nil => simp
  | cons operation rest ih =>
      intro place found empty
      rw [restoreAll, List.zip_cons_cons] at found
      rcases List.mem_cons.mp found with rfl | later
      · have none : operation.parts = [] := parts_of_isEmpty empty
        simp only [none, List.length_nil, List.take_zero]
        exact restore_of_isEmpty empty
      · exact ih _ place later empty

end Operation

/-- Empty operations have no steps. -/
theorem Step.ofOperations_nonempty (operations : List Operation) :
    ofOperations (Operation.nonempty operations) = ofOperations operations := by
  induction operations with
  | nil => rfl
  | cons operation rest ih =>
      cases empty : operation.isEmpty with
      | true =>
          have none : ofOperation operation = [] := by
            rcases ofOperation_cases operation with ⟨ns, rfl, _⟩ | ⟨_, steps⟩
            · cases empty
            · rw [steps, Operation.parts_of_isEmpty empty, List.map_nil]
          rw [Operation.nonempty_cons_of_isEmpty empty, ih, ofOperations, ofOperations,
            List.flatMap_cons, none, List.nil_append]
      | false =>
          rw [Operation.nonempty_cons_of_not_isEmpty empty, ofOperations, ofOperations,
            List.flatMap_cons, List.flatMap_cons]
          exact congrArg (ofOperation operation ++ ·) ih

namespace Link

variable {σ : Type} [Board σ]

theorem perform_nonempty (link : Link σ) (operations : List Operation) :
    let carried := link.carryOutAll true (Errand.ofOperations operations)
    link.perform operations = carried.map (Operation.restoreAll operations) ∧
      link.perform (Operation.nonempty operations) =
        carried.map (Operation.restoreAll (Operation.nonempty operations)) := by
  intro carried
  have errands : Errand.ofOperations (Operation.nonempty operations) =
      Errand.ofOperations operations := by
    simp only [Errand.ofOperations, Step.ofOperations_nonempty]
  refine ⟨link.perform_eq_carryOutAll operations, ?_⟩
  rw [perform_eq_carryOutAll, errands]

/-- A transaction without its empty operations fails or succeeds like the whole one, and leaves the same
board with the same log and registers, the same table and the same device. The operations that are left
end with the same buffers, and the empty ones end as they were. -/
theorem empty_operations_invisible (link : Link σ) (operations : List Operation) :
    let whole := link.transaction operations
    let short := link.transaction (Operation.nonempty operations)
    short.failure = whole.failure ∧ short.link = whole.link ∧
      short.data = Operation.atNonempty operations whole.data ∧
      whole.data.length = operations.length ∧
      ∀ place ∈ operations.zip whole.data, place.1.isEmpty = true → place.2 = place.1 := by
  intro whole short
  cases selected : link.select.failure with
  | some error =>
      have stopped (asked : List Operation) :
          link.transaction asked = ⟨link.select.link, asked, some error⟩ := by
        simp only [transaction, afterSelect, selected]
      rw [show whole = _ from stopped _, show short = _ from stopped _]
      have kept := Operation.eq_of_mem_zip_restoreAll operations (operations.flatMap Operation.parts)
      rw [Operation.restoreAll_parts] at kept
      exact ⟨rfl, rfl, (Operation.atNonempty_self operations).symm, rfl, kept⟩
  | none =>
      have goesOn (asked : List Operation) :
          link.transaction asked = link.select.link.perform asked := by
        simp only [transaction, afterSelect, selected]
      obtain ⟨wholly, shortly⟩ := link.select.link.perform_nonempty operations
      rw [show whole = _ from (goesOn _).trans wholly, show short = _ from (goesOn _).trans shortly]
      exact ⟨rfl, rfl, Operation.restoreAll_nonempty operations _,
        Operation.length_restoreAll operations _, Operation.eq_of_mem_zip_restoreAll operations _⟩

/-- Empty operations stand around a delay, between two messages of which the second is refused, and at
the end. Without them the same two requests are made, and the same bytes are received. -/
theorem empty_operations_invisible_of_refused_read :
    let device : Device :=
      { controller := .spi0, speed := 1000000, select := 0, mode := .mode0, order := .msbFirst,
        platform := { slaves := 1, polarity := 0, supply := .vddio }, delays := .zero }
    let responses : Responses :=
      { Responses.initial with
        statuses := fun kind =>
          match kind with
          | .transaction => [0, -7]
          | _ => [] }
    let link : Link Recorder :=
      ⟨⟨{ Recorder.initial with responses := responses }, .initial⟩, device⟩
    let operations : List Operation :=
      [.read [], .delay 1500, .write [], .inPlace [1], .exchange [] [], .read [0], .inPlace []]
    let whole := link.transaction operations
    let short := link.transaction (Operation.nonempty operations)
    (operations.length = 7 ∧ Operation.nonempty operations = [.delay 1500, .inPlace [1], .read [0]] ∧
        whole.failure = some .busy ∧
        whole.data = [.read [], .delay 1500, .write [], .inPlace [0x5a], .exchange [] [], .read [0],
          .inPlace []]) ∧
      short.failure = some .busy ∧ short.link = whole.link ∧
        short.data = [.delay 1500, .inPlace [0x5a], .read [0]] := by
  intro device responses link operations whole short
  have failed : whole.failure = some .busy := by decide +kernel
  have received : whole.data = [.read [], .delay 1500, .write [], .inPlace [0x5a], .exchange [] [],
      .read [0], .inPlace []] := by decide +kernel
  obtain ⟨failure, same, data, _⟩ := empty_operations_invisible link operations
  refine ⟨⟨rfl, by decide, failed, received⟩, failure.trans failed, same, data.trans ?_⟩
  rw [show (link.transaction operations).data = _ from received]
  decide

end Link

end SharedSpi

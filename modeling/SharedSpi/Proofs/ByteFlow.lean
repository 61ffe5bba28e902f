import Mathlib.Algebra.GroupWithZero.Nat
import Mathlib.Data.List.Basic
import SharedSpi.Proofs.CarriedSteps

/-!
# The bytes of a transaction

A transaction that succeeds loses no byte and repeats none. An operation is
carried out by the messages for its parts: the parts together send what the
operation sends and receive what it receives, whatever the lengths of the two
sides. The operations send in turn, and take the received stream in turn.
-/

namespace SharedSpi

namespace Buffers

/-- The bytes to send. -/
def sent (buffers : Buffers) : Bytes :=
  buffers.sendSide?.getD []

/-- Both sides, as far as present, have the same length. -/
structure Even (buffers : Buffers) : Prop where
  send : ∀ data, buffers.sendSide? = some data → data.length = buffers.capacity
  receive : ∀ buffer, buffers.receiveSide? = some buffer → buffer.length = buffers.capacity

theorem Even.storeCount {buffers : Buffers} (even : buffers.Even) :
    buffers.storeCount = buffers.received.length := by
  unfold Buffers.storeCount received
  cases side : buffers.receiveSide? with
  | none => rfl
  | some buffer => exact (even.receive buffer side).symm

/-- Bytes for the whole of the receive side replace it. -/
theorem Even.received_store {buffers : Buffers} (even : buffers.Even) {bytes : Bytes}
    (whole : bytes.length = buffers.storeCount) : (buffers.store bytes).received = bytes := by
  rw [even.storeCount] at whole
  unfold received at whole ⊢
  rw [receiveSide?_store]
  cases side : buffers.receiveSide? with
  | none =>
      rw [side] at whole
      exact (List.eq_nil_of_length_eq_zero whole).symm
  | some buffer =>
      rw [side] at whole
      simp only [Option.getD_some] at whole
      simp only [Option.map_some, Option.getD_some, whole, List.drop_length, List.append_nil]

end Buffers

namespace Request

/-- The bytes sent, none without a buffer to send from. -/
def sent (request : Request) : Bytes :=
  request.sent?.getD []

/-- A request that clocks all of an even message sends all of its bytes. -/
theorem sent_of_even {request : Request} (even : request.buffers.Even)
    (whole : request.count = request.buffers.capacity) : request.sent = request.buffers.sent := by
  unfold sent sent? Buffers.sent
  cases side : request.buffers.sendSide? with
  | none => rfl
  | some data =>
      have length := even.send data side
      simp only [Option.map_some, Option.getD_some, whole, ← length, List.take_length]

end Request

namespace Operation

/-- The buffer to send from, if there is one. -/
def sendSide? : Operation → Option Bytes
  | read _ => none
  | write data => some data
  | exchange data _ => some data
  | inPlace buffer => some buffer
  | delay _ => none

/-- The bytes to send. -/
def sent (operation : Operation) : Bytes :=
  operation.sendSide?.getD []

/-- The bytes of the receive buffer. -/
def received (operation : Operation) : Bytes :=
  operation.receiveSide?.getD []

theorem mem_whole {buffers part : Buffers} {bytes : Bytes} (found : part ∈ whole buffers bytes) :
    part = buffers := by
  unfold whole at found
  split at found
  · cases found
  · exact List.mem_singleton.mp found

/-- No part clocks more bytes on one side than on the other. -/
theorem even_parts (operation : Operation) : ∀ part ∈ operation.parts, part.Even := by
  intro part found
  have write : ∀ data, (Buffers.write data).Even := by
    intro data
    constructor
    · rintro _ ⟨⟩
      rfl
    · rintro _ ⟨⟩
  have read : ∀ buffer, (Buffers.read buffer).Even := by
    intro buffer
    constructor
    · rintro _ ⟨⟩
    · rintro _ ⟨⟩
      rfl
  cases operation with
  | read buffer =>
      rw [mem_whole found]
      exact read buffer
  | write data =>
      rw [mem_whole found]
      exact write data
  | exchange data buffer =>
      simp only [parts, remainder, List.mem_append] at found
      rcases found with both | rest | rest
      · rw [mem_whole both]
        constructor
        · rintro _ ⟨⟩
          simp only [Buffers.capacity, List.length_take]
          omega
        · rintro _ ⟨⟩
          simp only [Buffers.capacity, List.length_take]
          omega
      · rw [mem_whole rest]
        exact write _
      · rw [mem_whole rest]
        exact read _
  | inPlace buffer =>
      rw [mem_whole found]
      constructor
      · rintro _ ⟨⟩
        rfl
      · rintro _ ⟨⟩
        rfl
  | delay ns => cases found

theorem flatMap_whole {α : Type} (view : Buffers → List α) (buffers : Buffers) (bytes : Bytes)
    (empty : bytes = [] → view buffers = []) :
    (whole buffers bytes).flatMap view = view buffers := by
  unfold whole
  cases bytes with
  | nil => exact (empty rfl).symm
  | cons byte rest => simp

/-- The parts together send what the operation sends. -/
theorem flatMap_sent_parts (operation : Operation) :
    operation.parts.flatMap Buffers.sent = operation.sent := by
  cases operation with
  | read buffer =>
      apply flatMap_whole
      intro _
      rfl
  | write data =>
      apply flatMap_whole
      exact id
  | exchange data buffer =>
      simp only [parts, remainder, List.flatMap_append]
      rw [flatMap_whole, flatMap_whole, flatMap_whole]
      · simp [Buffers.sent, Buffers.sendSide?, sent, sendSide?]
      · intro _
        rfl
      · exact id
      · exact id
  | inPlace buffer =>
      apply flatMap_whole
      exact id
  | delay ns => rfl

/-- The parts together receive what the operation receives. -/
theorem flatMap_received_parts (operation : Operation) :
    operation.parts.flatMap Buffers.received = operation.received := by
  have restored := restore_parts operation
  cases operation with
  | read buffer => exact Operation.read.inj restored
  | write data => exact received_whole_write data data
  | exchange data buffer => exact (Operation.exchange.inj restored).2
  | inPlace buffer => exact Operation.inPlace.inj restored
  | delay ns => rfl

/-- The parts together clock as many bytes as the longer side has. -/
theorem sum_capacity_parts (operation : Operation) :
    (operation.parts.map Buffers.capacity).sum =
      max operation.sent.length operation.received.length := by
  have one : ∀ (buffers : Buffers) (bytes : Bytes), buffers.capacity = bytes.length →
      ((whole buffers bytes).map Buffers.capacity).sum = bytes.length := by
    intro buffers bytes same
    cases bytes with
    | nil => rfl
    | cons byte rest => simpa [whole] using same
  cases operation with
  | read buffer => exact (one _ _ rfl).trans (Nat.zero_max _).symm
  | write data => exact (one _ _ rfl).trans (Nat.max_zero _).symm
  | exchange data buffer =>
      simp only [parts, remainder, List.map_append, List.sum_append]
      rw [one, one, one]
      · simp only [List.length_take, List.length_drop, sent, sendSide?, received, receiveSide?,
          Option.getD_some]
        omega
      · rfl
      · rfl
      · simp only [Buffers.capacity, List.length_take]
        omega
  | inPlace buffer => exact (one _ _ rfl).trans (Nat.max_self _).symm
  | delay ns => rfl

/-- Two messages carry any operation out: one remainder of an exchange is always empty. -/
theorem length_parts_le (operation : Operation) : operation.parts.length ≤ 2 := by
  have one : ∀ (buffers : Buffers) (bytes : Bytes), (whole buffers bytes).length ≤ 1 := by
    intro buffers bytes
    unfold whole
    split
    · exact Nat.zero_le 1
    · exact Nat.le_refl 1
  cases operation with
  | read buffer => exact Nat.le_succ_of_le (one _ _)
  | write data => exact Nat.le_succ_of_le (one _ _)
  | exchange data buffer =>
      have first := one (.exchange (data.take (min data.length buffer.length))
        (buffer.take (min data.length buffer.length))) (data.take (min data.length buffer.length))
      have rest : (remainder (data.drop (min data.length buffer.length))
          (buffer.drop (min data.length buffer.length))).length ≤ 1 := by
        by_cases longer : data.length ≤ buffer.length
        · have none : data.drop (min data.length buffer.length) = [] :=
            List.drop_of_length_le (by omega)
          rw [remainder, none]
          exact one _ _
        · have none : buffer.drop (min data.length buffer.length) = [] :=
            List.drop_of_length_le (by omega)
          rw [remainder, none, List.length_append]
          exact one _ _
      simp only [parts, List.length_append]
      omega
  | inPlace buffer => exact Nat.le_succ_of_le (one _ _)
  | delay ns => exact Nat.zero_le 2

end Operation

namespace Responses

theorem length_fill (parts : List Buffers) (responses : Responses) :
    (responses.fill parts).length = parts.length := by
  induction parts generalizing responses with
  | nil => rfl
  | cons buffers rest ih => rw [fill, List.length_cons, List.length_cons, ih]

/-- Messages take the stream where those before them left it. -/
theorem fill_append (first second : List Buffers) (responses : Responses) :
    responses.fill (first ++ second) = responses.fill first ++
      (responses.afterBytes (first.map Buffers.storeCount).sum).fill second := by
  induction first generalizing responses with
  | nil => rfl
  | cons buffers rest ih =>
      rw [List.cons_append, fill, fill, ih, List.cons_append]
      congr 2
      apply fill_congr
      · rfl
      · simp only [afterBytes, List.map_cons, List.sum_cons, Nat.add_assoc]

/-- Even messages store the stream without a gap. -/
theorem flatMap_received_fill {parts : List Buffers} (even : ∀ part ∈ parts, part.Even)
    (responses : Responses) :
    (responses.fill parts).flatMap Buffers.received =
        responses.upcoming (parts.flatMap Buffers.received).length ∧
      (parts.map Buffers.storeCount).sum = (parts.flatMap Buffers.received).length := by
  induction parts generalizing responses with
  | nil => exact ⟨rfl, rfl⟩
  | cons buffers rest ih =>
      have first := even buffers List.mem_cons_self
      have later := ih (fun part found => even part (List.mem_cons_of_mem _ found))
        (responses.afterBytes buffers.storeCount)
      constructor
      · rw [fill, List.flatMap_cons, List.flatMap_cons, later.1, List.length_append, upcoming_add,
          first.received_store (length_upcoming _ _), first.storeCount]
      · rw [List.map_cons, List.sum_cons, later.2, List.flatMap_cons, List.length_append,
          first.storeCount]

end Responses

namespace Operation

/-- What is put together for an operation is the next piece of the stream. -/
theorem received_restore_fill (operation : Operation) (responses : Responses) :
    (operation.restore (responses.fill operation.parts)).received =
      responses.upcoming operation.received.length := by
  have filled := (Responses.flatMap_received_fill operation.even_parts responses).1
  rw [flatMap_received_parts] at filled
  cases operation with
  | read buffer => exact filled
  | write data => rfl
  | exchange data buffer => exact filled
  | inPlace buffer => exact filled
  | delay ns => rfl

/-- What is put together for operations is the stream in order, cut into their lengths. -/
theorem received_restoreAll_fill (operations : List Operation) (responses : Responses) :
    let filled := restoreAll operations (responses.fill (operations.flatMap parts))
    filled.flatMap received = responses.upcoming (operations.flatMap received).length ∧
      filled.map (fun operation => operation.received.length) =
        operations.map fun operation => operation.received.length := by
  induction operations generalizing responses with
  | nil => exact ⟨rfl, rfl⟩
  | cons operation rest ih =>
      have used := (Responses.flatMap_received_fill operation.even_parts responses).2
      rw [flatMap_received_parts] at used
      have length := Responses.length_fill operation.parts responses
      have later := ih (responses.afterBytes operation.received.length)
      have first := received_restore_fill operation responses
      simp only [List.flatMap_cons, Responses.fill_append, used, restoreAll,
        List.take_left' length, List.drop_left' length, List.map_cons, first, later,
        List.length_append, Responses.upcoming_add, Responses.length_upcoming, and_self]

end Operation

namespace Link

/-- What a transaction leaves behind if the device is selected and every request is accepted: its
requests are those for the parts of its operations, and the received stream fills these in turn. -/
structure Moved (link : Link Recorder) (operations : List Operation) (requests : List Request)
    (outcome : Outcome Recorder (List Operation)) : Prop where
  failure : outcome.failure = none
  parts : requests.map Request.buffers = operations.flatMap Operation.parts
  whole : ∀ request ∈ requests, request.count = request.buffers.capacity
  data : outcome.data = Operation.restoreAll operations
    (link.board.responses.fill (operations.flatMap Operation.parts))
  stream : outcome.link.board.responses.stream = link.board.responses.stream
  position : outcome.link.board.responses.position = link.board.responses.position +
    ((operations.flatMap Operation.parts).map Buffers.storeCount).sum

/-- Selecting makes no requests: those of a call are those made once the device is selected. -/
theorem requests_after_select {link : Link Recorder} {log events : List BoardEvent}
    (grown : log = link.select.link.board.log ++ events) :
    (log.drop link.board.log.length).filterMap (·.call.request?) =
      events.filterMap (·.call.request?) := by
  obtain ⟨configuring, chosen, quiet⟩ := link.select_quiet
  have none : configuring.filterMap (·.call.request?) = [] := List.filterMap_eq_nil_iff.mpr quiet
  rw [grown, chosen, List.append_assoc, List.drop_left, List.filterMap_append, none,
    List.nil_append]

theorem moved_of_idle {link : Link Recorder} {operations : List Operation}
    (selected : link.select.failure = none)
    (idle : operations.any Operation.carriesData = false) :
    link.Moved operations
      (((link.transaction operations).link.board.log.drop link.board.log.length).filterMap
        (·.call.request?))
      (link.transaction operations) := by
  have ended := transaction_of_idle selected idle
  rw [Recorder.waitAll_eq] at ended
  have silent := Operation.parts_of_idle idle
  have waits : ((Step.waits (Step.ofOperations operations)).map waitEvent).filterMap
      (·.call.request?) = [] := requests_of_waits (by simp)
  have requests := requests_after_select
    (show (link.transaction operations).link.board.log = _ by rw [ended]; rfl)
  rw [requests, waits, ended]
  constructor
  · rfl
  · rw [silent]
    rfl
  · simp
  · have restored := Operation.restoreAll_parts operations
    rw [silent] at restored ⊢
    exact restored.symm
  · exact link.select_stream.1
  · rw [silent]
    exact link.select_stream.2

theorem transaction_moved {link : Link Recorder} {operations : List Operation}
    (selected : link.select.failure = none)
    (accepted : ∀ event ∈ (link.transaction operations).link.board.log.drop link.board.log.length,
      event.Accepted) :
    link.Moved operations
      (((link.transaction operations).link.board.log.drop link.board.log.length).filterMap
        (·.call.request?))
      (link.transaction operations) := by
  cases sends : operations.any Operation.carriesData with
  | false => exact moved_of_idle selected sends
  | true =>
      obtain ⟨carried, ended, done⟩ := transaction_of_accepted selected sends accepted
      obtain ⟨stream, position⟩ := link.select_stream
      let schedule := Schedule.ofSteps (Step.ofOperations operations)
      let ready := link.select.link.updateDelays schedule.delays
      obtain ⟨writes, written, timings⟩ := link.select.link.updateDelays_log schedule.delays
      have silent := requests_of_writes timings
      have buffers : Step.buffers schedule.body = operations.flatMap Operation.parts :=
        (Step.buffers_body _).trans (Step.buffers_ofOperations operations)
      have responses : ready.board.responses = link.select.link.board.responses :=
        link.select.link.updateDelays_responses schedule.delays
      have requests := requests_after_select
        (show (link.transaction operations).link.board.log = _ by
          rw [ended, done.log, written, List.append_assoc])
      rw [List.filterMap_append, silent, List.nil_append, Step.filterMap_request?_events] at requests
      obtain ⟨asked, whole⟩ := Step.map_buffers_requests ready.device.select schedule.body
      rw [requests, ended]
      constructor
      · rfl
      · exact asked.trans buffers
      · exact whole
      · have filled : ready.board.responses.fill (Step.buffers schedule.body) =
            link.board.responses.fill (Step.buffers schedule.body) := by
          apply Responses.fill_congr
          · rw [responses, stream]
          · rw [responses, position]
        rw [← buffers]
        exact congrArg (Operation.restoreAll operations) (done.data.trans filled)
      · rw [done.stream, responses, stream]
      · rw [done.position, ← buffers, responses, position]

/-- Requests for the parts of operations fall into one group for each operation. -/
theorem group_requests {operations : List Operation} {requests : List Request}
    (parts : requests.map Request.buffers = operations.flatMap Operation.parts) :
    ∃ groups : List (Operation × List Request), groups.map Prod.fst = operations ∧
      groups.flatMap Prod.snd = requests ∧
        ∀ group ∈ groups, group.2.map Request.buffers = group.1.parts := by
  induction operations generalizing requests with
  | nil => exact ⟨[], rfl, (List.map_eq_nil_iff.mp parts).symm, by simp⟩
  | cons operation rest ih =>
      rw [List.flatMap_cons] at parts
      obtain ⟨own, others, rfl, first, later⟩ := List.map_eq_append_iff.mp parts
      obtain ⟨groups, listed, joined, each⟩ := ih later
      refine ⟨(operation, own) :: groups, ?_, ?_, ?_⟩
      · rw [List.map_cons, listed]
      · rw [List.flatMap_cons, joined]
      · intro group found
        rcases List.mem_cons.mp found with rfl | old
        · exact first
        · exact each group old

/-- Whole requests for even messages send all bytes of these. -/
theorem flatMap_sent_of_whole {requests : List Request} {parts : List Buffers}
    (asked : requests.map Request.buffers = parts) (even : ∀ part ∈ parts, part.Even)
    (whole : ∀ request ∈ requests, request.count = request.buffers.capacity) :
    requests.flatMap Request.sent = parts.flatMap Buffers.sent := by
  rw [← asked, List.flatMap_map]
  apply List.flatMap_congr
  intro request found
  apply Request.sent_of_even
  · apply even
    rw [← asked]
    exact List.mem_map_of_mem found
  · exact whole request found

/-- The requests of one operation send its bytes, are two at most, and clock as many bytes as its
longer side has. -/
theorem group_of_operation {operation : Operation} {requests : List Request}
    (parts : requests.map Request.buffers = operation.parts)
    (whole : ∀ request ∈ requests, request.count = request.buffers.capacity) :
    requests.length ≤ 2 ∧ requests.flatMap Request.sent = operation.sent ∧
      (requests.map Request.count).sum =
        max operation.sent.length operation.received.length := by
  refine ⟨?_, ?_, ?_⟩
  · have bound := operation.length_parts_le
    rw [← parts, List.length_map] at bound
    exact bound
  · rw [flatMap_sent_of_whole parts operation.even_parts whole, operation.flatMap_sent_parts]
  · rw [← operation.sum_capacity_parts, ← parts, List.map_map]
    exact congrArg List.sum (List.map_congr_left whole)

/-- A transaction whose device is selected and whose requests are all accepted succeeds. Its requests
send the bytes of the operations in order, its receive buffers are filled with the next bytes of the
stream in order, and each operation is clocked by at most two requests for as many bytes as its longer
side has. -/
theorem bytes_of_transaction {link : Link Recorder} {operations : List Operation}
    (selected : link.select.failure = none)
    (accepted : ∀ event ∈ (link.transaction operations).link.board.log.drop link.board.log.length,
      event.Accepted) :
    let outcome := link.transaction operations
    let requests := (outcome.link.board.log.drop link.board.log.length).filterMap
      (·.call.request?)
    let total := (operations.flatMap Operation.received).length
    outcome.failure = none ∧
      requests.flatMap Request.sent = operations.flatMap Operation.sent ∧
      outcome.data.flatMap Operation.received = link.board.responses.upcoming total ∧
      outcome.data.map (fun operation => operation.received.length) =
        operations.map (fun operation => operation.received.length) ∧
      outcome.link.board.responses.stream = link.board.responses.stream ∧
      outcome.link.board.responses.position = link.board.responses.position + total ∧
      ∃ groups : List (Operation × List Request), groups.map Prod.fst = operations ∧
        groups.flatMap Prod.snd = requests ∧
        ∀ group ∈ groups, group.2.length ≤ 2 ∧
          group.2.flatMap Request.sent = group.1.sent ∧
          (group.2.map Request.count).sum =
            max group.1.sent.length group.1.received.length := by
  intro outcome requests total
  have moved : link.Moved operations requests outcome := transaction_moved selected accepted
  obtain ⟨stored, lengths⟩ := Operation.received_restoreAll_fill operations link.board.responses
  obtain ⟨groups, listed, joined, each⟩ := group_requests moved.parts
  have even : ∀ part ∈ operations.flatMap Operation.parts, part.Even := by
    intro part found
    obtain ⟨operation, _, own⟩ := List.mem_flatMap.mp found
    exact operation.even_parts part own
  have received : (operations.flatMap Operation.parts).flatMap Buffers.received =
      operations.flatMap Operation.received := by
    rw [List.flatMap_assoc]
    exact List.flatMap_congr fun operation _ => operation.flatMap_received_parts
  refine ⟨moved.failure, ?_, ?_, ?_, moved.stream, ?_, groups, listed, joined, ?_⟩
  · rw [flatMap_sent_of_whole moved.parts even moved.whole, List.flatMap_assoc]
    exact List.flatMap_congr fun operation _ => operation.flatMap_sent_parts
  · rw [moved.data]
    exact stored
  · rw [moved.data]
    exact lengths
  · rw [moved.position, (Responses.flatMap_received_fill even link.board.responses).2, received]
  · intro group found
    apply group_of_operation (each group found)
    intro request own
    apply moved.whole
    rw [← joined]
    exact List.mem_flatMap.mpr ⟨group, found, own⟩

/-- Exchanges that are longer on one side, on a device that has to be configured first. -/
theorem bytes_of_uneven_exchanges :
    let device : Device :=
      { controller := .spi0, speed := 1000000, select := 1, mode := .mode0, order := .msbFirst,
        platform := { slaves := 1, polarity := 0, supply := .vddio }, delays := .zero }
    let link : Link Recorder := ⟨⟨Recorder.initial, .initial⟩, device⟩
    let operations : List Operation :=
      [.read [], .exchange [1, 2] [0], .delay 5, .exchange [3] [0, 0], .inPlace [4]]
    let events := (link.transaction operations).link.board.log.drop link.board.log.length
    (link.select.failure = none ∧ ∀ event ∈ events, event.Accepted) ∧
      (events.filterMap (·.call.request?)).flatMap Request.sent =
        operations.flatMap Operation.sent ∧
      (link.transaction operations).data.flatMap Operation.received =
        link.board.responses.upcoming (operations.flatMap Operation.received).length := by
  intro device link operations
  dsimp only
  have selected : link.select.failure = none := by decide +kernel
  have accepted : ∀ event ∈ (link.transaction operations).link.board.log.drop link.board.log.length,
      event.Accepted := by decide +kernel
  obtain ⟨_, sends, receives, _⟩ := bytes_of_transaction selected accepted
  exact ⟨⟨selected, accepted⟩, sends, receives⟩

end Link

end SharedSpi

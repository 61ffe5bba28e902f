import SharedSpi.Message

/-!
# Operations

A transaction is a list of operations under one assertion of chip select. An
operation reads, writes, does both at once with buffers of any two lengths, or
waits. It is carried out by messages: an operation without bytes needs none,
and one whose two buffers differ in length needs two, the second for what is
left of the longer buffer.
-/

namespace SharedSpi

/-- A part of a transaction. -/
inductive Operation where
  | read (buffer : Bytes)
  | write (data : Bytes)
  /-- Sends one buffer while receiving into another; the lengths may differ. -/
  | exchange (data buffer : Bytes)
  /-- Sends a buffer and replaces it by what comes back. -/
  | inPlace (buffer : Bytes)
  /-- Waits for a time in nanoseconds. -/
  | delay (ns : UInt32)
  deriving DecidableEq, Repr

namespace Operation

/-- The one message for `bytes`, with the given buffers, or no message if there are no bytes. -/
def whole (buffers : Buffers) (bytes : Bytes) : List Buffers :=
  if bytes.isEmpty then [] else [buffers]

/-- The message for what is left of the longer of two buffers. -/
def remainder (data buffer : Bytes) : List Buffers :=
  whole (.write data) data ++ whole (.read buffer) buffer

/-- The buffers of the messages that carry an operation out. -/
def parts : Operation → List Buffers
  | read buffer => whole (.read buffer) buffer
  | write data => whole (.write data) data
  | exchange data buffer =>
      let both := min data.length buffer.length
      whole (.exchange (data.take both) (buffer.take both)) (data.take both) ++
        remainder (data.drop both) (buffer.drop both)
  | inPlace buffer => whole (.inPlace buffer) buffer
  | delay _ => []

/-- Whether an operation carries bytes in either direction. -/
def carriesData : Operation → Bool
  | read buffer => !buffer.isEmpty
  | write data => !data.isEmpty
  | exchange data buffer => !data.isEmpty || !buffer.isEmpty
  | inPlace buffer => !buffer.isEmpty
  | delay _ => false

/-- The buffer to receive into, if there is one. -/
def receiveSide? : Operation → Option Bytes
  | read buffer => some buffer
  | write _ => none
  | exchange _ buffer => some buffer
  | inPlace buffer => some buffer
  | delay _ => none

/-- The operation with its receive buffer put together again from the buffers of its messages. -/
def restore (operation : Operation) (sent : List Buffers) : Operation :=
  match operation with
  | read _ => read (sent.flatMap Buffers.received)
  | write data => write data
  | exchange data _ => exchange data (sent.flatMap Buffers.received)
  | inPlace _ => inPlace (sent.flatMap Buffers.received)
  | delay ns => delay ns

/-- Operations with their receive buffers put together again from the buffers of all messages. -/
def restoreAll : List Operation → List Buffers → List Operation
  | [], _ => []
  | operation :: rest, sent =>
      operation.restore (sent.take operation.parts.length) ::
        restoreAll rest (sent.drop operation.parts.length)

theorem whole_eq_nil_iff {buffers : Buffers} {bytes : Bytes} :
    whole buffers bytes = [] ↔ bytes.isEmpty = true := by
  cases bytes <;> simp [whole]

/-- An operation needs no message exactly if it carries no bytes. -/
theorem parts_eq_nil_iff {operation : Operation} :
    operation.parts = [] ↔ operation.carriesData = false := by
  cases operation with
  | read buffer => rw [parts, whole_eq_nil_iff, carriesData, Bool.not_eq_false']
  | write data => rw [parts, whole_eq_nil_iff, carriesData, Bool.not_eq_false']
  | exchange data buffer =>
      simp only [parts, remainder, List.append_eq_nil_iff, whole_eq_nil_iff, carriesData]
      -- The first byte on a side is in the common part if the other side has one too.
      cases data <;> cases buffer <;> simp [Nat.succ_min_succ]
  | inPlace buffer => rw [parts, whole_eq_nil_iff, carriesData, Bool.not_eq_false']
  | delay ns => exact ⟨fun _ => rfl, fun _ => rfl⟩

theorem isEmpty_parts (operation : Operation) :
    operation.parts.isEmpty = !operation.carriesData := by
  rw [Bool.eq_iff_iff, List.isEmpty_iff, parts_eq_nil_iff, Bool.not_eq_true']

theorem received_whole_write (data bytes : Bytes) :
    (whole (.write data) bytes).flatMap Buffers.received = [] := by
  unfold whole
  split <;> rfl

theorem received_whole_read (buffer : Bytes) :
    (whole (.read buffer) buffer).flatMap Buffers.received = buffer := by
  cases buffer <;> simp [whole, Buffers.received, Buffers.receiveSide?]

/-- Messages that were not sent give the operation back as it was. -/
theorem restore_parts (operation : Operation) : operation.restore operation.parts = operation := by
  cases operation with
  | read buffer => rw [restore, parts, received_whole_read]
  | write data => rfl
  | exchange data buffer =>
      simp only [restore, parts, remainder, List.flatMap_append, received_whole_write,
        received_whole_read, List.nil_append, exchange.injEq, true_and]
      cases data <;> cases buffer <;>
        simp [whole, Buffers.received, Buffers.receiveSide?, Nat.succ_min_succ]
  | inPlace buffer =>
      cases buffer <;> simp [restore, parts, whole, Buffers.received, Buffers.receiveSide?]
  | delay ns => rfl

theorem restoreAll_parts (operations : List Operation) :
    restoreAll operations (operations.flatMap parts) = operations := by
  induction operations with
  | nil => rfl
  | cons operation rest ih =>
      rw [List.flatMap_cons, restoreAll, List.take_left, List.drop_left, restore_parts, ih]

end Operation

end SharedSpi

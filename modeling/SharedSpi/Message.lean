import SharedSpi.Timing.Delays

/-!
# Messages

A message is one exchange with a device: the buffers it sends from and receives
into, how many bytes are clocked, and what happens around them. A message
always has one direction at least. Received bytes replace the front of the
receive side, and nothing else.
-/

namespace SharedSpi

/-- A string of bytes. -/
abbrev Bytes := List UInt8

/-- The buffers of a message. -/
inductive Buffers where
  /-- Bytes are sent, and what comes back is dropped. -/
  | write (data : Bytes)
  /-- Bytes are received. -/
  | read (buffer : Bytes)
  /-- Bytes are sent from one buffer and received into another. -/
  | exchange (data buffer : Bytes)
  /-- The buffer is sent and replaced by what comes back. -/
  | inPlace (buffer : Bytes)
  deriving DecidableEq, Repr

namespace Buffers

/-- The buffer to send from, if there is one. -/
def sendSide? : Buffers → Option Bytes
  | write data => some data
  | read _ => none
  | exchange data _ => some data
  | inPlace buffer => some buffer

/-- The buffer to receive into, if there is one. -/
def receiveSide? : Buffers → Option Bytes
  | write _ => none
  | read buffer => some buffer
  | exchange _ buffer => some buffer
  | inPlace buffer => some buffer

/-- The bytes of the receive side, none if there is no such side. -/
def received (buffers : Buffers) : Bytes :=
  buffers.receiveSide?.getD []

/-- Whether both sides are one buffer. -/
def isInPlace : Buffers → Bool
  | inPlace _ => true
  | _ => false

/-- The most bytes that every side can take part in. -/
def capacity : Buffers → Nat
  | write data => data.length
  | read buffer => buffer.length
  | exchange data buffer => min data.length buffer.length
  | inPlace buffer => buffer.length

/-- Puts received bytes at the front of the receive side. -/
def store (buffers : Buffers) (bytes : Bytes) : Buffers :=
  match buffers with
  | write data => write data
  | read buffer => read (bytes ++ buffer.drop bytes.length)
  | exchange data buffer => exchange data (bytes ++ buffer.drop bytes.length)
  | inPlace buffer => inPlace (bytes ++ buffer.drop bytes.length)

theorem receiveSide?_store (buffers : Buffers) (bytes : Bytes) :
    (buffers.store bytes).receiveSide? =
      buffers.receiveSide?.map fun buffer => bytes ++ buffer.drop bytes.length := by
  cases buffers <;> rfl

@[simp] theorem store_nil (buffers : Buffers) : buffers.store [] = buffers := by
  cases buffers <;> rfl

end Buffers

/-- One exchange with a device. -/
structure Message where
  buffers : Buffers
  /-- How many bytes are clocked. -/
  count : Nat
  /-- Whether chip select is released at the end. -/
  release : Bool
  /-- The wait after the message, in microseconds. -/
  waitAfter : UInt32
  /-- The delays around the clock edges. -/
  delays : SelectDelays
  deriving DecidableEq, Repr

namespace Message

/-- A message that clocks all it can, keeps chip select and waits nowhere. -/
def ofBuffers (buffers : Buffers) : Message where
  buffers := buffers
  count := buffers.capacity
  release := false
  waitAfter := 0
  delays := .zero

/-- A message on its own: chip select is released at the end. -/
def single (buffers : Buffers) : Message :=
  { ofBuffers buffers with release := true }

/-- Whether the bytes to clock fit into every side that is present. -/
def fits (message : Message) : Bool :=
  match message.buffers with
  | .write data => decide (message.count ≤ data.length)
  | .read buffer => decide (message.count ≤ buffer.length)
  | .exchange data buffer =>
      decide (message.count ≤ data.length) && decide (message.count ≤ buffer.length)
  | .inPlace buffer => decide (message.count ≤ buffer.length)

theorem fits_iff (message : Message) :
    message.fits = true ↔ message.count ≤ message.buffers.capacity := by
  cases shape : message.buffers with
  | exchange data buffer =>
      simp only [fits, shape, Buffers.capacity, Bool.and_eq_true, decide_eq_true_eq]
      exact Nat.le_min.symm
  | write data => simp only [fits, shape, Buffers.capacity, decide_eq_true_eq]
  | read buffer => simp only [fits, shape, Buffers.capacity, decide_eq_true_eq]
  | inPlace buffer => simp only [fits, shape, Buffers.capacity, decide_eq_true_eq]

theorem fits_ofBuffers (buffers : Buffers) : (ofBuffers buffers).fits = true :=
  (fits_iff _).mpr (Nat.le_refl _)

end Message

end SharedSpi

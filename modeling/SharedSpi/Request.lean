import SharedSpi.Message

/-!
# Requests

What a controller is asked to do for a message. A direction whose buffer is
absent has no pointer and length zero; a present one has the message's count.
-/

namespace SharedSpi

/-- One transaction of a controller. -/
structure Request where
  /-- The select line. -/
  select : UInt8
  /-- Whether chip select is released at the end. -/
  release : Bool
  buffers : Buffers
  /-- How many bytes are clocked. -/
  count : Nat
  deriving DecidableEq, Repr

namespace Request

/-- The request for a message on a select line. It is made without checking the message. -/
def ofMessage (select : UInt8) (message : Message) : Request where
  select := select
  release := message.release
  buffers := message.buffers
  count := message.count

/-- The number of bytes to send. -/
def sendLength (request : Request) : Nat :=
  if request.buffers.sendSide?.isSome then request.count else 0

/-- The number of bytes to receive. -/
def receiveLength (request : Request) : Nat :=
  if request.buffers.receiveSide?.isSome then request.count else 0

/-- The bytes sent, if there is a buffer to send from. -/
def sent? (request : Request) : Option Bytes :=
  request.buffers.sendSide?.map fun data => data.take request.count

/-- The number of bytes received, if there is a buffer to receive into. -/
def receiveLength? (request : Request) : Option Nat :=
  request.buffers.receiveSide?.map fun _ => request.count

/-- Whether bytes are sent from and received into one buffer. -/
def shared (request : Request) : Bool :=
  request.buffers.isInPlace && decide (0 < request.count)

end Request

end SharedSpi

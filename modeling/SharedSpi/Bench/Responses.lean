import SharedSpi.Message

/-!
# Scripted responses

A bench answers calls by a script. Every kind of call has a queue of statuses,
and a call with an empty queue succeeds. Received bytes come from an endless
stream, of which only stored bytes are used up.
-/

namespace SharedSpi

/-- The kinds of calls that end with a status. -/
inductive CallKind where
  | init
  | setMode
  | setWidth
  | setDataSize
  | shutdown
  | transaction
  deriving DecidableEq, Repr

/-- The statuses and bytes still to come. -/
structure Responses where
  /-- The statuses of the next calls of each kind. -/
  statuses : CallKind → List Int32
  /-- The received stream. -/
  stream : Nat → UInt8
  /-- How many bytes of the stream are used up. -/
  position : Nat

/-- The stream that repeats a pattern. -/
def cyclic (pattern : Bytes) (index : Nat) : UInt8 :=
  pattern.getD (index % pattern.length) 0

namespace Responses

/-- Every call succeeds, and the byte 0x5a is received again and again. -/
def initial : Responses where
  statuses := fun _ => []
  stream := cyclic [0x5a]
  position := 0

/-- The status of the next call of a kind. -/
def status (responses : Responses) (kind : CallKind) : Int32 :=
  (responses.statuses kind).headD 0

/-- What is left once a call of a kind has taken its status. -/
def afterCall (responses : Responses) (kind : CallKind) : Responses :=
  { responses with
    statuses := fun other =>
      if other = kind then (responses.statuses other).tail else responses.statuses other }

/-- The next bytes of the stream. -/
def upcoming (responses : Responses) (count : Nat) : Bytes :=
  (List.range count).map fun offset => responses.stream (responses.position + offset)

/-- What is left once bytes were stored. -/
def afterBytes (responses : Responses) (count : Nat) : Responses :=
  { responses with position := responses.position + count }

/-- Adds statuses at the ends of the queues. -/
def enqueue (responses : Responses) (more : CallKind → List Int32) : Responses :=
  { responses with statuses := fun kind => responses.statuses kind ++ more kind }

/-- Starts a new stream. -/
def restart (responses : Responses) (pattern : Bytes) : Responses :=
  { responses with stream := cyclic pattern, position := 0 }

@[simp] theorem length_upcoming (responses : Responses) (count : Nat) :
    (responses.upcoming count).length = count := by
  rw [upcoming, List.length_map, List.length_range]

/-- Taking bytes in two portions gives the same bytes as taking them at once. -/
theorem upcoming_add (responses : Responses) (first second : Nat) :
    responses.upcoming (first + second) =
      responses.upcoming first ++ (responses.afterBytes first).upcoming second := by
  simp only [upcoming, afterBytes, List.range_add, List.map_append, List.map_map,
    Function.comp_def, Nat.add_assoc]

end Responses

end SharedSpi

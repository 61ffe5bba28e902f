import SharedSpi.Operation

/-!
# Schedules

The operations of a transaction come down to a sequence of steps, each a wait
or a message. Waits before the first message and after the last are not waited
for: the controller keeps chip select asserted that long by its setup and hold
times. A schedule separates them from the steps between, and the three pieces
put together are the steps again.
-/

namespace SharedSpi

/-- A step of a transaction. -/
inductive Step where
  /-- Waits for a time in nanoseconds. -/
  | wait (ns : UInt32)
  /-- Sends a message with these buffers. -/
  | part (buffers : Buffers)
  deriving DecidableEq, Repr

namespace Step

/-- Whether a step sends a message. -/
def isPart : Step → Bool
  | wait _ => false
  | part _ => true

/-- The steps of an operation. -/
def ofOperation : Operation → List Step
  | .delay ns => [wait ns]
  | operation => operation.parts.map part

/-- The steps of a transaction. -/
def ofOperations (operations : List Operation) : List Step :=
  operations.flatMap ofOperation

/-- The buffers of the messages among the steps. -/
def buffers : List Step → List Buffers
  | [] => []
  | wait _ :: rest => buffers rest
  | part data :: rest => data :: buffers rest

/-- The waits among the steps. -/
def waits : List Step → List UInt32
  | [] => []
  | wait ns :: rest => ns :: waits rest
  | part _ :: rest => waits rest

/-- The waits before the first message. -/
def leadingWaits : List Step → List UInt32
  | wait ns :: rest => ns :: leadingWaits rest
  | _ => []

/-- The steps from the first message on. -/
def fromFirstPart : List Step → List Step
  | wait _ :: rest => fromFirstPart rest
  | steps => steps

/-- The steps up to the last message. -/
def untilLastPart : List Step → List Step
  | [] => []
  | step :: rest =>
      if (step :: rest).any isPart then step :: untilLastPart rest else []

/-- The waits after the last message. -/
def trailingWaits : List Step → List UInt32
  | [] => []
  | part _ :: rest => trailingWaits rest
  | wait ns :: rest => if rest.any isPart then trailingWaits rest else ns :: trailingWaits rest

theorem leadingWaits_append_fromFirstPart (steps : List Step) :
    (leadingWaits steps).map wait ++ fromFirstPart steps = steps := by
  induction steps with
  | nil => rfl
  | cons step rest ih =>
      cases step with
      | wait ns => simp only [leadingWaits, fromFirstPart, List.map_cons, List.cons_append, ih]
      | part data => rfl

theorem untilLastPart_append_trailingWaits (steps : List Step) :
    untilLastPart steps ++ (trailingWaits steps).map wait = steps := by
  induction steps with
  | nil => rfl
  | cons step rest ih =>
      cases step with
      | part data => simp [untilLastPart, trailingWaits, isPart, ih]
      | wait ns =>
          by_cases more : rest.any isPart = true
          · simp only [untilLastPart, trailingWaits, List.any_cons, isPart, Bool.false_or, more,
              if_true, List.cons_append, ih]
          · have none : untilLastPart rest = [] := by
              cases rest with
              | nil => rfl
              | cons next later => rw [untilLastPart, if_neg more]
            rw [none, List.nil_append] at ih
            simp only [untilLastPart, trailingWaits, List.any_cons, isPart, Bool.false_or,
              if_neg more, List.map_cons, List.nil_append, ih]

end Step

/-- The steps of a transaction that sends something. -/
structure Schedule where
  /-- The waits before the first message. -/
  setup : List UInt32
  /-- The steps from the first message to the last. -/
  body : List Step
  /-- The waits after the last message. -/
  hold : List UInt32
  deriving DecidableEq, Repr

/-- The sum of two 32-bit numbers, or the largest such number if the sum does not fit. -/
def saturatingAdd (first second : UInt32) : UInt32 :=
  UInt32.ofNat (min (first.toNat + second.toNat) (UInt32.size - 1))

/-- The length of waits in nanoseconds together, in microseconds rounded up. -/
def totalMicros (waits : List UInt32) : UInt32 :=
  UInt32.ofNat (((waits.foldl saturatingAdd 0).toNat + 999) / 1000)

namespace Schedule

/-- Separates the outer waits of steps from those between messages. -/
def ofSteps (steps : List Step) : Schedule where
  setup := Step.leadingWaits steps
  body := Step.untilLastPart (Step.fromFirstPart steps)
  hold := Step.trailingWaits (Step.fromFirstPart steps)

/-- The steps that a schedule stands for. -/
def steps (schedule : Schedule) : List Step :=
  schedule.setup.map .wait ++ (schedule.body ++ schedule.hold.map .wait)

/-- The delays that every message of the schedule asks for. -/
def delays (schedule : Schedule) : SelectDelays where
  first := totalMicros schedule.setup
  last := totalMicros schedule.hold

/-- Nothing is lost or moved when the outer waits are separated. -/
theorem steps_ofSteps (steps : List Step) : (ofSteps steps).steps = steps := by
  rw [Schedule.steps, ofSteps, Step.untilLastPart_append_trailingWaits,
    Step.leadingWaits_append_fromFirstPart]

end Schedule

end SharedSpi

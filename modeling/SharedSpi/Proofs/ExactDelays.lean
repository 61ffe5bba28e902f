import Mathlib.Data.List.DropRight
import SharedSpi.Proofs.FailedTransactions
import SharedSpi.Proofs.History
import SharedSpi.Proofs.Quantization
import SharedSpi.Proofs.Standings

/-!
# Delays of any length

The outer waits of a transaction are added up in 32 bits, and a sum that does
not fit is cut off. From a clock of 60 hertz on nobody can tell: what is left of
such a sum still takes more ticks than can be programmed, like the sum itself,
and a request of which one delay is refused is refused as a whole. So what a
transaction is carried out with is what the sums themselves would bring about:
by its log every request finds the register like this, and the device remembers
these delays when it makes the request and when it is done.
-/

namespace SharedSpi

namespace Operation

/-- The delays before the first operation with data. -/
def leadingDelays (operations : List Operation) : List UInt32 :=
  (operations.takeWhile fun operation => !operation.carriesData).filterMap delay?

/-- The delays after the last operation with data. -/
def trailingDelays (operations : List Operation) : List UInt32 :=
  (operations.rtakeWhile fun operation => !operation.carriesData).filterMap delay?

theorem takeWhile_idle {idle : List Operation}
    (without : ∀ operation ∈ idle, operation.carriesData = false) {next : Operation}
    (carries : next.carriesData = true) (rest : List Operation) :
    (idle ++ next :: rest).takeWhile (fun operation => !operation.carriesData) = idle := by
  have skipped : ∀ operation ∈ idle, (!operation.carriesData) = true := fun operation found => by
    rw [without operation found, Bool.not_false]
  rw [List.takeWhile_append_of_pos skipped, List.takeWhile_cons_of_neg (by simp [carries]),
    List.append_nil]

/-- Around a first and a last operation with data stand the leading and the trailing delays. -/
theorem delays_of_core {lead core trail : List Operation}
    (before : ∀ operation ∈ lead, operation.carriesData = false)
    (after : ∀ operation ∈ trail, operation.carriesData = false)
    (starts : ∃ first rest, core = first :: rest ∧ first.carriesData = true)
    (ends : ∃ rest last, core = rest ++ [last] ∧ last.carriesData = true) :
    leadingDelays (lead ++ (core ++ trail)) = lead.filterMap delay? ∧
      trailingDelays (lead ++ (core ++ trail)) = trail.filterMap delay? := by
  constructor
  · obtain ⟨first, rest, head, carries⟩ := starts
    rw [leadingDelays, head, List.cons_append, takeWhile_idle before carries]
  · obtain ⟨rest, last, foot, carries⟩ := ends
    have reversed : (lead ++ (core ++ trail)).reverse =
        trail.reverse ++ last :: (rest.reverse ++ lead.reverse) := by
      simp [foot]
    have idle : ∀ operation ∈ trail.reverse, operation.carriesData = false :=
      fun operation found => after operation (List.mem_reverse.mp found)
    rw [trailingDelays, List.rtakeWhile, reversed, takeWhile_idle idle carries,
      List.reverse_reverse]

end Operation

theorem Step.leadingWaits_map_wait (times : List UInt32) (data : Buffers) (rest : List Step) :
    leadingWaits (times.map wait ++ part data :: rest) = times := by
  induction times with
  | nil => rfl
  | cons ns later ih => exact congrArg (ns :: ·) ih

namespace Schedule

/-- The outer waits of a schedule are those around its body. -/
theorem waits_between {core : List Step} (starts : ∃ first rest, core = .part first :: rest)
    (ends : ∃ rest last, core = rest ++ [.part last]) (lead trail : List UInt32) :
    (ofSteps (lead.map .wait ++ (core ++ trail.map .wait))).setup = lead ∧
      (ofSteps (lead.map .wait ++ (core ++ trail.map .wait))).hold = trail := by
  have body := body_between starts ends lead trail
  have whole := steps_ofSteps (lead.map .wait ++ (core ++ trail.map .wait))
  have setup : (ofSteps (lead.map .wait ++ (core ++ trail.map .wait))).setup = lead := by
    obtain ⟨first, rest, head⟩ := starts
    rw [head]
    exact Step.leadingWaits_map_wait lead first _
  refine ⟨setup, ?_⟩
  rw [Schedule.steps, setup, body] at whole
  have same := List.append_cancel_left (List.append_cancel_left whole)
  exact List.map_injective_iff.mpr (fun _ _ equal => Step.wait.inj equal) same

/-- The outer waits of a transaction are its leading and its trailing delays. -/
theorem waits_ofOperations {operations : List Operation}
    (sends : operations.any Operation.carriesData = true) :
    (ofSteps (Step.ofOperations operations)).setup = Operation.leadingDelays operations ∧
      (ofSteps (Step.ofOperations operations)).hold = Operation.trailingDelays operations := by
  obtain ⟨lead, core, trail, rfl, before, after, starts, ends⟩ := Operation.exists_core sends
  obtain ⟨opens, closes⟩ := Step.ofOperations_core starts ends
  obtain ⟨leading, trailing⟩ := Operation.delays_of_core before after starts ends
  rw [leading, trailing, Step.ofOperations_append, Step.ofOperations_append,
    Step.ofOperations_of_idle before, Step.ofOperations_of_idle after]
  exact waits_between opens closes _ _

end Schedule

/-- The length of waits together, in microseconds rounded up, whether it fits into 32 bits or not. -/
def exactMicros (waits : List UInt32) : Nat :=
  ((waits.map UInt32.toNat).sum + 999) / 1000

/-- The microseconds of a sum that was cut off. -/
def cutMicros : Nat := 4294968

theorem toNat_saturatingAdd (first second : UInt32) :
    (saturatingAdd first second).toNat = min (first.toNat + second.toNat) (UInt32.size - 1) :=
  UInt32.toNat_ofNat_of_lt' (Nat.lt_of_le_of_lt (Nat.min_le_right _ _) (by decide))

/-- Numbers that are added up with a limit come to their sum, cut off once. -/
theorem toNat_foldl_saturatingAdd (waits : List UInt32) (start : UInt32) :
    (waits.foldl saturatingAdd start).toNat =
      min (start.toNat + (waits.map UInt32.toNat).sum) (UInt32.size - 1) := by
  induction waits generalizing start with
  | nil =>
      have fits := start.toNat_lt
      change _ = min start.toNat 4294967295
      rw [List.foldl_nil]
      omega
  | cons ns rest ih =>
      rw [List.foldl_cons, ih, toNat_saturatingAdd, List.map_cons, List.sum_cons]
      omega

theorem toNat_totalMicros (waits : List UInt32) :
    (totalMicros waits).toNat =
      (min (waits.map UInt32.toNat).sum (UInt32.size - 1) + 999) / 1000 := by
  have total := toNat_foldl_saturatingAdd waits 0
  rw [UInt32.toNat_zero, Nat.zero_add] at total
  rw [totalMicros, total]
  refine UInt32.toNat_ofNat_of_lt' ?_
  change (min _ 4294967295 + 999) / 1000 < 4294967296
  omega

theorem cutMicros_le_exactMicros {waits : List UInt32}
    (long : UInt32.size ≤ (waits.map UInt32.toNat).sum) : cutMicros ≤ exactMicros waits := by
  change 4294967296 ≤ _ at long
  unfold cutMicros exactMicros
  omega

/-- A total is exact unless it was cut off. -/
theorem totalMicros_cases (waits : List UInt32) :
    (totalMicros waits).toNat = exactMicros waits ∨
      (cutMicros ≤ (totalMicros waits).toNat ∧ cutMicros ≤ exactMicros waits) := by
  rw [toNat_totalMicros]
  rcases Nat.lt_or_ge (waits.map UInt32.toNat).sum UInt32.size with fits | long
  · refine Or.inl ?_
    rw [Nat.min_eq_left (Nat.le_sub_one_of_lt fits)]
    rfl
  · refine Or.inr ⟨?_, cutMicros_le_exactMicros long⟩
    rw [Nat.min_eq_right (Nat.le_trans (Nat.sub_le _ _) long)]
    decide

/-- From 60 hertz on, what is left of a sum that was cut off has no count. -/
theorem exactCount_of_cut {hz us tick : Nat} (fast : 60 ≤ hz) (running : exactTick hz = some tick)
    (long : cutMicros ≤ us) : exactCount us tick = none := by
  have slowest : exactTick 60 = some 16666667 := rfl
  have short := exactTick_antitone fast slowest running
  unfold cutMicros at long
  refine (exactCount_eq_none_iff (by omega) (exactTick_nearest running).1).mpr ?_
  omega

/-- Delays in microseconds, of any length. -/
structure ExactDelays where
  /-- Before the first clock edge. -/
  first : Nat
  /-- After the last clock edge. -/
  last : Nat
  deriving DecidableEq, Repr

namespace ExactDelays

/-- Delays of 32 bits. -/
def ofWords (delays : SelectDelays) : ExactDelays :=
  ⟨delays.first.toNat, delays.last.toNat⟩

/-- The delays that a transaction asks for if nothing is cut off. -/
def ofOperations (operations : List Operation) : ExactDelays :=
  ⟨exactMicros (Operation.leadingDelays operations),
    exactMicros (Operation.trailingDelays operations)⟩

/-- The tick count for one delay: a delay already in effect keeps the field as it is held. -/
def fieldTicks (current requested tick : Nat) (held : UInt8) : Option UInt8 :=
  if requested = current then some held else (exactCount requested tick).map UInt8.ofNat

/-- The register with the requested delays, if they have ticks. -/
def retime (current requested : ExactDelays) (hz : Nat) (timing : SelectTiming) :
    Option SelectTiming :=
  (exactTick hz).bind fun tick =>
    (fieldTicks current.first requested.first tick timing.pre).bind fun pre =>
      (fieldTicks current.last requested.last tick timing.post).map fun post =>
        { timing with pre := pre, post := post }

theorem ofWords_inj {first second : SelectDelays} :
    ofWords first = ofWords second ↔ first = second := by
  cases first
  cases second
  simp only [ofWords, ExactDelays.mk.injEq, SelectDelays.mk.injEq, UInt32.toNat_inj]

theorem fieldTicks_toNat (current requested : UInt32) (tick : UInt64) (held : UInt8) :
    fieldTicks current.toNat requested.toNat tick.toNat held =
      SelectDelays.fieldTicks current requested tick held := by
  rw [fieldTicks, SelectDelays.fieldTicks, ← map_toNat_ticksOfMicros, Option.map_map]
  simp only [UInt32.toNat_inj, Function.comp_def, UInt8.ofNat_toNat, Option.map_id']

theorem retime_ofWords (current requested : SelectDelays) (clock : UInt32) (timing : SelectTiming) :
    (ofWords current).retime (ofWords requested) clock.toNat timing =
      (current.retime requested clock timing).toOption := by
  rw [retime, ← map_toNat_nsPerTick, SelectDelays.retime]
  cases nsPerTick clock with
  | none => rfl
  | some tick =>
      simp only [Option.map_some, Option.bind_some, ofWords, fieldTicks_toNat]
      cases SelectDelays.fieldTicks current.first requested.first tick timing.pre with
      | none => rfl
      | some pre =>
          simp only [Option.bind_some]
          cases SelectDelays.fieldTicks current.last requested.last tick timing.post with
          | none => rfl
          | some post => rfl

/-- Delays of which one is as long as a sum that was cut off are refused, unless it was in effect. -/
theorem retime_of_cut {current requested : ExactDelays} {hz : Nat} (fast : 60 ≤ hz)
    (inEffect : current.first < cutMicros ∧ current.last < cutMicros)
    (long : cutMicros ≤ requested.first ∨ cutMicros ≤ requested.last) (timing : SelectTiming) :
    current.retime requested hz timing = none := by
  unfold retime
  cases running : exactTick hz with
  | none => rfl
  | some tick =>
      have none (known asked : Nat) (held : UInt8) (short : known < cutMicros)
          (cut : cutMicros ≤ asked) : fieldTicks known asked tick held = none := by
        rw [fieldTicks, if_neg (by omega), exactCount_of_cut fast running cut, Option.map_none]
      rw [Option.bind_some]
      rcases long with setup | hold
      · rw [none _ _ _ inEffect.1 setup, Option.bind_none]
      · simp only [none _ _ _ inEffect.2 hold, Option.map_none, Option.bind_fun_none]

/-- From 60 hertz on, delays that have ticks are shorter than a sum that was cut off. -/
theorem lt_cutMicros_of_ticks {delays : SelectDelays} {clock : UInt32} (fast : 60 ≤ clock.toNat)
    (taken : (delays.ticks? clock).isSome = true) :
    delays.first.toNat < cutMicros ∧ delays.last.toNat < cutMicros := by
  cases found : nsPerTick clock with
  | none =>
      have impossible := map_toNat_nsPerTick clock
      rw [found, exactTick, if_neg (by omega)] at impossible
      cases impossible
  | some tick =>
      have running := exactTick_of_nsPerTick found
      have short {us : UInt32} {ticks : UInt8} (counted : ticksOfMicros us tick = some ticks) :
          us.toNat < cutMicros := by
        by_contra long
        have none := exactCount_of_cut fast running (Nat.not_lt.mp long)
        rw [exactCount_of_ticksOfMicros counted] at none
        cases none
      obtain ⟨counts, both⟩ := Option.isSome_iff_exists.mp taken
      rw [SelectDelays.ticks?_of_running found] at both
      obtain ⟨pre, first, rest⟩ := Option.bind_eq_some_iff.mp both
      obtain ⟨post, last, _⟩ := Option.map_eq_some_iff.mp rest
      exact ⟨short first, short last⟩

end ExactDelays

/-- The delays in effect, and the register that they were programmed into. -/
structure Programmed where
  delays : ExactDelays
  timing : SelectTiming
  deriving DecidableEq, Repr

namespace Programmed

/-- What a request for delays makes of those in effect: both are programmed, or nothing changes. -/
def request (before : Programmed) (requested : ExactDelays) (hz : Nat) : Programmed :=
  if requested = before.delays then before
  else
    match before.delays.retime requested hz before.timing with
    | some timing => ⟨requested, timing⟩
    | none => before

theorem request_of_refused {before : Programmed} {requested : ExactDelays} {hz : Nat}
    (refused : before.delays.retime requested hz before.timing = none) :
    before.request requested hz = before := by
  rw [request, refused, ite_self]

/-- The totals of 32 bits and the exact ones have the same effect. -/
theorem request_totals {before : Programmed} {hz : Nat} (fast : 60 ≤ hz)
    (short : before.delays.first < cutMicros ∧ before.delays.last < cutMicros)
    (setup hold : List UInt32) :
    before.request (.ofWords ⟨totalMicros setup, totalMicros hold⟩) hz =
      before.request ⟨exactMicros setup, exactMicros hold⟩ hz := by
  have refused {requested : ExactDelays}
      (long : cutMicros ≤ requested.first ∨ cutMicros ≤ requested.last) :
      before.request requested hz = before :=
    request_of_refused (ExactDelays.retime_of_cut fast short long _)
  rcases totalMicros_cases setup with first | ⟨cut, long⟩
  · rcases totalMicros_cases hold with last | ⟨cut, long⟩
    · rw [ExactDelays.ofWords, first, last]
    · rw [refused (Or.inr cut), refused (Or.inr long)]
  · rw [refused (Or.inl cut), refused (Or.inl long)]

end Programmed

theorem Errand.delays_of_mem_ofSteps {delays : SelectDelays} {steps : List Step} :
    ∀ message ∈ messages (ofSteps delays steps), message.delays = delays := by
  induction steps with
  | nil => simp [ofSteps, messages]
  | cons step rest ih =>
      cases step with
      | wait ns => exact ih
      | part data => exact List.forall_mem_cons.mpr ⟨rfl, ih⟩

namespace Link

/-- The delays that a device remembers, and the register of its controller. -/
def programmed (link : Link Recorder) : Programmed :=
  ⟨.ofWords link.device.delays, link.board.timing.get link.device.controller⟩

theorem programmed_updateDelays (link : Link Recorder) (requested : SelectDelays) :
    (link.updateDelays requested).programmed =
      link.programmed.request (.ofWords requested)
        (link.board.clocks.get link.device.controller).toNat := by
  simp only [Programmed.request, programmed, ExactDelays.retime_ofWords, ExactDelays.ofWords_inj]
  rcases link.updateDelays_cases requested with
    ⟨timing, differ, accepted, same⟩ | ⟨rfl | ⟨error, refused⟩, same⟩
  · rw [if_neg differ, accepted, same]
    simp only [Link.board, withBoard, Recorder.setTiming_eq, Bank.get_set_same]
    rfl
  · rw [if_pos rfl, same]
  · rw [refused, same]
    exact (ite_self _).symm

/-- A configuration that runs to completion leaves one tick before and after, and one that fails leaves
what was programmed. -/
theorem programmed_configure (link : Link Recorder) :
    (∃ before, link.configure.link.board.log = before ++
          fullConfiguration link.device.controller link.device.config link.device.mode.hardware
            link.programmed.timing.shortest ∧
        link.configure.link.programmed = ⟨⟨0, 0⟩, link.programmed.timing.shortest⟩) ∨
      ∃ before, link.configure.link.board.log =
          before ++ [⟨.shutdown link.device.controller, none⟩] ∧
        link.configure.link.programmed = link.programmed := by
  rcases link.configure_cases with ⟨board, completed⟩ | ⟨board, refused⟩
  · refine Or.inl ⟨_, completed.log, ?_⟩
    rw [programmed, link.configure_controller, completed.timing, Bank.get_set_same, completed.result]
    rfl
  · refine Or.inr ⟨_, refused.log, ?_⟩
    rw [programmed, link.configure_controller, refused.unwritten.1, refused.result]
    rfl

/-- A message whose delays are settled leaves what is programmed as it is. -/
theorem send_of_settled {link : Link Recorder} {message : Message}
    (settled : link.Settled message.delays) :
    (link.send message).link.programmed = link.programmed ∧
      (link.send message).link.Settled message.delays := by
  cases fits : message.fits with
  | false =>
      rw [link.send_of_unfit fits]
      exact ⟨rfl, settled⟩
  | true =>
      obtain ⟨board, sent, clocks, timing⟩ := link.send_link fits
      rw [settled] at sent clocks timing
      rw [sent]
      refine ⟨?_, settled.withBoard clocks timing⟩
      rw [programmed, board_withBoard, timing]
      rfl

/-- Messages that all ask for settled delays are sent with what is programmed, and leave it as it is. -/
theorem programmed_of_settled {errands : List Errand} {delays : SelectDelays}
    (common : ∀ message ∈ Errand.messages errands, message.delays = delays)
    {link : Link Recorder} (settled : link.Settled delays) :
    (link.carryOut errands).link.programmed = link.programmed ∧
      ∀ ready message, Deed.sending ready message ∈ link.carryOutDeeds errands →
        ready.programmed = link.programmed := by
  induction errands generalizing link with
  | nil => exact ⟨rfl, by simp [carryOutDeeds]⟩
  | cons errand rest ih =>
      cases errand with
      | pause ns => exact ih common (settled.withBoard rfl rfl)
      | message message =>
          obtain ⟨rfl, others⟩ := List.forall_mem_cons.mp common
          obtain ⟨kept, again⟩ := send_of_settled settled
          obtain ⟨ended, later⟩ := ih others again
          constructor
          · cases result : (link.send message).failure with
            | none =>
                rw [carryOut_message_of_sent result]
                exact ended.trans kept
            | some error =>
                rw [carryOut_message_of_failed result]
                exact kept
          · intro ready asked found
            rw [carryOutDeeds, settled] at found
            split at found
            · rcases List.mem_cons.mp found with first | deeper
              · rw [(Deed.sending.inj first).1]
              · split at deeper
                · exact (later ready asked deeper).trans kept
                · cases deeper
            · cases found

theorem carryOutDeeds_updateDelays (link : Link Recorder) (delays : SelectDelays) (part : Buffers)
    (rest : List Step) :
    (link.updateDelays delays).carryOutDeeds (Errand.ofSteps delays (.part part :: rest)) =
      link.carryOutDeeds (Errand.ofSteps delays (.part part :: rest)) := by
  let message := Errand.partMessage delays part rest
  have settled : (link.updateDelays delays).updateDelays message.delays =
      link.updateDelays message.delays := link.settled_updateDelays delays
  have sent : (link.updateDelays delays).send message = link.send message :=
    link.send_updateDelays (Errand.fits_partMessage delays part rest)
  rw [Errand.ofSteps, carryOutDeeds, carryOutDeeds, settled, sent]

/-- A transaction of a selected device that sends something comes to a request. -/
theorem exists_request {link : Link Recorder} {operations : List Operation}
    (sends : operations.any Operation.carriesData = true) (selected : link.select.failure = none) :
    ∃ earlier request status later,
      (link.transaction operations).link.board.log = link.board.log ++
        (earlier ++ ⟨.transaction link.device.controller request, status⟩ :: later) := by
  obtain ⟨part, rest, _, errands⟩ := Errand.ofOperations_of_sends sends
  let delays := (Schedule.ofSteps (Step.ofOperations operations)).delays
  have first : Deed.sending (link.select.link.updateDelays delays)
      (Errand.partMessage delays part rest) ∈
        link.select.link.carryOutDeeds (Errand.ofOperations operations) := by
    rw [errands, Errand.ofSteps, carryOutDeeds, if_pos (Errand.fits_partMessage delays part rest)]
    exact List.mem_cons_self
  obtain ⟨earlier, status, later, split, _⟩ := (link.call_course
    (.transaction operations)).recounted.exists_transaction (mem_callDeeds_of_carried selected first)
  rw [(link.select.link.updateDelays_kept delays).controller, link.select_controller] at split
  exact ⟨earlier, _, status, later, split⟩

/-- A device has ticks for its delays once it is selected if it had them before. -/
theorem ticks_of_select {link : Link Recorder} {clock : UInt32}
    (accepted : (link.device.delays.ticks? clock).isSome = true) :
    (link.select.link.device.delays.ticks? clock).isSome = true := by
  rcases link.select_cases with ⟨_, same⟩ | ⟨_, same⟩
  · rw [same]
    exact accepted
  · rw [same]
    rcases link.configure_cases with ⟨board, completed⟩ | ⟨board, refused⟩
    · rw [completed.result]
      rfl
    · rw [refused.result]
      exact accepted

/-- The errands of a transaction are carried out with what the selected device makes of the exact
totals, from the first message to the last. -/
theorem programmed_of_transaction {link : Link Recorder} {operations : List Operation}
    (sends : operations.any Operation.carriesData = true)
    (fast : 60 ≤ (link.board.clocks.get link.device.controller).toNat)
    (accepted : (link.device.delays.ticks?
      (link.board.clocks.get link.device.controller)).isSome = true) :
    let made := link.select.link.programmed.request (.ofOperations operations)
      (link.board.clocks.get link.device.controller).toNat
    (link.select.link.carryOut (Errand.ofOperations operations)).link.programmed = made ∧
      ∀ ready message, Deed.sending ready message ∈ link.callDeeds (.transaction operations) →
        ready.programmed = made := by
  intro made
  let start := link.select.link
  let delays := (Schedule.ofSteps (Step.ofOperations operations)).delays
  obtain ⟨part, rest, _, errands⟩ := Errand.ofOperations_of_sends sends
  have requested : (start.updateDelays delays).programmed = made := by
    obtain ⟨setup, hold⟩ := Schedule.waits_ofOperations sends
    have short := ExactDelays.lt_cutMicros_of_ticks fast (ticks_of_select accepted)
    simp only [start, delays]
    rw [programmed_updateDelays, link.select_confined.clocks, link.select_confined.controller,
      Schedule.delays, setup, hold]
    exact Programmed.request_totals fast short _ _
  have common : ∀ message ∈ Errand.messages (Errand.ofSteps delays (.part part :: rest)),
      message.delays = delays := Errand.delays_of_mem_ofSteps
  obtain ⟨ended, each⟩ := programmed_of_settled common (start.settled_updateDelays delays)
  rw [carryOut_updateDelays, requested, ← errands] at ended
  rw [carryOutDeeds_updateDelays, requested, ← errands] at each
  exact ⟨ended, fun ready message sent => each ready message (carried_of_sending sent)⟩

/-- A transaction is carried out with given delays in effect. -/
structure CarriedOutWith (link : Link Recorder) (operations : List Operation)
    (made : Programmed) : Prop where
  /-- The device comes to a request. -/
  requested : ∃ earlier request status later,
    (link.transaction operations).link.board.log = link.board.log ++
      (earlier ++ ⟨.transaction link.device.controller request, status⟩ :: later)
  /-- Whenever there is a request, the log up to it tells that the register was made, and the device
  that makes it remembers the delays. -/
  inEffect : ∀ earlier controller request status later,
    (link.transaction operations).link.board.log = link.board.log ++
        (earlier ++ ⟨.transaction controller request, status⟩ :: later) →
      controller = link.device.controller ∧
        ((standings link.board.unused earlier).get controller).timing = made.timing ∧
        ∃ ready message, .sending ready message ∈ link.callDeeds (.transaction operations) ∧
          ready.board.log = link.board.log ++ earlier ∧ ready.request message = request ∧
            ready.programmed = made
  /-- Both stay in effect if the transaction succeeds. -/
  remembered : (link.transaction operations).failure = none →
    (link.transaction operations).link.programmed = made
  /-- A transaction that fails ends with a configuration, which resets both if it runs to completion and
  leaves them in effect otherwise. -/
  recovered : (link.transaction operations).failure ≠ none →
    (∃ before, (link.transaction operations).link.board.log = before ++
          fullConfiguration link.device.controller link.device.config link.device.mode.hardware
            made.timing.shortest ∧
        (link.transaction operations).link.programmed = ⟨⟨0, 0⟩, made.timing.shortest⟩) ∨
      ∃ before, (link.transaction operations).link.board.log =
          before ++ [⟨.shutdown link.device.controller, none⟩] ∧
        (link.transaction operations).link.programmed = made

/-- Nothing else about the outer delays of a transaction matters than their exact totals. -/
theorem carriedOutWith_of_selected {link : Link Recorder} {operations : List Operation}
    (sends : operations.any Operation.carriesData = true)
    (fast : 60 ≤ (link.board.clocks.get link.device.controller).toNat)
    (accepted : (link.device.delays.ticks?
      (link.board.clocks.get link.device.controller)).isSome = true)
    (selected : link.select.failure = none) :
    link.CarriedOutWith operations (link.select.link.programmed.request (.ofOperations operations)
      (link.board.clocks.get link.device.controller).toNat) := by
  obtain ⟨ended, each⟩ := programmed_of_transaction sends fast accepted
  have course := link.call_course (.transaction operations)
  refine ⟨exists_request sends selected, fun earlier controller request status later split => ?_,
    fun done => ?_, fun broken => ?_⟩
  · obtain ⟨ready, message, sent, log, rfl, asked⟩ := course.recounted.exists_deed split
    have made := each ready message sent
    refine ⟨course.controller_of_request split, ?_, ready, message, sent, log, asked, made⟩
    rw [(course.registered.2 ready message sent).timing log, ← made]
    rfl
  · rcases transaction_cases selected operations with ⟨_, same⟩ | ⟨error, failed, _⟩
    · rw [same]
      exact ended
    · rw [failed] at done
      cases done
  · rcases transaction_cases selected operations with ⟨done, _⟩ | ⟨error, _, same⟩
    · exact (broken done).elim
    · have device := (link.select.link.carryOut_kept (Errand.ofOperations operations)).device
      rw [link.select_confined.device] at device
      have configured := programmed_configure
        (link.select.link.carryOut (Errand.ofOperations operations)).link
      rw [ended, device] at configured
      rw [same]
      exact configured

/-- From a clock of 60 hertz on, a device with accepted delays carries out a transaction with the delays
and the register that the exact totals of its outer delays bring about, if it can be selected, and makes
no request otherwise. So nothing else about the outer delays matters, and if a total does not fit into
32 bits of nanoseconds, everything stays as it was when the device was selected. -/
theorem saturation_unobservable {link : Link Recorder} {operations : List Operation}
    (sends : operations.any Operation.carriesData = true)
    (fast : 60 ≤ (link.board.clocks.get link.device.controller).toNat)
    (accepted : (link.device.delays.ticks?
      (link.board.clocks.get link.device.controller)).isSome = true) :
    let start := link.select.link.programmed
    let made := start.request (.ofOperations operations)
      (link.board.clocks.get link.device.controller).toNat
    (link.select.failure ≠ none → ∃ events,
        (link.transaction operations).link.board.log = link.board.log ++ events ∧
          ∀ event ∈ events, event.call.request? = none) ∧
      (link.select.failure = none → link.CarriedOutWith operations made) ∧
      (∀ other : List Operation, other.any Operation.carriesData = true →
        ExactDelays.ofOperations other = .ofOperations operations →
          link.select.failure = none → link.CarriedOutWith other made) ∧
      (UInt32.size ≤ ((Operation.leadingDelays operations).map UInt32.toNat).sum ∨
          UInt32.size ≤ ((Operation.trailingDelays operations).map UInt32.toNat).sum →
        made = start) := by
  intro start made
  refine ⟨fun failed => ?_, carriedOutWith_of_selected sends fast accepted,
    fun other alsoSends same selected => ?_, fun long => ?_⟩
  · obtain ⟨error, failed⟩ := Option.ne_none_iff_exists'.mp failed
    have stopped : (link.transaction operations).link = link.select.link := by
      simp only [transaction, afterSelect, failed]
    rw [stopped]
    exact link.select_quiet
  · have done := carriedOutWith_of_selected alsoSends fast accepted selected
    rw [same] at done
    exact done
  · have short := ExactDelays.lt_cutMicros_of_ticks fast (ticks_of_select accepted)
    refine Programmed.request_of_refused (ExactDelays.retime_of_cut fast short ?_ _)
    rcases long with setup | hold
    · exact Or.inl (cutMicros_le_exactMicros setup)
    · exact Or.inr (cutMicros_le_exactMicros hold)

/-- At 60 hertz a device remembers a setup time of two seconds. A transaction that starts with two waits
of three seconds leaves it in effect; two waits of half a second and a nanosecond more replace it by
60 ticks, and 1500 nanoseconds at the end are two microseconds, which is one tick. -/
theorem saturation_unobservable_of_split_waits :
    let device : Device :=
      { controller := .spi0, speed := 1000000, select := 0, mode := .mode0, order := .msbFirst,
        platform := { slaves := 1, polarity := 0, supply := .vddio }, delays := ⟨2000000, 0⟩ }
    let board : Recorder := { Recorder.initial with clocks := .both 60 }
    let link : Link Recorder := ⟨⟨board, .initial⟩, device⟩
    let long : List Operation := [.delay 3000000000, .read [], .delay 3000000000, .write [1]]
    let short : List Operation := [.delay 500000001, .delay 500000000, .write [1], .delay 1500]
    (long.any Operation.carriesData = true ∧ short.any Operation.carriesData = true ∧
        60 ≤ (link.board.clocks.get link.device.controller).toNat ∧
        (link.device.delays.ticks? (link.board.clocks.get link.device.controller)).isSome = true ∧
        link.select.failure = none ∧
        UInt32.size ≤ ((Operation.leadingDelays long).map UInt32.toNat).sum) ∧
      (link.CarriedOutWith long ⟨⟨2000000, 0⟩, link.board.timing.get .spi0⟩ ∧
        (link.transaction long).failure = none ∧
        (link.transaction long).link.programmed =
          ⟨⟨2000000, 0⟩, link.board.timing.get .spi0⟩) ∧
      link.CarriedOutWith short
          ⟨⟨1000001, 2⟩, { link.board.timing.get .spi0 with pre := 60, post := 1 }⟩ ∧
        (link.transaction short).failure = none ∧
        (link.transaction short).link.programmed =
          ⟨⟨1000001, 2⟩, { link.board.timing.get .spi0 with pre := 60, post := 1 }⟩ := by
  intro device board link long short
  have longSends : long.any Operation.carriesData = true := by decide
  have shortSends : short.any Operation.carriesData = true := by decide
  have fast : 60 ≤ (link.board.clocks.get link.device.controller).toNat := by decide
  have accepted : (link.device.delays.ticks?
      (link.board.clocks.get link.device.controller)).isSome = true := by decide +kernel
  have selected : link.select.failure = none := by decide +kernel
  have tooLong : UInt32.size ≤ ((Operation.leadingDelays long).map UInt32.toNat).sum := by
    decide +kernel
  have start : link.select.link.programmed = ⟨⟨2000000, 0⟩, link.board.timing.get .spi0⟩ := by
    decide +kernel
  have longDone : (link.transaction long).failure = none := by decide +kernel
  have shortDone : (link.transaction short).failure = none := by decide +kernel
  obtain ⟨_, longly, _, refused⟩ := saturation_unobservable longSends fast accepted
  obtain ⟨_, shortly, _, _⟩ := saturation_unobservable shortSends fast accepted
  have longMade := longly selected
  rw [refused (Or.inl tooLong), start] at longMade
  have shortMade := shortly selected
  rw [start, show Programmed.request _ _ _ =
    ⟨⟨1000001, 2⟩, { link.board.timing.get .spi0 with pre := 60, post := 1 }⟩ by decide +kernel]
    at shortMade
  exact ⟨⟨longSends, shortSends, fast, accepted, selected, tooLong⟩,
    ⟨longMade, longDone, longMade.remembered longDone⟩, shortMade, shortDone,
    shortMade.remembered shortDone⟩

/-- At 59 hertz what is left of a sum that was cut off is programmed, and the sum itself would not be. -/
example :
    let waits : List UInt32 := [3000000000, 3000000000]
    nsPerTick 59 = some 16949153 ∧ ticksOfMicros (totalMicros waits) 16949153 = some 253 ∧
      exactCount (exactMicros waits) 16949153 = none := by
  decide

end Link

end SharedSpi

import SharedSpi.Proofs.TimingWrites

/-!
# Requests for delays

A message asks for delays, and its device takes the request up completely or not
at all, whatever the register holds. A request for the delays that the device
remembers asks nothing of the board. Any other is taken up exactly if the clock
runs and every delay that changes has a tick count: one write of the register
then holds the counts of these delays, each in its byte, and every other bit as
it was read. Otherwise nothing is written, the device remembers what it did
before, and the message is sent as if it had asked for just that.
-/

namespace SharedSpi

/-- The bits of a register, part by part. -/
theorem SelectTiming.testBit_bits (timing : SelectTiming) (index : Nat) :
    timing.bits.toNat.testBit index =
      if index < 8 then timing.pre.toNat.testBit index
      else if index < 16 then timing.post.toNat.testBit (index - 8)
      else (2 ^ 8 * timing.reserved.toNat + timing.inactive.toNat).testBit (index - 16) := by
  have parts : timing.bits.toNat =
      2 ^ 8 * (2 ^ 8 * (2 ^ 8 * timing.reserved.toNat + timing.inactive.toNat) +
        timing.post.toNat) + timing.pre.toNat := by
    rw [toNat_bits]
    omega
  rw [parts, Nat.testBit_two_pow_mul_add _ timing.pre.toNat_lt]
  by_cases setup : index < 8
  · rw [if_pos setup, if_pos setup]
  · rw [if_neg setup, if_neg setup, Nat.testBit_two_pow_mul_add _ timing.post.toNat_lt]
    by_cases hold : index < 16
    · rw [if_pos hold, if_pos (by omega)]
    · rw [if_neg hold, if_neg (by omega), Nat.sub_sub]

namespace SelectDelays

/-- A delay that changes has a tick count. -/
def Counted (current requested : UInt32) (tick : UInt64) : Prop :=
  requested ≠ current → ∃ ticks, ticksOfMicros requested tick = some ticks

/-- A request that can be programmed while other delays are in effect: the clock runs, and every delay
that changes has a tick count. -/
structure Programmable (current requested : SelectDelays) (clock : UInt32) : Prop where
  running : clock ≠ 0
  first : ∀ tick, nsPerTick clock = some tick → Counted current.first requested.first tick
  last : ∀ tick, nsPerTick clock = some tick → Counted current.last requested.last tick

/-- The byte of a register value at an offset holds the count of a delay, if it is one that changes. -/
def Placed (current requested clock : UInt32) (bits : UInt32) (offset : Nat) : Prop :=
  requested ≠ current → ∃ tick ticks, nsPerTick clock = some tick ∧
    ticksOfMicros requested tick = some ticks ∧
      ∀ index < 8, bits.toNat.testBit (offset + index) = ticks.toNat.testBit index

/-- From one register value to another, the delays that change were programmed: setup time is the
lowest byte and hold time the next, and every other bit is as it was. -/
structure Reprograms (current requested : SelectDelays) (clock before after : UInt32) : Prop where
  first : Placed current.first requested.first clock after 0
  last : Placed current.last requested.last clock after 8
  others : ∀ index, ¬ (requested.first ≠ current.first ∧ index < 8) →
    ¬ (requested.last ≠ current.last ∧ 8 ≤ index ∧ index < 16) →
      after.toNat.testBit index = before.toNat.testBit index

/-- Why a request cannot be programmed while other delays are in effect. The last delay is only looked at
if the first one does. -/
def Refuses (current requested : SelectDelays) (clock : UInt32) : DelayError → Prop
  | .stoppedClock => clock = 0
  | .firstTooLong => ∃ tick, nsPerTick clock = some tick ∧
      ¬ Counted current.first requested.first tick
  | .lastTooLong => ∃ tick, nsPerTick clock = some tick ∧
      Counted current.first requested.first tick ∧ ¬ Counted current.last requested.last tick

theorem fieldTicks_same (delay : UInt32) (tick : UInt64) (held : UInt8) :
    fieldTicks delay delay tick held = some held :=
  if_pos rfl

theorem fieldTicks_changed {current requested : UInt32} (differ : requested ≠ current)
    (tick : UInt64) (held : UInt8) :
    fieldTicks current requested tick held = ticksOfMicros requested tick :=
  if_neg differ

/-- A field can be programmed exactly if its delay has a count or does not change. -/
theorem exists_fieldTicks_iff (current requested : UInt32) (tick : UInt64) (held : UInt8) :
    (∃ ticks, fieldTicks current requested tick held = some ticks) ↔
      Counted current requested tick := by
  by_cases same : requested = current
  · rw [same, fieldTicks_same]
    exact ⟨fun _ differ => (differ rfl).elim, fun _ => ⟨held, rfl⟩⟩
  · rw [fieldTicks_changed same]
    exact ⟨fun counted _ => counted, fun counted => counted same⟩

theorem not_counted_of_fieldTicks {current requested : UInt32} {tick : UInt64} {held : UInt8}
    (refused : fieldTicks current requested tick held = none) :
    ¬ Counted current requested tick := by
  rw [← exists_fieldTicks_iff _ _ _ held, refused]
  rintro ⟨ticks, impossible⟩
  cases impossible

theorem nsPerTick_eq_none_iff (clock : UInt32) : nsPerTick clock = none ↔ clock = 0 := by
  rw [nsPerTick, ite_eq_left_iff]
  exact ⟨fun stopped => Classical.not_not.mp fun running => (by cases stopped running),
    fun zero running => (running zero).elim⟩

/-- Whether a request is accepted does not depend on the register. -/
theorem exists_retime_iff (current requested : SelectDelays) (clock : UInt32)
    (held : SelectTiming) :
    (∃ timing, current.retime requested clock held = .ok timing) ↔
      Programmable current requested clock := by
  constructor
  · rintro ⟨timing, accepted⟩
    obtain ⟨tick, pre, post, running, first, last, _⟩ := retime_ok_iff.mp accepted
    refine ⟨fun stopped => ?_, ?_, ?_⟩
    · rw [(nsPerTick_eq_none_iff clock).mpr stopped] at running
      cases running
    · intro asked found
      obtain rfl := Option.some.inj (running.symm.trans found)
      exact (exists_fieldTicks_iff _ _ _ _).mp ⟨pre, first⟩
    · intro asked found
      obtain rfl := Option.some.inj (running.symm.trans found)
      exact (exists_fieldTicks_iff _ _ _ _).mp ⟨post, last⟩
  · rintro ⟨running, first, last⟩
    obtain ⟨tick, found⟩ : ∃ tick, nsPerTick clock = some tick := ⟨_, if_neg running⟩
    obtain ⟨pre, setup⟩ := (exists_fieldTicks_iff _ _ _ held.pre).mpr (first tick found)
    obtain ⟨post, hold⟩ := (exists_fieldTicks_iff _ _ _ held.post).mpr (last tick found)
    exact ⟨_, retime_ok_iff.mpr ⟨tick, pre, post, found, setup, hold, rfl⟩⟩

/-- A request that is not accepted is refused for a reason that holds. -/
theorem refuses_of_retime {current requested : SelectDelays} {clock : UInt32}
    {held : SelectTiming} {error : DelayError}
    (refused : current.retime requested clock held = .error error) :
    Refuses current requested clock error := by
  unfold retime at refused
  split at refused
  · next stopped =>
    obtain rfl := Except.error.inj refused
    exact (nsPerTick_eq_none_iff clock).mp stopped
  · next tick running =>
    split at refused
    · next first =>
      obtain rfl := Except.error.inj refused
      exact ⟨tick, running, not_counted_of_fieldTicks first⟩
    · next pre first =>
      split at refused
      · next last =>
        obtain rfl := Except.error.inj refused
        exact ⟨tick, running, (exists_fieldTicks_iff _ _ _ _).mp ⟨pre, first⟩,
          not_counted_of_fieldTicks last⟩
      · cases refused

/-- A request that is accepted changes the bytes of the delays that change, and no other bit. -/
theorem reprograms_of_retime {current requested : SelectDelays} {clock : UInt32}
    {before after : SelectTiming} (accepted : current.retime requested clock before = .ok after) :
    Reprograms current requested clock before.bits after.bits := by
  obtain ⟨tick, pre, post, running, first, last, rfl⟩ := retime_ok_iff.mp accepted
  refine ⟨fun differ => ?_, fun differ => ?_, fun index noSetup noHold => ?_⟩
  · rw [fieldTicks_changed differ] at first
    refine ⟨tick, pre, running, first, fun index inside => ?_⟩
    rw [SelectTiming.testBit_bits, Nat.zero_add, if_pos inside]
  · rw [fieldTicks_changed differ] at last
    refine ⟨tick, post, running, last, fun index inside => ?_⟩
    rw [SelectTiming.testBit_bits, if_neg (by omega), if_pos (by omega), Nat.add_sub_cancel_left]
  · rw [SelectTiming.testBit_bits, SelectTiming.testBit_bits]
    by_cases setup : index < 8
    · have same : requested.first = current.first :=
        Classical.not_not.mp fun differ => noSetup ⟨differ, setup⟩
      rw [same, fieldTicks_same] at first
      rw [if_pos setup, if_pos setup, Option.some.inj first]
    · by_cases hold : index < 16
      · have same : requested.last = current.last :=
          Classical.not_not.mp fun differ => noHold ⟨differ, Nat.not_lt.mp setup, hold⟩
        rw [same, fieldTicks_same] at last
        rw [if_neg setup, if_neg setup, if_pos hold, if_pos hold, Option.some.inj last]
      · rw [if_neg setup, if_neg setup, if_neg hold, if_neg hold]

end SelectDelays

namespace Link

/-- A message whose request changes nothing is sent as if it asked for the delays that its device
remembers. -/
theorem send_of_unchanged {σ : Type} [Board σ] {link : Link σ} {message : Message}
    (unchanged : link.updateDelays message.delays = link) :
    link.send message = link.send { message with delays := link.device.delays } := by
  have remembered : link.updateDelays link.device.delays = link := if_pos rfl
  simp only [send, unchanged, remembered]
  rfl

/-- Whatever becomes of its request, a message that fits comes to its transaction, and the register and
the device are left as the request left them. -/
theorem send_after_request (link : Link Recorder) {message : Message} (fits : message.fits = true) :
    let asked := link.updateDelays message.delays
    let sent := link.send message
    ∃ status waits, sent.link.board.log = asked.board.log ++
        ⟨.transaction link.device.controller (link.request message), some status⟩ :: waits ∧
      (∀ event ∈ waits, ∃ ns, event = waitEvent ns) ∧
        sent.link.board.timing = asked.board.timing ∧ sent.link.device = asked.device := by
  intro asked sent
  obtain ⟨status, waits, log, each⟩ := link.send_log fits
  obtain ⟨board, same, _, timing⟩ := link.send_link fits
  refine ⟨status, waits, log, each, ?_, ?_⟩
  · rw [show sent.link = _ from same, board_withBoard]
    exact timing
  · rw [show sent.link = _ from same, device_withBoard]

/-- A request for the delays that the device remembers leaves everything as it is, whatever the board
would do if it were asked. Any other request is accepted exactly if it can be programmed; then the
register is written once, with the counts of the delays that change and every other bit as it was, and
the device remembers what was requested. Otherwise a reason for it holds, nothing at all happens, and the
message is sent as if it asked for the delays that the device remembers. In every case a message that
fits comes to its transaction. -/
theorem request_all_or_nothing (link : Link Recorder) (message : Message) :
    let cached := link.device.delays
    let requested := message.delays
    let controller := link.device.controller
    let clock := link.board.clocks.get controller
    let held := link.board.timing.get controller
    let result := cached.retime requested clock held
    let asked := link.updateDelays requested
    let sent := link.send message
    (requested = cached →
      ∀ operations : Board Recorder, @updateDelays Recorder operations link requested = link) ∧
    (requested ≠ cached →
      ((∃ timing, result = .ok timing) ↔ cached.Programmable requested clock) ∧
      (∀ timing, result = .ok timing →
        asked =
          { bus := {
              board := { link.board with
                log := link.board.log ++ [⟨.setTiming controller timing, none⟩]
                timing := link.board.timing.set controller timing }
              table := link.bus.table }
            device := { link.device with delays := requested } } ∧
          cached.Reprograms requested clock held.bits timing.bits) ∧
      ∀ error, result = .error error →
        cached.Refuses requested clock error ∧ asked = link ∧
          sent = link.send { message with delays := cached }) ∧
    (message.fits = true →
      ∃ status waits, sent.link.board.log = asked.board.log ++
          ⟨.transaction controller (link.request message), some status⟩ :: waits ∧
        (∀ event ∈ waits, ∃ ns, event = waitEvent ns) ∧
          sent.link.board.timing = asked.board.timing ∧ sent.link.device = asked.device) := by
  intro cached requested controller clock held result asked sent
  refine ⟨fun same operations => if_pos same,
    fun differ => ⟨SelectDelays.exists_retime_iff _ _ _ _, fun timing accepted => ?_,
      fun error refused => ?_⟩, fun fits => link.send_after_request fits⟩
  · refine ⟨?_, SelectDelays.reprograms_of_retime accepted⟩
    rcases link.updateDelays_cases requested with ⟨written, _, programmed, same⟩ | ⟨idle, _⟩
    · obtain rfl := Except.ok.inj (programmed.symm.trans accepted)
      exact same
    · rcases idle with same | ⟨error, refused⟩
      · exact (differ same).elim
      · cases refused.symm.trans accepted
  · have unchanged : asked = link := by
      rcases link.updateDelays_cases requested with ⟨written, _, programmed, _⟩ | ⟨_, same⟩
      · cases programmed.symm.trans refused
      · exact same
    exact ⟨SelectDelays.refuses_of_retime refused, unchanged, send_of_unchanged unchanged⟩

/-- Someone else has written the register, at a clock of 20 nanoseconds a tick. A hold time of five
microseconds is programmed into the second byte alone. With one of six, the setup time that could be
programmed is not programmed either, and the message is sent all the same. -/
theorem request_all_or_nothing_of_foreign_register :
    let device : Device :=
      { controller := .spi1, speed := 1000000, select := 1, mode := .mode3, order := .msbFirst,
        platform := { slaves := 1, polarity := 0, supply := .vddioh }, delays := ⟨3, 0⟩ }
    let held := SelectTiming.ofBits 0xAB12FFC3
    let link : Link Recorder :=
      ⟨⟨{ Recorder.initial with timing := ⟨benchTiming, held⟩ }, .initial⟩, device⟩
    let short : Message := { Message.single (.inPlace [7]) with delays := ⟨3, 5⟩ }
    let long : Message := { Message.single (.inPlace [7]) with delays := ⟨1, 6⟩ }
    (short.delays ≠ device.delays ∧ long.delays ≠ device.delays ∧ long.fits = true ∧
        device.delays.retime short.delays 50000000 held = .ok (.ofBits 0xAB12FAC3) ∧
        device.delays.retime long.delays 50000000 held = .error .lastTooLong) ∧
      (device.delays.Programmable short.delays 50000000 ∧
        device.delays.Reprograms short.delays 50000000 held.bits (SelectTiming.ofBits 0xAB12FAC3).bits ∧
        (link.updateDelays short.delays).board.log =
          [⟨.setTiming .spi1 (.ofBits 0xAB12FAC3), none⟩]) ∧
      device.delays.Refuses long.delays 50000000 .lastTooLong ∧
      link.updateDelays long.delays = link ∧
      link.send long = link.send { long with delays := ⟨3, 0⟩ } ∧
      ∃ status waits, (link.send long).link.board.log =
        ⟨.transaction .spi1 (link.request long), some status⟩ :: waits := by
  intro device held link short long
  have differ : short.delays ≠ device.delays ∧ long.delays ≠ device.delays := by decide
  have fits : long.fits = true := rfl
  have accepted : device.delays.retime short.delays 50000000 held = .ok (.ofBits 0xAB12FAC3) := by
    decide
  have refused : device.delays.retime long.delays 50000000 held = .error .lastTooLong := by decide
  obtain ⟨programmable, taken, _⟩ := (request_all_or_nothing link short).2.1 differ.1
  obtain ⟨asked, reprograms⟩ := taken _ accepted
  obtain ⟨_, declined, sent⟩ := request_all_or_nothing link long
  obtain ⟨refuses, unchanged, plain⟩ := (declined differ.2).2.2 _ refused
  obtain ⟨status, waits, log, _⟩ := sent fits
  rw [unchanged] at log
  exact ⟨⟨differ.1, differ.2, fits, accepted, refused⟩,
    ⟨programmable.mp ⟨_, accepted⟩, reprograms, by rw [asked]; rfl⟩, refuses, unchanged, plain,
    status, waits, log⟩

end Link

end SharedSpi

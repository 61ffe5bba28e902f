import SharedSpi.Proofs.Quantization
import SharedSpi.Proofs.SharedControllers

/-!
# Writes of the timing registers

A timing register is written in two places: a configuration sets setup and hold
time to one tick, and a message sets those of its delays that changed. Both take
the rest of the register over as they find it. A tick count that is computed is
never zero, and one that is taken over was not found in a fresh register: before
a device is live, its controller was configured. So no write changes the upper
half of a register, and none programs a count of zero, which the controller takes
for 256 ticks.
-/

namespace SharedSpi

namespace SelectTiming

/-- What may be written to a register that held `first` before anyone used it: bits 31 to 16 are as
they were, and neither setup nor hold time is zero. -/
structure Admits (first timing : SelectTiming) : Prop where
  upper : timing.bits >>> 16 = first.bits >>> 16
  pre : timing.pre ≠ 0
  post : timing.post ≠ 0

theorem toNat_bits (timing : SelectTiming) :
    timing.bits.toNat = timing.pre.toNat + timing.post.toNat * 0x100 +
      timing.inactive.toNat * 0x10000 + timing.reserved.toNat * 0x1000000 := by
  have pre := timing.pre.toNat_lt
  have post := timing.post.toNat_lt
  have inactive := timing.inactive.toNat_lt
  have reserved := timing.reserved.toNat_lt
  refine UInt32.toNat_ofNat_of_lt' ?_
  change _ < 4294967296
  omega

/-- Setup and hold time are the lower half of a register. -/
theorem upper_of_rest {first timing : SelectTiming} (inactive : timing.inactive = first.inactive)
    (reserved : timing.reserved = first.reserved) : timing.bits >>> 16 = first.bits >>> 16 := by
  have bounds := And.intro timing.pre.toNat_lt timing.post.toNat_lt
  have firstBounds := And.intro first.pre.toNat_lt first.post.toNat_lt
  apply UInt32.toNat.inj
  rw [UInt32.toNat_shiftRight, UInt32.toNat_shiftRight, toNat_bits, toNat_bits, inactive, reserved]
  change _ >>> 16 = _ >>> 16
  rw [Nat.shiftRight_eq_div_pow, Nat.shiftRight_eq_div_pow]
  omega

/-- One tick may be written whether the register was written before or not. -/
theorem admits_shortest {first timing : SelectTiming}
    (held : timing = first ∨ first.Admits timing) : first.Admits timing.shortest := by
  have rest : timing.shortest.bits >>> 16 = timing.bits >>> 16 := upper_of_rest rfl rfl
  have one : (1 : UInt8) ≠ 0 := by decide
  refine ⟨rest.trans ?_, one, one⟩
  rcases held with rfl | admitted
  · rfl
  · exact admitted.upper

end SelectTiming

/-- No delay takes zero ticks: the count is one at least, and small enough not to be cut off. -/
theorem ticksOfMicros_ne_zero {us : UInt32} {tick : UInt64} {ticks : UInt8}
    (taken : ticksOfMicros us tick = some ticks) : ticks ≠ 0 := by
  have positive := one_le_of_exactCount (exactCount_of_ticksOfMicros taken)
  rintro rfl
  exact absurd positive (by decide)

namespace SelectDelays

theorem fieldTicks_ne_zero {current requested : UInt32} {tick : UInt64} {held ticks : UInt8}
    (nonzero : held ≠ 0) (taken : fieldTicks current requested tick held = some ticks) :
    ticks ≠ 0 := by
  unfold fieldTicks at taken
  split at taken
  · cases taken
    exact nonzero
  · exact ticksOfMicros_ne_zero taken

/-- What delays are programmed as may be written if this holds of what they replace. -/
theorem admits_of_retime {first before after : SelectTiming} {current requested : SelectDelays}
    {clock : UInt32} (admitted : first.Admits before)
    (accepted : current.retime requested clock before = .ok after) : first.Admits after := by
  obtain ⟨tick, pre, post, _, first, last, rfl⟩ := retime_ok_iff.mp accepted
  have rest : (SelectTiming.mk pre post before.inactive before.reserved).bits >>> 16 =
      before.bits >>> 16 := SelectTiming.upper_of_rest rfl rfl
  exact ⟨rest.trans admitted.upper, fieldTicks_ne_zero admitted.pre first,
    fieldTicks_ne_zero admitted.post last⟩

end SelectDelays

namespace Recorder

/-- Every register holds what it held first or what may be written to it, and nothing else was written
to it. -/
structure Tame (first : Bank SelectTiming) (recorder : Recorder) : Prop where
  held : ∀ controller, recorder.timing.get controller = first.get controller ∨
    (first.get controller).Admits (recorder.timing.get controller)
  written : ∀ controller timing status, ⟨.setTiming controller timing, status⟩ ∈ recorder.log →
    (first.get controller).Admits timing

variable {first : Bank SelectTiming} {before after : Recorder}

theorem Tame.write (tame : before.Tame first) {controller : Controller} {timing : SelectTiming}
    (admitted : (first.get controller).Admits timing) :
    (Board.setTiming before controller timing).Tame first := by
  refine ⟨fun asked => ?_, fun asked value status found => ?_⟩
  · rw [setTiming_eq, Bank.get_set]
    by_cases same : asked = controller
    · rw [if_pos same, same]
      exact Or.inr admitted
    · rw [if_neg same]
      exact tame.held asked
  · rw [setTiming_eq] at found
    rcases List.mem_append.mp found with old | new
    · exact tame.written asked value status old
    · cases List.mem_singleton.mp new
      exact admitted

/-- Events that are no writes leave the registers alone. -/
theorem Tame.of_unwritten (tame : before.Tame first) {events : List BoardEvent}
    (timing : after.timing = before.timing) (grown : after.log = before.log ++ events)
    (unwritten : Unwritten events) : after.Tame first := by
  refine ⟨by rw [timing]; exact tame.held, fun controller value status found => ?_⟩
  rw [grown] at found
  rcases List.mem_append.mp found with old | new
  · exact tame.written controller value status old
  · exact (unwritten _ new controller value rfl).elim

end Recorder

namespace Link

/-- A link on a tame board, the register of whose controller was written before. -/
structure Tame (first : Bank SelectTiming) (link : Link Recorder) : Prop where
  board : link.board.Tame first
  written : (first.get link.device.controller).Admits
    (link.board.timing.get link.device.controller)

variable {first : Bank SelectTiming} {link : Link Recorder}

/-- A configuration leaves the board tame whether the register was written before or not, and writes it
if it runs to completion. -/
theorem configure_tame (link : Link Recorder) (tame : link.board.Tame first) :
    link.configure.link.board.Tame first ∧
      (link.configure.failure = none → link.configure.link.Tame first) := by
  rcases link.configure_cases with ⟨board, completed⟩ | ⟨board, refused⟩
  · have shortest : (first.get link.device.controller).Admits
        (board.timing.get link.device.controller).shortest := by
      rw [completed.undisturbed.timing]
      exact SelectTiming.admits_shortest (tame.held link.device.controller)
    have called : board.Tame first :=
      tame.of_unwritten completed.undisturbed.timing completed.logged (.setups _ _ _)
    have done : link.configure.link.board.Tame first := by
      rw [completed.result]
      exact called.write shortest
    refine ⟨done, fun _ => ⟨done, ?_⟩⟩
    rw [completed.result]
    simp only [configured, Link.board, Recorder.setTiming_eq, Recorder.timing_eq, Bank.get_set_same]
    exact shortest
  · obtain ⟨timing, events, grown, unwritten⟩ := refused.unwritten
    refine ⟨tame.of_unwritten timing grown unwritten, fun done => ?_⟩
    rw [refused.failure] at done
    cases done

theorem updateDelays_tame (tame : link.Tame first) (requested : SelectDelays) :
    (link.updateDelays requested).Tame first := by
  rcases link.updateDelays_cases requested with ⟨timing, _, accepted, same⟩ | ⟨_, same⟩
  · have admitted := SelectDelays.admits_of_retime tame.written accepted
    rw [same]
    refine ⟨tame.board.write admitted, ?_⟩
    simp only [Link.board, withBoard, Recorder.setTiming_eq, Bank.get_set_same]
    exact admitted
  · rw [same]
    exact tame

/-- Whatever a device does once its controller was configured writes what may be written. -/
theorem Course.tame {before after : Link Recorder} {deeds : List (Deed Recorder)}
    (course : Course before deeds after) (tame : before.Tame first) : after.Tame first := by
  induction course with
  | stay link => exact tame
  | configured accepted => exact (configure_tame _ tame.board).2 accepted
  | @refused link error failed =>
      obtain ⟨board, same, _, timing⟩ := configure_of_refused failed
      have done := (configure_tame link tame.board).1
      rw [same] at done ⊢
      refine ⟨done, ?_⟩
      rw [board_withBoard, timing]
      exact tame.written
  | waited link ns =>
      exact ⟨tame.board.of_unwritten rfl (show _ = _ ++ [waitEvent ns] from rfl)
        (.singleton fun _ _ => BoardCall.noConfusion), tame.written⟩
  | @sent link message fits =>
      have ready := updateDelays_tame tame message.delays
      obtain ⟨events, grown, unwritten⟩ := link.send_unwritten fits
      obtain ⟨board, same, _, timing⟩ := link.send_link fits
      rw [same] at grown ⊢
      refine ⟨ready.board.of_unwritten timing grown unwritten, ?_⟩
      rw [board_withBoard, timing]
      exact ready.written
  | append left right first second => exact second (first tame)

end Link

namespace Session

/-- A session on a tame board; the registers of live devices were written before. -/
structure Tame (first : Bank SelectTiming) (session : Session Recorder) : Prop where
  board : session.bus.board.Tame first
  written : ∀ slot device, session.slots slot = some device →
    (first.get device.controller).Admits (session.bus.board.timing.get device.controller)

variable {first : Bank SelectTiming} {session : Session Recorder} {slot : Nat}

/-- What a device does on its own controller keeps a session tame. -/
theorem Tame.putLink (tame : session.Tame first) {device : Device} {changed : Link Recorder}
    (confined : Link.Confined (session.link device) changed) (done : changed.Tame first) :
    (session.putLink slot changed).Tame first := by
  refine ⟨done.board, fun asked kept live => ?_⟩
  rw [bus_putLink]
  by_cases own : kept.controller = changed.device.controller
  · rw [own]
    exact done.written
  · have other : asked ≠ slot := by
      rintro rfl
      rw [slots_putLink_same] at live
      exact own (congrArg Device.controller (Option.some.inj live).symm)
    rw [slots_putLink_other _ other] at live
    rw [confined.controller] at own
    have still : changed.bus.board.timing.get kept.controller =
        session.bus.board.timing.get kept.controller := confined.timing _ own
    rw [still]
    exact tame.written asked kept live

theorem Move.tame {before after : Session Recorder} {deeds : List (Deed Recorder)}
    (move : Move slot before deeds after) (tame : before.Tame first) : after.Tame first := by
  cases move with
  | stay => exact tame
  | @opened device unused accepted =>
      exact tame.putLink (before.link device).configure_confined
        (((before.link device).configure_tame tame.board).2 accepted)
  | @refused device error failed =>
      obtain ⟨board, same, _, timing⟩ := Link.configure_of_refused failed
      have done := ((before.link device).configure_tame tame.board).1
      rw [link, same] at done
      rw [same]
      refine ⟨done, fun asked kept live => ?_⟩
      change (first.get kept.controller).Admits (board.timing.get kept.controller)
      rw [timing]
      exact tame.written asked kept live
  | @closed device live =>
      refine ⟨tame.board.of_unwritten rfl
        (show _ = _ ++ [⟨.shutdown device.controller, none⟩] from rfl)
        (.singleton fun _ _ => BoardCall.noConfusion), fun asked kept found => ?_⟩
      by_cases same : asked = slot
      · rw [same, slots_closeSlot_same] at found
        cases found
      · rw [slots_closeSlot_other _ same] at found
        exact tame.written asked kept found
  | @retargeted device live select =>
      refine ⟨tame.board, fun asked kept found => ?_⟩
      by_cases same : asked = slot
      · rw [same, slots_putLink_same] at found
        rw [← Option.some.inj found]
        exact tame.written slot device live
      · rw [slots_putLink_other _ same] at found
        exact tame.written asked kept found

/-- A command keeps a session tame if it is no adjustment of the registers. -/
theorem step_tame (tame : session.Tame first) {command : Command}
    (alone : ∀ settings, command.action = .adjust settings → settings.timing = []) :
    (session.step command).Tame first := by
  rcases session.step_cases command with
    ⟨device, call, _, live, same, _⟩ | ⟨settings, asked, same, _⟩ | ⟨middle, one, other⟩
  · have course := (session.link device).call_course call
    rw [same]
    exact tame.putLink course.confined
      (course.tame ⟨tame.board, tame.written command.slot device live⟩)
  · have timing : (Bench.adjust session.bus.board settings).timing = session.bus.board.timing := by
      change session.bus.board.timing.overwrite (settings.timing.map SelectTiming.ofBits) = _
      rw [alone settings asked]
      rfl
    rw [same]
    refine ⟨tame.board.of_unwritten timing (List.append_nil _).symm (by simp [Unwritten]), ?_⟩
    intro slot device live
    rw [adjusted, timing]
    exact tame.written slot device live
  · exact other.tame (one.tame tame)

theorem run_tame {commands : List Command}
    (alone : ∀ slot settings, ⟨slot, .adjust settings⟩ ∈ commands → settings.timing = [])
    (tame : session.Tame first) : (session.run commands).Tame first := by
  induction commands generalizing session with
  | nil => exact tame
  | cons command rest ih =>
      obtain ⟨slot, action⟩ := command
      rw [run_cons]
      refine ih (fun asked settings found => alone asked settings (List.mem_cons_of_mem _ found))
        (step_tame tame ?_)
      rintro settings rfl
      exact alone slot settings List.mem_cons_self

/-- Whatever the registers held at first, the statuses and the clocks: as long as devices alone write
the timing registers, bits 31 to 16 of both stay as they were, also with every single write, no write
programs a setup or hold time of zero, and the register of a live device holds neither. -/
theorem timing_writes_confined (board : Recorder) (commands : List Command)
    (alone : ∀ slot settings, ⟨slot, .adjust settings⟩ ∈ commands → settings.timing = []) :
    let after := (initial board.cleared).run commands
    (∀ controller, (after.bus.board.timing.get controller).bits >>> 16 =
        (board.timing.get controller).bits >>> 16) ∧
      (∀ (controller : Controller) (timing : SelectTiming) (status : Option Int32),
        ⟨.setTiming controller timing, status⟩ ∈ after.bus.board.log →
          timing.bits >>> 16 = (board.timing.get controller).bits >>> 16 ∧
            timing.pre ≠ 0 ∧ timing.post ≠ 0) ∧
      ∀ slot device, after.slots slot = some device →
        (after.bus.board.timing.get device.controller).pre ≠ 0 ∧
          (after.bus.board.timing.get device.controller).post ≠ 0 := by
  intro after
  have tame : after.Tame board.timing := by
    refine run_tame alone ⟨⟨fun controller => Or.inl rfl, ?_⟩, ?_⟩
    · intro controller timing status found
      cases found
    · intro slot device live
      cases live
  refine ⟨fun controller => ?_, fun controller timing status found => ?_,
    fun slot device live => ?_⟩
  · rcases tame.board.held controller with same | admitted
    · rw [same]
    · exact admitted.upper
  · have admitted := tame.board.written controller timing status found
    exact ⟨admitted.upper, admitted.pre, admitted.post⟩
  · have admitted := tame.written slot device live
    exact ⟨admitted.pre, admitted.post⟩

/-- Registers that hold zero counts and an odd upper half, clocks that change between transfers, a
configuration that fails and a transfer with delays: both registers keep their upper halves, and of
the two writes the second is 10 and 200 ticks. -/
theorem timing_writes_confined_of_zero_counts :
    let board : Recorder := { Recorder.initial with timing := ⟨.ofBits 0xAB040000, .ofBits 0x12FF0000⟩ }
    let failing : CallKind → List Int32
      | .setMode => [-1, 0]
      | _ => []
    let delayed : Message :=
      { Message.single (.write [1]) with delays := { first := 1, last := 20 } }
    let commands : List Command := [
      ⟨0, .adjust ⟨[50000000, 0], [], failing, none⟩⟩,
      ⟨0, .openDevice (sampleRequest 1)⟩,
      ⟨0, .openDevice (sampleRequest 1)⟩,
      ⟨0, .adjust ⟨[10000000], [], fun _ => [], none⟩⟩,
      ⟨0, .onDevice (.data (.transfer [delayed]))⟩]
    let after := (initial board.cleared).run commands
    (after.bus.board.timing = ⟨.ofBits 0xAB04C80A, .ofBits 0x12FF0000⟩ ∧
        after.bus.board.log.countP (fun event => event.call matches .setTiming ..) = 2) ∧
      (∀ controller, (after.bus.board.timing.get controller).bits >>> 16 =
          (board.timing.get controller).bits >>> 16) ∧
        (∀ (controller : Controller) (timing : SelectTiming) (status : Option Int32),
          ⟨.setTiming controller timing, status⟩ ∈ after.bus.board.log →
            timing.bits >>> 16 = (board.timing.get controller).bits >>> 16 ∧
              timing.pre ≠ 0 ∧ timing.post ≠ 0) ∧
        ∀ slot device, after.slots slot = some device →
          (after.bus.board.timing.get device.controller).pre ≠ 0 ∧
            (after.bus.board.timing.get device.controller).post ≠ 0 := by
  intro board failing delayed commands after
  have alone : ∀ slot settings, ⟨slot, .adjust settings⟩ ∈ commands → settings.timing = [] := by
    intro slot settings found
    simp only [commands, List.mem_cons, Command.mk.injEq, Action.adjust.injEq, List.not_mem_nil,
      reduceCtorEq, and_false, false_or, or_false] at found
    rcases found with ⟨_, rfl⟩ | ⟨_, rfl⟩
    · rfl
    · rfl
  have written : after.bus.board.timing = ⟨.ofBits 0xAB04C80A, .ofBits 0x12FF0000⟩ ∧
      after.bus.board.log.countP (fun event => event.call matches .setTiming ..) = 2 := by
    decide +kernel
  have confined := timing_writes_confined board commands alone
  -- With the commands at hand, comparing the two statements would run the session.
  clear_value commands
  exact ⟨written, confined⟩

end Session

end SharedSpi

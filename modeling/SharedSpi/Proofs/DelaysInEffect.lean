import SharedSpi.Proofs.Deeds
import SharedSpi.Proofs.RecordedCalls

/-!
# Delays in effect

The timing register is written incrementally, so what a request programs could
depend on the requests before it. It does not while the register holds the ticks
of the delays that the device remembers: then a request is accepted exactly if
its delays have ticks at all, and programs just these. A configuration brings
this state about, and everything a device does keeps it.
-/

namespace SharedSpi

namespace SelectDelays

/-- The tick counts that delays are programmed as, before the first clock edge and after the last.
Delays of zero take one tick each whatever the clock; other delays need a clock that runs, and a tick
count for both. -/
def ticks? (delays : SelectDelays) (clock : UInt32) : Option (UInt8 × UInt8) :=
  if delays = .zero then some (1, 1)
  else
    (nsPerTick clock).bind fun tick =>
      (ticksOfMicros delays.first tick).bind fun pre =>
        (ticksOfMicros delays.last tick).map fun post => (pre, post)

theorem ticks?_zero (clock : UInt32) : zero.ticks? clock = some (1, 1) := rfl

theorem ticks?_of_stopped {delays : SelectDelays} {clock : UInt32} (stopped : nsPerTick clock = none)
    (some : delays ≠ .zero) : delays.ticks? clock = none := by
  simp only [ticks?, if_neg some, stopped, Option.bind_none]

/-- With a running clock delays of zero are no exception. -/
theorem ticks?_of_running {clock : UInt32} {tick : UInt64} (running : nsPerTick clock = some tick)
    (delays : SelectDelays) :
    delays.ticks? clock =
      (ticksOfMicros delays.first tick).bind fun pre =>
        (ticksOfMicros delays.last tick).map fun post => (pre, post) := by
  by_cases none : delays = .zero
  · rw [none, ticks?_zero]
    simp only [zero, ticksOfMicros_zero, Option.bind_some, Option.map_some]
  · simp only [ticks?, if_neg none, running, Option.bind_some]

theorem fieldTicks_of_held {current requested : UInt32} {tick : UInt64} {held : UInt8}
    (inEffect : ticksOfMicros current tick = some held) :
    fieldTicks current requested tick held = ticksOfMicros requested tick := by
  unfold fieldTicks
  split
  · next same => rw [same, inEffect]
  · rfl

/-- A request that is accepted programs one count for each delay, and leaves the rest of the register
as it is held. -/
theorem retime_ok_iff {current requested : SelectDelays} {clock : UInt32}
    {before after : SelectTiming} :
    current.retime requested clock before = .ok after ↔
      ∃ tick pre post, nsPerTick clock = some tick ∧
        fieldTicks current.first requested.first tick before.pre = some pre ∧
        fieldTicks current.last requested.last tick before.post = some post ∧
        after = { before with pre := pre, post := post } := by
  unfold retime
  constructor
  · intro accepted
    split at accepted
    · cases accepted
    · next tick running =>
      split at accepted
      · cases accepted
      · next pre first =>
        split at accepted
        · cases accepted
        · next post last =>
          exact ⟨tick, pre, post, running, first, last, (Except.ok.inj accepted).symm⟩
  · rintro ⟨tick, pre, post, running, first, last, rfl⟩
    simp only [running, first, last]

/-- While the current delays are in effect, a request is accepted exactly if its delays have ticks,
and programs these. -/
theorem retime_of_held {current requested : SelectDelays} {clock : UInt32} {timing : SelectTiming}
    (inEffect : current.ticks? clock = some (timing.pre, timing.post))
    (differ : requested ≠ current) :
    (∃ pre post, requested.ticks? clock = some (pre, post) ∧
        current.retime requested clock timing = .ok { timing with pre := pre, post := post }) ∨
      (requested.ticks? clock = none ∧
        ∃ error, current.retime requested clock timing = .error error) := by
  cases running : nsPerTick clock with
  | none =>
      have unset : current = .zero := by
        by_cases same : current = .zero
        · exact same
        · rw [ticks?_of_stopped running same] at inEffect
          cases inEffect
      refine Or.inr ⟨ticks?_of_stopped running (unset ▸ differ), .stoppedClock, ?_⟩
      simp only [retime, running]
  | some tick =>
      have held : ticksOfMicros current.first tick = some timing.pre ∧
          ticksOfMicros current.last tick = some timing.post := by
        simpa [ticks?_of_running running, Option.bind_eq_some_iff] using inEffect
      simp only [retime, running, fieldTicks_of_held held.1, fieldTicks_of_held held.2,
        ticks?_of_running running]
      cases ticksOfMicros requested.first tick with
      | none => exact Or.inr ⟨rfl, .firstTooLong, rfl⟩
      | some pre =>
          cases ticksOfMicros requested.last tick with
          | none => exact Or.inr ⟨rfl, .lastTooLong, rfl⟩
          | some post => exact Or.inl ⟨pre, post, rfl, rfl⟩

end SelectDelays

namespace Deed

variable {σ : Type}

/-- The delays that a device remembers after a deed: none after a configuration, those of the message
if they have ticks, and otherwise those that it remembered before. -/
def update (clocks : Bank UInt32) (current : SelectDelays) : Deed σ → SelectDelays
  | configured => .zero
  | sending ready message =>
      if (message.delays.ticks? (clocks.get ready.device.controller)).isSome then message.delays
      else current

/-- A transaction is run on a device that remembers the given delays, while the register of its
controller holds their ticks. -/
def Effective (clocks : Bank UInt32) (current : SelectDelays) : Deed Recorder → Prop
  | configured => True
  | sending ready _ =>
      ready.device.delays = current ∧
        current.ticks? (clocks.get ready.device.controller) =
          some ((ready.board.timing.get ready.device.controller).pre,
            (ready.board.timing.get ready.device.controller).post)

/-- Every deed of a device is done with the delays in effect that the deeds up to it call for. -/
def EachEffective (clocks : Bank UInt32) : SelectDelays → List (Deed Recorder) → Prop
  | _, [] => True
  | current, deed :: rest =>
      deed.Effective clocks (deed.update clocks current) ∧
        EachEffective clocks (deed.update clocks current) rest

theorem eachEffective_append {clocks : Bank UInt32} (earlier later : List (Deed Recorder))
    (current : SelectDelays) :
    EachEffective clocks current (earlier ++ later) ↔
      EachEffective clocks current earlier ∧
        EachEffective clocks (earlier.foldl (update clocks) current) later := by
  induction earlier generalizing current with
  | nil => simp [EachEffective]
  | cons deed rest ih => simp only [List.cons_append, EachEffective, List.foldl_cons, ih, and_assoc]

/-- A configuration is effective whatever was remembered before. -/
theorem eachEffective_configured (clocks : Bank UInt32) (current : SelectDelays) :
    EachEffective clocks current [configured] :=
  ⟨True.intro, True.intro⟩

end Deed

namespace Link

/-- The register of the device's controller holds the ticks of the delays that the device
remembers. -/
def InEffect (link : Link Recorder) : Prop :=
  link.device.delays.ticks? (link.board.clocks.get link.device.controller) =
    some ((link.board.timing.get link.device.controller).pre,
      (link.board.timing.get link.device.controller).post)

/-- What everything that a device does leaves alone: the clocks, what belongs to the other
controllers, and all of the device but its delays. The table may come to hold its chip select. -/
structure Confined (before after : Link Recorder) : Prop where
  clocks : after.board.clocks = before.board.clocks
  device : after.device = { before.device with delays := after.device.delays }
  timing : ∀ other, other ≠ before.device.controller →
    after.board.timing.get other = before.board.timing.get other
  table : ∀ other, other ≠ before.device.controller →
    after.bus.table.last.get other = before.bus.table.last.get other
  entry : after.bus.table.last.get before.device.controller =
      before.bus.table.last.get before.device.controller ∨
    after.bus.table.last.get before.device.controller = before.device.select

namespace Confined

theorem refl (link : Link Recorder) : Confined link link :=
  ⟨rfl, rfl, fun _ _ => rfl, fun _ _ => rfl, Or.inl rfl⟩

theorem controller {before after : Link Recorder} (confined : Confined before after) :
    after.device.controller = before.device.controller := by
  rw [confined.device]

theorem select {before after : Link Recorder} (confined : Confined before after) :
    after.device.select = before.device.select := by
  rw [confined.device]

theorem trans {first second third : Link Recorder} (left : Confined first second)
    (right : Confined second third) : Confined first third := by
  have timing := right.timing
  have table := right.table
  have entry := right.entry
  rw [left.controller] at timing table entry
  refine ⟨right.clocks.trans left.clocks, ?_, ?_, ?_, ?_⟩
  · rw [right.device, left.device]
  · exact fun other differ => (timing other differ).trans (left.timing other differ)
  · exact fun other differ => (table other differ).trans (left.table other differ)
  · rw [left.select] at entry
    rcases entry with same | taken
    · rw [same]
      exact left.entry
    · exact Or.inr taken

/-- A link whose board keeps clocks and registers. -/
theorem withBoard (link : Link Recorder) {board : Recorder}
    (clocks : board.clocks = link.board.clocks) (timing : board.timing = link.board.timing) :
    Confined link (link.withBoard board) :=
  ⟨clocks, rfl, fun _ _ => by rw [board_withBoard, timing], fun _ _ => rfl, Or.inl rfl⟩

end Confined

theorem InEffect.withBoard {link : Link Recorder} (inEffect : link.InEffect) {board : Recorder}
    (clocks : board.clocks = link.board.clocks) (timing : board.timing = link.board.timing) :
    (link.withBoard board).InEffect := by
  unfold InEffect at inEffect ⊢
  rw [board_withBoard, device_withBoard, clocks, timing]
  exact inEffect

theorem configure_confined (link : Link Recorder) : Confined link link.configure.link := by
  rcases link.configure_cases with ⟨board, completed⟩ | ⟨board, refused⟩
  · rw [completed.result]
    refine ⟨completed.undisturbed.clocks, rfl, ?_, ?_, Or.inr ?_⟩
    · intro other differ
      simp only [configured, Link.board, Recorder.setTiming_eq, Bank.get_set_other _ differ]
      rw [completed.undisturbed.timing]
      rfl
    · intro other differ
      exact Bank.get_set_other _ differ _
    · exact Bank.get_set_same _ _ _
  · rw [refused.result]
    exact .withBoard link refused.undisturbed.clocks refused.undisturbed.timing

theorem select_confined (link : Link Recorder) : Confined link link.select.link := by
  rcases link.select_cases with ⟨_, same⟩ | ⟨_, same⟩
  · rw [same]
    exact .refl link
  · rw [same]
    exact link.configure_confined

/-- A configuration puts delays of zero into effect. -/
theorem configure_inEffect {link : Link Recorder} (accepted : link.configure.failure = none) :
    link.configure.link.InEffect ∧ link.configure.link.device.delays = .zero := by
  rcases link.configure_cases with ⟨board, completed⟩ | ⟨board, refused⟩
  · rw [completed.result]
    refine ⟨?_, rfl⟩
    simp only [InEffect, configured, Link.board, Recorder.setTiming_eq, Bank.get_set_same,
      SelectDelays.ticks?_zero, SelectTiming.shortest]
  · rw [refused.failure] at accepted
    cases accepted

/-- A configuration that fails leaves the clocks, the registers, the table and the device alone. -/
theorem configure_of_refused {link : Link Recorder} {error : SpiError}
    (failed : link.configure.failure = some error) :
    ∃ board : Recorder, link.configure.link = link.withBoard board ∧
      board.clocks = link.board.clocks ∧ board.timing = link.board.timing := by
  rcases link.configure_cases with ⟨board, completed⟩ | ⟨board, refused⟩
  · rw [completed.failure] at failed
    cases failed
  · exact ⟨Board.shutdown board link.device.controller, by rw [refused.result],
      refused.undisturbed.clocks, refused.undisturbed.timing⟩

theorem updateDelays_confined (link : Link Recorder) (requested : SelectDelays) :
    Confined link (link.updateDelays requested) := by
  rcases link.updateDelays_cases requested with ⟨timing, _, _, same⟩ | ⟨_, same⟩
  · rw [same]
    exact ⟨rfl, rfl, fun other differ => Bank.get_set_other _ differ _, fun _ _ => rfl, Or.inl rfl⟩
  · rw [same]
    exact .refl link

/-- A message that fits only adds to the log and uses up responses once its delays are programmed. -/
theorem send_link (link : Link Recorder) {message : Message} (fits : message.fits = true) :
    ∃ board : Recorder,
      (link.send message).link = (link.updateDelays message.delays).withBoard board ∧
        board.clocks = (link.updateDelays message.delays).board.clocks ∧
          board.timing = (link.updateDelays message.delays).board.timing := by
  cases result : Fault.ofStatus?
      ((link.updateDelays message.delays).board.responses.status .transaction) with
  | none =>
      rw [link.send_of_accepted fits ((Fault.ofStatus?_eq_none_iff _).mp result)]
      exact ⟨_, rfl, rfl, rfl⟩
  | some fault =>
      rw [link.send_of_rejected fits result]
      exact ⟨_, rfl, rfl, rfl⟩

theorem Course.confined {before after : Link Recorder} {deeds : List (Deed Recorder)}
    (course : Course before deeds after) : Confined before after := by
  induction course with
  | stay link => exact .refl link
  | configured accepted => exact configure_confined _
  | refused failed => exact configure_confined _
  | waited link ns => exact .withBoard link rfl rfl
  | @sent link message fits =>
      obtain ⟨board, same, clocks, timing⟩ := link.send_link fits
      rw [same]
      exact (link.updateDelays_confined _).trans (.withBoard _ clocks timing)
  | append left right first second => exact first.trans second

theorem send_confined (link : Link Recorder) (message : Message) :
    Confined link (link.send message).link := by
  cases fits : message.fits with
  | false =>
      rw [send_of_unfit _ fits]
      exact .refl link
  | true => exact (Course.sent link fits).confined

/-- While its delays are in effect, a device takes up a request exactly if the delays have ticks, and
they are in effect afterwards. -/
theorem updateDelays_inEffect {link : Link Recorder} (inEffect : link.InEffect)
    (requested : SelectDelays) :
    (link.updateDelays requested).InEffect ∧
      (link.updateDelays requested).device.delays =
        if (requested.ticks? (link.board.clocks.get link.device.controller)).isSome then requested
        else link.device.delays := by
  have held : link.device.delays.ticks? (link.board.clocks.get link.device.controller) = _ :=
    inEffect
  rcases link.updateDelays_cases requested with ⟨timing, differ, accepted, same⟩ | ⟨idle, same⟩
  · rcases SelectDelays.retime_of_held held differ with
      ⟨pre, post, ticks, programmed⟩ | ⟨_, _, impossible⟩
    · rw [programmed] at accepted
      cases accepted
      rw [same, ticks]
      refine ⟨?_, rfl⟩
      simp only [InEffect, Link.board, withBoard, Recorder.setTiming_eq, Bank.get_set_same]
      exact ticks
    · rw [impossible] at accepted
      cases accepted
  · rw [same]
    refine ⟨inEffect, ?_⟩
    rcases idle with rfl | ⟨error, refused⟩
    · rw [ite_self]
    · by_cases differ : requested = link.device.delays
      · rw [differ, ite_self]
      · rcases SelectDelays.retime_of_held held differ with ⟨_, _, _, impossible⟩ | ⟨none, _⟩
        · rw [impossible] at refused
          cases refused
        · rw [none]
          rfl

/-- Everything that a device does while its delays are in effect is done with the delays in effect
that its deeds call for. -/
theorem Course.effective {before after : Link Recorder} {deeds : List (Deed Recorder)}
    (course : Course before deeds after) (inEffect : before.InEffect) :
    after.InEffect ∧
      after.device.delays = deeds.foldl (Deed.update before.board.clocks) before.device.delays ∧
        Deed.EachEffective before.board.clocks before.device.delays deeds := by
  induction course with
  | stay link => exact ⟨inEffect, rfl, True.intro⟩
  | configured accepted =>
      obtain ⟨done, zero⟩ := configure_inEffect accepted
      exact ⟨done, zero, Deed.eachEffective_configured _ _⟩
  | refused failed =>
      obtain ⟨board, same, clocks, timing⟩ := configure_of_refused failed
      rw [same]
      exact ⟨inEffect.withBoard clocks timing, rfl, True.intro⟩
  | waited link ns => exact ⟨inEffect.withBoard rfl rfl, rfl, True.intro⟩
  | @sent link message fits =>
      obtain ⟨done, taken⟩ := updateDelays_inEffect inEffect message.delays
      obtain ⟨board, same, clocks, timing⟩ := link.send_link fits
      have confined := link.updateDelays_confined message.delays
      have updated : (link.updateDelays message.delays).device.delays =
          Deed.update link.board.clocks link.device.delays
            (.sending (link.updateDelays message.delays) message) := by
        rw [taken, Deed.update, confined.controller]
      rw [same]
      refine ⟨done.withBoard clocks timing, updated, ⟨updated, ?_⟩, True.intro⟩
      rw [← updated, ← confined.clocks]
      exact done
  | append left right first second =>
      obtain ⟨middle, reached, one⟩ := first inEffect
      obtain ⟨done, ended, other⟩ := second middle
      rw [left.confined.clocks] at ended other
      refine ⟨done, ?_, (Deed.eachEffective_append _ _ _).mpr ⟨one, ?_⟩⟩
      · rw [ended, reached, List.foldl_append]
      · rw [← reached]
        exact other

/-- A call starts from delays in effect if it is made with these or configures the controller. -/
theorem call_effective {link : Link Recorder} (call : DataCall)
    (trusted : link.bus.table.last.get link.device.controller = link.device.select →
      link.InEffect) :
    (link.callDeeds call = [] ∧ ∃ board : Recorder, (link.call call).link = link.withBoard board ∧
        board.clocks = link.board.clocks ∧ board.timing = link.board.timing) ∨
      ((link.call call).link.InEffect ∧
        (link.call call).link.bus.table.last.get link.device.controller = link.device.select ∧
          (link.call call).link.device.delays =
              (link.callDeeds call).foldl (Deed.update link.board.clocks) link.device.delays ∧
            Deed.EachEffective link.board.clocks link.device.delays (link.callDeeds call)) := by
  rcases link.callDeeds_cases call with
    ⟨error, failed, ended, deeds⟩ | ⟨selected, later, deeds, course⟩
  · refine Or.inl ?_
    rcases link.selectDeeds_cases with ⟨_, same, _⟩ | ⟨_, same, alsoSame⟩
    · rw [same] at failed
      cases failed
    · rw [same] at failed ended
      rw [ended, deeds, alsoSame, configureDeeds, failed]
      exact ⟨rfl, configure_of_refused failed⟩
  · refine Or.inr ?_
    have ready : link.select.link.InEffect ∧ Confined link link.select.link ∧
        link.select.link.device.delays =
            link.selectDeeds.foldl (Deed.update link.board.clocks) link.device.delays ∧
          Deed.EachEffective link.board.clocks link.device.delays link.selectDeeds := by
      rcases link.selectDeeds_cases with ⟨entry, same, deeds⟩ | ⟨_, same, deeds⟩
      · rw [same, deeds]
        exact ⟨trusted entry, .refl link, rfl, True.intro⟩
      · rw [same] at selected ⊢
        obtain ⟨done, zero⟩ := configure_inEffect selected
        rw [deeds, configureDeeds, selected]
        exact ⟨done, link.configure_confined, zero, Deed.eachEffective_configured _ _⟩
    obtain ⟨inEffect, confined, reached, first⟩ := ready
    obtain ⟨done, ended, second⟩ := course.effective inEffect
    have entry := course.confined.entry
    rw [confined.controller, confined.select, entry_of_select selected, or_self] at entry
    rw [confined.clocks, reached] at ended second
    rw [deeds, List.foldl_append, Deed.eachEffective_append]
    exact ⟨done, entry, ended, first, second⟩

end Link

end SharedSpi

import Mathlib.Data.List.Induction
import SharedSpi.Proofs.Exchanges

/-!
# Batches of messages

A batch put together of two is sent as the first one and, if that succeeded, the
second: the device stays selected in between, and all else is handed on with the
link. So a batch can be taken apart at the message that it stops at. The messages
before it were sent one after the other, each by one transaction and the wait
after it; the messages behind it are not touched.
-/

namespace SharedSpi

/-- Goes on with more data if a call succeeded. If it failed, this data stays as it is. -/
def Outcome.andThen {σ α : Type} (outcome : Outcome σ (List α)) (untouched : List α)
    (next : Link σ → Outcome σ (List α)) : Outcome σ (List α) :=
  match outcome.failure with
  | some error => ⟨outcome.link, outcome.data ++ untouched, some error⟩
  | none =>
      let later := next outcome.link
      ⟨later.link, outcome.data ++ later.data, later.failure⟩

theorem Outcome.andThen_of_failed {σ α : Type} {outcome : Outcome σ (List α)} {error : SpiError}
    (failed : outcome.failure = some error) (untouched : List α)
    (next : Link σ → Outcome σ (List α)) :
    outcome.andThen untouched next = ⟨outcome.link, outcome.data ++ untouched, some error⟩ := by
  simp only [andThen, failed]

theorem Outcome.andThen_of_succeeded {σ α : Type} {outcome : Outcome σ (List α)}
    (succeeded : outcome.failure = none) (untouched : List α)
    (next : Link σ → Outcome σ (List α)) :
    outcome.andThen untouched next =
      ⟨(next outcome.link).link, outcome.data ++ (next outcome.link).data,
        (next outcome.link).failure⟩ := by
  simp only [andThen, succeeded]

/-- Whether more bytes are to be clocked than one of the buffers holds. -/
def Message.Exceeds (message : Message) : Prop :=
  (∃ data, message.buffers.sendSide? = some data ∧ data.length < message.count) ∨
    ∃ buffer, message.buffers.receiveSide? = some buffer ∧ buffer.length < message.count

theorem Message.fits_eq_false_iff (message : Message) :
    message.fits = false ↔ message.Exceeds := by
  rw [← Bool.not_eq_true, fits_iff, Nat.not_le]
  unfold Exceeds
  cases message.buffers with
  | write data => simp [Buffers.capacity, Buffers.sendSide?, Buffers.receiveSide?]
  | read buffer => simp [Buffers.capacity, Buffers.sendSide?, Buffers.receiveSide?]
  | exchange data buffer =>
      simp only [Buffers.capacity, Buffers.sendSide?, Buffers.receiveSide?, Option.some.injEq,
        exists_eq_left']
      omega
  | inPlace buffer => simp [Buffers.capacity, Buffers.sendSide?, Buffers.receiveSide?]

instance (message : Message) : Decidable message.Exceeds :=
  decidable_of_iff _ message.fits_eq_false_iff

theorem Message.fits_of_not_exceeds {message : Message} (within : ¬ message.Exceeds) :
    message.fits = true := by
  rw [← fits_eq_false_iff, Bool.not_eq_false] at within
  exact within

namespace Link

section

variable {σ : Type} [Board σ]

theorem sendAll_of_sent {link : Link σ} {message : Message}
    (sent : (link.send message).failure = none) (rest : List Message) :
    link.sendAll (message :: rest) =
      ⟨((link.send message).link.sendAll rest).link,
        (link.send message).data :: ((link.send message).link.sendAll rest).data,
        ((link.send message).link.sendAll rest).failure⟩ := by
  simp only [sendAll, sent]

theorem sendAll_of_failed {link : Link σ} {message : Message} {error : SpiError}
    (failed : (link.send message).failure = some error) (rest : List Message) :
    link.sendAll (message :: rest) =
      ⟨(link.send message).link, (link.send message).data :: rest.map Message.buffers,
        some error⟩ := by
  simp only [sendAll, failed]

/-- On a selected device, messages are sent like the first of them and then the others. -/
theorem sendAll_append (first second : List Message) (link : Link σ) :
    link.sendAll (first ++ second) =
      (link.sendAll first).andThen (second.map Message.buffers) fun ready =>
        ready.sendAll second := by
  induction first generalizing link with
  | nil => rfl
  | cons message rest ih =>
      cases result : (link.send message).failure with
      | some error =>
          rw [List.cons_append, sendAll_of_failed result, sendAll_of_failed result,
            Outcome.andThen_of_failed rfl, List.map_append, List.cons_append]
      | none =>
          rw [List.cons_append, sendAll_of_sent result, sendAll_of_sent result, ih]
          cases ended : ((link.send message).link.sendAll rest).failure with
          | none =>
              rw [Outcome.andThen_of_succeeded ended, Outcome.andThen_of_succeeded rfl,
                List.cons_append]
          | some error =>
              rw [Outcome.andThen_of_failed ended, Outcome.andThen_of_failed rfl,
                List.cons_append]

theorem sendAll_kept (messages : List Message) (link : Link σ) :
    Kept link (link.sendAll messages).link := by
  rw [sendAll_eq_carryOut]
  exact link.carryOut_kept _

/-- A device whose chip select stands in the table is selected already. -/
theorem select_of_entry {link : Link σ}
    (entry : link.bus.table.last.get link.device.controller = link.device.select) :
    link.select = ⟨link, (), none⟩ := by
  rcases link.select_cases with ⟨_, same⟩ | ⟨differ, _⟩
  · exact same
  · exact (differ entry).elim

theorem select_select (link : Link σ) (selected : link.select.failure = none) :
    link.select.link.select = ⟨link.select.link, (), none⟩ := by
  rcases link.select_cases with ⟨entry, same⟩ | ⟨_, same⟩
  · rw [same]
    exact select_of_entry entry
  · rw [same] at selected ⊢
    obtain ⟨board, result⟩ := configure_of_accepted selected
    rw [result]
    exact select_of_entry (Bank.get_set_same _ _ _)

/-- A device that was selected is still selected after messages. -/
theorem select_of_kept {before after : Link σ} (kept : Kept before after)
    (selected : before.select = ⟨before, (), none⟩) : after.select = ⟨after, (), none⟩ := by
  apply select_of_entry
  rw [kept.table, kept.controller, kept.select, ← before.entry_of_select (by rw [selected]),
    selected]

theorem transfer_of_unselected {link : Link σ} {error : SpiError}
    (failed : link.select.failure = some error) (messages : List Message) :
    link.transfer messages =
      ⟨link.select.link, messages.map Message.buffers, some error⟩ := by
  simp only [transfer, afterSelect, failed]

theorem transfer_of_selected {link : Link σ} (selected : link.select.failure = none)
    (messages : List Message) : link.transfer messages = link.select.link.sendAll messages := by
  simp only [transfer, afterSelect, selected]

/-- A batch of two is the first one and then, if it succeeded, the second. -/
theorem transfer_append (link : Link σ) (first second : List Message) :
    link.transfer (first ++ second) =
      (link.transfer first).andThen (second.map Message.buffers) fun after =>
        after.transfer second := by
  cases selected : link.select.failure with
  | some error =>
      rw [transfer_of_unselected selected, transfer_of_unselected selected,
        Outcome.andThen_of_failed rfl, List.map_append]
  | none =>
      rw [transfer_of_selected selected, transfer_of_selected selected, sendAll_append]
      cases ended : (link.select.link.sendAll first).failure with
      | some error =>
          rw [Outcome.andThen_of_failed ended, Outcome.andThen_of_failed ended]
      | none =>
          -- The second batch selects the device once more, to no effect.
          have again : (link.select.link.sendAll first).link.select =
              ⟨(link.select.link.sendAll first).link, (), none⟩ :=
            select_of_kept (sendAll_kept first _) (link.select_select selected)
          have later : (link.select.link.sendAll first).link.transfer second =
              (link.select.link.sendAll first).link.sendAll second := by
            rw [transfer_of_selected (by rw [again]), again]
          rw [Outcome.andThen_of_succeeded ended, Outcome.andThen_of_succeeded ended, later]

end

/-- The status of a transaction that is run once some others were run. -/
def transactionStatus (link : Link Recorder) (earlier : Nat) : Int32 :=
  (link.board.responses.statuses .transaction).getD earlier 0

theorem transactionStatus_zero (link : Link Recorder) :
    link.transactionStatus 0 = link.board.responses.status .transaction := by
  unfold transactionStatus Responses.status
  cases link.board.responses.statuses .transaction <;> rfl

/-- The first message of a batch whose count exceeds a buffer or whose transaction fails. -/
structure StopsAt (link : Link Recorder) (earlier : List Message) (message : Message) : Prop where
  within : ∀ asked ∈ earlier, ¬ asked.Exceeds
  accepted : ∀ index < earlier.length, link.transactionStatus index = 0
  stops : message.Exceeds ∨ link.transactionStatus earlier.length ≠ 0

/-- What a message that is sent adds to the log: the timing register is written if need be, one
transaction is run, and the wait after the message is made. -/
def Dispatched (device : Device) (message : Message) (events : List BoardEvent) : Prop :=
  ∃ (writes : List BoardEvent) (waits : List UInt32), events = writes ++
      ⟨.transaction device.controller (.ofMessage device.select message), some 0⟩ ::
        waits.map waitEvent ∧
    (writes = [] ∨ ∃ timing, writes = [⟨.setTiming device.controller timing, none⟩]) ∧
    (waits.map UInt32.toNat).sum = 1000 * message.waitAfter.toNat

theorem Dispatched.of_device {first second : Device} {message : Message} {events : List BoardEvent}
    (dispatched : Dispatched second message events)
    (same : second = { first with delays := second.delays }) :
    Dispatched first message events := by
  rw [same] at dispatched
  exact dispatched

/-- A message that fits and whose transaction succeeds. -/
theorem send_dispatched {link : Link Recorder} {message : Message} (fits : message.fits = true)
    (zero : link.transactionStatus 0 = 0) :
    (link.send message).failure = none ∧
      ∃ events, (link.send message).link.board.log = link.board.log ++ events ∧
        Dispatched link.device message events := by
  obtain ⟨exchange, writes, waits, rfl, exchanged⟩ := link.send_exchanged fits
  have status : exchange.status = 0 := by rw [exchanged.status, ← transactionStatus_zero, zero]
  rcases exchanged.ended with ⟨_, sent⟩ | ⟨fault, found, _⟩
  · refine ⟨sent, _, exchanged.log, writes, waits, ?_, exchanged.adds.writes,
      exchanged.adds.accepted status⟩
    rw [Exchange.event, status]
  · exact (Fault.ne_zero_of_ofStatus? found status).elim

/-- Messages that fit and whose transactions succeed are sent one after the other. -/
theorem sendAll_dispatched (messages : List Message) (link : Link Recorder)
    (within : ∀ asked ∈ messages, ¬ asked.Exceeds)
    (accepted : ∀ index < messages.length, link.transactionStatus index = 0) :
    (link.sendAll messages).failure = none ∧
      (∀ index, (link.sendAll messages).link.transactionStatus index =
        link.transactionStatus (messages.length + index)) ∧
      ∃ groups : List (Message × List BoardEvent), groups.map Prod.fst = messages ∧
        (link.sendAll messages).link.board.log = link.board.log ++ groups.flatMap Prod.snd ∧
        ∀ group ∈ groups, Dispatched link.device group.1 group.2 := by
  induction messages generalizing link with
  | nil =>
      refine ⟨rfl, fun index => ?_, [], rfl, (List.append_nil _).symm, by simp⟩
      rw [List.length_nil, Nat.zero_add, sendAll_nil]
  | cons message rest ih =>
      have fits := Message.fits_of_not_exceeds (within message List.mem_cons_self)
      have zero := accepted 0 (Nat.zero_lt_succ _)
      obtain ⟨sent, events, grown, dispatched⟩ := send_dispatched fits zero
      have shifted : ∀ index, (link.send message).link.transactionStatus index =
          link.transactionStatus (index + 1) := by
        intro index
        rw [transactionStatus, link.send_transactions fits, transactionStatus]
        cases link.board.responses.statuses .transaction <;> rfl
      obtain ⟨done, statuses, groups, listed, regrown, each⟩ := ih (link.send message).link
        (fun asked found => within asked (List.mem_cons_of_mem _ found))
        (fun index early => by
          rw [shifted]
          exact accepted (index + 1) (Nat.succ_lt_succ early))
      rw [sendAll_of_sent sent]
      refine ⟨done, fun index => ?_, (message, events) :: groups, ?_, ?_, ?_⟩
      · rw [statuses, shifted, List.length_cons]
        congr 1
        omega
      · rw [List.map_cons, listed]
      · rw [regrown, grown, List.flatMap_cons, List.append_assoc]
      · intro group found
        rcases List.mem_cons.mp found with rfl | later
        · exact dispatched
        · exact (each group later).of_device (link.send_kept message).device

/-- A message that fits and whose transaction fails: nothing follows the transaction. -/
theorem send_refused {link : Link Recorder} {message : Message} (fits : message.fits = true)
    (bad : link.transactionStatus 0 ≠ 0) :
    ∃ writes fault, Fault.ofStatus? (link.transactionStatus 0) = some fault ∧
      (link.send message).failure = some fault.toError ∧
      (link.send message).data = message.buffers ∧
      (link.send message).link.board.log = link.board.log ++ (writes ++
        [⟨.transaction link.device.controller (.ofMessage link.device.select message),
          some (link.transactionStatus 0)⟩]) ∧
      (writes = [] ∨ ∃ timing, writes = [⟨.setTiming link.device.controller timing, none⟩]) := by
  obtain ⟨exchange, writes, waits, rfl, exchanged⟩ := link.send_exchanged fits
  have status : exchange.status = link.transactionStatus 0 := by
    rw [exchanged.status, transactionStatus_zero]
  rw [← status] at bad ⊢
  rcases exchanged.ended with ⟨zero, _⟩ | ⟨fault, found, failed⟩
  · exact (bad zero).elim
  · have log := exchanged.log
    rw [exchanged.adds.refused bad] at log
    exact ⟨writes, fault, found, failed, exchanged.data.trans (exchange.result_of_failed
      exchanged.length bad), log, exchanged.adds.writes⟩

/-- Either all messages of a batch are sent, or the batch stops at one of them. -/
theorem exists_stopsAt (link : Link Recorder) (messages : List Message) :
    ((∀ asked ∈ messages, ¬ asked.Exceeds) ∧
        ∀ index < messages.length, link.transactionStatus index = 0) ∨
      ∃ earlier message later, messages = earlier ++ message :: later ∧
        link.StopsAt earlier message := by
  -- From the end, since which message is the first to stop at does not depend on those behind it.
  induction messages using List.reverseRecOn with
  | nil => exact Or.inl ⟨by simp, by simp⟩
  | append_singleton rest message ih =>
      rcases ih with ⟨within, accepted⟩ | ⟨earlier, asked, later, split, stops⟩
      · by_cases stopped : message.Exceeds ∨ link.transactionStatus rest.length ≠ 0
        · exact Or.inr ⟨rest, message, [], rfl, within, accepted, stopped⟩
        · obtain ⟨inside, zero⟩ := not_or.mp stopped
          refine Or.inl ⟨List.forall_mem_append.mpr ⟨within, ?_⟩, fun index early => ?_⟩
          · intro asked found
            rw [List.mem_singleton.mp found]
            exact inside
          · rw [List.length_append, List.length_singleton] at early
            rcases Nat.lt_succ_iff_lt_or_eq.mp early with before | rfl
            · exact accepted index before
            · exact Classical.not_not.mp zero
      · exact Or.inr ⟨earlier, asked, later ++ [message], by rw [split]; simp, stops⟩

/-- What a batch leaves behind that stops at a message, given what the messages before it left on
their own. Those are dispatched one after the other. The message and the later ones keep their buffers;
if its count does not fit nothing at all was done for it, and otherwise its transaction is the last
thing that was done. -/
structure Stopped (link : Link Recorder) (earlier : List Message) (message : Message)
    (later : List Message) (sent outcome : Outcome Recorder (List Buffers)) : Prop where
  succeeded : sent.failure = none
  dispatched : ∃ groups : List (Message × List BoardEvent), groups.map Prod.fst = earlier ∧
    sent.link.board.log = link.select.link.board.log ++ groups.flatMap Prod.snd ∧
    ∀ group ∈ groups, Dispatched link.device group.1 group.2
  data : outcome.data = sent.data ++ message.buffers :: later.map Message.buffers
  exceeding : message.Exceeds →
    outcome.link = sent.link ∧ outcome.failure = some .invalidArgument
  refused : ¬ message.Exceeds → ∃ writes fault,
    outcome.link.board.log = sent.link.board.log ++ (writes ++
      [⟨.transaction link.device.controller (.ofMessage link.device.select message),
        some (link.transactionStatus earlier.length)⟩]) ∧
    (writes = [] ∨ ∃ timing, writes = [⟨.setTiming link.device.controller timing, none⟩]) ∧
    Fault.ofStatus? (link.transactionStatus earlier.length) = some fault ∧
    outcome.failure = some fault.toError

theorem transfer_stopped {link : Link Recorder} {earlier : List Message} {message : Message}
    (selected : link.select.failure = none) (stops : link.StopsAt earlier message)
    (later : List Message) :
    link.Stopped earlier message later (link.transfer earlier)
      (link.transfer (earlier ++ message :: later)) := by
  have script : ∀ index, link.select.link.transactionStatus index = link.transactionStatus index := by
    intro index
    rw [transactionStatus, link.select_transactions]
    rfl
  have device : link.select.link.device = { link.device with
      delays := link.select.link.device.delays } := link.select_confined.device
  obtain ⟨succeeded, statuses, groups, listed, grown, each⟩ :=
    sendAll_dispatched earlier link.select.link stops.within
      fun index early => (script index).trans (stops.accepted index early)
  let sent := link.select.link.sendAll earlier
  have kept : sent.link.device = { link.device with delays := sent.link.device.delays } := by
    rw [(sendAll_kept earlier link.select.link).device, device]
  have whole : link.select.link.sendAll (earlier ++ message :: later) =
      ⟨(sent.link.sendAll (message :: later)).link,
        sent.data ++ (sent.link.sendAll (message :: later)).data,
        (sent.link.sendAll (message :: later)).failure⟩ := by
    rw [sendAll_append, Outcome.andThen_of_succeeded succeeded]
  have now : sent.link.transactionStatus 0 = link.transactionStatus earlier.length := by
    rw [statuses, script, Nat.add_zero]
  rw [transfer_of_selected selected, transfer_of_selected selected]
  have dispatched : ∀ group ∈ groups, Dispatched link.device group.1 group.2 :=
    fun group found => (each group found).of_device device
  -- Why the message is not sent decides what is left of it.
  by_cases exceeds : message.Exceeds
  · have unsent := sent.link.send_of_unfit (message.fits_eq_false_iff.mpr exceeds)
    have failed : (sent.link.send message).failure = some .invalidArgument := by rw [unsent]
    rw [sendAll_of_failed failed, unsent] at whole
    rw [whole]
    exact ⟨succeeded, ⟨groups, listed, grown, dispatched⟩, rfl, fun _ => ⟨rfl, rfl⟩,
      fun within => (within exceeds).elim⟩
  · have status : sent.link.transactionStatus 0 ≠ 0 := by
      rw [now]
      exact stops.stops.resolve_left exceeds
    obtain ⟨writes, fault, found, failed, data, log, most⟩ :=
      send_refused (Message.fits_of_not_exceeds exceeds) status
    rw [sendAll_of_failed failed, data] at whole
    rw [now, kept] at log
    rw [kept] at most
    rw [now] at found
    rw [whole]
    exact ⟨succeeded, ⟨groups, listed, grown, dispatched⟩, rfl,
      fun impossible => (exceeds impossible).elim,
      fun _ => ⟨writes, fault, log, most, found, rfl⟩⟩

/-- Once its device is selected a batch fails exactly if there is a message that it stops at. -/
theorem transfer_fails_iff {link : Link Recorder} (selected : link.select.failure = none)
    (messages : List Message) :
    (link.transfer messages).failure ≠ none ↔ ∃ earlier message later,
      messages = earlier ++ message :: later ∧ link.StopsAt earlier message := by
  constructor
  · intro failed
    rcases link.exists_stopsAt messages with ⟨within, accepted⟩ | stopped
    · obtain ⟨succeeded, _⟩ := sendAll_dispatched messages link.select.link within
        fun index early => by
          rw [transactionStatus, link.select_transactions]
          exact accepted index early
      rw [transfer_of_selected selected] at failed
      exact (failed succeeded).elim
    · exact stopped
  · rintro ⟨earlier, message, later, rfl, stops⟩
    have stopped := transfer_stopped selected stops later
    by_cases exceeds : message.Exceeds
    · rw [(stopped.exceeding exceeds).2]
      exact Option.some_ne_none _
    · obtain ⟨_, _, _, _, _, failed⟩ := stopped.refused exceeds
      rw [failed]
      exact Option.some_ne_none _

/-- A batch of two is the first one and then, if it succeeded, the second, of which nothing is done
otherwise. Nothing is sent unless the device can be selected. Then a batch fails exactly if it stops at
a message: the messages before it were dispatched, and neither it nor a later one received anything. -/
theorem transfer_in_order (link : Link Recorder) :
    (∀ first second,
      link.transfer (first ++ second) =
          (link.transfer first).andThen (second.map Message.buffers)
            (fun after => after.transfer second) ∧
        ∀ error, (link.transfer first).failure = some error →
          link.transfer (first ++ second) = ⟨(link.transfer first).link,
            (link.transfer first).data ++ second.map Message.buffers, some error⟩) ∧
      (∀ messages error, link.select.failure = some error →
        link.transfer messages =
          ⟨link.select.link, messages.map Message.buffers, some error⟩) ∧
      (link.select.failure = none →
        (∀ messages, (link.transfer messages).failure ≠ none ↔ ∃ earlier message later,
          messages = earlier ++ message :: later ∧ link.StopsAt earlier message) ∧
        ∀ earlier message later, link.StopsAt earlier message →
          link.Stopped earlier message later (link.transfer earlier)
            (link.transfer (earlier ++ message :: later))) := by
  refine ⟨fun first second => ⟨link.transfer_append first second, fun error failed => ?_⟩,
    fun messages error failed => transfer_of_unselected failed messages,
    fun selected => ⟨transfer_fails_iff selected,
      fun earlier message later stops => transfer_stopped selected stops later⟩⟩
  rw [transfer_append, Outcome.andThen_of_failed failed]

/-- A batch whose second message fails after a long wait, and whose third does not fit. -/
theorem transfer_in_order_of_failing_batch :
    let device : Device :=
      { controller := .spi1, speed := 1000000, select := 1, mode := .mode0, order := .msbFirst,
        platform := { slaves := 1, polarity := 0, supply := .vddio }, delays := .zero }
    let responses : Responses :=
      { Responses.initial with
        statuses := fun kind => if kind = .transaction then [0, -7] else [] }
    let link : Link Recorder :=
      ⟨⟨{ Recorder.initial with responses := responses }, .initial⟩, device⟩
    let first : Message :=
      { Message.ofBuffers (.exchange [1, 2] [0, 0]) with
        waitAfter := 5000000
        delays := { first := 1, last := 2 } }
    let second : Message := { Message.ofBuffers (.inPlace [3]) with waitAfter := 9 }
    let third : Message := { Message.ofBuffers (.read [0]) with count := 2 }
    let outcome := link.transfer [first, second, third]
    (link.select.failure = none ∧ link.StopsAt [first] second) ∧
      (∃ events, Dispatched device first events ∧
        (link.transfer [first]).link.board.log = link.select.link.board.log ++ events) ∧
      outcome.data = (link.transfer [first]).data ++ [.inPlace [3], .read [0]] ∧
      outcome.failure ≠ none := by
  intro device responses link first second third
  dsimp only
  have selected : link.select.failure = none := by decide +kernel
  have stops : link.StopsAt [first] second :=
    ⟨by decide +kernel, by decide +kernel, Or.inr (by decide +kernel)⟩
  obtain ⟨fails, stopped⟩ := (transfer_in_order link).2.2 selected
  have stopped := stopped [first] second [third] stops
  obtain ⟨groups, listed, grown, each⟩ := stopped.dispatched
  obtain ⟨⟨asked, events⟩, rfl, rfl⟩ := List.map_eq_singleton_iff.mp listed
  refine ⟨⟨selected, stops⟩, ⟨events, each _ List.mem_cons_self, ?_⟩, stopped.data,
    (fails _).mpr ⟨[first], second, [third], rfl, stops⟩⟩
  rw [grown, List.flatMap_singleton]

end Link

end SharedSpi

import SharedSpi.Proofs.Exchanges
import SharedSpi.Proofs.SharedControllers

/-!
# Requests stay within their buffers

A count is checked against the buffers of its message before anything is done,
and a request takes both from the message. So no request that comes to a
transaction reaches beyond a buffer, in whatever way its message was made: a
present side has the count of the message as its length, and an absent one has
none. What a transaction that succeeds stores takes the place of as many bytes
at the front of the receive side. A message as it is made clocks no more than
its buffers can take, so only a count set later is ever refused.
-/

namespace SharedSpi

/-- A request that stays within its buffers. -/
structure Request.Bounded (request : Request) : Prop where
  directed : request.buffers.sendSide? ≠ none ∨ request.buffers.receiveSide? ≠ none
  /-- The bytes sent are the first ones of the buffer to send from, as it was before. -/
  sending : ∀ data, request.buffers.sendSide? = some data →
    request.sendLength = request.count ∧ request.count ≤ data.length ∧
      request.sent? = some (data.take request.count)
  receiving : ∀ buffer, request.buffers.receiveSide? = some buffer →
    request.receiveLength = request.count ∧ request.count ≤ buffer.length
  withoutSend : request.buffers.sendSide? = none → request.sendLength = 0
  withoutReceive : request.buffers.receiveSide? = none → request.receiveLength = 0
  /-- In place, both sides are one buffer. -/
  inPlace : ∀ buffer, request.buffers = .inPlace buffer →
    request.buffers.sendSide? = some buffer ∧ request.buffers.receiveSide? = some buffer

/-- Every message goes in one direction at least. -/
theorem Buffers.sendSide?_or_receiveSide? (buffers : Buffers) :
    buffers.sendSide? ≠ none ∨ buffers.receiveSide? ≠ none := by
  cases buffers with
  | write data => exact Or.inl (Option.some_ne_none data)
  | read buffer => exact Or.inr (Option.some_ne_none buffer)
  | exchange data buffer => exact Or.inl (Option.some_ne_none data)
  | inPlace buffer => exact Or.inl (Option.some_ne_none buffer)

theorem Buffers.capacity_le_sendSide {buffers : Buffers} {data : Bytes}
    (side : buffers.sendSide? = some data) : buffers.capacity ≤ data.length := by
  cases buffers with
  | write own => cases side; exact Nat.le_refl _
  | read own => cases side
  | exchange own buffer => cases side; exact Nat.min_le_left _ _
  | inPlace own => cases side; exact Nat.le_refl _

theorem Buffers.capacity_le_receiveSide {buffers : Buffers} {buffer : Bytes}
    (side : buffers.receiveSide? = some buffer) : buffers.capacity ≤ buffer.length := by
  cases buffers with
  | write own => cases side
  | read own => cases side; exact Nat.le_refl _
  | exchange data own => cases side; exact Nat.min_le_right _ _
  | inPlace own => cases side; exact Nat.le_refl _

/-- The request for a message that fits stays within the buffers. -/
theorem Request.bounded_ofMessage {message : Message} (fits : message.fits = true)
    (select : UInt8) : (Request.ofMessage select message).Bounded := by
  have within := message.fits_iff.mp fits
  refine ⟨message.buffers.sendSide?_or_receiveSide?, ?_, ?_, ?_, ?_, ?_⟩
  · intro data side
    refine ⟨?_, Nat.le_trans within (Buffers.capacity_le_sendSide side), ?_⟩
    · rw [sendLength, side]
      rfl
    · rw [sent?, side]
      rfl
  · intro buffer side
    refine ⟨?_, Nat.le_trans within (Buffers.capacity_le_receiveSide side)⟩
    rw [receiveLength, side]
    rfl
  · intro absent
    rw [sendLength, absent]
    rfl
  · intro absent
    rw [receiveLength, absent]
    rfl
  · intro buffer shape
    rw [shape]
    exact ⟨rfl, rfl⟩

/-- What an exchange does to the receive side: received bytes take the place of as many at its front if
the transaction succeeds, and nothing is changed if it fails. -/
structure Exchange.Sound (exchange : Exchange) : Prop where
  accepted : exchange.status = 0 → ∀ buffer,
    exchange.message.buffers.receiveSide? = some buffer →
      exchange.received.length = exchange.message.count ∧
        exchange.result.receiveSide? =
          some (exchange.received ++ buffer.drop exchange.message.count)
  refused : exchange.status ≠ 0 → exchange.result = exchange.message.buffers

theorem Exchange.sound_of_length {exchange : Exchange}
    (length : exchange.received.length = exchange.storedLength) : exchange.Sound := by
  constructor
  · intro zero buffer side
    have count : exchange.received.length = exchange.message.count := by
      rw [length, storedLength, if_pos ⟨zero, by rw [side]; rfl⟩]
    refine ⟨count, ?_⟩
    rw [result, Buffers.receiveSide?_store, side, ← count]
    rfl
  · exact exchange.result_of_failed length

namespace Link

/-- An attempt to configure a controller runs no transaction. -/
theorem Attempt.quiet {device : Device} {events : List BoardEvent} {after : Link Recorder}
    (attempt : Attempt device events after) : ∀ event ∈ events, event.call.request? = none := by
  rcases attempt with ⟨timing, _, _, rfl, _⟩ | ⟨made, refused, skipped, status, _, _, rfl⟩
  · simp [fullConfiguration, BoardCall.request?]
  · intro event found
    simp only [List.mem_append, List.mem_map, List.mem_cons, List.not_mem_nil, or_false] at found
    rcases found with ⟨call, _, rfl⟩ | rfl | rfl
    · rfl
    · rfl
    · rfl

section

variable {σ : Type} [Board σ]

/-- Errands come to transactions for their own messages only, and only for those that fit. -/
theorem message_of_carryOutDeeds (errands : List Errand) (link : Link σ) {ready : Link σ}
    {message : Message} (done : Deed.sending ready message ∈ link.carryOutDeeds errands) :
    message.fits = true ∧ message ∈ Errand.messages errands := by
  induction errands generalizing link with
  | nil => cases done
  | cons errand rest ih =>
      cases errand with
      | pause ns => exact ih _ done
      | message asked =>
          rw [carryOutDeeds] at done
          by_cases fits : asked.fits = true
          · rw [if_pos fits] at done
            rcases List.mem_cons.mp done with here | later
            · cases here
              exact ⟨fits, List.mem_cons_self⟩
            · split at later
              · obtain ⟨fitting, found⟩ := ih _ later
                exact ⟨fitting, List.mem_cons_of_mem _ found⟩
              · cases later
          · rw [if_neg fits] at done
            cases done

/-- A call comes to transactions for its own messages only, and only for those that fit. -/
theorem message_of_callDeeds {link ready : Link σ} {call : DataCall} {message : Message}
    (done : Deed.sending ready message ∈ link.callDeeds call) :
    message.fits = true ∧ message ∈ Errand.messages call.errands :=
  message_of_carryOutDeeds _ _ (carried_of_sending done)

end

/-- The transactions of a call whose device is selected are those of its dialogue: selecting runs none,
and neither does the configuration after a failure. -/
theorem call_dialogue {link : Link Recorder} (selected : link.select.failure = none)
    (call : DataCall) :
    ∃ dialogue traffic events, (link.call call).link.board.log = link.board.log ++ events ∧
      events.filter BoardEvent.isTransaction = traffic.filter BoardEvent.isTransaction ∧
      (link.call call).data = call.received dialogue.buffers ∧
      link.Held (Errand.messages call.errands) dialogue traffic (link.call call).failure := by
  obtain ⟨selecting, grown, quiet⟩ := link.select_quiet
  obtain ⟨dialogue, traffic, recovering, _, log, data, held, _, ended⟩ := call_held selected call
  have unrecorded : recovering.filter BoardEvent.isTransaction = [] := by
    rcases ended with ⟨_, _, rfl⟩ | ⟨_, _, attempt⟩
    · rfl
    · exact filter_isTransaction_of_quiet attempt.quiet
  refine ⟨dialogue, traffic, selecting ++ (traffic ++ recovering),
    by rw [log, grown, List.append_assoc], ?_, data, held⟩
  rw [List.filter_append, List.filter_append, filter_isTransaction_of_quiet quiet, unrecorded,
    List.nil_append, List.append_nil]

/-- The transactions of a call are exchanges of its messages, and what it leaves in the receive buffers
is what these exchanges stored. -/
structure Accounted (link : Link Recorder) (call : DataCall) (dialogue : Dialogue) : Prop where
  messages : dialogue.messages = Errand.messages call.errands
  transactions :
    ((link.call call).link.board.log.drop link.board.log.length).filter
        BoardEvent.isTransaction =
      dialogue.exchanges.map (Exchange.event link.device)
  bounded : ∀ exchange ∈ dialogue.exchanges,
    (Request.ofMessage link.device.select exchange.message).Bounded
  data : (link.call call).data = call.received dialogue.buffers
  sound : ∀ exchange ∈ dialogue.exchanges, exchange.Sound
  received : dialogue.received = link.board.responses.upcoming dialogue.received.length

theorem exists_accounted (link : Link Recorder) (call : DataCall) :
    ∃ dialogue, link.Accounted call dialogue := by
  cases selected : link.select.failure with
  | some error =>
      obtain ⟨selecting, grown, quiet⟩ := link.select_quiet
      refine ⟨⟨[], Errand.messages call.errands⟩, rfl, ?_, by simp, ?_, by simp, rfl⟩
      · rw [call_of_unselected selected, grown, List.drop_left, filter_isTransaction_of_quiet quiet]
        rfl
      · rw [call_of_unselected selected]
        rfl
  | none =>
      obtain ⟨dialogue, traffic, events, grown, transactions, data, held⟩ :=
        call_dialogue selected call
      refine ⟨dialogue, held.messages, ?_,
        fun exchange found => Request.bounded_ofMessage (held.fit exchange found) _, data,
        fun exchange found => Exchange.sound_of_length (held.lengths exchange found),
        held.received⟩
      rw [grown, List.drop_left, transactions, held.transactions]

end Link

namespace Session

section

variable {σ ε : Type} [Bench σ ε]

theorem not_sending_of_openDeeds {session : Session σ} {request : OpenRequest} {ready : Link σ}
    {message : Message} : Deed.sending ready message ∉ session.openDeeds request := by
  unfold openDeeds
  split <;> simp

/-- Every transaction of a run is made for a message of a data call among its commands. -/
theorem message_of_history {commands : List Command} {session : Session σ} {slot : Nat}
    {ready : Link σ} {message : Message}
    (told : (slot, Deed.sending ready message) ∈ session.history commands) :
    message.fits = true ∧ ∃ call, ⟨slot, .onDevice (.data call)⟩ ∈ commands ∧
      message ∈ Errand.messages call.errands := by
  induction commands generalizing session with
  | nil => cases told
  | cons command rest ih =>
      rcases List.mem_append.mp told with here | later
      · obtain ⟨deed, done, same⟩ := List.mem_map.mp here
        cases same
        obtain ⟨slot, action⟩ := command
        unfold deeds at done
        cases action with
        | adjust settings => cases done
        | lookUp controller select => cases done
        | openDevice request => exact (not_sending_of_openDeeds done).elim
        | onDevice action =>
            dsimp only at done
            split at done
            · exact (not_sending_of_openDeeds done).elim
            · obtain ⟨fits, found⟩ := Link.message_of_callDeeds done
              exact ⟨fits, _, List.mem_cons_self, found⟩
            · cases done
      · obtain ⟨fits, call, listed, found⟩ := ih later
        exact ⟨fits, call, List.mem_cons_of_mem _ listed, found⟩

end

/-- In every run, every request that comes to a transaction is made for a message of a data call and
stays within the buffers of this message; every data call leaves in its receive buffers what its
transactions stored; and a message that is made from buffers passes the check and comes to a transaction,
whatever is set of it but the count. -/
theorem requests_within_buffers (board : Recorder) (commands : List Command) :
    let session := (initial board.cleared).run commands
    (∀ controller request status,
        ⟨.transaction controller request, status⟩ ∈ session.bus.board.log →
          request.Bounded ∧ ∃ slot call message,
            (⟨slot, .onDevice (.data call)⟩ : Command) ∈ commands ∧
              message ∈ Errand.messages call.errands ∧
              request = .ofMessage request.select message) ∧
      (∀ slot device call, session.slots slot = some device →
        ∃ dialogue, (session.link device).Accounted call dialogue) ∧
      ∀ (link : Link Recorder) (buffers : Buffers) (release : Bool) (waitAfter : UInt32)
        (delays : SelectDelays),
        let message : Message := { Message.ofBuffers buffers with
          release := release
          waitAfter := waitAfter
          delays := delays }
        message.fits = true ∧ ∃ exchange writes waits, exchange.message = message ∧
          link.Exchanged exchange writes waits (link.send message) := by
  intro session
  refine ⟨fun controller request status found => ?_,
    fun slot device call live => Link.exists_accounted _ call,
    fun link buffers release waitAfter delays => ?_⟩
  · obtain ⟨earlier, later, split⟩ := List.append_of_mem found
    obtain ⟨before, slot, ready, message, after, told, _, _, same⟩ :=
      deed_of_transaction (show (initial board.cleared).bus.board.log = [] from rfl) split
    obtain ⟨fits, call, listed, asked⟩ := message_of_history (told ▸ List.mem_append_cons_self)
    rw [← same]
    exact ⟨Request.bounded_ofMessage fits _, slot, call, message, listed, asked, rfl⟩
  · intro message
    have fits : message.fits = true := Message.fits_ofBuffers buffers
    exact ⟨fits, link.send_exchanged fits⟩

/-- Two of three bytes are clocked in place, and then a byte more than there is. An exchange of two bytes
for none is made to clock none, and is not refused. -/
theorem requests_within_buffers_of_short_exchange :
    let device : Device :=
      { controller := .spi0, speed := 1000000, select := 1, mode := .mode0, order := .msbFirst,
        platform := { slaves := 1, polarity := 0, supply := .vddio }, delays := .zero }
    let short : Message := { Message.ofBuffers (.inPlace [1, 2, 3]) with count := 2 }
    let long : Message := { Message.ofBuffers (.exchange [4] [0, 0]) with count := 2 }
    let call : DataCall := .transfer [short, long]
    let uneven : Message := { Message.ofBuffers (.exchange [1, 2] []) with
      release := true
      waitAfter := 9
      delays := ⟨5, 2⟩ }
    let session := (initial Recorder.initial.cleared).run
      [⟨0, .openDevice (sampleRequest 1)⟩, ⟨0, .onDevice (.data call)⟩]
    (⟨.transaction .spi0 (.ofMessage 1 short), some 0⟩ ∈ session.bus.board.log ∧
        session.slots 0 = some device ∧ uneven.count = 0) ∧
      (Request.ofMessage 1 short).Bounded ∧
      (∃ dialogue, (session.link device).Accounted call dialogue) ∧
      uneven.fits = true ∧ ∃ exchange writes waits, exchange.message = uneven ∧
        (session.link device).Exchanged exchange writes waits
          ((session.link device).send uneven) := by
  intro device short long call uneven session
  have found : ⟨.transaction .spi0 (.ofMessage 1 short), some 0⟩ ∈ session.bus.board.log := by
    decide +kernel
  have live : session.slots 0 = some device := by decide +kernel
  obtain ⟨bounded, accounted, never⟩ := requests_within_buffers Recorder.initial
    [⟨0, .openDevice (sampleRequest 1)⟩, ⟨0, .onDevice (.data call)⟩]
  exact ⟨⟨found, live, rfl⟩, (bounded _ _ _ found).1, accounted 0 device call live,
    never (session.link device) (.exchange [1, 2] []) true 9 ⟨5, 2⟩⟩

end Session

end SharedSpi

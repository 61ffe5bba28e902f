import SharedSpi.Proofs.Errands

/-!
# Deeds of a device

What a device does comes down to two kinds of deeds: its controller is
configured for it, and a message comes to a transaction. The deeds of a call are
read off the call as it is carried out, and a course is the way from a link to
what a call leaves of it, one deed after the other.
-/

namespace SharedSpi

/-- What a device did. -/
inductive Deed (σ : Type) where
  /-- The controller was configured for the device. -/
  | configured
  /-- A message that fits came to a transaction, run on the link `ready`. -/
  | sending (ready : Link σ) (message : Message)

namespace Link

variable {σ : Type} [Board σ]

/-- A configuration is a deed if it ran to completion. -/
def configureDeeds (link : Link σ) : List (Deed σ) :=
  if link.configure.failure.isNone then [.configured] else []

/-- The deeds of selecting the device. -/
def selectDeeds (link : Link σ) : List (Deed σ) :=
  if link.bus.table.mustConfigure link.device.controller.index link.device.select then
    link.configureDeeds
  else []

/-- The deeds of errands, up to the first message that fails. -/
def carryOutDeeds (link : Link σ) : List Errand → List (Deed σ)
  | [] => []
  | .pause ns :: rest => (link.withBoard (Board.wait link.board ns)).carryOutDeeds rest
  | .message message :: rest =>
      if message.fits then
        .sending (link.updateDelays message.delays) message ::
          if (link.send message).failure.isNone then (link.send message).link.carryOutDeeds rest
          else []
      else []

/-- The deeds of a call: the device is selected, the errands are carried out, and the controller is
configured again if the call recovers from a failure. -/
def callDeeds (link : Link σ) (call : DataCall) : List (Deed σ) :=
  let ready := link.select.link
  let carried := ready.carryOut call.errands
  link.selectDeeds ++
    if link.select.failure.isNone then
      ready.carryOutDeeds call.errands ++
        if call.recovers && carried.failure.isSome then carried.link.configureDeeds else []
    else []

/-- From a link to what a device left of it, with the deeds on the way. -/
inductive Course : Link σ → List (Deed σ) → Link σ → Prop where
  | stay (link : Link σ) : Course link [] link
  | configured {link : Link σ} (accepted : link.configure.failure = none) :
      Course link [.configured] link.configure.link
  | refused {link : Link σ} {error : SpiError} (failed : link.configure.failure = some error) :
      Course link [] link.configure.link
  | waited (link : Link σ) (ns : UInt32) :
      Course link [] (link.withBoard (Board.wait link.board ns))
  | sent (link : Link σ) {message : Message} (fits : message.fits = true) :
      Course link [.sending (link.updateDelays message.delays) message] (link.send message).link
  | append {first second third : Link σ} {earlier later : List (Deed σ)}
      (left : Course first earlier second) (right : Course second later third) :
      Course first (earlier ++ later) third

theorem configure_course (link : Link σ) :
    Course link link.configureDeeds link.configure.link := by
  cases result : link.configure.failure with
  | none =>
      rw [configureDeeds, result]
      exact .configured result
  | some error =>
      rw [configureDeeds, result]
      exact .refused result

theorem carryOut_course (errands : List Errand) (link : Link σ) :
    Course link (link.carryOutDeeds errands) (link.carryOut errands).link := by
  induction errands generalizing link with
  | nil => exact .stay link
  | cons errand rest ih =>
      cases errand with
      | pause ns => exact (Course.waited link ns).append (ih _)
      | message message =>
          cases fits : message.fits with
          | false =>
              have unsent := link.send_of_unfit fits
              have failed : (link.send message).failure = some .invalidArgument := by rw [unsent]
              rw [carryOut_message_of_failed failed, carryOutDeeds, fits, unsent]
              exact .stay link
          | true =>
              cases result : (link.send message).failure with
              | none =>
                  rw [carryOut_message_of_sent result, carryOutDeeds, fits, result]
                  exact (Course.sent link fits).append (ih _)
              | some error =>
                  rw [carryOut_message_of_failed result, carryOutDeeds, fits, result]
                  exact .sent link fits

/-- Selecting does nothing if the table holds the chip select, and configures otherwise. -/
theorem selectDeeds_cases (link : Link σ) :
    (link.bus.table.last.get link.device.controller = link.device.select ∧
        link.select = ⟨link, (), none⟩ ∧ link.selectDeeds = []) ∨
      (link.bus.table.last.get link.device.controller ≠ link.device.select ∧
        link.select = link.configure ∧ link.selectDeeds = link.configureDeeds) := by
  unfold selectDeeds
  rw [SelectTable.mustConfigure_index]
  rcases link.select_cases with ⟨entry, same⟩ | ⟨entry, same⟩
  · exact Or.inl ⟨entry, same, by simp [entry]⟩
  · exact Or.inr ⟨entry, same, by simp [entry]⟩

theorem not_sending_of_configureDeeds {link ready : Link σ} {message : Message} :
    Deed.sending ready message ∉ link.configureDeeds := by
  unfold configureDeeds
  split <;> simp

/-- Only the errands of a call come to transactions: neither selecting nor recovering does. -/
theorem carried_of_sending {link ready : Link σ} {call : DataCall} {message : Message}
    (done : Deed.sending ready message ∈ link.callDeeds call) :
    Deed.sending ready message ∈ link.select.link.carryOutDeeds call.errands := by
  rw [callDeeds] at done
  rcases List.mem_append.mp done with selecting | later
  · rcases link.selectDeeds_cases with ⟨_, _, deeds⟩ | ⟨_, _, deeds⟩
    · rw [deeds] at selecting
      cases selecting
    · rw [deeds] at selecting
      exact (not_sending_of_configureDeeds selecting).elim
  · split at later
    · rcases List.mem_append.mp later with carried | recovering
      · exact carried
      · split at recovering
        · exact (not_sending_of_configureDeeds recovering).elim
        · cases recovering
    · cases later

/-- What a selected device does for the errands of a call belongs to the call. -/
theorem mem_callDeeds_of_carried {link : Link σ} {call : DataCall} {deed : Deed σ}
    (selected : link.select.failure = none)
    (done : deed ∈ link.select.link.carryOutDeeds call.errands) : deed ∈ link.callDeeds call := by
  rw [callDeeds, selected]
  exact List.mem_append_right _ (List.mem_append_left _ done)

/-- A call stops if selecting fails, and goes on from the selected link otherwise. -/
theorem callDeeds_cases (link : Link σ) (call : DataCall) :
    (∃ error, link.select.failure = some error ∧
        (link.call call).link = link.select.link ∧ link.callDeeds call = link.selectDeeds) ∨
      (link.select.failure = none ∧ ∃ later, link.callDeeds call = link.selectDeeds ++ later ∧
        Course link.select.link later (link.call call).link) := by
  rw [(link.call_agrees_conduct call).link]
  cases result : link.select.failure with
  | some error =>
      refine Or.inl ⟨error, rfl, ?_, ?_⟩
      · simp only [conduct, afterSelect, result]
      · simp [callDeeds, result]
  | none =>
      have carried := link.select.link.carryOut_course call.errands
      refine Or.inr ⟨rfl, _, by rw [callDeeds, result], ?_⟩
      simp only [conduct, afterSelect, result, carryOutAll]
      cases again : call.recovers with
      | false => simpa using carried
      | true =>
          cases ended : (link.select.link.carryOut call.errands).failure with
          | none => simpa [recover, ended] using carried
          | some error =>
              simpa [recover, ended] using
                carried.append (link.select.link.carryOut call.errands).link.configure_course

theorem call_course (link : Link σ) (call : DataCall) :
    Course link (link.callDeeds call) (link.call call).link := by
  have selected : Course link link.selectDeeds link.select.link := by
    rcases link.selectDeeds_cases with ⟨_, same, deeds⟩ | ⟨_, same, deeds⟩
    · rw [same, deeds]
      exact .stay link
    · rw [same, deeds]
      exact link.configure_course
  rcases link.callDeeds_cases call with ⟨_, _, ended, deeds⟩ | ⟨_, later, deeds, goesOn⟩
  · rw [ended, deeds]
    exact selected
  · rw [deeds]
    exact selected.append goesOn

end Link

end SharedSpi

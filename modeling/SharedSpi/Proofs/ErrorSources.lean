import SharedSpi.Proofs.Batches
import SharedSpi.Proofs.RequestBounds

/-!
# Where errors come from

A configuration that fails is an invalid argument, whatever the status was, and
nothing is sent after it. From there on the error of a call is that of its last
transaction, with the status that this ended with, and a message whose count
exceeds a buffer is an invalid argument too. How the configuration after a
failed transaction goes does not show. The conversions on the way from a status
to an error lose nothing but what they are meant to.
-/

namespace SharedSpi

/-- What the error for a status tells of the status. -/
structure Fault.Tells (status : Int32) (error : SpiError) : Prop where
  busy : error = .busy ↔ status = -7
  invalid : error = .invalidArgument ↔ status = -3
  vendor : ∀ kept, error = .vendor kept ↔ status = kept ∧ status ≠ -3 ∧ status ≠ -7
  noMemory : error ≠ .noMemory

theorem Fault.tells_toError {status : Int32} {fault : Fault}
    (found : ofStatus? status = some fault) : Tells status fault.toError := by
  unfold ofStatus? at found
  split at found
  · cases found
  · split at found
    · next bad =>
      cases found
      subst bad
      exact ⟨by decide, by decide, fun kept => by simp [toError, badParameterStatus], by decide⟩
    · next notBad =>
      split at found
      · next busy =>
        cases found
        subst busy
        exact ⟨by decide, by decide, fun kept => by simp [toError, badStateStatus], by decide⟩
      · next notBusy =>
        cases found
        have notBad : status ≠ -3 := notBad
        have notBusy : status ≠ -7 := notBusy
        exact ⟨by simp [toError, notBusy], by simp [toError, notBad],
          fun kept => by simp [toError, notBad, notBusy], by simp [toError]⟩

/-- Every status but success stands for a fault, which keeps it. -/
theorem Fault.exists_of_status {status : Int32} (bad : status ≠ 0) :
    ∃ fault, ofStatus? status = some fault ∧ fault.status = status := by
  cases found : ofStatus? status with
  | none => exact (bad ((ofStatus?_eq_none_iff status).mp found)).elim
  | some fault => exact ⟨fault, rfl, status_of_ofStatus? found⟩

/-- The status of the last of some transactions. -/
def lastStatus? (transactions : List BoardEvent) : Option Int32 :=
  transactions.getLast?.bind BoardEvent.status

/-- All messages before one that exceeds its buffers were sent, and it was not. -/
def RefusesCount (messages : List Message) (transactions : List BoardEvent) : Prop :=
  ∃ earlier message later, messages = earlier ++ message :: later ∧ message.Exceeds ∧
    transactions.length = earlier.length ∧ ∀ event ∈ transactions, event.status = some 0

/-- How a call failed, given the status of its last transaction and whether its input was refused. -/
structure Blames (failure : Option SpiError) (last : Option Int32) (refused : Prop) : Prop where
  busy : failure = some .busy ↔ last = some (-7)
  vendor : ∀ status, failure = some (.vendor status) ↔
    last = some status ∧ status ≠ 0 ∧ status ≠ -3 ∧ status ≠ -7
  invalid : failure = some .invalidArgument ↔ last = some (-3) ∨ refused
  success : failure = none ↔ (∀ status, last = some status → status = 0) ∧ ¬ refused
  noMemory : failure ≠ some .noMemory

namespace Blames

variable {last : Option Int32} {refused : Prop}

/-- A call whose transactions all succeeded fails only if its input is refused. -/
theorem of_success {failure : Option SpiError} (fine : ∀ status, last = some status → status = 0)
    (ended : failure = none ∧ ¬ refused ∨ failure = some .invalidArgument ∧ refused) :
    Blames failure last refused := by
  have never {status : Int32} (bad : status ≠ 0) : last ≠ some status :=
    fun found => bad (fine status found)
  have busy := never (show (-7 : Int32) ≠ 0 by decide)
  have invalid := never (show (-3 : Int32) ≠ 0 by decide)
  have vendor (status : Int32) : ¬ (last = some status ∧ status ≠ 0 ∧ status ≠ -3 ∧ status ≠ -7) :=
    fun found => found.2.1 (fine status found.1)
  rcases ended with ⟨rfl, unrefused⟩ | ⟨rfl, refused⟩
  · exact ⟨by simp [busy], fun status => by simpa using vendor status, by simp [invalid, unrefused],
      by simpa [unrefused] using fine, by simp⟩
  · exact ⟨by simp [busy], fun status => by simpa using vendor status, by simp [refused],
      by simp [refused], by simp⟩

/-- A transaction that failed is reported by its own error. -/
theorem of_fault {status : Int32} {fault : Fault} (found : Fault.ofStatus? status = some fault)
    (unrefused : ¬ refused) : Blames (some fault.toError) (some status) refused := by
  have tells := Fault.tells_toError found
  have bad := Fault.ne_zero_of_ofStatus? found
  refine ⟨?_, fun kept => ?_, ?_, ?_, ?_⟩
  · rw [Option.some.injEq, Option.some.injEq, tells.busy]
  · rw [Option.some.injEq, Option.some.injEq, tells.vendor]
    constructor
    · rintro ⟨rfl, others⟩
      exact ⟨rfl, bad, others⟩
    · rintro ⟨rfl, _, others⟩
      exact ⟨rfl, others⟩
  · rw [Option.some.injEq, Option.some.injEq, tells.invalid, or_iff_left unrefused]
  · simp [bad]
  · rw [ne_eq, Option.some.injEq]
    exact tells.noMemory

end Blames

namespace Recorder

/-- Calls of different kinds all succeed exactly if the next status of each kind is success. -/
theorem setupAll_eq_true_iff (calls : List SetupCall) (recorder : Recorder) (controller : Controller)
    (distinct : (calls.map SetupCall.kind).Nodup) :
    (Board.setupAll recorder controller calls).2 = true ↔
      ∀ call ∈ calls, recorder.responses.status call.kind = 0 := by
  induction calls generalizing recorder with
  | nil => simp [Board.setupAll]
  | cons call rest ih =>
      obtain ⟨own, distinct⟩ := List.nodup_cons.mp distinct
      have later : ∀ asked ∈ rest, (recorder.responses.afterCall call.kind).status asked.kind =
          recorder.responses.status asked.kind := by
        intro asked found
        have other : asked.kind ≠ call.kind := fun same =>
          own (same ▸ List.mem_map_of_mem found)
        simp only [Responses.status, Responses.afterCall, other, if_false]
      rw [List.forall_mem_cons]
      cases result : recorder.fault? call.kind with
      | some fault =>
          have bad : recorder.responses.status call.kind ≠ 0 := Fault.ne_zero_of_ofStatus? result
          simp only [Board.setupAll, setup_eq, result, Bool.false_eq_true, bad, false_and]
      | none =>
          have zero := (Fault.ofStatus?_eq_none_iff _).mp result
          simp only [Board.setupAll, setup_eq, result, zero, true_and]
          rw [ih _ distinct]
          exact forall₂_congr fun asked found => by rw [← later asked found]; rfl

end Recorder

namespace Link

/-- A call that configures the controller for a device meets a status other than success. -/
def Unready (link : Link Recorder) : Prop :=
  ∃ setup ∈ link.device.setupCalls, link.board.responses.status setup.kind ≠ 0

theorem configure_failure (link : Link Recorder) :
    link.configure.failure = none ∧ ¬ link.Unready ∨
      link.configure.failure = some .invalidArgument ∧ link.Unready := by
  have distinct : (link.device.setupCalls.map SetupCall.kind).Nodup := by
    simp [Device.setupCalls, SetupCall.kind]
  have ends := Recorder.setupAll_eq_true_iff _ link.board link.device.controller distinct
  unfold configure Unready
  split
  · next same =>
    rw [same] at ends
    exact Or.inl ⟨rfl, by simpa using ends⟩
  · next same =>
    rw [same] at ends
    exact Or.inr ⟨rfl, by simpa using ends⟩

/-- A device that cannot be selected, since its controller has to be configured and cannot be. -/
def Unselectable (link : Link Recorder) : Prop :=
  link.bus.table.last.get link.device.controller ≠ link.device.select ∧ link.Unready

theorem select_failure (link : Link Recorder) :
    link.select.failure = none ∧ ¬ link.Unselectable ∨
      link.select.failure = some .invalidArgument ∧ link.Unselectable := by
  unfold Unselectable
  rcases link.select_cases with ⟨entry, same⟩ | ⟨differ, same⟩
  · rw [same]
    exact Or.inl ⟨rfl, fun unable => unable.1 entry⟩
  · rw [same]
    rcases link.configure_failure with ⟨accepted, ready⟩ | ⟨failed, unready⟩
    · exact Or.inl ⟨accepted, fun unable => ready unable.2⟩
    · exact Or.inr ⟨failed, differ, unready⟩

end Link

/-- A call that ends with a configuration that failed: its last event shuts the controller down, and
there is no transaction in it. -/
structure BreaksOff (controller : Controller) (failure : Option SpiError) (events : List BoardEvent) :
    Prop where
  failure : failure = some .invalidArgument
  last : events.getLast? = some ⟨.shutdown controller, none⟩
  silent : events.filter BoardEvent.isTransaction = []

namespace Link

theorem breaksOff_of_refused {link : Link Recorder} {error : SpiError}
    (failed : link.configure.failure = some error) :
    ∃ events, link.configure.link.board.log = link.board.log ++ events ∧
      BreaksOff link.device.controller link.configure.failure events := by
  obtain ⟨events, grown, quiet⟩ := link.configure_quiet
  refine ⟨events, grown, ?_, ?_, filter_isTransaction_of_quiet quiet⟩
  · rcases link.configure_failure with ⟨accepted, _⟩ | ⟨same, _⟩
    · rw [accepted] at failed
      cases failed
    · exact same
  · rcases link.configure_cases with ⟨board, completed⟩ | ⟨board, refused⟩
    · rw [completed.failure] at failed
      cases failed
    · obtain ⟨made, failing, skipped, status, _, _, logged⟩ := refused.logged
      have log := refused.log
      rw [logged, List.append_assoc, grown] at log
      rw [List.append_cancel_left log, List.getLast?_append_of_ne_nil _ (by simp)]
      rfl

theorem lastStatus?_of_accepted {device : Device} {exchanges : List Exchange}
    (accepted : ∀ exchange ∈ exchanges, exchange.status = 0) :
    ∀ status, lastStatus? (exchanges.map (Exchange.event device)) = some status → status = 0 := by
  intro status found
  obtain ⟨event, last, same⟩ := Option.bind_eq_some_iff.mp found
  obtain ⟨exchange, own, rfl⟩ := List.mem_map.mp (List.mem_of_getLast? last)
  rw [← Option.some.inj same]
  exact accepted exchange own

/-- The end of a dialogue is told by the status of its last transaction. -/
theorem Held.blames {link : Link Recorder} {messages : List Message} {dialogue : Dialogue}
    {events : List BoardEvent} {failure : Option SpiError}
    (held : link.Held messages dialogue events failure) :
    let transactions := events.filter BoardEvent.isTransaction
    Blames failure (lastStatus? transactions) (RefusesCount messages transactions) := by
  intro transactions
  have ends := held.ends
  have same : transactions = dialogue.exchanges.map (Exchange.event link.device) :=
    held.transactions
  have listed := held.messages
  rw [same]
  cases ends with
  | @complete exchanges accepted =>
      refine .of_success (lastStatus?_of_accepted accepted) (Or.inl ⟨rfl, ?_⟩)
      rintro ⟨earlier, message, later, split, _, length, _⟩
      rw [← listed] at split
      have short := congrArg List.length split
      simp only [Dialogue.messages, List.length_append, List.length_map, List.length_cons,
        List.length_nil] at short length
      omega
  | @refused done last unsent fault accepted found final =>
      have status : lastStatus? ((done ++ [last]).map (Exchange.event link.device)) =
          some last.status := by
        rw [lastStatus?, List.map_append, List.map_singleton, List.getLast?_concat]
        rfl
      rw [status]
      refine .of_fault found ?_
      rintro ⟨_, _, _, _, _, _, fine⟩
      have zero : last.status = 0 :=
        Option.some.inj (fine (last.event link.device) (List.mem_map_of_mem (by simp)))
      exact Fault.ne_zero_of_ofStatus? found zero
  | @unfit exchanges message later accepted unfit =>
      refine .of_success (lastStatus?_of_accepted accepted) (Or.inr ⟨rfl, ?_⟩)
      refine ⟨exchanges.map Exchange.message, message, later, listed.symm,
        message.fits_eq_false_iff.mp unfit, by simp, fun event found => ?_⟩
      obtain ⟨exchange, own, rfl⟩ := List.mem_map.mp found
      exact congrArg some (accepted exchange own)

/-- A call breaks off if its device cannot be selected. Otherwise its error is told by the status of its
last transaction, and by its messages. -/
theorem call_blames (link : Link Recorder) (call : DataCall) :
    ∃ events, (link.call call).link.board.log = link.board.log ++ events ∧
      (link.Unselectable → BreaksOff link.device.controller (link.call call).failure events) ∧
      (¬ link.Unselectable →
        let transactions := events.filter BoardEvent.isTransaction
        Blames (link.call call).failure (lastStatus? transactions)
          (RefusesCount (Errand.messages call.errands) transactions)) := by
  rcases link.select_failure with ⟨selected, able⟩ | ⟨failed, unable⟩
  · obtain ⟨dialogue, traffic, events, grown, transactions, _, held⟩ := call_dialogue selected call
    refine ⟨events, grown, fun unable => (able unable).elim, fun _ => ?_⟩
    rw [transactions]
    exact held.blames
  · rcases link.select_cases with ⟨_, same⟩ | ⟨_, same⟩
    · rw [same] at failed
      cases failed
    · rw [same] at failed
      obtain ⟨events, grown, breaksOff⟩ := breaksOff_of_refused failed
      rw [call_of_unselected (by rw [same]; exact failed), same]
      rw [failed] at breaksOff
      exact ⟨events, grown, fun _ => breaksOff, fun able => (able unable).elim⟩

end Link

/-- Parameters describe a device unless they are incomplete or there is no such controller. -/
theorem Device.ofParams?_eq_none_iff (params : Params) :
    ofParams? params = none ↔ params.platform = none ∨ 2 ≤ params.controller := by
  rw [show 2 ≤ params.controller ↔ _ from (Controller.ofIndex?_eq_none_iff params.controller).symm]
  unfold ofParams?
  split
  · next complete named => simp [complete, named]
  · next incomplete =>
    simp only [true_iff]
    cases complete : params.platform with
    | none => exact Or.inl rfl
    | some platform =>
        cases named : Controller.ofIndex? params.controller with
        | none => exact Or.inr rfl
        | some controller => exact (incomplete platform controller complete named).elim

/-- Why a device could not be opened. -/
def Opened.failure {σ : Type} (opened : Opened σ) : Option SpiError :=
  match opened.device with
  | .ok _ => none
  | .error error => some error

/-- Opening a device breaks off if its controller cannot be configured. Otherwise it fails only for
parameters that describe no device. -/
theorem Bus.openDevice_blames (bus : Bus Recorder) (params : Params) :
    ∃ events, (bus.openDevice params).bus.board.log = bus.board.log ++ events ∧
      (∀ device, Device.ofParams? params = some device → Link.Unready ⟨bus, device⟩ →
        BreaksOff device.controller (bus.openDevice params).failure events) ∧
      ((∀ device, Device.ofParams? params = some device → ¬ Link.Unready ⟨bus, device⟩) →
        Blames (bus.openDevice params).failure
          (lastStatus? (events.filter BoardEvent.isTransaction))
          (params.platform = none ∨ 2 ≤ params.controller)) := by
  cases described : Device.ofParams? params with
  | none =>
      have unmet := (Device.ofParams?_eq_none_iff params).mp described
      rw [openDevice_of_undescribed described]
      refine ⟨[], (List.append_nil _).symm, fun _ found => (by cases found), fun _ => ?_⟩
      exact .of_success (fun status found => by cases found) (Or.inr ⟨rfl, unmet⟩)
  | some device =>
      let link : Link Recorder := ⟨bus, device⟩
      have met : ¬ (params.platform = none ∨ 2 ≤ params.controller) := by
        rw [← Device.ofParams?_eq_none_iff, described]
        exact Option.some_ne_none device
      rcases link.configure_failure with ⟨accepted, ready⟩ | ⟨failed, unready⟩
      · obtain ⟨events, grown, quiet⟩ := link.configure_quiet
        rw [openDevice_of_accepted described accepted]
        refine ⟨events, grown, fun _ found unready => ?_, fun _ => ?_⟩
        · cases found
          exact (ready unready).elim
        · rw [filter_isTransaction_of_quiet quiet]
          exact .of_success (fun status found => by cases found) (Or.inl ⟨rfl, met⟩)
      · obtain ⟨events, grown, breaksOff⟩ := Link.breaksOff_of_refused failed
        rw [failed] at breaksOff
        rw [openDevice_of_refused described failed]
        refine ⟨events, grown, fun _ found _ => ?_, fun ready => (ready device rfl unready).elim⟩
        cases found
        exact breaksOff

/-- In every state, and whatever the statuses: opening a device and calling one break off with an
invalid argument if a configuration fails that they need; else their error is told by the status of
their last transaction and by what they were given. Every status but success is kept by its fault. -/
theorem errors_traced :
    (∀ (bus : Bus Recorder) (params : Params),
      let opened := bus.openDevice params
      ∃ events, opened.bus.board.log = bus.board.log ++ events ∧
        (∀ device, Device.ofParams? params = some device → Link.Unready ⟨bus, device⟩ →
          BreaksOff device.controller opened.failure events) ∧
        ((∀ device, Device.ofParams? params = some device → ¬ Link.Unready ⟨bus, device⟩) →
          Blames opened.failure (lastStatus? (events.filter BoardEvent.isTransaction))
            (params.platform = none ∨ 2 ≤ params.controller))) ∧
      (∀ (link : Link Recorder) (call : DataCall),
        let outcome := link.call call
        ∃ events, outcome.link.board.log = link.board.log ++ events ∧
          (link.Unselectable → BreaksOff link.device.controller outcome.failure events) ∧
          (¬ link.Unselectable →
            let transactions := events.filter BoardEvent.isTransaction
            Blames outcome.failure (lastStatus? transactions)
              (RefusesCount (Errand.messages call.errands) transactions))) ∧
      ∀ status : Int32, status ≠ 0 →
        ∃ fault, Fault.ofStatus? status = some fault ∧ fault.status = status :=
  ⟨Bus.openDevice_blames, Link.call_blames, fun _ => Fault.exists_of_status⟩

/-- The second of two messages fails, and so does the configuration that follows: the status of the
second transaction is what the call reports. -/
theorem errors_traced_of_failed_recovery :
    let device : Device :=
      { controller := .spi0, speed := 1000000, select := 0, mode := .mode0, order := .msbFirst,
        platform := { slaves := 1, polarity := 0, supply := .vddio }, delays := .zero }
    let statuses : CallKind → List Int32
      | .transaction => [0, -42]
      | .setMode => [-7]
      | _ => []
    let board := Recorder.initial.adjust ⟨[], [], statuses, none⟩
    let link : Link Recorder := ⟨⟨board, .initial⟩, device⟩
    let call : DataCall := .transaction [.read [0], .write [1]]
    let outcome := link.call call
    outcome.failure = some (.vendor (-42)) ∧
      outcome.link.board.log.getLast? = some ⟨.shutdown .spi0, none⟩ ∧
      ¬ link.Unselectable ∧
      ∃ events, outcome.link.board.log = link.board.log ++ events ∧
        let transactions := events.filter BoardEvent.isTransaction
        Blames outcome.failure (lastStatus? transactions)
          (RefusesCount (Errand.messages call.errands) transactions) := by
  intro device statuses board link call outcome
  have able : ¬ link.Unselectable := fun unable => unable.1 rfl
  obtain ⟨events, grown, _, blames⟩ := errors_traced.2.1 link call
  exact ⟨by decide +kernel, by decide +kernel, able, events, grown, blames able⟩

end SharedSpi

import Mathlib.Algebra.Order.BigOperators.Group.List
import Mathlib.Algebra.Order.Group.Nat
import Mathlib.Data.List.Forall2
import SharedSpi.Bench.Firmware
import SharedSpi.Proofs.BoardSimulation
import SharedSpi.Proofs.ByteFlow
import SharedSpi.Proofs.StaleDevices

/-!
# The firmware library as a board

The library of C functions and the recorder are boards that answer alike, as long
as their clocks read alike, their registers hold the same bits, and the scripts
have the same stream and the same statuses for every kind of call but shutdowns.
Then the library logs what the recorder logs: a write of the timing register
leaves no trace, and every other call stands for the call of one C function. So
a script of commands gives the same reports on both.
-/

namespace SharedSpi

/-- The address that a C function is given for a controller. -/
def BoardCall.base : Controller → UInt32
  | .spi0 => 0x400be000
  | .spi1 => 0x40046000

/-- The record that a C function is given for a request. -/
def BoardCall.record (request : Request) : TransferRecord where
  select := Int32.ofNat request.select.toNat
  release := if request.release then 1 else 0
  send := request.sent?
  receive := request.receiveLength?.map UInt32.ofNat
  shared := request.shared
  sendCounter := 0
  receiveCounter := 0
  callback := false

/-- The C function that a call on a board comes down to, and its arguments. The timing register is
written without calling one. -/
def BoardCall.asFirmware? : BoardCall → Option FirmwareCall
  | setup controller (.init config) =>
      some (.init (base controller) (if config.master then 1 else 0) (if config.quad then 1 else 0)
        config.slaves.toInt32 config.polarity config.speed config.pins)
  | setup controller (.setMode mode) => some (.setMode (base controller) (Int32.ofNat mode.number))
  | setup controller (.setWidth width) =>
      some (.setWidth (base controller) (Int32.ofNat width.number))
  | setup controller (.setDataSize bits) =>
      some (.setDataSize (base controller) (Int32.ofNat bits.toNat))
  | setTiming _ _ => none
  | shutdown controller => some (.shutdown (base controller))
  | transaction controller request => some (.transaction (base controller) (record request))
  | wait ns => some (.wait ns)

/-- The calls of C functions that the events of a recorder come down to. -/
def firmwareLog (events : List BoardEvent) : List FirmwareCall :=
  events.filterMap (·.call.asFirmware?)

theorem firmwareLog_append (first second : List BoardEvent) :
    firmwareLog (first ++ second) = firmwareLog first ++ firmwareLog second :=
  List.filterMap_append

/-- The record of a request whose count needs no more than 32 bits. -/
theorem TransferRecord.ofRequest_eq {request : Request} (narrow : request.count < UInt32.size) :
    ofRequest request = BoardCall.record request := by
  have count : (UInt32.ofNat request.count).toNat = request.count :=
    UInt32.toNat_ofNat_of_lt' narrow
  have positive : 0 < UInt32.ofNat request.count ↔ 0 < request.count := by
    rw [UInt32.lt_iff_toNat_lt, count]
    rfl
  have sides : request.buffers.isInPlace = true → request.buffers.sendSide?.isSome = true := by
    cases request.buffers <;> simp [Buffers.isInPlace, Buffers.sendSide?]
  have sent : (request.buffers.sendSide?.map fun data =>
      data.take (UInt32.ofNat request.sendLength).toNat) = request.sent? := by
    unfold Request.sendLength Request.sent?
    cases request.buffers.sendSide? with
    | none => rfl
    | some data => exact congrArg (fun length => some (data.take length)) count
  have received : (request.buffers.receiveSide?.map fun _ =>
      UInt32.ofNat request.receiveLength) = request.receiveLength?.map UInt32.ofNat := by
    unfold Request.receiveLength Request.receiveLength?
    cases request.buffers.receiveSide? with
    | none => rfl
    | some buffer => rfl
  have shared : (request.buffers.isInPlace && decide (0 < UInt32.ofNat request.sendLength)) =
      request.shared := by
    unfold Request.shared
    cases inPlace : request.buffers.isInPlace with
    | false => rfl
    | true => simp only [Request.sendLength, sides inPlace, if_true, positive]
  simp only [ofRequest, BoardCall.record, sent, received, shared]
  rfl

theorem TransferRecord.storedLength_ofRequest {request : Request}
    (narrow : request.count < UInt32.size) :
    (ofRequest request).storedLength = request.receiveLength := by
  unfold storedLength ofRequest Request.receiveLength
  cases request.buffers.receiveSide? with
  | none => rfl
  | some buffer => exact UInt32.toNat_ofNat_of_lt' narrow

namespace Firmware

/-- The library once a transaction was answered. -/
def answered (firmware : Firmware) (controller : Controller) (request : Request) : Firmware :=
  (firmware.invoke .transaction
    (.transaction controller.address (TransferRecord.ofRequest request))).1

theorem transact_of_accepted {firmware : Firmware}
    (accepted : Fault.ofStatus? (firmware.responses.status .transaction) = none)
    (controller : Controller) (request : Request) :
    let after := firmware.answered controller request
    let stored := (TransferRecord.ofRequest request).storedLength
    Board.transact firmware controller request =
      ({ after with responses := after.responses.afterBytes stored },
        .ok (after.responses.upcoming stored)) := by
  intro after stored
  change Firmware.transact _ _ _ = _
  simp only [Firmware.transact]
  rw [show (firmware.invoke .transaction _).2 = firmware.responses.status .transaction from rfl,
    accepted]
  rfl

theorem transact_of_rejected {firmware : Firmware} {fault : Fault}
    (found : Fault.ofStatus? (firmware.responses.status .transaction) = some fault)
    (controller : Controller) (request : Request) :
    Board.transact firmware controller request =
      (firmware.answered controller request, .error fault) := by
  change Firmware.transact _ _ _ = _
  simp only [Firmware.transact]
  rw [show (firmware.invoke .transaction _).2 = firmware.responses.status .transaction from rfl,
    found]
  rfl

/-- A configuring call is the call of one C function. -/
theorem setup_eq (firmware : Firmware) (controller : Controller) (call : SetupCall) :
    ∃ called, BoardCall.asFirmware? (.setup controller call) = some called ∧
      firmware.setup controller call = firmware.invoke call.kind called := by
  cases call with
  | init config => exact ⟨_, by cases controller <;> rfl, rfl⟩
  | setMode mode => exact ⟨_, by cases controller <;> rfl, rfl⟩
  | setWidth width => exact ⟨_, by cases controller <;> rfl, rfl⟩
  | setDataSize bits => exact ⟨_, by cases controller <;> rfl, rfl⟩

end Firmware

theorem SetupCall.kind_ne_shutdown (call : SetupCall) : call.kind ≠ .shutdown := by
  cases call with
  | init config => exact CallKind.noConfusion
  | setMode mode => exact CallKind.noConfusion
  | setWidth width => exact CallKind.noConfusion
  | setDataSize bits => exact CallKind.noConfusion

namespace Recorder

/-- The library answers as the recorder does, and logged what the recorder logged. Its clocks read as 0
if they are negative; the statuses of shutdowns do not matter. -/
structure Mirrors (recorder : Recorder) (firmware : Firmware) : Prop where
  clocks : ∀ controller, (recorder.clocks.get controller).toNat =
    (firmware.clocks.get controller).toInt.toNat
  registers : ∀ controller,
    firmware.registers.get controller = (recorder.timing.get controller).bits
  statuses : ∀ kind, kind ≠ .shutdown →
    recorder.responses.statuses kind = firmware.responses.statuses kind
  stream : recorder.responses.stream = firmware.responses.stream
  position : recorder.responses.position = firmware.responses.position
  log : firmware.log = firmwareLog recorder.log

theorem mirrors_initial : Recorder.initial.Mirrors Firmware.initial := by
  refine ⟨fun controller => ?_, fun controller => ?_, fun _ _ => rfl, rfl, rfl, rfl⟩
  · rw [initial, Firmware.initial, Bank.get_both, Bank.get_both]
    decide
  · rw [initial, Firmware.initial, Bank.get_both, Bank.get_both]

variable {recorder : Recorder} {firmware : Firmware}

theorem Mirrors.status (mirrors : recorder.Mirrors firmware) (kind : CallKind)
    (matters : kind ≠ .shutdown) :
    recorder.responses.status kind = firmware.responses.status kind := by
  rw [Responses.status, mirrors.statuses kind matters]
  rfl

/-- A call that ends with a status. -/
theorem Mirrors.answer (mirrors : recorder.Mirrors firmware) (kind : CallKind) {call : BoardCall}
    {firmwareCall : FirmwareCall} (same : call.asFirmware? = some firmwareCall) :
    (recorder.answer kind call).Mirrors (firmware.invoke kind firmwareCall).1 := by
  refine ⟨mirrors.clocks, mirrors.registers, fun other matters => ?_, mirrors.stream,
    mirrors.position, ?_⟩
  · simp only [Recorder.answer, Firmware.invoke, Responses.afterCall,
      mirrors.statuses other matters]
  · simp only [Recorder.answer, Recorder.record, Firmware.invoke, Firmware.record,
      firmwareLog_append, mirrors.log]
    simp [firmwareLog, same]

/-- A call without a status. -/
theorem Mirrors.record (mirrors : recorder.Mirrors firmware) {call : BoardCall}
    {firmwareCall : FirmwareCall} (same : call.asFirmware? = some firmwareCall) :
    (recorder.record call none).Mirrors (firmware.record firmwareCall) := by
  refine ⟨mirrors.clocks, mirrors.registers, mirrors.statuses, mirrors.stream, mirrors.position, ?_⟩
  simp only [Recorder.record, Firmware.record, firmwareLog_append, mirrors.log]
  simp [firmwareLog, same]

/-- Storing received bytes. -/
theorem Mirrors.received (mirrors : recorder.Mirrors firmware) (count : Nat) :
    (recorder.received count).Mirrors
        { firmware with responses := firmware.responses.afterBytes count } ∧
      recorder.responses.upcoming count = firmware.responses.upcoming count := by
  refine ⟨⟨mirrors.clocks, mirrors.registers, mirrors.statuses, mirrors.stream,
    congrArg (· + count) mirrors.position, mirrors.log⟩, ?_⟩
  simp only [Responses.upcoming, mirrors.stream, mirrors.position]

theorem Mirrors.transact (mirrors : recorder.Mirrors firmware) (controller : Controller)
    {request : Request} (narrow : request.count < UInt32.size) :
    (Board.transact recorder controller request).1.Mirrors
        (Board.transact firmware controller request).1 ∧
      (Board.transact recorder controller request).2 =
        (Board.transact firmware controller request).2 := by
  have status := mirrors.status .transaction (by decide)
  have called : BoardCall.asFirmware? (.transaction controller request) =
      some (.transaction controller.address (TransferRecord.ofRequest request)) := by
    rw [TransferRecord.ofRequest_eq narrow]
    cases controller <;> rfl
  have answered : (recorder.answer .transaction (.transaction controller request)).Mirrors
      (firmware.answered controller request) := mirrors.answer .transaction called
  cases result : Fault.ofStatus? (firmware.responses.status .transaction) with
  | none =>
      have zero := (Fault.ofStatus?_eq_none_iff _).mp result
      rw [Recorder.transact_of_accepted (status.trans zero),
        Firmware.transact_of_accepted result, TransferRecord.storedLength_ofRequest narrow]
      obtain ⟨stored, same⟩ := answered.received request.receiveLength
      exact ⟨stored, congrArg Except.ok same⟩
  | some fault =>
      rw [Recorder.transact_of_rejected (by rw [status]; exact result),
        Firmware.transact_of_rejected result]
      exact ⟨answered, rfl⟩

theorem Mirrors.setup (mirrors : recorder.Mirrors firmware) (controller : Controller)
    (call : SetupCall) :
    (Board.setup recorder controller call).1.Mirrors (Board.setup firmware controller call).1 ∧
      (Board.setup recorder controller call).2 = (Board.setup firmware controller call).2 := by
  obtain ⟨called, same, result⟩ := firmware.setup_eq controller call
  change (recorder.answer _ _).Mirrors (firmware.setup controller call).1 ∧
    recorder.fault? _ = Fault.ofStatus? (firmware.setup controller call).2
  rw [result]
  exact ⟨mirrors.answer call.kind same,
    congrArg Fault.ofStatus? (mirrors.status call.kind call.kind_ne_shutdown)⟩

theorem Mirrors.setTiming (mirrors : recorder.Mirrors firmware) (controller : Controller)
    (timing : SelectTiming) :
    (Board.setTiming recorder controller timing).Mirrors
      (Board.setTiming firmware controller timing) := by
  refine ⟨mirrors.clocks, fun asked => ?_, mirrors.statuses, mirrors.stream, mirrors.position, ?_⟩
  · change (firmware.registers.set controller timing.bits).get asked =
      ((recorder.timing.set controller timing).get asked).bits
    rw [Bank.get_set, Bank.get_set, mirrors.registers, apply_ite SelectTiming.bits]
  · change firmware.log = firmwareLog (recorder.log ++ [⟨.setTiming controller timing, none⟩])
    rw [firmwareLog_append, ← mirrors.log]
    exact (List.append_nil _).symm

/-- The library takes a status for a shutdown, which the recorder does not. -/
theorem Mirrors.shutdown (mirrors : recorder.Mirrors firmware) (controller : Controller) :
    (Board.shutdown recorder controller).Mirrors (Board.shutdown firmware controller) := by
  have called : BoardCall.asFirmware? (.shutdown controller) =
      some (.shutdown controller.address) := by cases controller <;> rfl
  have recorded := mirrors.record called
  refine ⟨recorded.clocks, recorded.registers, fun kind matters => ?_, recorded.stream,
    recorded.position, recorded.log⟩
  exact (recorded.statuses kind matters).trans (if_neg matters).symm

/-- A recorder and the library that it mirrors answer alike. -/
theorem simulation : Simulation Mirrors where
  setup mirrors := mirrors.setup
  clock mirrors controller := by
    change _ = UInt32.ofNat _
    rw [← mirrors.clocks, UInt32.ofNat_toNat]
    rfl
  timing mirrors controller := by
    change _ = SelectTiming.ofBits _
    rw [mirrors.registers, SelectTiming.ofBits_bits]
    rfl
  setTiming mirrors := mirrors.setTiming
  shutdown mirrors := mirrors.shutdown
  transact mirrors controller _ narrow := mirrors.transact controller narrow
  wait mirrors _ := mirrors.record rfl

end Recorder

/-- Adjustments of a recorder and of the library that come to the same. A clock of the library is a
signed number of 32 bits; the recorder's is the same one, or 0 if it is negative. The statuses of
shutdowns are left open. -/
structure BenchSettings.Matches (ours theirs : BenchSettings) : Prop where
  clocks : List.Forall₂ (fun hz code : Int => -2 ^ 31 ≤ code ∧ code < 2 ^ 31 ∧ hz.toNat = code.toNat)
    ours.clocks theirs.clocks
  timing : ours.timing = theirs.timing
  statuses : ∀ kind, kind ≠ .shutdown → ours.statuses kind = theirs.statuses kind
  stream : ours.stream = theirs.stream

/-- Replacing the first values of two banks by related ones. -/
theorem Bank.forall_get_overwrite {α β : Type} (related : α → β → Prop) {bank : Bank α}
    {other : Bank β} (same : ∀ controller, related (bank.get controller) (other.get controller))
    {first : List α} {second : List β} (values : List.Forall₂ related first second) :
    ∀ controller, related ((bank.overwrite first).get controller)
      ((other.overwrite second).get controller) := by
  intro controller
  cases values with
  | nil => exact same controller
  | cons head rest =>
      cases rest with
      | nil =>
          cases controller with
          | spi0 => exact head
          | spi1 => exact same .spi1
      | cons next later =>
          cases controller with
          | spi0 => exact head
          | spi1 => exact next

theorem Responses.statuses_adjust (responses : Responses) (settings : BenchSettings)
    (kind : CallKind) :
    (responses.adjust settings).statuses kind =
      responses.statuses kind ++ settings.statuses kind := by
  unfold adjust
  cases settings.stream with
  | none => rfl
  | some pattern => rfl

theorem Recorder.Mirrors.adjust {recorder : Recorder} {firmware : Firmware}
    (mirrors : recorder.Mirrors firmware) {ours theirs : BenchSettings}
    (same : ours.Matches theirs) :
    (recorder.adjust ours).Mirrors (firmware.adjust theirs) := by
  refine ⟨?_, ?_, ?_, ?_, ?_, mirrors.log⟩
  · refine Bank.forall_get_overwrite
      (fun (hz : UInt32) (code : Int32) => hz.toNat = code.toInt.toNat) mirrors.clocks ?_
    rw [List.forall₂_map_left_iff, List.forall₂_map_right_iff]
    refine same.clocks.imp fun hz code ⟨low, high, equal⟩ => ?_
    rw [Int32.toInt_ofInt_of_le low high, ← equal]
    apply UInt32.toNat_ofNat_of_lt'
    simp only [UInt32.size]
    omega
  · refine Bank.forall_get_overwrite
      (fun (timing : SelectTiming) (bits : UInt32) => bits = timing.bits) mirrors.registers ?_
    rw [same.timing, List.forall₂_map_left_iff]
    exact List.forall₂_same.mpr fun bits _ => (SelectTiming.bits_ofBits bits).symm
  · intro kind matters
    refine (Responses.statuses_adjust _ ours kind).trans (Eq.trans ?_
      (Responses.statuses_adjust _ theirs kind).symm)
    rw [mirrors.statuses kind matters, same.statuses kind matters]
  · simp only [Recorder.adjust, Firmware.adjust, Responses.adjust, same.stream]
    cases theirs.stream with
    | none => exact mirrors.stream
    | some pattern => rfl
  · simp only [Recorder.adjust, Firmware.adjust, Responses.adjust, same.stream]
    cases theirs.stream with
    | none => exact mirrors.position
    | some pattern => rfl

/-- All buffers of a call are shorter than 32 bits can count. -/
structure DataCall.Small (call : DataCall) : Prop where
  messages : ∀ message ∈ call.messages, message.buffers.sent.length < UInt32.size ∧
    message.buffers.received.length < UInt32.size
  operations : ∀ operations, call.operations? = some operations → ∀ operation ∈ operations,
    operation.sent.length < UInt32.size ∧ operation.received.length < UInt32.size

theorem Buffers.capacity_le (buffers : Buffers) :
    buffers.capacity ≤ max buffers.sent.length buffers.received.length := by
  cases buffers with
  | write data => exact Nat.le_max_left _ _
  | read buffer => exact Nat.le_max_right _ _
  | exchange data buffer => exact (Nat.min_le_left _ _).trans (Nat.le_max_left _ _)
  | inPlace buffer => exact Nat.le_max_left _ _

/-- No message of a small call clocks more bytes than 32 bits can count. -/
theorem DataCall.Small.narrow {call : DataCall} (small : call.Small) :
    ∀ message ∈ Errand.messages call.errands, message.Narrow := by
  intro message found fits
  refine Nat.lt_of_le_of_lt (message.fits_iff.mp fits) ?_
  unfold DataCall.errands at found
  split at found
  · rename_i operations shape
    have part : message.buffers ∈ operations.flatMap Operation.parts := by
      rw [← Errand.buffers_ofOperations, Errand.buffers_eq_map]
      exact List.mem_map_of_mem found
    obtain ⟨operation, listed, own⟩ := List.mem_flatMap.mp part
    have within : message.buffers.capacity ≤ (operation.parts.map Buffers.capacity).sum :=
      List.le_sum_of_mem (List.mem_map_of_mem own)
    rw [operation.sum_capacity_parts] at within
    exact Nat.lt_of_le_of_lt within (Nat.max_lt.mpr (small.operations _ shape operation listed))
  · rw [Errand.messages_map_message] at found
    exact Nat.lt_of_le_of_lt message.buffers.capacity_le
      (Nat.max_lt.mpr (small.messages message found))

/-- An action on a recorder and one on the library that come to the same. -/
inductive Action.Matches : Action → Action → Prop where
  | adjust {ours theirs : BenchSettings} (same : ours.Matches theirs) :
      Matches (.adjust ours) (.adjust theirs)
  | lookUp (controller : Nat) (select : UInt8) :
      Matches (.lookUp controller select) (.lookUp controller select)
  | openDevice (request : OpenRequest) : Matches (.openDevice request) (.openDevice request)
  | onDevice {action : DeviceAction} (small : ∀ call, action = .data call → call.Small) :
      Matches (.onDevice action) (.onDevice action)

/-- A command for a recorder and one for the library that come to the same. -/
structure Command.Matches (ours theirs : Command) : Prop where
  slot : ours.slot = theirs.slot
  action : ours.action.Matches theirs.action

/-- What the report of a recorder comes down to on the library. -/
def Report.asFirmware (report : Report BoardEvent) : Report FirmwareCall :=
  { report with events := firmwareLog report.events }

namespace Session

variable {session : Session Recorder} {shadow : Session Firmware}

theorem perform_coupled (coupled : session.Coupled Recorder.Mirrors shadow) {ours theirs : Command}
    (same : ours.Matches theirs) :
    (session.perform ours).Coupled Recorder.Mirrors (shadow.perform theirs) := by
  obtain ⟨slot, action⟩ := ours
  obtain ⟨_, other⟩ := theirs
  obtain ⟨rfl, same⟩ := same
  cases same with
  | adjust same => exact ⟨⟨coupled.board.adjust same, coupled.table, coupled.slots⟩, rfl, rfl⟩
  | lookUp controller select =>
      refine ⟨coupled, ?_, rfl⟩
      simp only [perform, answering, coupled.table]
  | openDevice request => exact Recorder.simulation.openInto coupled slot request
  | @onDevice action small =>
      simp only [perform, coupled.slots]
      cases shadow.slots slot with
      | none => exact ⟨coupled, rfl, rfl⟩
      | some device =>
          exact Recorder.simulation.onDevice coupled slot device fun call asked =>
            (small call asked).narrow

theorem report_coupled (coupled : session.Coupled Recorder.Mirrors shadow) (slot : Nat)
    {done : Performed Recorder} {also : Performed Firmware}
    (same : done.Coupled Recorder.Mirrors also)
    (grown : ∃ events, done.session.bus.board.log = session.bus.board.log ++ events) :
    shadow.report slot also = (session.report slot done).asFirmware := by
  obtain ⟨events, grown⟩ := grown
  have boards := same.session.board
  have timing := Recorder.simulation.timing boards
  simp only [report, Report.asFirmware, same.answer, same.received, same.session.table,
    same.session.slots, timing]
  congr 1
  change also.session.bus.board.log.drop shadow.bus.board.log.length =
    firmwareLog (done.session.bus.board.log.drop session.bus.board.log.length)
  rw [boards.log, coupled.board.log, grown, firmwareLog_append, List.drop_left, List.drop_left]

theorem coupled_initial {recorder : Recorder} {firmware : Firmware}
    (mirrors : recorder.Mirrors firmware) :
    (initial recorder).Coupled Recorder.Mirrors (initial firmware) :=
  ⟨mirrors, rfl, rfl⟩

/-- A script has the same reports on a recorder and on the library that it mirrors. -/
theorem reports_coupled {ours theirs : List Command}
    (matching : List.Forall₂ Command.Matches ours theirs)
    (coupled : session.Coupled Recorder.Mirrors shadow) :
    shadow.reports theirs = (session.reports ours).map Report.asFirmware ∧
      (session.run ours).Coupled Recorder.Mirrors (shadow.run theirs) := by
  induction matching generalizing session shadow with
  | nil => exact ⟨rfl, coupled⟩
  | @cons command other rest others same later ih =>
      have performed := perform_coupled coupled same
      obtain ⟨reported, ended⟩ := ih performed.session
      refine ⟨?_, ended⟩
      rw [reports, reports, List.map_cons, reported, ← same.slot,
        report_coupled coupled command.slot performed (session.step_grown command)]

/-- With buffers that 32 bits can count, a script has the same reports on the library as on a recorder
that it mirrors: the same answers, receive buffers, timing registers, table and delays after every
command, and the calls of C functions that the recorded calls come down to. The library is left as the
recorder is. What the library is given as the statuses of shutdowns makes no difference. -/
theorem firmware_refines_recorder {recorder : Recorder} {firmware : Firmware}
    {ours theirs : List Command} (mirrors : recorder.Mirrors firmware)
    (matching : List.Forall₂ Command.Matches ours theirs) :
    let recorded := (initial recorder).run ours
    let called := (initial firmware).run theirs
    (initial firmware).reports theirs = ((initial recorder).reports ours).map Report.asFirmware ∧
      called.bus.board.log = firmwareLog recorded.bus.board.log ∧
      called.bus.table = recorded.bus.table ∧ called.slots = recorded.slots ∧
      (∀ controller, called.bus.board.registers.get controller =
        (recorded.bus.board.timing.get controller).bits) ∧
      ∀ other others, recorder.Mirrors other → List.Forall₂ Command.Matches ours others →
        (initial other).reports others = (initial firmware).reports theirs ∧
          ((initial other).run others).bus.board.log = called.bus.board.log := by
  intro recorded called
  obtain ⟨reported, ended⟩ := reports_coupled matching (coupled_initial mirrors)
  refine ⟨reported, ended.board.log, ended.table.symm, ended.slots.symm, ended.board.registers, ?_⟩
  intro other others alsoMirrors alsoMatching
  obtain ⟨alsoReported, alsoEnded⟩ := reports_coupled alsoMatching (coupled_initial alsoMirrors)
  exact ⟨alsoReported.trans reported.symm, alsoEnded.board.log.trans ended.board.log.symm⟩

/-- A clock that cannot be read, a transaction that fails half-way, a device that is refused, and
shutdowns that only the library reports to have failed. -/
theorem firmware_refines_recorder_of_stopped_clock :
    let ours : BenchSettings :=
      { clocks := [0], timing := [0x11223344], stream := some [1, 2, 3],
        statuses := fun kind =>
          match kind with
          | .init => [0, 0, -1]
          | .transaction => [0, -7]
          | _ => [] }
    let theirs : BenchSettings :=
      { ours with
        clocks := [-5]
        statuses := fun kind => if kind = .shutdown then [9, -1] else ours.statuses kind }
    let rest : List Command :=
      [⟨0, .openDevice (sampleRequest 1)⟩,
        ⟨0, .onDevice (.data (.transaction [.delay 9000, .exchange [7] [0, 0]]))⟩,
        ⟨1, .openDevice (sampleRequest 2)⟩, ⟨0, .onDevice .close⟩]
    (Recorder.initial.Mirrors Firmware.initial ∧
        List.Forall₂ Command.Matches (⟨0, .adjust ours⟩ :: rest) (⟨0, .adjust theirs⟩ :: rest)) ∧
      (initial Firmware.initial).reports (⟨0, .adjust theirs⟩ :: rest) =
        ((initial Recorder.initial).reports (⟨0, .adjust ours⟩ :: rest)).map Report.asFirmware ∧
      ((initial Firmware.initial).run (⟨0, .adjust theirs⟩ :: rest)).bus.board.log =
        firmwareLog ((initial Recorder.initial).run (⟨0, .adjust ours⟩ :: rest)).bus.board.log := by
  intro ours theirs rest
  have mirrors := Recorder.mirrors_initial
  have settings : ours.Matches theirs :=
    ⟨.cons (by decide) .nil, rfl, fun kind matters => (if_neg matters).symm, rfl⟩
  have small : (DataCall.transaction [.delay 9000, .exchange [7] [0, 0]]).Small :=
    ⟨by simp [DataCall.messages], fun operations shape => by cases shape; decide⟩
  have matching : List.Forall₂ Command.Matches (⟨0, .adjust ours⟩ :: rest)
      (⟨0, .adjust theirs⟩ :: rest) :=
    .cons ⟨rfl, .adjust settings⟩ (.cons ⟨rfl, .openDevice _⟩
      (.cons ⟨rfl, .onDevice fun call asked => by cases asked; exact small⟩
        (.cons ⟨rfl, .openDevice _⟩ (.cons ⟨rfl, .onDevice fun call asked => by cases asked⟩ .nil))))
  obtain ⟨reported, logged, _⟩ := firmware_refines_recorder mirrors matching
  exact ⟨⟨mirrors, matching⟩, reported, logged⟩

end Session

end SharedSpi

import SharedSpi.Proofs.ErrorSources
import SharedSpi.Proofs.SharedControllers
import SharedSpi.Proofs.Standings

/-!
# Attempts to configure a controller

A controller is configured when a device is opened, when a device is selected
before a call, and again after a transaction that failed. Each of these attempts
makes all of its five calls and settles the timing register, the device and the
table; or it makes its calls up to the first that fails, shuts the controller
down, and leaves registers, table and devices as they were. A second attempt
that succeeds changes nothing more, and what an attempt settles does not depend
on what was there before.
-/

namespace SharedSpi

namespace Session

/-- The controller of a device was configured: all calls succeeded, setup and hold time became one tick,
the table remembers the chip select, and the device of the slot remembers no delays. -/
structure Configured (slot : Nat) (device : Device) (before after : Session Recorder) : Prop where
  log : after.bus.board.log = before.bus.board.log ++
    fullConfiguration device.controller device.config device.mode.hardware
      (after.bus.board.timing.get device.controller)
  timing : after.bus.board.timing = before.bus.board.timing.set device.controller
    { before.bus.board.timing.get device.controller with pre := 1, post := 1 }
  table : after.bus.table = before.bus.table.record device.controller device.select
  slots : after.slots = (before.setSlot slot (some { device with delays := .zero })).slots

/-- Registers and tables do not tell a second configuration from the first. -/
theorem Configured.again {slot : Nat} {device again : Device} {before middle after : Session Recorder}
    (first : Configured slot device before middle) (second : Configured slot again middle after)
    (same : again = { device with delays := again.delays }) :
    after.bus.board.timing = middle.bus.board.timing ∧ after.bus.table = middle.bus.table ∧
      after.slots = middle.slots ∧
      ∀ start, standings start after.bus.board.log = standings start middle.bus.board.log := by
  have controller : again.controller = device.controller := by rw [same]
  have timing : after.bus.board.timing = middle.bus.board.timing := by
    rw [second.timing, first.timing, controller, Bank.get_set_same, Bank.set_set]
  have concern : Concern again.controller (fullConfiguration again.controller again.config
      again.mode.hardware (after.bus.board.timing.get again.controller)) := by
    simp [Concern, fullConfiguration, BoardCall.controller?, eq_comm]
  refine ⟨timing, ?_, ?_, fun start => Bank.ext_get fun asked => ?_⟩
  · rw [second.table, first.table, same, SelectTable.record, SelectTable.record, Bank.set_set]
  · rw [second.slots, same]
    funext asked
    by_cases own : asked = slot
    · simp [setSlot, own, first.slots]
    · simp [setSlot, own]
  · rw [second.log, standings_append]
    by_cases own : asked = again.controller
    · rw [own, standings_fullConfiguration, first.log, standings_append, controller,
        standings_fullConfiguration, timing, same]
      rfl
    · exact standings_other (fun event found => concern event found asked own) _

end Session

end SharedSpi

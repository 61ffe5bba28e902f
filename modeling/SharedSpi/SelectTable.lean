import SharedSpi.Controller

/-!
# The select table

All devices share one table that remembers, for each controller, the chip
select it was last configured for. A controller has to be configured again
exactly when this is not the chip select asked for.
-/

namespace SharedSpi

/-- The chip select that each controller was last configured for. -/
structure SelectTable where
  last : Bank UInt8
  deriving DecidableEq, Repr

namespace SelectTable

/-- At the start every controller counts as configured for chip select 0. -/
def initial : SelectTable := ⟨.both 0⟩

/-- The chip select of the controller with an index, none if there is no such controller. -/
def last? (table : SelectTable) (index : Nat) : Option UInt8 :=
  (Controller.ofIndex? index).map table.last.get

/-- Whether the controller with an index has to be configured to drive a chip select. -/
def mustConfigure (table : SelectTable) (index : Nat) (select : UInt8) : Bool :=
  table.last? index != some select

/-- Remembers that a controller was configured for a chip select. -/
def record (table : SelectTable) (controller : Controller) (select : UInt8) : SelectTable :=
  ⟨table.last.set controller select⟩

theorem mustConfigure_index (table : SelectTable) (controller : Controller) (select : UInt8) :
    table.mustConfigure controller.index select = (table.last.get controller != select) := by
  simp only [mustConfigure, last?, Controller.ofIndex?_index, Option.map_some, bne,
    Option.some_beq_some]

end SelectTable

end SharedSpi

/-!
# Controllers

There are two controllers, numbered 0 and 1. A bank holds one value for each of
them.
-/

namespace SharedSpi

/-- One of the two controllers. -/
inductive Controller where
  | spi0
  | spi1
  deriving DecidableEq, Repr

namespace Controller

/-- The number of controllers. -/
def count : Nat := 2

/-- The index of a controller. -/
def index : Controller → Nat
  | spi0 => 0
  | spi1 => 1

/-- The controller of an index, none from 2 on. -/
def ofIndex? : Nat → Option Controller
  | 0 => some spi0
  | 1 => some spi1
  | _ => none

theorem ofIndex?_index (controller : Controller) : ofIndex? controller.index = some controller := by
  cases controller <;> rfl

theorem ofIndex?_eq_none_iff (index : Nat) : ofIndex? index = none ↔ count ≤ index := by
  match index with
  | 0 => simp [ofIndex?, count]
  | 1 => simp [ofIndex?, count]
  | _ + 2 => simp [ofIndex?, count]

end Controller

/-- A value for each controller. -/
structure Bank (α : Type) where
  spi0 : α
  spi1 : α
  deriving DecidableEq, Repr

namespace Bank

variable {α : Type}

/-- The same value for both controllers. -/
def both (value : α) : Bank α := ⟨value, value⟩

/-- The value of a controller. -/
def get (bank : Bank α) : Controller → α
  | .spi0 => bank.spi0
  | .spi1 => bank.spi1

/-- Replaces the value of a controller. -/
def set (bank : Bank α) (controller : Controller) (value : α) : Bank α :=
  match controller with
  | .spi0 => { bank with spi0 := value }
  | .spi1 => { bank with spi1 := value }

/-- Replaces the values of the first controllers by those of a list. -/
def overwrite (bank : Bank α) : List α → Bank α
  | [] => bank
  | [first] => { bank with spi0 := first }
  | first :: second :: _ => ⟨first, second⟩

@[simp] theorem get_set_same (bank : Bank α) (controller : Controller) (value : α) :
    (bank.set controller value).get controller = value := by
  cases controller <;> rfl

theorem get_set_other (bank : Bank α) {changed asked : Controller} (other : asked ≠ changed)
    (value : α) : (bank.set changed value).get asked = bank.get asked := by
  cases changed <;> cases asked <;> simp_all [get, set]

theorem get_set (bank : Bank α) (changed asked : Controller) (value : α) :
    (bank.set changed value).get asked = if asked = changed then value else bank.get asked := by
  cases changed <;> cases asked <;> rfl

theorem set_set (bank : Bank α) (controller : Controller) (first second : α) :
    (bank.set controller first).set controller second = bank.set controller second := by
  cases controller <;> rfl

theorem set_get (bank : Bank α) (controller : Controller) :
    bank.set controller (bank.get controller) = bank := by
  cases controller <;> rfl

/-- What a controller is left with does not depend on what belongs to the others. -/
theorem get_overwrite {one other : Bank α} {controller : Controller}
    (same : other.get controller = one.get controller) (values : List α) :
    (other.overwrite values).get controller = (one.overwrite values).get controller := by
  match values, controller with
  | [], _ => exact same
  | [_], .spi0 => rfl
  | [_], .spi1 => exact same
  | _ :: _ :: _, _ => rfl

@[simp] theorem get_both (value : α) (controller : Controller) :
    (both value).get controller = value := by
  cases controller <;> rfl

theorem ext_get {first second : Bank α} (same : ∀ controller, first.get controller = second.get controller) :
    first = second := by
  cases first; cases second
  have zero := same .spi0
  have one := same .spi1
  simp only [get] at zero one
  rw [zero, one]

end Bank

end SharedSpi

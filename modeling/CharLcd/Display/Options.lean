/-! Properties of a display module that decide which signals it has. -/

namespace CharLcd

/-- How many HD44780 controllers a display module has. -/
inductive Controllers where
  | single
  | dual
deriving DecidableEq, Repr

namespace Controllers

/-- The number of controllers. -/
def count : Controllers → Nat
  | single => 1
  | dual => 2

/-- Whether there is a second controller. -/
def isDual (controllers : Controllers) : Bool :=
  controllers == dual

/-- The identifier in structured output. -/
def name : Controllers → String
  | single => "Single"
  | dual => "Dual"

/-- The number of controllers a yes or no question about a second one stands for. -/
def ofDual (dual : Bool) : Controllers :=
  if dual then .dual else .single

/-- A second controller is there exactly if it was asked for. -/
@[simp]
theorem isDual_ofDual (dual : Bool) : (ofDual dual).isDual = dual := by
  cases dual <;> rfl

end Controllers

/-- What a display module has beside its first controller. -/
structure DisplayOptions where
  controllers : Controllers := .single
  /-- Whether the backlight is switched through a GPIO line. -/
  backlight : Bool := false
deriving DecidableEq, Repr

end CharLcd

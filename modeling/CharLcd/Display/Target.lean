import CharLcd.Gpio.Error

/-! Where a byte goes: the addressed controllers and the register inside them. -/

namespace CharLcd

/-- The controllers a transfer is addressed to. -/
inductive Target where
  | all
  | first
  | second
deriving DecidableEq, Repr

namespace Target

/-- The number a target is addressed by. -/
def id : Target → UInt8
  | all => 0
  | first => 1
  | second => 2

/-- The identifier in structured output. -/
def name : Target → String
  | all => "All"
  | first => "First"
  | second => "Second"

/-- The target with the given number. Any other number is an invalid argument. -/
def ofId (number : UInt8) : Except GpioError Target :=
  if number = 0 then .ok .all
  else if number = 1 then .ok .first
  else if number = 2 then .ok .second
  else .error .invalidArgument

/-- A number addresses a target exactly if it is that target's number. -/
theorem ofId_eq_ok_iff {number : UInt8} {target : Target}
    : ofId number = .ok target ↔ target.id = number := by
  unfold ofId
  constructor
  · intro h
    split at h
    · cases h; exact (‹number = 0› ▸ rfl)
    · split at h
      · cases h; exact (‹number = 1› ▸ rfl)
      · split at h
        · cases h; exact (‹number = 2› ▸ rfl)
        · cases h
  · rintro rfl
    cases target <;> rfl

end Target

/-- The register a byte is written to, selected by the RS line. -/
inductive Register where
  /-- The instruction register, selected by a low level. -/
  | command
  /-- The data register, selected by a high level. -/
  | data
deriving DecidableEq, Repr

namespace Register

/-- The level of the RS line that selects the register. -/
def level (register : Register) : Bool :=
  register == data

/-- The identifier in structured output. -/
def name : Register → String
  | command => "Command"
  | data => "Data"

end Register

end CharLcd

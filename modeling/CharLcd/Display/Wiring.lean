import CharLcd.Config.Pins
import CharLcd.Gpio.Line

/-! The lines of a display, one for each signal it has. -/

namespace CharLcd

/-- Something for every signal of a display: its line numbers at first, its lines once they are
acquired. Only a display with two controllers has a second enable, and only one whose backlight is
switched has a backlight line.
-/
structure Wiring (α : Type) where
  en : α
  rs : α
  d7 : α
  d6 : α
  d5 : α
  d4 : α
  backlight : Option α
  en2 : Option α
deriving DecidableEq, Repr

namespace Wiring

variable {α : Type}

/-- What belongs to a signal. -/
def get? (wiring : Wiring α) : Signal → Option α
  | .en => some wiring.en
  | .en2 => wiring.en2
  | .rs => some wiring.rs
  | .d7 => some wiring.d7
  | .d6 => some wiring.d6
  | .d5 => some wiring.d5
  | .d4 => some wiring.d4
  | .backlight => wiring.backlight

/-- The data signals, the most significant first. -/
def data (wiring : Wiring α) : List α :=
  [wiring.d7, wiring.d6, wiring.d5, wiring.d4]

/-- Everything in the order in which the lines are acquired. -/
def toList (wiring : Wiring α) : List α :=
  [wiring.en, wiring.rs, wiring.d7, wiring.d6, wiring.d5, wiring.d4]
    ++ wiring.backlight.toList ++ wiring.en2.toList

/-- The enable signals that clock a transfer to the given controllers. The second controller is
addressed with the first one only on a display that has two.
-/
def enables (wiring : Wiring α) (controllers : Controllers) (target : Target) : List α :=
  let first := if target = .all ∨ target = .first then [wiring.en] else []
  let second :=
    if target = .second ∨ (controllers.isDual ∧ target = .all) then wiring.en2.toList else []
  first ++ second

end Wiring

/-- The line number of a signal, if its configured number is one. -/
def PinConfig.number (config : PinConfig) (signal : Signal) : Except ConnectionError UInt32 :=
  let value := config.line signal
  if 0 ≤ value.toInt ∧ value.toInt < UInt32.size then
    .ok (UInt32.ofNat value.toInt.toNat)
  else
    .error (.invalidPin signal value)

/-- Whether a display with the given options gets a backlight line. -/
def PinConfig.hasBacklight (config : PinConfig) (options : DisplayOptions) : Bool :=
  options.backlight && config.backlightEnabled

/-- The line numbers of all signals that a display with the given options has. -/
def PinConfig.wiring (config : PinConfig) (options : DisplayOptions)
    : Except ConnectionError (Wiring UInt32) := do
  let en ← config.number .en
  let rs ← config.number .rs
  let d7 ← config.number .d7
  let d6 ← config.number .d6
  let d5 ← config.number .d5
  let d4 ← config.number .d4
  let en2 ← if options.controllers.isDual then some <$> config.number .en2 else pure none
  let backlight ←
    if config.hasBacklight options then some <$> config.number .backlight else pure none
  return { en, rs, d7, d6, d5, d4, backlight, en2 }

variable {m : Type → Type} {ω : Type} [Monad m] [Journal m] [LineDriver m ω]

/-- Acquires the line of a signal for the steps that follow. If one of them fails, the line is given
up before the failure is passed on, so lines are given up in the reverse of the order in which they
were acquired.
-/
def holding {α : Type} (signal : Signal) (number : UInt32)
    (next : Line ω → m (Except ConnectionError α))
    : m (Except ConnectionError α) := do
  note (.settingUp number signal)
  match ← LineDriver.acquire number with
  | .error cause => return .error (.pinSetup signal number cause)
  | .ok handle =>
      let line : Line ω := ⟨number, handle⟩
      match ← next line with
      | .ok result => return .ok result
      | .error error =>
          line.discard
          return .error error

/-- Acquires the line of a signal that the display may not have. -/
def holdingOptional {α : Type} (signal : Signal) (number : Option UInt32)
    (next : Option (Line ω) → m (Except ConnectionError α))
    : m (Except ConnectionError α) :=
  match number with
  | some number => holding signal number fun line => next (some line)
  | none => next none

/-- Acquires the lines with the given numbers, all of them or none. -/
def Wiring.acquire (numbers : Wiring UInt32) : m (Except ConnectionError (Wiring (Line ω))) :=
  holding .en numbers.en fun en =>
  holding .rs numbers.rs fun rs =>
  holding .d7 numbers.d7 fun d7 =>
  holding .d6 numbers.d6 fun d6 =>
  holding .d5 numbers.d5 fun d5 =>
  holding .d4 numbers.d4 fun d4 =>
  holdingOptional .backlight numbers.backlight fun backlight =>
  holdingOptional .en2 numbers.en2 fun en2 =>
  return .ok { en, rs, d7, d6, d5, d4, backlight, en2 }

end CharLcd

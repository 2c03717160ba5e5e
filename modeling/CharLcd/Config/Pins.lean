import CharLcd.Config.Source
import CharLcd.Display.Options

/-! Which line carries which signal. -/

namespace CharLcd

/-- The number of the line of every signal, as configured. The numbers are not checked here: whether
a needed one can be a line is decided when a connection is set up.
-/
structure PinConfig where
  en : Int64 := Signal.en.defaultLine
  en2 : Int64 := Signal.en2.defaultLine
  rs : Int64 := Signal.rs.defaultLine
  d7 : Int64 := Signal.d7.defaultLine
  d6 : Int64 := Signal.d6.defaultLine
  d5 : Int64 := Signal.d5.defaultLine
  d4 : Int64 := Signal.d4.defaultLine
  backlight : Int64 := Signal.backlight.defaultLine
deriving DecidableEq, Repr

/-- Whether a number can be that of a backlight line. Any other number means that there is none. -/
def isBacklightLine (number : Int64) : Bool :=
  0 ≤ number && number < 32

namespace PinConfig

/-- The section of the configuration that holds the line numbers. -/
def area : String :=
  "hd44780"

/-- The number that stands for a missing backlight line. -/
def noBacklight : Int64 :=
  -1

/-- The configured number of a signal. -/
def line (config : PinConfig) : Signal → Int64
  | .en => config.en
  | .en2 => config.en2
  | .rs => config.rs
  | .d7 => config.d7
  | .d6 => config.d6
  | .d5 => config.d5
  | .d4 => config.d4
  | .backlight => config.backlight

/-- Whether the configured backlight number is one of a line. -/
def backlightEnabled (config : PinConfig) : Bool :=
  isBacklightLine config.backlight

/-- The number a source holds for a signal. -/
def lookUp (source : ConfigSource) (signal : Signal) : Logged Int64 := do
  let value ← source.getInt area signal.key signal.defaultLine
  note (.signalMapped signal value)
  return value

/-- Reads the numbers of the signals that a display with the given options has. The second enable
keeps its default without a second controller, and the backlight is off unless it is asked for.
-/
def load (source : ConfigSource) (options : DisplayOptions) : Logged PinConfig := do
  let en ← lookUp source .en
  let rs ← lookUp source .rs
  let d4 ← lookUp source .d4
  let d5 ← lookUp source .d5
  let d6 ← lookUp source .d6
  let d7 ← lookUp source .d7
  let en2 ←
    if options.controllers.isDual then lookUp source .en2 else pure Signal.en2.defaultLine
  let backlight ← if options.backlight then lookUp source .backlight else pure noBacklight
  return { en, en2, rs, d7, d6, d5, d4, backlight }

end PinConfig

end CharLcd

/-! The signals between a computer and an HD44780 display module in 4-bit mode. -/

namespace CharLcd

/-- A signal that a GPIO line carries on the display side. A module with two controllers has an
enable signal for each of them; the other signals are shared.
-/
inductive Signal where
  | en
  | en2
  | rs
  | d7
  | d6
  | d5
  | d4
  | backlight
deriving DecidableEq, Repr

namespace Signal

/-- Every signal once, in the order of the wiring table. -/
def all : List Signal :=
  [en, en2, rs, d7, d6, d5, d4, backlight]

/-- The list of signals leaves none out, by cases. -/
theorem mem_all (signal : Signal) : signal ∈ all := by
  cases signal <;> decide

/-- The identifier of a signal in structured output. -/
def name : Signal → String
  | en => "En"
  | en2 => "En2"
  | rs => "Rs"
  | d7 => "D7"
  | d6 => "D6"
  | d5 => "D5"
  | d4 => "D4"
  | backlight => "Backlight"

/-- The short name printed on the module. -/
def label : Signal → String
  | en => "EN"
  | en2 => "EN2"
  | rs => "RS"
  | d7 => "D7"
  | d6 => "D6"
  | d5 => "D5"
  | d4 => "D4"
  | backlight => "BL"

/-- The configuration key that holds the number of the signal's line. -/
def key : Signal → String
  | en => "pin_EN"
  | en2 => "pin_EN2"
  | rs => "pin_RS"
  | d7 => "pin_D7"
  | d6 => "pin_D6"
  | d5 => "pin_D5"
  | d4 => "pin_D4"
  | backlight => "pin_BL"

/-- The line a signal is wired to unless the configuration says otherwise. -/
def defaultLine : Signal → Int64
  | en => 8
  | en2 => 22
  | rs => 7
  | d7 => 18
  | d6 => 23
  | d5 => 24
  | d4 => 25
  | backlight => 17

/-- The signal that goes by `text`, if any does. -/
def ofName? (text : String) : Option Signal :=
  all.find? (·.name == text)

/-- Different signals are configured under different keys, by cases. -/
theorem key_injective {first second : Signal} (h : first.key = second.key) : first = second := by
  cases first <;> cases second <;> first | rfl | exact absurd h (by decide)

end Signal

end CharLcd

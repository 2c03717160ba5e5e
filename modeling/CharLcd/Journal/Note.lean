import CharLcd.Display.Error
import CharLcd.Display.Options
import CharLcd.Display.Stage
import CharLcd.Display.Target
import CharLcd.Text.Binary
import CharLcd.Text.Quoted

/-! What the library reports while it works.

A note says what happened as a value; its severity and its words are functions of that value. So a
statement about what is reported never has to look into a text.
-/

namespace CharLcd

/-- How much a note matters, from the most severe. -/
inductive Severity where
  | error
  | warn
  | info
  | debug
  | trace
deriving DecidableEq, Repr

namespace Severity

/-- Every severity once, the most severe first. -/
def all : List Severity :=
  [error, warn, info, debug, trace]

/-- The position of a severity, zero for the most severe. -/
def rank : Severity → Nat
  | error => 0
  | warn => 1
  | info => 2
  | debug => 3
  | trace => 4

/-- The word in front of a note, in capitals. -/
def label : Severity → String
  | error => "ERROR"
  | warn => "WARN"
  | info => "INFO"
  | debug => "DEBUG"
  | trace => "TRACE"

/-- The name of a severity as a threshold, in lower case. -/
def name : Severity → String
  | error => "error"
  | warn => "warn"
  | info => "info"
  | debug => "debug"
  | trace => "trace"

/-- The severity that goes by `text` as a threshold, if any does. -/
def ofName? (text : String) : Option Severity :=
  all.find? (·.name == text)

end Severity

/-- Something worth reporting. -/
inductive Note where
  /-- A connection entered a stage. -/
  | stageEntered (stage : Stage)
  /-- The line of a signal is about to be acquired. -/
  | settingUp (line : UInt32) (signal : Signal)
  /-- A connection has its lines and offers its operations. -/
  | registered (backlight : Bool) (controllers : Controllers)
  /-- A backlight was asked for, but its number rules out a line. -/
  | backlightOutOfRange (value : Int64)
  /-- A connection is ready for use. -/
  | connectionReady (en rs : Int64) (data : List Int64)
  /-- A connection could not be set up. -/
  | connectionFailed (error : ConnectionError)
  /-- A connection that was given up could not be closed cleanly. -/
  | closeFailed (error : GpioError)
  /-- A byte is about to be transferred. -/
  | sendingByte (byte : UInt8) (target : Target) (register : Register)
  /-- A single nibble is about to be transferred. -/
  | sendingNibble (nibble : UInt8) (target : Target) (register : Register)
  /-- A transfer is addressed to a controller that is not there. -/
  | noSecondController
  /-- A line did not take a level during a transfer. -/
  | levelFailed (line : UInt32) (level : Bool) (error : GpioError)
  /-- The backlight is about to be switched. -/
  | switchingBacklight (on : Bool)
  /-- The backlight line did not take a level. -/
  | backlightFailed (line : UInt32) (error : GpioError)
  /-- A line of a connection was not released cleanly. -/
  | releaseFailed (line : UInt32) (error : GpioError)
  /-- A line that was given up without being released was not released cleanly. -/
  | discardFailed (line : UInt32) (error : GpioError)
  /-- The line of a signal was looked up. -/
  | signalMapped (signal : Signal) (value : Int64)
  /-- A variable of the environment holds no integer. -/
  | integerIgnored (name value : String) (fallback : Int64)
  /-- A control file of the lines is about to be written. -/
  | writingFile (path value : String)
  /-- A line was exported before, by someone else. -/
  | alreadyExported (line : UInt32)
  /-- A line that was exported before stays exported. -/
  | leftExported (line : UInt32)
  /-- A line is exported and set up as an output. -/
  | lineExported (line : UInt32)
  /-- A line is given back. -/
  | lineReleased (line : UInt32)
  /-- A line could not be turned into an input again. -/
  | revertFailed (line : UInt32) (errno : Errno)
  /-- A line could not be unexported. -/
  | unexportFailed (line : UInt32) (errno : Errno)
  /-- A character that the display cannot show was replaced. -/
  | notAscii (c : Char)
deriving DecidableEq, Repr

namespace Note

/-- How much a note matters. -/
def severity : Note → Severity
  | connectionFailed _ => .error
  | closeFailed _ | noSecondController | levelFailed _ _ _ | backlightFailed _ _
  | releaseFailed _ _ | discardFailed _ _ | integerIgnored _ _ _ | revertFailed _ _
  | unexportFailed _ _ | notAscii _ => .warn
  | backlightOutOfRange _ | connectionReady _ _ _ => .info
  | stageEntered _ | settingUp _ _ | registered _ _ | signalMapped _ _ | alreadyExported _
  | leftExported _ | lineExported _ | lineReleased _ => .debug
  | sendingByte _ _ _ | sendingNibble _ _ _ | switchingBacklight _ | writingFile _ _ =>
      .trace

/-- The digit that stands for a level. -/
def levelDigit (level : Bool) : String :=
  if level then "1" else "0"

/-- The words of a note. -/
def text : Note → String
  | stageEntered stage => s!"Connection stage: {stage.label}"
  | settingUp line signal => s!"Setting up GPIO {line} as {signal.label}"
  | registered backlight controllers =>
      let also := if backlight then "/backlight" else ""
      s!"Registered send/close{also} for {controllers.count} controller(s)"
  | backlightOutOfRange value =>
      s!"Backlight GPIO {Text.int64Text value} is out of range, backlight control disabled"
  | connectionReady en rs data =>
      let lines := ", ".intercalate (data.map Text.int64Text)
      s!"HD44780 GPIO connection ready (EN {Text.int64Text en}, RS {Text.int64Text rs}, "
        ++ s!"D7-D4 [{lines}])"
  | connectionFailed error => s!"HD44780 GPIO connection failed: {error.message}"
  | closeFailed error => s!"Closing HD44780 GPIO connection failed: {error.message}"
  | sendingByte byte target register =>
      s!"Sending {Text.binary 8 byte.toNat} to {target.name}, RS: {register.name}"
  | sendingNibble nibble target register =>
      s!"Sending nibble {Text.binary 4 nibble.toNat} to {target.name}, RS: {register.name}"
  | noSecondController => "No second controller to address, the transfer will not be clocked in"
  | levelFailed line level error =>
      s!"Setting GPIO {line} to {levelDigit level} failed: {error.message}"
  | switchingBacklight on => if on then "Backlight on" else "Backlight off"
  | backlightFailed line error =>
      s!"Switching backlight on GPIO {line} failed: {error.message}"
  | releaseFailed line error => s!"Releasing GPIO {line} failed: {error.message}"
  | discardFailed line error => s!"Releasing GPIO {line} on drop failed: {error.message}"
  | signalMapped signal value => s!"Pin {signal.label} mapped to GPIO{Text.int64Text value}"
  | integerIgnored name value fallback =>
      s!"Ignoring {name}={Text.quoted value}: not an integer, "
        ++ s!"using {Text.int64Text fallback}"
  | writingFile path value => s!"{path} <- {Text.quoted value}"
  | alreadyExported line => s!"GPIO {line} is already exported"
  | leftExported line => s!"GPIO {line} was exported before, leaving it exported"
  | lineExported line => s!"Exported GPIO {line} as output"
  | lineReleased line => s!"Released GPIO {line}"
  | revertFailed line errno => s!"Reverting GPIO {line} to input failed: {errno.message}"
  | unexportFailed line errno => s!"Unexporting GPIO {line} failed: {errno.message}"
  | notAscii c => s!"Non-ASCII character: {c}"

/-- The line a note takes in a log: its severity, then its words. -/
def line (note : Note) : String :=
  s!"{note.severity.label} {note.text}"

/-- Whether a log with the given threshold takes the note. Without a threshold it takes none. -/
def passes (threshold : Option Severity) (note : Note) : Bool :=
  threshold.any (note.severity.rank ≤ ·.rank)

end Note

/-- The lines of the notes that a log with the given threshold takes, in order. -/
def logLines (threshold : Option Severity) (notes : List Note) : List String :=
  (notes.filter (·.passes threshold)).map Note.line

end CharLcd

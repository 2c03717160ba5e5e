import CharLcd.Display.Signal
import CharLcd.Gpio.Error
import CharLcd.Text.Decimal

/-! What can keep a connection to a display from being set up. -/

namespace CharLcd

/-- Why setting up a connection failed. -/
inductive ConnectionError where
  /-- The configured number of a needed signal cannot be a line number. -/
  | invalidPin (signal : Signal) (value : Int64)
  /-- The line of a signal could not be acquired. -/
  | pinSetup (signal : Signal) (line : UInt32) (cause : GpioError)
  /-- A write of the reset sequence failed. -/
  | gpio (cause : GpioError)
deriving DecidableEq, Repr

namespace ConnectionError

/-- The identifier of the cause in structured output. -/
def name : ConnectionError → String
  | invalidPin _ _ => "InvalidPin"
  | pinSetup _ _ _ => "PinSetup"
  | gpio _ => "Gpio"

/-- The sentence shown to a person. A failed write speaks for itself. -/
def message : ConnectionError → String
  | invalidPin signal value =>
      "invalid GPIO number " ++ Text.int64Text value ++ " for " ++ signal.label
  | pinSetup signal line cause =>
      "failed to set up GPIO " ++ toString line ++ " as " ++ signal.label ++ ": "
        ++ cause.message
  | gpio cause => cause.message

/-- The structured text of an error: its identifier, then its fields by name. -/
def describe : ConnectionError → String
  | invalidPin signal value =>
      "InvalidPin \x7b role: " ++ signal.name ++ ", value: " ++ Text.int64Text value ++ " \x7d"
  | pinSetup signal line cause =>
      "PinSetup \x7b role: " ++ signal.name ++ ", pin: " ++ toString line ++ ", source: "
        ++ cause.describe ++ " \x7d"
  | gpio cause => "Gpio(" ++ cause.describe ++ ")"

/-- The error behind this one, if it adds something to the message: a failed write is already
the whole story.
-/
def cause? : ConnectionError → Option GpioError
  | pinSetup _ _ cause => some cause
  | invalidPin _ _ | gpio _ => none

/-- The messages of an error and of the one behind it. -/
def chain (error : ConnectionError) : List String :=
  error.message :: (error.cause?.map GpioError.message).toList

end ConnectionError

end CharLcd

import CharLcd.Display.Error
import CharLcd.Display.Options
import CharLcd.Display.Stage

/-! What the steps of a session answer. -/

namespace CharLcd

/-- The state of a connection, as far as its user can see it. -/
structure Status where
  stage : Stage
  controllers : Controllers
  supportsBacklight : Bool
  /-- The numbers of the data lines, the most significant first, while the connection is open. -/
  dataLines : Option (List UInt32)
  /-- The number of the line of each signal, in the order of the wiring table. -/
  lines : List (Option UInt32)
  /-- Whether the line of each signal can be written, in the same order. -/
  exported : List (Option Bool)
deriving DecidableEq, Repr

/-- What a step of a session answers. -/
inductive Reply where
  | done
  | refused (error : GpioError)
  | rejected (error : ConnectionError)
  /-- The output or connection that the step is about is not there. -/
  | absent
  /-- The connection has no line for the signal. -/
  | noLine
  /-- A new output, by its number in the session. -/
  | output (slot : Nat)
  /-- A new connection, by its number in the session. -/
  | connection (slot : Nat)
  | flag (value : Bool)
  | outputInfo (line : UInt32) (exported : Bool) (description : String)
  | status (status : Status)
  | clocked (nibbles : List (Bool × UInt8))
  | summary (exports releases delays : List UInt32) (writes : Nat) (levels : List Bool)
  | driverInfo (description base : String)
  | ended
deriving DecidableEq, Repr

namespace Reply

/-- The answer of a step that can only succeed or be refused. -/
def ofResult : Except GpioError Unit → Reply
  | .ok () => done
  | .error error => refused error

end Reply

end CharLcd

import CharLcd.Display.Screen
import CharLcd.Session.Reply

/-! Steps on a display, whatever the connection to it is. -/

namespace CharLcd

/-- A step on a display. A target is given by its number, which need not be one of a target. -/
inductive DisplayStep where
  | send (target : UInt8) (register : Register) (byte : UInt8)
  | sendCommand (target : UInt8) (byte : UInt8)
  | sendData (target : UInt8) (byte : UInt8)
  | backlight (on : Bool)
  | supportsBacklight
  | pause (time : UInt32)
  | close
  | prepare
  | clear
  | print (text : String)
  | setCursor (row column : Nat)
deriving DecidableEq, Repr

namespace DisplayStep

variable {m : Type → Type} [Monad m] [Journal m] [DisplayLink m]

/-- Sends a byte, unless the number of the target is not one of a target. -/
def sendTo (target : UInt8) (register : Register) (byte : UInt8) : m Reply :=
  match Target.ofId target with
  | .error error => return .refused error
  | .ok target => return .ofResult (← DisplayLink.send target register byte)

/-- Carries out a script and answers how it ended. -/
def script (steps : ExceptT GpioError m Unit) : m Reply := do
  return .ofResult (← steps.run)

/-- Carries out a step. -/
def run : DisplayStep → m Reply
  | send target register byte => sendTo target register byte
  | sendCommand target byte => sendTo target .command byte
  | sendData target byte => sendTo target .data byte
  | backlight on => return .ofResult (← DisplayLink.setBacklight on)
  | supportsBacklight => return .flag (← DisplayLink.supportsBacklight)
  | pause time => do
      DisplayLink.pause time
      return .done
  | close => return .ofResult (← DisplayLink.close)
  | prepare => script Screen.prepare
  | clear => script Screen.clear
  | print text => script (Screen.print text)
  | setCursor row column => script (Screen.setCursor row column)

end DisplayStep

end CharLcd

import CharLcd.Display.Connection

/-! Showing text on a display, over any connection that can send it bytes.

Every operation here is a script of bytes and pauses. A script stops at the first byte that cannot
be sent, and what would have followed it, pauses included, does not happen.
-/

namespace CharLcd

/-- A monad whose programs can send bytes to a display. A connection need not be able to switch a
backlight.
-/
class DisplayLink (m : Type → Type) [Monad m] where
  /-- Sends a byte to the addressed controllers. -/
  send : Target → Register → UInt8 → m (Except GpioError Unit)
  /-- Whether switching the backlight does anything. -/
  supportsBacklight : m Bool := pure false
  /-- Switches the backlight. -/
  setBacklight : Bool → m (Except GpioError Unit) := fun _ => pure (.ok ())
  /-- Waits for a number of microseconds. -/
  pause : UInt32 → m Unit
  /-- Gives the display up. -/
  close : m (Except GpioError Unit)

namespace Screen

/-- Where each row of the screen begins in the memory of the display. -/
def rowOffsets : List UInt8 :=
  [0x00, 0x40]

/-- The number of columns that a row has in the memory of the display. -/
def columns : Nat :=
  40

/-- Microseconds that a controller needs to clear the screen. -/
def clearTime : UInt32 :=
  1600

/-- The instruction for the mode of the interface: four bits, two lines, small characters. -/
def functionSet : UInt8 :=
  0x28

/-- The instruction that turns the screen on, without a cursor. -/
def displayOn : UInt8 :=
  0x0c

/-- The instruction that clears the screen. -/
def clearScreen : UInt8 :=
  0x01

/-- The instruction that makes the cursor advance after each character. -/
def entryMode : UInt8 :=
  0x06

/-- The bit that makes an instruction out of a cursor position. -/
def cursorBit : UInt8 :=
  0x80

/-- The code shown in place of a character that is not in ASCII. -/
def replacement : UInt8 :=
  0x3f

variable {m : Type → Type} [Monad m] [Journal m] [DisplayLink m]

/-- Sends an instruction to all controllers. -/
def command (byte : UInt8) : ExceptT GpioError m Unit :=
  ExceptT.mk (DisplayLink.send .all .command byte)

/-- Sends a character code to all controllers. -/
def data (byte : UInt8) : ExceptT GpioError m Unit :=
  ExceptT.mk (DisplayLink.send .all .data byte)

/-- Clears the screen and waits until that is done. -/
def clear : ExceptT GpioError m Unit := do
  command clearScreen
  ExceptT.lift (DisplayLink.pause clearTime)

/-- Prepares the display for showing text. -/
def prepare : ExceptT GpioError m Unit := do
  command functionSet
  command displayOn
  clear
  command entryMode

/-- Shows one character. One that is not in ASCII is reported and replaced. -/
def printChar (c : Char) : ExceptT GpioError m Unit := do
  if c.toNat < 0x80 then
    data c.toNat.toUInt8
  else
    ExceptT.lift (note (.notAscii c))
    data replacement

/-- Shows characters one after the other. -/
def printChars : List Char → ExceptT GpioError m Unit
  | [] => pure ()
  | c :: rest => do
      printChar c
      printChars rest

/-- Shows a text. -/
def print (text : String) : ExceptT GpioError m Unit :=
  printChars text.toList

/-- Moves the cursor. A position that the display does not have is an invalid argument. -/
def setCursor (row column : Nat) : ExceptT GpioError m Unit :=
  match rowOffsets[row]? with
  | none => throw .invalidArgument
  | some offset =>
      if columns ≤ column then throw .invalidArgument
      else command (cursorBit ||| (offset + column.toUInt8))

end Screen

variable {m : Type → Type} {ω : Type} [Monad m] [Journal m] [Clock m] [LineDriver m ω]

instance : Journal (StateT (Connection ω) m) where
  note entry := StateT.lift (note entry)

/-- A program that owns a connection sends its bytes over it. -/
instance : DisplayLink (StateT (Connection ω) m) where
  send target register byte connection :=
    return (← connection.send target register byte, connection)
  supportsBacklight connection := return (connection.supportsBacklight, connection)
  setBacklight on connection := return (← connection.setBacklight on, connection)
  pause time connection := return (← connection.pause time, connection)
  close connection := connection.close

end CharLcd

import CharLcd.Display.Wiring

/-! How a byte gets into a controller: as two nibbles, each put on the data lines and clocked in.

A transfer is a list of steps that always runs to its end. A failed step is reported and remembered,
and the first failure is the result of the transfer.
-/

namespace CharLcd

/-- Microseconds between two steps of a transfer. -/
def settleTime : UInt32 :=
  50

/-- One step of a transfer. -/
inductive BusStep (ω : Type) where
  /-- Sets the level of a line. -/
  | drive (line : Line ω) (level : Bool)
  /-- Lets the levels settle. -/
  | settle
deriving DecidableEq, Repr

/-- A bit of a nibble, counted from the least significant one. -/
def nibbleBit (nibble : UInt8) (position : UInt8) : Bool :=
  (nibble >>> position) &&& 1 == 1

/-- The bits of a nibble, the most significant first. -/
def nibbleBits (nibble : UInt8) : List Bool :=
  [nibbleBit nibble 3, nibbleBit nibble 2, nibbleBit nibble 1, nibbleBit nibble 0]

namespace Wiring

variable {ω : Type}

/-- Selects the register that the following nibbles go to. -/
def select (lines : Wiring (Line ω)) (register : Register) : List (BusStep ω) :=
  [.drive lines.rs register.level]

/-- Sets all data lines to low. -/
def clearData (lines : Wiring (Line ω)) : List (BusStep ω) :=
  lines.data.map (.drive · false) ++ [.settle]

/-- Puts a nibble on the data lines. -/
def putNibble (lines : Wiring (Line ω)) (nibble : UInt8) : List (BusStep ω) :=
  lines.data.zipWith .drive (nibbleBits nibble) ++ [.settle]

/-- Sets the enable lines of the addressed controllers. -/
def enable (lines : Wiring (Line ω)) (controllers : Controllers) (target : Target)
    (level : Bool)
    : List (BusStep ω) :=
  (lines.enables controllers target).map (.drive · level) ++ [.settle]

/-- Puts a nibble on the data lines and pulses enable: the controllers take it on the falling
edge.
-/
def clockNibble (lines : Wiring (Line ω)) (controllers : Controllers) (target : Target)
    (nibble : UInt8)
    : List (BusStep ω) :=
  lines.clearData ++ lines.putNibble nibble ++ lines.enable controllers target true
    ++ lines.enable controllers target false

/-- The transfer of a single nibble. -/
def nibbleSteps (lines : Wiring (Line ω)) (controllers : Controllers) (target : Target)
    (register : Register) (nibble : UInt8)
    : List (BusStep ω) :=
  lines.select register ++ lines.clockNibble controllers target nibble

/-- The transfer of a byte, its high nibble first. The register is selected once. -/
def byteSteps (lines : Wiring (Line ω)) (controllers : Controllers) (target : Target)
    (register : Register) (byte : UInt8)
    : List (BusStep ω) :=
  lines.select register
    ++ lines.clockNibble controllers target (byte >>> 4)
    ++ lines.clockNibble controllers target (byte &&& 0x0f)

end Wiring

variable {m : Type → Type} {ω : Type} [Monad m] [Journal m] [Clock m] [LineDriver m ω]

/-- Carries out the steps of a transfer, all of them whatever fails, and returns the first
failure.
-/
def transfer (timer : Timer) : List (BusStep ω) → m (Except GpioError Unit)
  | [] => return .ok ()
  | .settle :: rest => do
      Clock.wait timer settleTime
      transfer timer rest
  | .drive line level :: rest => do
      match ← LineDriver.write line level with
      | .ok () => transfer timer rest
      | .error error =>
          note (.levelFailed line.number level error)
          let _ ← transfer timer rest
          return .error error

end CharLcd

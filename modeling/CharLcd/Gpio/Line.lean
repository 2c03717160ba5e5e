import CharLcd.Journal.Basic

/-! GPIO lines driven as outputs, and the drivers that hand them out.

A driver is a monad whose programs can acquire lines, set their levels and give them back. Whoever
acquires a line owns it until it is released; nothing releases a line twice, as its owner gives the
line away with the release.
-/

namespace CharLcd

/-- A line that is exported and set up as an output. The handle is what its driver needs to write
to it.
-/
structure Line (ω : Type) where
  number : UInt32
  handle : ω
deriving DecidableEq, Repr

/-- What hands out GPIO lines. -/
class LineDriver (m : Type → Type) (ω : outParam Type) where
  /-- Exports a line, sets it up as an output driven low and opens it for writing. A line that is
  handed out already is refused.
  -/
  acquire : UInt32 → m (Except GpioError ω)
  /-- Sets the level of a line. -/
  write : Line ω → Bool → m (Except GpioError Unit)
  /-- Turns a line into an input again and gives it back, as far as that succeeds. The line counts
  as given back also when a part of it failed.
  -/
  release : Line ω → m (Except GpioError Unit)
  /-- The text that describes an output with the given number. -/
  describe : UInt32 → m String

/-- Whether the waits of a connection are recorded by its driver. -/
inductive Timer where
  | recorded
  | unrecorded
deriving DecidableEq, Repr

/-- A monad whose programs can wait for a number of microseconds. -/
class Clock (m : Type → Type) where
  wait : Timer → UInt32 → m Unit

variable {m : Type → Type} {ω : Type} [Monad m] [Journal m] [LineDriver m ω]

namespace Line

/-- Gives up a line whose owner did not release it. A failure can only be reported. -/
def discard (line : Line ω) : m Unit := do
  match ← LineDriver.release line with
  | .ok () => return
  | .error error => note (.discardFailed line.number error)

/-- Releases lines in the given order. A failure is reported and does not keep the remaining lines
from being released; the first failure is the result.
-/
def releaseAll : List (Line ω) → m (Except GpioError Unit)
  | [] => return .ok ()
  | line :: rest => do
      match ← LineDriver.release line with
      | .ok () => releaseAll rest
      | .error error =>
          note (.releaseFailed line.number error)
          let _ ← releaseAll rest
          return .error error

end Line

/-- An output that its owner may release while keeping its number. -/
structure Output (ω : Type) where
  number : UInt32
  /-- What the driver needs to write to the line, until it is released. -/
  handle : Option ω
deriving DecidableEq, Repr

namespace Output

/-- The line of an output that was not released. -/
def line? (output : Output ω) : Option (Line ω) :=
  output.handle.map (⟨output.number, ·⟩)

/-- The same output after its release. -/
def released (output : Output ω) : Output ω :=
  { output with handle := none }

/-- Acquires a line as an output. -/
def acquire (number : UInt32) : m (Except GpioError (Output ω)) := do
  return (← LineDriver.acquire number).map fun handle => ⟨number, some handle⟩

/-- Sets the level of an output. A released one is refused. -/
def write (output : Output ω) (level : Bool) : m (Except GpioError Unit) :=
  match output.line? with
  | some line => LineDriver.write line level
  | none => return .error (.notExported output.number)

/-- Releases an output. Nothing happens if it is released already. -/
def release (output : Output ω) : m (Except GpioError Unit) :=
  match output.line? with
  | some line => LineDriver.release line
  | none => return .ok ()

/-- Gives up an output, and its line with it. -/
def discard (output : Output ω) : m Unit :=
  match output.line? with
  | some line => line.discard
  | none => return

end Output

end CharLcd

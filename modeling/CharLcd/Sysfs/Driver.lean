import CharLcd.Gpio.Line
import CharLcd.Sysfs.ControlFile

/-! A driver for the GPIO lines that the system exposes as files.

A line is handed out by writing its number to one file, which makes its own files appear; then its
direction is set, so that it becomes an output at a low level, and its value file is opened and
stays open for as long as the line is held. A level change is then a single write to it.
-/

namespace CharLcd.Sysfs

/-- A monad whose programs can work on the files of GPIO lines, and keep account of the lines that
are handed out.
-/
class Host (m : Type → Type) (η : outParam Type) where
  /-- The directory of all lines. -/
  base : m String
  /-- The lines that are handed out, in ascending order. -/
  used : m (List UInt32)
  /-- Replaces the account of the lines that are handed out. -/
  setUsed : List UInt32 → m Unit
  /-- Opens a file for writing, and empties it if asked to. -/
  openFile : ControlFile → (truncate : Bool) → m (Except Errno η)
  /-- Writes a text where the last write ended. -/
  writeFile : η → String → m (Except Errno Unit)
  /-- Goes back to the beginning of a file. -/
  rewind : η → m (Except Errno Unit)
  /-- Closes a file. -/
  closeFile : η → m Unit

/-- The bound on line numbers. -/
def lineCount : UInt32 :=
  1024

/-- Adds a number to ascending ones. -/
def insertAscending (number : UInt32) : List UInt32 → List UInt32
  | [] => [number]
  | head :: rest =>
      if number < head then number :: head :: rest
      else if number = head then head :: rest
      else head :: insertAscending number rest

/-- The text of a line number in the files that take one. -/
def numberLine (line : UInt32) : String :=
  s!"{line}\n"

/-- Whether a line was exported by its new owner or before. -/
inductive Export where
  | fresh
  | existing
deriving DecidableEq, Repr

variable {m : Type → Type} {η : Type} [Monad m] [Journal m] [Host m η]

/-- Replaces the content of a file. -/
def writeControl (file : ControlFile) (value : String) : m (Except Errno Unit) := do
  note (.writingFile (file.fullPath (← Host.base)) value)
  match ← Host.openFile file true with
  | .error errno => return .error errno
  | .ok handle =>
      let result ← Host.writeFile handle value
      Host.closeFile handle
      return result

/-- Exports a line. The system is busy with a line that is exported already; that line can be used
as well.
-/
def exportLine (line : UInt32) : m (Except Errno Export) := do
  match ← writeControl .exportFile (numberLine line) with
  | .ok () => return .ok .fresh
  | .error errno => return if errno.kind = .resourceBusy then .ok .existing else .error errno

/-- Turns a line into an input. A failure is reported. -/
def revert (line : UInt32) : m (Except Errno Unit) := do
  let result ← writeControl (.direction line) "in"
  if let .error errno := result then
    note (.revertFailed line errno)
  return result

/-- Unexports a line. A failure is reported. -/
def unexport (line : UInt32) : m (Except Errno Unit) := do
  let result ← writeControl .unexportFile (numberLine line)
  if let .error errno := result then
    note (.unexportFailed line errno)
  return result

/-- Gives back a line that could not be set up. A line that was exported before stays so. -/
def abandon (line : UInt32) (exported : Export) : m Unit :=
  match exported with
  | .existing => note (.leftExported line)
  | .fresh => do
      let _ ← unexport line

/-- Sets up an exported line as an output, and opens its value. If that fails the line is given
back.
-/
def configure (line : UInt32) (exported : Export) : m (Except GpioError η) := do
  match ← writeControl (.direction line) "low" with
  | .error errno =>
      abandon line exported
      return .error (.configureFailed line errno.kind)
  | .ok () =>
      match ← Host.openFile (.value line) false with
      | .ok handle => return .ok handle
      | .error errno =>
          let _ ← revert line
          abandon line exported
          return .error (.configureFailed line errno.kind)

/-- Hands out a line: exports it, sets it up as an output and opens its value. -/
def acquire (line : UInt32) : m (Except GpioError η) := do
  if lineCount ≤ line then
    return .error .invalidArgument
  if line ∈ (← Host.used) then
    return .error .alreadyInUse
  match ← exportLine line with
  | .error errno => return .error (.exportFailed line errno.kind)
  | .ok exported =>
      if exported = .existing then
        note (.alreadyExported line)
      match ← configure line exported with
      | .error error => return .error error
      | .ok handle =>
          Host.setUsed (insertAscending line (← Host.used))
          note (.lineExported line)
          return .ok handle

/-- Sets the level of a line. The value file is rewound behind the write, so that the next level
replaces this one instead of following it.
-/
def write (line : Line η) (level : Bool) : m (Except GpioError Unit) := do
  match ← Host.writeFile line.handle (Note.levelDigit level) with
  | .error errno => return .error (.writeFailed line.number errno.kind)
  | .ok () =>
      match ← Host.rewind line.handle with
      | .error errno => return .error (.writeFailed line.number errno.kind)
      | .ok () => return .ok ()

/-- The first failure of two steps that were both taken. -/
def firstFailure (first second : Except Errno Unit) : Except GpioError Unit :=
  match first, second with
  | .error errno, _ => .error (.ofErrno errno)
  | .ok (), .error errno => .error (.ofErrno errno)
  | .ok (), .ok () => .ok ()

/-- Takes a line back: turns it into an input, closes its value and unexports it, each whatever
failed before.
-/
def release (line : Line η) : m (Except GpioError Unit) := do
  let reverted ← revert line.number
  Host.closeFile line.handle
  let unexported ← unexport line.number
  Host.setUsed ((← Host.used).filter (· ≠ line.number))
  note (.lineReleased line.number)
  return firstFailure reverted unexported

/-- The text that describes a driver for the given directory. -/
def describeDriver (base : String) : String :=
  s!"SysfsGpioDriver({Text.quoted base})"

/-- The text that describes an output of a driver. -/
def describeOutput (base : String) (line : UInt32) : String :=
  s!"{describeDriver base}[{line}][output]"

instance : LineDriver m η where
  acquire := acquire
  write := write
  release := release
  describe line := return describeOutput (← Host.base) line

end CharLcd.Sysfs

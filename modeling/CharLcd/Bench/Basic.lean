import CharLcd.Bench.Event
import CharLcd.Display.Screen

/-! A bench: a driver without hardware that records what is done to its lines.

Lines can be marked so that exporting or writing them fails. What succeeds is recorded as an event,
in order; so the record of a session tells what a display on these lines would have seen.
-/

namespace CharLcd

/-- The state of a bench. -/
structure Bench where
  /-- The lines that are handed out. -/
  held : List UInt32 := []
  /-- The lines that cannot be exported. -/
  failingExports : List UInt32 := []
  /-- The lines that cannot be written. -/
  failingWrites : List UInt32 := []
  /-- What happened since the record was last cleared. -/
  events : Array Event := #[]
  /-- What was reported. -/
  notes : Array Note := #[]
deriving DecidableEq, Repr

namespace Bench

/-- Adds an event to the record. -/
def record (bench : Bench) (event : Event) : Bench :=
  { bench with events := bench.events.push event }

/-- Hands out a line that can be exported and is not handed out yet. -/
def acquire (number : UInt32) (bench : Bench) : Except GpioError Unit × Bench :=
  if number ∈ bench.failingExports then
    (.error (.exportFailed number .permissionDenied), bench)
  else if number ∈ bench.held then
    (.error .alreadyInUse, bench)
  else
    (.ok (), { bench with held := number :: bench.held }.record (.exported number))

/-- Sets the level of a line that can be written. -/
def write (number : UInt32) (level : Bool) (bench : Bench) : Except GpioError Unit × Bench :=
  if number ∈ bench.failingWrites then
    (.error (.writeFailed number .brokenPipe), bench)
  else
    (.ok (), bench.record (.written number level))

/-- Takes a line back. -/
def release (number : UInt32) (bench : Bench) : Bench :=
  { bench with held := bench.held.filter (· ≠ number) }.record (.released number)

/-- Lets time pass. -/
def wait (timer : Timer) (time : UInt32) (bench : Bench) : Bench :=
  match timer with
  | .recorded => bench.record (.delayed time)
  | .unrecorded => bench

instance : Journal (StateM Bench) where
  note entry := modify fun bench => { bench with notes := bench.notes.push entry }

instance : Clock (StateM Bench) where
  wait timer time := modify (wait timer time)

instance : LineDriver (StateM Bench) Unit where
  acquire number := acquire number
  write line level := write line.number level
  release line := do
    modify (release line.number)
    return .ok ()
  describe number := return s!"MockOutput({number})"

end Bench

end CharLcd

import CharLcd.Journal.Note

/-! What happens on a bench, and views of a record of it. -/

namespace CharLcd

/-- Something that happened on the bench. -/
inductive Event where
  | exported (line : UInt32)
  | written (line : UInt32) (level : Bool)
  | released (line : UInt32)
  | delayed (time : UInt32)
deriving DecidableEq, Repr

namespace Event

/-- The short text of an event. -/
def text : Event → String
  | .exported line => s!"export {line}"
  | .written line level => s!"{line}={Note.levelDigit level}"
  | .released line => s!"release {line}"
  | .delayed time => s!"delay {time}"

/-- The line of an export. -/
def export? : Event → Option UInt32
  | .exported line => some line
  | _ => none

/-- The line of a release. -/
def release? : Event → Option UInt32
  | .released line => some line
  | _ => none

/-- The length of a delay. -/
def delay? : Event → Option UInt32
  | .delayed time => some time
  | _ => none

/-- The line and the level of a write. -/
def write? : Event → Option (UInt32 × Bool)
  | .written line level => some (line, level)
  | _ => none

end Event

namespace Events

/-- The exported lines, in order. -/
def exports (events : List Event) : List UInt32 :=
  events.filterMap Event.export?

/-- The released lines, in order. -/
def releases (events : List Event) : List UInt32 :=
  events.filterMap Event.release?

/-- The delays, in order. -/
def delays (events : List Event) : List UInt32 :=
  events.filterMap Event.delay?

/-- The writes, in order. -/
def writes (events : List Event) : List (UInt32 × Bool) :=
  events.filterMap Event.write?

/-- The levels written to one line, in order. -/
def writesTo (events : List Event) (line : UInt32) : List Bool :=
  (writes events).filterMap fun entry => if entry.1 = line then some entry.2 else none

/-- The level of a line after some writes, given from the latest: the last one written to it, or low
if there is none.
-/
def levelAfter (latest : List (UInt32 × Bool)) (line : UInt32) : Bool :=
  (List.lookup line latest).getD false

/-- The number that levels stand for, the most significant bit first. -/
def nibbleOf (levels : List Bool) : UInt8 :=
  levels.foldl (fun value level => value <<< 1 ||| (if level then 1 else 0)) 0

/-- What a controller sees whenever its enable goes high: the level of RS, and the nibble on the
data lines. Each write is judged by the levels that it and the writes before it leave; those are
given from the latest.
-/
def clockedFrom (enable rs : UInt32) (data : List UInt32) (latest : List (UInt32 × Bool))
    : List (UInt32 × Bool) → List (Bool × UInt8)
  | [] => []
  | (line, level) :: rest =>
      let latest := (line, level) :: latest
      let later := clockedFrom enable rs data latest rest
      if line = enable ∧ level = true then
        (levelAfter latest rs, nibbleOf (data.map (levelAfter latest))) :: later
      else
        later

/-- What a controller on the given lines sees over a record of events. -/
def clockedNibbles (events : List Event) (enable rs : UInt32) (data : List UInt32)
    : List (Bool × UInt8) :=
  clockedFrom enable rs data [] (writes events)

end Events

end CharLcd

import CharLcd.Bench.Basic
import CharLcd.Session.Basic

/-! Sessions on a bench. -/

namespace CharLcd.Bench

/-- A step of a session on a bench. Beside the steps that every driver offers, lines can be marked
as failing, and the record can be cleared and looked at.
-/
inductive Action where
  | step (step : Step)
  | failExport (line : UInt32)
  | failWrites (line : UInt32)
  | clearRecord
  | clocked (enable rs : UInt32) (data : List UInt32)
  | summary (line : UInt32)
deriving DecidableEq, Repr

/-- What a step answered, and what happened in it. -/
structure Entry where
  reply : Reply
  events : List Event
  notes : List Note
deriving DecidableEq, Repr

/-- What a record says about a line, and about all lines together. -/
def summaryOf (events : List Event) (line : UInt32) : Reply :=
  .summary (Events.exports events) (Events.releases events) (Events.delays events)
    (Events.writes events).length (Events.writesTo events line)

/-- Carries out a step of a session. -/
def act (env : Environment) (session : Session Unit)
    : Action → StateM Bench (Reply × Session Unit)
  | .step step => session.step env step
  | .failExport line => do
      modify fun bench => { bench with failingExports := line :: bench.failingExports }
      return (.done, session)
  | .failWrites line => do
      modify fun bench => { bench with failingWrites := line :: bench.failingWrites }
      return (.done, session)
  | .clearRecord => do
      modify fun bench => { bench with events := #[] }
      return (.done, session)
  | .clocked enable rs data =>
      return (.clocked (Events.clockedNibbles (← get).events.toList enable rs data), session)
  | .summary line => return (summaryOf (← get).events.toList line, session)

/-- What a step answered, with what happened between two states of the bench. -/
def entry (reply : Reply) (before after : Bench) : Entry where
  reply
  events := after.events.toList.drop before.events.size
  notes := after.notes.toList.drop before.notes.size

/-- Carries out a session from a given state on, and gives up what is left at its end. -/
def runFrom (env : Environment) (session : Session Unit) (bench : Bench)
    : List Action → List Entry
  | [] => [entry .ended bench ((session.finish : StateM Bench Unit).run bench).2]
  | action :: rest =>
      let ((reply, session), next) := (act env session action).run bench
      entry reply bench next :: runFrom env session next rest

/-- Carries out a session on a fresh bench. -/
def run (env : Environment) (actions : List Action) : List Entry :=
  runFrom env {} {} actions

end CharLcd.Bench

import CharLcd.Session.DisplayStep

/-! A link that only records what is sent over it, to look at the scripts of a display.

It has no backlight. One of its transfers can be made to fail, which is then not recorded.
-/

namespace CharLcd

/-- Something that was asked of the link. -/
inductive LinkEvent where
  | sent (target : Target) (register : Register) (byte : UInt8)
  | paused (time : UInt32)
  | closed
deriving DecidableEq, Repr

/-- The state of a recording link. -/
structure Recorder where
  /-- The index of the transfer that fails, counted from zero, if one fails. -/
  failAt : Option Nat := none
  /-- How many transfers were asked for. -/
  transfers : Nat := 0
  events : Array LinkEvent := #[]
  notes : Array Note := #[]
deriving DecidableEq, Repr

namespace Recorder

/-- Adds an event to the record. -/
def record (recorder : Recorder) (event : LinkEvent) : Recorder :=
  { recorder with events := recorder.events.push event }

/-- Records a transfer, unless it is the one that fails. -/
def send (target : Target) (register : Register) (byte : UInt8) (recorder : Recorder)
    : Except GpioError Unit × Recorder :=
  let index := recorder.transfers
  let counted := { recorder with transfers := index + 1 }
  if recorder.failAt = some index then (.error (.notExported index.toUInt32), counted)
  else (.ok (), counted.record (.sent target register byte))

instance : Journal (StateM Recorder) where
  note entry := modify fun recorder => { recorder with notes := recorder.notes.push entry }

instance : DisplayLink (StateM Recorder) where
  send target register byte := send target register byte
  pause time := modify (·.record (.paused time))
  close := do
    modify (·.record .closed)
    return .ok ()

/-- What a step answered, and what it did. -/
structure Entry where
  reply : Reply
  events : List LinkEvent
  notes : List Note
deriving DecidableEq, Repr

/-- Carries out steps one after the other. -/
def runAll : List DisplayStep → Recorder → List Entry
  | [], _ => []
  | step :: rest, recorder =>
      let (reply, next) := (step.run : StateM Recorder Reply).run recorder
      let entry :=
        { reply
          events := next.events.toList.drop recorder.events.size
          notes := next.notes.toList.drop recorder.notes.size }
      entry :: runAll rest next

end Recorder

end CharLcd

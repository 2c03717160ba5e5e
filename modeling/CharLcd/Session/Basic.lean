import CharLcd.Config.Settings
import CharLcd.Session.DisplayStep

/-! Sessions: any number of outputs and connections on one driver, and steps on them in any order.

Outputs and connections are numbered in the order in which they were made, and keep their numbers
when they are given up. At the end of a session whatever is left is given up, the connections first.
-/

namespace CharLcd

/-- Where the line numbers of a connection come from. -/
inductive PinSource where
  | assignments (values : List (String × String × Int64))
  | environment
  | document (settings : Settings)
deriving DecidableEq, Repr

namespace PinSource

/-- The lookup that a source stands for, in an environment. -/
def source (env : Environment) : PinSource → ConfigSource
  | assignments values => .ofAssignments values
  | environment => .ofEnvironment env
  | document settings => settings.source env

/-- The options of a display set up from a source. Settings bring options of their own. -/
def options (given : DisplayOptions) : PinSource → DisplayOptions
  | document settings => settings.options
  | assignments _ | environment => given

end PinSource

/-- A step of a session, on any driver. -/
inductive Step where
  | export (line : UInt32)
  | write (slot : Nat) (level : Bool)
  | release (slot : Nat)
  | info (slot : Nat)
  | discard (slot : Nat)
  | init (config : PinConfig) (options : DisplayOptions) (timer : Timer)
  | connect (source : PinSource) (options : DisplayOptions) (timer : Timer)
  | display (slot : Nat) (step : DisplayStep)
  | sendNibble (slot : Nat) (target : UInt8) (register : Register) (nibble : UInt8)
  | writeLine (slot : Nat) (signal : Signal) (level : Bool)
  | status (slot : Nat)
  | disconnect (slot : Nat)
deriving DecidableEq, Repr

/-- The state of a connection, as far as its user can see it. An open connection holds its lines, so
all of them can be written.
-/
def Connection.status {ω : Type} (connection : Connection ω) : Status where
  stage := connection.stage
  controllers := connection.controllers
  supportsBacklight := connection.supportsBacklight
  dataLines := connection.lines.map fun lines => lines.data.map Line.number
  lines := Signal.all.map fun signal =>
    (connection.lines.bind (·.get? signal)).map Line.number
  exported := Signal.all.map fun signal =>
    (connection.lines.bind (·.get? signal)).map fun _ => true

/-- The outputs and connections of a session. One that was given up leaves an empty place. -/
structure Session (ω : Type) where
  outputs : List (Option (Output ω)) := []
  connections : List (Option (Connection ω)) := []
deriving DecidableEq, Repr

namespace Session

/-- What is in a place, if anything was put there and not given up. -/
def occupant {α : Type} (places : List (Option α)) (slot : Nat) : Option α :=
  places[slot]?.join

variable {m : Type → Type} {ω : Type} [Monad m] [Journal m] [Clock m] [LineDriver m ω]

/-- Gives a new connection its number, if there is one. -/
def enroll (session : Session ω) (result : Except ConnectionError (Connection ω))
    : Reply × Session ω :=
  match result with
  | .error error => (.rejected error, session)
  | .ok connection =>
      (.connection session.connections.length,
        { session with connections := session.connections ++ [some connection] })

/-- Carries out something on an output that is there. -/
def onOutput (session : Session ω) (slot : Nat)
    (action : Output ω → m (Reply × Session ω))
    : m (Reply × Session ω) :=
  match occupant session.outputs slot with
  | some output => action output
  | none => return (.absent, session)

/-- Carries out something on a connection that is there. -/
def onConnection (session : Session ω) (slot : Nat)
    (action : Connection ω → m (Reply × Session ω))
    : m (Reply × Session ω) :=
  match occupant session.connections slot with
  | some connection => action connection
  | none => return (.absent, session)

/-- Acquires a line for a new output. -/
def exportLine (session : Session ω) (line : UInt32) : m (Reply × Session ω) := do
  match ← Output.acquire line with
  | .error error => return (.refused error, session)
  | .ok output =>
      return (.output session.outputs.length,
        { session with outputs := session.outputs ++ [some output] })

/-- Gives up an output. Answers whether it was still there. -/
def discardOutput (session : Session ω) (slot : Nat) : m (Reply × Session ω) :=
  match session.outputs[slot]? with
  | none => return (.absent, session)
  | some none => return (.flag false, session)
  | some (some output) => do
      output.discard
      return (.flag true, { session with outputs := session.outputs.set slot none })

/-- Gives up a connection. Answers whether it was still there. -/
def disconnect (session : Session ω) (slot : Nat) : m (Reply × Session ω) :=
  match session.connections[slot]? with
  | none => return (.absent, session)
  | some none => return (.flag false, session)
  | some (some connection) => do
      connection.discard
      return (.flag true, { session with connections := session.connections.set slot none })

/-- Releases an output, which stays where it is. -/
def releaseOutput (session : Session ω) (slot : Nat) (output : Output ω)
    : m (Reply × Session ω) := do
  let result ← output.release
  return (.ofResult result,
    { session with outputs := session.outputs.set slot (some output.released) })

/-- Carries out a display step on a connection. -/
def displayStep (session : Session ω) (slot : Nat) (step : DisplayStep)
    (connection : Connection ω)
    : m (Reply × Session ω) := do
  let (reply, connection) ← (step.run : StateT (Connection ω) m Reply).run connection
  return (reply,
    { session with connections := session.connections.set slot (some connection) })

/-- Sends a nibble, unless the number of the target is not one of a target. -/
def sendNibble (target : UInt8) (register : Register) (nibble : UInt8)
    (connection : Connection ω)
    : m Reply :=
  match Target.ofId target with
  | .error error => return .refused error
  | .ok target => return .ofResult (← connection.sendNibble target register nibble)

/-- Sets the level of the line of one signal. -/
def writeLine (signal : Signal) (level : Bool) (connection : Connection ω) : m Reply :=
  match connection.writeLine? signal level with
  | none => return .noLine
  | some write => return .ofResult (← write)

/-- Carries out a step, in an environment. -/
def step (env : Environment) (session : Session ω) : Step → m (Reply × Session ω)
  | .export line => session.exportLine line
  | .write slot level =>
      session.onOutput slot fun output => return (.ofResult (← output.write level), session)
  | .release slot => session.onOutput slot fun output => session.releaseOutput slot output
  | .info slot =>
      session.onOutput slot fun output => do
        let description ← LineDriver.describe output.number
        return (.outputInfo output.number output.handle.isSome description, session)
  | .discard slot => session.discardOutput slot
  | .init config options timer =>
      return session.enroll (← Connection.init config options timer)
  | .connect source options timer =>
      return session.enroll
        (← Connection.ofSource (source.source env) (source.options options) timer)
  | .display slot step => session.onConnection slot (session.displayStep slot step)
  | .sendNibble slot target register nibble =>
      session.onConnection slot fun connection =>
        return (← sendNibble target register nibble connection, session)
  | .writeLine slot signal level =>
      session.onConnection slot fun connection =>
        return (← writeLine signal level connection, session)
  | .status slot =>
      session.onConnection slot fun connection => return (.status connection.status, session)
  | .disconnect slot => session.disconnect slot

/-- Gives up what is left: the connections in the order of their numbers, then the outputs. -/
def finish (session : Session ω) : m Unit := do
  session.connections.forM fun place => place.forM Connection.discard
  session.outputs.forM fun place => place.forM Output.discard

end Session

end CharLcd

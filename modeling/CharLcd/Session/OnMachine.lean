import CharLcd.Session.Basic
import CharLcd.Sysfs.Machine

/-! Sessions on a machine with GPIO files. -/

namespace CharLcd.Sysfs.Machine

/-- A step of a session on a machine. Beside the steps that every driver offers, files can be
changed from outside, and file calls can be made to fail.
-/
inductive Action where
  | step (step : Step)
  | describe
  | setFile (path : Path) (content : Bytes)
  | makeDirectory (path : Path)
  | remove (path : Path)
  | fault (fault : Fault)
  | clearFaults
deriving DecidableEq, Repr

/-- What a step answered, and what was different after it. -/
structure Report where
  reply : Reply
  used : List UInt32
  changes : List (String × Change)
  calls : List Call
  notes : List Note
deriving DecidableEq, Repr

/-- Changes the files of a machine from outside. The change gets the directory of all lines. -/
def changeTree (change : Path → FileTree → FileTree) : StateM Machine Unit :=
  modify fun machine => { machine with tree := change machine.directory machine.tree }

/-- Carries out a step of a session. -/
def act (env : Environment) (session : Session Nat)
    : Action → StateM Machine (Reply × Session Nat)
  | .step step => session.step env step
  | .describe => do
      let base := (← get).base
      return (.driverInfo (describeDriver base) base, session)
  | .setFile path content => do
      changeTree fun directory tree => tree.putFile (directory ++ path) content
      return (.done, session)
  | .makeDirectory path => do
      changeTree fun directory tree => tree.makeDirectory (directory ++ path)
      return (.done, session)
  | .remove path => do
      changeTree fun directory tree => tree.remove (directory ++ path)
      return (.done, session)
  | .fault fault => do
      modify fun machine => { machine with faults := machine.faults ++ [fault] }
      return (.done, session)
  | .clearFaults => do
      modify fun machine => { machine with faults := [] }
      return (.done, session)

/-- The files below the directory of all lines. -/
def listing (machine : Machine) : List (String × Option Bytes) :=
  machine.tree.listing machine.directory

/-- What a step answered, with what changed between two states of the machine. -/
def report (reply : Reply) (before after : Machine) : Report where
  reply
  used := after.used
  changes := CharLcd.changes before.listing after.listing
  calls := after.calls.toList.drop before.calls.size
  notes := after.notes.toList.drop before.notes.size

/-- Carries out a session from a given state on, and gives up what is left at its end. -/
def runFrom (env : Environment) (session : Session Nat) (machine : Machine)
    : List Action → List Report
  | [] => [report .ended machine ((session.finish : StateM Machine Unit).run machine).2]
  | action :: rest =>
      let ((reply, session), next) := (act env session action).run machine
      report reply machine next :: runFrom env session next rest

/-- Carries out a session on a machine in a given state. -/
def run (env : Environment) (machine : Machine) (actions : List Action) : List Report :=
  runFrom env {} machine actions

/-- A machine before a session: the files of a fixture, without those removed, and with those put in
their place. Without a fixture there are no files at all, and no directory of all lines either.
-/
def prepare (base : String) (withFixture : Bool) (lines : List UInt32) (removed : List Path)
    (files : List (Path × Option Bytes))
    : Machine :=
  let directory := FileTree.names base
  let put (tree : FileTree) (file : Path × Option Bytes) : FileTree :=
    tree.put (directory ++ file.1) file.2
  let strip (tree : FileTree) (path : Path) : FileTree := tree.remove (directory ++ path)
  let tree :=
    if withFixture then files.foldl put (removed.foldl strip (fixture directory lines))
    else .system
  { base, directory, tree }

end CharLcd.Sysfs.Machine

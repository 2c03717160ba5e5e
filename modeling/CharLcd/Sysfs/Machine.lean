import CharLcd.Sysfs.Driver

/-! A machine whose GPIO files are kept in memory.

It is what the file driver runs on when no hardware is there. Every file call and every delay is
recorded, and single calls can be made to fail. A call that is made to fail has no effect at all.
-/

namespace CharLcd.Sysfs

/-- The file calls that can be made to fail. -/
inductive CallKind where
  | opening
  | writing
  | seeking
deriving DecidableEq, Repr

/-- An order to fail some calls on a file. -/
structure Fault where
  /-- The path of the file, below the directory of all lines. -/
  file : String
  call : CallKind
  errno : Errno
  /-- How many calls go through before the first one fails. -/
  skip : Nat := 0
  /-- How many calls fail, if not all of them. -/
  times : Option Nat := none
deriving DecidableEq, Repr

/-- Looks at the first fault that concerns a call and is not used up. Gives the failure of the call,
if it fails, and the faults as they are afterwards.
-/
def checkFaults (file : String) (call : CallKind) : List Fault → Option Errno × List Fault
  | [] => (none, [])
  | fault :: rest =>
      if fault.file = file ∧ fault.call = call ∧ fault.times ≠ some 0 then
        if 0 < fault.skip then (none, { fault with skip := fault.skip - 1 } :: rest)
        else (some fault.errno, { fault with times := fault.times.map (· - 1) } :: rest)
      else
        let (failure, rest) := checkFaults file call rest
        (failure, fault :: rest)

/-- A record of a file call, with its failure if it failed, or of a delay. -/
inductive Call where
  | opened (file : ControlFile) (truncate : Bool) (failure : Option Errno)
  | wrote (file : ControlFile) (text : String) (failure : Option Errno)
  | sought (file : ControlFile) (offset : Nat) (failure : Option Errno)
  | closed (file : ControlFile)
  | delayed (time : UInt32)
deriving DecidableEq, Repr

/-- A file that is open for writing. -/
structure OpenFile where
  file : ControlFile
  /-- The number of the file in the tree. -/
  number : Nat
  /-- Where the next write goes. -/
  offset : Nat := 0
deriving DecidableEq, Repr

/-- The state of a machine. -/
structure Machine where
  /-- The directory of all lines, as it is shown in paths. -/
  base : String
  /-- The lines that are handed out, in ascending order. -/
  used : List UInt32 := []
  tree : FileTree := .system
  /-- Where the directory of all lines is in the tree. -/
  directory : Path := []
  /-- The open files, by handle. -/
  handles : List (Nat × OpenFile) := []
  /-- The handle that the next opened file gets. -/
  nextHandle : Nat := 0
  faults : List Fault := []
  /-- What was called, in order. -/
  calls : Array Call := #[]
  /-- What was reported. -/
  notes : Array Note := #[]
deriving DecidableEq, Repr

namespace Machine

/-- Where the system exposes its GPIO lines. -/
def systemBase : String :=
  "/sys/class/gpio"

/-- Adds a call to the record. -/
def record (machine : Machine) (call : Call) : Machine :=
  { machine with calls := machine.calls.push call }

/-- Decides whether a call fails by order. -/
def check (machine : Machine) (file : ControlFile) (call : CallKind)
    : Option Errno × Machine :=
  let (failure, faults) := checkFaults file.name call machine.faults
  (failure, { machine with faults })

/-- Hands out a handle for a file of the tree. -/
def addHandle (machine : Machine) (file : ControlFile) (number : Nat) : Nat × Machine :=
  (machine.nextHandle,
    { machine with
      handles := (machine.nextHandle, { file, number }) :: machine.handles
      nextHandle := machine.nextHandle + 1 })

/-- The number of a file of the machine, if there is one where the path leads to. -/
def locate (machine : Machine) (file : ControlFile) : Except Errno Nat :=
  if FileTree.pathLimit ≤ (file.fullPath machine.base).utf8ByteSize then .error .enametoolong
  else machine.tree.findFile (machine.directory ++ file.path)

/-- Opens a file for writing, as the system does it. -/
def openLocated (file : ControlFile) (truncate : Bool) (machine : Machine)
    : Except Errno Nat × Machine :=
  match machine.check file .opening with
  | (some errno, machine) =>
      (.error errno, machine.record (.opened file truncate (some errno)))
  | (none, machine) =>
      match machine.locate file with
      | .error errno => (.error errno, machine.record (.opened file truncate (some errno)))
      | .ok number =>
          let tree := if truncate then machine.tree.setContent number [] else machine.tree
          let (handle, machine) := { machine with tree }.addHandle file number
          (.ok handle, machine.record (.opened file truncate none))

/-- Opens a file for writing. A path with a zero character cannot be given to the system, so it is
refused without a call.
-/
def openFile (file : ControlFile) (truncate : Bool) (machine : Machine)
    : Except Errno Nat × Machine :=
  if machine.base.toList.contains '\x00' then (.error .einval, machine)
  else machine.openLocated file truncate

/-- The open file behind a handle. -/
def openFile? (machine : Machine) (handle : Nat) : Option OpenFile :=
  List.lookup handle machine.handles

/-- Moves the position of an open file. -/
def setOffset (machine : Machine) (handle offset : Nat) : Machine :=
  { machine with
    handles := machine.handles.map fun entry =>
      if entry.1 = handle then (entry.1, { entry.2 with offset }) else entry }

/-- Writes a text at the position of an open file. -/
def writeFile (handle : Nat) (text : String) (machine : Machine) : Except Errno Unit × Machine :=
  match machine.openFile? handle with
  | none => (.error .einval, machine)
  | some opened =>
      match machine.check opened.file .writing with
      | (some errno, machine) =>
          (.error errno, machine.record (.wrote opened.file text (some errno)))
      | (none, machine) =>
          let bytes := Text.encode text
          let old := machine.tree.content opened.number
          let tree :=
            machine.tree.setContent opened.number (FileTree.overwrite old opened.offset bytes)
          let machine := { machine with tree }.setOffset handle (opened.offset + bytes.length)
          (.ok (), machine.record (.wrote opened.file text none))

/-- Moves the position of an open file to its beginning. -/
def rewind (handle : Nat) (machine : Machine) : Except Errno Unit × Machine :=
  match machine.openFile? handle with
  | none => (.error .einval, machine)
  | some opened =>
      match machine.check opened.file .seeking with
      | (some errno, machine) =>
          (.error errno, machine.record (.sought opened.file 0 (some errno)))
      | (none, machine) =>
          (.ok (), (machine.setOffset handle 0).record (.sought opened.file 0 none))

/-- Closes an open file. -/
def closeFile (handle : Nat) (machine : Machine) : Machine :=
  match machine.openFile? handle with
  | none => machine
  | some opened =>
      { machine with
        handles := machine.handles.filter fun entry => entry.1 ≠ handle }.record
          (.closed opened.file)

/-- Lets time pass. -/
def wait (timer : Timer) (time : UInt32) (machine : Machine) : Machine :=
  match timer with
  | .recorded => machine.record (.delayed time)
  | .unrecorded => machine

instance : Journal (StateM Machine) where
  note entry := modify fun machine => { machine with notes := machine.notes.push entry }

instance : Clock (StateM Machine) where
  wait timer time := modify (wait timer time)

instance : Host (StateM Machine) Nat where
  base := return (← get).base
  used := return (← get).used
  setUsed used := modify fun machine => { machine with used }
  openFile file truncate := openFile file truncate
  writeFile handle text := writeFile handle text
  rewind handle := rewind handle
  closeFile handle := modify (closeFile handle)

/-- The files of a freshly started machine on which the given lines were exported, with the
directory of all lines at the given path.
-/
def fixture (directory : Path) (lines : List UInt32) : FileTree :=
  let put (tree : FileTree) (file : ControlFile) (content : String) : FileTree :=
    tree.putFile (directory ++ file.path) (Text.encode content)
  let empty := put (put .system .exportFile "") .unexportFile ""
  lines.foldl (fun tree line => put (put tree (.direction line) "in") (.value line) "0") empty

end Machine

end CharLcd.Sysfs

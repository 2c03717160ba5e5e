import CharLcd.Proofs.Setup.Calls
import CharLcd.Proofs.Sysfs.Files
import CharLcd.Proofs.Sysfs.Programs

/-! What the driver changes on a machine is on the record.

The driver gives no file another name. If the content of a file is another one afterwards, then there
was a call on a control file for which this file stood before: it was found under the name of the
control file, or it was open as the control file.
-/

namespace CharLcd.Sysfs

variable {α β : Type}

/-- The control file that a call is on, if it is a file call. -/
def Call.file? : Call → Option ControlFile
  | .opened file _ _ | .wrote file _ _ | .sought file _ _ | .closed file => some file
  | .delayed _ => none

namespace Machine

/-- A file of the tree stands for a control file: it is found under its name, or open as it. -/
def Stands (machine : Machine) (number : Nat) (file : ControlFile) : Prop :=
  machine.tree.findFile (machine.directory ++ file.path) = .ok number
  ∨ ∃ handle opened,
      machine.openFile? handle = some opened ∧ opened.number = number ∧ opened.file = file

theorem Stands.of_locate {machine : Machine} {number : Nat} {file : ControlFile}
    (found : machine.locate file = .ok number)
    : machine.Stands number file := by
  unfold locate at found
  split at found
  · cases found
  · exact Or.inl found

/-- A machine has gone on by calls that are on its record: names are the same, files that are open now
stood for their control files before, and files with another content stood for one that was called.
-/
structure Recorded (before after : Machine) : Prop where
  directory : after.directory = before.directory
  names : after.tree.entries = before.tree.entries
  size : after.tree.contents.length = before.tree.contents.length
  handles : ∀ handle opened, after.openFile? handle = some opened →
    before.Stands opened.number opened.file
  record : ∃ log,
    after.calls.toList = before.calls.toList ++ log
    ∧ ∀ number, after.tree.content number ≠ before.tree.content number →
      ∃ call ∈ log, ∃ file, call.file? = some file ∧ before.Stands number file

namespace Recorded

variable {before middle after : Machine}

/-- What stands for a control file later has done so before. -/
theorem stands (recorded : Recorded before after) {number : Nat} {file : ControlFile}
    (later : after.Stands number file)
    : before.Stands number file := by
  rcases later with found | ⟨handle, opened, present, rfl, rfl⟩
  · rw [recorded.directory, FileTree.findFile_congr recorded.names] at found
    exact Or.inl found
  · exact recorded.handles handle opened present

/-- Whatever was called, no file has another content. -/
theorem kept (directory : after.directory = before.directory) (tree : after.tree = before.tree)
    (handles
      : ∀ handle opened,
          after.openFile? handle = some opened → before.Stands opened.number opened.file)
    {log : List Call} (calls : after.calls.toList = before.calls.toList ++ log)
    : Recorded before after where
  directory := directory
  names := congrArg _ tree
  size := congrArg (·.contents.length) tree
  handles := handles
  record :=
    ⟨log, calls, fun number different => absurd (congrArg (·.content number) tree) different⟩

/-- Files that are open, and have been so before, stand for their control files. -/
theorem opened (handles : after.handles = before.handles) (handle : Nat) (opened : OpenFile)
    (present : after.openFile? handle = some opened)
    : before.Stands opened.number opened.file := by
  rw [openFile?, handles] at present
  exact Or.inr ⟨handle, opened, present, rfl, rfl⟩

/-- Files that are open, and have been so before, stand for their control files also when a position
is moved.
-/
theorem moved (before : Machine) {machine : Machine} (handles : machine.handles = before.handles)
    (target offset handle : Nat) (opened : OpenFile)
    (present : (machine.setOffset target offset).openFile? handle = some opened)
    : before.Stands opened.number opened.file := by
  rw [openFile?_setOffset, openFile?, handles] at present
  obtain ⟨old, found, same⟩ := Option.map_eq_some_iff.mp present
  refine Or.inr ⟨handle, old, found, ?_⟩
  split at same <;> cases same <;> exact ⟨rfl, rfl⟩

/-- Nothing was called. -/
theorem quiet (directory : after.directory = before.directory) (tree : after.tree = before.tree)
    (handles : after.handles = before.handles) (calls : after.calls = before.calls)
    : Recorded before after :=
  kept directory tree (opened handles)
    ((congrArg Array.toList calls).trans (List.append_nil _).symm)

theorem refl (machine : Machine) : Recorded machine machine :=
  quiet rfl rfl rfl rfl

theorem trans (first : Recorded before middle) (second : Recorded middle after)
    : Recorded before after where
  directory := second.directory.trans first.directory
  names := second.names.trans first.names
  size := second.size.trans first.size
  handles handle opened present := first.stands (second.handles handle opened present)
  record := by
    obtain ⟨log, calls, changes⟩ := first.record
    obtain ⟨rest, later, others⟩ := second.record
    refine ⟨log ++ rest, ?_, fun number different => ?_⟩
    · rw [later, calls, List.append_assoc]
    · by_cases kept : middle.tree.content number = before.tree.content number
      · rw [← kept] at different
        obtain ⟨call, member, file, called, stood⟩ := others number different
        exact ⟨call, List.mem_append_right _ member, file, called, first.stands stood⟩
      · obtain ⟨call, member, made⟩ := changes number kept
        exact ⟨call, List.mem_append_left _ member, made⟩

/-- A call has changed the content of a file that stood for its control file. -/
theorem changed {file : ControlFile} {number : Nat} {bytes : Bytes} {call : Call}
    (stood : before.Stands number file) (about : call.file? = some file)
    (directory : after.directory = before.directory)
    (tree : after.tree = before.tree.setContent number bytes)
    (handles
      : ∀ handle opened,
          after.openFile? handle = some opened → before.Stands opened.number opened.file)
    (calls : after.calls = before.calls.push call)
    : Recorded before after where
  directory := directory
  names := congrArg (·.entries) tree
  size := by rw [tree, FileTree.setContent, List.length_set]
  handles := handles
  record := by
    refine ⟨[call], ?_, fun other different => ⟨call, List.mem_singleton_self _, file, about, ?_⟩⟩
    · rw [calls, Array.toList_push]
    · by_cases here : number = other
      · exact here ▸ stood
      · refine absurd ?_ different
        simp [tree, FileTree.content, FileTree.setContent, List.getD, here]

end Recorded

end Machine

open Machine

/-- Whatever a program changes on a machine is on the record. -/
def Accountable (x : StateM Machine α) : Prop :=
  ∀ before, Recorded before (x.run before).2

namespace Accountable

/-- A file that is opened was found under its name. -/
theorem openFile (file : ControlFile) (truncate : Bool)
    : Accountable (Host.openFile file truncate : StateM Machine (Except Errno Nat)) := by
  intro before
  show Machine.Recorded before (Machine.openFile file truncate before).2
  unfold Machine.openFile
  split
  · exact .refl before
  unfold openLocated check
  rcases checkFaults file.name .opening before.faults with ⟨_ | errno, faults⟩
  · simp only
    have located
        : Machine.locate { before with faults } file = before.locate file :=
      rfl
    rw [located]
    cases found : before.locate file with
    | error errno => exact .kept rfl rfl (Machine.Recorded.opened rfl) Array.toList_push
    | ok number =>
        have stood : before.Stands number file := .of_locate found
        have handles (tree : FileTree) (handle : Nat) (opened : OpenFile)
            (present
              : (Machine.addHandle { before with faults, tree } file number).2.openFile? handle
                = some opened)
            : before.Stands opened.number opened.file := by
          simp only [openFile?, addHandle, lookup_cons_eq] at present
          split at present
          · cases present
            exact stood
          · exact Or.inr ⟨handle, opened, present, rfl, rfl⟩
        cases truncate with
        | false => exact .kept rfl rfl (handles _) Array.toList_push
        | true => exact .changed stood rfl rfl rfl (handles _) rfl
  · exact .kept rfl rfl (Machine.Recorded.opened rfl) Array.toList_push

theorem writeFile (handle : Nat) (text : String)
    : Accountable (Host.writeFile handle text : StateM Machine (Except Errno Unit)) := by
  intro before
  show Machine.Recorded before (Machine.writeFile handle text before).2
  unfold Machine.writeFile check
  cases present : before.openFile? handle with
  | none => exact .refl before
  | some opened =>
      have stood : before.Stands opened.number opened.file :=
        Or.inr ⟨handle, opened, present, rfl, rfl⟩
      simp only
      rcases checkFaults opened.file.name .writing before.faults with ⟨_ | errno, faults⟩
      · exact .changed stood rfl rfl rfl (Machine.Recorded.moved before rfl handle _) rfl
      · exact .kept rfl rfl (Machine.Recorded.opened rfl) Array.toList_push

theorem rewind (handle : Nat)
    : Accountable (Host.rewind handle : StateM Machine (Except Errno Unit)) := by
  intro before
  show Machine.Recorded before (Machine.rewind handle before).2
  unfold Machine.rewind check
  cases present : before.openFile? handle with
  | none => exact .refl before
  | some opened =>
      simp only
      rcases checkFaults opened.file.name .seeking before.faults with ⟨_ | errno, faults⟩
      · exact .kept rfl rfl (Machine.Recorded.moved before rfl handle _) Array.toList_push
      · exact .kept rfl rfl (Machine.Recorded.opened rfl) Array.toList_push

theorem closeFile (handle : Nat) : Accountable (Host.closeFile handle : StateM Machine Unit) := by
  intro before
  show Machine.Recorded before (Machine.closeFile handle before)
  unfold Machine.closeFile
  cases present : before.openFile? handle with
  | none => exact .refl before
  | some found =>
      refine .kept rfl rfl (fun other opened open' => ?_) Array.toList_push
      simp only [openFile?, record, lookup_filter] at open'
      split at open'
      · cases open'
      · exact Or.inr ⟨other, opened, open', rfl, rfl⟩

end Accountable

/-- Whatever the file driver changes is on the record. -/
theorem accountable : Pervades Accountable where
  pure _ := .refl
  bind first next before := (first before).trans (next _ _)
  noted _ _ := .quiet rfl rfl rfl rfl
  base := .refl
  used := .refl
  setUsed _ _ := .quiet rfl rfl rfl rfl
  openFile := .openFile
  writeFile := .writeFile
  rewind := .rewind
  closeFile := .closeFile

/-- What a machine goes through during calls to the driver it goes through call by call. By induction on
the calls.
-/
theorem Pervades.of_performs {R : Machine → Machine → Prop}
    (pervades : Pervades fun x => ∀ before, R before (x.run before).2)
    (trans : ∀ {before middle after}, R before middle → R middle after → R before after)
    (waited : ∀ timer time before, R before (Machine.wait timer time before))
    (noted : ∀ entry before, R before ((note entry : StateM Machine Unit).run before).2)
    {calls : List (LineCall Nat)} {before after : Machine} (performs : Performs before calls after)
    : R before after := by
  induction calls generalizing before with
  | nil =>
      cases performs
      exact pervades.pure () _
  | cons call rest ih =>
      obtain ⟨middle, happens, rests⟩ := performs
      refine trans ?_ (ih rests)
      cases call with
      | acquired number answer =>
          have step := pervades.acquire number before
          rwa [show (Sysfs.acquire number : StateM Machine _).run before = (answer, middle)
            from happens] at step
      | wrote line level answer =>
          have step := pervades.write line level before
          rwa [show (Sysfs.write line level : StateM Machine _).run before = (answer, middle)
            from happens] at step
      | released line answer =>
          have step := pervades.release line before
          rwa [show (Sysfs.release line : StateM Machine _).run before = (answer, middle)
            from happens] at step
      | waited timer time =>
          cases happens
          exact waited timer time before
      | noted entry =>
          cases happens
          exact noted entry before

/-- Whatever calls to the driver change is on the record. -/
theorem recorded_of_performs {calls : List (LineCall Nat)} {before after : Machine}
    (performs : Performs before calls after)
    : Recorded before after := by
  refine accountable.of_performs Recorded.trans (fun timer time before => ?_) (fun entry before => ?_)
    performs
  · cases timer with
    | recorded => exact .kept rfl rfl (Machine.Recorded.opened rfl) Array.toList_push
    | unrecorded => exact .refl before
  · exact .quiet rfl rfl rfl rfl

end CharLcd.Sysfs

import CharLcd.Proofs.Os.Names
import CharLcd.Proofs.Sysfs.Fixture
import CharLcd.Proofs.Sysfs.Ownership
import CharLcd.Proofs.Sysfs.Recording
import CharLcd.Proofs.Ownership.Deeds

/-! A file of a machine never stands for two control files.

Different control files are in different places, and a file has one place. An open file may have lost
its place, but it never gets another one. So what is written as one control file is not read as another
one, whatever is done to the files from outside.
-/

namespace CharLcd.Sysfs

open Machine

namespace Machine

/-- The place of a control file. -/
def placeOf (machine : Machine) (file : ControlFile) : Path :=
  FileTree.resolve (machine.directory ++ file.path)

/-- Different control files have different places. -/
theorem placeOf_inj {machine : Machine} {file other : ControlFile}
    (same : machine.placeOf file = machine.placeOf other)
    : file = other := by
  have down (file : ControlFile) : ".." ∉ file.path :=
    fun member => (ControlFile.proper_of_mem_path member).2 rfl
  have behind (file : ControlFile)
      : machine.placeOf file = FileTree.resolve machine.directory ++ file.path := by
    rw [placeOf, FileTree.resolve, List.foldl_append, FileTree.foldl_follow (down file)]
    rfl
  rw [behind, behind] at same
  exact ControlFile.eq_of_prefix (List.append_cancel_left same ▸ List.prefix_refl _)

end Machine

/-- No file has two names, and a file that is open as a control file has no name but that one. -/
structure Tidy (machine : Machine) : Prop where
  named : machine.tree.SinglyNamed
  moves : ∀ name ∈ machine.directory, FileTree.staysInPlace name = false
  present : ∀ handle opened, machine.openFile? handle = some opened →
    opened.number < machine.tree.contents.length
  placed : ∀ handle opened, machine.openFile? handle = some opened →
    ∀ entry ∈ machine.tree.entries, entry.2.number? = some opened.number →
      entry.1 = Place.ofPath (machine.placeOf opened.file)
  single : ∀ handle opened other again, machine.openFile? handle = some opened →
    machine.openFile? other = some again → opened.number = again.number →
      opened.file = again.file

namespace Tidy

variable {machine before after : Machine} {number : Nat} {file other : ControlFile}

/-- A control file that is found is in its place. -/
theorem entry?_of_findFile (tidy : Tidy machine)
    (found : machine.tree.findFile (machine.directory ++ file.path) = .ok number)
    : machine.tree.entry? (machine.placeOf file) = some (.file number) := by
  refine FileTree.entry?_of_findFile (fun name member => ?_) found
  rcases List.mem_append.mp member with outer | inner
  · exact tidy.moves name outer
  · exact (ControlFile.proper_of_mem_path inner).1

/-- What stands for a control file is a file of the tree. -/
theorem lt_of_stands (tidy : Tidy machine) (stands : machine.Stands number file)
    : number < machine.tree.contents.length := by
  rcases stands with found | ⟨handle, opened, present, rfl, rfl⟩
  · exact tidy.named.present _ (FileTree.mem_entries_of_entry? (tidy.entry?_of_findFile found))
      number rfl
  · exact tidy.present handle opened present

/-- What stands for a control file has no name but that of the control file. -/
theorem place_of_stands (tidy : Tidy machine) (stands : machine.Stands number file)
    {entry : Place × Entry} (member : entry ∈ machine.tree.entries)
    (names : entry.2.number? = some number)
    : entry.1 = Place.ofPath (machine.placeOf file) := by
  rcases stands with found | ⟨handle, opened, present, rfl, rfl⟩
  · by_contra different
    have inside := FileTree.mem_entries_of_entry? (tidy.entry?_of_findFile found)
    have apart := tidy.named.distinct.forall member inside fun same =>
      different (congrArg Prod.fst same)
    exact apart number names rfl
  · exact tidy.placed handle opened present entry member names

/-- A file stands for one control file only. -/
theorem eq_of_stands (tidy : Tidy machine) (stands : machine.Stands number file)
    (again : machine.Stands number other)
    : file = other := by
  have of_found {file other : ControlFile}
      (found : machine.tree.findFile (machine.directory ++ file.path) = .ok number)
      (again : machine.Stands number other)
      : file = other := by
    have inside := FileTree.mem_entries_of_entry? (tidy.entry?_of_findFile found)
    exact placeOf_inj (Place.ofPath_inj.mp (tidy.place_of_stands again inside rfl))
  rcases stands with found | ⟨handle, opened, present, rfl, rfl⟩
  · exact of_found found again
  · rcases again with found | ⟨second, reopened, there, same, rfl⟩
    · exact (of_found found (Or.inr ⟨handle, opened, present, rfl, rfl⟩)).symm
    · exact tidy.single handle opened second reopened present there same.symm

/-- A machine that has gone on by recorded calls is still tidy. -/
theorem recorded (tidy : Tidy before) (recorded : Recorded before after) : Tidy after where
  named := by
    refine ⟨recorded.names ▸ tidy.named.distinct, ?_⟩
    rw [recorded.names, recorded.size]
    exact tidy.named.present
  moves := recorded.directory ▸ tidy.moves
  present handle opened present := by
    rw [recorded.size]
    exact tidy.lt_of_stands (recorded.handles handle opened present)
  placed handle opened present entry member names := by
    rw [recorded.names] at member
    rw [placeOf, recorded.directory]
    exact tidy.place_of_stands (recorded.handles handle opened present) member names
  single handle opened other again present there same :=
    tidy.eq_of_stands (recorded.handles handle opened present)
      (same ▸ recorded.handles other again there)

/-- A machine whose tree is changed from outside, by what gives no file a second name, is still tidy.
-/
theorem outside (tidy : Tidy machine) {tree : FileTree}
    (descends : FileTree.Descends machine.tree tree) (faults : List Fault)
    : Tidy { machine with tree, faults } where
  named := descends.named tidy.named
  moves := tidy.moves
  present handle opened present :=
    Nat.lt_of_lt_of_le (tidy.present handle opened present) descends.more
  placed handle opened present entry member names := by
    rcases descends.known entry member _ names with old | new
    · exact tidy.placed handle opened present entry old names
    · exact absurd (tidy.present handle opened present) (Nat.not_lt.mpr new)
  single := tidy.single

end Tidy

-----------------------------------------------------------------------------------------
-- Sessions
-----------------------------------------------------------------------------------------

/-- Describing an output has no effect. -/
theorem describe_still (number : UInt32) (machine : Machine)
    : ((LineDriver.describe number : StateM Machine String).run machine).2 = machine :=
  rfl

/-- The machine after a step of a session. -/
def afterStep (env : Environment) (session : Session Nat) (machine : Machine) (step : Step)
    : Machine :=
  (perform env (session, machine) (.step step)).2.2

/-- Whatever a step changes on a machine is on the record. -/
theorem recorded_step (env : Environment) (session : Session Nat) (machine : Machine) (step : Step)
    : Recorded machine (afterStep env session machine step) :=
  recorded_of_performs (session.done env step machine describe_still).performs

/-- Every action of a session keeps the machine tidy, also those from outside. -/
theorem tidy_perform (env : Environment) {state : Session Nat × Machine} (tidy : Tidy state.2)
    (action : Action)
    : Tidy (perform env state action).2.2 := by
  obtain ⟨session, machine⟩ := state
  cases action with
  | step step => exact tidy.recorded (recorded_step env session machine step)
  | describe => exact tidy
  | setFile path content => exact tidy.outside (.putFile _ _ _) machine.faults
  | makeDirectory path => exact tidy.outside (.makeFrom _ _ _) machine.faults
  | remove path => exact tidy.outside (.remove _ _) machine.faults
  | fault fault => exact tidy.outside (.refl _) _
  | clearFaults => exact tidy.outside (.refl _) _

/-- A machine stays tidy whatever is done. -/
theorem tidy_reach (env : Environment) {state : Session Nat × Machine} (tidy : Tidy state.2)
    (actions : List Action)
    : Tidy (reach env state actions).2 :=
  Acting.reach_keeps (fun state => Tidy state.2)
    (fun _ action tidy => tidy_perform env tidy action) tidy actions

/-- A machine is tidy before a session, whatever files are put there or removed. -/
theorem tidy_prepare (base : String) (withFixture : Bool) (lines : List UInt32)
    (removed : List Path) (files : List (Path × Option Bytes)) (faults : List Fault)
    : Tidy { prepare base withFixture lines removed files with faults } where
  named := by
    have laid : FileTree.Descends .system (fixture (FileTree.names base) lines) := by
      rw [fixture_eq_foldl]
      exact .foldl (fun _ _ => .putFile _ _ _) _ _
    cases withFixture with
    | false => exact FileTree.singlyNamed_system
    | true =>
        have filled : FileTree.Descends .system (prepare base true lines removed files).tree :=
          laid.trans ((FileTree.Descends.foldl (fun _ _ => .remove _ _) _ removed).trans
            (.foldl (fun _ _ => .put _ _ _) _ files))
        exact filled.named FileTree.singlyNamed_system
  moves name member := by simpa using (List.mem_filter.mp member).2
  present _ _ present := nomatch present
  placed _ _ present := nomatch present
  single _ _ _ _ present := nomatch present

end CharLcd.Sysfs

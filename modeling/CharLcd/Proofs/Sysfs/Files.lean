import CharLcd.Proofs.Os.Trees
import CharLcd.Sysfs.Machine

/-! What file calls do to a machine, whether or not they fail.

The account of the lines that are handed out is none of their business, and a call on one handle
leaves the files behind all others open.
-/

namespace CharLcd.Sysfs.Machine

-----------------------------------------------------------------------------------------
-- Handles
-----------------------------------------------------------------------------------------

/-- The file that was opened under a handle, while it is open. -/
def fileOf (machine : Machine) (handle : Nat) : Option ControlFile :=
  (machine.openFile? handle).map OpenFile.file

/-- A lookup compares with the first key. -/
theorem lookup_cons_eq {α : Type} (found : Nat) (value : α) (rest : List (Nat × α)) (key : Nat)
    : List.lookup key ((found, value) :: rest)
      = if key = found then some value else List.lookup key rest := by
  by_cases same : key = found
  · simp [same]
  · simp only [List.lookup_cons, beq_false_of_ne same, if_neg same]

/-- What is looked up after changing values is the changed value, if the change may see the key. By
induction on the entries.
-/
theorem lookup_map {α : Type} (change : Nat → α → α) (entries : List (Nat × α)) (key : Nat)
    : List.lookup key (entries.map fun entry => (entry.1, change entry.1 entry.2))
      = (List.lookup key entries).map (change key) := by
  induction entries with
  | nil => rfl
  | cons entry rest ih =>
      obtain ⟨found, value⟩ := entry
      simp only [List.map_cons, lookup_cons_eq, ih]
      split_ifs with same
      · rw [same, Option.map_some]
      · rfl

/-- What is looked up after removing a key is what was there, under another key. By induction on the
entries.
-/
theorem lookup_filter {α : Type} (entries : List (Nat × α)) (removed key : Nat)
    : List.lookup key (entries.filter fun entry => entry.1 ≠ removed)
      = if key = removed then none else List.lookup key entries := by
  induction entries with
  | nil => simp
  | cons entry rest ih =>
      obtain ⟨found, value⟩ := entry
      by_cases dropped : found = removed
      · rw [List.filter_cons_of_neg (by simpa using dropped), ih, lookup_cons_eq]
        split_ifs with here there
        · rfl
        · exact absurd (there.trans dropped) here
        · rfl
      · rw [List.filter_cons_of_pos (by simpa using dropped), lookup_cons_eq, lookup_cons_eq, ih]
        split_ifs with here there
        · exact absurd (here.symm.trans there) dropped
        · rfl
        · rfl
        · rfl

@[simp]
theorem openFile?_setOffset (machine : Machine) (moved offset handle : Nat)
    : (machine.setOffset moved offset).openFile? handle
      = (machine.openFile? handle).map fun opened =>
          if handle = moved then { opened with offset } else opened := by
  have changed
      : (machine.handles.map fun entry =>
          if entry.1 = moved then (entry.1, { entry.2 with offset }) else entry)
        = machine.handles.map fun entry =>
            (entry.1, if entry.1 = moved then { entry.2 with offset } else entry.2) := by
    apply List.map_congr_left
    intro entry _
    split <;> rfl
  have change := lookup_map
    (fun key opened => if key = moved then { opened with offset } else opened) machine.handles
    handle
  exact (congrArg (List.lookup handle) changed).trans change

@[simp]
theorem fileOf_setOffset (machine : Machine) (moved offset handle : Nat)
    : (machine.setOffset moved offset).fileOf handle = machine.fileOf handle := by
  simp only [fileOf, openFile?_setOffset, Option.map_map]
  refine congrArg (fun file => Option.map file _) (funext fun opened => ?_)
  by_cases same : handle = moved <;> simp [same]

/-- Where a control file is depends on the names in the tree alone. -/
theorem locate_congr {machine other : Machine} (base : other.base = machine.base)
    (directory : other.directory = machine.directory)
    (names : other.tree.entries = machine.tree.entries) (file : ControlFile)
    : other.locate file = machine.locate file := by
  simp only [locate, base, directory, FileTree.findFile_congr names]

-----------------------------------------------------------------------------------------
-- What was called and noted
-----------------------------------------------------------------------------------------

/-- A machine has made some file calls and reported something. The lines that are handed out and the
files behind handles given out before are the same.
-/
structure Does (log : List Call) (journal : List Note) (before after : Machine) : Prop where
  calls : after.calls.toList = before.calls.toList ++ log
  notes : after.notes.toList = before.notes.toList ++ journal
  used : after.used = before.used
  base : after.base = before.base
  fresh : before.nextHandle ≤ after.nextHandle
  files : ∀ handle < before.nextHandle, after.fileOf handle = before.fileOf handle

namespace Does

variable {before middle after : Machine} {log rest : List Call} {journal others : List Note}

theorem refl (machine : Machine) : Does [] [] machine machine where
  calls := (List.append_nil _).symm
  notes := (List.append_nil _).symm
  used := rfl
  base := rfl
  fresh := Nat.le_refl _
  files _ _ := rfl

theorem trans (first : Does log journal before middle) (second : Does rest others middle after)
    : Does (log ++ rest) (journal ++ others) before after where
  calls := by rw [second.calls, first.calls, List.append_assoc]
  notes := by rw [second.notes, first.notes, List.append_assoc]
  used := second.used.trans first.used
  base := second.base.trans first.base
  fresh := Nat.le_trans first.fresh second.fresh
  files handle old :=
    (second.files handle (Nat.lt_of_lt_of_le old first.fresh)).trans (first.files handle old)

end Does

/-- Whether the directory of all lines is one that no file call can be made for. -/
def Unnameable (base : String) : Prop :=
  base.toList.contains '\x00' = true

instance (base : String) : Decidable (Unnameable base) :=
  inferInstanceAs (Decidable (_ = true))

variable {machine after : Machine} {file : ControlFile} {handle : Nat}

/-- A machine that is the same but for its faults and its tree, and has made a call. -/
theorem Does.called (call : Call) {faults : List Fault} {tree : FileTree}
    : Does [call] [] machine ({ machine with faults, tree }.record call) where
  calls := Array.toList_push
  notes := (List.append_nil _).symm
  used := rfl
  base := rfl
  fresh := Nat.le_refl _
  files _ _ := rfl

/-- A file that is opened is behind a new handle, or there is a failure. -/
theorem openLocated_cases (file : ControlFile) (truncate : Bool) (machine : Machine)
    : (∃ errno after,
        openLocated file truncate machine = (.error errno, after)
        ∧ Does [.opened file truncate (some errno)] [] machine after)
      ∨ ∃ after,
          openLocated file truncate machine = (.ok machine.nextHandle, after)
          ∧ Does [.opened file truncate none] [] machine after
          ∧ after.nextHandle = machine.nextHandle + 1
          ∧ ∀ handle,
              after.fileOf handle
              = if handle = machine.nextHandle then some file else machine.fileOf handle := by
  unfold openLocated check
  rcases checkFaults file.name .opening machine.faults with ⟨_ | errno, faults⟩
  · dsimp only
    cases locate { machine with faults } file with
    | error errno => exact Or.inl ⟨errno, _, rfl, .called _⟩
    | ok number =>
        refine Or.inr ⟨_, rfl, ⟨Array.toList_push, (List.append_nil _).symm, rfl, rfl, ?_, ?_⟩, rfl, ?_⟩
        · exact Nat.le_succ _
        · intro handle old
          simp [fileOf, openFile?, record, addHandle, lookup_cons_eq, Nat.ne_of_lt old]
        · intro handle
          simp only [fileOf, openFile?, record, addHandle, lookup_cons_eq]
          split_ifs <;> rfl
  · exact Or.inl ⟨errno, _, rfl, .called _⟩

/-- A write to an open file is made, whether or not it fails, and leaves all files open. -/
theorem writeFile_cases (opened : machine.fileOf handle = some file) (text : String)
    : ∃ failure after,
        writeFile handle text machine = (failure.elim (.ok ()) .error, after)
        ∧ Does [.wrote file text failure] [] machine after
        ∧ after.nextHandle = machine.nextHandle
        ∧ ∀ other, after.fileOf other = machine.fileOf other := by
  obtain ⟨found, present, rfl⟩ := Option.map_eq_some_iff.mp opened
  unfold writeFile check
  rw [present]
  dsimp only
  rcases checkFaults found.file.name .writing machine.faults with ⟨_ | errno, faults⟩
  · have files (other : Nat) :=
      fileOf_setOffset machine handle (found.offset + (Text.encode text).length) other
    refine ⟨none, _, rfl, ⟨Array.toList_push, (List.append_nil _).symm, rfl, rfl, Nat.le_refl _, ?_⟩,
      rfl, files⟩
    exact fun other _ => files other
  · exact ⟨some errno, _, rfl, .called _, rfl, fun _ => rfl⟩

/-- A file is rewound, whether or not that fails, and all files stay open. -/
theorem rewind_cases (opened : machine.fileOf handle = some file)
    : ∃ failure after,
        rewind handle machine = (failure.elim (.ok ()) .error, after)
        ∧ Does [.sought file 0 failure] [] machine after
        ∧ after.nextHandle = machine.nextHandle
        ∧ ∀ other, after.fileOf other = machine.fileOf other := by
  obtain ⟨found, present, rfl⟩ := Option.map_eq_some_iff.mp opened
  unfold rewind check
  rw [present]
  dsimp only
  rcases checkFaults found.file.name .seeking machine.faults with ⟨_ | errno, faults⟩
  · have files (other : Nat) := fileOf_setOffset machine handle 0 other
    refine ⟨none, _, rfl, ⟨Array.toList_push, (List.append_nil _).symm, rfl, rfl, Nat.le_refl _, ?_⟩,
      rfl, files⟩
    exact fun other _ => files other
  · exact ⟨some errno, _, rfl, .called _, rfl, fun _ => rfl⟩

/-- An open file is closed, and no other one is. -/
theorem closeFile_of_open (opened : machine.fileOf handle = some file)
    : (closeFile handle machine).calls.toList = machine.calls.toList ++ [.closed file]
      ∧ (closeFile handle machine).notes = machine.notes
      ∧ (closeFile handle machine).used = machine.used
      ∧ (closeFile handle machine).base = machine.base
      ∧ (closeFile handle machine).nextHandle = machine.nextHandle
      ∧ ∀ other,
          (closeFile handle machine).fileOf other
          = if other = handle then none else machine.fileOf other := by
  obtain ⟨found, present, rfl⟩ := Option.map_eq_some_iff.mp opened
  unfold closeFile
  rw [present]
  refine ⟨Array.toList_push, rfl, rfl, rfl, rfl, fun other => ?_⟩
  simp only [fileOf, openFile?, record, lookup_filter]
  split_ifs <;> rfl

end CharLcd.Sysfs.Machine

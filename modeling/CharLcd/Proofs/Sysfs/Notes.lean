import CharLcd.Proofs.Sysfs.Attempts
import CharLcd.Proofs.Sysfs.Programs

/-! What the file driver itself adds to the notes of a machine.

File calls add nothing to the notes. So what handing out a line or taking it back adds are notes that
only a driver makes, and setting a level adds none.
-/

namespace CharLcd.Sysfs

open Machine

variable {α β : Type}

-----------------------------------------------------------------------------------------
-- File calls
-----------------------------------------------------------------------------------------

theorem notes_openFile (file : ControlFile) (truncate : Bool) (before : Machine)
    : ((Host.openFile file truncate : StateM Machine (Except Errno Nat)).run before).2.notes.toList
      = before.notes.toList := by
  rw [run_openFile, Machine.openFile]
  split
  · rfl
  · rcases openLocated_cases file truncate before
      with ⟨_, _, run, does⟩ | ⟨_, run, does, _⟩
    · rw [run, does.notes, List.append_nil]
    · rw [run, does.notes, List.append_nil]

theorem notes_writeFile (handle : Nat) (text : String) (before : Machine)
    : ((Host.writeFile handle text : StateM Machine (Except Errno Unit)).run before).2.notes.toList
      = before.notes.toList := by
  rw [run_writeFile]
  cases opened : before.openFile? handle with
  | none => simp only [Machine.writeFile, opened]
  | some found =>
      have file := congrArg (Option.map OpenFile.file) opened
      obtain ⟨_, _, run, does, _⟩ := writeFile_cases file text
      rw [run, does.notes, List.append_nil]

theorem notes_rewind (handle : Nat) (before : Machine)
    : ((Host.rewind handle : StateM Machine (Except Errno Unit)).run before).2.notes.toList
      = before.notes.toList := by
  rw [run_rewind]
  cases opened : before.openFile? handle with
  | none => simp only [Machine.rewind, opened]
  | some found =>
      have file := congrArg (Option.map OpenFile.file) opened
      obtain ⟨_, _, run, does, _⟩ := rewind_cases file
      rw [run, does.notes, List.append_nil]

theorem notes_closeFile (handle : Nat) (before : Machine)
    : ((Host.closeFile handle : StateM Machine Unit).run before).2.notes.toList
      = before.notes.toList := by
  rw [run_closeFile]
  cases opened : before.openFile? handle with
  | none => simp only [Machine.closeFile, opened]
  | some found =>
      have file := congrArg (Option.map OpenFile.file) opened
      rw [(closeFile_of_open file).2.1]

-----------------------------------------------------------------------------------------
-- The driver
-----------------------------------------------------------------------------------------

/-- What is noted between two states is something that only a driver notes. -/
def OwnNotes (before after : Machine) : Prop :=
  ∃ own : List Note,
    after.notes.toList = before.notes.toList ++ own ∧ ∀ entry ∈ own, entry.ofDriver = true

namespace OwnNotes

variable {before middle after : Machine}

theorem none (same : after.notes.toList = before.notes.toList) : OwnNotes before after :=
  ⟨[], same.trans (List.append_nil _).symm, List.forall_mem_nil _⟩

theorem trans (first : OwnNotes before middle) (second : OwnNotes middle after)
    : OwnNotes before after := by
  obtain ⟨own, noted, drivers⟩ := first
  obtain ⟨others, more, also⟩ := second
  refine ⟨own ++ others, by rw [more, noted, List.append_assoc], fun entry member => ?_⟩
  exact (List.mem_append.mp member).elim (drivers entry) (also entry)

end OwnNotes

/-- A program on a machine that notes only what a driver does. -/
def KeepsToItself (x : StateM Machine α) : Prop :=
  ∀ before, OwnNotes before (x.run before).2

/-- Whatever the file driver is made of notes only what a driver does. -/
theorem keepsToItself : Pervades KeepsToItself where
  pure _ _ := .none rfl
  bind first next before := (first before).trans (next _ _)
  noted ofDriver _ := ⟨[_], Array.toList_push, List.forall_mem_singleton.mpr ofDriver⟩
  base _ := .none rfl
  used _ := .none rfl
  setUsed _ _ := .none rfl
  openFile file truncate before := .none (notes_openFile file truncate before)
  writeFile handle text before := .none (notes_writeFile handle text before)
  rewind handle before := .none (notes_rewind handle before)
  closeFile handle before := .none (notes_closeFile handle before)

/-- Setting the level of a line notes nothing. -/
theorem notes_write (line : Line Nat) (level : Bool) (before : Machine)
    : ((write line level : StateM Machine (Except GpioError Unit)).run before).2.notes.toList
      = before.notes.toList := by
  have written := notes_writeFile line.handle (Note.levelDigit level) before
  rw [write, run_sequence]
  generalize (Host.writeFile line.handle (Note.levelDigit level) : StateM Machine _).run before
    = outcome at written ⊢
  obtain ⟨errno | _, middle⟩ := outcome
  · exact written
  · refine Eq.trans ?_ ((notes_rewind line.handle middle).trans written)
    simp only [run_sequence]
    generalize (Host.rewind line.handle : StateM Machine _).run middle = outcome
    obtain ⟨errno | _, after⟩ := outcome <;> rfl

end CharLcd.Sysfs

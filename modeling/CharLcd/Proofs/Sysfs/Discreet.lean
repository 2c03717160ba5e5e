import CharLcd.Proofs.Coupling.Discreet
import CharLcd.Proofs.Sysfs.Programs

/-! A machine never looks at its notes.

The files, the calls on them and the lines that are handed out do not depend on what was reported.
-/

namespace CharLcd.Sysfs

open Machine

variable {α β : Type}

/-- A machine without its notes. -/
def Machine.silent (machine : Machine) : Machine :=
  { machine with notes := #[] }

/-- A program that does the same whatever was noted before, and notes nothing itself, is heedless. -/
theorem heedless_of_unnoted {x : StateM Machine α}
    (unnoted
      : ∀ (machine : Machine) (notes : Array Note),
          x.run { machine with notes } = ((x.run machine).1, { (x.run machine).2 with notes }))
    : Heedless silent x := by
  intro s t same
  have differs : { s with notes := t.notes } = t :=
    congrArg (fun machine : Machine => { machine with notes := t.notes }) same
  have run := unnoted s t.notes
  rw [differs] at run
  unfold Alike Hushed
  rw [run]
  exact ⟨rfl, rfl⟩

-----------------------------------------------------------------------------------------
-- The files
-----------------------------------------------------------------------------------------

theorem heedless_note (entry : Note) : Heedless silent (note entry : StateM Machine Unit) :=
  fun _ _ same => ⟨rfl, same⟩

theorem heedless_base : Heedless silent (Host.base : StateM Machine String) :=
  heedless_of_unnoted fun _ _ => rfl

theorem heedless_used : Heedless silent (Host.used : StateM Machine (List UInt32)) :=
  heedless_of_unnoted fun _ _ => rfl

theorem heedless_setUsed (lines : List UInt32)
    : Heedless silent (Host.setUsed lines : StateM Machine Unit) :=
  heedless_of_unnoted fun _ _ => rfl

theorem heedless_openFile (file : ControlFile) (truncate : Bool)
    : Heedless silent (Host.openFile file truncate : StateM Machine (Except Errno Nat)) := by
  refine heedless_of_unnoted fun machine notes => ?_
  show openFile file truncate { machine with notes }
    = ((openFile file truncate machine).1, { (openFile file truncate machine).2 with notes })
  simp only [openFile, openLocated, check, locate]
  split
  · rfl
  · rcases checkFaults file.name .opening machine.faults with ⟨_ | errno, faults⟩
    · simp only
      split <;> rfl
    · rfl

theorem heedless_writeFile (handle : Nat) (text : String)
    : Heedless silent (Host.writeFile handle text : StateM Machine (Except Errno Unit)) := by
  refine heedless_of_unnoted fun machine notes => ?_
  show writeFile handle text { machine with notes }
    = ((writeFile handle text machine).1, { (writeFile handle text machine).2 with notes })
  simp only [writeFile, check, openFile?]
  cases List.lookup handle machine.handles with
  | none => rfl
  | some opened =>
      simp only
      rcases checkFaults opened.file.name .writing machine.faults with ⟨_ | errno, faults⟩ <;> rfl

theorem heedless_rewind (handle : Nat)
    : Heedless silent (Host.rewind handle : StateM Machine (Except Errno Unit)) := by
  refine heedless_of_unnoted fun machine notes => ?_
  show rewind handle { machine with notes }
    = ((rewind handle machine).1, { (rewind handle machine).2 with notes })
  simp only [rewind, check, openFile?]
  cases List.lookup handle machine.handles with
  | none => rfl
  | some opened =>
      simp only
      rcases checkFaults opened.file.name .seeking machine.faults with ⟨_ | errno, faults⟩ <;> rfl

theorem heedless_closeFile (handle : Nat)
    : Heedless silent (Host.closeFile handle : StateM Machine Unit) := by
  refine heedless_of_unnoted fun machine notes => ?_
  show ((), closeFile handle { machine with notes })
    = ((), { closeFile handle machine with notes })
  simp only [closeFile, openFile?]
  cases List.lookup handle machine.handles <;> rfl

-----------------------------------------------------------------------------------------
-- The driver
-----------------------------------------------------------------------------------------

/-- Nothing of which the file driver is made looks at the notes. -/
theorem pervades_heedless : Pervades (Heedless silent) where
  pure := .pure
  bind := .bind
  noted _ := heedless_note _
  base := heedless_base
  used := heedless_used
  setUsed := heedless_setUsed
  openFile := heedless_openFile
  writeFile := heedless_writeFile
  rewind := heedless_rewind
  closeFile := heedless_closeFile

/-- A machine passes over its notes, whatever it does. -/
theorem discreet : Discreet Nat silent where
  note _ _ := rfl
  wait timer time := by
    refine heedless_of_unnoted fun machine notes => ?_
    cases timer <;> rfl
  acquire := pervades_heedless.acquire
  write := pervades_heedless.write
  release := pervades_heedless.release
  describe _ := heedless_base.bind fun _ => .pure _

end CharLcd.Sysfs

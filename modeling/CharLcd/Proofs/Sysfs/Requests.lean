import CharLcd.Proofs.Setup.Requests
import CharLcd.Proofs.Sysfs.Notes

/-! What a machine has noted tells what was asked of its displays.

The file driver reports what it writes and what fails, but nothing that could be taken for a request
to a display, in whatever state it is.
-/

namespace CharLcd.Sysfs

open LineCall Machine

variable {α β : Type}

/-- A program on a machine that announces no request to a display. -/
def Mute (x : StateM Machine α) : Prop :=
  ∀ before, Note.requests (x.run before).2.notes.toList = Note.requests before.notes.toList

namespace Mute

theorem pure (value : α) : Mute (pure value) :=
  fun _ => rfl

theorem bind {x : StateM Machine α} {f : α → StateM Machine β} (first : Mute x)
    (next : ∀ value, Mute (f value))
    : Mute (x >>= f) :=
  fun before => (next _ (x.run before).2).trans (first before)

theorem noted {entry : Note} (quiet : entry.request? = none) : Mute (note entry) := by
  intro before
  have pushed
      : ((note entry : StateM Machine Unit).run before).2.notes.toList
        = before.notes.toList ++ [entry] :=
    Array.toList_push
  simp [pushed, Note.requests, quiet]

/-- What leaves the notes alone is mute. -/
theorem kept {x : StateM Machine α}
    (same : ∀ before, (x.run before).2.notes.toList = before.notes.toList)
    : Mute x :=
  fun before => by rw [same]

theorem requests {x : StateM Machine α} (mute : Mute x) {before after : Machine} {answer : α}
    (run : x.run before = (answer, after))
    : Note.requests after.notes.toList = Note.requests before.notes.toList := by
  have same := mute before
  rwa [run] at same

theorem base : Mute Host.base :=
  kept fun _ => rfl

theorem used : Mute Host.used :=
  kept fun _ => rfl

theorem setUsed (lines : List UInt32) : Mute (Host.setUsed lines) :=
  kept fun _ => rfl

theorem openFile (file : ControlFile) (truncate : Bool) : Mute (Host.openFile file truncate) :=
  kept (notes_openFile file truncate)

theorem writeFile (handle : Nat) (text : String) : Mute (Host.writeFile handle text) :=
  kept (notes_writeFile handle text)

theorem rewind (handle : Nat) : Mute (Host.rewind handle) :=
  kept (notes_rewind handle)

theorem closeFile (handle : Nat) : Mute (Host.closeFile handle) :=
  kept (notes_closeFile handle)

end Mute

-----------------------------------------------------------------------------------------
-- The driver
-----------------------------------------------------------------------------------------

/-- Nothing of which the file driver is made announces a request to a display. -/
theorem mute : Pervades Mute where
  pure := .pure
  bind := .bind
  noted := by
    intro entry ofDriver
    refine .noted ?_
    cases entry with
    | writingFile | alreadyExported | leftExported | lineExported | lineReleased | revertFailed
    | unexportFailed => rfl
    | _ => cases ofDriver
  base := .base
  used := .used
  setUsed := .setUsed
  openFile := .openFile
  writeFile := .writeFile
  rewind := .rewind
  closeFile := .closeFile

/-- What a machine has noted tells what was asked for among the calls. By induction on the calls. -/
theorem requests_of_performs {calls : List (LineCall Nat)} {before after : Machine}
    (performs : Performs before calls after)
    : Note.requests after.notes.toList = Note.requests before.notes.toList ++ asked calls := by
  induction calls generalizing before with
  | nil =>
      cases performs
      exact (List.append_nil _).symm
  | cons call rest ih =>
      obtain ⟨middle, happens, rests⟩ := performs
      rw [ih rests]
      cases call with
      | acquired number answer =>
          rw [(mute.acquire number).requests happens]
          rfl
      | wrote line level answer =>
          rw [(mute.write line level).requests happens]
          rfl
      | released line answer =>
          rw [(mute.release line).requests happens]
          rfl
      | waited timer time =>
          cases happens
          cases timer <;> rfl
      | noted entry =>
          cases happens
          rw [asked_noted, ← List.append_assoc]
          congr 1
          show Note.requests (before.notes.push entry).toList = _
          rw [Array.toList_push, Note.requests, List.filterMap_append]
          cases requested : entry.request? <;> simp [Note.requests, requested]

end CharLcd.Sysfs

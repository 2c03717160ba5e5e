import CharLcd.Proofs.Coupling.Basic
import CharLcd.Sysfs.Machine

/-! What holds of all that the file driver is made of holds of the driver.

The driver does everything to a machine by a few calls on files, the account of the lines that are
handed out, and notes. So a property that sequences keep needs to be looked at for these only.
-/

namespace CharLcd.Sysfs

/-- A property of programs on a machine that sequences keep, and that everything has of which the file
driver is made.
-/
structure Pervades (P : ∀ {α : Type}, StateM Machine α → Prop) : Prop where
  pure : ∀ {α : Type} (value : α), P (pure value)
  bind : ∀ {α β : Type} {x : StateM Machine α} {f : α → StateM Machine β},
    P x → (∀ value, P (f value)) → P (x >>= f)
  noted : ∀ {entry : Note}, entry.ofDriver = true → P (note entry : StateM Machine Unit)
  base : P (Host.base : StateM Machine String)
  used : P (Host.used : StateM Machine (List UInt32))
  setUsed : ∀ lines : List UInt32, P (Host.setUsed lines : StateM Machine Unit)
  openFile : ∀ (file : ControlFile) (truncate : Bool),
    P (Host.openFile file truncate : StateM Machine (Except Errno Nat))
  writeFile : ∀ (handle : Nat) (text : String),
    P (Host.writeFile handle text : StateM Machine (Except Errno Unit))
  rewind : ∀ handle : Nat, P (Host.rewind handle : StateM Machine (Except Errno Unit))
  closeFile : ∀ handle : Nat, P (Host.closeFile handle : StateM Machine Unit)

namespace Pervades

variable {P : ∀ {α : Type}, StateM Machine α → Prop} (pervades : Pervades P)

include pervades

theorem writeControl (file : ControlFile) (value : String)
    : P (Sysfs.writeControl file value : StateM Machine (Except Errno Unit)) := by
  refine pervades.bind pervades.base fun base => pervades.bind (pervades.noted rfl) fun _ => ?_
  refine pervades.bind (pervades.openFile file true) fun opened => ?_
  cases opened with
  | error errno => exact pervades.pure _
  | ok handle =>
      refine pervades.bind (pervades.writeFile handle value) fun result => ?_
      exact pervades.bind (pervades.closeFile handle) fun _ => pervades.pure _

theorem revert (line : UInt32)
    : P (Sysfs.revert line : StateM Machine (Except Errno Unit)) := by
  refine pervades.bind (pervades.writeControl _ _) fun result => ?_
  cases result with
  | error errno => exact pervades.bind (pervades.noted rfl) fun _ => pervades.pure _
  | ok => exact pervades.pure _

theorem unexport (line : UInt32)
    : P (Sysfs.unexport line : StateM Machine (Except Errno Unit)) := by
  refine pervades.bind (pervades.writeControl _ _) fun result => ?_
  cases result with
  | error errno => exact pervades.bind (pervades.noted rfl) fun _ => pervades.pure _
  | ok => exact pervades.pure _

theorem abandon (line : UInt32) (exported : Export)
    : P (Sysfs.abandon line exported : StateM Machine Unit) := by
  cases exported with
  | existing => exact pervades.noted rfl
  | fresh => exact pervades.bind (pervades.unexport line) fun _ => pervades.pure _

theorem configure (line : UInt32) (exported : Export)
    : P (Sysfs.configure line exported : StateM Machine (Except GpioError Nat)) := by
  refine pervades.bind (pervades.writeControl _ _) fun result => ?_
  cases result with
  | error errno => exact pervades.bind (pervades.abandon line exported) fun _ => pervades.pure _
  | ok =>
      refine pervades.bind (pervades.openFile (.value line) false) fun opened => ?_
      cases opened with
      | ok handle => exact pervades.pure _
      | error errno =>
          refine pervades.bind (pervades.revert line) fun _ => ?_
          exact pervades.bind (pervades.abandon line exported) fun _ => pervades.pure _

theorem acquire (line : UInt32)
    : P (Sysfs.acquire line : StateM Machine (Except GpioError Nat)) := by
  have exports : P (exportLine line : StateM Machine (Except Errno Export)) := by
    refine pervades.bind (pervades.writeControl _ _) fun result => ?_
    cases result <;> exact pervades.pure _
  -- What follows the export stands in `acquire` twice, so it is any program with these two cases.
  have rest (exported : Export)
      {next : Except GpioError Nat → StateM Machine (Except GpioError Nat)}
      (failed : ∀ cause, next (.error cause) = Pure.pure (.error cause))
      (entered : ∀ handle, next (.ok handle) = do
        Host.setUsed (insertAscending line (← Host.used))
        note (.lineExported line)
        return .ok handle)
      : P (Sysfs.configure line exported >>= next) := by
    refine pervades.bind (pervades.configure line exported) fun configured => ?_
    cases configured with
    | error cause => exact failed cause ▸ pervades.pure _
    | ok handle =>
        rw [entered]
        refine pervades.bind pervades.used fun used => pervades.bind (pervades.setUsed _) fun _ => ?_
        exact pervades.bind (pervades.noted rfl) fun _ => pervades.pure _
  unfold Sysfs.acquire
  split
  · exact pervades.pure _
  · refine pervades.bind pervades.used fun used => ?_
    split
    · exact pervades.pure _
    · refine pervades.bind exports fun exported => ?_
      cases exported with
      | error errno => exact pervades.pure _
      | ok exported =>
          simp only
          split
          · exact pervades.bind (pervades.noted rfl) fun _ => rest _ (fun _ => rfl) fun _ => rfl
          · exact rest _ (fun _ => rfl) fun _ => rfl

theorem write (line : Line Nat) (level : Bool)
    : P (Sysfs.write line level : StateM Machine (Except GpioError Unit)) := by
  refine pervades.bind (pervades.writeFile line.handle _) fun written => ?_
  cases written with
  | error errno => exact pervades.pure _
  | ok =>
      refine pervades.bind (pervades.rewind line.handle) fun rewound => ?_
      cases rewound <;> exact pervades.pure _

theorem release (line : Line Nat)
    : P (Sysfs.release line : StateM Machine (Except GpioError Unit)) := by
  refine pervades.bind (pervades.revert line.number) fun reverted => ?_
  refine pervades.bind (pervades.closeFile line.handle) fun _ => ?_
  refine pervades.bind (pervades.unexport line.number) fun unexported => ?_
  refine pervades.bind pervades.used fun used => pervades.bind (pervades.setUsed _) fun _ => ?_
  exact pervades.bind (pervades.noted rfl) fun _ => pervades.pure _

end Pervades

end CharLcd.Sysfs

import CharLcd.Proofs.Sysfs.Handles
import CharLcd.Proofs.Sysfs.Overwriting

/-! How a line is exported, case by case, and what is left where that fails.

A line is exported, turned into an output at a low level, and its value is opened. The first of these that
fails is the failure of the whole, and what was done before is undone, as far as that succeeds. Nothing is
left open then, and the line is not held. Otherwise it is, and its value is what it was.
-/

namespace CharLcd.Sysfs

open Machine

-----------------------------------------------------------------------------------------
-- The cases
-----------------------------------------------------------------------------------------

/-- The file calls of exporting a line, and what comes of it. -/
inductive ExportGoes (base : String) (line : UInt32) : List Call → Except GpioError Nat → Prop where
  | unexported {log : List Call} {errno : Errno} :
      Attempt base .exportFile (numberLine line) log (.error errno)
      → errno.kind ≠ .resourceBusy
      → ExportGoes base line log (.error (.exportFailed line errno.kind))
  | undirected {log turned rest : List Call} {exported : Export} {errno : Errno} :
      Exported base line log exported
      → Attempt base (.direction line) "low" turned (.error errno)
      → GivenUp base line rest exported
      → ExportGoes base line (log ++ (turned ++ rest)) (.error (.configureFailed line errno.kind))
  | unopened {log turned back rest : List Call} {exported : Export} {errno : Errno}
      {reverted : Except Errno Unit} :
      Exported base line log exported
      → Attempt base (.direction line) "low" turned (.ok ())
      → Attempt base (.direction line) "in" back reverted
      → GivenUp base line rest exported
      → ExportGoes base line
          (log ++ (turned ++ .opened (.value line) false (some errno) :: (back ++ rest)))
          (.error (.configureFailed line errno.kind))
  | exported {log turned : List Call} {exported : Export} {handle : Nat} :
      Exported base line log exported
      → Attempt base (.direction line) "low" turned (.ok ())
      → ExportGoes base line (log ++ (turned ++ [.opened (.value line) false none])) (.ok handle)

variable {base : String} {line : UInt32} {before after : Machine}

/-- A line that is not handed out goes by one of the cases. -/
theorem Unacquired.exportGoes {log : List Call} {journal : List Note} {cause : GpioError}
    (unacquired : Unacquired base line log journal cause)
    : ExportGoes base line log (.error cause) := by
  cases unacquired with
  | unexported exports =>
      cases exports with
      | failed other attempt => exact .unexported attempt other
  | unconfigured exports unconfigured =>
      cases unconfigured with
      | undirected attempt abandons =>
          exact .undirected exports.exported attempt abandons.givenUp
      | unopened attempt reverts abandons =>
          exact .unopened exports.exported attempt reverts.1 abandons.givenUp

/-- So does one that is handed out. -/
theorem Acquired.exportGoes {log : List Call} {journal : List Note}
    (acquired : Acquired base line log journal) (handle : Nat)
    : ExportGoes base line log (.ok handle) := by
  cases acquired with
  | configured exports attempt => exact .exported exports.exported attempt

-----------------------------------------------------------------------------------------
-- Nothing is left open
-----------------------------------------------------------------------------------------

theorem handles_configure {exported : Export} {cause : GpioError} (numbered : before.Numbered)
    (run
      : (configure line exported : StateM Machine (Except GpioError Nat)).run before
        = (.error cause, after))
    : after.handles = before.handles := by
  obtain ⟨same, grown⟩ := shuts_writeControl (.direction line) "low" before numbered
  have later := numbered.of_eq same grown
  rw [configure, run_sequence] at run
  generalize (writeControl (.direction line) "low" : StateM Machine _).run before = outcome
    at same later run
  obtain ⟨errno | written, middle⟩ := outcome
  · obtain rfl : _ = after := congrArg Prod.snd run
    exact (shuts_abandon line exported middle later).1.trans same
  · simp only [run_sequence, run_openFile] at run
    rcases handles_openFile (.value line) false middle
      with ⟨errno, next, opens, kept, number⟩ | ⟨number, next, opens, _⟩
    · rw [opens] at run
      obtain rfl : _ = after := congrArg Prod.snd run
      have turned := (shuts_revert line).bind fun _ => shuts_abandon line exported
      exact (turned next (later.of_eq kept (Nat.le_of_eq number.symm))).1.trans (kept.trans same)
    · rw [opens] at run
      cases congrArg Prod.fst run

/-- A line that is handed out was exported first, then configured, and is entered at last. -/
theorem acquire_ok {handle : Nat}
    (run
      : (acquire line : StateM Machine (Except GpioError Nat)).run before = (.ok handle, after))
    : ∃ exported middle next,
        (exportLine line : StateM Machine _).run before = (.ok exported, middle)
        ∧ (configure line exported : StateM Machine (Except GpioError Nat)).run
            (middle.remarking line exported)
          = (.ok handle, next)
        ∧ after = { next with
            used := insertAscending line next.used, notes := next.notes.push (.lineExported line) } := by
  rcases acquire_cases line before with ⟨_, refused, _⟩ | ⟨small, free, _⟩
  · cases refused.symm.trans run
  rw [acquire_run small free] at run
  rcases exporting : (exportLine line : StateM Machine _).run before with ⟨errno | exported, middle⟩
  · rw [exporting] at run
    cases congrArg Prod.fst run
  rw [exporting] at run
  simp only [enter, run_sequence] at run
  rcases configured
    : (configure line exported : StateM Machine (Except GpioError Nat)).run
        (middle.remarking line exported)
    with ⟨cause | found, next⟩
  · rw [configured] at run
    cases congrArg Prod.fst run
  · rw [configured] at run
    cases run
    exact ⟨exported, middle, next, rfl, configured, rfl⟩

/-- A line that is not handed out leaves no file open. -/
theorem handles_acquire {cause : GpioError} (numbered : before.Numbered)
    (run
      : (acquire line : StateM Machine (Except GpioError Nat)).run before = (.error cause, after))
    : after.handles = before.handles := by
  rcases acquire_cases line before with ⟨_, refused, _⟩ | ⟨small, free, _⟩
  · cases refused.symm.trans run
    rfl
  rw [acquire_run small free] at run
  obtain ⟨same, grown⟩ := shuts_exportLine line before numbered
  have later := numbered.of_eq same grown
  generalize (exportLine line : StateM Machine _).run before = outcome at same later run
  obtain ⟨errno | exported, middle⟩ := outcome
  · obtain rfl : _ = after := congrArg Prod.snd run
    exact same
  have remarked : (middle.remarking line exported).handles = before.handles
      ∧ (middle.remarking line exported).Numbered := by
    cases exported <;> exact ⟨same, later⟩
  simp only [enter, run_sequence] at run
  rcases configured
    : (configure line exported : StateM Machine (Except GpioError Nat)).run
        (middle.remarking line exported)
    with ⟨cause | found, next⟩
  · rw [configured] at run
    obtain rfl : _ = after := congrArg Prod.snd run
    exact (handles_configure remarked.2 configured).trans remarked.1
  · rw [configured] at run
    cases congrArg Prod.fst run

-----------------------------------------------------------------------------------------
-- The value stays what it was
-----------------------------------------------------------------------------------------

theorem Attempt.about {file : ControlFile} {text : String} {log : List Call}
    {result : Except Errno Unit} (attempt : Attempt base file text log result)
    : ∀ call ∈ log, call.file? = some file := by
  cases attempt <;> simp [Call.file?]

/-- To replace the content of one control file does not change another one. -/
theorem read_writeControl (tidy : Tidy before) {file other : ControlFile} (apart : file ≠ other)
    (text : String)
    : ((writeControl file text : StateM Machine _).run before).2.read other = before.read other := by
  obtain ⟨log, journal, does, attempt, _⟩ := acts_writeControl file text before rfl
  have recorded := accountable.writeControl file text before
  generalize ((writeControl file text : StateM Machine _).run before).2 = after at does recorded ⊢
  obtain ⟨made, calls, changes⟩ := recorded.record
  obtain rfl := List.append_cancel_left (calls.symm.trans does.calls)
  unfold Machine.read
  rw [locate_congr does.base recorded.directory recorded.names]
  cases located : before.locate other with
  | error errno => rfl
  | ok number =>
      refine congrArg Except.ok ?_
      by_contra different
      obtain ⟨call, member, called, about, stood⟩ := changes number different
      obtain rfl := Option.some.inj ((attempt.about call member).symm.trans about)
      exact apart (tidy.eq_of_stands stood (.of_locate located))

/-- To open a file without emptying it changes nothing. -/
theorem read_openFile {file : ControlFile} {handle : Nat}
    (opens : openFile file false before = (.ok handle, after)) (other : ControlFile)
    : after.read other = before.read other := by
  unfold openFile openLocated check at opens
  split at opens
  · cases opens
  generalize checkFaults file.name .opening before.faults = checked at opens
  obtain ⟨_ | errno, faults⟩ := checked
  · dsimp only at opens
    cases located : { before with faults }.locate file with
    | error errno =>
        rw [located] at opens
        cases opens
    | ok number =>
        rw [located] at opens
        cases opens
        rfl
  · cases opens

theorem read_configure (tidy : Tidy before) {exported : Export} {handle : Nat}
    (run
      : (configure line exported : StateM Machine (Except GpioError Nat)).run before
        = (.ok handle, after))
    : after.read (.value line) = before.read (.value line) := by
  have kept := read_writeControl tidy (by simp : ControlFile.direction line ≠ .value line) "low"
  rw [configure, run_sequence] at run
  generalize (writeControl (.direction line) "low" : StateM Machine _).run before = outcome
    at kept run
  obtain ⟨errno | written, middle⟩ := outcome
  · cases congrArg Prod.fst run
  · simp only [run_sequence, run_openFile] at run
    rcases opens : openFile (.value line) false middle with ⟨errno | found, next⟩
    · rw [opens] at run
      cases congrArg Prod.fst run
    · rw [opens] at run
      cases run
      exact (read_openFile opens _).trans kept

theorem exportLine_left (line : UInt32) (before : Machine)
    : ((exportLine line : StateM Machine _).run before).2
      = ((writeControl .exportFile (numberLine line) : StateM Machine _).run before).2 := by
  rw [exportLine, run_sequence]
  rcases (writeControl .exportFile (numberLine line) : StateM Machine _).run before
    with ⟨_ | _, _⟩ <;> rfl

/-- The value of a line that is handed out is there, and is what it was. -/
theorem read_acquire (tidy : Tidy before) {handle : Nat}
    (run
      : (acquire line : StateM Machine (Except GpioError Nat)).run before = (.ok handle, after))
    : ∃ content,
        before.read (.value line) = .ok content ∧ after.read (.value line) = .ok content := by
  obtain ⟨number, located, _⟩ := acquire_opens run
  have there : after.read (.value line) = .ok (after.tree.content number) := by
    rw [Machine.read, located]
    rfl
  obtain ⟨exported, middle, next, exporting, configured, rfl⟩ := acquire_ok run
  have left := exportLine_left line before
  rw [exporting] at left
  have exportKeeps : middle.read (.value line) = before.read (.value line) := by
    have kept := read_writeControl tidy (by simp : ControlFile.exportFile ≠ .value line)
      (numberLine line)
    rwa [← left] at kept
  have recorded : Recorded before middle := by
    have made := accountable.writeControl .exportFile (numberLine line) before
    rwa [← left] at made
  have remarked : (middle.remarking line exported).read (.value line) = middle.read (.value line)
      ∧ Tidy (middle.remarking line exported) := by
    cases exported with
    | fresh => exact ⟨rfl, tidy.recorded recorded⟩
    | existing => exact ⟨rfl, (tidy.recorded recorded).recorded (.quiet rfl rfl rfl rfl)⟩
  have configureKeeps : next.read (.value line) = _ := read_configure remarked.2 configured
  have same := configureKeeps.trans (remarked.1.trans exportKeeps)
  exact ⟨_, same.symm.trans there, there⟩

-----------------------------------------------------------------------------------------
-- Exporting as a whole
-----------------------------------------------------------------------------------------

/-- What exporting a line does to a machine. It goes by one of the cases, with just these file calls. If it
fails the line is not held and nothing is open that was not before. Otherwise it is held, and its value is
there as it was.
-/
structure ExportsWhole (line : UInt32) (before : Machine) (answer : Except GpioError Nat)
    (after : Machine)
    : Prop where
  goes : ∃ log,
    after.calls.toList = before.calls.toList ++ log ∧ ExportGoes before.base line log answer
  failed : ∀ cause, answer = .error cause →
    after.used = before.used ∧ after.handles = before.handles
  succeeded : ∀ handle, answer = .ok handle →
    after.used = insertAscending line before.used
    ∧ ∃ content,
        before.read (.value line) = .ok content ∧ after.read (.value line) = .ok content

/-- A line that is one and is not held is exported as a whole, or nothing is left of it. -/
theorem exportsWhole (tidy : Tidy before) (numbered : before.Numbered) (small : ¬lineCount ≤ line)
    (free : line ∉ before.used)
    : ExportsWhole line before
        ((acquire line : StateM Machine (Except GpioError Nat)).run before).1
        ((acquire line : StateM Machine (Except GpioError Nat)).run before).2 := by
  rcases acquire_cases line before with ⟨cause, _, large | held⟩ | ⟨_, _, acquired⟩
  · exact absurd large.1 small
  · exact absurd held.1 free
  rcases acquired with failure | success
  · obtain ⟨log, journal, cause, after, run, does, unacquired⟩ := failure
    rw [run]
    refine ⟨⟨log, does.calls, unacquired.exportGoes⟩, fun _ _ => ⟨does.used, ?_⟩, nofun⟩
    exact handles_acquire numbered run
  · obtain ⟨log, journal, handle, after, run, handsOut, acquired⟩ := success
    rw [run]
    refine ⟨⟨log, handsOut.calls, acquired.exportGoes handle⟩, nofun, fun _ _ => ?_⟩
    exact ⟨handsOut.used, read_acquire tidy run⟩

/-- At any time in any session a line that is one and is not held is exported as a whole, or nothing is
left of it, whatever files there are and whatever fails.
-/
theorem exports_whole_or_not_at_all (env : Environment) (base : String) (withFixture : Bool)
    (lines : List UInt32) (removed : List Path) (files : List (Path × Option Bytes))
    (faults : List Fault) (actions : List Action) (line : UInt32)
    : let start := { prepare base withFixture lines removed files with faults }
      let before := (reach env ({}, start) actions).2
      line < lineCount
      → line ∉ before.used
      → ExportsWhole line before
          ((acquire line : StateM Machine (Except GpioError Nat)).run before).1
          ((acquire line : StateM Machine (Except GpioError Nat)).run before).2 := by
  intro start before small free
  have tidy : Tidy before :=
    tidy_reach env (tidy_prepare base withFixture lines removed files faults) actions
  have unopened : start.Numbered := List.forall_mem_nil _
  exact exportsWhole tidy (numbered_reach env unopened actions) (UInt32.not_le.mpr small) free

/-- The value of a line cannot be opened, and the line cannot be unexported then. It is turned back all
the same, and the first failure is reported.
-/
theorem exports_whole_or_not_at_all_without_value
    : let unopened : Fault := { file := "gpio18/value", call := .opening, errno := .eacces }
      let stuck : Fault := { file := "unexport", call := .writing, errno := .eio }
      let start := { prepare "gpio" true [18] [] [] with faults := [unopened, stuck] }
      let before := (reach {} ({}, start) []).2
      let outcome := (acquire 18 : StateM Machine (Except GpioError Nat)).run before
      18 < lineCount ∧ 18 ∉ before.used
      ∧ outcome.1 = .error (.configureFailed 18 (Errno.kind .eacces))
      ∧ outcome.2.calls.toList
        = [.opened .exportFile true none, .wrote .exportFile "18\n" none, .closed .exportFile,
          .opened (.direction 18) true none, .wrote (.direction 18) "low" none,
          .closed (.direction 18), .opened (.value 18) false (some .eacces),
          .opened (.direction 18) true none, .wrote (.direction 18) "in" none,
          .closed (.direction 18), .opened .unexportFile true none,
          .wrote .unexportFile "18\n" (some .eio), .closed .unexportFile]
      ∧ ExportsWhole 18 before outcome.1 outcome.2 := by
  intro unopened stuck start before outcome
  have free : 18 ∉ before.used := List.not_mem_nil
  exact ⟨by decide, free, by decide +kernel, by decide +kernel,
    exports_whole_or_not_at_all {} "gpio" true [18] [] [] _ [] 18 (by decide) free⟩

end CharLcd.Sysfs

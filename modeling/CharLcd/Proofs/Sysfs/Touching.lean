import CharLcd.Proofs.Sysfs.Confinement
import CharLcd.Proofs.Sysfs.Overwriting
import CharLcd.Proofs.Sysfs.Tidiness

/-! A step touches only the files of its own lines.

These are the lines in the slot that the step is about, and those that it asks for as long as nobody else
holds them. Whatever succeeds or fails on the way, and whatever is undone, no file call is on a file of
another line. So all other files have the same content after the step, and so have the files of lines
that are held elsewhere.
-/

namespace CharLcd.Sysfs

open Machine

-----------------------------------------------------------------------------------------
-- The files that a step may touch
-----------------------------------------------------------------------------------------

/-- Whether a step may touch the files of a line: it is one of the lines in the slot of the step, or one
that the step asks for, and nobody else holds it.
-/
def Concerned (env : Environment) (session : Session Nat) (step : Step) (number : UInt32) : Prop :=
  (number ∈ (session.linesIn (session.slotOf step)).map Line.number ∨ number ∈ step.asks env)
  ∧ Available (session.linesBeside (session.slotOf step)) number

/-- Whether a step may touch a control file, which is one of such a line or one that takes numbers. -/
def ControlFile.Within (env : Environment) (session : Session Nat) (step : Step)
    (file : ControlFile)
    : Prop :=
  ∀ number, file.line? = some number → Concerned env session step number

/-- The calls of a step: those to the driver, with an account of the lines in its slot, and the file
calls and delays that are made in them, as they are on the record of the machine.
-/
structure Recounted (env : Environment) (session : Session Nat) (before : Machine) (step : Step)
    (log : List Call)
    : Prop where
  record : (afterStep env session before step).calls.toList = before.calls.toList ++ log
  /-- The step writes and releases only lines that are in its slot at that time, and acquires only
  lines that it asks for. -/
  ledger : Ledger (step.asks env) (session.linesIn (session.slotOf step))
    (session.deed env step before).calls
    ((perform env (session, before) (.step step)).2.1.linesIn (session.slotOf step))
  /-- Each file call is made for the line that the call to the driver is about. -/
  carried : Carried (session.linesBeside (session.slotOf step)) (session.deed env step before).calls
    log

/-- What a step does to the files of a machine, with its file calls and delays in `log`. -/
structure Confined (env : Environment) (session : Session Nat) (before : Machine) (step : Step)
    (log : List Call)
    : Prop extends Recounted env session before step log where
  /-- A file call is on a file that takes the numbers of lines, or on one of a line that the step may
  touch. -/
  serves : ∀ call ∈ log, call.file? ≠ none →
    ∃ number, Concerned env session step number ∧ call.serves number
  /-- What is used is written and rewound behind handles that are open already. -/
  uses : step.uses = true → ∀ call ∈ log, call.file? ≠ none →
    ∃ line ∈ session.linesIn (session.slotOf step),
      before.fileOf line.handle = some (.value line.number) ∧ call.rewrites line.number
  /-- No file is called for an output that was released or a connection that was closed. -/
  without : ∀ slot, step.slot? = some slot → session.linesIn slot = [] →
    ∀ call ∈ log, call.file? = none
  /-- Nothing is called for a number that is too large or held already. -/
  refused : ∀ number, step = .export number →
    lineCount ≤ number ∨ number ∈ session.lines.map Line.number → log = []
  /-- No file is called to set up a display with a number that is none of a line. -/
  invalid : step.setup? env ≠ none → ∀ signal value,
    (perform env (session, before) (.step step)).1 = .rejected (.invalidPin signal value) →
      ∀ call ∈ log, call.file? = none
  names : (afterStep env session before step).tree.entries = before.tree.entries
  /-- A file is not changed unless it is in the place of one that the step may touch. -/
  contents : ∀ place number, before.tree.entry? place = some (.file number) →
    (∀ file, file.Within env session step → place ≠ before.placeOf file) →
      (afterStep env session before step).tree.content number = before.tree.content number
  /-- The files of a line that somebody else holds are not changed, neither where they are found nor
  what is open. -/
  others : ∀ slot, slot ≠ session.slotOf step → ∀ line ∈ session.linesIn slot,
    (∀ file, file.line? = some line.number →
      (afterStep env session before step).read file = before.read file)
    ∧ ∀ opened, before.openFile? line.handle = some opened →
      (afterStep env session before step).tree.content opened.number
        = before.tree.content opened.number

-----------------------------------------------------------------------------------------
-- Steps
-----------------------------------------------------------------------------------------

theorem Call.serves_file {call : Call} {file : ControlFile} {number : UInt32}
    (serves : call.serves number) (about : call.file? = some file)
    : file.serves number := by
  cases call with
  | opened | sought | closed =>
      cases about
      exact serves
  | wrote =>
      cases about
      exact serves.1
  | delayed => cases about

variable {base : String} {env : Environment} {session : Session Nat} {before : Machine}
variable {step : Step} {log : List Call}

/-- A step may not touch the files of a line that somebody else holds. -/
theorem ControlFile.not_within {slot : Slot} (apart : slot ≠ session.slotOf step) {line : Line Nat}
    (member : line ∈ session.linesIn slot) {file : ControlFile}
    (own : file.line? = some line.number)
    : ¬file.Within env session step := by
  intro inside
  refine (inside line.number own).2.2 (List.mem_map_of_mem ?_)
  exact session.linesIn_subset_linesBeside apart member

/-- Every step can be recounted. -/
theorem recounted_step (env : Environment) (accounts : Accounts base session.lines before)
    (step : Step)
    : ∃ log, Recounted env session before step log := by
  have split := (keeper base).perm (session.lines_perm_linesIn (session.slotOf step)) accounts
  have ledger := session.ledger_linesIn env step before describe_still
  obtain ⟨log, record, carried⟩ :=
    carried_of_performs split ledger (session.done env step before describe_still).performs
  exact ⟨log, record, ledger, carried⟩

namespace Recounted

/-- A file call serves a line that the step may touch. -/
theorem serves (recounted : Recounted env session before step log) {call : Call}
    (member : call ∈ log) (file : call.file? ≠ none)
    : ∃ number, Concerned env session step number ∧ call.serves number := by
  obtain ⟨made, inside, number, about, available, serves⟩ := recounted.carried.serves member file
  exact ⟨number, ⟨recounted.ledger.known inside about, available⟩, serves⟩

/-- Without lines in its slot a step that asks for none calls no file. -/
theorem file?_eq_none (recounted : Recounted env session before step log)
    (empty : session.linesIn (session.slotOf step) = []) (quiet : step.asks env = [])
    : ∀ call ∈ log, call.file? = none := by
  intro call member
  by_contra file
  obtain ⟨number, ⟨known, _⟩, _⟩ := recounted.serves member file
  rw [empty, quiet] at known
  exact known.elim List.not_mem_nil List.not_mem_nil

/-- A file whose content is another one after the step stood for a control file that the step may
touch.
-/
theorem changes (recounted : Recounted env session before step log) {number : Nat}
    (different
      : (afterStep env session before step).tree.content number ≠ before.tree.content number)
    : ∃ file, file.Within env session step ∧ before.Stands number file := by
  obtain ⟨made, same, changes⟩ := (recorded_step env session before step).record
  obtain rfl := List.append_cancel_left (same.symm.trans recounted.record)
  obtain ⟨call, member, file, about, stood⟩ := changes number different
  obtain ⟨line, concerned, serves⟩ := recounted.serves member (by simp [about])
  refine ⟨file, fun number own => ?_, stood⟩
  rw [Call.serves_file serves about number own]
  exact concerned

/-- What stands for a control file that the step may not touch has the same content afterwards. -/
theorem content_of_stands (recounted : Recounted env session before step log) (tidy : Tidy before)
    {number : Nat} {file : ControlFile} (stands : before.Stands number file)
    (outside : ¬file.Within env session step)
    : (afterStep env session before step).tree.content number = before.tree.content number := by
  by_contra different
  obtain ⟨other, inside, stood⟩ := recounted.changes different
  exact outside (tidy.eq_of_stands stands stood ▸ inside)

/-- What is read of a control file that the step may not touch is the same afterwards. -/
theorem read_eq (recounted : Recounted env session before step log) (tidy : Tidy before)
    (named : (afterStep env session before step).base = before.base) {file : ControlFile}
    (outside : ¬file.Within env session step)
    : (afterStep env session before step).read file = before.read file := by
  have recorded := recorded_step env session before step
  rw [Machine.read, Machine.read, locate_congr named recorded.directory recorded.names]
  cases found : before.locate file with
  | error errno => rfl
  | ok number =>
      exact congrArg Except.ok (recounted.content_of_stands tidy (.of_locate found) outside)

end Recounted

/-- A number that is refused leaves the machine as it was. -/
theorem afterStep_of_refused (accounts : Accounts base session.lines before) {number : UInt32}
    (refused : lineCount ≤ number ∨ number ∈ session.lines.map Line.number)
    : afterStep env session before (.export number) = before := by
  have taken : lineCount ≤ number ∨ number ∈ before.used :=
    refused.imp_right fun held => accounts.used.symm.subset held
  rcases acquire_cases number before with ⟨cause, run, _⟩ | ⟨small, free, _⟩
  · have acquires
        : (LineDriver.acquire number : StateM Machine (Except GpioError Nat)).run before
          = (.error cause, before) :=
      run
    simp only [afterStep, Acting.perform, act, Session.step, Session.exportLine, Output.acquire, bind_assoc,
      pure_bind, StateT.run_bind, acquires]
    rfl
  · exact (taken.elim small free).elim

/-- A step is confined to the files that it may touch. -/
theorem confined_step (env : Environment) (accounts : Accounts base session.lines before)
    (tidy : Tidy before) (step : Step)
    : ∃ log, Confined env session before step log := by
  obtain ⟨log, recounted⟩ := recounted_step env accounts step
  have held {slot : Slot} {line : Line Nat} (member : line ∈ session.linesIn slot)
      : line ∈ session.lines :=
    (session.lines_perm_linesIn slot).symm.subset (List.mem_append_left _ member)
  refine ⟨log,
    { toRecounted := recounted
      serves := fun call member file => recounted.serves member file
      uses := fun uses call member file => ?_
      without := fun slot about empty => ?_
      refused := fun number same large => ?_
      invalid := fun sets signal value rejected => ?_
      names := (recorded_step env session before step).names
      contents := fun place number found outside => ?_
      others := fun slot apart line member => ⟨fun file own => ?_, fun opened present => ?_⟩ }⟩
  · obtain ⟨line, own, rewrites⟩ :=
      recounted.carried.rewrites (session.deed_uses env uses before describe_still) member file
    exact ⟨line, own, accounts.live.opened line (held own), rewrites⟩
  · rw [← session.slotOf_eq about] at empty
    exact recounted.file?_eq_none empty (step.asks_of_slot env about)
  · subst same
    have record := recounted.record
    rw [afterStep_of_refused accounts large] at record
    exact List.append_cancel_left (record.symm.trans (List.append_nil _).symm)
  · have new : step.slot? = none := by
      cases step <;> first | rfl | exact absurd rfl sets
    exact recounted.file?_eq_none (session.linesIn_of_new new)
      (step.asks_of_invalidPin env session sets rejected)
  · by_contra different
    obtain ⟨file, inside, stood⟩ := recounted.changes different
    have there := tidy.place_of_stands stood (FileTree.mem_entries_of_entry? found) rfl
    exact outside file inside (Place.ofPath_inj.mp there)
  · have named := ((keeper base).step env session step accounts).named.trans accounts.named.symm
    exact recounted.read_eq tidy named (ControlFile.not_within apart member own)
  · have opens := accounts.live.opened line (held member)
    rw [fileOf, present] at opens
    have stands : before.Stands opened.number (.value line.number) :=
      Or.inr ⟨line.handle, opened, present, rfl, Option.some.inj opens⟩
    exact recounted.content_of_stands tidy stands (ControlFile.not_within apart member rfl)

/-- In every session, whatever was done to the files from outside and whichever calls fail, a step is
confined to the files of the lines in its own slot and of those that it acquires.
-/
theorem session_confined (env : Environment) (base : String) (withFixture : Bool)
    (lines : List UInt32) (removed : List Path) (files : List (Path × Option Bytes))
    (faults : List Fault) (actions : List Action) (step : Step)
    : let start : Machine := { prepare base withFixture lines removed files with faults }
      let reached := reach env ({}, start) actions
      ∃ log, Confined env reached.1 reached.2 step log := by
  intro start reached
  have accounts : Accounts base reached.1.lines reached.2 :=
    accounts_reach env (accounts_fresh base start.directory start.tree faults) actions
  have tidy : Tidy reached.2 :=
    tidy_reach env (tidy_prepare base withFixture lines removed files faults) actions
  exact confined_step env accounts tidy step

end CharLcd.Sysfs

import CharLcd.Proofs.Sysfs.Files

/-! What the driver does to a machine when it hands out, writes and takes back lines, whatever fails.

Each operation is a row of attempts to write control files. An attempt is reported when it starts,
and then opens its file, writes it and closes it, as far as that succeeds; so what an operation does
can be told from the calls and the reports that it leaves behind.
-/

namespace CharLcd.Sysfs

open Machine

-----------------------------------------------------------------------------------------
-- Attempts
-----------------------------------------------------------------------------------------

/-- The calls of an attempt to replace the content of a control file, with its result. -/
inductive Attempt (base : String) (file : ControlFile) (text : String)
    : List Call → Except Errno Unit → Prop where
  | impossible (errno : Errno) : Unnameable base → Attempt base file text [] (.error errno)
  | unopened (errno : Errno) :
      ¬Unnameable base
      → Attempt base file text [.opened file true (some errno)] (.error errno)
  | written (failure : Option Errno) :
      ¬Unnameable base
      → Attempt base file text
          [.opened file true none, .wrote file text failure, .closed file]
          (failure.elim (.ok ()) .error)

variable {α β : Type} {base : String}

/-- An attempt that succeeds was possible. -/
theorem Attempt.nameable {file : ControlFile} {text : String} {log : List Call}
    {result : Except Errno Unit} (attempt : Attempt base file text log result)
    (succeeds : result = .ok ())
    : ¬Unnameable base := by
  cases attempt with
  | impossible => cases succeeds
  | unopened => cases succeeds
  | written failure nameable => exact nameable

/-- From a machine with this directory on, a program makes calls and reports that `spec` relates to
its result.
-/
def Acts (base : String) (x : StateM Machine α)
    (spec : List Call → List Note → α → Prop)
    : Prop :=
  ∀ before : Machine, before.base = base
    → ∃ log journal, Does log journal before (x.run before).2 ∧ spec log journal (x.run before).1

namespace Acts

theorem pure {value : α} {spec : List Call → List Note → α → Prop} (holds : spec [] [] value)
    : Acts base (pure value) spec :=
  fun before _ => ⟨[], [], .refl before, holds⟩

/-- What a sequence does is what its parts do, one after the other. -/
theorem bind {x : StateM Machine α} {f : α → StateM Machine β}
    {spec : List Call → List Note → α → Prop} {post : List Call → List Note → β → Prop}
    (first : Acts base x spec)
    (next
      : ∀ value log journal,
          spec log journal value
          → Acts base (f value) fun rest others result =>
              post (log ++ rest) (journal ++ others) result)
    : Acts base (x >>= f) post := by
  intro before named
  obtain ⟨log, journal, does, holds⟩ := first before named
  obtain ⟨rest, others, goesOn, result⟩ := next _ log journal holds _ (does.base.trans named)
  exact ⟨log ++ rest, journal ++ others, does.trans goesOn, result⟩

theorem noted (entry : Note)
    : Acts base (note entry : StateM Machine Unit)
        fun log journal _ => log = [] ∧ journal = [entry] :=
  fun _ _ =>
    ⟨[], [entry], ⟨(List.append_nil _).symm, Array.toList_push, rfl, rfl, Nat.le_refl _,
      fun _ _ => rfl⟩, rfl, rfl⟩

end Acts

/-- A machine that has reported something. -/
def Machine.reporting (machine : Machine) (entry : Note) : Machine :=
  { machine with notes := machine.notes.push entry }

/-- The parts of a sequence run one after the other. -/
theorem run_sequence {σ : Type} (x : StateM σ α) (f : α → StateM σ β) (s : σ)
    : (x >>= f).run s = (f (x.run s).1).run (x.run s).2 :=
  rfl

theorem run_base (machine : Machine)
    : (Host.base : StateM Machine String).run machine = (machine.base, machine) :=
  rfl

theorem run_note (machine : Machine) (entry : Note)
    : (note entry : StateM Machine Unit).run machine = ((), machine.reporting entry) :=
  rfl

theorem run_used (machine : Machine)
    : (Host.used : StateM Machine (List UInt32)).run machine = (machine.used, machine) :=
  rfl

theorem run_openFile (machine : Machine) (file : ControlFile) (truncate : Bool)
    : (Host.openFile file truncate : StateM Machine (Except Errno Nat)).run machine
      = openFile file truncate machine :=
  rfl

theorem run_writeFile (machine : Machine) (handle : Nat) (text : String)
    : (Host.writeFile handle text : StateM Machine (Except Errno Unit)).run machine
      = writeFile handle text machine :=
  rfl

theorem run_rewind (machine : Machine) (handle : Nat)
    : (Host.rewind handle : StateM Machine (Except Errno Unit)).run machine
      = rewind handle machine :=
  rfl

theorem run_closeFile (machine : Machine) (handle : Nat)
    : (Host.closeFile handle : StateM Machine Unit).run machine = ((), closeFile handle machine) :=
  rfl

/-- The report that a control file is about to be written. -/
def announcement (base : String) (file : ControlFile) (text : String) : Note :=
  .writingFile (file.fullPath base) text

/-- Replacing the content of a file: a report, then the file is opened, written and closed. -/
theorem writeControl_run (file : ControlFile) (text : String) (machine : Machine)
    : (writeControl file text : StateM Machine (Except Errno Unit)).run machine
      = match (machine.reporting (announcement machine.base file text)).openFile file true with
        | (.error errno, after) => (.error errno, after)
        | (.ok handle, after) =>
            ((writeFile handle text after).1, closeFile handle (writeFile handle text after).2) := by
  simp only [writeControl, run_sequence, run_base, run_note, run_openFile, announcement]
  rcases openFile file true (machine.reporting (.writingFile (file.fullPath machine.base) text))
    with ⟨errno | handle, after⟩
  · rfl
  · rfl

theorem Machine.does_reporting (machine : Machine) (entry : Note)
    : Does [] [entry] machine (machine.reporting entry) where
  calls := (List.append_nil _).symm
  notes := Array.toList_push
  used := rfl
  base := rfl
  fresh := Nat.le_refl _
  files _ _ := rfl

/-- A new handle that is closed again leaves nothing behind. -/
theorem Machine.Does.closing {log rest : List Call} {journal others : List Note}
    {before middle after : Machine} {file : ControlFile}
    (opens : Does log journal before middle)
    (files
      : ∀ handle, middle.fileOf handle
          = if handle = before.nextHandle then some file else before.fileOf handle)
    (goesOn : Does rest others middle after)
    (kept : ∀ handle, after.fileOf handle = middle.fileOf handle)
    : Does (log ++ rest ++ [.closed file]) (journal ++ others) before
        (closeFile before.nextHandle after) := by
  have opened : after.fileOf before.nextHandle = some file := by
    rw [kept, files, if_pos rfl]
  obtain ⟨calls, notes, used, base, next, closed⟩ := closeFile_of_open opened
  have both := opens.trans goesOn
  refine ⟨?_, ?_, used.trans both.used, base.trans both.base, next ▸ both.fresh, ?_⟩
  · rw [calls, both.calls, List.append_assoc]
  · rw [notes, both.notes]
  · intro handle old
    rw [closed, if_neg (Nat.ne_of_lt old), kept, files, if_neg (Nat.ne_of_lt old)]

/-- Replacing the content of a file is an attempt that is reported first. -/
theorem acts_writeControl (file : ControlFile) (text : String)
    : Acts base (writeControl file text) fun log journal result =>
        Attempt base file text log result ∧ journal = [announcement base file text] := by
  intro before same
  subst same
  let start := before.reporting (announcement before.base file text)
  have reported : Does [] [announcement before.base file text] before start :=
    before.does_reporting _
  rw [writeControl_run]
  by_cases unnameable : Unnameable before.base
  · have refused : start.openFile file true = (.error .einval, start) := if_pos unnameable
    rw [refused]
    exact ⟨[], _, reported, .impossible _ unnameable, rfl⟩
  · have made : start.openFile file true = openLocated file true start :=
      if_neg unnameable
    rw [made]
    rcases openLocated_cases file true start with ⟨errno, after, opens, does⟩ | opened
    · rw [opens]
      exact ⟨_, _, reported.trans does, .unopened errno unnameable, rfl⟩
    · obtain ⟨middle, opens, does, next, files⟩ := opened
      have behind : middle.fileOf start.nextHandle = some file := by
        rw [files, if_pos rfl]
      obtain ⟨failure, after, writes, wrote, _, kept⟩ := writeFile_cases behind text
      rw [opens]
      simp only [writes]
      exact ⟨_, _, reported.trans (does.closing files wrote kept), .written failure unnameable, rfl⟩

-----------------------------------------------------------------------------------------
-- Exporting, reverting and unexporting
-----------------------------------------------------------------------------------------

/-- How a line is exported: the attempt succeeds, or the line is exported already, or there is a
failure.
-/
inductive Exports (base : String) (line : UInt32)
    : List Call → List Note → Except Errno Export → Prop where
  | fresh {log : List Call} :
      Attempt base .exportFile (numberLine line) log (.ok ())
      → Exports base line log [announcement base .exportFile (numberLine line)] (.ok .fresh)
  | existing {log : List Call} {errno : Errno} :
      errno.kind = .resourceBusy
      → Attempt base .exportFile (numberLine line) log (.error errno)
      → Exports base line log [announcement base .exportFile (numberLine line)] (.ok .existing)
  | failed {log : List Call} {errno : Errno} :
      errno.kind ≠ .resourceBusy
      → Attempt base .exportFile (numberLine line) log (.error errno)
      → Exports base line log [announcement base .exportFile (numberLine line)] (.error errno)

theorem acts_exportLine (line : UInt32) : Acts base (exportLine line) (Exports base line) := by
  apply (acts_writeControl .exportFile (numberLine line)).bind
  intro result log journal both
  obtain ⟨attempt, rfl⟩ := both
  cases result with
  | ok => exact .pure (by simpa using Exports.fresh attempt)
  | error errno =>
      refine .pure ?_
      rw [List.append_nil, List.append_nil]
      split_ifs with busy
      · exact .existing busy attempt
      · exact .failed busy attempt

/-- An attempt that is reported before, and afterwards once more if it failed. -/
def Reports (base : String) (file : ControlFile) (text : String) (complaint : Errno → Note)
    (log : List Call) (journal : List Note) (result : Except Errno Unit)
    : Prop :=
  Attempt base file text log result
  ∧ journal
    = announcement base file text
      :: (match result with
          | .ok () => []
          | .error errno => [complaint errno])

/-- A line is turned into an input. -/
def Reverts (base : String) (line : UInt32)
    : List Call → List Note → Except Errno Unit → Prop :=
  Reports base (.direction line) "in" (.revertFailed line)

/-- A line is unexported. -/
def Unexports (base : String) (line : UInt32)
    : List Call → List Note → Except Errno Unit → Prop :=
  Reports base .unexportFile (numberLine line) (.unexportFailed line)

theorem acts_reporting (file : ControlFile) (text : String) (complaint : Errno → Note)
    : Acts base
        (do
          let result ← writeControl file text
          if let .error errno := result then
            note (complaint errno)
          return result
          : StateM Machine (Except Errno Unit))
        (Reports base file text complaint) := by
  apply (acts_writeControl file text).bind
  intro result log journal both
  obtain ⟨attempt, rfl⟩ := both
  cases result with
  | ok => exact .pure ⟨by simpa using attempt, by simp⟩
  | error errno =>
      apply (Acts.noted _).bind
      intro _ rest others both
      obtain ⟨rfl, rfl⟩ := both
      exact .pure ⟨by simpa using attempt, by simp⟩

theorem acts_revert (line : UInt32) : Acts base (revert line) (Reverts base line) :=
  acts_reporting _ _ _

theorem acts_unexport (line : UInt32) : Acts base (unexport line) (Unexports base line) :=
  acts_reporting _ _ _

/-- How a line that could not be set up is given back: it is unexported, unless it was exported
before.
-/
def Abandons (base : String) (line : UInt32) (exported : Export) (log : List Call)
    (journal : List Note)
    : Prop :=
  match exported with
  | .existing => log = [] ∧ journal = [.leftExported line]
  | .fresh => ∃ result, Unexports base line log journal result

theorem acts_abandon (line : UInt32) (exported : Export)
    : Acts base (abandon line exported : StateM Machine Unit) fun log journal _ =>
        Abandons base line exported log journal := by
  cases exported with
  | existing => exact Acts.noted _
  | fresh =>
      refine (acts_unexport line).bind fun result log journal unexports => .pure ?_
      exact ⟨result, by simpa using unexports⟩

-----------------------------------------------------------------------------------------
-- Handing out a line
-----------------------------------------------------------------------------------------

/-- How an exported line fails to be set up as an output: either its direction cannot be set, or its
value cannot be opened then and the direction is turned back. Either way the line is given back.
-/
inductive Unconfigured (base : String) (line : UInt32) (exported : Export)
    : List Call → List Note → GpioError → Prop where
  | undirected {log rest : List Call} {others : List Note} {errno : Errno} :
      Attempt base (.direction line) "low" log (.error errno)
      → Abandons base line exported rest others
      → Unconfigured base line exported (log ++ rest)
          (announcement base (.direction line) "low" :: others)
          (.configureFailed line errno.kind)
  | unopened {log turned rest : List Call} {journal others : List Note} {errno : Errno}
      {result : Except Errno Unit} :
      Attempt base (.direction line) "low" log (.ok ())
      → Reverts base line turned journal result
      → Abandons base line exported rest others
      → Unconfigured base line exported
          (log ++ .opened (.value line) false (some errno) :: (turned ++ rest))
          (announcement base (.direction line) "low" :: (journal ++ others))
          (.configureFailed line errno.kind)

/-- An exported line is set up, and its value is open behind a new handle; or it is given back. -/
theorem configure_cases (line : UInt32) (exported : Export) (before : Machine)
    : (∃ log journal cause after,
        (configure line exported : StateM Machine (Except GpioError Nat)).run before
          = (.error cause, after)
        ∧ Does log journal before after
        ∧ Unconfigured before.base line exported log journal cause)
      ∨ ∃ log handle after,
          (configure line exported : StateM Machine (Except GpioError Nat)).run before
            = (.ok handle, after)
          ∧ Does (log ++ [.opened (.value line) false none])
              [announcement before.base (.direction line) "low"] before after
          ∧ Attempt before.base (.direction line) "low" log (.ok ())
          ∧ before.nextHandle ≤ handle ∧ handle < after.nextHandle
          ∧ after.fileOf handle = some (.value line) := by
  obtain ⟨log, journal, does, attempt, rfl⟩ :=
    acts_writeControl (.direction line) "low" before rfl
  rw [configure, run_sequence]
  generalize (writeControl (.direction line) "low" : StateM Machine _).run before = outcome at *
  obtain ⟨errno | _, middle⟩ := outcome
  · obtain ⟨rest, others, goesOn, abandons⟩ := acts_abandon line exported middle does.base
    refine Or.inl ⟨_, _, _, _, rfl, does.trans goesOn, .undirected attempt abandons⟩
  · have nameable : ¬Unnameable middle.base := by
      rw [does.base]
      exact attempt.nameable rfl
    have made : middle.openFile (.value line) false = openLocated (.value line) false middle :=
      if_neg nameable
    simp only [run_sequence, run_openFile, made]
    rcases openLocated_cases (.value line) false middle with ⟨errno, after, opens, failed⟩ | opened
    · simp only [opens, run_sequence]
      have named := failed.base.trans does.base
      obtain ⟨turned, journal, turns, reverts⟩ := acts_revert line after named
      generalize (revert line : StateM Machine _).run after = outcome at *
      obtain ⟨result, turnedBack⟩ := outcome
      obtain ⟨rest, others, goesOn, abandons⟩ :=
        acts_abandon line exported turnedBack (turns.base.trans named)
      refine Or.inl ⟨_, _, _, _, rfl, ?_, .unopened attempt reverts abandons⟩
      exact does.trans (failed.trans (turns.trans goesOn))
    · obtain ⟨after, opens, opened, next, files⟩ := opened
      rw [opens]
      refine Or.inr ⟨log, _, after, rfl, does.trans opened, attempt, does.fresh, ?_, ?_⟩
      · omega
      · rw [files, if_pos rfl]

/-- What is remarked on a line that was exported before. -/
def remarks (line : UInt32) : Export → List Note
  | .fresh => []
  | .existing => [.alreadyExported line]

/-- How handing out a line fails after the checks. -/
inductive Unacquired (base : String) (line : UInt32)
    : List Call → List Note → GpioError → Prop where
  | unexported {log : List Call} {journal : List Note} {errno : Errno} :
      Exports base line log journal (.error errno)
      → Unacquired base line log journal (.exportFailed line errno.kind)
  | unconfigured {log rest : List Call} {journal others : List Note} {exported : Export}
      {cause : GpioError} :
      Exports base line log journal (.ok exported)
      → Unconfigured base line exported rest others cause
      → Unacquired base line (log ++ rest) (journal ++ (remarks line exported ++ others)) cause

/-- How a line is handed out: exported, turned into an output, and opened. -/
inductive Acquired (base : String) (line : UInt32) : List Call → List Note → Prop where
  | configured {log rest : List Call} {journal : List Note} {exported : Export} :
      Exports base line log journal (.ok exported)
      → Attempt base (.direction line) "low" rest (.ok ())
      → Acquired base line (log ++ (rest ++ [.opened (.value line) false none]))
          (journal ++ (remarks line exported
            ++ [announcement base (.direction line) "low", .lineExported line]))

/-- A machine that has handed out one line more. -/
structure HandsOut (line : UInt32) (handle : Nat) (log : List Call) (journal : List Note)
    (before after : Machine)
    : Prop where
  calls : after.calls.toList = before.calls.toList ++ log
  notes : after.notes.toList = before.notes.toList ++ journal
  used : after.used = insertAscending line before.used
  base : after.base = before.base
  fresh : before.nextHandle ≤ handle
  next : handle < after.nextHandle
  opened : after.fileOf handle = some (.value line)
  files : ∀ other < before.nextHandle, after.fileOf other = before.fileOf other

theorem Machine.Does.handsOut {line : UInt32} {handle : Nat} {log rest : List Call}
    {journal others : List Note} {before middle after : Machine}
    (does : Does log journal before middle) (handsOut : HandsOut line handle rest others middle after)
    : HandsOut line handle (log ++ rest) (journal ++ others) before after where
  calls := by rw [handsOut.calls, does.calls, List.append_assoc]
  notes := by rw [handsOut.notes, does.notes, List.append_assoc]
  used := handsOut.used.trans (congrArg _ does.used)
  base := handsOut.base.trans does.base
  fresh := Nat.le_trans does.fresh handsOut.fresh
  next := handsOut.next
  opened := handsOut.opened
  files other old :=
    (handsOut.files other (Nat.lt_of_lt_of_le old does.fresh)).trans (does.files other old)

/-- The end of handing out a line: an exported line is set up and entered in the account. -/
def enter (line : UInt32) (exported : Export) : StateM Machine (Except GpioError Nat) := do
  match ← configure line exported with
  | .error error => return .error error
  | .ok handle =>
      Host.setUsed (insertAscending line (← Host.used))
      note (.lineExported line)
      return .ok handle

/-- An exported line is entered in the account, or it is given back. -/
theorem enter_cases (line : UInt32) (exported : Export) (before : Machine)
    : (∃ log journal cause after,
        (enter line exported).run before = (.error cause, after)
        ∧ Does log journal before after
        ∧ Unconfigured before.base line exported log journal cause)
      ∨ ∃ log handle after,
          (enter line exported).run before = (.ok handle, after)
          ∧ HandsOut line handle (log ++ [.opened (.value line) false none])
              [announcement before.base (.direction line) "low", .lineExported line] before after
          ∧ Attempt before.base (.direction line) "low" log (.ok ()) := by
  rw [enter, run_sequence]
  rcases configure_cases line exported before
    with ⟨log, journal, cause, after, run, does, failed⟩ | configured
  · rw [run]
    exact Or.inl ⟨log, journal, cause, after, rfl, does, failed⟩
  · obtain ⟨log, handle, after, run, does, attempt, fresh, next, opened⟩ := configured
    rw [run]
    refine Or.inr ⟨log, handle, _, rfl, ⟨does.calls, ?_, ?_, does.base, fresh, next, opened,
      does.files⟩, attempt⟩
    · exact (Array.toList_push.trans (congrArg (· ++ [.lineExported line]) does.notes)).trans
        (List.append_assoc _ _ _)
    · exact congrArg (insertAscending line) does.used

/-- The report that a line was exported before, if it was. -/
def Machine.remarking (machine : Machine) (line : UInt32) : Export → Machine
  | .fresh => machine
  | .existing => machine.reporting (.alreadyExported line)

theorem Machine.does_remarking (machine : Machine) (line : UInt32) (exported : Export)
    : Does [] (remarks line exported) machine (machine.remarking line exported) := by
  cases exported with
  | fresh => exact .refl machine
  | existing => exact machine.does_reporting _

/-- A line that is not refused is exported, and entered in the account if that succeeds. -/
theorem acquire_run {line : UInt32} {before : Machine} (small : ¬lineCount ≤ line)
    (free : line ∉ before.used)
    : (acquire line : StateM Machine (Except GpioError Nat)).run before
      = match (exportLine line : StateM Machine (Except Errno Export)).run before with
        | (.error errno, after) => (.error (.exportFailed line errno.kind), after)
        | (.ok exported, after) => (enter line exported).run (after.remarking line exported) := by
  unfold acquire
  rw [if_neg small, run_sequence]
  simp only [run_used]
  rw [if_neg free, run_sequence]
  rcases (exportLine line : StateM Machine _).run before with ⟨errno | exported, middle⟩
  · rfl
  -- What follows is the same program with the same cases, so the cases are gone through here.
  · cases exported with
    | fresh =>
        simp only [reduceCtorEq, if_false]
        refine congrArg (fun program => StateT.run program middle) (bind_congr fun result => ?_)
        cases result <;> rfl
    | existing =>
        simp only [if_true]
        rw [run_sequence (note _), run_note]
        refine congrArg (fun program => StateT.run program _) (bind_congr fun result => ?_)
        cases result <;> rfl

/-- A line that is refused leaves the machine as it was. Otherwise it is handed out behind a new
handle, or there is a failure in one of its files.
-/
theorem acquire_cases (line : UInt32) (before : Machine)
    : (∃ cause,
        (acquire line : StateM Machine (Except GpioError Nat)).run before = (.error cause, before)
        ∧ (lineCount ≤ line ∧ cause = .invalidArgument
          ∨ line ∈ before.used ∧ cause = .alreadyInUse))
      ∨ ¬lineCount ≤ line ∧ line ∉ before.used
        ∧ ((∃ log journal cause after,
            (acquire line : StateM Machine (Except GpioError Nat)).run before
              = (.error cause, after)
            ∧ Does log journal before after
            ∧ Unacquired before.base line log journal cause)
          ∨ ∃ log journal handle after,
            (acquire line : StateM Machine (Except GpioError Nat)).run before
              = (.ok handle, after)
            ∧ HandsOut line handle log journal before after
            ∧ Acquired before.base line log journal) := by
  by_cases large : lineCount ≤ line
  · refine Or.inl ⟨_, ?_, Or.inl ⟨large, rfl⟩⟩
    rw [acquire, if_pos large]
    rfl
  by_cases taken : line ∈ before.used
  · refine Or.inl ⟨_, ?_, Or.inr ⟨taken, rfl⟩⟩
    rw [acquire, if_neg large, run_sequence]
    simp only [run_used, if_pos taken]
    rfl
  refine Or.inr ⟨large, taken, ?_⟩
  rw [acquire_run large taken]
  obtain ⟨log, journal, does, exports⟩ := acts_exportLine line before rfl
  generalize (exportLine line : StateM Machine _).run before = outcome at *
  obtain ⟨errno | exported, middle⟩ := outcome
  · exact Or.inl ⟨log, journal, _, middle, rfl, does, .unexported exports⟩
  have remarked := does.trans (middle.does_remarking line exported)
  rcases enter_cases line exported (middle.remarking line exported)
    with ⟨rest, others, cause, after, run, goesOn, failed⟩ | entered
  · refine Or.inl ⟨log ++ [] ++ rest, _, cause, after, run, remarked.trans goesOn, ?_⟩
    rw [List.append_nil, List.append_assoc]
    rw [remarked.base] at failed
    exact .unconfigured exports failed
  · obtain ⟨rest, handle, after, run, handsOut, configured⟩ := entered
    rw [remarked.base] at handsOut configured
    refine Or.inr ⟨_, _, handle, after, run, remarked.handsOut handsOut, ?_⟩
    rw [List.append_nil, List.append_assoc]
    exact .configured exports configured

-----------------------------------------------------------------------------------------
-- Writing a line
-----------------------------------------------------------------------------------------

/-- How the level of a line is set: the level is written, and the file rewound if that succeeds. -/
inductive Rewrites (line : UInt32) (level : Bool) : List Call → Except GpioError Unit → Prop where
  | unwritten (errno : Errno) :
      Rewrites line level [.wrote (.value line) (Note.levelDigit level) (some errno)]
        (.error (.writeFailed line errno.kind))
  | written (failure : Option Errno) :
      Rewrites line level
        [.wrote (.value line) (Note.levelDigit level) none, .sought (.value line) 0 failure]
        (failure.elim (.ok ()) fun errno => .error (.writeFailed line errno.kind))

/-- Setting the level of a line works on its value file, which stays open. -/
theorem write_cases {line : Line Nat} {before : Machine}
    (live : before.fileOf line.handle = some (.value line.number)) (level : Bool)
    : ∃ log result after,
        (write line level : StateM Machine (Except GpioError Unit)).run before = (result, after)
        ∧ Does log [] before after
        ∧ (∀ handle, after.fileOf handle = before.fileOf handle)
        ∧ Rewrites line.number level log result := by
  obtain ⟨failure, middle, writes, wrote, _, kept⟩ :=
    writeFile_cases live (Note.levelDigit level)
  rw [write, run_sequence]
  simp only [run_writeFile, writes]
  cases failure with
  | some errno => exact ⟨_, _, middle, rfl, wrote, kept, .unwritten errno⟩
  | none =>
      obtain ⟨failure, after, rewinds, rewound, _, still⟩ :=
        rewind_cases ((kept line.handle).trans live)
      simp only [Option.elim_none, run_sequence, run_rewind, rewinds]
      refine ⟨_, _, after, ?_, wrote.trans rewound, fun handle => (still handle).trans (kept handle),
        .written failure⟩
      cases failure <;> rfl

-----------------------------------------------------------------------------------------
-- Taking a line back
-----------------------------------------------------------------------------------------

/-- How a line is taken back: it is turned into an input, its value is closed and it is unexported,
each whatever failed before.
-/
inductive Released (base : String) (line : UInt32)
    : List Call → List Note → Except GpioError Unit → Prop where
  | attempted {turned rest : List Call} {journal others : List Note}
      {reverted unexported : Except Errno Unit} :
      Reverts base line turned journal reverted
      → Unexports base line rest others unexported
      → Released base line (turned ++ .closed (.value line) :: rest)
          (journal ++ (others ++ [.lineReleased line])) (firstFailure reverted unexported)

/-- A machine that has taken back a line. -/
structure TakesBack (line : Line Nat) (log : List Call) (journal : List Note)
    (before after : Machine)
    : Prop where
  calls : after.calls.toList = before.calls.toList ++ log
  notes : after.notes.toList = before.notes.toList ++ journal
  used : after.used = before.used.filter (· ≠ line.number)
  base : after.base = before.base
  fresh : before.nextHandle ≤ after.nextHandle
  files : ∀ handle < before.nextHandle,
    after.fileOf handle = if handle = line.handle then none else before.fileOf handle

theorem release_cases {line : Line Nat} {before : Machine}
    (live : before.fileOf line.handle = some (.value line.number))
    (known : line.handle < before.nextHandle)
    : ∃ log journal result after,
        (release line : StateM Machine (Except GpioError Unit)).run before = (result, after)
        ∧ TakesBack line log journal before after
        ∧ Released before.base line.number log journal result := by
  obtain ⟨turned, journal, turns, reverts⟩ := acts_revert line.number before rfl
  rw [release, run_sequence]
  generalize (revert line.number : StateM Machine _).run before = outcome at *
  obtain ⟨reverted, middle⟩ := outcome
  dsimp only at turns reverts
  obtain ⟨calls, notes, used, base, next, files⟩ :=
    closeFile_of_open ((turns.files line.handle known).trans live)
  simp only [run_sequence, run_closeFile]
  obtain ⟨rest, others, goesOn, unexports⟩ :=
    acts_unexport line.number (closeFile line.handle middle) (base.trans turns.base)
  generalize (unexport line.number : StateM Machine _).run _ = outcome at *
  obtain ⟨unexported, last⟩ := outcome
  refine ⟨_, _, _, _, rfl, ⟨?_, ?_, ?_, ?_, ?_, ?_⟩, .attempted reverts unexports⟩
  · refine goesOn.calls.trans ?_
    rw [calls, turns.calls, List.append_assoc, List.append_assoc, List.singleton_append]
  · have reported := congrArg (· ++ [Note.lineReleased line.number]) goesOn.notes
    refine (Array.toList_push.trans reported).trans ?_
    simp only [notes, turns.notes, List.append_assoc]
  · exact congrArg (List.filter _) (goesOn.used.trans (used.trans turns.used))
  · exact goesOn.base.trans (base.trans turns.base)
  · exact Nat.le_trans turns.fresh (next ▸ goesOn.fresh)
  · intro handle old
    have still : handle < (closeFile line.handle middle).nextHandle :=
      next ▸ Nat.lt_of_lt_of_le old turns.fresh
    refine (goesOn.files handle still).trans ((files handle).trans ?_)
    rw [turns.files handle old]

end CharLcd.Sysfs

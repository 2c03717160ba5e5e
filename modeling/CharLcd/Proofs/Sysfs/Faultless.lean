import CharLcd.Proofs.Os.Trees
import CharLcd.Proofs.Sysfs.Attempts

/-! File calls on a machine on which all control files are there and nothing fails. -/

namespace CharLcd.Sysfs

open Machine

-----------------------------------------------------------------------------------------
-- Control files
-----------------------------------------------------------------------------------------

/-- The control files of a machine with these lines. -/
def Covers (lines : List UInt32) : ControlFile → Prop
  | .exportFile | .unexportFile => True
  | .direction line | .value line => line ∈ lines

/-- All control files for these lines are there, each a file of its own, and their contents are those
in `text`. No call on them is going to fail.
-/
structure Holds (lines : List UInt32) (text : ControlFile → String) (machine : Machine) : Prop where
  nameable : ¬Unnameable machine.base
  faultless : machine.faults = []
  located : ∀ file, Covers lines file →
    ∃ number, machine.locate file = .ok number
      ∧ machine.tree.contents[number]? = some (Text.encode (text file))
  apart : ∀ file other number, Covers lines file → Covers lines other →
    machine.locate file = .ok number → machine.locate other = .ok number → file = other

/-- The length of a delay. -/
def Call.delay? : Call → Option UInt32
  | .delayed time => some time
  | _ => none

/-- The delays among some calls, in order. -/
def Call.delays (calls : List Call) : List UInt32 :=
  calls.filterMap Call.delay?

/-- What was called on the way from one machine to the other was no delay. -/
def Instant (before after : Machine) : Prop :=
  ∃ log, after.calls.toList = before.calls.toList ++ log ∧ Call.delays log = []

theorem Instant.trans {before middle after : Machine} (first : Instant before middle)
    (second : Instant middle after)
    : Instant before after := by
  obtain ⟨log, split, none⟩ := first
  obtain ⟨rest, goesOn, nothing⟩ := second
  refine ⟨log ++ rest, by rw [goesOn, split, List.append_assoc], ?_⟩
  rw [Call.delays] at none nothing
  rw [Call.delays, List.filterMap_append, none, nothing, List.append_nil]

/-- A machine has become another one that has this tree, without a delay. The names in the tree are the
same as before.
-/
structure Becomes (before : Machine) (tree : FileTree) (after : Machine) : Prop where
  files : after.tree = tree
  names : tree.entries = before.tree.entries
  base : after.base = before.base
  directory : after.directory = before.directory
  used : after.used = before.used
  faults : after.faults = before.faults
  fresh : before.nextHandle ≤ after.nextHandle
  instant : Instant before after

namespace Becomes

variable {before middle after : Machine} {tree other : FileTree}

theorem refl (machine : Machine) : Becomes machine machine.tree machine where
  files := rfl
  names := rfl
  base := rfl
  directory := rfl
  used := rfl
  faults := rfl
  fresh := Nat.le_refl _
  instant := ⟨[], (List.append_nil _).symm, rfl⟩

theorem trans (first : Becomes before tree middle) (second : Becomes middle other after)
    : Becomes before other after where
  files := second.files
  names := by rw [second.names, first.files, first.names]
  base := second.base.trans first.base
  directory := second.directory.trans first.directory
  used := second.used.trans first.used
  faults := second.faults.trans first.faults
  fresh := Nat.le_trans first.fresh second.fresh
  instant := first.instant.trans second.instant

/-- Control files stay where they are. -/
theorem locate (becomes : Becomes before tree after) (file : ControlFile)
    : after.locate file = before.locate file :=
  locate_congr becomes.base becomes.directory (by rw [becomes.files, becomes.names]) file

end Becomes

/-- Contents of control files, with another one for one of the files. -/
def replaced (text : ControlFile → String) (file : ControlFile) (content : String)
    (other : ControlFile)
    : String :=
  if other = file then content else text other

namespace Holds

variable {lines : List UInt32} {text : ControlFile → String} {file : ControlFile}
variable {before after : Machine} {number : Nat}

/-- What changes no file leaves the control files as they are. -/
theorem unchanged (holds : Holds lines text before) (becomes : Becomes before before.tree after)
    : Holds lines text after where
  nameable := becomes.base ▸ holds.nameable
  faultless := becomes.faults.trans holds.faultless
  located file covers := by
    rw [becomes.locate, becomes.files]
    exact holds.located file covers
  apart file other number covers also := by
    rw [becomes.locate, becomes.locate]
    exact holds.apart file other number covers also

/-- What replaces the content of one control file leaves the others as they are, since they are others.
-/
theorem replace (holds : Holds lines text before) (covers : Covers lines file)
    (located : before.locate file = .ok number) {content : String}
    (becomes : Becomes before (before.tree.setContent number (Text.encode content)) after)
    : Holds lines (replaced text file content) after where
  nameable := becomes.base ▸ holds.nameable
  faultless := becomes.faults.trans holds.faultless
  located other also := by
    obtain ⟨place, found, present⟩ := holds.located other also
    rw [becomes.locate, becomes.files]
    refine ⟨place, found, ?_⟩
    obtain ⟨bound, _⟩ := List.getElem?_eq_some_iff.mp present
    by_cases same : other = file
    · subst same
      cases located.symm.trans found
      simp [FileTree.setContent, replaced, bound]
    · have different : number ≠ place := by
        intro same
        subst same
        exact same (holds.apart other file number also covers found located)
      simp only [FileTree.setContent, replaced, if_neg same]
      rw [List.getElem?_set_ne different]
      exact present
  apart other another place also too := by
    rw [becomes.locate, becomes.locate]
    exact holds.apart other another place also too

end Holds

-----------------------------------------------------------------------------------------
-- Single file calls
-----------------------------------------------------------------------------------------

theorem becomes_reporting (machine : Machine) (entry : Note)
    : Becomes machine machine.tree (machine.reporting entry) :=
  { Becomes.refl machine with }

section

variable {lines : List UInt32} {text : ControlFile → String} {file : ControlFile}
variable {before : Machine}

/-- A control file is opened behind a new handle. -/
theorem openFile_of_holds (holds : Holds lines text before) (file : ControlFile)
    (covers : Covers lines file) (truncate : Bool)
    : ∃ number after,
        before.locate file = .ok number
        ∧ openFile file truncate before = (.ok before.nextHandle, after)
        ∧ Becomes before
            (if truncate then before.tree.setContent number [] else before.tree) after
        ∧ after.nextHandle = before.nextHandle + 1
        ∧ ∀ handle, after.openFile? handle
          = if handle = before.nextHandle then some { file, number }
            else before.openFile? handle := by
  obtain ⟨number, located, _⟩ := holds.located file covers
  have unfailing : before.check file .opening = (none, before) := by
    rw [check, holds.faultless]
    show (none, { before with faults := [] }) = (none, before)
    rw [← holds.faultless]
  have opens
      : openFile file truncate before
        = (.ok before.nextHandle,
            { before with
              tree := if truncate then before.tree.setContent number [] else before.tree
              handles := (before.nextHandle, { file, number }) :: before.handles
              nextHandle := before.nextHandle + 1
              calls := before.calls.push (.opened file truncate none) }) := by
    have made : openFile file truncate before = openLocated file truncate before :=
      if_neg holds.nameable
    rw [made, openLocated, unfailing]
    simp only [located]
    rfl
  refine ⟨number, _, located, opens, ⟨rfl, ?_, rfl, rfl, rfl, rfl, Nat.le_succ _, ?_⟩, rfl, ?_⟩
  · cases truncate <;> rfl
  · exact ⟨[.opened file truncate none], Array.toList_push, rfl⟩
  · intro handle
    exact lookup_cons_eq before.nextHandle _ before.handles handle

/-- An open file is written from its beginning on. -/
theorem writeFile_of_faultless (faultless : before.faults = []) {handle number : Nat}
    (opened : before.openFile? handle = some { file, number }) (content : String)
    : ∃ after,
        writeFile handle content before = (.ok (), after)
        ∧ Becomes before
            (before.tree.setContent number
              (FileTree.overwrite (before.tree.content number) 0 (Text.encode content))) after
        ∧ after.nextHandle = before.nextHandle
        ∧ after.openFile? handle
          = some { file, number, offset := (Text.encode content).length }
        ∧ ∀ other, other ≠ handle → after.openFile? other = before.openFile? other := by
  have unfailing : before.check file .writing = (none, before) := by
    rw [check, faultless]
    show (none, { before with faults := [] }) = (none, before)
    rw [← faultless]
  have moved (other : Nat) :=
    openFile?_setOffset before handle (0 + (Text.encode content).length) other
  rw [writeFile, opened]
  simp only [unfailing]
  refine ⟨_, rfl, ⟨rfl, rfl, rfl, rfl, rfl, rfl, Nat.le_refl _, ?_⟩, rfl, ?_, ?_⟩
  · exact ⟨[.wrote file content none], Array.toList_push, rfl⟩
  · refine (moved handle).trans ?_
    rw [opened, Option.map_some, if_pos rfl, Nat.zero_add]
  · intro other different
    refine (moved other).trans ?_
    simp only [if_neg different, Option.map_id']

/-- An open file is rewound. -/
theorem rewind_of_faultless (faultless : before.faults = []) {handle number offset : Nat}
    (opened : before.openFile? handle = some { file, number, offset })
    : ∃ after,
        rewind handle before = (.ok (), after)
        ∧ Becomes before before.tree after
        ∧ after.nextHandle = before.nextHandle
        ∧ after.openFile? handle = some { file, number }
        ∧ ∀ other, other ≠ handle → after.openFile? other = before.openFile? other := by
  have unfailing : before.check file .seeking = (none, before) := by
    rw [check, faultless]
    show (none, { before with faults := [] }) = (none, before)
    rw [← faultless]
  have moved (other : Nat) := openFile?_setOffset before handle 0 other
  rw [rewind, opened]
  simp only [unfailing]
  refine ⟨_, rfl, ⟨rfl, rfl, rfl, rfl, rfl, rfl, Nat.le_refl _, ?_⟩, rfl, ?_, ?_⟩
  · exact ⟨[.sought file 0 none], Array.toList_push, rfl⟩
  · refine (moved handle).trans ?_
    rw [opened, Option.map_some, if_pos rfl]
  · intro other different
    refine (moved other).trans ?_
    simp only [if_neg different, Option.map_id']

/-- An open file is closed. -/
theorem closeFile_of_opened {handle : Nat} {found : OpenFile}
    (opened : before.openFile? handle = some found)
    : Becomes before before.tree (closeFile handle before)
      ∧ (closeFile handle before).nextHandle = before.nextHandle
      ∧ ∀ other, (closeFile handle before).openFile? other
        = if other = handle then none else before.openFile? other := by
  rw [closeFile, opened]
  refine ⟨⟨rfl, rfl, rfl, rfl, rfl, rfl, Nat.le_refl _, ?_⟩, rfl, fun other => ?_⟩
  · exact ⟨[.closed found.file], Array.toList_push, rfl⟩
  · exact lookup_filter before.handles handle other

-----------------------------------------------------------------------------------------
-- Operations
-----------------------------------------------------------------------------------------

/-- The names in the tree are the same, the control files are where they were, and no other file has
changed.
-/
structure Settled (lines : List UInt32) (before after : Machine) : Prop where
  names : after.tree.entries = before.tree.entries
  places : ∀ file, after.locate file = before.locate file
  others : ∀ number,
    (∀ file, Covers lines file → before.locate file ≠ .ok number)
    → after.tree.contents[number]? = before.tree.contents[number]?

theorem Settled.refl (machine : Machine) : Settled lines machine machine :=
  ⟨rfl, fun _ => rfl, fun _ _ => rfl⟩

theorem Settled.trans {middle after : Machine} (first : Settled lines before middle)
    (second : Settled lines middle after)
    : Settled lines before after where
  names := second.names.trans first.names
  places file := (second.places file).trans (first.places file)
  others number foreign := by
    have still (file : ControlFile) (covers : Covers lines file)
        : middle.locate file ≠ .ok number := by
      rw [first.places]
      exact foreign file covers
    exact (second.others number still).trans (first.others number foreign)

/-- What an operation keeps, which takes no time. -/
structure Keeps (lines : List UInt32) (before after : Machine) : Prop
    extends Settled lines before after where
  fresh : before.nextHandle ≤ after.nextHandle
  instant : Instant before after

namespace Keeps

variable {middle after : Machine}

theorem trans (first : Keeps lines before middle) (second : Keeps lines middle after)
    : Keeps lines before after where
  toSettled := first.toSettled.trans second.toSettled
  fresh := Nat.le_trans first.fresh second.fresh
  instant := first.instant.trans second.instant

theorem of_becomes (becomes : Becomes before before.tree after) : Keeps lines before after where
  names := congrArg FileTree.entries becomes.files
  places := becomes.locate
  others number _ := by rw [becomes.files]
  fresh := becomes.fresh
  instant := becomes.instant

/-- Replacing the content of a control file changes no other file. -/
theorem of_replacing {number : Nat} {bytes : Bytes} (covers : Covers lines file)
    (located : before.locate file = .ok number)
    (becomes : Becomes before (before.tree.setContent number bytes) after)
    : Keeps lines before after where
  names := by rw [becomes.files, becomes.names]
  places := becomes.locate
  others other foreign := by
    have different : number ≠ other := by
      intro same
      subst same
      exact foreign file covers located
    rw [becomes.files]
    exact List.getElem?_set_ne different
  fresh := becomes.fresh
  instant := becomes.instant

end Keeps

/-- The content of a control file is replaced. -/
theorem writeControl_of_holds (holds : Holds lines text before) (file : ControlFile)
    (covers : Covers lines file) (content : String)
    : ∃ after,
        (writeControl file content : StateM Machine (Except Errno Unit)).run before
          = (.ok (), after)
        ∧ Holds lines (replaced text file content) after
        ∧ Keeps lines before after
        ∧ after.used = before.used
        ∧ ∀ handle < before.nextHandle, after.openFile? handle = before.openFile? handle := by
  let start := before.reporting (announcement before.base file content)
  have reported : Becomes before before.tree start := becomes_reporting before _
  obtain ⟨number, opened, located, opens, opening, next, files⟩ :=
    openFile_of_holds (holds.unchanged reported) file covers true
  have behind : opened.openFile? start.nextHandle = some { file, number } := by
    rw [files, if_pos rfl]
  obtain ⟨written, writes, writing, _, moved, kept⟩ :=
    writeFile_of_faultless (opening.faults.trans holds.faultless) behind content
  obtain ⟨closing, _, closed⟩ := closeFile_of_opened moved
  have emptied : opened.tree = before.tree.setContent number [] := opening.files
  have overwritten : FileTree.overwrite (opened.tree.content number) 0 (Text.encode content)
      = Text.encode content := by
    apply FileTree.overwrite_of_length_le
    rw [emptied]
    simp only [FileTree.content, FileTree.setContent, List.getD_eq_getElem?_getD,
      List.getElem?_set_self']
    cases before.tree.contents[number]? <;> simp
  have all : Becomes before (before.tree.setContent number (Text.encode content))
      (closeFile start.nextHandle written) := by
    have whole := (reported.trans opening).trans (writing.trans closing)
    rwa [writing.files, overwritten, emptied, FileTree.setContent_setContent] at whole
  have here : before.locate file = .ok number := located
  refine ⟨closeFile start.nextHandle written, ?_, holds.replace covers here all,
    .of_replacing covers here all, all.used, ?_⟩
  · rw [writeControl_run, opens]
    simp only [writes]
  · intro handle old
    have different : handle ≠ start.nextHandle := Nat.ne_of_lt old
    rw [closed, if_neg different, kept handle different, files, if_neg different]
    rfl

-----------------------------------------------------------------------------------------
-- Lines
-----------------------------------------------------------------------------------------

/-- A line that is free is handed out: its number is in the file for exports, it is an output at a low
level, and its value is open behind a new handle.
-/
theorem acquire_of_holds (holds : Holds lines text before) {line : UInt32} (member : line ∈ lines)
    (small : ¬lineCount ≤ line) (free : line ∉ before.used)
    : ∃ handle number after,
        (acquire line : StateM Machine (Except GpioError Nat)).run before = (.ok handle, after)
        ∧ Holds lines
            (replaced (replaced text .exportFile (numberLine line)) (.direction line) "low") after
        ∧ Keeps lines before after
        ∧ after.used = insertAscending line before.used
        ∧ before.nextHandle ≤ handle ∧ handle < after.nextHandle
        ∧ after.locate (.value line) = .ok number
        ∧ after.openFile? handle = some { file := .value line, number }
        ∧ ∀ other < before.nextHandle, after.openFile? other = before.openFile? other := by
  obtain ⟨exported, exports, holds, keeps, used, handles⟩ :=
    writeControl_of_holds holds .exportFile trivial (numberLine line)
  obtain ⟨directed, directs, holds, goesOn, still, again⟩ :=
    writeControl_of_holds holds (.direction line) member "low"
  obtain ⟨number, opened, located, opens, opening, next, files⟩ :=
    openFile_of_holds holds (.value line) member false
  have unchanged : Becomes directed directed.tree opened := opening
  have exporting
      : (exportLine line : StateM Machine (Except Errno Export)).run before
        = (.ok .fresh, exported) := by
    rw [exportLine, run_sequence, exports]
    rfl
  have configures
      : (configure line .fresh : StateM Machine (Except GpioError Nat)).run exported
        = (.ok directed.nextHandle, opened) := by
    rw [configure, run_sequence, directs]
    simp only [run_sequence, run_openFile, opens]
    rfl
  have enters
      : (acquire line : StateM Machine (Except GpioError Nat)).run before
        = (.ok directed.nextHandle,
            { opened with used := insertAscending line opened.used }.reporting
              (.lineExported line)) := by
    rw [acquire_run small free, exporting]
    simp only [enter, Machine.remarking]
    rw [run_sequence, configures]
    rfl
  have accounts : opened.used = before.used := by
    rw [unchanged.used, still, used]
  refine ⟨directed.nextHandle, number, _, enters, ?_, ?_, ?_, ?_, ?_, ?_, ?_, ?_⟩
  · exact { holds.unchanged unchanged with }
  · exact { (keeps.trans goesOn).trans (.of_becomes unchanged) with }
  · exact congrArg (insertAscending line) accounts
  · exact Nat.le_trans keeps.fresh goesOn.fresh
  · exact next ▸ Nat.lt_succ_self _
  · exact (unchanged.locate _).trans located
  · exact (files _).trans (if_pos rfl)
  · intro other old
    have known := Nat.lt_of_lt_of_le old keeps.fresh
    have different : other ≠ directed.nextHandle :=
      Nat.ne_of_lt (Nat.lt_of_lt_of_le known goesOn.fresh)
    refine (files other).trans ?_
    rw [if_neg different, again other known, handles other old]

/-- The level of a line is set: the value of the line is that level. -/
theorem write_of_holds (holds : Holds lines text before) (line : Line Nat)
    (member : line.number ∈ lines) (short : (Text.encode (text (.value line.number))).length = 1)
    {number : Nat} (located : before.locate (.value line.number) = .ok number)
    (opened : before.openFile? line.handle = some { file := .value line.number, number })
    (level : Bool)
    : ∃ after,
        (write line level : StateM Machine (Except GpioError Unit)).run before = (.ok (), after)
        ∧ Holds lines (replaced text (.value line.number) (Note.levelDigit level)) after
        ∧ Keeps lines before after
        ∧ after.used = before.used
        ∧ after.nextHandle = before.nextHandle
        ∧ ∀ handle, after.openFile? handle = before.openFile? handle := by
  obtain ⟨written, writes, writing, next, moved, kept⟩ :=
    writeFile_of_faultless holds.faultless opened (Note.levelDigit level)
  obtain ⟨after, rewinds, rewinding, same, back, still⟩ :=
    rewind_of_faultless (writing.faults.trans holds.faultless) moved
  have digit : (Text.encode (Note.levelDigit level)).length = 1 := by
    cases level <;> decide
  have overwritten
      : FileTree.overwrite (before.tree.content number) 0 (Text.encode (Note.levelDigit level))
        = Text.encode (Note.levelDigit level) := by
    apply FileTree.overwrite_of_length_le
    obtain ⟨place, found, present⟩ := holds.located (.value line.number) member
    cases located.symm.trans found
    rw [FileTree.content, List.getD_eq_getElem?_getD, present, Option.getD_some]
    omega
  rw [overwritten] at writing
  have all := writing.trans rewinding
  rw [writing.files] at all
  have covers : Covers lines (.value line.number) := member
  refine ⟨after, ?_, holds.replace covers located all, .of_replacing covers located all,
    all.used, same.trans next, fun handle => ?_⟩
  · rw [write, run_sequence]
    simp only [run_writeFile, writes, run_sequence, run_rewind, rewinds]
    rfl
  · by_cases own : handle = line.handle
    · rw [own, back, opened]
    · rw [still handle own, kept handle own]

/-- A line is taken back: it is an input, its value is closed, and its number is in the file for
unexports.
-/
theorem release_of_holds (holds : Holds lines text before) (line : Line Nat)
    (member : line.number ∈ lines) (known : line.handle < before.nextHandle) {found : OpenFile}
    (opened : before.openFile? line.handle = some found)
    : ∃ after,
        (release line : StateM Machine (Except GpioError Unit)).run before = (.ok (), after)
        ∧ Holds lines
            (replaced (replaced text (.direction line.number) "in") .unexportFile
              (numberLine line.number)) after
        ∧ Keeps lines before after
        ∧ after.used = before.used.filter (· ≠ line.number)
        ∧ ∀ handle < before.nextHandle,
            handle ≠ line.handle → after.openFile? handle = before.openFile? handle := by
  obtain ⟨turned, turns, holds, keeps, used, handles⟩ :=
    writeControl_of_holds holds (.direction line.number) member "in"
  obtain ⟨closing, next, closed⟩ := closeFile_of_opened ((handles _ known).trans opened)
  obtain ⟨after, unexports, holds, goesOn, still, again⟩ :=
    writeControl_of_holds (holds.unchanged closing) .unexportFile trivial
      (numberLine line.number)
  have reverts
      : (revert line.number : StateM Machine (Except Errno Unit)).run before
        = (.ok (), turned) := by
    rw [revert, run_sequence, turns]
    rfl
  have unexporting
      : (unexport line.number : StateM Machine (Except Errno Unit)).run
          (closeFile line.handle turned)
        = (.ok (), after) := by
    rw [unexport, run_sequence, unexports]
    rfl
  have releases
      : (release line : StateM Machine (Except GpioError Unit)).run before
        = (.ok (),
            { after with used := after.used.filter (· ≠ line.number) }.reporting
              (.lineReleased line.number)) := by
    rw [release, run_sequence, reverts]
    simp only [run_sequence, run_closeFile, unexporting]
    rfl
  refine ⟨_, releases, ?_, ?_, ?_, ?_⟩
  · exact { holds with }
  · exact { (keeps.trans (.of_becomes closing)).trans goesOn with }
  · exact congrArg (List.filter _) (still.trans (closing.used.trans used))
  · intro handle old different
    have later : handle < (closeFile line.handle turned).nextHandle :=
      next ▸ Nat.lt_of_lt_of_le old keeps.fresh
    exact (again handle later).trans
      (((closed handle).trans (if_neg different)).trans (handles handle old))

end

end CharLcd.Sysfs

import CharLcd.Proofs.Sysfs.Ownership

/-! Where the level of a line lands in its value file.

A level is written where the last write ended, unless the file was rewound since. As long as no
rewind fails, each level replaces the one before and the rest of the file stays. A rewind that fails
is reported, but its position is kept, so the next level is written behind the one before.
-/

namespace CharLcd.Sysfs

open Machine

namespace Machine

/-- What is read where a control file should be. -/
def read (machine : Machine) (file : ControlFile) : Except Errno Bytes :=
  (machine.locate file).map machine.tree.content

end Machine

-----------------------------------------------------------------------------------------
-- Files with content
-----------------------------------------------------------------------------------------

/-- A file with content is there, so it can be given another content. -/
theorem content_setContent {tree : FileTree} {number : Nat} (filled : tree.content number ≠ [])
    (bytes : Bytes)
    : (tree.setContent number bytes).content number = bytes := by
  have bound : number < tree.contents.length := by
    by_contra outside
    refine filled ?_
    simp [FileTree.content, List.getElem?_eq_none (Nat.le_of_not_lt outside)]
  simp [FileTree.content, FileTree.setContent, bound]

/-- The text of a level is a single byte. -/
@[simp]
theorem length_encode_levelDigit (level : Bool)
    : (Text.encode (Note.levelDigit level)).length = 1 := by
  cases level <;> rfl

/-- The value file of an output is open, with `offset` as its position; it is the one that its path
leads to, and it has content.
-/
structure Placed (line : Line Nat) (number offset : Nat) (machine : Machine) : Prop where
  opened : machine.openFile? line.handle = some ⟨.value line.number, number, offset⟩
  located : machine.locate (.value line.number) = .ok number
  filled : machine.tree.content number ≠ []

/-- What is read of a placed file is its content. -/
theorem Placed.read_eq {line : Line Nat} {number offset : Nat} {machine : Machine}
    (placed : Placed line number offset machine)
    : machine.read (.value line.number) = .ok (machine.tree.content number) := by
  simp [Machine.read, placed.located, Except.map]

-----------------------------------------------------------------------------------------
-- One write
-----------------------------------------------------------------------------------------

/-- What setting the level of an output does to its value file: nothing if the write fails; else the
level is written at the position, which goes back to the beginning unless the rewind fails.
-/
inductive Lands (line : Line Nat) (level : Bool) (number offset : Nat) (before : Machine)
    : List Call → Except GpioError Unit → Machine → Prop where
  | refused {after : Machine} (errno : Errno) :
      Placed line number offset after
      → after.tree.content number = before.tree.content number
      → Lands line level number offset before
          [.wrote (.value line.number) (Note.levelDigit level) (some errno)]
          (.error (.writeFailed line.number errno.kind)) after
  | slipped {after : Machine} (errno : Errno) :
      Placed line number (offset + 1) after
      → after.tree.content number
        = FileTree.overwrite (before.tree.content number) offset
            (Text.encode (Note.levelDigit level))
      → Lands line level number offset before
          [.wrote (.value line.number) (Note.levelDigit level) none,
            .sought (.value line.number) 0 (some errno)]
          (.error (.writeFailed line.number errno.kind)) after
  | rewound {after : Machine} :
      Placed line number 0 after
      → after.tree.content number
        = FileTree.overwrite (before.tree.content number) offset
            (Text.encode (Note.levelDigit level))
      → Lands line level number offset before
          [.wrote (.value line.number) (Note.levelDigit level) none,
            .sought (.value line.number) 0 none]
          (.ok ()) after

variable {line : Line Nat} {number offset : Nat} {before after machine : Machine}

/-- A text that is written lands at the position of its file, which moves behind it. -/
theorem writeFile_placed (placed : Placed line number offset before) (level : Bool)
    : (∃ errno after,
        writeFile line.handle (Note.levelDigit level) before = (.error errno, after)
        ∧ after.calls.toList = before.calls.toList
          ++ [.wrote (.value line.number) (Note.levelDigit level) (some errno)]
        ∧ Placed line number offset after
        ∧ after.tree.content number = before.tree.content number)
      ∨ ∃ after,
        writeFile line.handle (Note.levelDigit level) before = (.ok (), after)
        ∧ after.calls.toList = before.calls.toList
          ++ [.wrote (.value line.number) (Note.levelDigit level) none]
        ∧ Placed line number (offset + 1) after
        ∧ after.tree.content number
          = FileTree.overwrite (before.tree.content number) offset
              (Text.encode (Note.levelDigit level)) := by
  unfold writeFile check
  rw [placed.opened]
  dsimp only
  rcases checkFaults (ControlFile.value line.number).name .writing before.faults
    with ⟨_ | errno, faults⟩
  · have content := content_setContent placed.filled
      (FileTree.overwrite (before.tree.content number) offset
        (Text.encode (Note.levelDigit level)))
    refine Or.inr ⟨_, rfl, Array.toList_push, ⟨?_, ?_, ?_⟩, content⟩
    · show (Machine.setOffset _ line.handle _).openFile? line.handle = _
      rw [openFile?_setOffset]
      have same : List.lookup line.handle before.handles
          = some ⟨.value line.number, number, offset⟩ := placed.opened
      simp [openFile?, same]
    · refine Eq.trans (locate_congr ?_ ?_ ?_ _) placed.located <;> rfl
    · intro empty
      have sized := congrArg List.length (content.symm.trans empty)
      simp [FileTree.overwrite] at sized
  · exact Or.inl ⟨errno, _, rfl, Array.toList_push, ⟨placed.opened, placed.located, placed.filled⟩, rfl⟩

/-- A file that is rewound has its beginning as its position; if the rewind fails it keeps the old
one.
-/
theorem rewind_placed (placed : Placed line number offset before)
    : (∃ errno after,
        rewind line.handle before = (.error errno, after)
        ∧ after.calls.toList = before.calls.toList
          ++ [.sought (.value line.number) 0 (some errno)]
        ∧ Placed line number offset after ∧ after.tree = before.tree)
      ∨ ∃ after,
        rewind line.handle before = (.ok (), after)
        ∧ after.calls.toList = before.calls.toList ++ [.sought (.value line.number) 0 none]
        ∧ Placed line number 0 after ∧ after.tree = before.tree := by
  unfold rewind check
  rw [placed.opened]
  dsimp only
  rcases checkFaults (ControlFile.value line.number).name .seeking before.faults
    with ⟨_ | errno, faults⟩
  · refine Or.inr ⟨_, rfl, Array.toList_push, ⟨?_, placed.located, placed.filled⟩, rfl⟩
    show (Machine.setOffset _ line.handle 0).openFile? line.handle = _
    rw [openFile?_setOffset]
    have same : List.lookup line.handle before.handles
        = some ⟨.value line.number, number, offset⟩ := placed.opened
    simp [openFile?, same]
  · exact Or.inl ⟨errno, _, rfl, Array.toList_push, ⟨placed.opened, placed.located, placed.filled⟩, rfl⟩

/-- Setting the level of an output makes calls on its value file, and the level lands there. -/
theorem write_lands (placed : Placed line number offset before) (level : Bool)
    : ∃ log result after,
        (write line level : StateM Machine (Except GpioError Unit)).run before = (result, after)
        ∧ after.calls.toList = before.calls.toList ++ log
        ∧ Lands line level number offset before log result after := by
  rw [write, run_sequence]
  simp only [run_writeFile]
  rcases writeFile_placed placed level with ⟨errno, after, run, calls, still, content⟩ | written
  · rw [run]
    exact ⟨_, _, after, rfl, calls, .refused errno still content⟩
  · obtain ⟨middle, run, calls, moved, content⟩ := written
    rw [run]
    simp only [run_sequence, run_rewind]
    rcases rewind_placed moved with ⟨errno, after, rewinds, sought, still, same⟩ | rewound
    · rw [rewinds]
      refine ⟨_, _, after, rfl, ?_, .slipped errno still (same ▸ content)⟩
      rw [sought, calls, List.append_assoc]
      rfl
    · obtain ⟨after, rewinds, sought, back, same⟩ := rewound
      rw [rewinds]
      refine ⟨_, _, after, rfl, ?_, .rewound back (same ▸ content)⟩
      rw [sought, calls, List.append_assoc]
      rfl

-----------------------------------------------------------------------------------------
-- An output that was just handed out
-----------------------------------------------------------------------------------------

/-- A file that is opened without being emptied is where its path leads to, at its beginning. -/
theorem openFile_opens {file : ControlFile} {handle : Nat}
    (opens : openFile file false before = (.ok handle, after))
    : ∃ number,
        after.locate file = .ok number ∧ after.openFile? handle = some ⟨file, number, 0⟩ := by
  unfold openFile at opens
  split at opens
  · cases opens
  unfold openLocated check at opens
  generalize checkFaults file.name .opening before.faults = checked at opens
  obtain ⟨_ | errno, faults⟩ := checked
  · dsimp only at opens
    cases located : { before with faults }.locate file with
    | error errno =>
        rw [located] at opens
        cases opens
    | ok number =>
        rw [located] at opens
        cases opens
        exact ⟨number, located, by simp [openFile?, record, addHandle]⟩
  · cases opens

/-- The value file of a line is opened last when the line is set up. -/
theorem configure_opens {exported : Export} {number : UInt32} {handle : Nat}
    (run : (configure number exported : StateM Machine (Except GpioError Nat)).run before
      = (.ok handle, after))
    : ∃ middle, openFile (.value number) false middle = (.ok handle, after) := by
  rw [configure, run_sequence] at run
  generalize (writeControl (.direction number) "low" : StateM Machine _).run before = outcome at run
  obtain ⟨errno | written, middle⟩ := outcome
  · cases congrArg Prod.fst run
  · simp only [run_sequence, run_openFile] at run
    refine ⟨middle, ?_⟩
    generalize openFile (.value number) false middle = opened at run
    obtain ⟨errno | found, next⟩ := opened
    · cases congrArg Prod.fst run
    · cases run
      rfl

/-- The value file of an output that was just handed out is open at its beginning, and is the one that
its path leads to.
-/
theorem acquire_opens {number : UInt32} {handle : Nat}
    (run : (acquire number : StateM Machine (Except GpioError Nat)).run before
      = (.ok handle, after))
    : ∃ file,
        after.locate (.value number) = .ok file
        ∧ after.openFile? handle = some ⟨.value number, file, 0⟩ := by
  rcases acquire_cases number before with ⟨cause, refused, _⟩ | ⟨small, free, _⟩
  · cases refused.symm.trans run
  rw [acquire_run small free] at run
  generalize (exportLine number : StateM Machine _).run before = outcome at run
  obtain ⟨errno | exported, middle⟩ := outcome
  · cases congrArg Prod.fst run
  simp only [enter, run_sequence] at run
  rcases configured
    : (configure number exported : StateM Machine _).run (middle.remarking number exported)
    with ⟨cause | found, next⟩
  · rw [configured] at run
    cases congrArg Prod.fst run
  · rw [configured] at run
    cases run
    obtain ⟨_, opens⟩ := configure_opens configured
    obtain ⟨file, located, opened⟩ := openFile_opens opens
    -- What follows is the account and a report, which are no matter of the file.
    exact ⟨file, located, opened⟩

-----------------------------------------------------------------------------------------
-- Many writes
-----------------------------------------------------------------------------------------

/-- Whatever happened elsewhere: the value file of an output was not changed, replaced or removed, and
nobody used its handle.
-/
structure Aside (line : Line Nat) (before after : Machine) : Prop where
  handle : after.openFile? line.handle = before.openFile? line.handle
  place : after.locate (.value line.number) = before.locate (.value line.number)
  content : ∀ number,
    before.locate (.value line.number) = .ok number
    → after.tree.content number = before.tree.content number

/-- From one machine to the other the level of an output was set any number of times, with `log` as
the calls of that, while things happened elsewhere.
-/
inductive Writing (line : Line Nat) (start : Machine) : List Call → Machine → Prop where
  | start : Writing line start [] start
  | aside {log : List Call} {machine after : Machine} :
      Writing line start log machine → Aside line machine after → Writing line start log after
  | write {log rest : List Call} {machine after : Machine} {level : Bool}
      {result : Except GpioError Unit} :
      Writing line start log machine
      → (CharLcd.Sysfs.write line level : StateM Machine (Except GpioError Unit)).run machine
        = (result, after)
      → after.calls.toList = machine.calls.toList ++ rest
      → Writing line start (log ++ rest) after

/-- How many rewinds have failed among some calls since the last one that did not. -/
def slips (log : List Call) : Nat :=
  log.foldl (fun count call =>
    match call with
    | .sought _ _ (some _) => count + 1
    | .sought _ _ none => 0
    | _ => count) 0

/-- What happens elsewhere leaves a file placed. -/
theorem Placed.aside (placed : Placed line number offset before) (aside : Aside line before after)
    : Placed line number offset after where
  opened := aside.handle.trans placed.opened
  located := aside.place.trans placed.located
  filled := aside.content number placed.located ▸ placed.filled

/-- The position of a value file counts the rewinds that failed since the last one that did not. By
induction on the writes.
-/
theorem Writing.placed {start : Machine} {log : List Call} (placed : Placed line number 0 start)
    (writing : Writing line start log machine)
    : Placed line number (slips log) machine := by
  induction writing with
  | start => exact placed
  | aside _ aside ih => exact ih.aside aside
  | @write log rest machine after level result _ run calls ih =>
      obtain ⟨made, answer, next, same, extended, lands⟩ := write_lands ih level
      obtain ⟨rfl, rfl⟩ := Prod.mk.inj (run.symm.trans same)
      obtain rfl := List.append_cancel_left (calls.symm.trans extended)
      cases lands with
      | refused errno still => simpa [slips] using still
      | slipped errno moved => simpa [slips] using moved
      | rewound back => simpa [slips] using back

/-- While no rewind of its file has failed, the content that a line has behind its first byte is what it
was at first. By induction on the writes.
-/
theorem Writing.drop_content {start : Machine} {log : List Call}
    (placed : Placed line number 0 start) (writing : Writing line start log machine)
    (rewound : ∀ errno, .sought (.value line.number) 0 (some errno) ∉ log)
    : slips log = 0 ∧ (machine.tree.content number).drop 1 = (start.tree.content number).drop 1 := by
  induction writing with
  | start => exact ⟨rfl, rfl⟩
  | @aside log machine after writing aside ih =>
      obtain ⟨none, same⟩ := ih rewound
      exact ⟨none, aside.content number (writing.placed placed).located ▸ same⟩
  | @write log rest machine after level result writing run calls ih =>
      obtain ⟨none, same⟩ := ih fun errno member =>
        rewound errno (List.mem_append_left _ member)
      have here := writing.placed placed
      rw [none] at here
      obtain ⟨made, answer, next, run', extended, lands⟩ := write_lands here level
      obtain ⟨rfl, rfl⟩ := Prod.mk.inj (run.symm.trans run')
      obtain rfl := List.append_cancel_left (calls.symm.trans extended)
      cases lands with
      | refused errno still content => exact ⟨by simpa [slips] using none, content ▸ same⟩
      | slipped errno moved content =>
          exact absurd (List.mem_append_right _ (by simp)) (rewound errno)
      | rewound back content =>
          refine ⟨by simp [slips], ?_⟩
          rw [content, ← same]
          simp [FileTree.overwrite]

/-- A level that is set lands behind as many bytes as rewinds have failed since the last one that did
not, whatever happened before.
-/
theorem written_behind_slips {number : UInt32} {handle : Nat}
    {before start machine after : Machine} {log : List Call} {level : Bool}
    (acquired : (acquire number : StateM Machine (Except GpioError Nat)).run before
      = (.ok handle, start))
    (filled : start.read (.value number) ≠ .ok [])
    (writing : Writing ⟨number, handle⟩ start log machine)
    (written : (write ⟨number, handle⟩ level : StateM Machine (Except GpioError Unit)).run machine
      = (.ok (), after))
    : ∃ file,
        Placed ⟨number, handle⟩ file 0 start
        ∧ machine.read (.value number) = .ok (machine.tree.content file)
        ∧ after.read (.value number)
          = .ok (FileTree.overwrite (machine.tree.content file) (slips log)
              (Text.encode (Note.levelDigit level))) := by
  obtain ⟨file, located, opened⟩ := acquire_opens acquired
  have placed : Placed ⟨number, handle⟩ file 0 start := by
    refine ⟨opened, located, fun empty => filled ?_⟩
    simp [Machine.read, located, Except.map, empty]
  have here := writing.placed placed
  obtain ⟨_, _, _, run, _, lands⟩ := write_lands here level
  obtain ⟨rfl, rfl⟩ := Prod.mk.inj (written.symm.trans run)
  cases lands with
  | rewound back content =>
      exact ⟨file, placed, here.read_eq, back.read_eq.trans (congrArg Except.ok content)⟩

/-- A level is written over the one before, as long as no rewind has failed.

An output is handed out on a line whose value file is not empty, and its level is set any number of
times, while the file is left alone by all others; single writes may fail, but no rewind. Then each
time setting the level succeeds, the value file holds the digit of the level, followed by what stood
behind its first byte when the line was handed out.
-/
theorem overwrites_while_rewound {number : UInt32} {handle : Nat}
    {before start machine after : Machine} {log : List Call} {level : Bool}
    (acquired : (acquire number : StateM Machine (Except GpioError Nat)).run before
      = (.ok handle, start))
    (filled : start.read (.value number) ≠ .ok [])
    (writing : Writing ⟨number, handle⟩ start log machine)
    (rewound : ∀ errno, .sought (.value number) 0 (some errno) ∉ log)
    (written : (write ⟨number, handle⟩ level : StateM Machine (Except GpioError Unit)).run machine
      = (.ok (), after))
    : ∃ old : Bytes,
        start.read (.value number) = .ok old
        ∧ after.read (.value number)
          = .ok (Text.encode (Note.levelDigit level) ++ old.drop 1) := by
  obtain ⟨file, placed, _, overwritten⟩ := written_behind_slips acquired filled writing written
  obtain ⟨none, same⟩ := writing.drop_content placed rewound
  refine ⟨_, placed.read_eq, overwritten.trans (congrArg Except.ok ?_)⟩
  rw [none, ← same]
  simp [FileTree.overwrite]

/-- A machine with a line whose level cannot be written the first time. -/
def sampleUnwritten : Machine :=
  fresh "gpio" ["gpio"]
    ((fixture ["gpio"] [18]).putFile ["gpio", "gpio18", "value"] (Text.encode "0\n"))
    [{ file := "gpio18/value", call := .writing, errno := .eio, times := some 1 }]

/-- A level that could not be written is written over the first one at the next attempt. -/
theorem overwrites_after_failed_write
    : let line : Line Nat := ⟨18, 2⟩
      let start := ((acquire 18 : StateM Machine (Except GpioError Nat)).run sampleUnwritten).2
      let failed := ((write line true : StateM Machine (Except GpioError Unit)).run start).2
      let after := ((write line true : StateM Machine (Except GpioError Unit)).run failed).2
      start.read (.value 18) = .ok (Text.encode "0\n")
      ∧ after.read (.value 18) = .ok (Text.encode "1\n") := by
  intro line start failed after
  have acquired
      : (acquire 18 : StateM Machine (Except GpioError Nat)).run sampleUnwritten
        = (.ok 2, start) :=
    Prod.ext (by decide +kernel) rfl
  have first : start.read (.value 18) = .ok (Text.encode "0\n") := by decide +kernel
  have filled : start.read (.value 18) ≠ .ok [] := by decide +kernel
  have refused
      : failed.calls.toList = start.calls.toList ++ [.wrote (.value 18) "1" (some .eio)] := by
    decide +kernel
  have writing : Writing line start [.wrote (.value 18) "1" (some .eio)] failed :=
    .write .start rfl refused
  have written
      : (write line true : StateM Machine (Except GpioError Unit)).run failed
        = (.ok (), after) :=
    Prod.ext (by decide +kernel) rfl
  obtain ⟨old, read, overwritten⟩ :=
    overwrites_while_rewound acquired filled writing (by simp) written
  obtain rfl := Except.ok.inj (first.symm.trans read)
  exact ⟨first, overwritten.trans (by decide +kernel)⟩

/-- A rewind that fails leaves the position behind the level, so the next level that is set is written
behind it, and the file still begins with the old level.
-/
theorem level_behind_failed_rewind
    : let slip : Fault :=
        { file := "gpio18/value", call := .seeking, errno := .eio, times := some 1 }
      let machine := fresh "gpio" ["gpio"] (fixture ["gpio"] [18]) [slip]
      let reached := reach {} ({}, machine) [.step (.export 18), .step (.write 0 true)]
      let last := perform {} reached (.step (.write 0 false))
      last.1 = .done
      ∧ last.2.2.read (.value 18) = .ok (Text.encode "10") := by
  decide +kernel

end CharLcd.Sysfs

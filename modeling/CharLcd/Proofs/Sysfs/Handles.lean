import CharLcd.Proofs.Sysfs.Attempts
import CharLcd.Proofs.Sysfs.Tidiness

/-! Files are open behind handles that were given out, one after the other.

So a file that is opened gets a handle of its own, and to close it leaves all other ones as they were. An
attempt to replace the content of a control file leaves nothing open, and neither does anything that
consists of such attempts.
-/

namespace CharLcd.Sysfs

open Machine

variable {α β : Type}

/-- Every file is open behind a handle that was given out. -/
def Machine.Numbered (machine : Machine) : Prop :=
  ∀ entry ∈ machine.handles, entry.1 < machine.nextHandle

-----------------------------------------------------------------------------------------
-- File calls
-----------------------------------------------------------------------------------------

namespace Machine

/-- A file that is opened is the only one behind its handle, which is the next one. If there is a failure
nothing is opened.
-/
theorem handles_openFile (file : ControlFile) (truncate : Bool) (before : Machine)
    : (∃ errno after,
        openFile file truncate before = (.error errno, after)
        ∧ after.handles = before.handles ∧ after.nextHandle = before.nextHandle)
      ∨ ∃ number after,
          openFile file truncate before = (.ok before.nextHandle, after)
          ∧ after.handles = (before.nextHandle, { file, number }) :: before.handles
          ∧ after.nextHandle = before.nextHandle + 1 := by
  unfold openFile openLocated check
  split
  · exact .inl ⟨_, _, rfl, rfl, rfl⟩
  rcases checkFaults file.name .opening before.faults with ⟨_ | errno, faults⟩
  · dsimp only
    cases locate { before with faults } file with
    | error errno => exact .inl ⟨_, _, rfl, rfl, rfl⟩
    | ok number => exact .inr ⟨_, _, rfl, rfl, rfl⟩
  · exact .inl ⟨_, _, rfl, rfl, rfl⟩

/-- A write at most moves the position of the file behind its handle. -/
theorem handles_writeFile (handle : Nat) (text : String) (before : Machine)
    : (writeFile handle text before).2.nextHandle = before.nextHandle
      ∧ ((writeFile handle text before).2.handles = before.handles
        ∨ ∃ offset,
            (writeFile handle text before).2.handles = (before.setOffset handle offset).handles) := by
  unfold writeFile check
  cases before.openFile? handle with
  | none => exact ⟨rfl, .inl rfl⟩
  | some opened =>
      simp only
      rcases checkFaults opened.file.name .writing before.faults with ⟨_ | errno, faults⟩
      · exact ⟨rfl, .inr ⟨_, rfl⟩⟩
      · exact ⟨rfl, .inl rfl⟩

/-- So does going back to the beginning. -/
theorem handles_rewind (handle : Nat) (before : Machine)
    : (rewind handle before).2.nextHandle = before.nextHandle
      ∧ ((rewind handle before).2.handles = before.handles
        ∨ ∃ offset, (rewind handle before).2.handles = (before.setOffset handle offset).handles) := by
  unfold rewind check
  cases before.openFile? handle with
  | none => exact ⟨rfl, .inl rfl⟩
  | some opened =>
      simp only
      rcases checkFaults opened.file.name .seeking before.faults with ⟨_ | errno, faults⟩
      · exact ⟨rfl, .inr ⟨_, rfl⟩⟩
      · exact ⟨rfl, .inl rfl⟩

theorem nextHandle_closeFile (handle : Nat) (machine : Machine)
    : (closeFile handle machine).nextHandle = machine.nextHandle := by
  unfold closeFile
  split <;> rfl

namespace Numbered

variable {before after : Machine}

theorem of_subset (numbered : before.Numbered) (subset : after.handles ⊆ before.handles)
    (next : before.nextHandle ≤ after.nextHandle)
    : after.Numbered :=
  fun entry member => Nat.lt_of_lt_of_le (numbered entry (subset member)) next

theorem of_eq (numbered : before.Numbered) (same : after.handles = before.handles)
    (next : before.nextHandle ≤ after.nextHandle)
    : after.Numbered :=
  numbered.of_subset (same ▸ List.Subset.refl _) next

/-- Moving a position changes no handle. -/
theorem of_moved (numbered : before.Numbered) {handle : Nat}
    (next : after.nextHandle = before.nextHandle)
    (moved
      : after.handles = before.handles
        ∨ ∃ offset, after.handles = (before.setOffset handle offset).handles)
    : after.Numbered := by
  rcases moved with same | ⟨offset, same⟩
  · exact numbered.of_eq same (Nat.le_of_eq next.symm)
  · intro entry member
    rw [same] at member
    obtain ⟨old, inside, rfl⟩ := List.mem_map.mp member
    rw [next]
    split <;> exact numbered old inside

end Numbered

end Machine

/-- The file driver only gives out handles in order. -/
theorem numbered_pervades
    : Pervades fun x => ∀ before : Machine, before.Numbered → (x.run before).2.Numbered where
  pure _ _ numbered := numbered
  bind first next before numbered := next _ _ (first before numbered)
  noted _ _ numbered := numbered
  base _ numbered := numbered
  used _ numbered := numbered
  setUsed _ _ numbered := numbered
  openFile file truncate before numbered := by
    rw [run_openFile]
    rcases handles_openFile file truncate before with ⟨errno, after, run, handles, next⟩ | opened
    · rw [run]
      exact numbered.of_eq handles (Nat.le_of_eq next.symm)
    · obtain ⟨number, after, run, handles, next⟩ := opened
      rw [run]
      intro entry member
      rw [handles] at member
      rw [next]
      rcases List.mem_cons.mp member with rfl | old
      · exact Nat.lt_succ_self _
      · exact Nat.lt_succ_of_lt (numbered entry old)
  writeFile handle text before numbered := by
    obtain ⟨next, moved⟩ := handles_writeFile handle text before
    exact numbered.of_moved next moved
  rewind handle before numbered := by
    obtain ⟨next, moved⟩ := handles_rewind handle before
    exact numbered.of_moved next moved
  closeFile handle before numbered := by
    rw [run_closeFile]
    unfold Machine.closeFile
    split
    · exact numbered
    · exact numbered.of_subset List.filter_sublist.subset (Nat.le_refl _)

-----------------------------------------------------------------------------------------
-- Programs that leave nothing open
-----------------------------------------------------------------------------------------

/-- A program that leaves the same files open behind the same handles, whatever fails. -/
def Shuts (x : StateM Machine α) : Prop :=
  ∀ before : Machine, before.Numbered →
    (x.run before).2.handles = before.handles ∧ before.nextHandle ≤ (x.run before).2.nextHandle

namespace Shuts

theorem pure (value : α) : Shuts (pure value : StateM Machine α) :=
  fun _ _ => ⟨rfl, Nat.le_refl _⟩

theorem noted (entry : Note) : Shuts (note entry : StateM Machine Unit) :=
  fun _ _ => ⟨rfl, Nat.le_refl _⟩

theorem bind {x : StateM Machine α} {f : α → StateM Machine β} (first : Shuts x)
    (next : ∀ value, Shuts (f value))
    : Shuts (x >>= f) := by
  intro before numbered
  obtain ⟨same, grown⟩ := first before numbered
  obtain ⟨kept, more⟩ := next (x.run before).1 _ (numbered.of_eq same grown)
  exact ⟨kept.trans same, Nat.le_trans grown more⟩

end Shuts

/-- To write a file behind the newest handle and to close it leaves the other handles. -/
theorem handles_closeFile_writeFile {machine : Machine} {handle : Nat} {opened : OpenFile}
    {others : List (Nat × OpenFile)} (handles : machine.handles = (handle, opened) :: others)
    (apart : ∀ entry ∈ others, entry.1 ≠ handle) (text : String)
    : (closeFile handle (writeFile handle text machine).2).handles = others := by
  have still
      : ∃ written, (writeFile handle text machine).2.handles = (handle, written) :: others := by
    rcases (handles_writeFile handle text machine).2 with same | ⟨offset, same⟩
    · exact ⟨opened, same.trans handles⟩
    · refine ⟨{ opened with offset }, same.trans ?_⟩
      rw [setOffset, handles, List.map_cons, if_pos rfl]
      refine congrArg _ ((List.map_congr_left fun entry member => ?_).trans (List.map_id others))
      exact if_neg (apart entry member)
  obtain ⟨written, same⟩ := still
  have present : (writeFile handle text machine).2.openFile? handle = some written := by
    rw [openFile?, same, lookup_cons_eq, if_pos rfl]
  rw [closeFile, present]
  show List.filter _ (writeFile handle text machine).2.handles = others
  rw [same, List.filter_cons_of_neg (by simp), List.filter_eq_self]
  exact fun entry member => decide_eq_true (apart entry member)

/-- An attempt to replace the content of a file leaves it closed. -/
theorem shuts_writeControl (file : ControlFile) (text : String)
    : Shuts (writeControl file text) := by
  intro before numbered
  rw [writeControl_run]
  rcases handles_openFile file true
      (before.reporting (announcement before.base file text))
    with ⟨errno, after, run, handles, next⟩ | ⟨number, after, run, handles, next⟩
  · rw [run]
    exact ⟨handles, Nat.le_of_eq next.symm⟩
  · rw [run]
    refine ⟨handles_closeFile_writeFile handles ?_ text, ?_⟩
    · exact fun entry member => Nat.ne_of_lt (numbered entry member)
    · rw [nextHandle_closeFile, (handles_writeFile _ text after).1, next]
      exact Nat.le_succ _

theorem shuts_exportLine (line : UInt32) : Shuts (exportLine line) := by
  refine (shuts_writeControl _ _).bind fun result => ?_
  cases result <;> exact .pure _

theorem shuts_revert (line : UInt32) : Shuts (revert line) := by
  refine (shuts_writeControl _ _).bind fun result => ?_
  cases result with
  | ok => exact .pure _
  | error errno => exact (Shuts.noted _).bind fun _ => .pure _

theorem shuts_unexport (line : UInt32) : Shuts (unexport line) := by
  refine (shuts_writeControl _ _).bind fun result => ?_
  cases result with
  | ok => exact .pure _
  | error errno => exact (Shuts.noted _).bind fun _ => .pure _

theorem shuts_abandon (line : UInt32) (exported : Export)
    : Shuts (abandon line exported : StateM Machine Unit) := by
  cases exported with
  | existing => exact .noted _
  | fresh => exact (shuts_unexport line).bind fun _ => .pure _

-----------------------------------------------------------------------------------------
-- Sessions
-----------------------------------------------------------------------------------------

/-- Calls to the driver keep to the handles that were given out. -/
theorem numbered_of_performs {calls : List (LineCall Nat)} {before after : Machine}
    (performs : Performs before calls after)
    : before.Numbered → after.Numbered := by
  refine @Pervades.of_performs (fun before after => before.Numbered → after.Numbered)
    numbered_pervades (fun first next holds => next (first holds)) (fun timer time before holds => ?_)
    (fun entry before holds => holds) calls before after performs
  cases timer <;> exact holds

/-- Every action of a session keeps to the handles that were given out, also those from outside. -/
theorem numbered_perform (env : Environment) {state : Session Nat × Machine}
    (numbered : state.2.Numbered) (action : Action)
    : (perform env state action).2.2.Numbered := by
  obtain ⟨session, machine⟩ := state
  cases action with
  | step step =>
      exact numbered_of_performs (session.done env step machine describe_still).performs numbered
  | _ => exact numbered

/-- Files are open behind handles that were given out, whatever is done. -/
theorem numbered_reach (env : Environment) {state : Session Nat × Machine}
    (numbered : state.2.Numbered) (actions : List Action)
    : (reach env state actions).2.Numbered :=
  Acting.reach_keeps (fun state : Session Nat × Machine => state.2.Numbered)
    (fun _ action numbered => numbered_perform env numbered action) numbered actions

end CharLcd.Sysfs

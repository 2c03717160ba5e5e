import CharLcd.Proofs.Lives.Standing
import CharLcd.Proofs.Sysfs.Ownership

/-! How a connection is closed on a machine.

Its lines are taken back one after the other in the order in which they were acquired: each is turned
into an input, its value is closed, and it is unexported, whatever failed before. The first failure of
all these is reported. Closing a connection again, or giving it up afterwards, does nothing.
-/

namespace CharLcd.Sysfs

open Machine
open Session (occupant)

-----------------------------------------------------------------------------------------
-- Releasing lines one after the other
-----------------------------------------------------------------------------------------

/-- The file calls of taking back lines one after the other, with the result of each attempt. -/
inductive Releases (base : String) : List UInt32 → List Call → List (Except Errno Unit) → Prop where
  | nothing : Releases base [] [] []
  | next {line : UInt32} {lines : List UInt32} {turned given rest : List Call}
      {reverted unexported : Except Errno Unit} {results : List (Except Errno Unit)} :
      Attempt base (.direction line) "in" turned reverted
      → Attempt base .unexportFile (numberLine line) given unexported
      → Releases base lines rest results
      → Releases base (line :: lines) (turned ++ .closed (.value line) :: (given ++ rest))
          (reverted :: unexported :: results)

/-- The first failure among some results, if there is one. -/
def firstOf : List (Except Errno Unit) → Except GpioError Unit
  | [] => .ok ()
  | .ok () :: rest => firstOf rest
  | .error errno :: _ => .error (.io errno.kind)

/-- There is no failure just if all has succeeded, by induction on the results. -/
theorem firstOf_eq_ok_iff {results : List (Except Errno Unit)}
    : firstOf results = .ok () ↔ ∀ result ∈ results, result = .ok () := by
  induction results with
  | nil => simp [firstOf]
  | cons result rest ih =>
      cases result with
      | ok => simp [firstOf, ih]
      | error errno => simp [firstOf]

/-- The failure of a line goes before those of the lines behind it. -/
theorem firstOf_release (reverted unexported : Except Errno Unit)
    (results : List (Except Errno Unit))
    : firstOf (reverted :: unexported :: results)
      = (firstFailure reverted unexported).bind fun _ => firstOf results := by
  cases reverted <;> cases unexported <;> rfl

/-- The other lines are released behind the first one, whose failure is reported and goes before theirs. -/
theorem releaseAll_cons {line : Line Nat} {before middle : Machine} {result : Except GpioError Unit}
    (released
      : (release line : StateM Machine (Except GpioError Unit)).run before = (result, middle))
    (rest : List (Line Nat))
    : ∃ journal next,
        Does [] journal middle next
        ∧ (Line.releaseAll (line :: rest) : StateM Machine (Except GpioError Unit)).run before
          = (result.bind fun _ => ((Line.releaseAll rest : StateM Machine _).run next).1,
              ((Line.releaseAll rest : StateM Machine _).run next).2) := by
  have answered
      : (LineDriver.release line : StateM Machine (Except GpioError Unit)).run before
        = (result, middle) :=
    released
  rw [Line.releaseAll, run_sequence, answered]
  cases result with
  | ok => exact ⟨[], middle, .refl middle, rfl⟩
  | error cause =>
      exact ⟨_, middle.reporting (.releaseFailed line.number cause), middle.does_reporting _, rfl⟩

/-- Lines are released one after the other, whatever fails. By induction on the lines. -/
theorem releaseAll_run {lines : List (Line Nat)} {before : Machine} (live : Live lines before)
    : ∃ log results after,
        (Line.releaseAll lines : StateM Machine (Except GpioError Unit)).run before
          = (firstOf results, after)
        ∧ after.calls.toList = before.calls.toList ++ log
        ∧ Releases before.base (lines.map Line.number) log results
        ∧ after.used = before.used.filter (· ∉ lines.map Line.number) := by
  induction lines generalizing before with
  | nil => exact ⟨[], [], before, rfl, (List.append_nil _).symm, .nothing, by simp⟩
  | cons line rest ih =>
      obtain ⟨log, journal, result, middle, run, takesBack, released⟩ :=
        release_cases (live.opened line List.mem_cons_self) (live.given line List.mem_cons_self)
      obtain ⟨_, next, does, goesOn⟩ := releaseAll_cons run rest
      obtain ⟨others, results, after, runs, calls, releases, used⟩ :=
        ih ((live.takesBack takesBack).does does)
      rw [does.base, takesBack.base] at releases
      rw [runs] at goesOn
      cases released with
      | @attempted turned given _ _ reverted unexported reverts unexports =>
          refine ⟨_, reverted :: unexported :: results, after, ?_, ?_,
            .next reverts.1 unexports.1 releases, ?_⟩
          · rw [goesOn, firstOf_release]
          · rw [calls, does.calls, takesBack.calls]
            simp
          · rw [used, does.used, takesBack.used, filter_filter_notMem]
            rfl

-----------------------------------------------------------------------------------------
-- Closing and giving up
-----------------------------------------------------------------------------------------

/-- Closing an open connection releases its lines, and reports the stage at last. -/
theorem run_close {connection : Connection Nat} {lines : Wiring (Line Nat)}
    (opened : connection.lines = some lines) (before : Machine)
    : (connection.close : StateM Machine (Except GpioError Unit × Connection Nat)).run before
      = ((((Line.releaseAll lines.toList : StateM Machine _).run before).1, connection.closed),
          ((Line.releaseAll lines.toList : StateM Machine _).run before).2.reporting
            (.stageEntered .closed)) := by
  rw [Connection.close, Connection.closed, opened]
  simp only [run_sequence]
  rfl

/-- Giving up a connection closes it, and reports a failure. -/
theorem run_discard (connection : Connection Nat) (before : Machine)
    : ∃ notes,
        ((connection.discard : StateM Machine Unit).run before).2
        = { ((connection.close : StateM Machine (Except GpioError Unit × Connection Nat)).run
              before).2 with notes } := by
  rw [Connection.discard, run_sequence]
  rcases (connection.close : StateM Machine (Except GpioError Unit × Connection Nat)).run before
    with ⟨⟨_ | _, closed⟩, after⟩
  · exact ⟨_, rfl⟩
  · exact ⟨after.notes, rfl⟩

-----------------------------------------------------------------------------------------
-- Closing in a session
-----------------------------------------------------------------------------------------

/-- Closing an open connection, as it is done on a machine with `closed` as what comes of it. Its lines are
taken back in the order in which they were acquired, whatever fails, and the first failure is the result.
They are free then, and lines that are held elsewhere are still held. To close the connection again, to
give it up afterwards, or to release one of its lines once more does nothing. Giving the connection up
instead of closing it does the same but for a note.
-/
structure ClosesWhole (session : Session Nat) (slot : Nat) (connection : Connection Nat)
    (lines : Wiring (Line Nat)) (before : Machine)
    (closed : (Except GpioError Unit × Connection Nat) × Machine)
    : Prop where
  calls : ∃ log results,
    closed.2.calls.toList = before.calls.toList ++ log
    ∧ Releases before.base (lines.toList.map Line.number) log results
    ∧ closed.1.1 = firstOf results
    ∧ (closed.1.1 = .ok () ↔ ∀ result ∈ results, result = .ok ())
  freed : ∀ line ∈ lines.toList, line.number ∉ closed.2.used
  held : ∀ place ≠ Slot.connection slot, ∀ line ∈ session.linesIn place,
    line.number ∈ closed.2.used
  again : ∀ machine : Machine,
    (closed.1.2.close : StateM Machine (Except GpioError Unit × Connection Nat)).run machine
      = ((.ok (), closed.1.2), machine)
    ∧ (closed.1.2.discard : StateM Machine Unit).run machine = ((), machine)
    ∧ ∀ line ∈ lines.toList,
      ((Output.mk line.number (some line.handle)).released.release
          : StateM Machine (Except GpioError Unit)).run machine
      = (.ok (), machine)
  dropped : ∃ notes,
    ((connection.discard : StateM Machine Unit).run before).2 = { closed.2 with notes }

/-- A connection that is open in a session is closed as a whole. -/
theorem closesWhole {base : String} {session : Session Nat} {slot : Nat}
    {connection : Connection Nat} {lines : Wiring (Line Nat)} {before : Machine}
    (accounts : Accounts base session.lines before)
    (present : occupant session.connections slot = some connection)
    (opened : connection.lines = some lines)
    : ClosesWhole session slot connection lines before
        ((connection.close : StateM Machine (Except GpioError Unit × Connection Nat)).run
          before) := by
  have own : session.linesIn (.connection slot) = lines.toList := by
    simp [Session.linesIn, present, Session.ofConnection, Connection.held_of_open opened]
  have split := session.lines_perm_linesIn (.connection slot)
  rw [own] at split
  have owned := (keeper base).perm split accounts
  have live : Live lines.toList before := by
    refine ⟨fun line member => owned.live.given line (List.mem_append_left _ member),
      fun line member => owned.live.opened line (List.mem_append_left _ member), ?_⟩
    exact ((List.sublist_append_left _ _).map Line.handle).nodup owned.live.apart
  have distinct := owned.distinct
  rw [List.map_append] at distinct
  have apart := (List.nodup_append.mp distinct).2.2
  obtain ⟨log, results, after, run, calls, releases, used⟩ := releaseAll_run live
  have dropped := run_discard connection before
  rw [run_close opened, run] at dropped ⊢
  refine ⟨⟨log, results, calls, releases, rfl, firstOf_eq_ok_iff⟩, fun line member => ?_,
    fun place other line member => ?_, fun machine => ?_, dropped⟩
  · intro still
    have free := (List.mem_filter.mp (used ▸ still : line.number ∈ before.used.filter _)).2
    exact of_decide_eq_true free (List.mem_map_of_mem member)
  · have beside := session.linesIn_subset_linesBeside other member
    have stays : line.number ∉ lines.toList.map Line.number := fun own =>
      apart line.number own line.number (List.mem_map_of_mem beside) rfl
    show line.number ∈ after.used
    rw [used, List.mem_filter]
    refine ⟨owned.used.symm.subset ?_, decide_eq_true stays⟩
    exact List.mem_map_of_mem (List.mem_append_right _ beside)
  · exact ⟨connection.run_close_closed machine, connection.run_discard_closed machine,
      fun _ _ => rfl⟩

end CharLcd.Sysfs

import CharLcd.Bench.Basic
import CharLcd.Proofs.Coupling.Basic
import CharLcd.Proofs.Sysfs.Account
import CharLcd.Proofs.Sysfs.Faultless

/-! A bench and a machine side by side, as long as nothing fails.

What is on the files of the machine can be told from what is held on the bench and from its record.
So the two drivers answer alike, if the control files of all lines that they are asked for are there.
-/

namespace CharLcd

open Sysfs

-----------------------------------------------------------------------------------------
-- Files told from a record
-----------------------------------------------------------------------------------------

namespace Bench

/-- What is on a control file according to a bench. -/
def text (bench : Bench) : ControlFile → String
  | .exportFile => ((Events.exports bench.events.toList).getLast?.map numberLine).getD ""
  | .unexportFile => ((Events.releases bench.events.toList).getLast?.map numberLine).getD ""
  | .direction line => if line ∈ bench.held then "low" else "in"
  | .value line =>
      Note.levelDigit ((Events.writesTo bench.events.toList line).getLast?.getD false)

variable {bench : Bench}

theorem exports_record (bench : Bench) (event : Event)
    : Events.exports (bench.record event).events.toList
      = Events.exports bench.events.toList ++ event.export?.toList := by
  cases event <;> simp [Bench.record, Events.exports, Event.export?]

theorem releases_record (bench : Bench) (event : Event)
    : Events.releases (bench.record event).events.toList
      = Events.releases bench.events.toList ++ event.release?.toList := by
  cases event <;> simp [Bench.record, Events.releases, Event.release?]

theorem writesTo_record (bench : Bench) (event : Event) (line : UInt32)
    : Events.writesTo (bench.record event).events.toList line
      = Events.writesTo bench.events.toList line
        ++ (match event with
            | .written number level => if number = line then [level] else []
            | _ => []) := by
  simp only [Bench.record, Events.writesTo, Events.writes, Array.toList_push,
    List.filterMap_append]
  cases event with
  | written number level =>
      have single : List.filterMap Event.write? [.written number level] = [(number, level)] := rfl
      rw [single]
      by_cases same : number = line
      · simp [same]
      · simp [same]
  | _ => rfl

/-- Recording an event is seen in the files for exports and unexports and in the values. -/
theorem text_record (event : Event) (file : ControlFile)
    : (bench.record event).text file
      = match file, event with
        | .exportFile, .exported number => numberLine number
        | .unexportFile, .released number => numberLine number
        | .value line, .written number level =>
            if line = number then Note.levelDigit level else bench.text file
        | _, _ => bench.text file := by
  cases file with
  | exportFile => cases event <;> simp [text, exports_record, Event.export?]
  | unexportFile => cases event <;> simp [text, releases_record, Event.release?]
  | direction line => cases event <;> rfl
  | value line =>
      simp only [text, writesTo_record]
      cases event with
      | written number level =>
          by_cases same : line = number
          · simp [same]
          · simp [same, Ne.symm same]
      | _ => simp

/-- Handing out a line is seen in the file for exports and in the direction of the line. -/
theorem text_acquired (number : UInt32)
    : ({ bench with held := number :: bench.held }.record (.exported number)).text
      = replaced (replaced bench.text .exportFile (numberLine number)) (.direction number)
          "low" := by
  funext file
  rw [text_record]
  cases file with
  | direction line =>
      by_cases same : line = number
      · simp [text, replaced, same]
      · simp [text, replaced, same]
  | _ => simp [text, replaced]

/-- Taking a line back is seen in the direction of the line and in the file for unexports. -/
theorem text_released (number : UInt32)
    : (release number bench).text
      = replaced (replaced bench.text (.direction number) "in") .unexportFile
          (numberLine number) := by
  funext file
  rw [release, text_record]
  cases file with
  | direction line =>
      by_cases same : line = number
      · simp [text, replaced, same]
      · simp [text, replaced, same]
  | _ => simp [text, replaced]

/-- A write is seen in the value of its line. -/
theorem text_written (number : UInt32) (level : Bool)
    : (bench.record (.written number level)).text
      = replaced bench.text (.value number) (Note.levelDigit level) := by
  funext file
  rw [text_record]
  cases file <;> simp [replaced]

/-- A delay is seen in no file. -/
theorem text_delayed (time : UInt32) : (bench.record (.delayed time)).text = bench.text := by
  funext file
  rw [text_record]
  cases file <;> rfl

/-- The value of a line is a single digit. -/
theorem length_text_value (line : UInt32)
    : (Text.encode (bench.text (.value line))).length = 1 := by
  have digit (level : Bool) : (Text.encode (Note.levelDigit level)).length = 1 := by
    cases level <;> decide
  exact digit _

end Bench

-----------------------------------------------------------------------------------------
-- Side by side
-----------------------------------------------------------------------------------------

/-- The numbers that a driver is asked for if it shall hand out lines one after the other, until it
refuses one that is held.
-/
def offered (held : List UInt32) : List UInt32 → List UInt32
  | [] => []
  | number :: rest => number :: if number ∈ held then [] else offered (number :: held) rest

/-- The files of a machine are those that a bench tells, and otherwise they are as at the start: the
lines of the bench are handed out, and nothing fails on either side.
-/
structure Shows (lines : List UInt32) (start : Machine) (bench : Bench) (machine : Machine)
    : Prop where
  exporting : bench.failingExports = []
  writing : bench.failingWrites = []
  distinct : bench.held.Nodup
  covered : bench.held ⊆ lines
  ascending : machine.used.Pairwise (· < ·)
  used : machine.used.Perm bench.held
  holds : Holds lines bench.text machine
  settled : Settled lines start machine

/-- The value of a line is open from its beginning on. -/
def Writable (machine : Machine) (line : Line Nat) : Prop :=
  ∃ number,
    machine.locate (.value line.number) = .ok number
    ∧ machine.openFile? line.handle = some { file := .value line.number, number }

/-- The owned lines are those that are handed out on a bench and on a machine, and the latter can write
them. Since `origin` there were the same delays on both.
-/
structure Mirrors (lines : List UInt32) (start : Machine) (origin : Bench × Machine)
    (owned : List (Line (Unit × Nat))) (bench : Bench) (machine : Machine)
    : Prop extends Shows lines start bench machine where
  owners : bench.held.Perm (owned.map Line.number)
  known : ∀ line ∈ owned, line.handle.2 < machine.nextHandle
  writable : ∀ line ∈ owned, Writable machine line.right
  apart : (owned.map fun line => line.handle.2).Nodup
  delays : ∃ events calls,
    bench.events.toList = origin.1.events.toList ++ events
    ∧ machine.calls.toList = origin.2.calls.toList ++ calls
    ∧ Events.delays events = Call.delays calls

variable {lines : List UInt32} {start machine after : Machine} {origin : Bench × Machine}
variable {owned others : List (Line (Unit × Nat))} {bench : Bench}

/-- A line can be written as long as its file stays where it is and its handle what it is. -/
theorem Writable.kept {line : Line Nat} (writable : Writable machine line)
    (settled : Settled lines machine after)
    (handle : after.openFile? line.handle = machine.openFile? line.handle)
    : Writable after line := by
  obtain ⟨number, located, opened⟩ := writable
  exact ⟨number, (settled.places _).trans located, handle.trans opened⟩

namespace Mirrors

theorem perm (mirrors : Mirrors lines start origin owned bench machine)
    (perm : owned.Perm others)
    : Mirrors lines start origin others bench machine where
  toShows := mirrors.toShows
  owners := mirrors.owners.trans (perm.map _)
  known line member := mirrors.known line (perm.symm.subset member)
  writable line member := mirrors.writable line (perm.symm.subset member)
  apart := (perm.map _).nodup mirrors.apart
  delays := mirrors.delays

/-- What a bench does in an instant comes after the same delays. -/
theorem delays_step (mirrors : Mirrors lines start origin owned bench machine) {event : Event}
    (instant : event.delay? = none) (keeps : Keeps lines machine after)
    : ∃ events calls,
      (bench.events.push event).toList = origin.1.events.toList ++ events
      ∧ after.calls.toList = origin.2.calls.toList ++ calls
      ∧ Events.delays events = Call.delays calls := by
  obtain ⟨events, calls, recorded, called, same⟩ := mirrors.delays
  obtain ⟨log, more, none⟩ := keeps.instant
  refine ⟨events ++ [event], calls ++ log, ?_, ?_, ?_⟩
  · rw [Array.toList_push, recorded, List.append_assoc]
  · rw [more, called, List.append_assoc]
  · have nothing : Events.delays [event] = [] := by
      simp [Events.delays, instant]
    rw [Events.delays] at same nothing
    rw [Call.delays] at same none
    rw [Events.delays, Call.delays, List.filterMap_append, List.filterMap_append, same, nothing,
      none]

/-- A line is handed out on both sides. -/
theorem handsOut (mirrors : Mirrors lines start origin owned bench machine) {number : UInt32}
    (member : number ∈ lines) (small : ∀ line ∈ lines, line < lineCount)
    (free : number ∉ bench.held)
    : ∃ handle after,
        (acquire number : StateM Machine (Except GpioError Nat)).run machine = (.ok handle, after)
        ∧ Mirrors lines start origin (⟨number, (), handle⟩ :: owned)
            ({ bench with held := number :: bench.held }.record (.exported number)) after := by
  have below : ¬lineCount ≤ number := UInt32.not_le.mpr (small number member)
  have unused : number ∉ machine.used := fun used => free (mirrors.used.subset used)
  obtain ⟨handle, place, after, run, holds, keeps, used, fresh, next, located, opened, handles⟩ :=
    acquire_of_holds mirrors.holds member below unused
  refine ⟨handle, after, run, ⟨mirrors.exporting, mirrors.writing, ?_, ?_, ?_, ?_, ?_, ?_⟩,
    mirrors.owners.cons number, ?_, ?_, ?_, mirrors.delays_step rfl keeps⟩
  · exact List.nodup_cons.mpr ⟨free, mirrors.distinct⟩
  · exact List.cons_subset.mpr ⟨member, mirrors.covered⟩
  · exact used ▸ pairwise_insertAscending mirrors.ascending
  · rw [used]
    exact (insertAscending_perm unused).trans (mirrors.used.cons number)
  · rw [Bench.text_acquired]
    exact holds
  · exact mirrors.settled.trans keeps.toSettled
  · intro line member
    rcases List.mem_cons.mp member with rfl | member
    · exact next
    · exact Nat.lt_of_lt_of_le (mirrors.known line member) keeps.fresh
  · intro line member
    rcases List.mem_cons.mp member with rfl | member
    · exact ⟨place, located, opened⟩
    exact (mirrors.writable line member).kept keeps.toSettled
      (handles _ (mirrors.known line member))
  · apply List.nodup_cons.mpr
    refine ⟨fun again => ?_, mirrors.apart⟩
    obtain ⟨line, member, same⟩ := List.mem_map.mp again
    have old := mirrors.known line member
    simp only at same
    omega

/-- A level is set on both sides. -/
theorem writes (mirrors : Mirrors lines start origin owned bench machine)
    {line : Line (Unit × Nat)} (member : line ∈ owned) (level : Bool)
    : ∃ after,
        (write line.right level : StateM Machine (Except GpioError Unit)).run machine
          = (.ok (), after)
        ∧ Mirrors lines start origin owned (bench.record (.written line.number level)) after := by
  have held : line.number ∈ bench.held :=
    mirrors.owners.symm.subset (List.mem_map_of_mem member)
  obtain ⟨place, located, opened⟩ := mirrors.writable line member
  obtain ⟨after, run, holds, keeps, used, next, handles⟩ :=
    write_of_holds mirrors.holds line.right (mirrors.covered held)
      (Bench.length_text_value _) located opened level
  refine ⟨after, run, ⟨mirrors.exporting, mirrors.writing, mirrors.distinct, mirrors.covered,
    used ▸ mirrors.ascending, used ▸ mirrors.used, ?_, ?_⟩, mirrors.owners, ?_, ?_, mirrors.apart,
    mirrors.delays_step rfl keeps⟩
  · rw [Bench.text_written]
    exact holds
  · exact mirrors.settled.trans keeps.toSettled
  · exact fun line member => next ▸ mirrors.known line member
  · exact fun line member => (mirrors.writable line member).kept keeps.toSettled (handles _)

/-- A line is taken back on both sides. -/
theorem takesBack {line : Line (Unit × Nat)}
    (mirrors : Mirrors lines start origin (line :: owned) bench machine)
    : ∃ after,
        (release line.right : StateM Machine (Except GpioError Unit)).run machine = (.ok (), after)
        ∧ Mirrors lines start origin owned (Bench.release line.number bench) after := by
  have held : line.number ∈ bench.held := mirrors.owners.symm.subset List.mem_cons_self
  obtain ⟨place, located, opened⟩ := mirrors.writable line List.mem_cons_self
  obtain ⟨after, run, holds, keeps, used, handles⟩ :=
    release_of_holds mirrors.holds line.right (mirrors.covered held)
      (mirrors.known line List.mem_cons_self) opened
  obtain ⟨single, apart⟩ := List.nodup_cons.mp mirrors.apart
  refine ⟨after, run, ⟨mirrors.exporting, mirrors.writing, mirrors.distinct.filter _, ?_, ?_, ?_,
    ?_, ?_⟩, ?_, ?_, ?_, apart, mirrors.delays_step rfl keeps⟩
  · exact fun number member => mirrors.covered (List.mem_of_mem_filter member)
  · exact used ▸ mirrors.ascending.filter _
  · rw [used]
    exact mirrors.used.filter _
  · rw [Bench.text_released]
    exact holds
  · exact mirrors.settled.trans keeps.toSettled
  · exact perm_filter_ne mirrors.owners mirrors.distinct
  · intro other member
    exact Nat.lt_of_lt_of_le (mirrors.known other (List.mem_cons_of_mem _ member)) keeps.fresh
  · intro other member
    have known := mirrors.known other (List.mem_cons_of_mem _ member)
    have different : other.handle.2 ≠ line.handle.2 := by
      intro same
      exact single (List.mem_map.mpr ⟨other, member, same⟩)
    exact (mirrors.writable other (List.mem_cons_of_mem _ member)).kept keeps.toSettled
      (handles _ known different)

/-- Time passes on both sides. -/
theorem waits (mirrors : Mirrors lines start origin owned bench machine) (time : UInt32)
    : Mirrors lines start origin owned (bench.record (.delayed time))
        (machine.record (.delayed time)) where
  exporting := mirrors.exporting
  writing := mirrors.writing
  distinct := mirrors.distinct
  covered := mirrors.covered
  ascending := mirrors.ascending
  used := mirrors.used
  holds := by
    rw [Bench.text_delayed]
    exact { mirrors.holds with }
  settled := { mirrors.settled with }
  owners := mirrors.owners
  known := mirrors.known
  writable := mirrors.writable
  apart := mirrors.apart
  delays := by
    obtain ⟨events, calls, recorded, called, same⟩ := mirrors.delays
    refine ⟨events ++ [.delayed time], calls ++ [.delayed time], ?_, ?_, ?_⟩
    · simp [Bench.record, recorded]
    · simp [Machine.record, called]
    · rw [Events.delays, Call.delays] at same
      rw [Events.delays, Call.delays, List.filterMap_append, List.filterMap_append, same]
      rfl

end Mirrors

/-- A bench and a machine answer alike, as long as they are only asked for lines whose control files
are there.
-/
theorem mirrors_coupling (small : ∀ line ∈ lines, line < lineCount) (start : Machine)
    (origin : Bench × Machine)
    : Coupling (σ := Bench) (τ := Machine) (Mirrors lines start origin) fun numbers bench =>
        ∀ number ∈ offered bench.held numbers, number ∈ lines where
  perm perm mirrors := mirrors.perm perm
  permitted_nil _ _ member := absurd member List.not_mem_nil
  report := by
    intro owned numbers entry general bench machine both
    obtain ⟨mirrors, permitted⟩ := both
    have becomes := becomes_reporting machine entry
    refine ⟨rfl, ?_, permitted⟩
    exact { mirrors with
      holds := mirrors.holds.unchanged becomes
      settled := mirrors.settled.trans (Keeps.of_becomes becomes).toSettled }
  wait := by
    intro owned timer time bench machine mirrors
    cases timer with
    | recorded => exact ⟨rfl, mirrors.waits time⟩
    | unrecorded => exact ⟨rfl, mirrors⟩
  acquire := by
    intro owned number numbers bench machine both
    obtain ⟨mirrors, permitted⟩ := both
    have member : number ∈ lines := permitted number List.mem_cons_self
    have unfailing : number ∉ bench.failingExports := by simp [mirrors.exporting]
    have onBench
        : (LineDriver.acquire number : StateM Bench (Except GpioError Unit)).run bench
          = Bench.acquire number bench :=
      rfl
    have onMachine
        : (LineDriver.acquire number : StateM Machine (Except GpioError Nat)).run machine
          = (acquire number : StateM Machine (Except GpioError Nat)).run machine :=
      rfl
    rw [onBench, onMachine, Bench.acquire, if_neg unfailing]
    by_cases held : number ∈ bench.held
    · have used : number ∈ machine.used := mirrors.used.symm.subset held
      rcases acquire_cases number machine with ⟨cause, run, large | taken⟩ | ⟨_, free, _⟩
      · exact absurd large.1 (UInt32.not_le.mpr (small number member))
      · rw [if_pos held, run, taken.2]
        exact ⟨rfl, mirrors⟩
      · exact absurd used free
    · obtain ⟨handle, after, run, handsOut⟩ := mirrors.handsOut member small held
      rw [if_neg held, run]
      refine ⟨handsOut, fun other offer => permitted other (List.mem_cons_of_mem _ ?_)⟩
      rw [if_neg held]
      exact offer
  write := by
    intro owned line level member bench machine mirrors
    obtain ⟨after, run, written⟩ := mirrors.writes member level
    have onBench
        : (LineDriver.write line.left level : StateM Bench (Except GpioError Unit)).run bench
          = (.ok (), bench.record (.written line.number level)) :=
      if_neg (by simp [mirrors.writing])
    have onMachine
        : (LineDriver.write line.right level : StateM Machine (Except GpioError Unit)).run machine
          = (.ok (), after) :=
      run
    rw [onBench, onMachine]
    exact ⟨rfl, written⟩
  release := by
    intro owned line bench machine mirrors
    obtain ⟨after, run, taken⟩ := mirrors.takesBack
    have onMachine
        : (LineDriver.release line.right : StateM Machine (Except GpioError Unit)).run machine
          = (.ok (), after) :=
      run
    rw [onMachine]
    exact ⟨rfl, taken⟩

end CharLcd

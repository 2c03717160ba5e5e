import CharLcd.Proofs.Config.Lookups
import CharLcd.Proofs.Display.Script
import CharLcd.Proofs.Setup.Rollback

/-! The stages that a connection reports.

Setting up a connection reports one stage after the other, as far as it comes; where it stops tells
what went wrong. Afterwards only closing the connection reports a stage, and that just once.
-/

namespace CharLcd

/-- The stage that a note reports. -/
def Note.stage? : Note → Option Stage
  | stageEntered stage => some stage
  | _ => none

/-- A text begins as its first part does. -/
theorem Text.head?_append {first : String} {c : Char} (begins : first.toList.head? = some c)
    (rest : String)
    : (first ++ rest).toList.head? = some c := by
  rw [String.toList_append, List.head?_append, begins]
  rfl

/-- Just the notes that report a stage are logged as a stage of a connection, for debugging. -/
theorem Note.stage?_eq_some_iff {entry : Note} {stage : Stage}
    : entry.stage? = some stage
      ↔ entry.severity = .debug ∧ entry.text = s!"Connection stage: {stage.label}" := by
  constructor
  · intro told
    cases entry with
    | stageEntered entered =>
        cases told
        exact ⟨rfl, rfl⟩
    | _ => cases told
  · intro told
    obtain ⟨debug, same⟩ := told
    have begins : entry.text.toList.head? = some 'C' := same ▸ Text.head?_append (by rfl) _
    have apart {c : Char} (other : entry.text.toList.head? = some c) (different : c ≠ 'C')
        : entry.stage? = some stage :=
      absurd (Option.some.inj (other.symm.trans begins)) different
    cases entry with
    | stageEntered entered =>
        have labels : ∀ one other : Stage,
            s!"Connection stage: {one.label}" = s!"Connection stage: {other.label}"
            → one = other := by
          intro one other same
          cases one <;> cases other <;> first | rfl | exact absurd same (by decide)
        exact congrArg some (labels entered stage same)
    | registered backlight controllers =>
        cases backlight <;> cases controllers <;> exact apart (by rfl) (by decide)
    | settingUp _ _ | signalMapped _ _ =>
        exact apart
          (Text.head?_append (Text.head?_append (Text.head?_append (by rfl) _) _) _) (by decide)
    | alreadyExported _ | leftExported _ | lineExported _ =>
        exact apart (Text.head?_append (Text.head?_append (by rfl) _) _) (by decide)
    | lineReleased _ => exact apart (Text.head?_append (by rfl) _) (by decide)
    | _ => cases debug

variable {σ ω α β : Type}

-----------------------------------------------------------------------------------------
-- What calls show of a set-up
-----------------------------------------------------------------------------------------

/-- What calls show of the course of a set-up: the stages entered, the errors reported, and whether a
line was refused or a level was not set.
-/
structure Marks where
  stages : List Stage := []
  errors : List Note := []
  refused : Bool := false
  unset : Bool := false
deriving DecidableEq

/-- What is shown by calls in a row. -/
def Marks.append (first second : Marks) : Marks where
  stages := first.stages ++ second.stages
  errors := first.errors ++ second.errors
  refused := first.refused || second.refused
  unset := first.unset || second.unset

namespace LineCall

/-- Whether a call is an acquisition that failed. -/
def refused : LineCall ω → Bool
  | acquired _ (.error _) => true
  | _ => false

/-- Whether a call is a write that failed. -/
def unset : LineCall ω → Bool
  | wrote _ _ (.error _) => true
  | _ => false

/-- The stages entered among calls, in order. -/
def stages (calls : List (LineCall ω)) : List Stage :=
  (entries calls).filterMap Note.stage?

@[simp]
theorem stages_append (calls others : List (LineCall ω))
    : stages (calls ++ others) = stages calls ++ stages others := by
  simp only [stages, entries_append, List.filterMap_append]

/-- What calls show of the course of a set-up. -/
def marks (calls : List (LineCall ω)) : Marks where
  stages := stages calls
  errors := (entries calls).filter (·.severity == .error)
  refused := calls.any refused
  unset := calls.any unset

theorem marks_append (calls others : List (LineCall ω))
    : marks (calls ++ others) = (marks calls).append (marks others) := by
  simp only [marks, Marks.append, stages_append, entries_append, List.filter_append,
    List.any_append]

end LineCall

open LineCall

namespace Marks

@[simp]
theorem append_nothing (marks : Marks) : marks.append {} = marks := by
  simp [append]

@[simp]
theorem nothing_append (marks : Marks) : append {} marks = marks := by
  simp [append]

/-- What is shown when lines are acquired: whether that failed. -/
def ofAcquisition {ε : Type} (result : Except ε α) : Marks :=
  { refused := result.toOption.isNone }

/-- What is shown when levels are set: whether that failed. -/
def ofWrites {ε : Type} (result : Except ε α) : Marks :=
  { unset := result.toOption.isNone }

end Marks

/-- A note that neither reports a stage nor an error shows nothing. -/
theorem marks_noted {entry : Note} (unstaged : entry.stage? = none)
    (harmless : (entry.severity == .error) = false) (calls : List (LineCall ω))
    : marks (.noted entry :: calls) = marks calls := by
  have added : entries (.noted entry :: calls) = entry :: entries calls := rfl
  simp [marks, stages, added, unstaged, harmless, refused, unset]

variable [Journal (StateM σ)] [Clock (StateM σ)] [LineDriver (StateM σ) ω]

/-- A program with calls that show what `shown` says of its result. -/
def Reveals (shown : α → Marks) (x : StateM σ α) : Prop :=
  Makes x fun (calls : List (LineCall ω)) result => marks calls = shown result

namespace Reveals

theorem pure {shown : α → Marks} {value : α} (nothing : shown value = {})
    : Reveals shown (pure value : StateM σ α) :=
  Makes.pure nothing.symm

/-- What is shown by a sequence is what its parts show. -/
theorem bind {shown : α → Marks} {rest : β → Marks} {x : StateM σ α} {f : α → StateM σ β}
    (first : Reveals shown x)
    (next : ∀ value, Makes (f value) fun (calls : List (LineCall ω)) result =>
      (shown value).append (marks calls) = rest result)
    : Reveals rest (x >>= f) := by
  refine Makes.bind first fun value calls same => (next value).mono fun others result goesOn => ?_
  rw [marks_append, same, goesOn]

/-- What shows nothing first makes no difference. -/
theorem after {shown : β → Marks} {x : StateM σ α} {f : α → StateM σ β}
    (first : Reveals (fun _ => {}) x) (next : ∀ value, Reveals shown (f value))
    : Reveals shown (x >>= f) :=
  first.bind fun value => (next value).mono fun calls result same => by
    rw [Marks.nothing_append, same]

/-- What is shown later is added to what was shown before. -/
theorem behind {first : Marks} {shown rest : α → Marks} {x : StateM σ α} (reveals : Reveals shown x)
    (same : ∀ value, first.append (shown value) = rest value)
    : Makes x fun (calls : List (LineCall ω)) result => first.append (marks calls) = rest result :=
  Makes.mono reveals fun _ value shown => by rw [shown, same]

/-- What is shown may be told in another way. -/
theorem mono {shown rest : α → Marks} {x : StateM σ α} (reveals : Reveals shown x)
    (same : ∀ value, shown value = rest value)
    : Reveals rest x :=
  Makes.mono reveals fun _ value shown => shown.trans (same value)

theorem noted {entry : Note} (unstaged : entry.stage? = none)
    (harmless : (entry.severity == .error) = false)
    : Reveals (fun _ => {}) (note entry : StateM σ Unit) :=
  (Makes.noted entry).mono fun calls _ only => by
    rw [only, marks_noted unstaged harmless]
    rfl

theorem wait (timer : Timer) (time : UInt32)
    : Reveals (fun _ => {}) (Clock.wait timer time : StateM σ Unit) :=
  (Makes.wait timer time).mono fun _ _ only => only ▸ rfl

theorem release (line : Line ω)
    : Reveals (fun _ => {}) (LineDriver.release line : StateM σ (Except GpioError Unit)) :=
  (Makes.release line).mono fun _ _ only => only ▸ rfl

theorem acquire (number : UInt32)
    : Reveals Marks.ofAcquisition (LineDriver.acquire number : StateM σ (Except GpioError ω)) :=
  (Makes.acquire number).mono fun _ answer only => by
    subst only
    cases answer <;> rfl

theorem write (line : Line ω) (level : Bool)
    : Reveals Marks.ofWrites
        (LineDriver.write line level : StateM σ (Except GpioError Unit)) :=
  (Makes.write line level).mono fun _ answer only => by
    subst only
    cases answer <;> rfl

end Reveals

-----------------------------------------------------------------------------------------
-- Acquiring, writing and giving back
-----------------------------------------------------------------------------------------

theorem reveals_discard (line : Line ω)
    : Reveals (fun _ => {}) (line.discard : StateM σ Unit) := by
  refine (Reveals.release line).after fun result => ?_
  cases result with
  | ok => exact .pure rfl
  | error cause => exact .noted rfl rfl

/-- Releasing lines shows nothing, whatever fails. By induction on the lines. -/
theorem reveals_releaseAll (lines : List (Line ω))
    : Reveals (fun _ => {}) (Line.releaseAll lines : StateM σ (Except GpioError Unit)) := by
  induction lines with
  | nil => exact .pure rfl
  | cons line rest ih =>
      refine (Reveals.release line).after fun result => ?_
      cases result with
      | ok => exact ih
      | error cause =>
          exact (Reveals.noted rfl rfl).after fun _ => ih.after fun _ => .pure rfl

theorem reveals_holding {signal : Signal} {number : UInt32}
    {next : Line ω → StateM σ (Except ConnectionError α)}
    (follow : ∀ handle, Reveals Marks.ofAcquisition (next ⟨number, handle⟩))
    : Reveals Marks.ofAcquisition (holding signal number next) := by
  refine (Reveals.noted rfl rfl).after fun _ => (Reveals.acquire number).bind fun answer => ?_
  cases answer with
  | error cause => exact .pure rfl
  | ok handle =>
      refine Makes.bind (follow handle) fun result calls shown => ?_
      cases result with
      | ok value => exact .pure (by rw [List.append_nil, shown]; rfl)
      | error cause =>
          refine Makes.bind (reveals_discard _) fun _ others nothing => .pure ?_
          rw [List.append_nil, marks_append, shown, nothing]
          rfl

theorem reveals_holdingOptional {signal : Signal} {number : Option UInt32}
    {next : Option (Line ω) → StateM σ (Except ConnectionError α)}
    (follow : ∀ line, Reveals Marks.ofAcquisition (next line))
    : Reveals Marks.ofAcquisition (holdingOptional signal number next) := by
  cases number with
  | none => exact follow none
  | some number => exact reveals_holding fun handle => follow (some ⟨number, handle⟩)

/-- Acquiring the lines of a display shows whether one was refused. -/
theorem reveals_acquire (numbers : Wiring UInt32)
    : Reveals Marks.ofAcquisition
        (numbers.acquire : StateM σ (Except ConnectionError (Wiring (Line ω)))) := by
  refine reveals_holding fun en => reveals_holding fun rs => reveals_holding fun d7 => ?_
  refine reveals_holding fun d6 => reveals_holding fun d5 => reveals_holding fun d4 => ?_
  exact reveals_holdingOptional fun backlight => reveals_holdingOptional fun en2 => .pure rfl

/-- A transfer shows whether a level was not set. By induction on the steps. -/
theorem reveals_transfer (timer : Timer) (steps : List (BusStep ω))
    : Reveals Marks.ofWrites (transfer timer steps : StateM σ (Except GpioError Unit)) := by
  induction steps with
  | nil => exact .pure rfl
  | cons step rest ih =>
      cases step with
      | settle => exact (Reveals.wait timer settleTime).after fun _ => ih
      | drive line level =>
          refine (Reveals.write line level).bind fun result => ?_
          cases result with
          | ok => exact ih.mono fun result => rfl
          | error cause =>
              refine Makes.noted_bind (Makes.bind ih fun value calls shown => .pure ?_)
              rw [List.append_nil, marks_noted rfl rfl, shown]
              cases value <;> rfl

section Open

variable {connection : Connection ω} {lines : Wiring (Line ω)}
  (opened : connection.lines = some lines)

include opened

theorem reveals_send (target : Target) (register : Register) (byte : UInt8)
    : Reveals Marks.ofWrites
        (connection.send target register byte : StateM σ (Except GpioError Unit)) := by
  refine (Reveals.noted rfl rfl).after fun _ => ?_
  simp only [Connection.run, opened]
  split
  · exact (Reveals.noted rfl rfl).after fun _ => reveals_transfer _ _
  · exact reveals_transfer _ _

/-- The reset sequence shows whether a level was not set in one of its bytes. -/
theorem reveals_reset
    : Reveals Marks.ofWrites (connection.reset : StateM σ (Except GpioError Unit)) := by
  refine (reveals_send opened .all .command Connection.resetByte).bind fun first => ?_
  cases first with
  | error cause => exact .pure rfl
  | ok =>
      refine Reveals.behind (.after (.wait connection.timer Connection.resetTime) fun _ => ?_)
        fun result => Marks.nothing_append (Marks.ofWrites result)
      refine (reveals_send opened .all .command Connection.fourBitByte).bind fun second => ?_
      cases second with
      | error cause => exact .pure rfl
      | ok =>
          exact Reveals.behind (.after (.wait connection.timer Connection.fourBitTime) fun _ =>
            .pure rfl) fun result => Marks.nothing_append (Marks.ofWrites result)

end Open

-----------------------------------------------------------------------------------------
-- Setting up
-----------------------------------------------------------------------------------------

/-- The failure of a result, if it is one. -/
def failureOf {ε : Type} : Except ε α → Option ε
  | .error cause => some cause
  | .ok _ => none

/-- How a set-up goes, by what is shown until its failure, if it fails: a number is rejected, a line is
refused, a level is not set, or the display is ready.
-/
inductive Goes (config : PinConfig) (options : DisplayOptions)
    : Marks → Option ConnectionError → Prop where
  | rejected (error : ConnectionError) :
      config.wiring options = .error error
      → Goes config options { stages := [.unconfigured] } (some error)
  | refused (numbers : Wiring UInt32) (error : ConnectionError) :
      config.wiring options = .ok numbers
      → Goes config options { stages := [.unconfigured, .pinsAllocated], refused := true }
          (some error)
  | unset (numbers : Wiring UInt32) (error : ConnectionError) :
      config.wiring options = .ok numbers
      → Goes config options
          { stages := [.unconfigured, .pinsAllocated, .pinsExported, .protocolReset], unset := true }
          (some error)
  | ready (numbers : Wiring UInt32) :
      config.wiring options = .ok numbers
      → Goes config options
          { stages := [.unconfigured, .pinsAllocated, .pinsExported, .protocolReset, .ready] } none

section SetUp

variable {config : PinConfig} {options : DisplayOptions} {numbers : Wiring UInt32}

/-- Bringing a display up shows its stages, and whether a level was not set. -/
theorem reveals_bringUp {connection : Connection ω} {lines : Wiring (Line ω)}
    (opened : connection.lines = some lines)
    : Reveals
        (fun result : Except ConnectionError (Connection ω) =>
          match result with
          | .ok _ => { stages := [.protocolReset, .ready] }
          | .error _ => { stages := [.protocolReset], unset := true })
        (connection.bringUp lines config : StateM σ _) := by
  simp only [Connection.bringUp, Connection.enter, bind_assoc, pure_bind]
  let entering : Connection ω := { connection with stage := .protocolReset }
  have resets := reveals_reset (σ := σ) (show entering.lines = some lines from opened)
  refine Makes.noted_bind (Makes.bind resets fun result calls shown => ?_)
  have entered (calls : List (LineCall ω))
      : marks (.noted (.stageEntered .protocolReset) :: calls)
        = Marks.append { stages := [.protocolReset] } (marks calls) :=
    rfl
  cases result with
  | ok =>
      refine Makes.noted_bind (Makes.noted_bind (.pure ?_))
      rw [entered, marks_append, shown]
      rfl
  | error cause =>
      refine Makes.bind (reveals_releaseAll _) fun _ others nothing => .pure ?_
      rw [entered, List.append_nil, marks_append, shown, nothing]
      rfl

/-- With its numbers checked, setting up a display goes one of three ways. -/
theorem goes_establish (wired : config.wiring options = .ok numbers) (timer : Timer)
    : Makes (Connection.establish numbers config options timer
          : StateM σ (Except ConnectionError (Connection ω)))
        fun calls result =>
          Goes config options (Marks.append { stages := [.unconfigured] } (marks calls))
            (failureOf result) := by
  have entered (stage : Stage) (calls : List (LineCall ω))
      : marks (.noted (.stageEntered stage) :: calls)
        = Marks.append { stages := [stage] } (marks calls) :=
    rfl
  refine Makes.noted_bind (Makes.bind (reveals_acquire numbers) fun result calls shown => ?_)
  cases result with
  | error error =>
      refine .pure ?_
      rw [List.append_nil, entered, shown]
      exact .refused numbers error wired
  | ok lines =>
      refine Makes.noted_bind (Makes.noted_bind (Makes.mono (reveals_bringUp rfl) ?_))
      intro others result brought
      rw [entered, marks_append, shown, entered, marks_noted rfl rfl, brought]
      cases result with
      | error error => exact .unset numbers error wired
      | ok connection => exact .ready numbers wired

/-- Setting up a display goes one of four ways. -/
theorem goes_setUp (config : PinConfig) (options : DisplayOptions) (timer : Timer)
    : Makes (Connection.setUp config options timer
          : StateM σ (Except ConnectionError (Connection ω)))
        fun calls result => Goes config options (marks calls) (failureOf result) := by
  rw [Connection.setUp_eq]
  refine Makes.noted_bind ?_
  cases wired : config.wiring options with
  | error error => exact .pure (.rejected error wired)
  | ok numbers =>
      simp only
      split
      · refine Makes.noted_bind ((goes_establish wired timer).mono fun calls result goes => ?_)
        have same
            : marks (.noted (.backlightOutOfRange config.backlight) :: calls) = marks calls :=
          marks_noted rfl rfl calls
        rw [← same] at goes
        exact goes
      · exact goes_establish wired timer

/-- A number that a display with the given options needs is none of a line. -/
def PinConfig.Misnumbered (config : PinConfig) (options : DisplayOptions) : Prop :=
  ∃ signal ∈ config.checked options,
    ¬(0 ≤ (config.line signal).toInt ∧ (config.line signal).toInt < UInt32.size)

/-- A configuration has no wiring just if a needed number is none of a line. -/
theorem PinConfig.misnumbered_iff
    : config.Misnumbered options ↔ ∃ error, config.wiring options = .error error := by
  have refusal (signal : Signal)
      : (config.invalid? signal).isSome = true
        ↔ ¬(0 ≤ (config.line signal).toInt ∧ (config.line signal).toInt < UInt32.size) := by
    simp only [invalid?, number]
    split_ifs with valid
    · simpa using valid
    · exact ⟨fun _ => valid, fun _ => rfl⟩
  constructor
  · intro invalid
    obtain ⟨signal, needed, wrong⟩ := invalid
    obtain ⟨error, first⟩ := Option.isSome_iff_exists.mp
      (List.findSome?_isSome_iff.mpr ⟨signal, needed, (refusal signal).mpr wrong⟩)
    exact ⟨error, wiring_eq_error_iff.mpr first⟩
  · intro unwired
    obtain ⟨error, unwired⟩ := unwired
    obtain ⟨signal, needed, wrong⟩ := List.exists_of_findSome?_eq_some
      (wiring_eq_error_iff.mp unwired)
    exact ⟨signal, needed, (refusal signal).mp (wrong ▸ rfl)⟩

/-- The course of a set-up as it is reported: the stages entered tell whether a needed number is none of
a line, an acquisition has failed, a write has failed, or the display is ready; and a failure is
reported as an error, once.
-/
structure Course (config : PinConfig) (options : DisplayOptions) (calls : List (LineCall ω))
    (failure : Option ConnectionError) (stages : List Stage) (errors : List Note)
    : Prop where
  rejected : stages = [.unconfigured, .failed] ↔ config.Misnumbered options
  refused : stages = [.unconfigured, .pinsAllocated, .failed] ↔ ∃ call ∈ calls, call.refused = true
  unset
    : stages = [.unconfigured, .pinsAllocated, .pinsExported, .protocolReset, .failed]
      ↔ ∃ call ∈ calls, call.unset = true
  ready
    : stages = [.unconfigured, .pinsAllocated, .pinsExported, .protocolReset, .ready]
      ↔ failure = none
  ends
    : stages = [.unconfigured, .failed] ∨ stages = [.unconfigured, .pinsAllocated, .failed]
      ∨ stages = [.unconfigured, .pinsAllocated, .pinsExported, .protocolReset, .failed]
      ∨ stages = [.unconfigured, .pinsAllocated, .pinsExported, .protocolReset, .ready]
  errors : errors = (failure.map Note.connectionFailed).toList

/-- Of calls, only what they show counts for the course of a set-up. -/
theorem Course.of_marks {calls others : List (LineCall ω)} {failure : Option ConnectionError}
    {stages : List Stage} {errors : List Note}
    (course : Course config options calls failure stages errors) (same : marks calls = marks others)
    : Course config options others failure stages errors := by
  have refusals : calls.any LineCall.refused = others.any LineCall.refused :=
    congrArg Marks.refused same
  have failures : calls.any LineCall.unset = others.any LineCall.unset :=
    congrArg Marks.unset same
  refine { course with refused := course.refused.trans ?_, unset := course.unset.trans ?_ }
  · rw [← List.any_eq_true, refusals, List.any_eq_true]
  · rw [← List.any_eq_true, failures, List.any_eq_true]

/-- A failed set-up reports its failure behind everything else. -/
def LineCall.reported (calls : List (LineCall ω)) : Option ConnectionError → List (LineCall ω)
  | some error => calls ++ [.noted (.connectionFailed error), .noted (.stageEntered .failed)]
  | none => calls

/-- A set-up that goes one of the four ways is reported as such, by cases on the way. -/
theorem Goes.course {calls : List (LineCall ω)} {failure : Option ConnectionError}
    (goes : Goes config options (marks calls) failure)
    : Course config options (reported calls failure) failure (stages (reported calls failure))
        (marks (reported calls failure)).errors := by
  have failed (error : ConnectionError)
      : marks (reported calls (some error))
        = (marks calls).append
            { stages := [.failed], errors := [.connectionFailed error] } := by
    rw [reported, marks_append]
    rfl
  have refusals : (∃ call ∈ reported calls failure, call.refused = true)
      ↔ (marks (reported calls failure)).refused = true :=
    List.any_eq_true.symm
  have failures : (∃ call ∈ reported calls failure, call.unset = true)
      ↔ (marks (reported calls failure)).unset = true :=
    List.any_eq_true.symm
  have entered : stages (reported calls failure) = (marks (reported calls failure)).stages := rfl
  rw [entered]
  generalize shown : marks calls = before at goes failed
  cases goes with
  | rejected error wired =>
      constructor <;>
        simp [refusals, failures, failed, Marks.append, PinConfig.misnumbered_iff, wired]
  | refused numbers error wired =>
      constructor <;>
        simp [refusals, failures, failed, Marks.append, PinConfig.misnumbered_iff, wired]
  | unset numbers error wired =>
      constructor <;>
        simp [refusals, failures, failed, Marks.append, PinConfig.misnumbered_iff, wired]
  | ready numbers wired =>
      have same : marks (reported calls none) = marks calls := rfl
      constructor <;>
        simp [refusals, failures, same, shown, PinConfig.misnumbered_iff, wired]

/-- Setting up a display goes one of four ways, and is reported as such. -/
theorem course_init (config : PinConfig) (options : DisplayOptions) (timer : Timer)
    : Makes (Connection.init config options timer
          : StateM σ (Except ConnectionError (Connection ω)))
        fun calls result =>
          Course config options calls (failureOf result) (stages calls) (marks calls).errors := by
  refine Makes.bind (goes_setUp config options timer) fun result calls goes => ?_
  cases result with
  | ok connection =>
      refine .pure ?_
      rw [List.append_nil]
      exact goes.course
  | error error =>
      refine Makes.noted_bind (Makes.noted_bind (.pure ?_))
      exact goes.course

/-- The same for a display over the lines that a source names, whose lookups show nothing. -/
theorem course_ofSource {source : ConfigSource} {options : DisplayOptions} (timer : Timer)
    (lookups : (PinConfig.load source options).OfLookups)
    : Makes (Connection.ofSource source options timer
          : StateM σ (Except ConnectionError (Connection ω)))
        fun calls result =>
          Course (PinConfig.load source options).value options calls (failureOf result)
            (stages calls) (marks calls).errors := by
  have looked (notes : List Note) (lookups : ∀ entry ∈ notes, entry.ofLookup = true)
      : marks (notes.map (LineCall.noted (ω := ω))) = {} := by
    induction notes with
    | nil => rfl
    | cons entry rest ih =>
        obtain ⟨lookup, others⟩ := List.forall_mem_cons.mp lookups
        refine Eq.trans (marks_noted ?_ ?_ _) (ih others)
        all_goals cases entry <;> first | rfl | cases lookup
  refine Makes.bind (Makes.emitted _) fun config calls reports => ?_
  obtain ⟨rfl, rfl⟩ := reports
  refine (course_init _ options timer).mono fun calls result course => ?_
  have same
      : marks ((PinConfig.load source options).notes.map noted ++ calls) = marks calls := by
    rw [marks_append, looked _ lookups, Marks.nothing_append]
  have entered
      : stages ((PinConfig.load source options).notes.map noted ++ calls) = stages calls :=
    congrArg Marks.stages same
  rw [same, entered]
  exact course.of_marks same.symm

end SetUp

end CharLcd

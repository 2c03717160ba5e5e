import CharLcd.Proofs.Sysfs.Holding

/-! Rounds of a line, from its export to its being given back.

What is done with lines is told by turns, each with the file calls that it makes: an export, which ends
in one of three ways, or a release. A line that is handed out is unexported once, when it is released. A
line that got past its export and could not be configured is unexported at once, unless it was exported
before: then it is left exported. So the next export of a line always finds the last one settled. No
value of a line is written in a turn; that is only done between the turns.
-/

namespace CharLcd.Sysfs

open Machine

-----------------------------------------------------------------------------------------
-- Getting past an export, and giving up
-----------------------------------------------------------------------------------------

/-- A line got past its export: it is exported now, or was so before, to which the system answers that it
is busy.
-/
inductive Exported (base : String) (line : UInt32) : List Call → Export → Prop where
  | fresh {log : List Call} :
      Attempt base .exportFile (numberLine line) log (.ok ())
      → Exported base line log .fresh
  | existing {log : List Call} {errno : Errno} :
      errno.kind = .resourceBusy
      → Attempt base .exportFile (numberLine line) log (.error errno)
      → Exported base line log .existing

/-- A line is given up: one attempt to unexport it if it was not exported before, and else nothing. -/
inductive GivenUp (base : String) (line : UInt32) : List Call → Export → Prop where
  | fresh {log : List Call} {result : Except Errno Unit} :
      Attempt base .unexportFile (numberLine line) log result
      → GivenUp base line log .fresh
  | existing : GivenUp base line [] .existing

-----------------------------------------------------------------------------------------
-- Turns
-----------------------------------------------------------------------------------------

/-- What is done with a line as a whole, and how it ends. -/
inductive Turn where
  /-- The line could not be exported. -/
  | refused (line : UInt32)
  /-- The line got past its export, but could not be configured. -/
  | unconfigured (line : UInt32) (exported : Export)
  /-- The line got past its export, was configured and is handed out. -/
  | configured (line : UInt32) (exported : Export)
  /-- The line was taken back. -/
  | released (line : UInt32)
deriving DecidableEq, Repr

/-- The line of a turn. -/
def Turn.line : Turn → UInt32
  | refused line | unconfigured line _ | configured line _ | released line => line

/-- The file calls of a turn. -/
inductive Turn.Goes (base : String) : Turn → List Call → Prop where
  | refused {line : UInt32} {log : List Call} {errno : Errno} :
      Attempt base .exportFile (numberLine line) log (.error errno)
      → errno.kind ≠ .resourceBusy
      → Goes base (.refused line) log
  | undirected {line : UInt32} {log turned rest : List Call} {exported : Export} {errno : Errno} :
      Exported base line log exported
      → Attempt base (.direction line) "low" turned (.error errno)
      → GivenUp base line rest exported
      → Goes base (.unconfigured line exported) (log ++ (turned ++ rest))
  | unopened {line : UInt32} {log turned back rest : List Call} {exported : Export} {errno : Errno}
      {reverted : Except Errno Unit} :
      Exported base line log exported
      → Attempt base (.direction line) "low" turned (.ok ())
      → Attempt base (.direction line) "in" back reverted
      → GivenUp base line rest exported
      → Goes base (.unconfigured line exported)
          (log ++ (turned ++ .opened (.value line) false (some errno) :: (back ++ rest)))
  | configured {line : UInt32} {log turned : List Call} {exported : Export} :
      Exported base line log exported
      → Attempt base (.direction line) "low" turned (.ok ())
      → Goes base (.configured line exported)
          (log ++ (turned ++ [.opened (.value line) false none]))
  | released {line : UInt32} {turned rest : List Call} {reverted unexported : Except Errno Unit} :
      Attempt base (.direction line) "in" turned reverted
      → Attempt base .unexportFile (numberLine line) rest unexported
      → Goes base (.released line) (turned ++ .closed (.value line) :: rest)

-----------------------------------------------------------------------------------------
-- What the driver does, as turns
-----------------------------------------------------------------------------------------

variable {base : String} {line : UInt32} {log : List Call} {journal : List Note}

theorem Exports.exported {exported : Export} (exports : Exports base line log journal (.ok exported))
    : Exported base line log exported := by
  cases exports with
  | fresh attempt => exact .fresh attempt
  | existing busy attempt => exact .existing busy attempt

theorem Abandons.givenUp {exported : Export} (abandons : Abandons base line exported log journal)
    : GivenUp base line log exported := by
  cases exported with
  | fresh =>
      obtain ⟨result, attempt, _⟩ := abandons
      exact .fresh attempt
  | existing =>
      obtain ⟨rfl, _⟩ := abandons
      exact .existing

/-- A line that is not handed out takes a turn that is over at once. -/
theorem Unacquired.turn {cause : GpioError} (unacquired : Unacquired base line log journal cause)
    : ∃ turn : Turn,
        (turn = .refused line ∨ ∃ exported, turn = .unconfigured line exported)
        ∧ turn.Goes base log := by
  cases unacquired with
  | unexported exports =>
      cases exports with
      | failed other attempt => exact ⟨_, Or.inl rfl, .refused attempt other⟩
  | unconfigured exports unconfigured =>
      cases unconfigured with
      | undirected attempt abandons =>
          exact ⟨_, Or.inr ⟨_, rfl⟩, .undirected exports.exported attempt abandons.givenUp⟩
      | unopened attempt reverts abandons =>
          exact ⟨_, Or.inr ⟨_, rfl⟩,
            .unopened exports.exported attempt reverts.1 abandons.givenUp⟩

theorem Acquired.turn (acquired : Acquired base line log journal)
    : ∃ exported, (Turn.configured line exported).Goes base log := by
  cases acquired with
  | configured exports attempt => exact ⟨_, .configured exports.exported attempt⟩

theorem Released.turn {result : Except GpioError Unit}
    (released : Released base line log journal result)
    : (Turn.released line).Goes base log := by
  cases released with
  | attempted reverts unexports => exact .released reverts.1 unexports.1

/-- Whether a call sets a level, or is a wait. No line changes hands by it. -/
def Call.setsLevel : Call → Bool
  | .wrote (.value _) _ _ | .sought (.value _) _ _ | .delayed _ => true
  | _ => false

theorem Rewrites.setsLevel {level : Bool} {result : Except GpioError Unit}
    (rewrites : Rewrites line level log result)
    : ∀ call ∈ log, call.setsLevel = true := by
  cases rewrites <;> simp [Call.setsLevel]

-----------------------------------------------------------------------------------------
-- Values
-----------------------------------------------------------------------------------------

/-- What is written to the values of lines by calls, in order, whether or not that succeeds. -/
def Call.values (calls : List Call) : List (UInt32 × String) :=
  calls.filterMap fun
    | .wrote (.value line) text _ => some (line, text)
    | _ => none

@[simp]
theorem Call.values_nil : values [] = [] :=
  rfl

@[simp]
theorem Call.values_append (calls others : List Call)
    : values (calls ++ others) = values calls ++ values others :=
  List.filterMap_append

@[simp]
theorem Call.values_opened (file : ControlFile) (truncate : Bool) (failure : Option Errno)
    (calls : List Call)
    : values (.opened file truncate failure :: calls) = values calls :=
  rfl

@[simp]
theorem Call.values_closed (file : ControlFile) (calls : List Call)
    : values (.closed file :: calls) = values calls :=
  rfl

/-- To write another file is to write no value. -/
theorem Call.values_other {file : ControlFile} (other : ∀ line, file ≠ .value line) (text : String)
    (failure : Option Errno) (calls : List Call)
    : values (.wrote file text failure :: calls) = values calls := by
  cases file with
  | value line => exact absurd rfl (other line)
  | _ => rfl

/-- An attempt to write another file writes no value. -/
theorem Attempt.values {file : ControlFile} {text : String} {result : Except Errno Unit}
    (attempt : Attempt base file text log result) (other : ∀ line, file ≠ .value line)
    : Call.values log = [] := by
  cases attempt with
  | impossible => rfl
  | unopened errno => rfl
  | written failure => simp [Call.values_other other]

theorem Exported.values {exported : Export} (got : Exported base line log exported)
    : Call.values log = [] := by
  cases got with
  | fresh attempt => exact attempt.values nofun
  | existing _ attempt => exact attempt.values nofun

theorem GivenUp.values {exported : Export} (givenUp : GivenUp base line log exported)
    : Call.values log = [] := by
  cases givenUp with
  | fresh attempt => exact attempt.values nofun
  | existing => rfl

/-- No value is written when a line changes hands, by cases on the turn. -/
theorem Turn.Goes.values {turn : Turn} (goes : turn.Goes base log) : Call.values log = [] := by
  cases goes with
  | refused attempt => exact attempt.values nofun
  | undirected exported attempt givenUp =>
      simp [exported.values, attempt.values nofun, givenUp.values]
  | unopened exported attempt back givenUp =>
      simp [exported.values, attempt.values nofun, back.values nofun, givenUp.values]
  | configured exported attempt =>
      simp [exported.values, attempt.values nofun]
  | released turned unexported => simp [turned.values nofun, unexported.values nofun]

/-- The level of a line is set by writing its digit once. -/
theorem Rewrites.values {level : Bool} {result : Except GpioError Unit}
    (rewrites : Rewrites line level log result)
    : Call.values log = [(line, Note.levelDigit level)] := by
  cases rewrites <;> rfl

-----------------------------------------------------------------------------------------
-- Rounds
-----------------------------------------------------------------------------------------

/-- Calls are those of some turns in their order, and between these some that set levels. -/
inductive Turns (base : String) : List Turn → List Call → Prop where
  | nothing : Turns base [] []
  | turn {turns : List Turn} {calls log : List Call} {turn : Turn} :
      Turns base turns calls
      → turn.Goes base log
      → Turns base (turns ++ [turn]) (calls ++ log)
  | levels {turns : List Turn} {calls log : List Call} :
      Turns base turns calls
      → (∀ call ∈ log, call.setsLevel = true)
      → Turns base turns (calls ++ log)

/-- Turns of a line that make up rounds, and whether the line is held after them. A line that is handed out
is held until its release, which is the next turn that it takes; and only then it is released. All other
turns leave it as free as it was.
-/
inductive Rounds (line : UInt32) : List Turn → Bool → Prop where
  | nothing : Rounds line [] false
  | refused {turns : List Turn} :
      Rounds line turns false
      → Rounds line (turns ++ [.refused line]) false
  | unconfigured {turns : List Turn} (exported : Export) :
      Rounds line turns false
      → Rounds line (turns ++ [.unconfigured line exported]) false
  | configured {turns : List Turn} (exported : Export) :
      Rounds line turns false
      → Rounds line (turns ++ [.configured line exported]) true
  | released {turns : List Turn} :
      Rounds line turns true
      → Rounds line (turns ++ [.released line]) false

/-- Calls are made in turns, and those of each line make up rounds, after which it is held just if it is
used.
-/
def InRounds (base : String) (used : List UInt32) (calls : List Call) : Prop :=
  ∃ turns,
    Turns base turns calls
    ∧ ∀ line, Rounds line (turns.filter (·.line = line)) (decide (line ∈ used))

namespace InRounds

variable {used later : List UInt32} {calls : List Call}

/-- No line was used before the first call. -/
theorem start (base : String) : InRounds base [] [] :=
  ⟨[], .nothing, fun _ => .nothing⟩

/-- Calls that set levels belong to no turn. -/
theorem levels (rounds : InRounds base used calls) (levels : ∀ call ∈ log, call.setsLevel = true)
    : InRounds base used (calls ++ log) := by
  obtain ⟨turns, made, each⟩ := rounds
  exact ⟨turns, made.levels levels, each⟩

/-- A turn adds to the rounds of its line, and leaves those of the others. -/
theorem turn (rounds : InRounds base used calls) (line : UInt32) {turn : Turn}
    (its : turn.line = line) (goes : turn.Goes base log)
    (own : ∀ turns,
      Rounds line turns (decide (line ∈ used))
      → Rounds line (turns ++ [turn]) (decide (line ∈ later)))
    (others : ∀ other ≠ line, other ∈ later ↔ other ∈ used)
    : InRounds base later (calls ++ log) := by
  obtain ⟨turns, made, each⟩ := rounds
  refine ⟨turns ++ [turn], made.turn goes, fun other => ?_⟩
  rw [List.filter_append]
  by_cases same : other = line
  · rw [List.filter_cons_of_pos (by simp [its, same]), List.filter_nil, same]
    exact own _ (each line)
  · rw [List.filter_cons_of_neg (by simpa [its] using Ne.symm same), List.filter_nil,
      List.append_nil, decide_eq_decide.mpr (others other same)]
    exact each other

/-- A line that is free stays so if it is not handed out. -/
theorem unacquired (rounds : InRounds base used calls) (free : line ∉ used) {cause : GpioError}
    (unacquired : Unacquired base line log journal cause)
    : InRounds base used (calls ++ log) := by
  obtain ⟨_, rfl | ⟨exported, rfl⟩, goes⟩ := unacquired.turn
  · refine rounds.turn line rfl goes (fun turns before => ?_) fun _ _ => Iff.rfl
    rw [decide_eq_false free] at before ⊢
    exact .refused before
  · refine rounds.turn line rfl goes (fun turns before => ?_) fun _ _ => Iff.rfl
    rw [decide_eq_false free] at before ⊢
    exact .unconfigured exported before

/-- A free line is held once it is handed out. -/
theorem acquired (rounds : InRounds base used calls) (free : line ∉ used) (held : line ∈ later)
    (others : ∀ other ≠ line, other ∈ later ↔ other ∈ used)
    (acquired : Acquired base line log journal)
    : InRounds base later (calls ++ log) := by
  obtain ⟨exported, goes⟩ := acquired.turn
  refine rounds.turn line rfl goes (fun turns before => ?_) others
  rw [decide_eq_false free] at before
  rw [decide_eq_true held]
  exact .configured exported before

/-- A line that is held is free once it is taken back. -/
theorem released (rounds : InRounds base used calls) (held : line ∈ used) (free : line ∉ later)
    (others : ∀ other ≠ line, other ∈ later ↔ other ∈ used) {result : Except GpioError Unit}
    (released : Released base line log journal result)
    : InRounds base later (calls ++ log) := by
  refine rounds.turn line rfl released.turn (fun turns before => ?_) others
  rw [decide_eq_true held] at before
  rw [decide_eq_false free]
  exact .released before

end InRounds

end CharLcd.Sysfs

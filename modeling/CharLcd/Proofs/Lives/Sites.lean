import CharLcd.Proofs.Bench.Ownership
import CharLcd.Proofs.Lives.Standing
import CharLcd.Proofs.Sysfs.Notes
import CharLcd.Proofs.Sysfs.Ownership

/-! Sites: a driver with the actions that a session can take on it, and the notes that are taken there.

A bench is a site, and a machine with GPIO files is one. What is said of sites holds on both.
-/

namespace CharLcd

variable {σ ω A : Type}

variable [Journal (StateM σ)] [Clock (StateM σ)] [LineDriver (StateM σ) ω]

/-- Where sessions run. Beside the steps of a session there may be actions from outside, which are
about no output or connection. A driver adds nothing to the notes but such that only drivers make, and
nothing at all when it sets a level or waits.
-/
structure Site (σ ω A : Type) [Journal (StateM σ)] [Clock (StateM σ)] [LineDriver (StateM σ) ω] where
  act : Environment → Session ω → A → StateM σ (Reply × Session ω)
  take : Step → A
  step? : A → Option Step
  /-- What was noted so far. -/
  notes : σ → List Note
  step?_take : ∀ step, step? (take step) = some step
  act_step : ∀ {env session action step},
    step? action = some step → act env session action = session.step env step
  act_beside : ∀ {env session action} (s : σ),
    step? action = none
    → ((act env session action).run s).1.2 = session
      ∧ notes ((act env session action).run s).2 = notes s
  noted : ∀ (entry : Note) (s : σ),
    notes ((note entry : StateM σ Unit).run s).2 = notes s ++ [entry]
  waited : ∀ (timer : Timer) (time : UInt32) (s : σ),
    notes ((Clock.wait timer time : StateM σ Unit).run s).2 = notes s
  wrote : ∀ (line : Line ω) (level : Bool) (s : σ),
    notes ((LineDriver.write line level : StateM σ (Except GpioError Unit)).run s).2 = notes s
  acquired : ∀ (number : UInt32) (s : σ),
    ∃ own : List Note,
      notes ((LineDriver.acquire number : StateM σ (Except GpioError ω)).run s).2 = notes s ++ own
      ∧ ∀ entry ∈ own, entry.ofDriver = true
  released : ∀ (line : Line ω) (s : σ),
    ∃ own : List Note,
      notes ((LineDriver.release line : StateM σ (Except GpioError Unit)).run s).2 = notes s ++ own
      ∧ ∀ entry ∈ own, entry.ofDriver = true
  /-- Describing an output has no effect. -/
  still : ∀ (number : UInt32) (s : σ),
    ((LineDriver.describe number : StateM σ String).run s).2 = s

namespace Site

variable (site : Site σ ω A)

/-- What an action answers, and the session and the driver after it. -/
abbrev perform (env : Environment) (state : Session ω × σ) (action : A)
    : Reply × Session ω × σ :=
  Acting.perform site.act env state action

/-- The session and the driver after some actions. -/
abbrev reach (env : Environment) (state : Session ω × σ) (actions : List A) : Session ω × σ :=
  Acting.reach site.act env state actions

/-- What was noted from one state of the driver to a later one. -/
def told (before after : σ) : List Note :=
  (site.notes after).drop (site.notes before).length

variable {env : Environment}

/-- An action that is a step of the session does what the step does. -/
theorem perform_step {state : Session ω × σ} {action : A} {step : Step}
    (stepping : site.step? action = some step)
    : site.perform env state action
      = (((state.1.step env step : StateM σ (Reply × Session ω)).run state.2).1.1,
          ((state.1.step env step : StateM σ (Reply × Session ω)).run state.2).1.2,
          ((state.1.step env step : StateM σ (Reply × Session ω)).run state.2).2) := by
  unfold perform Acting.perform
  rw [site.act_step stepping]
  rfl

/-- So it is with a step that is taken. -/
theorem perform_take (site : Site σ ω A) (env : Environment) (state : Session ω × σ) (step : Step)
    : site.perform env state (site.take step)
      = (((state.1.step env step : StateM σ (Reply × Session ω)).run state.2).1.1,
          ((state.1.step env step : StateM σ (Reply × Session ω)).run state.2).1.2,
          ((state.1.step env step : StateM σ (Reply × Session ω)).run state.2).2) :=
  site.perform_step (site.step?_take step)

/-- An action that is no step of the session leaves it as it is. -/
theorem perform_beside {state : Session ω × σ} {action : A} (beside : site.step? action = none)
    : (site.perform env state action).2.1 = state.1 :=
  (site.act_beside state.2 beside).1

/-- A session stays sound, whatever is done. -/
theorem sound_perform {state : Session ω × σ} (sound : state.1.Sound) (action : A)
    : (site.perform env state action).2.1.Sound := by
  cases stepping : site.step? action with
  | some step =>
      rw [site.perform_step stepping]
      exact Session.sound_step env sound step state.2
  | none => rwa [site.perform_beside stepping]

/-- All connections are sound at any time. -/
theorem sound_reach {state : Session ω × σ} (sound : state.1.Sound) (actions : List A)
    : (site.reach env state actions).1.Sound :=
  Acting.reach_keeps (fun state => state.1.Sound)
    (fun _ action sound => site.sound_perform sound action) sound actions

-----------------------------------------------------------------------------------------
-- What is noted during calls
-----------------------------------------------------------------------------------------

/-- Between two states just these notes were taken, apart from those that only a driver makes. -/
def Tells (before after : σ) (notes : List Note) : Prop :=
  ∃ log : List Note,
    site.notes after = site.notes before ++ log
    ∧ log.filter (!·.ofDriver) = notes.filter (!·.ofDriver)

variable {site} {before middle after : σ} {notes others : List Note}

theorem Tells.nothing (same : site.notes after = site.notes before) : site.Tells before after [] :=
  ⟨[], same.trans (List.append_nil _).symm, rfl⟩

theorem Tells.append (first : site.Tells before middle notes) (second : site.Tells middle after others)
    : site.Tells before after (notes ++ others) := by
  obtain ⟨log, added, same⟩ := first
  obtain ⟨rest, more, also⟩ := second
  exact ⟨log ++ rest, by rw [more, added, List.append_assoc], by simp [same, also]⟩

/-- What only drivers note does not count. -/
theorem Tells.own (own : ∃ log : List Note,
      site.notes after = site.notes before ++ log ∧ ∀ entry ∈ log, entry.ofDriver = true)
    : site.Tells before after [] := by
  obtain ⟨log, added, drivers⟩ := own
  refine ⟨log, added, List.filter_eq_nil_iff.mpr fun entry member => ?_⟩
  simp [drivers entry member]

/-- What is told can be read off through any view that passes over the notes of drivers. -/
theorem Tells.view {β : Type} (tells : site.Tells before after notes) (f : Note → Option β)
    (blind : ∀ entry, entry.ofDriver = true → f entry = none)
    : (site.told before after).filterMap f = notes.filterMap f := by
  obtain ⟨log, added, same⟩ := tells
  have passes (notes : List Note) : (notes.filter (!·.ofDriver)).filterMap f = notes.filterMap f := by
    rw [List.filterMap_filter]
    refine List.filterMap_congr fun entry _ => ?_
    cases drivers : entry.ofDriver with
    | false => simp
    | true => simp [blind entry drivers]
  rw [told, added, List.drop_left, ← passes log, same, passes]

/-- What is told can be searched for anything that drivers do not note. -/
theorem Tells.filter (tells : site.Tells before after notes) (p : Note → Bool)
    (blind : ∀ entry, entry.ofDriver = true → p entry = false)
    : (site.told before after).filter p = notes.filter p := by
  have seen := tells.view (Option.guard p) fun entry drivers => by simp [blind entry drivers]
  rwa [List.filterMap_eq_filter] at seen

/-- Calls tell what is noted among them, by induction on them. -/
theorem tells_of_performs (site : Site σ ω A) {calls : List (LineCall ω)}
    (performs : Performs before calls after)
    : site.Tells before after (LineCall.entries calls) := by
  induction calls generalizing before with
  | nil =>
      cases performs
      exact .nothing rfl
  | cons call rest ih =>
      obtain ⟨middle, happens, rests⟩ := performs
      have later := ih rests
      have first : site.Tells before middle (LineCall.entries [call]) := by
        cases call with
        | acquired number answer =>
            have own := site.acquired number before
            rw [LineCall.Happens] at happens
            rw [happens] at own
            exact .own own
        | wrote line level answer =>
            have same := site.wrote line level before
            rw [LineCall.Happens] at happens
            rw [happens] at same
            exact .nothing same
        | released line answer =>
            have own := site.released line before
            rw [LineCall.Happens] at happens
            rw [happens] at own
            exact .own own
        | waited timer time =>
            have same := site.waited timer time before
            rw [LineCall.Happens] at happens
            rw [happens] at same
            exact .nothing same
        | noted entry =>
            have added := site.noted entry before
            rw [LineCall.Happens] at happens
            rw [happens] at added
            exact ⟨[entry], added, rfl⟩
      have both := first.append later
      rwa [← LineCall.entries_append] at both

/-- Where no line changes hands, just what the calls note is told. By induction on the calls. -/
theorem told_of_performs (site : Site σ ω A) {calls : List (LineCall ω)}
    (performs : Performs before calls after)
    (kept : ∀ call ∈ calls, call.changesHands = false)
    : site.told before after = LineCall.entries calls := by
  have added : site.notes after = site.notes before ++ LineCall.entries calls := by
    induction calls generalizing before with
    | nil =>
        cases performs
        exact (List.append_nil _).symm
    | cons call rest ih =>
        obtain ⟨middle, happens, rests⟩ := performs
        obtain ⟨keeps, others⟩ := List.forall_mem_cons.mp kept
        rw [ih rests others]
        cases call with
        | acquired number answer => cases keeps
        | released line answer => cases keeps
        | wrote line level answer =>
            have same := site.wrote line level before
            rw [LineCall.Happens] at happens
            rw [happens] at same
            exact congrArg (· ++ LineCall.entries rest) same
        | waited timer time =>
            have same := site.waited timer time before
            rw [LineCall.Happens] at happens
            rw [happens] at same
            exact congrArg (· ++ LineCall.entries rest) same
        | noted entry =>
            have noted := site.noted entry before
            rw [LineCall.Happens] at happens
            rw [happens] at noted
            rw [noted, List.append_assoc]
            rfl
  rw [told, added, List.drop_left]

end Site

-----------------------------------------------------------------------------------------
-- The two sites
-----------------------------------------------------------------------------------------

/-- Nothing is noted by handing out a line of a bench. -/
theorem Bench.notes_acquire (number : UInt32) (bench : Bench)
    : (Bench.acquire number bench).2.notes = bench.notes := by
  unfold Bench.acquire
  split_ifs <;> rfl

/-- Nothing is noted by setting the level of a line of a bench. -/
theorem Bench.notes_write (number : UInt32) (level : Bool) (bench : Bench)
    : (Bench.write number level bench).2.notes = bench.notes := by
  unfold Bench.write
  split <;> rfl

/-- Nothing is noted by waiting at a bench. -/
theorem Bench.notes_wait (timer : Timer) (time : UInt32) (bench : Bench)
    : (Bench.wait timer time bench).notes = bench.notes := by
  cases timer <;> rfl

/-- A bench with the actions of its sessions. -/
def Bench.site : Site Bench Unit Bench.Action where
  act := Bench.act
  take := .step
  step?
    | .step step => some step
    | _ => none
  notes bench := bench.notes.toList
  step?_take _ := rfl
  act_step := by
    intro env session action step stepping
    cases action with
    | step own =>
        cases stepping
        rfl
    | _ => cases stepping
  act_beside := by
    intro env session action s beside
    cases action with
    | step step => cases beside
    | _ => exact ⟨rfl, rfl⟩
  noted _ _ := Array.toList_push
  waited timer time bench := congrArg Array.toList (Bench.notes_wait timer time bench)
  wrote line level bench := congrArg Array.toList (Bench.notes_write line.number level bench)
  acquired number bench :=
    ⟨[], (congrArg Array.toList (Bench.notes_acquire number bench)).trans (List.append_nil _).symm,
      List.forall_mem_nil _⟩
  released _ _ := ⟨[], (List.append_nil _).symm, List.forall_mem_nil _⟩
  still _ _ := rfl

/-- Nothing is noted by waiting on a machine. -/
theorem Sysfs.Machine.notes_wait (timer : Timer) (time : UInt32) (machine : Sysfs.Machine)
    : (Sysfs.Machine.wait timer time machine).notes = machine.notes := by
  cases timer <;> rfl

/-- A machine with GPIO files, with the actions of its sessions. -/
def Sysfs.Machine.site : Site Sysfs.Machine Nat Sysfs.Machine.Action where
  act := Sysfs.Machine.act
  take := .step
  step?
    | .step step => some step
    | _ => none
  notes machine := machine.notes.toList
  step?_take _ := rfl
  act_step := by
    intro env session action step stepping
    cases action with
    | step own =>
        cases stepping
        rfl
    | _ => cases stepping
  act_beside := by
    intro env session action s beside
    cases action with
    | step step => cases beside
    | _ => exact ⟨rfl, rfl⟩
  noted _ _ := Array.toList_push
  waited timer time machine :=
    congrArg Array.toList (Sysfs.Machine.notes_wait timer time machine)
  wrote := Sysfs.notes_write
  acquired number := Sysfs.keepsToItself.acquire number
  released line machine := by
    have answered
        : (LineDriver.release line : StateM Sysfs.Machine (Except GpioError Unit))
          = Sysfs.release line :=
      rfl
    rw [answered]
    exact Sysfs.keepsToItself.release line machine
  still _ _ := rfl

/-- A small machine with nothing but the files of a display on its default lines. They are exported
already, and all of them have the same direction and the same value.
-/
def Sysfs.Machine.small : Sysfs.Machine where
  base := ""
  tree :=
    { entries :=
        [(.ofPath ["tmp", "", "export"], .file 0), (.ofPath ["tmp", "", "unexport"], .file 1)]
          ++ ["gpio8", "gpio7", "gpio18", "gpio23", "gpio24", "gpio25"].flatMap fun line =>
            [(.ofPath ["tmp", "", line], .directory),
              (.ofPath ["tmp", "", line, "direction"], .file 2),
              (.ofPath ["tmp", "", line, "value"], .file 3)]
      contents := [[], [], [], []] }

end CharLcd

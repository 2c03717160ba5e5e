import CharLcd.Proofs.Ownership.Keeper
import CharLcd.Proofs.Ownership.Reach
import CharLcd.Session.OnBench

/-! Who owns the lines of a bench.

At every point of a session the lines that are handed out are those of its outputs and connections,
and no two of these have the same number. So what is done to the lines of one owner never touches
those of another.
-/

namespace CharLcd.Bench

-----------------------------------------------------------------------------------------
-- Runs of actions
-----------------------------------------------------------------------------------------

/-- What an action answers, and the session and the bench after it. -/
abbrev perform (env : Environment) (state : Session Unit × Bench) (action : Action)
    : Reply × Session Unit × Bench :=
  Acting.perform act env state action

/-- The session and the bench after some actions. -/
abbrev reach (env : Environment) (state : Session Unit × Bench) (actions : List Action)
    : Session Unit × Bench :=
  Acting.reach act env state actions

-----------------------------------------------------------------------------------------
-- Ownership
-----------------------------------------------------------------------------------------

/-- The lines that are handed out are the owned ones and those set apart, none of them twice. Since
`start` the bench has only gone on, and no line set apart has been written.
-/
structure Guarded (start : Bench) (apart : List UInt32) (owned : List (Line Unit))
    (bench : Bench)
    : Prop where
  held : bench.held.Perm (owned.map Line.number ++ apart)
  distinct : bench.held.Nodup
  failing : bench.failingWrites = start.failingWrites
  untouched : ∃ log : List Event,
    bench.events.toList = start.events.toList ++ log
    ∧ ∀ entry ∈ Events.writes log, entry.1 ∉ apart

/-- The lines that are handed out are the owned ones, none of them twice. -/
def Owned (owned : List (Line Unit)) (bench : Bench) : Prop :=
  bench.held.Perm (owned.map Line.number) ∧ bench.held.Nodup

variable {start bench : Bench} {apart : List UInt32} {owned : List (Line Unit)}

/-- Nothing has happened yet at the start. -/
theorem Guarded.atStart (held : bench.held.Perm (owned.map Line.number ++ apart))
    (distinct : bench.held.Nodup)
    : Guarded bench apart owned bench :=
  ⟨held, distinct, rfl, [], (List.append_nil _).symm, fun _ member => nomatch member⟩

theorem Guarded.toOwned (guarded : Guarded start [] owned bench) : Owned owned bench :=
  ⟨by simpa using guarded.held, guarded.distinct⟩

/-- An event that is no write of a line set apart may be recorded. -/
theorem Guarded.record (guarded : Guarded start apart owned bench) {event : Event}
    (harmless : ∀ entry, event.write? = some entry → entry.1 ∉ apart)
    : Guarded start apart owned (bench.record event) := by
  obtain ⟨log, split, untouched⟩ := guarded.untouched
  refine ⟨guarded.held, guarded.distinct, guarded.failing, log ++ [event], ?_, ?_⟩
  · simp [Bench.record, split]
  · intro entry member
    simp only [Events.writes, List.filterMap_append, List.mem_append] at member
    rcases member with earlier | latest
    · exact untouched entry earlier
    · simp only [List.filterMap_cons, List.filterMap_nil] at latest
      cases written : event.write? with
      | none => simp [written] at latest
      | some write =>
          rw [written, List.mem_singleton] at latest
          exact latest ▸ harmless write written

/-- Handing out a line that is not handed out yet adds it to the owned ones. -/
theorem Guarded.handOut (guarded : Guarded start apart owned bench) {number : UInt32}
    (fresh : number ∉ bench.held)
    : Guarded start apart (⟨number, ()⟩ :: owned)
        { bench with held := number :: bench.held } where
  held := guarded.held.cons number
  distinct := List.nodup_cons.mpr ⟨fresh, guarded.distinct⟩
  failing := guarded.failing
  untouched := guarded.untouched

/-- Taking a line back removes it from the owned ones: it is handed out only once. -/
theorem Guarded.takeBack {line : Line Unit}
    (guarded : Guarded start apart (line :: owned) bench)
    : Guarded start apart owned
        { bench with held := bench.held.filter (· ≠ line.number) } where
  held := perm_filter_ne guarded.held guarded.distinct
  distinct := guarded.distinct.filter _
  failing := guarded.failing
  untouched := guarded.untouched

/-- Whatever the bench does for an owner leaves the lines set apart alone. -/
theorem keeper (start : Bench) (apart : List UInt32) : Keeper (Guarded start apart) where
  perm perm guarded := { guarded with held := guarded.held.trans ((perm.map _).append_right _) }
  report _ guarded := ⟨guarded.held, guarded.distinct, guarded.failing, guarded.untouched⟩
  wait := by
    intro owned bench timer time guarded
    cases timer with
    | recorded => exact guarded.record fun _ none => nomatch none
    | unrecorded => exact guarded
  acquire := by
    intro owned bench number guarded
    have answered
        : (LineDriver.acquire number : StateM Bench (Except GpioError Unit)).run bench
          = Bench.acquire number bench :=
      rfl
    rw [answered]
    unfold Bench.acquire
    split_ifs with fails held
    · exact guarded
    · exact guarded
    · exact (guarded.handOut held).record fun _ none => nomatch none
  write := by
    intro owned bench line level member guarded
    show Guarded start apart owned (Bench.write line.number level bench).2
    unfold Bench.write
    split_ifs with fails
    · exact guarded
    · refine guarded.record ?_
      intro entry same inside
      cases same
      have distinct := guarded.held.nodup guarded.distinct
      exact (List.nodup_append.mp distinct).2.2 _ (List.mem_map_of_mem member) _ inside rfl
  release guarded := guarded.takeBack.record fun _ none => nomatch none
  describe _ guarded := guarded

/-- Every step of a session keeps the lines owned by those who are in it, and which lines fail. -/
theorem guarded_step (env : Environment) {session : Session Unit} {bench : Bench}
    (owned : Owned session.lines bench) (step : Step)
    : Guarded bench [] (perform env (session, bench) (.step step)).2.1.lines
        (perform env (session, bench) (.step step)).2.2 :=
  (keeper bench []).step env session step (.atStart (by simpa using owned.1) owned.2)

/-- Every action of a session keeps the lines owned by those who are in it. -/
theorem owned_perform (env : Environment) {state : Session Unit × Bench}
    (owned : Owned state.1.lines state.2) (action : Action)
    : Owned (perform env state action).2.1.lines (perform env state action).2.2 := by
  obtain ⟨session, bench⟩ := state
  cases action with
  | step step => exact (guarded_step env owned step).toOwned
  | failExport line => exact owned
  | failWrites line => exact owned
  | clearRecord => exact owned
  | clocked enable rs data => exact owned
  | summary line => exact owned

/-- The lines that are handed out after any actions are those of the session, none of them twice. -/
theorem owned_reach (env : Environment) {state : Session Unit × Bench}
    (owned : Owned state.1.lines state.2) (actions : List Action)
    : Owned (reach env state actions).1.lines (reach env state actions).2 :=
  Acting.reach_keeps (fun state => Owned state.1.lines state.2)
    (fun _ action owned => owned_perform env owned action) owned actions

/-- A line that fails goes on to fail. -/
theorem failing_perform (env : Environment) {state : Session Unit × Bench}
    (owned : Owned state.1.lines state.2) (action : Action)
    : state.2.failingWrites ⊆ (perform env state action).2.2.failingWrites := by
  obtain ⟨session, bench⟩ := state
  cases action with
  | step step => exact (guarded_step env owned step).failing ▸ List.Subset.refl _
  | failWrites line => exact List.subset_cons_self _ _
  | failExport line => exact List.Subset.refl _
  | clearRecord => exact List.Subset.refl _
  | clocked enable rs data => exact List.Subset.refl _
  | summary line => exact List.Subset.refl _

/-- A line that fails goes on to fail, whatever happens. -/
theorem failing_reach (env : Environment) {state : Session Unit × Bench}
    (owned : Owned state.1.lines state.2) (actions : List Action)
    : state.2.failingWrites ⊆ (reach env state actions).2.failingWrites := by
  let fails (next : Session Unit × Bench) : Prop :=
    Owned next.1.lines next.2 ∧ state.2.failingWrites ⊆ next.2.failingWrites
  have keeps : ∀ next action, fails next → fails (perform env next action).2 :=
    fun _ action ⟨owned, fails⟩ =>
      ⟨owned_perform env owned action, List.Subset.trans fails (failing_perform env owned action)⟩
  exact (Acting.reach_keeps fails keeps ⟨owned, List.Subset.refl _⟩ actions).2

end CharLcd.Bench

import CharLcd.Proofs.Lives.Reporting
import CharLcd.Proofs.Lives.Sites

/-! The stages of a connection over its whole life, on both drivers.

Setting a connection up reports one stage after the other, until it is ready or has failed. From then on
it is ready and has its lines, until it is closed or given up for the first time; this is reported, and
nothing after it.
-/

namespace CharLcd

open LineCall
open Session (occupant)

variable {σ ω A : Type}

/-- The failure to set up a connection that is answered, if it is one. -/
def Reply.failure? : Reply → Option ConnectionError
  | rejected error => some error
  | _ => none

/-- The steps that give up whatever there is: the connections in the order of their numbers, then the
outputs.
-/
def Session.ending (session : Session ω) : List Step :=
  (List.range session.connections.length).map .disconnect
    ++ (List.range session.outputs.length).map .discard

variable [Journal (StateM σ)] [Clock (StateM σ)] [LineDriver (StateM σ) ω]

-----------------------------------------------------------------------------------------
-- What a step reports, by its deed
-----------------------------------------------------------------------------------------

/-- What a step makes of its calls on every driver holds of its deed. -/
theorem Session.deed_of_makes (env : Environment) (session : Session ω) (step : Step)
    {spec : List (LineCall ω) → Reply × Session ω → Prop}
    (makes : Makes (session.step env step : StateM (Traced σ ω) (Reply × Session ω)) spec) (s : σ)
    (still
      : ∀ (number : UInt32) (s : σ),
          ((LineDriver.describe number : StateM σ String).run s).2 = s)
    : spec (session.deed env step s).calls
        ((session.step env step : StateM σ (Reply × Session ω)).run s).1 := by
  obtain ⟨calls, performs, holds⟩ := makes { state := s }
  have done := session.done env step s still
  have same : (session.deed env step s).calls = calls :=
    (Traced.performs_of_performs performs).2.trans (List.nil_append calls)
  have answer
      : ((session.step env step : StateM (Traced σ ω) (Reply × Session ω)).run { state := s }).1
        = ((session.step env step : StateM σ (Reply × Session ω)).run s).1 :=
    Prod.ext done.reply done.left
  rw [same, ← answer]
  exact holds

/-- A step that sets up a connection does it with a configuration and options, of its own or from a
source, and what comes of it is enrolled.
-/
theorem Session.makes_setUp
    {spec : PinConfig → DisplayOptions → List (LineCall ω)
      → Except ConnectionError (Connection ω) → Prop}
    (inits
      : ∀ config options timer,
          Makes (Connection.init config options timer : StateM σ _) (spec config options))
    (connects
      : ∀ source options timer,
          (PinConfig.load source options).OfLookups
          → Makes (Connection.ofSource source options timer : StateM σ _)
              (spec (PinConfig.load source options).value options))
    (env : Environment) (session : Session ω) {step : Step} {config : PinConfig}
    {options : DisplayOptions} (sets : step.setup? env = some (config, options))
    : Makes (session.step env step : StateM σ (Reply × Session ω)) fun calls outcome =>
        ∃ result, outcome = session.enroll result ∧ spec config options calls result := by
  cases step with
  | init config options timer =>
      cases sets
      refine (inits config options timer).bind fun result calls holds => .pure ?_
      exact ⟨result, rfl, by rwa [List.append_nil]⟩
  | connect source options timer =>
      cases sets
      have lookups := source.load_ofLookups env (source.options options)
      refine (connects _ _ timer lookups).bind fun result calls holds => .pure ?_
      exact ⟨result, rfl, by rwa [List.append_nil]⟩
  | _ => cases sets

/-- A step that sets up a connection goes one of four ways, and is reported as such. -/
theorem Session.course_step (env : Environment) (session : Session ω) {step : Step}
    {config : PinConfig} {options : DisplayOptions}
    (sets : step.setup? env = some (config, options))
    : Makes (session.step env step : StateM σ (Reply × Session ω)) fun calls outcome =>
        ∃ result,
          outcome = session.enroll result
          ∧ Course config options calls (failureOf result) (stages calls) (marks calls).errors :=
  Session.makes_setUp course_init (fun _ _ timer lookups => course_ofSource timer lookups) env
    session sets

namespace Site

variable (site : Site σ ω A) (env : Environment)

/-- The stages that are reported while an action is carried out. -/
def stages (state : Session ω × σ) (action : A) : List Stage :=
  (site.told state.2 (site.perform env state action).2.2).filterMap Note.stage?

/-- The errors that are reported while an action is carried out. -/
def errors (state : Session ω × σ) (action : A) : List Note :=
  (site.told state.2 (site.perform env state action).2.2).filter (·.severity == .error)

variable {state : Session ω × σ} {action : A} {step : Step}

theorem stages_perform (stepping : site.step? action = some step)
    : site.stages env state action = LineCall.stages (state.1.deed env step state.2).calls := by
  have tells := site.tells_of_performs (state.1.done env step state.2 site.still).performs
  rw [stages, site.perform_step stepping]
  refine tells.view Note.stage? fun entry own => ?_
  cases entry <;> first | rfl | cases own

theorem errors_perform (stepping : site.step? action = some step)
    : site.errors env state action = (marks (state.1.deed env step state.2).calls).errors := by
  have tells := site.tells_of_performs (state.1.done env step state.2 site.still).performs
  rw [errors, site.perform_step stepping]
  refine tells.filter _ fun entry own => ?_
  cases entry <;> first | rfl | cases own

-----------------------------------------------------------------------------------------
-- The life of a connection
-----------------------------------------------------------------------------------------

/-- Whether an action is about the connection in a place. -/
def concerns (slot : Nat) (action : A) : Bool :=
  (site.step? action).any (·.concerns slot)

/-- Whether an action closes the connection in a place, or gives it up. -/
def ends (slot : Nat) (action : A) : Bool :=
  (site.step? action).any (·.ends slot)

/-- The stages that are reported by actions about the connection in a place, in order. -/
def stagesOf (slot : Nat) : Session ω × σ → List A → List Stage
  | _, [] => []
  | state, action :: rest =>
      (if site.concerns slot action then site.stages env state action else [])
        ++ stagesOf slot (site.perform env state action).2 rest

variable {slot : Nat}

/-- An action about a connection reports that it is closed if it ends it and it was open, and no stage
else.
-/
theorem stages_of_concerns (about : site.concerns slot action = true)
    : site.stages env state action
      = if site.ends slot action then state.1.closing slot else [] := by
  cases stepping : site.step? action with
  | none => simp [concerns, stepping] at about
  | some step =>
      have concerned : step.concerns slot = true := by simpa [concerns, stepping] using about
      rw [site.stages_perform env stepping, ends, stepping, Option.any_some]
      exact state.1.deed_of_makes env step (state.1.reports_step env concerned) state.2 site.still

/-- What ends a connection is about it. -/
theorem concerns_of_ends (ending : site.ends slot action = true)
    : site.concerns slot action = true := by
  unfold ends at ending
  unfold concerns
  cases stepping : site.step? action with
  | none => simp [stepping] at ending
  | some step =>
      rw [stepping] at ending
      exact Step.concerns_of_ends ending

/-- A connection stays in its place as it is until it is ended. -/
theorem stays_perform {place : Option (Connection ω)}
    (there : state.1.connections[slot]? = some place) (stays : site.ends slot action = false)
    : (site.perform env state action).2.1.connections[slot]? = some place := by
  cases stepping : site.step? action with
  | none => rwa [site.perform_beside stepping]
  | some step =>
      rw [site.perform_step stepping]
      cases place with
      | none => exact state.1.emptied_step env step there state.2
      | some connection =>
          have others : step.ends slot = false := by simpa [ends, stepping] using stays
          rw [← Step.turns_of_not_ends others]
          exact state.1.turns_step env step there state.2

end Site

/-- The connection in a place is over: it was closed or given up. -/
def Session.Over (session : Session ω) (slot : Nat) : Prop :=
  ∃ place, session.connections[slot]? = some place
    ∧ ∀ connection, place = some connection → connection.stage = .closed ∧ connection.lines = none

omit [Journal (StateM σ)] [Clock (StateM σ)] [LineDriver (StateM σ) ω] in
/-- When something is over nothing is left to be reported about it. -/
theorem Session.closing_of_over {session : Session ω} {slot : Nat} (isOver : session.Over slot)
    : session.closing slot = [] := by
  obtain ⟨place, there, past⟩ := isOver
  cases place with
  | none => exact session.closing_of_absent (by rw [occupant, there]; rfl)
  | some connection =>
      rw [session.closing_of_present (by rw [occupant, there]; rfl), Connection.closing,
        (past connection rfl).2]
      rfl

namespace Site

variable (site : Site σ ω A) (env : Environment) {state : Session ω × σ} {action : A} {slot : Nat}

/-- A connection that was ready is over once it was ended. -/
theorem over_of_ends {connection : Connection ω} (ready : connection.Ready)
    (there : state.1.connections[slot]? = some (some connection))
    (ending : site.ends slot action = true)
    : (site.perform env state action).2.1.Over slot := by
  cases stepping : site.step? action with
  | none => simp [ends, stepping] at ending
  | some step =>
      have turned := state.1.turns_step env step there state.2
      rw [site.perform_step stepping]
      refine ⟨_, turned, fun left same => ?_⟩
      have closes : step.ends slot = true := by simpa [ends, stepping] using ending
      rcases Step.turns_of_ends closes connection with closed | gone
      · obtain rfl := Option.some.inj (closed.symm.trans same)
        exact ready.sound.closed
      · cases gone.symm.trans same

/-- What is over stays over, whatever is done. -/
theorem over_perform (isOver : state.1.Over slot) (action : A)
    : (site.perform env state action).2.1.Over slot := by
  obtain ⟨place, there, past⟩ := isOver
  cases stepping : site.step? action with
  | none =>
      rw [site.perform_beside stepping]
      exact ⟨place, there, past⟩
  | some step =>
      rw [site.perform_step stepping]
      cases place with
      | none => exact ⟨none, state.1.emptied_step env step there state.2, nofun⟩
      | some connection =>
          obtain ⟨stage, unlined⟩ := past connection rfl
          refine ⟨_, state.1.turns_step env step there state.2, fun left same => ?_⟩
          rcases step.turns_cases slot connection with kept | closed | gone
          · obtain rfl := Option.some.inj (kept.symm.trans same)
            exact ⟨stage, unlined⟩
          · obtain rfl := Option.some.inj (closed.symm.trans same)
            rw [Connection.closed_of_none unlined]
            exact ⟨stage, unlined⟩
          · cases gone.symm.trans same

/-- Nothing is reported about what is over, by induction on what is done. -/
theorem stagesOf_of_over (isOver : state.1.Over slot) (later : List A)
    : site.stagesOf env slot state later = [] ∧ (site.reach env state later).1.Over slot := by
  induction later generalizing state with
  | nil => exact ⟨rfl, isOver⟩
  | cons action rest ih =>
      obtain ⟨nothing, stays⟩ := ih (site.over_perform env isOver action)
      refine ⟨?_, stays⟩
      rw [stagesOf, nothing, List.append_nil]
      split
      next about => rw [site.stages_of_concerns env about, Session.closing_of_over isOver, ite_self]
      next => rfl

/-- While a connection is not ended it stays as it is, and nothing is reported about it. By induction on
what is done.
-/
theorem stagesOf_of_stays {place : Option (Connection ω)} {later : List A}
    (there : state.1.connections[slot]? = some place)
    (stay : ∀ action ∈ later, site.ends slot action = false)
    : site.stagesOf env slot state later = []
      ∧ (site.reach env state later).1.connections[slot]? = some place := by
  induction later generalizing state with
  | nil => exact ⟨rfl, there⟩
  | cons action rest ih =>
      obtain ⟨stays, others⟩ := List.forall_mem_cons.mp stay
      obtain ⟨nothing, kept⟩ := ih (site.stays_perform env there stays) others
      refine ⟨?_, kept⟩
      rw [stagesOf, nothing, List.append_nil]
      split
      next about =>
        rw [site.stages_of_concerns env about, stays]
        rfl
      next => rfl

/-- When a connection that was ready is ended for the first time it is reported as closed, and nothing
more about it. By induction on what is done until then.
-/
theorem stagesOf_of_ends {connection : Connection ω} (ready : connection.Ready) {later : List A}
    (there : state.1.connections[slot]? = some (some connection))
    (ending : ∃ action ∈ later, site.ends slot action = true)
    : site.stagesOf env slot state later = [.closed]
      ∧ (site.reach env state later).1.Over slot := by
  induction later generalizing state with
  | nil => simp at ending
  | cons action rest ih =>
      cases now : site.ends slot action with
      | true =>
          obtain ⟨nothing, isOver⟩ :=
            site.stagesOf_of_over env (site.over_of_ends env ready there now) rest
          refine ⟨?_, isOver⟩
          have reports : state.1.closing slot = [.closed] := by
            obtain ⟨_, lines, opened, _⟩ := ready
            rw [state.1.closing_of_present (by rw [occupant, there]; rfl), Connection.closing, opened]
            rfl
          rw [stagesOf, nothing, List.append_nil, if_pos (site.concerns_of_ends now),
            site.stages_of_concerns env (site.concerns_of_ends now), now, if_pos rfl, reports]
      | false =>
          have later : ∃ action ∈ rest, site.ends slot action = true := by
            simpa [now] using ending
          obtain ⟨reported, isOver⟩ := ih (site.stays_perform env there now) later
          refine ⟨?_, isOver⟩
          rw [stagesOf, reported]
          split
          next about =>
            rw [site.stages_of_concerns env about, now]
            rfl
          next => rfl

-----------------------------------------------------------------------------------------
-- The end of a session
-----------------------------------------------------------------------------------------

/-- Whatever is in a row of places is given up by steps that do so place by place. By induction on the
places that are left.
-/
theorem reach_giveUp {α : Type} (put : List (Option α) → Session ω) {giveUp : Nat → Step}
    {discard : α → StateM σ Unit}
    (gives
      : ∀ (gone : List (Option α)) (place : Option α) (rest : List (Option α)) (s : σ),
          (site.perform env (put (gone ++ place :: rest), s) (site.take (giveUp gone.length))).2
          = (put (gone ++ none :: rest), ((place.forM discard).run s).2))
    (gone places : List (Option α)) (s : σ)
    : site.reach env (put (gone ++ places), s)
        ((List.range' gone.length places.length).map (site.take ∘ giveUp))
      = (put (gone ++ places.map fun _ => none),
          ((places.forM fun place => place.forM discard).run s).2) := by
  induction places generalizing gone s with
  | nil => rfl
  | cons place rest ih =>
      have next := ih (gone ++ [none]) ((place.forM discard).run s).2
      rw [List.length_append, List.append_assoc, List.append_assoc] at next
      simp only [List.length_cons, List.range'_succ, List.map_cons, Acting.reach_cons,
        Function.comp_apply, gives]
      exact next

/-- A connection is given up in its place. -/
theorem perform_disconnect (outputs : List (Option (Output ω)))
    (gone : List (Option (Connection ω))) (place : Option (Connection ω))
    (rest : List (Option (Connection ω))) (s : σ)
    : (site.perform env ({ outputs, connections := gone ++ place :: rest }, s)
          (site.take (.disconnect gone.length))).2
      = ({ outputs, connections := gone ++ none :: rest },
          ((place.forM Connection.discard : StateM σ PUnit).run s).2) := by
  have there : (gone ++ place :: rest)[gone.length]? = some place := by
    rw [List.getElem?_append_right (Nat.le_refl _), Nat.sub_self, List.getElem?_cons_zero]
  rw [site.perform_step (site.step?_take _)]
  cases place with
  | none =>
      simp only [Session.step, Session.disconnect, there]
      rfl
  | some connection =>
      have emptied : (gone ++ some connection :: rest).set gone.length none = gone ++ none :: rest := by
        rw [List.set_append_right _ _ (Nat.le_refl _), Nat.sub_self, List.set_cons_zero]
      simp only [Session.step, Session.disconnect, there, emptied]
      rfl

/-- An output is given up in its place. -/
theorem perform_discard (connections : List (Option (Connection ω)))
    (gone : List (Option (Output ω))) (place : Option (Output ω)) (rest : List (Option (Output ω)))
    (s : σ)
    : (site.perform env ({ outputs := gone ++ place :: rest, connections }, s)
          (site.take (.discard gone.length))).2
      = ({ outputs := gone ++ none :: rest, connections },
          ((place.forM Output.discard : StateM σ PUnit).run s).2) := by
  have there : (gone ++ place :: rest)[gone.length]? = some place := by
    rw [List.getElem?_append_right (Nat.le_refl _), Nat.sub_self, List.getElem?_cons_zero]
  rw [site.perform_step (site.step?_take _)]
  cases place with
  | none =>
      simp only [Session.step, Session.discardOutput, there]
      rfl
  | some output =>
      have emptied : (gone ++ some output :: rest).set gone.length none = gone ++ none :: rest := by
        rw [List.set_append_right _ _ (Nat.le_refl _), Nat.sub_self, List.set_cons_zero]
      simp only [Session.step, Session.discardOutput, there, emptied]
      rfl

/-- The steps of the ending give up what is left, as the end of a session does. -/
theorem reach_ending (session : Session ω) (s : σ)
    : (site.reach env (session, s) (session.ending.map site.take)).2
      = ((session.finish : StateM σ Unit).run s).2 := by
  obtain ⟨outputs, connections⟩ := session
  let emptied : List (Option (Connection ω)) := connections.map fun _ => none
  have first := site.reach_giveUp env (fun places => { outputs, connections := places })
    (site.perform_disconnect env outputs) [] connections s
  have second := site.reach_giveUp env (fun places => { outputs := places, connections := emptied })
    (site.perform_discard env emptied) [] outputs
    ((connections.forM fun place => place.forM Connection.discard : StateM σ PUnit).run s).2
  simp only [List.nil_append, List.length_nil] at first second
  simp only [Session.ending, List.range_eq_range', List.map_append, List.map_map,
    Acting.reach_append, first]
  exact congrArg Prod.snd second

-----------------------------------------------------------------------------------------
-- The whole life
-----------------------------------------------------------------------------------------

/-- How the life of a connection in a place goes on while something is done. Until it is ended it stays
as it is, and nothing is reported about it. Once it is ended this was reported, and nothing else. At the
latest it is ended with the session, which then gives up whatever is left.
-/
structure LivesOn (slot : Nat) (connection : Connection ω) (state : Session ω × σ) (later : List A)
    : Prop where
  stays
    : (∀ action ∈ later, site.ends slot action = false)
      → site.stagesOf env slot state later = []
        ∧ (site.reach env state later).1.connections[slot]? = some (some connection)
  ended
    : (∃ action ∈ later, site.ends slot action = true)
      → site.stagesOf env slot state later = [.closed] ∧ (site.reach env state later).1.Over slot
  dropped
    : let last := (site.reach env state later).1.ending.map site.take
      site.stagesOf env slot state (later ++ last) = [.closed]
      ∧ (site.reach env state (later ++ last)).2
        = (((site.reach env state later).1.finish : StateM σ Unit).run
            (site.reach env state later).2).2

/-- A connection that is ready in its place lives on, whatever is done. -/
theorem livesOn {connection : Connection ω} (ready : connection.Ready)
    (there : state.1.connections[slot]? = some (some connection)) (later : List A)
    : site.LivesOn env slot connection state later where
  stays := site.stagesOf_of_stays env there
  ended := site.stagesOf_of_ends env ready there
  dropped := by
    intro last
    have ends : ∃ action ∈ later ++ last, site.ends slot action = true := by
      by_cases earlier : ∃ action ∈ later, site.ends slot action = true
      · obtain ⟨action, member, ends⟩ := earlier
        exact ⟨action, List.mem_append_left _ member, ends⟩
      · have stay : ∀ action ∈ later, site.ends slot action = false := by simpa using earlier
        have bound := (List.getElem?_eq_some_iff.mp (site.stagesOf_of_stays env there stay).2).1
        refine ⟨site.take (.disconnect slot), List.mem_append_right _ ?_, ?_⟩
        · refine List.mem_map_of_mem (List.mem_append_left _ (List.mem_map_of_mem ?_))
          exact List.mem_range.mpr bound
        · rw [Site.ends, site.step?_take]
          exact beq_self_eq_true slot
    refine ⟨(site.stagesOf_of_ends env ready there ends).1, ?_⟩
    exact (congrArg Prod.snd (Acting.reach_append state later last)).trans
      (site.reach_ending env _ _)

/-- The life of a connection is told by its stages. When it is set up they tell how that went, by the
calls of this step; a failure leaves nothing behind. If there is no failure the connection is ready,
behind the other ones, and lives on from there.
-/
structure Staged (state : Session ω × σ) (step : Step) (config : PinConfig)
    (options : DisplayOptions)
    : Prop where
  performs
    : Performs state.2 (state.1.deed env step state.2).calls
        (site.perform env state (site.take step)).2.2
  course
    : Course config options (state.1.deed env step state.2).calls
        (site.perform env state (site.take step)).1.failure?
        (site.stages env state (site.take step)) (site.errors env state (site.take step))
  failed
    : (site.perform env state (site.take step)).1.failure? ≠ none
      → (site.perform env state (site.take step)).2.1 = state.1
  lives
    : (site.perform env state (site.take step)).1.failure? = none
      → ∃ connection,
          (site.perform env state (site.take step)).2.1
            = { state.1 with connections := state.1.connections ++ [some connection] }
          ∧ connection.Ready
          ∧ ∀ later,
              site.LivesOn env state.1.connections.length connection
                (site.perform env state (site.take step)).2 later

variable {env}

/-- The stages tell the life of a connection, on every site. -/
theorem staged {step : Step} {config : PinConfig} {options : DisplayOptions}
    (sets : step.setup? env = some (config, options)) (state : Session ω × σ)
    : site.Staged env state step config options := by
  have taken := site.step?_take step
  have performs := (state.1.done env step state.2 site.still).performs
  obtain ⟨result, enrolled, course⟩ :=
    state.1.deed_of_makes env step (state.1.course_step env sets) state.2 site.still
  have answered : (site.perform env state (site.take step)).1 = (state.1.enroll result).1 := by
    rw [site.perform_step taken, enrolled]
  have left : (site.perform env state (site.take step)).2.1 = (state.1.enroll result).2 := by
    rw [site.perform_step taken, enrolled]
  have failure : (site.perform env state (site.take step)).1.failure? = failureOf result := by
    rw [answered]
    cases result <;> rfl
  refine ⟨?_, ?_, fun fails => ?_, fun succeeds => ?_⟩
  · rw [site.perform_step taken]
    exact performs
  · rw [failure, site.stages_perform env taken, site.errors_perform env taken]
    exact course
  · cases result with
    | error error => exact left
    | ok connection => exact absurd failure fails
  · cases result with
    | error error => cases failure.symm.trans succeeds
    | ok connection =>
        have there
            : (site.perform env state (site.take step)).2.1.connections[state.1.connections.length]?
              = some (some connection) := by
          rw [left]
          simp [Session.enroll]
        have new := there
        rw [site.perform_step taken] at new
        obtain ⟨_, same, ready⟩ := state.1.ready_of_new env step state.2 (Nat.le_refl _) new
        cases same
        exact ⟨connection, left, ready, fun later => site.livesOn env ready there later⟩

end Site

/-- On both drivers the stages tell the life of a connection, from the step that sets it up to its end,
whatever else is done and whatever fails.
-/
theorem life_told_by_stages (env : Environment) {step : Step} {config : PinConfig}
    {options : DisplayOptions} (sets : step.setup? env = some (config, options))
    : (∀ state : Session Unit × Bench, Bench.site.Staged env state step config options)
      ∧ ∀ state : Session Nat × Sysfs.Machine,
          Sysfs.Machine.site.Staged env state step config options :=
  ⟨Bench.site.staged sets, Sysfs.Machine.site.staged sets⟩

/-- A display on a bench does not come up, as a line takes no level. One on a machine does. No line of
it can be unexported when it is closed, and it is given up after that; it was closed once.
-/
theorem life_told_by_stages_over_failing_lines
    : let step : Step := .init {} {} .unrecorded
      let onBench : Session Unit × Bench := ({}, { failingWrites := [8] })
      let fault : Sysfs.Fault := { file := "unexport", call := .writing, errno := .eio }
      let onMachine : Session Nat × Sysfs.Machine :=
        ({}, { Sysfs.Machine.small with faults := [fault] })
      let setUp := (Sysfs.Machine.site.perform {} onMachine (.step step)).2
      let closed := Sysfs.Machine.site.perform {} setUp (.step (.display 0 .close))
      step.setup? {} = some ({}, {})
      ∧ Bench.site.stages {} onBench (.step step)
        = [.unconfigured, .pinsAllocated, .pinsExported, .protocolReset, .failed]
      ∧ Bench.site.Staged {} onBench step {} {}
      ∧ Sysfs.Machine.site.stages {} onMachine (.step step)
        = [.unconfigured, .pinsAllocated, .pinsExported, .protocolReset, .ready]
      ∧ closed.1 = .refused (.io (Errno.kind .eio))
      ∧ Sysfs.Machine.site.stagesOf {} 0 setUp [.step (.display 0 .close), .step (.disconnect 0)]
        = [.closed]
      ∧ Sysfs.Machine.site.Staged {} onMachine step {} {} := by
  intro step onBench fault onMachine setUp closed
  have sets : step.setup? {} = some ({}, {}) := rfl
  obtain ⟨onBenches, onMachines⟩ := life_told_by_stages {} sets
  refine ⟨sets, by decide +kernel, onBenches onBench, by decide +kernel, by decide +kernel, ?_,
    onMachines onMachine⟩
  decide +kernel

end CharLcd

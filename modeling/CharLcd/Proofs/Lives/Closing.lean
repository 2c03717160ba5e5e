import CharLcd.Proofs.Bench.Undoing
import CharLcd.Proofs.Lives.Stages
import CharLcd.Proofs.Sysfs.Closing

/-! Closing gives back what a set-up acquired, on both drivers.

The lines of a connection that is open are those that were acquired for it when it was set up, in the same
order; nothing that is done in between changes them. So what is given back when it is closed, or given up,
is just what was acquired.
-/

namespace CharLcd

open LineCall
open Session (occupant)

variable {σ ω A : Type}

/-- A step that may put a connection behind the others sets it up. -/
theorem Step.setup?_of_opens {step : Step} (opens : step.opens = true) (env : Environment)
    : ∃ config options, step.setup? env = some (config, options) := by
  cases step with
  | init config options timer => exact ⟨config, options, rfl⟩
  | connect source options timer => exact ⟨_, _, rfl⟩
  | _ => cases opens

-----------------------------------------------------------------------------------------
-- Where the lines of a connection come from
-----------------------------------------------------------------------------------------

section

variable [Journal (StateM σ)] [Clock (StateM σ)] [LineDriver (StateM σ) ω]

/-- A step that sets up a connection acquires all of its lines or none. -/
theorem Session.setsUp_step (env : Environment) (session : Session ω) {step : Step}
    {config : PinConfig} {options : DisplayOptions}
    (sets : step.setup? env = some (config, options))
    : Makes (session.step env step : StateM σ (Reply × Session ω)) fun calls outcome =>
        ∃ result, outcome = session.enroll result ∧ SetsUp config options calls result :=
  Session.makes_setUp makes_init (fun source options timer _ => makes_ofSource source options timer)
    env session sets

/-- An action sets up a connection, which is put behind the others. These lines are acquired for it, one
after the other, and none of them is given back.
-/
structure Site.Acquires (site : Site σ ω A) (env : Environment) (before : Session ω × σ) (action : A)
    (step : Step) (slot : Nat) (lines : Wiring (Line ω))
    : Prop where
  stepping : site.step? action = some step
  setsUp : ∃ config options, step.setup? env = some (config, options)
  behind : before.1.connections.length = slot
  performs
    : Performs before.2 (before.1.deed env step before.2).calls
        (site.perform env before action).2.2
  works : Works [] (before.1.deed env step before.2).calls
  acquired : taken (before.1.deed env step before.2).calls = lines.toList

namespace Site

variable (site : Site σ ω A) (env : Environment) {state : Session ω × σ} {action : A} {slot : Nat}
variable {connection : Connection ω} {lines : Wiring (Line ω)}

/-- What is new and open was set up right now. -/
theorem acquires_of_new (free : state.1.connections.length ≤ slot)
    (there : (site.perform env state action).2.1.connections[slot]? = some (some connection))
    (opened : connection.lines = some lines)
    : ∃ step, site.Acquires env state action step slot lines := by
  have absent : state.1.connections[slot]? = none := List.getElem?_eq_none free
  cases stepping : site.step? action with
  | none =>
      rw [site.perform_beside stepping, absent] at there
      cases there
  | some step =>
      have performs := (state.1.done env step state.2 site.still).performs
      have performed : site.perform env state action = _ := site.perform_step stepping
      rw [performed] at there
      cases opening : step.opens with
      | false =>
          have short := state.1.length_connections_step env opening state.2
          rw [List.getElem?_eq_none (short ▸ free)] at there
          cases there
      | true =>
          obtain ⟨config, options, sets⟩ := Step.setup?_of_opens opening env
          obtain ⟨result, enrolled, setsUp⟩ :=
            state.1.deed_of_makes env step (state.1.setsUp_step env sets) state.2 site.still
          rw [enrolled] at there
          cases result with
          | error error =>
              rw [Session.enroll, absent] at there
              cases there
          | ok other =>
              rw [Session.enroll, List.getElem?_append_right free] at there
              obtain ⟨last, same⟩ := List.getElem?_eq_some_iff.mp there
              obtain ⟨works, _, held⟩ := setsUp
              refine ⟨step, stepping, ⟨config, options, sets⟩, ?_, ?_, works, ?_⟩
              · rw [List.length_singleton] at last
                omega
              · rw [performed]
                exact performs
              · have own : other = connection := by simpa using same
                rw [held, own, Connection.held_of_open opened]

/-- What is open now and not new was there before. -/
theorem open_before {place : Option (Connection ω)} (before : state.1.connections[slot]? = some place)
    (there : (site.perform env state action).2.1.connections[slot]? = some (some connection))
    (opened : connection.lines = some lines)
    : place = some connection := by
  cases stepping : site.step? action with
  | none =>
      rw [site.perform_beside stepping, before] at there
      exact Option.some.inj there
  | some step =>
      rw [site.perform_step stepping] at there
      cases place with
      | none =>
          rw [state.1.emptied_step env step before state.2] at there
          cases there
      | some earlier =>
          rw [state.1.turns_step env step before state.2] at there
          rcases step.turns_cases slot earlier with kept | closed | gone
          · exact kept.symm.trans (Option.some.inj there)
          · rw [closed] at there
            cases there
            cases earlier.lines_closed.symm.trans opened
          · rw [gone] at there
            cases there

/-- The lines of a connection that is open in a session were acquired when it was set up. By induction on
what was done until now, from the end.
-/
theorem acquired_of_open (start : σ) {actions : List A}
    (there : (site.reach env ({}, start) actions).1.connections[slot]? = some (some connection))
    (opened : connection.lines = some lines)
    : ∃ earlier action later step,
        actions = earlier ++ action :: later
        ∧ site.Acquires env (site.reach env ({}, start) earlier) action step slot lines := by
  induction actions using List.reverseRecOn with
  | nil => cases there
  | append_singleton rest action ih =>
      simp only [Acting.reach_append] at there
      cases before : (site.reach env ({}, start) rest).1.connections[slot]? with
      | none =>
          obtain ⟨step, acquires⟩ :=
            site.acquires_of_new env (List.getElem?_eq_none_iff.mp before) there opened
          exact ⟨rest, action, [], step, rfl, acquires⟩
      | some place =>
          obtain rfl := site.open_before env before there opened
          obtain ⟨earlier, first, later, step, rfl, acquires⟩ := ih before
          refine ⟨earlier, first, later ++ [action], step, ?_, acquires⟩
          rw [List.append_assoc, List.cons_append]

end Site

end

-----------------------------------------------------------------------------------------
-- Closing on a bench
-----------------------------------------------------------------------------------------

namespace Bench

/-- The lines that were exported from one state of a bench to a later one. -/
def exportedBetween (before after : Bench) : List UInt32 :=
  Events.exports (after.events.toList.drop before.events.size)

/-- Some lines were taken back one after the other, once each, and nothing else was done to a bench. -/
structure TakesBack (numbers : List UInt32) (before after : Bench) : Prop where
  distinct : numbers.Nodup
  events : after.events.toList = before.events.toList ++ numbers.map .released
  held : after.held = before.held.filter (· ∉ numbers)

/-- Closing a connection on a bench, or giving it up, takes back the lines that were exported for it and
succeeds. To do so again does nothing.
-/
structure ClosesWhole (exported : List UInt32) (connection : Connection Unit) (before : Bench)
    : Prop where
  succeeds
    : ((connection.close : StateM Bench (Except GpioError Unit × Connection Unit)).run before).1
      = (.ok (), connection.closed)
  closed
    : TakesBack exported before
        ((connection.close : StateM Bench (Except GpioError Unit × Connection Unit)).run before).2
  dropped : TakesBack exported before ((connection.discard : StateM Bench Unit).run before).2
  again : ∀ bench : Bench,
    (connection.closed.close : StateM Bench (Except GpioError Unit × Connection Unit)).run bench
      = ((.ok (), connection.closed), bench)
    ∧ (connection.closed.discard : StateM Bench Unit).run bench = ((), bench)

/-- A bench takes back all lines. By induction on these. -/
theorem releaseAll_ok (lines : List (Line Unit)) (before : Bench)
    : ((Line.releaseAll lines : StateM Bench (Except GpioError Unit)).run before).1 = .ok () := by
  induction lines generalizing before with
  | nil => rfl
  | cons line rest ih => exact ih _

theorem close_ok (connection : Connection Unit) (before : Bench)
    : ((connection.close : StateM Bench (Except GpioError Unit × Connection Unit)).run before).1
      = (.ok (), connection.closed) := by
  refine Prod.ext ?_ (connection.run_close_left before)
  obtain ⟨lines, controllers, number, timer, stage⟩ := connection
  cases lines with
  | none => rfl
  | some lines => exact releaseAll_ok lines.toList before

variable {before after : Bench}

/-- The lines that a set-up acquired are the ones that were exported meanwhile. -/
theorem exportedBetween_eq {calls : List (LineCall Unit)} (performs : Performs before calls after)
    (works : Works [] calls)
    : exportedBetween before after = (taken calls).map Line.number := by
  rw [exportedBetween, events_of_performs performs, ← Array.length_toList, List.drop_left]
  exact (events_of_works works).1

theorem takesBack_of_givesBack {lines : List (Line Unit)} {calls : List (LineCall Unit)}
    (performs : Performs before calls after) (givesBack : GivesBack lines calls)
    (distinct : (lines.map Line.number).Nodup)
    : TakesBack (lines.map Line.number) before after := by
  obtain ⟨released, held⟩ := held_of_givesBack performs givesBack
  refine ⟨distinct, ?_, held⟩
  rw [events_of_performs performs, released, List.map_map]

/-- A connection takes back just what it holds. -/
theorem closesWhole {connection : Connection Unit}
    (distinct : (connection.held.map Line.number).Nodup) (before : Bench)
    : ClosesWhole (connection.held.map Line.number) connection before := by
  obtain ⟨_, closing, givesBack, _⟩ := makes_close (σ := Bench) connection before
  obtain ⟨_, dropping, givesUp⟩ := makes_discardConnection (σ := Bench) connection before
  exact ⟨close_ok connection before, takesBack_of_givesBack closing givesBack distinct,
    takesBack_of_givesBack dropping givesUp distinct,
    fun bench => ⟨connection.run_close_closed bench, connection.run_discard_closed bench⟩⟩

end Bench

-----------------------------------------------------------------------------------------
-- Closing in a session
-----------------------------------------------------------------------------------------

/-- At any time in any session on a machine or a bench, an open connection has the lines that were acquired
for it when it was set up, in this order. On a machine it is closed as a whole, whatever files there are
and whatever fails. On a bench just the lines that were exported when it was set up are released.
-/
theorem closing_releases_everything_once (env : Environment)
    : (∀ (base : String) (directory : Path) (tree : FileTree) (faults : List Sysfs.Fault)
          (actions : List Sysfs.Machine.Action) (slot : Nat) (connection : Connection Nat)
          (lines : Wiring (Line Nat)),
        let site := Sysfs.Machine.site
        let start : Session Nat × Sysfs.Machine :=
          ({}, Sysfs.fresh base directory tree faults)
        let reached := site.reach env start actions
        occupant reached.1.connections slot = some connection
        → connection.lines = some lines
        → (∃ earlier action later step,
            actions = earlier ++ action :: later
            ∧ site.Acquires env (site.reach env start earlier) action step slot lines)
          ∧ Sysfs.ClosesWhole reached.1 slot connection lines reached.2
              ((connection.close
                  : StateM Sysfs.Machine (Except GpioError Unit × Connection Nat)).run reached.2))
      ∧ ∀ (bench : Bench) (actions : List Bench.Action) (slot : Nat) (connection : Connection Unit)
          (lines : Wiring (Line Unit)),
        let site := Bench.site
        let reached := site.reach env ({}, bench) actions
        occupant reached.1.connections slot = some connection
        → connection.lines = some lines
        → ∃ earlier action later step,
            let before := site.reach env ({}, bench) earlier
            let exported := before.2.exportedBetween (site.perform env before action).2.2
            actions = earlier ++ action :: later
            ∧ site.Acquires env before action step slot lines
            ∧ exported = lines.toList.map Line.number
            ∧ Bench.ClosesWhole exported connection reached.2 := by
  constructor
  · intro base directory tree faults actions slot connection lines site start reached present opened
    have begins : Sysfs.Accounts base start.1.lines start.2 :=
      Sysfs.accounts_fresh base directory tree faults
    have accounts : Sysfs.Accounts base reached.1.lines reached.2 :=
      Sysfs.accounts_reach env begins actions
    have there := Session.getElem?_of_occupant present
    exact ⟨site.acquired_of_open env _ there opened, Sysfs.closesWhole accounts present opened⟩
  · intro bench actions slot connection lines site reached present opened
    have there := Session.getElem?_of_occupant present
    obtain ⟨earlier, action, later, step, split, acquires⟩ :=
      site.acquired_of_open env bench there opened
    have exported := Bench.exportedBetween_eq acquires.performs acquires.works
    have distinct := (Bench.held_of_works acquires.performs acquires.works).2.1
    have held := Connection.held_of_open opened
    rw [acquires.acquired] at exported distinct
    rw [← held] at distinct
    refine ⟨earlier, action, later, step, split, acquires, exported, ?_⟩
    rw [exported, ← held]
    exact Bench.closesWhole distinct reached.2

/-- The first of six lines cannot be turned back when it is closed, and no line can be unexported. All of
them are free then, and the very first failure is reported. On a bench the same lines are released.
-/
theorem closing_releases_everything_once_over_failing_lines
    : let direction : Sysfs.Fault :=
        { file := "gpio8/direction", call := .opening, errno := .eacces, skip := 1 }
      let unexport : Sysfs.Fault := { file := "unexport", call := .writing, errno := .eio }
      let start : Session Nat × Sysfs.Machine :=
        ({}, Sysfs.fresh "" [] Sysfs.Machine.small.tree [direction, unexport])
      let reached := Sysfs.Machine.site.reach {} start [.step (.init {} {} .unrecorded)]
      let lines : Wiring (Line Nat) :=
        { en := ⟨8, 2⟩, rs := ⟨7, 5⟩, d7 := ⟨18, 8⟩, d6 := ⟨23, 11⟩, d5 := ⟨24, 14⟩, d4 := ⟨25, 17⟩
          backlight := none, en2 := none }
      let connection := { Connection.onLines lines {} {} .unrecorded with stage := .ready }
      let closed :=
        (connection.close : StateM Sysfs.Machine (Except GpioError Unit × Connection Nat)).run
          reached.2
      let onBench := Bench.site.reach {} ({}, {}) [.step (.init {} {} .unrecorded)]
      let own : Connection Unit :=
        { Connection.onLines (lines.map fun line => ⟨line.number, ()⟩) {} {} .unrecorded with
          stage := .ready }
      occupant reached.1.connections 0 = some connection
      ∧ reached.2.used = [7, 8, 18, 23, 24, 25]
      ∧ closed.1.1 = .error (.io (Errno.kind .eacces))
      ∧ closed.2.used = []
      ∧ Sysfs.ClosesWhole reached.1 0 connection lines reached.2 closed
      ∧ occupant onBench.1.connections 0 = some own
      ∧ Bench.ClosesWhole [8, 7, 18, 23, 24, 25] own onBench.2 := by
  intro direction unexport start reached lines connection closed onBench own
  obtain ⟨onMachines, onBenches⟩ := closing_releases_everything_once {}
  -- The states are only named here, so that nothing but the kernel works them out.
  have machineCloses (state : Session Nat × Sysfs.Machine)
      (same
        : state
          = Sysfs.Machine.site.reach {}
              ({}, Sysfs.fresh "" [] Sysfs.Machine.small.tree [direction, unexport])
              [.step (.init {} {} .unrecorded)])
      (present : occupant state.1.connections 0 = some connection)
      : Sysfs.ClosesWhole state.1 0 connection lines state.2
          ((connection.close
              : StateM Sysfs.Machine (Except GpioError Unit × Connection Nat)).run state.2) := by
    rw [same] at present ⊢
    exact (onMachines _ _ _ _ _ 0 connection lines present rfl).2
  have benchCloses (state : Session Unit × Bench)
      (same : state = Bench.site.reach {} ({}, {}) [.step (.init {} {} .unrecorded)])
      (present : occupant state.1.connections 0 = some own)
      : Bench.ClosesWhole [8, 7, 18, 23, 24, 25] own state.2 := by
    rw [same] at present ⊢
    obtain ⟨_, _, _, _, _, _, exported, whole⟩ := onBenches _ _ 0 own _ present rfl
    rwa [exported] at whole
  have present : occupant reached.1.connections 0 = some connection := by decide +kernel
  have there : occupant onBench.1.connections 0 = some own := by decide +kernel
  exact ⟨present, by decide +kernel, by decide +kernel, by decide +kernel,
    machineCloses reached rfl present, there, benchCloses onBench rfl there⟩

end CharLcd

import CharLcd.Proofs.Agreement.Mirror
import CharLcd.Proofs.Bench.Ownership
import CharLcd.Proofs.Coupling.Session
import CharLcd.Proofs.Sysfs.Fixture
import CharLcd.Proofs.Sysfs.Ownership

/-! The same session on a bench and on a machine.

As long as nothing fails, the two drivers cannot be told apart by what they answer; and the files of
the machine are those that the record of the bench tells, after every step.
-/

namespace CharLcd

open Sysfs

variable {lines : List UInt32} {start machine : Machine} {origin : Bench × Machine}
variable {bench : Bench}

-----------------------------------------------------------------------------------------
-- A single step
-----------------------------------------------------------------------------------------

/-- What has been done until now may be left behind. -/
theorem Mirrors.rooted {owned : List (Line (Unit × Nat))}
    (mirrors : Mirrors lines start origin owned bench machine)
    : Mirrors lines start (bench, machine) owned bench machine :=
  { mirrors with delays := ⟨[], [], by simp, by simp, rfl⟩ }

/-- Every step that asks for no other lines is answered alike on both sides. -/
theorem Mirrors.step {session : Session (Unit × Nat)} (env : Environment) (step : Step)
    (small : ∀ line ∈ lines, line < lineCount) (plain : step.describes = false)
    (mirrors : Mirrors lines start origin session.lines bench machine)
    (asked : offered bench.held (step.asks env) ⊆ lines)
    : ∃ (reply : Reply) (next : Session (Unit × Nat)) (bench' : Bench) (machine' : Machine),
        (session.left.step env step : StateM Bench _).run bench = ((reply, next.left), bench')
        ∧ (session.right.step env step : StateM Machine _).run machine
          = ((reply, next.right), machine')
        ∧ Mirrors lines start origin next.lines bench' machine' := by
  have answers := (mirrors_coupling small start origin).step env session step plain bench machine
    ⟨mirrors, asked⟩
  generalize (session.left.step env step : StateM Bench _).run bench = onBench at *
  generalize (session.right.step env step : StateM Machine _).run machine = onMachine at *
  obtain ⟨⟨reply, left⟩, bench'⟩ := onBench
  obtain ⟨⟨other, right⟩, machine'⟩ := onMachine
  obtain ⟨same, next, leftSide, rightSide, kept⟩ := answers
  cases same
  cases leftSide
  cases rightSide
  exact ⟨reply, next, bench', machine', rfl, rfl, kept⟩

/-- The delays between two states are those that were recorded in between. -/
theorem Mirrors.delays_since {owned : List (Line (Unit × Nat))} {before : Bench}
    {was : Machine} (mirrors : Mirrors lines start (before, was) owned bench machine)
    (reply answer : Reply)
    : Events.delays (Bench.entry reply before bench).events
      = Call.delays (Machine.report answer was machine).calls := by
  obtain ⟨events, calls, recorded, called, same⟩ := mirrors.delays
  have log : (Bench.entry reply before bench).events = events := by
    simp [Bench.entry, recorded]
  have made : (Machine.report answer was machine).calls = calls := by
    simp [Machine.report, called]
  rw [log, made, same]

-----------------------------------------------------------------------------------------
-- Whole sessions
-----------------------------------------------------------------------------------------

/-- In a session on a bench, a driver is only asked for lines among these. -/
def Offers (env : Environment) (lines : List UInt32) : Session Unit × Bench → List Step → Prop
  | _, [] => True
  | state, step :: rest =>
      offered state.2.held (step.asks env) ⊆ lines
      ∧ Offers env lines (Bench.perform env state (.step step)).2 rest

instance decidableOffers (env : Environment) (lines : List UInt32)
    : (state : Session Unit × Bench) → (steps : List Step)
      → Decidable (Offers env lines state steps)
  | _, [] => .isTrue trivial
  | state, step :: rest =>
      have := decidableOffers env lines (Bench.perform env state (.step step)).2 rest
      inferInstanceAs (Decidable (_ ∧ _))

/-- What is offered in a session is offered in each of its beginnings. By induction on these. -/
theorem Offers.left {env : Environment} {state : Session Unit × Bench} {before rest : List Step}
    (offers : Offers env lines state (before ++ rest))
    : Offers env lines state before := by
  induction before generalizing state with
  | nil => trivial
  | cons step before ih => exact ⟨offers.1, ih offers.2⟩

/-- Both sides go on alike after any steps, by induction on these. -/
theorem Mirrors.reach {session : Session (Unit × Nat)} (env : Environment) {steps : List Step}
    (small : ∀ line ∈ lines, line < lineCount) (plain : ∀ step ∈ steps, step.describes = false)
    (mirrors : Mirrors lines start origin session.lines bench machine)
    (offers : Offers env lines (session.left, bench) steps)
    : ∃ next : Session (Unit × Nat),
        (Bench.reach env (session.left, bench) (steps.map .step)).1 = next.left
        ∧ (Sysfs.reach env (session.right, machine) (steps.map .step)).1 = next.right
        ∧ Mirrors lines start origin next.lines
            (Bench.reach env (session.left, bench) (steps.map .step)).2
            (Sysfs.reach env (session.right, machine) (steps.map .step)).2 := by
  induction steps generalizing session bench machine with
  | nil => exact ⟨session, rfl, rfl, mirrors⟩
  | cons step rest ih =>
      obtain ⟨asked, later⟩ := offers
      obtain ⟨reply, next, bench', machine', onBench, onMachine, kept⟩ :=
        mirrors.step env step small (plain step List.mem_cons_self) asked
      have left : Bench.perform env (session.left, bench) (.step step) = (reply, next.left, bench') := by
        simp only [Acting.perform, Bench.act, onBench]
      have right
          : Sysfs.perform env (session.right, machine) (.step step)
            = (reply, next.right, machine') := by
        simp only [Acting.perform, Machine.act, onMachine]
      rw [left] at later
      have goesOn := ih (fun step member => plain step (List.mem_cons_of_mem _ member)) kept later
      simpa only [List.map_cons, Acting.reach_cons, left, right] using goesOn

/-- Both sides answer alike with the same delays, up to the end of the session. By induction on the
steps.
-/
theorem Mirrors.runs {session : Session (Unit × Nat)} (env : Environment) {steps : List Step}
    (small : ∀ line ∈ lines, line < lineCount) (plain : ∀ step ∈ steps, step.describes = false)
    (mirrors : Mirrors lines start origin session.lines bench machine)
    (offers : Offers env lines (session.left, bench) steps)
    : (Bench.runFrom env session.left bench (steps.map .step)).map
          (fun entry => (entry.reply, Events.delays entry.events))
      = (Machine.runFrom env session.right machine (steps.map .step)).map
          fun report => (report.reply, Call.delays report.calls) := by
  induction steps generalizing session bench machine origin with
  | nil =>
      have ends := (mirrors_coupling small start (bench, machine)).finish session bench machine
        mirrors.rooted
      obtain ⟨_, kept⟩ := ends
      exact congrArg (fun delays => [(Reply.ended, delays)]) (kept.delays_since _ _)
  | cons step rest ih =>
      obtain ⟨asked, later⟩ := offers
      obtain ⟨reply, next, bench', machine', onBench, onMachine, kept⟩ :=
        mirrors.rooted.step env step small (plain step List.mem_cons_self) asked
      have left : Bench.perform env (session.left, bench) (.step step) = (reply, next.left, bench') := by
        simp only [Acting.perform, Bench.act, onBench]
      rw [left] at later
      have goesOn := ih (fun step member => plain step (List.mem_cons_of_mem _ member)) kept later
      simp only [List.map_cons, Bench.runFrom, Machine.runFrom, Bench.act, Machine.act, onBench,
        onMachine]
      rw [goesOn, kept.delays_since reply reply]
      rfl

/-- According to an empty record no line was asked for. -/
theorem Bench.text_empty : Bench.text {} = untouched := by
  funext file
  cases file <;> rfl

/-- A machine without lines on complete control files shows what a bench tells before a session. -/
theorem Mirrors.atStart (complete : Holds lines untouched machine) (unused : machine.used = [])
    : Mirrors lines machine ({}, machine) [] {} machine where
  exporting := rfl
  writing := rfl
  distinct := List.nodup_nil
  covered := List.nil_subset _
  ascending := unused ▸ List.Pairwise.nil
  used := unused ▸ .refl _
  holds := Bench.text_empty ▸ complete
  settled := .refl machine
  owners := .refl _
  known _ member := absurd member List.not_mem_nil
  writable _ member := absurd member List.not_mem_nil
  apart := List.nodup_nil
  delays := ⟨[], [], by simp, by simp, rfl⟩

/-- A session on a bench on which nothing fails, and the same session on a machine on which nothing
fails and the control files are complete for all lines that are asked for: step by step they answer
alike with the same delays. After every step, and after the session, the machine hands out the lines
of the bench, and its files are those that the bench tells.
-/
theorem runs_agree (env : Environment) (steps : List Step)
    (small : ∀ line ∈ lines, line < lineCount) (plain : ∀ step ∈ steps, step.describes = false)
    (offers : Offers env lines ({}, {}) steps) (complete : Holds lines untouched machine)
    (unused : machine.used = [])
    : (Bench.run env (steps.map .step)).map
          (fun entry => (entry.reply, Events.delays entry.events))
        = (Machine.run env machine (steps.map .step)).map
          (fun report => (report.reply, Call.delays report.calls))
      ∧ (∀ before, before <+: steps
        → Shows lines machine (Bench.reach env ({}, {}) (before.map .step)).2
            (Sysfs.reach env ({}, machine) (before.map .step)).2)
      ∧ let onBench := Bench.reach env ({}, {}) (steps.map .step)
        let onMachine := Sysfs.reach env ({}, machine) (steps.map .step)
        Shows lines machine ((onBench.1.finish : StateM Bench Unit).run onBench.2).2
          ((onMachine.1.finish : StateM Machine Unit).run onMachine.2).2 := by
  have mirrors
      : Mirrors lines machine ({}, machine) ({} : Session (Unit × Nat)).lines {} machine :=
    .atStart complete unused
  refine ⟨mirrors.runs env small plain offers, ?_, ?_⟩
  · intro before both
    obtain ⟨rest, rfl⟩ := both
    have beginning (step : Step) (member : step ∈ before) : step.describes = false :=
      plain step (List.mem_append_left _ member)
    obtain ⟨next, _, _, kept⟩ := mirrors.reach env small beginning offers.left
    exact kept.toShows
  · intro onBench onMachine
    obtain ⟨next, left, right, kept⟩ := mirrors.reach env small plain offers
    obtain ⟨_, atEnd⟩ := (mirrors_coupling small machine _).finish next _ _ kept
    have benchSide : onBench.1 = next.left := left
    have machineSide : onMachine.1 = next.right := right
    rw [benchSide, machineSide]
    exact atEnd.toShows

/-- A display beside an output that is given back, written in vain and exported again, while a line of
the display is refused to others.
-/
def sampleSteps : List Step :=
  [.export 3, .init {} {} .recorded, .export 8, .write 0 true, .sendNibble 0 0 .data 0x04,
    .release 0, .write 0 false, .export 3, .disconnect 0]

/-- The session on a bench and on a freshly started machine. In the end the line of the output still has
the level that was written before it was given back.
-/
theorem runs_agree_on_fixture
    : let lines : List UInt32 := [3, 7, 8, 18, 23, 24, 25]
      let machine := Machine.prepare "gpio" true lines [] []
      let onBench := Bench.reach {} ({}, {}) (sampleSteps.map .step)
      (Bench.run {} (sampleSteps.map .step)).map
          (fun entry => (entry.reply, Events.delays entry.events))
        = (Machine.run {} machine (sampleSteps.map .step)).map
          (fun report => (report.reply, Call.delays report.calls))
      ∧ onBench.2.text (.direction 3) = "low"
      ∧ onBench.2.text (.value 3) = "1"
      ∧ Holds lines onBench.2.text (Sysfs.reach {} ({}, machine) (sampleSteps.map .step)).2 := by
  intro lines machine onBench
  have small : ∀ line ∈ lines, line < lineCount := by
    simp [lines, lineCount]
  have short : ∀ file ∈ controlFiles lines,
      (file.fullPath "gpio").utf8ByteSize < FileTree.pathLimit := by
    decide +kernel
  have complete : Holds lines untouched machine :=
    holds_prepare (by decide) (by decide +kernel)
      fun file covers => short file (mem_controlFiles.mpr covers)
  obtain ⟨alike, shown, _⟩ :=
    runs_agree {} sampleSteps small (by decide) (by decide +kernel) complete rfl
  exact ⟨alike, by decide +kernel, by decide +kernel, (shown _ List.prefix_rfl).holds⟩

end CharLcd

import CharLcd.Proofs.Bench.Ownership
import CharLcd.Proofs.Bench.Undoing
import CharLcd.Proofs.Ownership.Deeds

/-! Owners of different lines do not disturb each other on a bench.

What two of them do with their outputs and connections may be interleaved in any way, as long as
nobody acquires a line: each step answers the same and makes the same calls as if first the one and
then the other had taken all of its steps, and every line sees the same.
-/

namespace CharLcd

-----------------------------------------------------------------------------------------
-- Interleavings
-----------------------------------------------------------------------------------------

/-- The third list holds what the first two do, each in its own order. -/
inductive Interleaving {α : Type} : List α → List α → List α → Prop where
  | nil : Interleaving [] [] []
  | left {item : α} {first second merged : List α} :
      Interleaving first second merged → Interleaving (item :: first) second (item :: merged)
  | right {item : α} {first second merged : List α} :
      Interleaving first second merged → Interleaving first (item :: second) (item :: merged)

namespace Interleaving

variable {α : Type} {first second merged : List α}

/-- It does not matter which of the two lists comes first. -/
theorem symm (interleaving : Interleaving first second merged)
    : Interleaving second first merged := by
  induction interleaving with
  | nil => exact nil
  | left _ ih => exact right ih
  | right _ ih => exact left ih

theorem mem (interleaving : Interleaving first second merged) {item : α}
    (member : item ∈ merged)
    : item ∈ first ∨ item ∈ second := by
  induction interleaving with
  | nil => exact Or.inl member
  | left _ ih =>
      rcases List.mem_cons.mp member with rfl | later
      · exact Or.inl List.mem_cons_self
      · exact (ih later).imp_left (List.mem_cons_of_mem _)
  | right _ ih =>
      rcases List.mem_cons.mp member with rfl | later
      · exact Or.inr List.mem_cons_self
      · exact (ih later).imp_right (List.mem_cons_of_mem _)

/-- What holds of the first list alone tells it from the second one. -/
theorem filter_eq (interleaving : Interleaving first second merged) {p : α → Bool}
    (holds : ∀ item ∈ first, p item = true) (fails : ∀ item ∈ second, p item = false)
    : merged.filter p = first := by
  induction interleaving with
  | nil => rfl
  | left _ ih =>
      obtain ⟨head, rest⟩ := List.forall_mem_cons.mp holds
      rw [List.filter_cons_of_pos head, ih rest fails]
  | right _ ih =>
      obtain ⟨head, rest⟩ := List.forall_mem_cons.mp fails
      rw [List.filter_cons_of_neg (by simp [head]), ih holds rest]

/-- One list after the other is one way to interleave them. -/
theorem append (first second : List α) : Interleaving first second (first ++ second) := by
  induction first with
  | cons item rest ih => exact left ih
  | nil =>
      induction second with
      | nil => exact nil
      | cons item rest ih => exact right ih

end Interleaving

/-- Whether a step is about an output or connection in one of these slots. -/
def Step.within (owns : Slot → Bool) (step : Step) : Bool :=
  step.slot?.any owns

theorem Step.isSome_of_within {owns : Slot → Bool} {step : Step} (within : step.within owns = true)
    : step.slot?.isSome = true := by
  obtain ⟨slot, found, _⟩ := (Option.any_eq_true _ _).mp within
  rw [found, Option.isSome_some]

/-- A step in one of all other slots is in none of these. -/
theorem Step.within_of_besides {owns : Slot → Bool} {step : Step}
    (within : step.within (Slot.besides owns) = true)
    : step.within owns = false := by
  obtain ⟨slot, found, outside⟩ := (Option.any_eq_true _ _).mp within
  rw [Step.within, found, Option.any_some]
  exact (Bool.not_eq_true' _).mp outside

/-- Whether a line is written or released in an event. -/
def Event.uses (line : UInt32) : Event → Bool
  | .written number _ | .released number => number = line
  | _ => false

namespace Bench

-----------------------------------------------------------------------------------------
-- Two benches with the same failures
-----------------------------------------------------------------------------------------

/-- The same calls were made on both benches, and the same lines cannot be written there. -/
def Abreast (_ : List (Line (Unit × Unit))) (first second : Traced Bench Unit) : Prop :=
  first.calls = second.calls ∧ first.state.failingWrites = second.state.failingWrites

/-- Which lines cannot be written is all that answers depend on, except when lines are acquired. -/
theorem abreast_coupling
    : Coupling (σ := Traced Bench Unit) (τ := Traced Bench Unit) Abreast
        fun numbers _ => numbers = [] where
  perm _ abreast := abreast
  permitted_nil _ := rfl
  report := by
    intro owned numbers entry general s t both
    obtain ⟨⟨calls, failing⟩, none⟩ := both
    exact ⟨rfl, ⟨congrArg (· ++ [LineCall.noted entry]) calls, failing⟩, none⟩
  wait := by
    intro owned timer time s t abreast
    obtain ⟨calls, failing⟩ := abreast
    refine ⟨rfl, congrArg (· ++ [LineCall.waited timer time]) calls, ?_⟩
    cases timer <;> exact failing
  acquire := by
    intro owned number numbers s t both
    exact nomatch both.2
  write := by
    intro owned line level member s t abreast
    obtain ⟨calls, failing⟩ := abreast
    have answer : (write line.number level s.state).1 = (write line.number level t.state).1 := by
      unfold write
      rw [failing]
      split_ifs <;> rfl
    have kept (bench : Bench)
        : (write line.number level bench).2.failingWrites = bench.failingWrites := by
      unfold write
      split_ifs <;> rfl
    refine ⟨answer, ?_, ((kept _).trans failing).trans (kept _).symm⟩
    show s.calls ++ [.wrote line.left level (write line.number level s.state).1]
      = t.calls ++ [.wrote line.right level (write line.number level t.state).1]
    rw [calls, answer]
  release := by
    intro owned line s t abreast
    obtain ⟨calls, failing⟩ := abreast
    refine ⟨rfl, ?_, failing⟩
    show s.calls ++ [.released line.left (.ok ())] = t.calls ++ [.released line.right (.ok ())]
    rw [calls]

/-- Describing an output has no effect. -/
theorem describe_still (number : UInt32) (bench : Bench)
    : ((LineDriver.describe number : StateM Bench String).run bench).2 = bench :=
  rfl

/-- A step on what is there does the same on both benches, and leaves the same session. -/
theorem deed_abreast (env : Environment) (session : Session Unit) {step : Step} {slot : Slot}
    (about : step.slot? = some slot) {bench other : Bench}
    (same : bench.failingWrites = other.failingWrites)
    : session.deed env step bench = session.deed env step other
      ∧ (perform env (session, bench) (.step step)).2.1
        = (perform env (session, other) (.step step)).2.1 := by
  have left (bench : Bench) := (session.done env step bench describe_still).left
  cases described : step.describes with
  | false =>
      obtain ⟨reply, after, leftSide, rightSide, calls, _⟩ :=
        abreast_coupling.step env session.twice step described { state := bench }
          { state := other } ⟨⟨rfl, same⟩, step.asks_of_slot env about⟩
      rw [session.left_twice, session.right_twice] at *
      have sides : after.left = after.right := Session.map_congr fun _ _ => rfl
      constructor
      · exact congrArg₂ Deed.mk reply calls
      · exact (left bench).symm.trans (leftSide.trans (sides.trans (rightSide.symm.trans (left other))))
  | true =>
      cases step with
      | info slot =>
          constructor
          · unfold Session.deed
            simp only [Session.step, Session.onOutput]
            cases Session.occupant session.outputs slot <;> rfl
          · show ((session.onOutput slot _ : StateM Bench (Reply × Session Unit)).run bench).1.2
              = ((session.onOutput slot _ : StateM Bench (Reply × Session Unit)).run other).1.2
            unfold Session.onOutput
            cases Session.occupant session.outputs slot <;> rfl
      | _ => cases described

-----------------------------------------------------------------------------------------
-- Rows of steps
-----------------------------------------------------------------------------------------

/-- The steps of a row, each with what it does in its turn. -/
def deeds (env : Environment) : Session Unit × Bench → List Step → List (Step × Deed Unit)
  | _, [] => []
  | state, step :: rest =>
      (step, state.1.deed env step state.2)
        :: deeds env (perform env state (.step step)).2 rest

/-- The events that a deed leaves in the record. -/
def deedEvents (deed : Deed Unit) : List Event :=
  deed.calls.flatMap eventsOf

variable {env : Environment} {owns : Slot → Bool} {session : Session Unit} {bench other : Bench}
variable {steps : List Step}

/-- The lines that cannot be written are the same after any calls, by induction on these. -/
theorem failing_of_performs {calls : List (LineCall Unit)} {before after : Bench}
    (performs : Performs before calls after)
    : after.failingWrites = before.failingWrites := by
  induction calls generalizing before with
  | nil =>
      cases performs
      rfl
  | cons call rest ih =>
      obtain ⟨middle, happens, rests⟩ := performs
      rw [ih rests]
      cases effect_of_happens happens with
      | waited timer => cases timer <;> rfl
      | _ => rfl

theorem failing_step (step : Step)
    : (perform env (session, bench) (.step step)).2.2.failingWrites = bench.failingWrites :=
  failing_of_performs (session.done env step bench describe_still).performs

/-- The record grows by the events of the deeds, by induction on the steps. -/
theorem record_reach (env : Environment) (state : Session Unit × Bench) (steps : List Step)
    : (reach env state (steps.map .step)).2.events.toList
      = state.2.events.toList ++ (deeds env state steps).flatMap (deedEvents ∘ Prod.snd) := by
  induction steps generalizing state with
  | nil => exact (List.append_nil _).symm
  | cons step rest ih =>
      have grown := events_of_performs (state.1.done env step state.2 describe_still).performs
      refine (ih (perform env state (.step step)).2).trans ?_
      rw [deeds, List.flatMap_cons, ← List.append_assoc]
      exact congrArg (· ++ _) grown

/-- What the steps in some slots do, and what is left in these slots, is the same without the others:
also on another bench, if the same lines cannot be written there. By induction on the steps.
-/
theorem deeds_alone (about : ∀ step ∈ steps, step.slot?.isSome = true)
    (same : bench.failingWrites = other.failingWrites)
    : (deeds env (session, bench) steps).filter (fun entry => entry.1.within owns)
        = deeds env (session.only owns, other) (steps.filter (Step.within owns))
      ∧ (reach env (session, bench) (steps.map .step)).1.only owns
        = (reach env (session.only owns, other)
            ((steps.filter (Step.within owns)).map .step)).1 := by
  induction steps generalizing session bench other with
  | nil => exact ⟨rfl, rfl⟩
  | cons step rest ih =>
      obtain ⟨now, later⟩ := List.forall_mem_cons.mp about
      obtain ⟨slot, found⟩ := Option.isSome_iff_exists.mp now
      have asked : step.within owns = owns slot := by
        rw [Step.within, found, Option.any_some]
      cases inside : owns slot with
      | true =>
          have chosen := asked.trans inside
          have own : owns (session.slotOf step) = true := by
            rw [session.slotOf_eq found, inside]
          obtain ⟨deed, left⟩ := deed_abreast env (session.only owns) found same
          have moved
              : (perform env (session.only owns, other) (.step step)).2
                = ((perform env (session, bench) (.step step)).2.1.only owns,
                    (perform env (session.only owns, other) (.step step)).2.2) :=
            Prod.ext (left.symm.trans (congrArg (·.1.2) (session.run_only env step bench own))) rfl
          have failing
              : (perform env (session, bench) (.step step)).2.2.failingWrites
                = (perform env (session.only owns, other) (.step step)).2.2.failingWrites :=
            (failing_step step).trans (same.trans (failing_step step).symm)
          obtain ⟨tail, reached⟩ := @ih _ _ _ later failing
          rw [← moved] at tail reached
          simp only [deeds, List.filter_cons, chosen, if_true]
          rw [← deed, session.deed_only env step bench own]
          exact ⟨congrArg _ tail, reached⟩
      | false =>
          have passed := asked.trans inside
          have kept := session.only_step_elsewhere env found inside bench
          have failing
              : (perform env (session, bench) (.step step)).2.2.failingWrites
                = other.failingWrites :=
            (failing_step step).trans same
          obtain ⟨tail, reached⟩ := @ih _ _ _ later failing
          simp only [deeds, List.filter_cons, passed, Bool.false_eq_true, if_false]
          rw [← kept]
          exact ⟨tail, reached⟩

-----------------------------------------------------------------------------------------
-- The events of a line
-----------------------------------------------------------------------------------------

/-- A line that an event of a call uses is one that the call writes or releases. -/
theorem touched_of_uses {call : LineCall Unit} {event : Event} {number : UInt32}
    (member : event ∈ eventsOf call) (uses : event.uses number = true)
    : ∃ line, call.touched? = some line ∧ line.number = number := by
  cases records_of_mem member with
  | written line | released line => exact ⟨line, rfl, of_decide_eq_true uses⟩
  | exported | delayed => cases uses

/-- A step on what is there uses only lines in its own slot, and adds none to them. -/
theorem confined_deed (env : Environment) (session : Session Unit) (bench : Bench) {step : Step}
    {slot : Slot} (about : step.slot? = some slot) (inside : owns slot = true)
    : ((perform env (session, bench) (.step step)).2.1.only owns).lines
        ⊆ (session.only owns).lines
      ∧ ∀ event ∈ deedEvents (session.deed env step bench), ∀ number,
          event.uses number = true → number ∈ (session.only owns).lines.map Line.number := by
  have own : owns (session.slotOf step) = true := by
    rw [session.slotOf_eq about, inside]
  have ledger := session.ledger_only env step bench own describe_still
  rw [step.asks_of_slot env about] at ledger
  refine ⟨ledger.confined.1, fun event member number uses => ?_⟩
  obtain ⟨call, made, left⟩ := List.mem_flatMap.mp member
  obtain ⟨line, touched, rfl⟩ := touched_of_uses left uses
  exact List.mem_map_of_mem (ledger.confined.2 call made line touched)

/-- A line that is not in any other slots is used only by steps in these ones. By induction on the
steps.
-/
theorem events_of_line (about : ∀ step ∈ steps, step.slot?.isSome = true) {line : UInt32}
    (absent : line ∉ (session.only (Slot.besides owns)).lines.map Line.number)
    : ((deeds env (session, bench) steps).flatMap (deedEvents ∘ Prod.snd)).filter (Event.uses line)
      = (((deeds env (session, bench) steps).filter fun entry => entry.1.within owns).flatMap
          (deedEvents ∘ Prod.snd)).filter (Event.uses line) := by
  induction steps generalizing session bench with
  | nil => rfl
  | cons step rest ih =>
      obtain ⟨now, later⟩ := List.forall_mem_cons.mp about
      obtain ⟨slot, found⟩ := Option.isSome_iff_exists.mp now
      have asked : step.within owns = owns slot := by
        rw [Step.within, found, Option.any_some]
      cases inside : owns slot with
      | true =>
          have chosen := asked.trans inside
          have outside : Slot.besides owns slot = false := congrArg not inside
          have kept := session.only_step_elsewhere env found outside bench
          have tail := @ih _ (perform env (session, bench) (.step step)).2.2 later (kept ▸ absent)
          simp only [deeds, List.filter_cons, chosen, if_true, List.flatMap_cons,
            List.filter_append]
          exact congrArg _ tail
      | false =>
          have passed := asked.trans inside
          have outside : Slot.besides owns slot = true := congrArg not inside
          obtain ⟨fewer, own⟩ := confined_deed env session bench found outside
          have unused
              : (deedEvents (session.deed env step bench)).filter (Event.uses line) = [] := by
            apply List.filter_eq_nil_iff.mpr
            exact fun event member uses => absent (own event member line uses)
          have tail := @ih _ (perform env (session, bench) (.step step)).2.2 later
            fun inside => absent (List.map_subset _ fewer inside)
          simp only [deeds, List.filter_cons, passed, Bool.false_eq_true, if_false,
            List.flatMap_cons, List.filter_append, Function.comp_apply, unused, List.nil_append]
          exact tail

-----------------------------------------------------------------------------------------
-- One owner after the other
-----------------------------------------------------------------------------------------

/-- It makes no difference, from a state on, which of two rows of steps is taken: not for what the
steps in some slots do, nor for what those in all other slots do, and not for what is left.
-/
structure Indifferent (env : Environment) (owns : Slot → Bool) (start : Session Unit × Bench)
    (steps others : List Step)
    : Prop where
  /-- The steps in the slots give the same answers and make the same calls, also the same waits. -/
  inside : (deeds env start steps).filter (fun entry => entry.1.within owns)
    = (deeds env start others).filter fun entry => entry.1.within owns
  outside : (deeds env start steps).filter (fun entry => entry.1.within (Slot.besides owns))
    = (deeds env start others).filter fun entry => entry.1.within (Slot.besides owns)
  /-- All outputs and connections end up the same. -/
  session : (reach env start (steps.map .step)).1 = (reach env start (others.map .step)).1
  /-- The same lines are handed out. -/
  held : (reach env start (steps.map .step)).2.held.Perm
    (reach env start (others.map .step)).2.held
  /-- Every line is written and released alike. -/
  lines : ∀ line,
    (reach env start (steps.map .step)).2.events.toList.filter (Event.uses line)
    = (reach env start (others.map .step)).2.events.toList.filter (Event.uses line)

/-- If the lines are all owned, it makes no difference in which order two owners take their turns. -/
theorem indifferent_of_filter_eq {others : List Step} (owned : Owned session.lines bench)
    (about : ∀ step ∈ steps, step.slot?.isSome = true)
    (about' : ∀ step ∈ others, step.slot?.isSome = true)
    (inside : steps.filter (Step.within owns) = others.filter (Step.within owns))
    (outside
      : steps.filter (Step.within (Slot.besides owns))
        = others.filter (Step.within (Slot.besides owns)))
    : Indifferent env owns (session, bench) steps others := by
  have alone (owns : Slot → Bool)
      (same : steps.filter (Step.within owns) = others.filter (Step.within owns))
      : (deeds env (session, bench) steps).filter (fun entry => entry.1.within owns)
          = (deeds env (session, bench) others).filter (fun entry => entry.1.within owns)
        ∧ (reach env (session, bench) (steps.map .step)).1.only owns
          = (reach env (session, bench) (others.map .step)).1.only owns := by
    obtain ⟨first, left⟩ := deeds_alone about rfl
    obtain ⟨second, right⟩ := deeds_alone about' rfl
    rw [first, second, left, right, same]
    exact ⟨rfl, rfl⟩
  obtain ⟨mine, left⟩ := alone owns inside
  obtain ⟨theirs, right⟩ := alone (Slot.besides owns) outside
  have sessions := Session.eq_of_only left right
  refine ⟨mine, theirs, sessions, ?_, fun line => ?_⟩
  · have first := (@owned_reach env (session, bench) owned (steps.map .step)).1
    have second := (@owned_reach env (session, bench) owned (others.map .step)).1
    rw [← sessions] at second
    exact first.trans second.symm
  · have distinct := (session.lines_only_perm owns).map Line.number
    rw [List.map_append] at distinct
    have apart := (List.nodup_append.mp (distinct.nodup (owned.1.nodup owned.2))).2.2
    rw [record_reach, record_reach, List.filter_append, List.filter_append]
    congr 1
    by_cases ours : line ∈ (session.only owns).lines.map Line.number
    · have absent : line ∉ (session.only (Slot.besides owns)).lines.map Line.number :=
        fun theirs => apart _ ours _ theirs rfl
      rw [events_of_line about absent, events_of_line about' absent, mine]
    · have absent
          : line ∉ (session.only (Slot.besides (Slot.besides owns))).lines.map Line.number := by
        rwa [Slot.besides_besides]
      rw [events_of_line about absent, events_of_line about' absent, theirs]

/-- The same state, but for the lines that cannot be written. -/
def withFailing (state : Session Unit × Bench) (failing : List UInt32) : Session Unit × Bench :=
  (state.1, { state.2 with failingWrites := failing })

/-- In a session on a bench two owners may take steps on what is there in any order: it makes no
difference to any of their steps, nor to any line, nor to what is left, as if first the one and then
the other had taken all of its steps. The lines that cannot be written may be any.
-/
theorem interleaved_as_in_turn (env : Environment) (before : List Action) (failing : List UInt32)
    (owns : Slot → Bool) {first second merged : List Step}
    (ofFirst : ∀ step ∈ first, step.within owns = true)
    (ofSecond : ∀ step ∈ second, step.within (Slot.besides owns) = true)
    (interleaving : Interleaving first second merged)
    : Indifferent env owns (withFailing (reach env ({}, {}) before) failing) merged
        (first ++ second) := by
  let start := withFailing (reach env ({}, {}) before) failing
  have owned : Owned start.1.lines start.2 :=
    @owned_reach env ({}, {}) ⟨.refl _, List.nodup_nil⟩ before
  have inside {merged : List Step} (interleaving : Interleaving first second merged)
      : merged.filter (Step.within owns) = first := by
    refine interleaving.filter_eq ofFirst fun step member => ?_
    exact Step.within_of_besides (ofSecond step member)
  have outside {merged : List Step} (interleaving : Interleaving first second merged)
      : merged.filter (Step.within (Slot.besides owns)) = second := by
    refine interleaving.symm.filter_eq ofSecond fun step member => ?_
    rw [← Slot.besides_besides owns] at ofFirst
    exact Step.within_of_besides (ofFirst step member)
  have about {merged : List Step} (interleaving : Interleaving first second merged)
      : ∀ step ∈ merged, step.slot?.isSome = true := by
    intro step member
    rcases interleaving.mem member with mine | theirs
    · exact Step.isSome_of_within (ofFirst step mine)
    · exact Step.isSome_of_within (ofSecond step theirs)
  have inTurn := Interleaving.append first second
  apply indifferent_of_filter_eq owned (about interleaving) (about inTurn)
  · rw [inside interleaving, inside inTurn]
  · rw [outside interleaving, outside inTurn]

/-- An output is written and released between the steps of a display, on a bench where the register
select of the display cannot be written any more.
-/
theorem interleaved_as_in_turn_output_and_display
    : let before : List Action := [.step (.export 17), .step (.init {} {} .recorded)]
      let owns (slot : Slot) : Bool := slot = .output 0
      let first : List Step := [.write 0 true, .release 0]
      let second : List Step := [.display 0 .clear, .display 0 (.pause 40), .disconnect 0]
      let merged : List Step :=
        [.display 0 .clear, .write 0 true, .display 0 (.pause 40), .release 0, .disconnect 0]
      (∀ step ∈ first, step.within owns = true)
      ∧ (∀ step ∈ second, step.within (Slot.besides owns) = true)
      ∧ Interleaving first second merged
      ∧ Indifferent {} owns (withFailing (reach {} ({}, {}) before) [7]) merged
        (first ++ second) := by
  intro before owns first second merged
  have ofFirst : ∀ step ∈ first, step.within owns = true := by decide
  have ofSecond : ∀ step ∈ second, step.within (Slot.besides owns) = true := by decide
  have interleaving : Interleaving first second merged :=
    .right (.left (.right (.left (.right .nil))))
  refine ⟨ofFirst, ofSecond, interleaving, ?_⟩
  exact interleaved_as_in_turn {} before [7] owns ofFirst ofSecond interleaving

end Bench

end CharLcd

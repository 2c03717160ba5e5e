import CharLcd.Bench.Basic
import CharLcd.Proofs.Setup.Rollback
import Mathlib.Tactic.SplitIfs

/-! What the calls of a set-up do to a bench, and that a failed one is undone there. -/

namespace CharLcd.Bench

open LineCall

-----------------------------------------------------------------------------------------
-- Single calls
-----------------------------------------------------------------------------------------

/-- What a call does to a bench. -/
inductive Effect (before : Bench) : LineCall Unit → Bench → Prop where
  | acquired {number : UInt32} :
      number ∉ before.held
      → Effect before (.acquired number (.ok ()))
          ({ before with held := number :: before.held }.record (.exported number))
  | refused (number : UInt32) (cause : GpioError) :
      Effect before (.acquired number (.error cause)) before
  | wrote (line : Line Unit) (level : Bool) :
      Effect before (.wrote line level (.ok ())) (before.record (.written line.number level))
  | unwritten (line : Line Unit) (level : Bool) (cause : GpioError) :
      Effect before (.wrote line level (.error cause)) before
  | released (line : Line Unit) (answer : Except GpioError Unit) :
      Effect before (.released line answer) (release line.number before)
  | waited (timer : Timer) (time : UInt32) :
      Effect before (.waited timer time) (wait timer time before)
  | noted (entry : Note) :
      Effect before (.noted entry) { before with notes := before.notes.push entry }

theorem effect_of_happens {call : LineCall Unit} {before after : Bench}
    (happens : call.Happens before after)
    : Effect before call after := by
  cases call with
  | acquired number answer =>
      have acts : acquire number before = (answer, after) := happens
      unfold acquire at acts
      split_ifs at acts with fails held
      · cases acts
        exact .refused _ _
      · cases acts
        exact .refused _ _
      · cases acts
        exact .acquired held
  | wrote line level answer =>
      have acts : write line.number level before = (answer, after) := happens
      unfold write at acts
      split_ifs at acts with fails
      · cases acts
        exact .unwritten _ _ _
      · cases acts
        exact .wrote _ _
  | released line answer =>
      cases happens
      exact .released _ _
  | waited timer time =>
      cases happens
      exact .waited _ _
  | noted entry =>
      cases happens
      exact .noted _

/-- The events that a call leaves in the record. -/
def eventsOf : LineCall Unit → List Event
  | .acquired number (.ok _) => [.exported number]
  | .wrote line level (.ok _) => [.written line.number level]
  | .released line _ => [.released line.number]
  | .waited .recorded time => [.delayed time]
  | _ => []

/-- A call of each kind that leaves an event in the record, with that event. -/
inductive Records : LineCall Unit → Event → Prop
  | exported (number : UInt32) (handle : Unit)
      : Records (.acquired number (.ok handle)) (.exported number)
  | written (line : Line Unit) (level : Bool)
      : Records (.wrote line level (.ok ())) (.written line.number level)
  | released (line : Line Unit) (answer : Except GpioError Unit)
      : Records (.released line answer) (.released line.number)
  | delayed (time : UInt32) : Records (.waited .recorded time) (.delayed time)

/-- What a call leaves in the record is of its kind. By cases on the call and what came of it. -/
theorem records_of_mem {call : LineCall Unit} {event : Event} (member : event ∈ eventsOf call)
    : Records call event := by
  cases call with
  | acquired number answer =>
      cases answer with
      | error cause => cases member
      | ok handle =>
          cases List.mem_singleton.mp member
          exact .exported number handle
  | wrote line level answer =>
      cases answer with
      | error cause => cases member
      | ok =>
          cases List.mem_singleton.mp member
          exact .written line level
  | released line answer =>
      cases List.mem_singleton.mp member
      exact .released line answer
  | waited timer time =>
      cases timer with
      | recorded =>
          cases List.mem_singleton.mp member
          exact .delayed time
      | unrecorded => cases member
  | noted entry => cases member

theorem Effect.events {call : LineCall Unit} {before after : Bench}
    (effect : Effect before call after)
    : after.events.toList = before.events.toList ++ eventsOf call := by
  cases effect with
  | waited timer time =>
      cases timer with
      | recorded => exact Array.toList_push
      | unrecorded => exact (List.append_nil _).symm
  | acquired => exact Array.toList_push
  | wrote => exact Array.toList_push
  | released => exact Array.toList_push
  | _ => exact (List.append_nil _).symm

-----------------------------------------------------------------------------------------
-- Rows of calls
-----------------------------------------------------------------------------------------

variable {before middle after : Bench} {calls : List (LineCall Unit)}
variable {owned lines : List (Line Unit)}

/-- The record grows by the events of the calls, by induction on these. -/
theorem events_of_performs (performs : Performs before calls after)
    : after.events.toList = before.events.toList ++ calls.flatMap eventsOf := by
  induction calls generalizing before with
  | nil =>
      cases performs
      exact (List.append_nil _).symm
  | cons call rest ih =>
      obtain ⟨middle, happens, rests⟩ := performs
      rw [ih rests, (effect_of_happens happens).events, List.flatMap_cons, List.append_assoc]

/-- Lines that are acquired were free, and are handed out afterwards, the latest first. By induction
on the calls.
-/
theorem held_of_works (performs : Performs before calls after) (works : Works owned calls)
    : after.held = ((taken calls).map Line.number).reverse ++ before.held
      ∧ ((taken calls).map Line.number).Nodup
      ∧ ∀ number ∈ (taken calls).map Line.number, number ∉ before.held := by
  induction calls generalizing owned before with
  | nil =>
      cases performs
      exact ⟨rfl, List.nodup_nil, fun _ member => absurd member List.not_mem_nil⟩
  | cons call rest ih =>
      obtain ⟨middle, happens, rests⟩ := performs
      cases effect_of_happens happens with
      | acquired free =>
          obtain ⟨held, distinct, others⟩ := ih rests works
          refine ⟨?_, List.nodup_cons.mpr ⟨?_, distinct⟩, List.forall_mem_cons.mpr ⟨free, ?_⟩⟩
          · simpa [Bench.record] using held
          · exact fun again => others _ again List.mem_cons_self
          · exact fun number member old => others number member (List.mem_cons_of_mem _ old)
      | refused => exact ih rests works
      | wrote =>
          have kept := ih rests works.2
          exact kept
      | unwritten => exact ih rests works.2
      | released => exact works.elim
      | waited timer =>
          have kept := ih rests works
          cases timer <;> exact kept
      | noted =>
          have kept := ih rests works
          exact kept

/-- Calls that acquire and write lines leave the exports of the lines that they acquired, no release,
and writes to lines that are owned. By induction on the calls.
-/
theorem events_of_works (works : Works owned calls)
    : Events.exports (calls.flatMap eventsOf) = (taken calls).map Line.number
      ∧ Events.releases (calls.flatMap eventsOf) = []
      ∧ ∀ entry ∈ Events.writes (calls.flatMap eventsOf),
          entry.1 ∈ (taken calls ++ owned).map Line.number := by
  induction calls generalizing owned with
  | nil => exact ⟨rfl, rfl, fun _ member => absurd member List.not_mem_nil⟩
  | cons call rest ih =>
      cases call with
      | acquired number answer =>
          cases answer with
          | error cause => exact ih works
          | ok handle =>
              obtain ⟨exports, releases, writes⟩ := ih works
              refine ⟨congrArg (number :: ·) exports, releases, fun entry member => ?_⟩
              have inside := writes entry member
              simp only [taken_acquired, List.map_append, List.map_cons, List.mem_append,
                List.mem_cons] at inside ⊢
              tauto
      | wrote line level answer =>
          obtain ⟨exports, releases, writes⟩ := ih works.2
          cases answer with
          | error cause => exact ⟨exports, releases, writes⟩
          | ok =>
              refine ⟨exports, releases, List.forall_mem_cons.mpr ⟨?_, writes⟩⟩
              exact List.mem_map_of_mem (List.mem_append_right _ works.1)
      | released line answer => exact works.elim
      | waited timer time => cases timer <;> exact ih works
      | noted entry => exact ih works

/-- Lines that are given back are no longer handed out, and the record says so. By induction on the
calls.
-/
theorem held_of_givesBack (performs : Performs before calls after)
    (givesBack : GivesBack lines calls)
    : calls.flatMap eventsOf = lines.map (Event.released ∘ Line.number)
      ∧ after.held = before.held.filter fun number => number ∉ lines.map Line.number := by
  induction calls generalizing before lines with
  | nil =>
      cases performs
      obtain ⟨rfl, _⟩ := givesBack
      exact ⟨rfl, by simp [returned]⟩
  | cons call rest ih =>
      obtain ⟨middle, happens, rests⟩ := performs
      obtain ⟨rfl, restoring⟩ := givesBack
      obtain ⟨restores, others⟩ := List.forall_mem_cons.mp restoring
      obtain ⟨events, held⟩ := ih rests ⟨rfl, others⟩
      cases effect_of_happens happens with
      | released line =>
          refine ⟨congrArg (Event.released line.number :: ·) events, held.trans ?_⟩
          exact filter_filter_notMem line.number _ _
      | noted => exact ⟨events, held⟩
      | _ => cases restores

-----------------------------------------------------------------------------------------
-- Undone work
-----------------------------------------------------------------------------------------

/-- A bench on which `lines` were acquired in this order, and then released, the last one first. They
were all free before; until the releases nothing was released, and no other line was written.
-/
structure Undone (before after : Bench) (lines : List UInt32) : Prop where
  held : after.held = before.held
  distinct : lines.Nodup
  free : ∀ line ∈ lines, line ∉ before.held
  record : ∃ log : List Event,
    after.events.toList = before.events.toList ++ (log ++ lines.reverse.map .released)
    ∧ Events.exports log = lines ∧ Events.releases log = []
    ∧ ∀ entry ∈ Events.writes log, entry.1 ∈ lines

/-- What was acquired and is given back is undone. -/
theorem undone_of_performs {work undo : List (LineCall Unit)}
    (performs : Performs before (work ++ undo) after) (works : Works [] work)
    (givesBack : GivesBack (taken work).reverse undo)
    : Undone before after ((taken work).map Line.number) := by
  obtain ⟨middle, working, undoing⟩ := performs.split
  obtain ⟨acquired, distinct, free⟩ := held_of_works working works
  obtain ⟨exports, releases, writes⟩ := events_of_works works
  obtain ⟨released, held⟩ := held_of_givesBack undoing givesBack
  refine ⟨?_, distinct, free, work.flatMap eventsOf, ?_, exports, releases, ?_⟩
  · rw [held, acquired, List.filter_append, List.filter_eq_nil_iff.mpr, List.nil_append]
    · apply List.filter_eq_self.mpr
      intro number member
      simp only [List.map_reverse, List.mem_reverse, decide_eq_true_eq]
      exact fun taken => free number taken member
    · intro number member
      simpa using member
  · rw [events_of_performs performs, List.flatMap_append, released]
    simp
  · simpa using writes

end CharLcd.Bench

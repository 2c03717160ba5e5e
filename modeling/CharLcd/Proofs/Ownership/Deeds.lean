import CharLcd.Proofs.Ownership.Keeper
import CharLcd.Proofs.Ownership.Slots
import CharLcd.Proofs.Setup.Tracing

/-! What a step of a session does: its answer, and the calls that it makes to the driver.

The calls of a step can be followed with an account of the lines that are owned. A step acquires only
lines that it asks for, and writes and releases only lines that it owns at that time: those of the
output or connection that it is about, and those that it has acquired itself.
-/

namespace CharLcd

variable {σ ω : Type}

-----------------------------------------------------------------------------------------
-- Calls with an account of the lines that are owned
-----------------------------------------------------------------------------------------

/-- Calls that start from the lines `start` and lead to other ones. Only numbers in `asks` are asked
for, and only owned lines are written or released.
-/
inductive Ledger (asks : List UInt32) (start : List (Line ω))
    : List (LineCall ω) → List (Line ω) → Prop where
  | nothing : Ledger asks start [] start
  | perm {calls : List (LineCall ω)} {owned others : List (Line ω)} :
      Ledger asks start calls owned → owned.Perm others → Ledger asks start calls others
  | acquired {calls : List (LineCall ω)} {owned : List (Line ω)} {number : UInt32} {handle : ω} :
      Ledger asks start calls owned
      → number ∈ asks
      → Ledger asks start (calls ++ [.acquired number (.ok handle)]) (⟨number, handle⟩ :: owned)
  | refused {calls : List (LineCall ω)} {owned : List (Line ω)} {number : UInt32}
      {cause : GpioError} :
      Ledger asks start calls owned
      → number ∈ asks
      → Ledger asks start (calls ++ [.acquired number (.error cause)]) owned
  | wrote {calls : List (LineCall ω)} {owned : List (Line ω)} {line : Line ω} {level : Bool}
      {answer : Except GpioError Unit} :
      Ledger asks start calls owned
      → line ∈ owned
      → Ledger asks start (calls ++ [.wrote line level answer]) owned
  | released {calls : List (LineCall ω)} {owned : List (Line ω)} {line : Line ω}
      {answer : Except GpioError Unit} :
      Ledger asks start calls (line :: owned)
      → Ledger asks start (calls ++ [.released line answer]) owned
  | waited {calls : List (LineCall ω)} {owned : List (Line ω)} {timer : Timer} {time : UInt32} :
      Ledger asks start calls owned
      → Ledger asks start (calls ++ [.waited timer time]) owned
  | noted {calls : List (LineCall ω)} {owned : List (Line ω)} {entry : Note} :
      Ledger asks start calls owned
      → entry.ofDriver = false
      → Ledger asks start (calls ++ [.noted entry]) owned

namespace Ledger

variable {asks : List UInt32} {start owned : List (Line ω)} {calls : List (LineCall ω)}

/-- What holds of a line that is owned at first, and of one with a number that is asked for, holds of
every line that is owned at the end, and of every line that is written or released on the way. By
induction on the calls.
-/
theorem always {P : Line ω → Prop} (ledger : Ledger asks start calls owned)
    (first : ∀ line ∈ start, P line) (asked : ∀ line : Line ω, line.number ∈ asks → P line)
    : (∀ line ∈ owned, P line) ∧ ∀ call ∈ calls, ∀ line, call.touched? = some line → P line := by
  have later {calls : List (LineCall ω)} {last : LineCall ω}
      (before : ∀ call ∈ calls, ∀ line, call.touched? = some line → P line)
      (now : ∀ line, last.touched? = some line → P line)
      : ∀ call ∈ calls ++ [last], ∀ line, call.touched? = some line → P line := by
    intro call member
    rcases List.mem_append.mp member with earlier | latest
    · exact before call earlier
    · exact List.mem_singleton.mp latest ▸ now
  induction ledger with
  | nothing => exact ⟨first, fun _ member => absurd member List.not_mem_nil⟩
  | perm _ perm ih => exact ⟨fun line member => ih.1 line (perm.symm.subset member), ih.2⟩
  | acquired _ asking ih =>
      exact ⟨List.forall_mem_cons.mpr ⟨asked _ asking, ih.1⟩, later ih.2 nofun⟩
  | refused _ _ ih => exact ⟨ih.1, later ih.2 nofun⟩
  | wrote _ own ih =>
      refine ⟨ih.1, later ih.2 fun line same => ?_⟩
      cases same
      exact ih.1 _ own
  | released _ ih =>
      obtain ⟨own, others⟩ := List.forall_mem_cons.mp ih.1
      refine ⟨others, later ih.2 fun line same => ?_⟩
      cases same
      exact own
  | waited _ ih => exact ⟨ih.1, later ih.2 nofun⟩
  | noted _ _ ih => exact ⟨ih.1, later ih.2 nofun⟩

/-- If nothing is asked for, the lines that are owned get fewer, and no other ones are written or
released.
-/
theorem confined (ledger : Ledger [] start calls owned)
    : owned ⊆ start ∧ ∀ call ∈ calls, ∀ line, call.touched? = some line → line ∈ start :=
  ledger.always (fun _ member => member) fun _ asked => absurd asked List.not_mem_nil

/-- Only what is asked for is acquired, or refused. By induction on the calls. -/
theorem asked (ledger : Ledger asks start calls owned) {number : UInt32}
    {answer : Except GpioError ω} (member : .acquired number answer ∈ calls)
    : number ∈ asks := by
  induction ledger with
  | nothing => exact absurd member List.not_mem_nil
  | perm _ _ ih => exact ih member
  | acquired _ asking ih | refused _ asking ih =>
      rcases List.mem_append.mp member with earlier | latest
      · exact ih earlier
      · cases List.mem_singleton.mp latest
        exact asking
  | wrote _ _ ih | released _ ih | waited _ ih | noted _ _ ih =>
      rcases List.mem_append.mp member with earlier | latest
      · exact ih earlier
      · cases List.mem_singleton.mp latest

/-- Every call about a line is about one that is owned at first, or one that is asked for. -/
theorem known (ledger : Ledger asks start calls owned) {call : LineCall ω} (member : call ∈ calls)
    {number : UInt32} (about : call.number? = some number)
    : number ∈ start.map Line.number ∨ number ∈ asks := by
  have touched := (ledger.always (P := fun line =>
    line.number ∈ start.map Line.number ∨ line.number ∈ asks)
    (fun _ first => Or.inl (List.mem_map_of_mem first)) fun _ => Or.inr).2 call member
  cases call with
  | acquired number answer =>
      cases about
      exact Or.inr (ledger.asked member)
  | wrote line level answer =>
      cases about
      exact touched line rfl
  | released line answer =>
      cases about
      exact touched line rfl
  | waited | noted => cases about

/-- If nothing is asked for, a line is still owned, or was released. By induction on the calls. -/
theorem balance (ledger : Ledger [] start calls owned)
    : owned.length + (LineCall.returned calls).length = start.length := by
  induction ledger with
  | nothing => rfl
  | perm _ perm ih => rw [← perm.length_eq, ih]
  | acquired _ asking => exact absurd asking List.not_mem_nil
  | refused _ asking => exact absurd asking List.not_mem_nil
  | released _ ih =>
      rw [← ih, LineCall.returned_append, List.length_append, List.length_cons, Nat.add_assoc,
        Nat.add_comm 1]
      rfl
  | wrote _ _ ih | waited _ ih | noted _ _ ih =>
      rw [← ih, LineCall.returned_append]
      exact congrArg (_ + List.length ·) (List.append_nil _)

end Ledger

-----------------------------------------------------------------------------------------
-- What a step asks for
-----------------------------------------------------------------------------------------

/-- A step on what is there asks for no line. -/
theorem Step.asks_of_slot (env : Environment) {step : Step} {slot : Slot}
    (about : step.slot? = some slot)
    : step.asks env = [] := by
  cases step <;> first | rfl | cases about

variable [Journal (StateM σ)] [Clock (StateM σ)] [LineDriver (StateM σ) ω]

/-- A step that rejects the number of a signal asks for no line. -/
theorem Step.asks_of_invalidPin (env : Environment) (session : Session ω) {step : Step}
    {signal : Signal} {value : Int64} (sets : step.setup? env ≠ none) {s : σ}
    (rejected
      : ((session.step env step : StateM σ (Reply × Session ω)).run s).1.1
        = .rejected (.invalidPin signal value))
    : step.asks env = [] := by
  have failed {result : Except ConnectionError (Connection ω)}
      (rejected : (session.enroll result).1 = .rejected (.invalidPin signal value))
      : result = .error (.invalidPin signal value) := by
    cases result with
    | error error =>
        cases rejected
        rfl
    | ok connection => cases rejected
  cases step with
  | init config options timer =>
      have none := wiring_of_invalidPin (failed rejected)
      simp only [asks, setup?, Option.map_some, Option.getD_some, PinConfig.asks, none]
  | connect source options timer =>
      have none := wiring_of_invalidPin (failed rejected)
      simp only [asks, setup?, Option.map_some, Option.getD_some, PinConfig.asks, none]
  | _ => exact absurd rfl sets

-----------------------------------------------------------------------------------------
-- The deeds of a session
-----------------------------------------------------------------------------------------

/-- What a step answers, and the calls that it makes: acquisitions, writes, releases, waits and notes,
each with its answer.
-/
structure Deed (ω : Type) where
  reply : Reply
  calls : List (LineCall ω)

/-- What a step does in a session, from a state of the driver on. -/
def Session.deed (env : Environment) (session : Session ω) (step : Step) (s : σ) : Deed ω :=
  let outcome := (session.step env step : StateM (Traced σ ω) (Reply × Session ω)).run { state := s }
  { reply := outcome.1.1, calls := outcome.2.calls }

namespace Traced

/-- The driver is in the same state on both sides, and the calls listed have led it there from
`origin`, with an account of the lines that are owned.
-/
structure Led (asks : List UInt32) (start : List (Line ω)) (origin : σ)
    (owned : List (Line (ω × ω))) (traced : Traced σ ω) (state : σ)
    : Prop where
  same : traced.state = state
  twice : ∀ line ∈ owned, line.left = line.right
  performs : Performs origin traced.calls state
  ledger : Ledger asks start traced.calls (owned.map Line.left)

variable {asks : List UInt32} {start : List (Line ω)} {origin : σ}

/-- A call more has led the driver on, if the account allows for it. -/
theorem Led.onward {owned others : List (Line (ω × ω))} {traced : Traced σ ω} {state after : σ}
    {call : LineCall ω} (led : Led asks start origin owned traced state)
    (happens : call.Happens traced.state after) (twice : ∀ line ∈ others, line.left = line.right)
    (ledger : Ledger asks start (traced.calls ++ [call]) (others.map Line.left))
    : Led asks start origin others { state := after, calls := traced.calls ++ [call] } after where
  same := rfl
  twice := twice
  performs := led.performs.append (.single (led.same ▸ happens))
  ledger := ledger

/-- A driver answers alike with and without the list, and the list keeps the account. -/
theorem led_coupling
    : Coupling (σ := Traced σ ω) (τ := σ) (Led asks start origin)
        fun numbers _ => numbers ⊆ asks where
  perm perm led :=
    ⟨led.same, fun line member => led.twice line (perm.symm.subset member), led.performs,
      led.ledger.perm (perm.map _)⟩
  permitted_nil _ := List.nil_subset _
  report := by
    intro owned numbers entry general s _ both
    obtain ⟨⟨rfl, twice, performs, ledger⟩, permitted⟩ := both
    exact ⟨rfl, Led.onward ⟨rfl, twice, performs, ledger⟩ rfl twice (ledger.noted general), permitted⟩
  wait := by
    intro owned timer time s _ led
    obtain ⟨rfl, twice, performs, ledger⟩ := led
    exact ⟨rfl, Led.onward ⟨rfl, twice, performs, ledger⟩ rfl twice ledger.waited⟩
  acquire := by
    intro owned number numbers s _ both
    obtain ⟨⟨rfl, twice, performs, ledger⟩, permitted⟩ := both
    obtain ⟨asked, rest⟩ := List.cons_subset.mp permitted
    have passed
        : (LineDriver.acquire number : StateM (Traced σ ω) (Except GpioError ω)).run s
          = (pass (LineDriver.acquire number) (.acquired number)).run s :=
      rfl
    rw [passed]
    simp only [pass, StateT.run]
    rcases answered : (LineDriver.acquire number : StateM σ (Except GpioError ω)) s.state
      with ⟨cause | handle, after⟩
    · exact ⟨rfl, Led.onward ⟨rfl, twice, performs, ledger⟩ answered twice (ledger.refused asked)⟩
    · exact ⟨Led.onward ⟨rfl, twice, performs, ledger⟩ answered
        (List.forall_mem_cons.mpr ⟨rfl, twice⟩) (ledger.acquired asked), rest⟩
  write := by
    intro owned line level member s _ led
    obtain ⟨rfl, twice, performs, ledger⟩ := led
    rw [← twice line member]
    exact ⟨rfl, Led.onward ⟨rfl, twice, performs, ledger⟩ rfl twice
      (ledger.wrote (List.mem_map_of_mem member))⟩
  release := by
    intro owned line s _ led
    obtain ⟨rfl, twice, performs, ledger⟩ := led
    rw [← twice line List.mem_cons_self]
    exact ⟨rfl, Led.onward ⟨rfl, twice, performs, ledger⟩ rfl
      (fun line member => twice line (List.mem_cons_of_mem _ member)) ledger.released⟩

end Traced

/-- The deed of a step is what the step really does: its answer, with the same session left, and calls
that lead the driver to where the step does, with an account of the lines of the session.
-/
structure Session.Done (env : Environment) (session : Session ω) (step : Step) (s : σ) : Prop where
  reply : (session.deed env step s).reply
    = ((session.step env step : StateM σ (Reply × Session ω)).run s).1.1
  left : ((session.step env step : StateM (Traced σ ω) (Reply × Session ω)).run { state := s }).1.2
    = ((session.step env step : StateM σ (Reply × Session ω)).run s).1.2
  performs : Performs s (session.deed env step s).calls
    ((session.step env step : StateM σ (Reply × Session ω)).run s).2
  ledger : Ledger (step.asks env) session.lines (session.deed env step s).calls
    ((session.step env step : StateM σ (Reply × Session ω)).run s).1.2.lines

/-- Every step is done by its deed, on a driver that can describe an output without any effect. -/
theorem Session.done (env : Environment) (session : Session ω) (step : Step) (s : σ)
    (still
      : ∀ (number : UInt32) (s : σ),
          ((LineDriver.describe number : StateM σ String).run s).2 = s)
    : session.Done env step s := by
  cases described : step.describes with
  | false =>
      have own : session.twice.lines.map Line.left = session.lines := by
        rw [← Session.lines_map]
        exact congrArg Session.lines session.left_twice
      have led : Traced.Led (step.asks env) session.lines s session.twice.lines { state := s } s :=
        ⟨rfl, session.lines_twice, rfl, own.symm ▸ .nothing⟩
      obtain ⟨reply, after, leftSide, rightSide, left⟩ :=
        Traced.led_coupling.step env session.twice step described _ _ ⟨led, List.Subset.refl _⟩
      rw [session.left_twice, session.right_twice] at *
      have sides : after.left = after.right := Session.map_congr left.twice
      refine ⟨reply, leftSide.trans (sides.trans rightSide.symm), left.performs, ?_⟩
      rw [rightSide, ← sides, Session.lines_map]
      exact left.ledger
  | true =>
      cases step with
      | info slot =>
          cases present : occupant session.outputs slot with
          | none =>
              constructor <;> simp only [deed, Session.step, onOutput, present]
              · rfl
              · rfl
              · rfl
              · exact .nothing
          | some output =>
              constructor <;> simp only [deed, Session.step, onOutput, present]
              · rfl
              · rfl
              · exact still _ _
              · exact .nothing
      | _ => cases described

/-- What a driver keeps is kept by calls with an account of the lines, while others own theirs. By
induction on the calls.
-/
theorem Keeper.performs {Inv : List (Line ω) → σ → Prop} (keeper : Keeper Inv) {asks : List UInt32}
    {start owned others : List (Line ω)} {calls : List (LineCall ω)} {before after : σ}
    (ledger : Ledger asks start calls owned) (performs : Performs before calls after)
    (holds : Inv (start ++ others) before)
    : Inv (owned ++ others) after := by
  induction ledger generalizing after with
  | nothing =>
      cases performs
      exact holds
  | perm _ perm ih => exact keeper.perm (perm.append_right others) (ih performs)
  | @acquired _ _ number _ _ _ ih | @refused _ _ number _ _ _ ih =>
      obtain ⟨middle, first, happens⟩ := performs.concat
      have kept := keeper.acquire number (ih first)
      rw [LineCall.Happens] at happens
      rw [happens] at kept
      exact kept
  | @wrote _ _ line level _ _ own ih =>
      obtain ⟨middle, first, happens⟩ := performs.concat
      have kept := keeper.write level (List.mem_append_left others own) (ih first)
      rw [LineCall.Happens] at happens
      rwa [happens] at kept
  | released _ ih =>
      obtain ⟨middle, first, happens⟩ := performs.concat
      have kept := keeper.release (ih first)
      rw [LineCall.Happens] at happens
      rwa [happens] at kept
  | @waited _ _ timer time _ ih =>
      obtain ⟨middle, first, happens⟩ := performs.concat
      have kept := keeper.wait timer time (ih first)
      rw [LineCall.Happens] at happens
      rwa [happens] at kept
  | noted _ general ih =>
      obtain ⟨middle, first, happens⟩ := performs.concat
      have kept := keeper.report general (ih first)
      rw [LineCall.Happens] at happens
      rwa [happens] at kept

section Only

variable {keep : Slot → Bool} (env : Environment) (session : Session ω) (step : Step) (s : σ)

/-- What is elsewhere may be left out before a step or after it. -/
theorem Session.run_only (inside : keep (session.slotOf step) = true)
    : ((session.only keep).step env step : StateM σ (Reply × Session ω)).run s
      = (onlyAfter keep ((session.step env step : StateM σ (Reply × Session ω)).run s).1,
          ((session.step env step : StateM σ (Reply × Session ω)).run s).2) := by
  rw [session.step_only env step inside]
  rfl

/-- A step does the same whatever is elsewhere. -/
theorem Session.deed_only (inside : keep (session.slotOf step) = true)
    : (session.only keep).deed env step s = session.deed env step s := by
  unfold deed
  rw [session.run_only env step _ inside]
  rfl

/-- The account of a step is one of the lines in its own slot alone. -/
theorem Session.ledger_only (inside : keep (session.slotOf step) = true)
    (still
      : ∀ (number : UInt32) (s : σ),
          ((LineDriver.describe number : StateM σ String).run s).2 = s)
    : Ledger (step.asks env) (session.only keep).lines (session.deed env step s).calls
        (((session.step env step : StateM σ (Reply × Session ω)).run s).1.2.only keep).lines := by
  have own := ((session.only keep).done env step s still).ledger
  rw [session.run_only env step s inside, session.deed_only env step s inside] at own
  exact own

end Only

/-- The account of a step is one of the lines in the slot that the step is about. -/
theorem Session.ledger_linesIn (env : Environment) (session : Session ω) (step : Step) (s : σ)
    (still
      : ∀ (number : UInt32) (s : σ),
          ((LineDriver.describe number : StateM σ String).run s).2 = s)
    : Ledger (step.asks env) (session.linesIn (session.slotOf step)) (session.deed env step s).calls
        (((session.step env step : StateM σ (Reply × Session ω)).run s).1.2.linesIn
          (session.slotOf step)) := by
  rw [← lines_only_single, ← lines_only_single]
  exact session.ledger_only env step s (beq_self_eq_true _) still

end CharLcd

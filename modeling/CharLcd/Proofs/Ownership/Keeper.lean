import CharLcd.Proofs.Coupling.Session

/-! Invariants of a single driver that speak of the lines that are owned.

If acquiring a line adds it to those owned, releasing takes it away and whatever else a driver
offers leaves them as they are, then every program over lines keeps that account. This is the case
of two drivers side by side in which both are the same one, in the same state.
-/

namespace CharLcd

variable {σ ω : Type}

/-- The same state on both sides, and the same handles, with an invariant of that state. -/
def Doubled (Inv : List (Line ω) → σ → Prop) (owned : List (Line (ω × ω))) (s t : σ) : Prop :=
  s = t ∧ (∀ line ∈ owned, line.left = line.right) ∧ Inv (owned.map Line.left) s

/-- A line under its handle twice. -/
abbrev Line.twice (line : Line ω) : Line (ω × ω) :=
  line.map fun handle => (handle, handle)

/-- A session under its handles twice. -/
abbrev Session.twice (session : Session ω) : Session (ω × ω) :=
  session.map fun handle => (handle, handle)

/-- A session is the first side of itself under its handles twice, place by place. -/
theorem Session.left_twice (session : Session ω) : session.twice.left = session := by
  have line : (fun line : Line ω => line.twice.left) = id := rfl
  have output (output : Output ω)
      : (output.map fun handle => (handle, handle)).map Prod.fst = output := by
    obtain ⟨number, handle⟩ := output
    cases handle <;> rfl
  have wiring (lines : Wiring (Line ω)) : (lines.map Line.twice).map Line.left = lines := by
    obtain ⟨en, rs, d7, d6, d5, d4, backlight, en2⟩ := lines
    cases backlight <;> cases en2 <;> rfl
  have connection (connection : Connection ω)
      : (connection.map fun handle => (handle, handle)).map Prod.fst = connection := by
    obtain ⟨lines, controllers, number, timer, stage⟩ := connection
    cases lines with
    | none => rfl
    | some lines => simp only [Connection.map, Option.map_some, wiring]
  obtain ⟨outputs, connections⟩ := session
  simp [Session.map, Function.comp_def, output, connection]

/-- The lines of a session under its handles twice have the same handle on both sides. -/
theorem Session.lines_twice (session : Session ω)
    : ∀ line ∈ session.twice.lines, line.left = line.right := by
  intro line member
  rw [Session.lines_map] at member
  obtain ⟨single, _, rfl⟩ := List.mem_map.mp member
  rfl

/-- A session is the second side of itself under its handles twice as well. -/
theorem Session.right_twice (session : Session ω) : session.twice.right = session :=
  (Session.map_congr session.lines_twice).symm.trans session.left_twice

/-- The invariant speaks of the lines of a session in both of its forms. -/
theorem Session.doubled_twice (session : Session ω) (Inv : List (Line ω) → σ → Prop) (s : σ)
    : Doubled Inv session.twice.lines s s ↔ Inv session.lines s := by
  have lines : session.twice.lines.map Line.left = session.lines := by
    rw [← Session.lines_map]
    exact congrArg Session.lines session.left_twice
  exact ⟨fun holds => lines ▸ holds.2.2,
    fun holds => ⟨rfl, session.lines_twice, lines.symm ▸ holds⟩⟩

variable [Journal (StateM σ)] [Clock (StateM σ)] [LineDriver (StateM σ) ω]

/-- What a driver does keeps `Inv`, in which the lines are those that are owned. -/
structure Keeper (Inv : List (Line ω) → σ → Prop) : Prop where
  perm : ∀ {owned others : List (Line ω)} {s : σ}, owned.Perm others → Inv owned s → Inv others s
  report : ∀ {owned : List (Line ω)} {s : σ} {entry : Note},
    entry.ofDriver = false → Inv owned s → Inv owned ((note entry : StateM σ Unit).run s).2
  wait : ∀ {owned : List (Line ω)} {s : σ} (timer : Timer) (time : UInt32),
    Inv owned s → Inv owned ((Clock.wait timer time : StateM σ Unit).run s).2
  acquire : ∀ {owned : List (Line ω)} {s : σ} (number : UInt32),
    Inv owned s
    → match (LineDriver.acquire number : StateM σ (Except GpioError ω)).run s with
      | (.ok handle, after) => Inv (⟨number, handle⟩ :: owned) after
      | (.error _, after) => Inv owned after
  write : ∀ {owned : List (Line ω)} {s : σ} {line : Line ω} (level : Bool),
    line ∈ owned → Inv owned s
    → Inv owned ((LineDriver.write line level : StateM σ (Except GpioError Unit)).run s).2
  release : ∀ {owned : List (Line ω)} {s : σ} {line : Line ω},
    Inv (line :: owned) s
    → Inv owned ((LineDriver.release line : StateM σ (Except GpioError Unit)).run s).2
  describe : ∀ {owned : List (Line ω)} {s : σ} (number : UInt32),
    Inv owned s → Inv owned ((LineDriver.describe number : StateM σ String).run s).2

namespace Keeper

variable {Inv : List (Line ω) → σ → Prop}

/-- A driver that keeps an invariant answers like itself. -/
theorem coupling (keeper : Keeper Inv) : Coupling (Doubled Inv) fun _ _ => True where
  perm := by
    intro owned others s t perm both
    obtain ⟨same, twice, holds⟩ := both
    exact ⟨same, fun line member => twice line (perm.symm.subset member),
      keeper.perm (perm.map _) holds⟩
  permitted_nil := fun _ => trivial
  report := by
    intro owned numbers entry general s t both
    obtain ⟨⟨rfl, twice, holds⟩, _⟩ := both
    exact ⟨rfl, ⟨rfl, twice, keeper.report general holds⟩, trivial⟩
  wait := by
    intro owned timer time s t both
    obtain ⟨rfl, twice, holds⟩ := both
    exact ⟨rfl, rfl, twice, keeper.wait timer time holds⟩
  acquire := by
    intro owned number numbers s t both
    obtain ⟨⟨rfl, twice, holds⟩, _⟩ := both
    have kept := keeper.acquire number holds
    rcases answered : (LineDriver.acquire number : StateM σ (Except GpioError ω)).run s
      with ⟨cause | handle, after⟩
    · rw [answered] at kept
      exact ⟨rfl, rfl, twice, kept⟩
    · rw [answered] at kept
      exact ⟨⟨rfl, List.forall_mem_cons.mpr ⟨rfl, twice⟩, kept⟩, trivial⟩
  write := by
    intro owned line level member s t both
    obtain ⟨rfl, twice, holds⟩ := both
    rw [← twice line member]
    exact ⟨rfl, rfl, twice, keeper.write level (List.mem_map_of_mem member) holds⟩
  release := by
    intro owned line s t both
    obtain ⟨rfl, twice, holds⟩ := both
    rw [← twice line List.mem_cons_self]
    exact ⟨rfl, rfl, fun line member => twice line (List.mem_cons_of_mem _ member),
      keeper.release holds⟩

/-- Every step of a session keeps the invariant, for the lines that the session has then. -/
theorem step (keeper : Keeper Inv) (env : Environment) (session : Session ω) (step : Step)
    {s : σ} (holds : Inv session.lines s)
    : Inv ((session.step env step : StateM σ (Reply × Session ω)).run s).1.2.lines
        ((session.step env step : StateM σ (Reply × Session ω)).run s).2 := by
  cases described : step.describes with
  | false =>
      have answers := keeper.coupling.step env session.twice step described s s
        ⟨(session.doubled_twice Inv s).mpr holds, trivial⟩
      obtain ⟨_, after, leftSide, _, _, _, kept⟩ := answers
      rw [Session.left_twice] at leftSide kept
      rw [leftSide, Session.lines_map]
      exact kept
  | true =>
      cases step with
      | info slot =>
          simp only [Session.step, Session.onOutput]
          cases Session.occupant session.outputs slot with
          | none => exact holds
          | some output => exact keeper.describe output.number holds
      | _ => cases described

/-- The end of a session keeps the invariant, and no line is owned then. -/
theorem finish (keeper : Keeper Inv) (session : Session ω) {s : σ}
    (holds : Inv session.lines s)
    : Inv [] ((session.finish : StateM σ Unit).run s).2 := by
  have alike := keeper.coupling.finish session.twice s s ((session.doubled_twice Inv s).mpr holds)
  obtain ⟨_, _, _, kept⟩ := alike
  rw [Session.left_twice] at kept
  exact kept

end Keeper

end CharLcd

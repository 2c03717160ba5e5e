import CharLcd.Proofs.Ownership.Keeper

/-! Drivers that never look at some part of their state.

Such a part may be the notes that a driver has taken: they pile up, but nothing is decided by them.
Then in two states that differ in nothing else every step of a session has the same answer, and what
it leaves differs in nothing else again.
-/

namespace CharLcd

variable {σ α β ω : Type} {hush : σ → σ}

-----------------------------------------------------------------------------------------
-- Programs that pass over something
-----------------------------------------------------------------------------------------

/-- Two states are the same apart from what `hush` leaves out. -/
def Hushed (hush : σ → σ) (s t : σ) : Prop :=
  hush s = hush t

/-- Nothing that a program does depends on what `hush` leaves out. -/
def Heedless (hush : σ → σ) (x : StateM σ α) : Prop :=
  Matches (Hushed hush) x x (Alike (Hushed hush))

namespace Heedless

theorem pure (value : α) : Heedless hush (pure value) :=
  Matches.pure fun _ _ same => ⟨rfl, same⟩

theorem bind {x : StateM σ α} {f : α → StateM σ β} (first : Heedless hush x)
    (next : ∀ value, Heedless hush (f value))
    : Heedless hush (x >>= f) :=
  Matches.bind_alike first next

end Heedless

variable [Journal (StateM σ)] [Clock (StateM σ)] [LineDriver (StateM σ) ω]

/-- Whatever a driver does, it passes over what `hush` leaves out, and notes change nothing else. -/
structure Discreet (ω : Type) (hush : σ → σ) [Journal (StateM σ)] [Clock (StateM σ)]
    [LineDriver (StateM σ) ω]
    : Prop where
  note : ∀ (entry : Note) (s : σ), hush ((note entry : StateM σ Unit).run s).2 = hush s
  wait : ∀ (timer : Timer) (time : UInt32),
    Heedless hush (Clock.wait timer time : StateM σ Unit)
  acquire : ∀ number : UInt32,
    Heedless hush (LineDriver.acquire number : StateM σ (Except GpioError ω))
  write : ∀ (line : Line ω) (level : Bool),
    Heedless hush (LineDriver.write line level : StateM σ (Except GpioError Unit))
  release : ∀ line : Line ω,
    Heedless hush (LineDriver.release line : StateM σ (Except GpioError Unit))
  describe : ∀ number : UInt32, Heedless hush (LineDriver.describe number : StateM σ String)

-----------------------------------------------------------------------------------------
-- Sessions
-----------------------------------------------------------------------------------------

namespace Discreet

/-- A driver that passes over something answers alike where nothing else differs. -/
theorem coupling (discreet : Discreet ω hush)
    : Coupling
        (fun (owned : List (Line (ω × ω))) s t =>
          Hushed hush s t ∧ ∀ line ∈ owned, line.left = line.right)
        fun _ _ => True where
  perm := by
    intro owned others s t perm both
    exact ⟨both.1, fun line member => both.2 line (perm.symm.subset member)⟩
  permitted_nil := fun _ => trivial
  report := by
    intro owned numbers entry general s t both
    obtain ⟨⟨same, twice⟩, _⟩ := both
    have noted := ((discreet.note entry s).trans same).trans (discreet.note entry t).symm
    exact ⟨rfl, ⟨noted, twice⟩, trivial⟩
  wait := by
    intro owned timer time s t both
    obtain ⟨answer, after⟩ := discreet.wait timer time s t both.1
    exact ⟨answer, after, both.2⟩
  acquire := by
    intro owned number numbers s t both
    obtain ⟨⟨same, twice⟩, _⟩ := both
    obtain ⟨answer, after⟩ := discreet.acquire number s t same
    rw [← answer]
    cases (LineDriver.acquire number : StateM σ (Except GpioError ω)).run s |>.1 with
    | error cause => exact ⟨rfl, after, twice⟩
    | ok handle => exact ⟨⟨after, List.forall_mem_cons.mpr ⟨rfl, twice⟩⟩, trivial⟩
  write := by
    intro owned line level member s t both
    rw [← both.2 line member]
    obtain ⟨answer, after⟩ := discreet.write line.left level s t both.1
    exact ⟨answer, after, both.2⟩
  release := by
    intro owned line s t both
    rw [← both.2 line List.mem_cons_self]
    obtain ⟨answer, after⟩ := discreet.release line.left s t both.1
    exact ⟨answer, after, fun line member => both.2 line (List.mem_cons_of_mem _ member)⟩

/-- Every step of a session passes over what its driver passes over. -/
theorem step (discreet : Discreet ω hush) (env : Environment) (session : Session ω) (step : Step)
    : Heedless hush (session.step env step : StateM σ (Reply × Session ω)) := by
  cases described : step.describes with
  | false =>
      intro s t same
      obtain ⟨reply, after, leftSide, rightSide, hushed, twice⟩ :=
        discreet.coupling.step env session.twice step described s t
          ⟨⟨same, session.lines_twice⟩, trivial⟩
      rw [session.left_twice, session.right_twice] at *
      refine ⟨Prod.ext reply ?_, hushed⟩
      rw [leftSide, rightSide]
      exact Session.map_congr twice
  | true =>
      cases step with
      | info slot =>
          simp only [Session.step, Session.onOutput]
          cases Session.occupant session.outputs slot with
          | none => exact .pure _
          | some output => exact (discreet.describe output.number).bind fun _ => .pure _
      | _ => cases described

/-- Establishing a connection passes over what its driver passes over. -/
theorem establish (discreet : Discreet ω hush) (numbers : Wiring UInt32) (config : PinConfig)
    (options : DisplayOptions) (timer : Timer)
    : Heedless hush
        (Connection.establish numbers config options timer
          : StateM σ (Except ConnectionError (Connection ω))) := by
  intro s t same
  have yields := discreet.coupling.establish numbers config options timer [] s t
    ⟨⟨same, nofun⟩, trivial⟩
  unfold Alike
  generalize (Connection.establish numbers config options timer : StateM σ _).run s = first at *
  generalize (Connection.establish numbers config options timer : StateM σ _).run t = second at *
  obtain ⟨cause | connection, after⟩ := first <;> obtain ⟨cause' | connection', after'⟩ := second
  · exact ⟨congrArg Except.error yields.1, yields.2.1⟩
  · exact yields.elim
  · exact yields.elim
  · obtain ⟨both, leftSide, rightSide, hushed, twice⟩ := yields
    refine ⟨congrArg Except.ok ?_, hushed⟩
    rw [leftSide, rightSide]
    exact Connection.map_congr fun line member => twice line (List.mem_append_left _ member)

/-- Notes change nothing else. -/
theorem forM_note (discreet : Discreet ω hush) (notes : List Note) (s : σ)
    : hush ((notes.forM Journal.note : StateM σ PUnit).run s).2 = hush s := by
  induction notes generalizing s with
  | nil => rfl
  | cons entry rest ih => exact (ih _).trans (discreet.note entry s)

end Discreet

end CharLcd

import CharLcd.Proofs.Coupling.Connection
import CharLcd.Proofs.Setup.Rollback

/-! The calls that a set-up really makes.

A driver can be made to keep a list of the calls that reach it. A set-up does the same on it as on the
driver itself, and what is listed then are its calls.
-/

namespace CharLcd

variable {σ ω α : Type}

/-- A driver with a list of the calls that reached it. -/
structure Traced (σ ω : Type) where
  state : σ
  calls : List (LineCall ω) := []

namespace Traced

/-- Passes a call on to the driver, and lists it with its answer. -/
def pass (x : StateM σ α) (call : α → LineCall ω) : StateM (Traced σ ω) α :=
  fun traced =>
    ((x.run traced.state).1,
      { state := (x.run traced.state).2, calls := traced.calls ++ [call (x.run traced.state).1] })

variable [Journal (StateM σ)] [Clock (StateM σ)] [LineDriver (StateM σ) ω]

instance : Journal (StateM (Traced σ ω)) where
  note entry := pass (note entry) fun _ => .noted entry

instance : Clock (StateM (Traced σ ω)) where
  wait timer time := pass (Clock.wait timer time) fun _ => .waited timer time

instance : LineDriver (StateM (Traced σ ω)) ω where
  acquire number := pass (LineDriver.acquire number) (.acquired number)
  write line level := pass (LineDriver.write line level) (.wrote line level)
  release line := pass (LineDriver.release line) (.released line)
  describe number traced :=
    let (answer, state) := (LineDriver.describe number : StateM σ String).run traced.state
    (answer, { traced with state })

/-- A listed call is one that the driver has carried out. -/
theorem happens_of_happens {call : LineCall ω} {before after : Traced σ ω}
    (happens : call.Happens before after)
    : call.Happens before.state after.state ∧ after.calls = before.calls ++ [call] := by
  cases call <;> cases happens <;> exact ⟨rfl, rfl⟩

/-- What is listed after some calls are these calls, by induction on them. -/
theorem performs_of_performs {calls : List (LineCall ω)} {before after : Traced σ ω}
    (performs : Performs before calls after)
    : Performs before.state calls after.state ∧ after.calls = before.calls ++ calls := by
  induction calls generalizing before with
  | nil =>
      cases performs
      exact ⟨rfl, (List.append_nil _).symm⟩
  | cons call rest ih =>
      obtain ⟨middle, happens, rests⟩ := performs
      obtain ⟨happened, listed⟩ := happens_of_happens happens
      obtain ⟨performed, all⟩ := ih rests
      refine ⟨⟨middle.state, happened, performed⟩, ?_⟩
      rw [all, listed, List.append_assoc, List.singleton_append]

/-- The driver is in the same state on both sides, and so are the handles of the lines. -/
def Same (owned : List (Line (ω × ω))) (traced : Traced σ ω) (state : σ) : Prop :=
  traced.state = state ∧ ∀ line ∈ owned, line.left = line.right

/-- A driver answers alike with and without the list. -/
theorem coupling : Coupling (σ := Traced σ ω) (τ := σ) Same fun _ _ => True where
  perm := by
    intro owned others s t perm both
    obtain ⟨same, twice⟩ := both
    exact ⟨same, fun line member => twice line (perm.symm.subset member)⟩
  permitted_nil := fun _ => trivial
  report := by
    intro owned numbers entry general s _ both
    obtain ⟨⟨rfl, twice⟩, _⟩ := both
    exact ⟨rfl, ⟨rfl, twice⟩, trivial⟩
  wait := by
    intro owned timer time s _ both
    obtain ⟨rfl, twice⟩ := both
    exact ⟨rfl, rfl, twice⟩
  acquire := by
    intro owned number numbers s _ both
    obtain ⟨⟨rfl, twice⟩, _⟩ := both
    have passed
        : (LineDriver.acquire number : StateM (Traced σ ω) (Except GpioError ω)).run s
          = (pass (LineDriver.acquire number) (.acquired number)).run s :=
      rfl
    rw [passed]
    simp only [pass, StateT.run]
    rcases (LineDriver.acquire number : StateM σ (Except GpioError ω)) s.state
      with ⟨cause | handle, after⟩
    · exact ⟨rfl, rfl, twice⟩
    · exact ⟨⟨rfl, List.forall_mem_cons.mpr ⟨rfl, twice⟩⟩, trivial⟩
  write := by
    intro owned line level member s _ both
    obtain ⟨rfl, twice⟩ := both
    rw [← twice line member]
    exact ⟨rfl, rfl, twice⟩
  release := by
    intro owned line s _ both
    obtain ⟨rfl, twice⟩ := both
    rw [← twice line List.mem_cons_self]
    exact ⟨rfl, rfl, fun line member => twice line (List.mem_cons_of_mem _ member)⟩

end Traced

variable [Journal (StateM σ)] [Clock (StateM σ)] [LineDriver (StateM σ) ω]

/-- A set-up that fails fails as well with a list of its calls, and they are those of a set-up that
gives back what it acquired and reports the first failure.
-/
theorem trace_failed_init {config : PinConfig} {options : DisplayOptions} {timer : Timer}
    {before after : σ} {error : ConnectionError}
    (fails
      : (Connection.init config options timer
          : StateM σ (Except ConnectionError (Connection ω))).run before
        = (.error error, after))
    : ∃ calls : List (LineCall ω),
        (Connection.init config options timer
            : StateM (Traced σ ω) (Except ConnectionError (Connection ω))).run
            { state := before }
          = (.error error, { state := after, calls })
        ∧ Performs before calls after ∧ SetsUp config options calls (.error error) := by
  have alike := Traced.coupling.init config options timer [] { state := before } before
    ⟨⟨rfl, fun _ member => absurd member List.not_mem_nil⟩, trivial⟩
  obtain ⟨calls, performs, setsUp⟩ :=
    makes_init (σ := Traced σ ω) config options timer { state := before }
  rw [fails] at alike
  generalize (Connection.init config options timer : StateM (Traced σ ω) _).run _ = outcome at *
  obtain ⟨result, last⟩ := outcome
  cases result with
  | ok connection => exact alike.elim
  | error cause =>
      obtain ⟨rfl, same, _⟩ := alike
      obtain ⟨performed, listed⟩ := Traced.performs_of_performs performs
      obtain ⟨state, all⟩ := last
      cases same
      cases listed
      exact ⟨calls, rfl, performed, setsUp⟩

end CharLcd

import CharLcd.Proofs.Display.Script
import CharLcd.Proofs.Ownership.Deeds

/-! Steps that use an output or a connection and leave it as it is.

Such a step leaves the session as it was. So it owns as many lines afterwards as before: it has released
none, and it has acquired none either, as it asks for none.
-/

namespace CharLcd

variable {σ ω : Type}

/-- Whether a step uses an output or a connection and gives nothing up: it writes, sends, waits or
asks for something.
-/
def Step.uses : Step → Bool
  | .write _ _ | .info _ | .sendNibble _ _ _ _ | .writeLine _ _ _ | .status _ => true
  | .display _ step => step != .close
  | .export _ | .release _ | .discard _ | .init _ _ _ | .connect _ _ _ | .disconnect _ => false

/-- What is used is there. -/
theorem Step.slot?_of_uses {step : Step} (uses : step.uses = true)
    : ∃ slot, step.slot? = some slot := by
  cases step <;> first | exact ⟨_, rfl⟩ | cases uses

/-- Whether a call writes one of these lines, waits or notes something. -/
def LineCall.Uses (owned : List (Line ω)) : LineCall ω → Prop
  | wrote line _ _ => line ∈ owned
  | waited _ _ | noted _ => True
  | acquired _ _ | released _ _ => False

/-- If nothing is asked for, and as many lines are owned as at first, they are only used. -/
theorem Ledger.uses {start owned : List (Line ω)} {calls : List (LineCall ω)}
    (ledger : Ledger [] start calls owned) (same : owned.length = start.length)
    : ∀ call ∈ calls, call.Uses start := by
  have none : LineCall.returned calls = [] := by
    have balance := ledger.balance
    exact List.length_eq_zero_iff.mp (by omega)
  intro call member
  cases call with
  | acquired number answer => exact absurd (ledger.asked member) List.not_mem_nil
  | wrote line level answer => exact ledger.confined.2 _ member line rfl
  | released line answer =>
      have returned : line ∈ LineCall.returned calls :=
        List.mem_filterMap.mpr ⟨_, member, rfl⟩
      exact absurd (none ▸ returned) List.not_mem_nil
  | waited timer time => trivial
  | noted entry => trivial

namespace Connection

variable {m : Type → Type} [Monad m] [LawfulMonad m] [Journal m] [Clock m] [LineDriver m ω]

/-- A step on a display that does not close it leaves the connection as it is. -/
theorem run_open {step : DisplayStep} (stays : step ≠ .close) (connection : Connection ω)
    : ∃ answer : m Reply,
        (step.run : StateT (Connection ω) m Reply).run connection
        = (do return (← answer, connection)) := by
  cases planned : step.plan with
  | some plan => exact ⟨_, connection.run_step planned⟩
  | none =>
      cases step with
      | backlight on =>
          refine ⟨do return .ofResult (← connection.setBacklight on), ?_⟩
          simp only [connection.run_backlight, bind_assoc, pure_bind]
      | supportsBacklight =>
          have asked
              : (DisplayLink.supportsBacklight : StateT (Connection ω) m Bool).run connection
                = pure (connection.supportsBacklight, connection) :=
            rfl
          refine ⟨pure (.flag connection.supportsBacklight), ?_⟩
          simp only [DisplayStep.run, StateT.run_bind, asked, pure_bind, StateT.run_pure]
      | close => exact absurd rfl stays
      | _ => cases planned

end Connection

namespace Session

variable [Journal (StateM σ)] [Clock (StateM σ)] [LineDriver (StateM σ) ω]

/-- A step that uses something leaves the session as it was. By cases on the step. -/
theorem left_of_uses (env : Environment) (session : Session ω) {step : Step}
    (uses : step.uses = true) (s : σ)
    : ((session.step env step : StateM σ (Reply × Session ω)).run s).1.2 = session := by
  cases step with
  | write slot level =>
      simp only [Session.step, onOutput]
      cases occupant session.outputs slot <;> rfl
  | info slot =>
      simp only [Session.step, onOutput]
      cases occupant session.outputs slot <;> rfl
  | display slot step =>
      simp only [Session.step, onConnection]
      cases present : occupant session.connections slot with
      | none => rfl
      | some connection =>
          obtain ⟨answer, run⟩ := connection.run_open (m := StateM σ) (bne_iff_ne.mp uses)
          obtain ⟨bound, there⟩ := List.getElem?_eq_some_iff.mp (getElem?_of_occupant present)
          simp only [displayStep, run]
          refine congrArg (Session.mk _) ?_
          rw [← there]
          exact List.set_getElem_self bound
  | sendNibble slot target register nibble =>
      simp only [Session.step, onConnection]
      cases occupant session.connections slot <;> rfl
  | writeLine slot signal level =>
      simp only [Session.step, onConnection]
      cases occupant session.connections slot <;> rfl
  | status slot =>
      simp only [Session.step, onConnection]
      cases occupant session.connections slot <;> rfl
  | «export» _ | release _ | discard _ | init _ _ _ | connect _ _ _ | disconnect _ => cases uses

/-- A step that uses something writes lines in its own slot only, and neither acquires nor releases
any.
-/
theorem deed_uses (env : Environment) (session : Session ω) {step : Step}
    (uses : step.uses = true) (s : σ)
    (still
      : ∀ (number : UInt32) (s : σ),
          ((LineDriver.describe number : StateM σ String).run s).2 = s)
    : ∀ call ∈ (session.deed env step s).calls,
        call.Uses (session.linesIn (session.slotOf step)) := by
  have ledger := session.ledger_linesIn env step s still
  obtain ⟨slot, about⟩ := step.slot?_of_uses uses
  rw [session.left_of_uses env uses, step.asks_of_slot env about] at ledger
  exact ledger.uses rfl

end Session

end CharLcd

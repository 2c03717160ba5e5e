import CharLcd.Proofs.Ownership.Slots

/-! Steps that are not about a certain connection.

Such a step is about another slot, and so it neither looks at the connection nor changes it.
-/

namespace CharLcd

variable {ω : Type}

/-- Whether a step is about the connection in a place. -/
def Step.concerns (slot : Nat) : Step → Bool
  | .display place _ | .sendNibble place _ _ _ | .writeLine place _ _ | .status place
  | .disconnect place => place == slot
  | _ => false

/-- The connections that a step is about are those in its slot. -/
theorem Step.concerns_of_slot {step : Step} {slot : Nat}
    (about : step.slot? = some (.connection slot))
    : step.concerns slot = true := by
  cases step <;> cases about <;> exact beq_self_eq_true slot

namespace Session

variable {session : Session ω} {slot : Nat} {step : Step}

/-- The slot of a step that is not about a connection is another one, by cases on the step. -/
theorem slotOf_ne_of_elsewhere (bound : slot < session.connections.length)
    (elsewhere : step.concerns slot = false)
    : session.slotOf step ≠ .connection slot := by
  intro same
  cases found : step.slot? with
  | some about =>
      rw [slotOf_eq session found] at same
      subst same
      rw [Step.concerns_of_slot found] at elsewhere
      cases elsewhere
  | none =>
      cases step <;> cases found <;> cases same
      all_goals exact absurd bound (Nat.lt_irrefl _)

/-- A step that is not about the connection in a place leaves it there. -/
theorem getElem?_step {σ : Type} [Journal (StateM σ)] [Clock (StateM σ)]
    [LineDriver (StateM σ) ω] (env : Environment) (bound : slot < session.connections.length)
    (elsewhere : step.concerns slot = false) (s : σ)
    : ((session.step env step : StateM σ (Reply × Session ω)).run s).1.2.connections[slot]?
      = session.connections[slot]? := by
  have left := session.leaves_step env step s
  generalize ((session.step env step : StateM σ _).run s).1.2 = after at left ⊢
  cases left with
  | same => rfl
  | output about place => rfl
  | @connection other about place =>
      have apart : other ≠ slot := by
        rintro rfl
        simp [Step.concerns_of_slot about] at elsewhere
      exact List.getElem?_set_ne apart
  | newOutput new output => rfl
  | newConnection new connection => exact List.getElem?_append_left bound

end Session

end CharLcd

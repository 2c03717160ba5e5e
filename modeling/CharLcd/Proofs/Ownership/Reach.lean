import CharLcd.Session.Basic

/-! Sessions, one action after the other.

On every driver a session goes on by actions: the steps that all drivers offer, and what else can be
done to the driver. What every action keeps holds after any actions.
-/

namespace CharLcd

/-- How actions are carried out on a session, in an environment. -/
abbrev Acting (σ ω A : Type) :=
  Environment → Session ω → A → StateM σ (Reply × Session ω)

namespace Acting

variable {σ ω A : Type} (act : Acting σ ω A) (env : Environment)

/-- What an action answers, and the session and the driver after it. -/
def perform (state : Session ω × σ) (action : A) : Reply × Session ω × σ :=
  let ((reply, session), s) := (act env state.1 action).run state.2
  (reply, session, s)

/-- The session and the driver after some actions. -/
def reach (state : Session ω × σ) (actions : List A) : Session ω × σ :=
  actions.foldl (fun state action => (act.perform env state action).2) state

variable {act env}

theorem reach_cons (state : Session ω × σ) (action : A) (rest : List A)
    : act.reach env state (action :: rest)
      = act.reach env (act.perform env state action).2 rest :=
  rfl

@[simp]
theorem reach_append (state : Session ω × σ) (actions others : List A)
    : act.reach env state (actions ++ others) = act.reach env (act.reach env state actions) others :=
  List.foldl_append

/-- What every action keeps holds after any actions, by induction on these. -/
theorem reach_keeps (holds : Session ω × σ → Prop)
    (keeps : ∀ state action, holds state → holds (act.perform env state action).2)
    {state : Session ω × σ} (start : holds state) (actions : List A)
    : holds (act.reach env state actions) := by
  induction actions generalizing state with
  | nil => exact start
  | cons action rest ih => exact ih (keeps state action start)

end Acting

end CharLcd

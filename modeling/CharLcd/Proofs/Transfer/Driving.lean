import CharLcd.Proofs.Display.Script
import CharLcd.Proofs.Setup.Rollback

/-! Which lines an open connection drives.

What it sends goes over the bus. The line of the backlight is not on it, and is written only to
switch the backlight.
-/

namespace CharLcd

open LineCall

variable {σ ω : Type} [Journal (StateM σ)] [Clock (StateM σ)] [LineDriver (StateM σ) ω]
variable {connection : Connection ω} {lines : Wiring (Line ω)}

section Bus

variable {owned : List (Line ω)} (covered : lines.bus ⊆ owned)
variable (opened : connection.lines = some lines)

include covered opened

/-- A nibble is sent over the bus, unless it is too large. -/
theorem makes_sendNibble (target : Target) (register : Register) (nibble : UInt8)
    : Makes (connection.sendNibble target register nibble : StateM σ (Except GpioError Unit))
        fun calls _ => Works owned calls ∧ taken calls = [] := by
  have inside
      : BusStep.driven (lines.nibbleSteps connection.controllers target register nibble)
        ⊆ owned :=
    List.Subset.trans (lines.driven_nibbleSteps_subset _ _ _ _) covered
  unfold Connection.sendNibble
  split
  · exact .pure ⟨trivial, rfl⟩
  · refine Makes.noted_bind ((makes_run opened target inside).mono fun _ _ drives => ?_)
    exact ⟨drives.1, drives.2.1⟩

/-- A script is sent over the bus until a byte fails. By induction on the script. -/
theorem makes_play (script : List ScriptStep)
    : Makes (connection.play script : StateM σ (Except GpioError Unit)) (Drives owned) := by
  induction script with
  | nil => exact .pure (.nothing _)
  | cons step rest ih =>
      cases step with
      | send target register byte =>
          apply (makes_send covered opened target register byte).bind
          intro result calls drives
          cases result with
          | error cause => exact .pure (by simpa using drives)
          | ok => exact ih.mono fun others result goesOn => drives.append goesOn
      | replace c =>
          refine Makes.noted_bind (ih.mono fun calls result drives => ?_)
          exact (Drives.noted _ _).append drives
      | pause time =>
          apply (Makes.wait connection.timer time).bind
          intro _ calls only
          subst only
          exact ih.mono fun others result drives => (Drives.waited _ _ _).append drives

end Bus

/-- The calls that switch a backlight: it is announced, the line is written, and a failure is noted.
-/
def LineCall.switching (line : Line ω) (on : Bool) (answer : Except GpioError Unit)
    : List (LineCall ω) :=
  [.noted (.switchingBacklight on), .wrote line on answer]
    ++ match answer with
      | .ok () => []
      | .error error => [.noted (.backlightFailed line.number error)]

/-- A backlight that can be switched is switched by a single write, whose result is the answer. -/
theorem makes_switching (opened : connection.lines = some lines)
    (switchable : isBacklightLine connection.backlightNumber = true) {line : Line ω}
    (lit : lines.backlight = some line) (on : Bool)
    : Makes (connection.setBacklight on : StateM σ (Except GpioError Unit)) fun calls answer =>
        calls = switching line on answer := by
  simp only [Connection.setBacklight, opened, switchable, lit, Bool.not_true, Bool.false_eq_true,
    if_false]
  refine Makes.noted_bind ((Makes.write line on).bind fun answer calls only => ?_)
  subst only
  cases answer with
  | ok => exact .pure rfl
  | error error => exact Makes.noted_bind (.pure rfl)

omit [Clock (StateM σ)] in
/-- To switch a backlight that is not there does nothing, and succeeds. -/
theorem Connection.setBacklight_unlit (opened : connection.lines = some lines)
    (unlit : lines.backlight = none) (on : Bool)
    : (connection.setBacklight on : StateM σ (Except GpioError Unit)) = pure (.ok ()) := by
  simp only [setBacklight, opened, unlit]
  split <;> rfl

end CharLcd

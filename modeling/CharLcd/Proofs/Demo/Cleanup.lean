import CharLcd.Proofs.Demo.Playing
import CharLcd.Proofs.Transfer.Driving

/-! The program gives back all lines that it acquires.

Whether its set-up fails, the connection breaks off or everything succeeds, the calls of the program
are some that acquire and write lines, and then some that give back what was acquired: in the order
of the acquisitions if there was a connection, else the last one first.
-/

namespace CharLcd

open LineCall

variable {σ ω α : Type}
variable [Journal (StateM σ)] [Clock (StateM σ)] [LineDriver (StateM σ) ω]

-----------------------------------------------------------------------------------------
-- An open connection
-----------------------------------------------------------------------------------------

section Open

variable {connection : Connection ω} {lines : Wiring (Line ω)}
variable (opened : connection.lines = some lines)

include opened

/-- Switching the backlight writes its line, if it is one. -/
theorem makes_setBacklight (on : Bool)
    : Makes (connection.setBacklight on : StateM σ (Except GpioError Unit))
        (Drives connection.held) := by
  cases switchable : isBacklightLine connection.backlightNumber with
  | false =>
      simp only [Connection.setBacklight, opened, switchable, Bool.not_false, if_true]
      exact .pure (.nothing _)
  | true =>
      cases lit : lines.backlight with
      | none =>
          rw [connection.setBacklight_unlit opened lit]
          exact .pure (.nothing _)
      | some line =>
          have member : line ∈ connection.held := by
            simp [Connection.held, opened, Wiring.toList, lit]
          refine (makes_switching opened switchable lit on).mono fun calls answer only => ?_
          subst only
          cases answer with
          | ok => exact ⟨⟨member, trivial⟩, rfl, rfl⟩
          | error cause => exact ⟨⟨member, trivial⟩, rfl, line, on, rfl⟩

/-- Blinking writes the line of the backlight until that fails. By induction on the levels. -/
theorem makes_blink (levels : List Bool)
    : Makes (connection.blink levels : StateM σ (Except GpioError Unit))
        (Drives connection.held) := by
  induction levels with
  | nil => exact .pure (.nothing _)
  | cons on rest ih =>
      apply (makes_setBacklight opened on).bind
      intro result calls drives
      cases result with
      | error cause => exact .pure (by simpa using drives)
      | ok =>
          apply (Makes.wait .recorded Demo.blinkTime).bind
          intro _ others only
          subst only
          apply ih.mono
          intro others result goesOn
          exact drives.append ((Drives.waited _ _ _).append goesOn)

end Open

-----------------------------------------------------------------------------------------
-- The program
-----------------------------------------------------------------------------------------

/-- Calls over a connection that write its lines, and then may give them back. What they do not give
back is what is left of the connection.
-/
def Uses (connection : Connection ω) (calls : List (LineCall ω)) (left : Connection ω) : Prop :=
  ∃ work undo given,
    calls = work ++ undo ∧ Works connection.held work ∧ taken work = []
    ∧ GivesBack given undo ∧ given ++ left.held = connection.held

theorem makes_perform {connection : Connection ω} {lines : Wiring (Line ω)}
    (opened : connection.lines = some lines) (text : String)
    : Makes (connection.perform text : StateM σ (Except GpioError Unit × Connection ω))
        fun calls outcome => Uses connection calls outcome.2 ∧ Blames calls outcome.1 := by
  have broken {calls : List (LineCall ω)} {cause : GpioError}
      (drives : Drives connection.held calls (.error cause))
      : Uses connection calls connection ∧ Blames calls (.error cause) :=
    ⟨⟨calls, [], [], (List.append_nil _).symm, drives.1, drives.2.1, .nothing, rfl⟩, drives.blames⟩
  have covered : lines.bus ⊆ connection.held := by
    rw [Connection.held_of_open opened]
    exact lines.bus_subset
  apply (makes_play covered opened _).bind
  intro shown calls plays
  cases shown with
  | error cause => exact .pure (by simpa using broken plays)
  | ok =>
      apply (makes_blink opened _).bind
      intro blinked others blinks
      have both := plays.append blinks
      cases blinked with
      | error cause => exact .pure (by simpa using broken both)
      | ok =>
          apply (Makes.wait .recorded Demo.showTime).bind
          intro _ waits only
          subst only
          apply (makes_close connection).mono
          intro undo outcome closes
          obtain ⟨givesBack, left, blames⟩ := closes
          have work := both.append (.waited _ .recorded Demo.showTime)
          refine ⟨⟨_, undo, _, ?_, work.1, work.2.1, givesBack, ?_⟩, blames.mono ?_⟩
          · simp
          · rw [left, List.append_nil]
          · intro call member
            simp [member]

/-- What keeps the program from succeeding: a configured number that is none of a line; a line that
could not be acquired; or a write or a release that failed.
-/
def Thwarted (config : PinConfig) (options : DisplayOptions) (work undo : List (LineCall ω))
    : Prop :=
  (∃ invalid, config.wiring options = .error invalid)
  ∨ (∃ numbers error, config.wiring options = .ok numbers ∧ Stuck numbers.signed work error)
  ∨ ∃ call ∈ work ++ undo, call.breaks = true

/-- A set-up that fails was kept from succeeding. -/
theorem FirstFailure.thwarted {config : PinConfig} {options : DisplayOptions}
    {work : List (LineCall ω)} {error : ConnectionError}
    (first : FirstFailure config options work error) (undo : List (LineCall ω))
    : Thwarted config options work undo := by
  rcases first with ⟨invalid, _⟩ | ⟨numbers, wired, stuck | ⟨line, level, cause, _, found, _⟩⟩
  · exact Or.inl ⟨error, PinConfig.wiring_eq_error_iff.mpr invalid⟩
  · exact Or.inr (Or.inl ⟨numbers, error, wired, stuck⟩)
  · have member := List.mem_of_find?_eq_some found
    exact Or.inr (Or.inr ⟨_, List.mem_append_left _ member, rfl⟩)

/-- Calls that acquire and write lines, and then give back all that was acquired. They were thwarted
unless they succeeded.
-/
def CleansUp (config : PinConfig) (options : DisplayOptions) (calls : List (LineCall ω))
    (result : Except ConnectionError Unit)
    : Prop :=
  ∃ work undo lines,
    calls = work ++ undo ∧ Works [] work ∧ lines.Perm (taken work) ∧ GivesBack lines undo
    ∧ (result = .ok () ∨ Thwarted config options work undo)

/-- The program gives back all lines that it acquires, and succeeds unless something fails. -/
theorem makes_present (settings : Settings) (env : Environment) (text : String)
    : Makes (Demo.present settings env text : StateM σ (Except ConnectionError Unit))
        (CleansUp (ω := ω) (PinConfig.load (settings.source env) settings.options).value
          settings.options) := by
  rw [Demo.present_eq]
  apply ((makes_ofSource _ _ _).obtaining (Connection.obtains_ofSource _ _ _)).bind
  intro result calls both
  obtain ⟨setsUp, obtained⟩ := both
  cases result with
  | error cause =>
      obtain ⟨work, undo, rfl, works, givesBack, first⟩ := setsUp
      refine .pure ⟨work, undo, _, List.append_nil _, works, List.reverse_perm _, givesBack, ?_⟩
      exact Or.inr (first.thwarted undo)
  | ok connection =>
      obtain ⟨lines, opened, _⟩ := obtained connection rfl
      obtain ⟨works, _, all⟩ := setsUp
      apply (makes_perform opened text).bind
      intro outcome others both
      obtain ⟨⟨work, undo, given, rfl, goesOn, none, givesBack, rest⟩, blames⟩ := both
      refine (makes_discardConnection outcome.2).bind fun _ last returned => .pure ?_
      refine ⟨calls ++ work, undo ++ last, connection.held, by simp, ?_, ?_, ?_, ?_⟩
      · exact works.append (goesOn.mono (by simp [all]))
      · simp [all, none]
      · exact rest ▸ givesBack.append returned
      · obtain ⟨result, left⟩ := outcome
        cases result with
        | ok => exact Or.inl rfl
        | error cause =>
            obtain ⟨call, member, broke⟩ := blames cause rfl
            refine Or.inr (Or.inr (Or.inr ⟨call, ?_, broke⟩))
            rcases List.mem_append.mp member with working | undoing
            · simp [working]
            · simp [undoing]

end CharLcd

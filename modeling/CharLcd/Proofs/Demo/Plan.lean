import CharLcd.Proofs.Demo.Playing
import CharLcd.Proofs.Setup.Requests

/-! The plan of the program, and that it is followed.

What the program asks of its display is laid down by the text it shows and by its configuration.
Where something fails it asks for a beginning of that and no more, and all that it asks for is carried
out over the lines of its configuration.
-/

namespace CharLcd

open LineCall

variable {σ ω : Type}

/-- The request that shows a character: its code if it is in ASCII, else that of a question mark. -/
def Request.ofChar (c : Char) : Request :=
  .byte .all .data (if c.toNat < 0x80 then c.toNat.toUInt8 else 0x3f)

namespace Demo

/-- All that the program asks of a display, which may have a backlight. The first two instructions are
the reset sequence; four more prepare the display, and one moves the cursor to the second row.
-/
def plan (lit : Bool) (text : String) : List Request :=
  [0x33, 0x32, 0x28, 0x0c, 0x01, 0x06].map (Request.byte .all .command)
    ++ text.toList.map Request.ofChar
    ++ .byte .all .command 0xc0 :: version.toList.map Request.ofChar
    ++ if lit then [false, true, false, true].map Request.backlight else []

theorem requests_append (script others : List ScriptStep)
    : ScriptStep.requests (script ++ others)
      = ScriptStep.requests script ++ ScriptStep.requests others := by
  simp [ScriptStep.requests, ScriptStep.sends]

/-- Characters are asked for one after the other, by induction on them. -/
theorem requests_characters (text : List Char)
    : ScriptStep.requests (text.flatMap Screen.charScript) = text.map Request.ofChar := by
  induction text with
  | nil => rfl
  | cons c rest ih =>
      have single : ScriptStep.requests (Screen.charScript c) = [Request.ofChar c] := by
        unfold Screen.charScript Request.ofChar
        split <;> rfl
      rw [List.flatMap_cons, requests_append, single, ih]
      rfl

/-- The parts of the plan, in the order in which they are followed. -/
theorem plan_eq (lit : Bool) (text : String)
    : plan lit text
      = resetPlan
        ++ (ScriptStep.requests (opening text) ++ (levels lit).map Request.backlight) := by
  have prepared
      : ScriptStep.requests Screen.prepareScript
        = [0x28, 0x0c, 0x01, 0x06].map (Request.byte .all .command) :=
    rfl
  have moved
      : ScriptStep.requests [.send .all .command 0xc0] = [.byte .all .command 0xc0] :=
    rfl
  rw [opening, requests_append, requests_append, requests_append, prepared, moved,
    requests_characters, requests_characters]
  cases lit <;> simp [plan, resetPlan, levels, blinking]

end Demo

variable [Journal (StateM σ)] [Clock (StateM σ)] [LineDriver (StateM σ) ω]

section Set

variable {config : PinConfig} {options : DisplayOptions} {connection : Connection ω}
variable (set : connection.Set config options)

include set

/-- Blinking asks for its levels, by induction on them. -/
theorem follows_blink (lit : connection.supportsBacklight = true)
    (switchable : isBacklightLine connection.backlightNumber = true) (levels : List Bool)
    : Follows (config.levels options) (levels.map .backlight)
        (connection.blink levels : StateM σ (Except GpioError Unit)) := by
  induction levels with
  | nil => exact .pure ()
  | cons on rest ih =>
      refine (follows_setBacklight set lit switchable on).bind (fun _ => .error _) fun _ => ?_
      exact .after (.wait .recorded Demo.blinkTime) fun _ => ih

/-- The program asks for the bytes of its script and then for the levels of the backlight. -/
theorem follows_perform
    (switchable
      : connection.supportsBacklight = true
        → isBacklightLine connection.backlightNumber = true)
    (text : String)
    : Makes (connection.perform text : StateM σ (Except GpioError Unit × Connection ω))
        fun calls outcome =>
          Adheres (config.levels options)
            (ScriptStep.requests (Demo.opening text)
              ++ (Demo.levels connection.supportsBacklight).map Request.backlight)
            calls outcome.1 := by
  have blinks
      : Follows (config.levels options)
          ((Demo.levels connection.supportsBacklight).map Request.backlight)
          (connection.blink (Demo.levels connection.supportsBacklight)
            : StateM σ (Except GpioError Unit)) := by
    cases lit : connection.supportsBacklight with
    | false => exact .pure ()
    | true => exact follows_blink set lit (switchable lit) Demo.blinking
  refine Makes.bind (follows_play set (Demo.opening text)) fun shown calls plays => ?_
  cases shown with
  | error cause => exact .pure (plays.broken .nothing rfl)
  | ok =>
      refine Makes.bind blinks fun blinked others levels => ?_
      have both := plays.append levels
      cases blinked with
      | error cause => exact .pure (by simpa using both)
      | ok =>
          have ending
              : Silent (do
                  Clock.wait .recorded Demo.showTime
                  connection.close : StateM σ (Except GpioError Unit × Connection ω)) :=
            (Silent.wait _ _).bind fun _ => silent_close connection
          refine Makes.mono ending fun last outcome idle => ?_
          rw [← List.append_assoc]
          exact (both.followed idle).anyhow outcome.1

end Set

/-- The program follows its plan, with the backlight just if its configuration has one, over the lines
of that configuration.
-/
theorem follows_present (settings : Settings) (env : Environment) (text : String)
    : let config := (PinConfig.load (settings.source env) settings.options).value
      Follows (config.levels settings.options)
        (Demo.plan (config.hasBacklight settings.options) text)
        (Demo.present settings env text : StateM σ (Except ConnectionError Unit)) := by
  intro config
  rw [Demo.present_eq, Demo.plan_eq]
  have lookups := PinConfig.load_ofLookups (settings.source_ofLookups env) settings.options
  have sets
      : Follows (config.levels settings.options) resetPlan
          (Connection.ofSource (settings.source env) settings.options .recorded
            : StateM σ (Except ConnectionError (Connection ω))) :=
    follows_ofSource lookups
  have obtains
      : Obtains
          (Connection.ofSource (settings.source env) settings.options .recorded
            : StateM σ (Except ConnectionError (Connection ω)))
          fun connection =>
            connection.Set config settings.options
            ∧ connection.supportsBacklight = config.hasBacklight settings.options
            ∧ (connection.supportsBacklight = true
              → isBacklightLine connection.backlightNumber = true) := by
    refine Connection.obtains_ofSource_of fun lines wired => ?_
    have lit : lines.backlight.isSome = config.hasBacklight settings.options := by
      have present := PinConfig.isSome_backlight_of_wiring wired
      simpa [Wiring.map] using present
    refine ⟨⟨lines, rfl, wired, rfl⟩, lit, fun supported => ?_⟩
    have enabled : config.hasBacklight settings.options = true := lit.symm.trans supported
    obtain ⟨wanted, line⟩ := Bool.and_eq_true_iff.mp enabled
    simp only [Connection.onLines, wanted, if_true]
    exact line
  refine Makes.bind (Makes.obtaining sets obtains) fun result calls both => ?_
  obtain ⟨adheres, obtained⟩ := both
  cases result with
  | error cause => exact .pure (adheres.broken .nothing rfl)
  | ok connection =>
      obtain ⟨set, lit, switchable⟩ := obtained connection rfl
      rw [← lit]
      refine Makes.bind (follows_perform set switchable text) fun outcome others performs => ?_
      refine Makes.bind (silent_discardConnection outcome.2) fun _ last idle => .pure ?_
      have joined := (adheres.append performs).followed idle
      simpa using joined.mapError ConnectionError.gpio

/-- Without numbers for its lines the program asks nothing. -/
theorem fails_present {settings : Settings} {env : Environment} {invalid : ConnectionError}
    (text : String)
    (unwired
      : (PinConfig.load (settings.source env) settings.options).value.wiring settings.options
        = .error invalid)
    : Fails (Demo.present settings env text : StateM σ (Except ConnectionError Unit)) := by
  rw [Demo.present_eq]
  have lookups := PinConfig.load_ofLookups (settings.source_ofLookups env) settings.options
  exact (fails_ofSource lookups unwired).bind fun cause => .error cause

end CharLcd

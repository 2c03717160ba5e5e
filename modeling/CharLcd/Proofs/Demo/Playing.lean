import CharLcd.Demo.Program
import CharLcd.Proofs.Display.Script

/-! The program on a connection.

The program plays a script of bytes and pauses, switches the backlight if there is one, waits and
closes the connection. Over a connection this is a row of its own operations, each one left out if
one before it fails.
-/

namespace CharLcd

/-- Switches the backlight to one level after the other, until a switch fails. -/
def Connection.blink {m : Type → Type} {ω : Type} [Monad m] [Journal m] [Clock m]
    [LineDriver m ω] (connection : Connection ω)
    : List Bool → m (Except GpioError Unit)
  | [] => return .ok ()
  | on :: rest => do
      match ← connection.setBacklight on with
      | .ok () =>
          Clock.wait .recorded Demo.blinkTime
          connection.blink rest
      | .error error => return .error error

namespace Demo

open ScriptStep (play)

/-- The script of what the program shows: the text in the first row, its version in the second. -/
def opening (text : String) : List ScriptStep :=
  Screen.prepareScript ++ (text.toList.flatMap Screen.charScript
    ++ ([.send .all .command 0xc0] ++ version.toList.flatMap Screen.charScript))

/-- The levels that the program switches a backlight to, if there is one. -/
def levels (lit : Bool) : List Bool :=
  if lit then blinking else []

section Parts

variable {m : Type → Type} [Monad m] [Journal m] [Clock m] [DisplayLink m]

/-- What the program does once the text is shown. -/
def finale : ExceptT GpioError m Unit := do
  if ← ExceptT.lift DisplayLink.supportsBacklight then
    blink blinking
  ExceptT.lift (Clock.wait .recorded showTime)
  ExceptT.mk DisplayLink.close

variable [LawfulMonad m]

omit [Clock m] in
/-- Showing text and version plays a script. -/
theorem run_opening (text : String)
    : ((do
          Screen.prepare
          Screen.print text
          Screen.setCursor 1 0
          Screen.print version) : ExceptT GpioError m Unit).run
      = play (opening text) := by
  have moved
      : (Screen.setCursor 1 0 : ExceptT GpioError m Unit).run
        = play [.send .all .command 0xc0] :=
    Screen.run_setCursor 1 0
  refine Screen.run_seq Screen.run_prepare (Screen.run_seq (Screen.run_printChars _) ?_)
  exact Screen.run_seq moved (Screen.run_printChars _)

theorem script_eq (text : String)
    : (script text : ExceptT GpioError m Unit)
      = (do
          (do
            Screen.prepare
            Screen.print text
            Screen.setCursor 1 0
            Screen.print version)
          finale) := by
  simp only [script, finale, bind_assoc]

end Parts

end Demo

namespace Connection

variable {m : Type → Type} {ω : Type} [Monad m] [LawfulMonad m] [Journal m] [Clock m]
variable [LineDriver m ω]

/-- Blinking leaves the connection as it is, by induction on the levels. -/
theorem run_blink (connection : Connection ω) (levels : List Bool)
    : ((Demo.blink levels).run : StateT (Connection ω) m _).run connection
      = (do return (← connection.blink levels, connection)) := by
  induction levels with
  | nil => simp only [Demo.blink, blink, ExceptT.run_pure, StateT.run_pure, pure_bind]
  | cons on rest ih =>
      have switched
          : (DisplayLink.setBacklight on : StateT (Connection ω) m _).run connection
            = (do return (← connection.setBacklight on, connection)) :=
        rfl
      have waited
          : (Clock.wait .recorded Demo.blinkTime : StateT (Connection ω) m Unit).run connection
            = (do return (← Clock.wait .recorded Demo.blinkTime, connection)) :=
        rfl
      simp only [Demo.blink, blink, ExceptT.run_bind, ExceptT.run_mk, ExceptT.run_lift,
        StateT.run_bind, switched, bind_assoc, pure_bind]
      apply bind_congr
      intro result
      cases result with
      | error error => simp only [StateT.run_pure, pure_bind]
      | ok =>
          simp only [StateT.run_bind, waited, bind_assoc, pure_bind, map_eq_pure_bind, ih]

/-- What the program does on a connection, and what is left of the connection then. -/
def perform (connection : Connection ω) (text : String)
    : m (Except GpioError Unit × Connection ω) := do
  match ← connection.play (Demo.opening text) with
  | .error error => return (.error error, connection)
  | .ok () =>
      match ← connection.blink (Demo.levels connection.supportsBacklight) with
      | .error error => return (.error error, connection)
      | .ok () =>
          Clock.wait .recorded Demo.showTime
          connection.close

/-- What is done once the text is shown: the backlight blinks if there is one, and after a wait the
connection is closed. By cases on there being a backlight.
-/
theorem run_finale (connection : Connection ω)
    : ((Demo.finale : ExceptT GpioError (StateT (Connection ω) m) Unit).run).run connection
      = (do
          match ← connection.blink (Demo.levels connection.supportsBacklight) with
          | .error error => return (.error error, connection)
          | .ok () =>
              Clock.wait .recorded Demo.showTime
              connection.close) := by
  have supported
      : (DisplayLink.supportsBacklight : StateT (Connection ω) m Bool).run connection
        = pure (connection.supportsBacklight, connection) :=
    rfl
  have waited
      : (Clock.wait .recorded Demo.showTime : StateT (Connection ω) m Unit).run connection
        = (do return (← Clock.wait .recorded Demo.showTime, connection)) :=
    rfl
  have closed
      : (DisplayLink.close : StateT (Connection ω) m _).run connection = connection.close :=
    rfl
  simp only [Demo.finale, ExceptT.run_bind, ExceptT.run_lift, StateT.run_bind, map_eq_pure_bind,
    supported, bind_assoc, pure_bind]
  cases connection.supportsBacklight with
  | false =>
      simp only [Demo.levels, blink, Bool.false_eq_true, if_false, ExceptT.run_bind,
        ExceptT.run_lift, ExceptT.run_mk, map_eq_pure_bind, bind_assoc, pure_bind,
        StateT.run_bind, waited, closed]
  | true =>
      simp only [Demo.levels, if_true, ExceptT.run_bind, ExceptT.run_lift, ExceptT.run_mk,
        map_eq_pure_bind, bind_assoc, pure_bind, StateT.run_bind, run_blink]
      apply bind_congr
      intro result
      cases result with
      | error error => simp only [StateT.run_pure]
      | ok => simp only [StateT.run_bind, waited, bind_assoc, pure_bind, closed]

/-- What the program does on a connection is a row of operations of the connection. -/
theorem run_script (connection : Connection ω) (text : String)
    : ((Demo.script text).run : StateT (Connection ω) m _).run connection
      = connection.perform text := by
  rw [Demo.script_eq, ExceptT.run_bind, Demo.run_opening, StateT.run_bind, run_play, perform,
    bind_assoc]
  apply bind_congr
  intro result
  cases result with
  | error error => simp only [pure_bind, StateT.run_pure]
  | ok => simp only [pure_bind, run_finale]

end Connection

/-- The program sets up a connection, works on it and gives up what is left of it. -/
theorem Demo.present_eq {m : Type → Type} {ω : Type} [Monad m] [LawfulMonad m] [Journal m]
    [Clock m] [LineDriver m ω] (settings : Settings) (env : Environment) (text : String)
    : (present settings env text : m (Except ConnectionError Unit))
      = (do
          match ← Connection.ofSource (settings.source env) settings.options .recorded with
          | .error error => return .error error
          | .ok connection =>
              let (result, left) ← (connection : Connection ω).perform text
              left.discard
              return result.mapError .gpio) := by
  apply bind_congr
  intro outcome
  cases outcome with
  | error error => rfl
  | ok connection => simp only [Connection.run_script]

end CharLcd

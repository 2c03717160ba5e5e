import CharLcd.Proofs.Config.Numbers
import CharLcd.Proofs.Display.Script

/-! A connection uses its backlight number only to tell whether there is a backlight.

The number is kept as it was configured and looked at again whenever the backlight is switched. All
numbers that are none of a backlight line are as good as each other for that; so in a plain session
each of them is replaced by one and the same, and every step does the same there.
-/

namespace CharLcd

variable {ω : Type}

/-- The same connection with one and the same number in place of all that are none of a backlight
line.
-/
def Connection.plain (connection : Connection ω) : Connection ω :=
  { connection with
    backlightNumber :=
      if isBacklightLine connection.backlightNumber then connection.backlightNumber
      else PinConfig.noBacklight }

/-- The same session with all of its connections plain. -/
def Session.plain (session : Session ω) : Session ω :=
  { session with connections := session.connections.map (Option.map Connection.plain) }

namespace Connection

/-- A plain connection has a backlight just if the connection has. -/
@[simp]
theorem isBacklightLine_plain (connection : Connection ω)
    : isBacklightLine connection.plain.backlightNumber
      = isBacklightLine connection.backlightNumber := by
  unfold plain
  cases lit : isBacklightLine connection.backlightNumber with
  | true => simp [lit]
  | false => rfl

/-- A plain connection is the same in all other respects. -/
@[simp]
theorem lines_plain (connection : Connection ω) : connection.plain.lines = connection.lines :=
  rfl

@[simp]
theorem timer_plain (connection : Connection ω) : connection.plain.timer = connection.timer :=
  rfl

@[simp]
theorem plain_plain (connection : Connection ω) : connection.plain.plain = connection.plain := by
  have same := connection.isBacklightLine_plain
  generalize lit : isBacklightLine connection.backlightNumber = present at same
  cases present with
  | true => simp [plain, lit]
  | false => simp [plain, lit]

@[simp]
theorem plain_comp_plain : (plain ∘ plain : Connection ω → Connection ω) = plain :=
  funext plain_plain

@[simp]
theorem supportsBacklight_plain (connection : Connection ω)
    : connection.plain.supportsBacklight = connection.supportsBacklight :=
  rfl

@[simp]
theorem status_plain (connection : Connection ω) : connection.plain.status = connection.status :=
  rfl

variable {m : Type → Type} [Monad m] [Journal m] [Clock m] [LineDriver m ω]

section Uses

variable (connection : Connection ω)

@[simp]
theorem send_plain (target : Target) (register : Register) (byte : UInt8)
    : (connection.plain.send target register byte : m (Except GpioError Unit))
      = connection.send target register byte :=
  rfl

@[simp]
theorem sendNibble_plain (target : Target) (register : Register) (nibble : UInt8)
    : (connection.plain.sendNibble target register nibble : m (Except GpioError Unit))
      = connection.sendNibble target register nibble :=
  rfl

omit [Journal m] [Clock m] in
@[simp]
theorem writeLine_plain (signal : Signal) (level : Bool)
    : (Session.writeLine signal level connection.plain : m Reply)
      = Session.writeLine signal level connection :=
  rfl

omit [Clock m] in
/-- Switching the backlight asks only whether the number is that of a backlight line. -/
@[simp]
theorem setBacklight_plain (on : Bool)
    : (connection.plain.setBacklight on : m (Except GpioError Unit))
      = connection.setBacklight on := by
  simp only [setBacklight, lines_plain, isBacklightLine_plain]

/-- A script is played alike, by induction on the script. -/
@[simp]
theorem play_plain (script : List ScriptStep)
    : (connection.plain.play script : m (Except GpioError Unit)) = connection.play script := by
  induction script with
  | nil => rfl
  | cons step rest ih =>
      cases step with
      | send target register byte => simp only [play, send_plain, ih]
      | replace c => simp only [play, ih]
      | pause time => simp only [play, pause, timer_plain, ih]

omit [Clock m] in
@[simp]
theorem discard_plain [LawfulMonad m]
    : (connection.plain.discard : m Unit) = connection.discard := by
  simp only [discard, close, lines_plain]
  cases connection.lines with
  | none => simp only [pure_bind]
  | some lines =>
      simp only [enter, bind_assoc, pure_bind]
      refine bind_congr fun result => bind_congr fun _ => ?_
      cases result <;> rfl

/-- What is followed over a connection is followed alike over the plain one. -/
@[simp]
theorem follow_plain (planned : Except GpioError (List ScriptStep))
    : (connection.plain.follow planned : m Reply) = connection.follow planned := by
  simp only [follow, play_plain]

end Uses

/-- An answer that comes with a connection, with that connection made plain. -/
def plainAfter {α : Type} (answer : α × Connection ω) : α × Connection ω :=
  (answer.1, answer.2.plain)

variable [LawfulMonad m]

omit [Clock m] in
/-- Closing leaves the same connection behind, up to numbers that are none of a backlight line. -/
theorem close_plain (connection : Connection ω)
    : plainAfter <$> (connection.plain.close : m _) = plainAfter <$> connection.close := by
  simp only [close, lines_plain]
  cases connection.lines with
  | none => simp only [map_pure, plainAfter, plain_plain]
  | some lines =>
      simp only [enter, bind_assoc, pure_bind, map_bind, map_pure]
      refine bind_congr fun result => bind_congr fun _ => ?_
      have same := plain_plain ({ connection with lines := none, stage := .closed } : Connection ω)
      exact congrArg (fun closed => pure (result, closed)) same

omit [Journal m] [Clock m] [LineDriver m ω] in
/-- What a result is answered with does not depend on what comes with it. -/
theorem plainAfter_ofResult (x : m (Except GpioError Unit × Connection ω))
    : plainAfter <$> (do
          let (result, closed) ← x
          return (Reply.ofResult result, closed))
      = (fun answer => (Reply.ofResult answer.1, answer.2)) <$> plainAfter <$> x := by
  simp only [map_eq_pure_bind, bind_assoc, pure_bind]
  rfl

/-- A step on a display does the same over the plain connection. By cases on the step. -/
theorem displayStep_plain (step : DisplayStep) (connection : Connection ω)
    : plainAfter <$> (step.run : StateT (Connection ω) m Reply).run connection.plain
      = plainAfter <$> (step.run : StateT (Connection ω) m Reply).run connection := by
  have kept {α : Type} (answer : α)
      : plainAfter (answer, connection.plain) = plainAfter (answer, connection) := by
    simp [plainAfter]
  cases plans : step.plan with
  | some planned => simp only [run_step plans, follow_plain, map_bind, map_pure, kept]
  | none =>
      cases step with
      | backlight on => simp only [run_backlight, setBacklight_plain, map_bind, map_pure, kept]
      | supportsBacklight =>
          have asked (connection : Connection ω)
              : (DisplayStep.supportsBacklight.run : StateT (Connection ω) m Reply).run connection
                = pure (.flag connection.supportsBacklight, connection) :=
            pure_bind _ _
          simp only [asked, supportsBacklight_plain, map_pure, kept]
      | close =>
          simp only [run_close, plainAfter_ofResult, close_plain]
      | _ => cases plans

/-- What bringing up a display leaves behind is brought up from the plain connection. -/
theorem map_plain_bringUp (connection : Connection ω) (config : PinConfig)
    (lines : Wiring (Line ω))
    : Except.map plain <$> (connection.bringUp lines config : m (Except ConnectionError _))
      = (do
          note (.stageEntered .protocolReset)
          match ← connection.plain.reset with
          | .error error =>
              let _ ← Line.releaseAll lines.toList.reverse
              return .error (.gpio error)
          | .ok () =>
              note (.stageEntered .ready)
              note (.connectionReady config.en config.rs
                [config.d7, config.d6, config.d5, config.d4])
              return .ok { connection.plain with stage := .ready }) := by
  simp only [bringUp, enter, bind_assoc, pure_bind, map_bind]
  refine bind_congr fun _ => bind_congr fun result => ?_
  cases result <;> simp only [map_bind, map_pure] <;> rfl

/-- Bringing up a display leaves the same connection behind, up to numbers that are none of a backlight
line, and reports the same if the numbers that it reports are the same.
-/
theorem bringUp_plain {connection opened : Connection ω} (same : connection.plain = opened.plain)
    {config other : PinConfig}
    (reported
      : ∀ signal ∈ [Signal.en, .rs, .d7, .d6, .d5, .d4], config.line signal = other.line signal)
    (lines : Wiring (Line ω))
    : Except.map plain <$> (connection.bringUp lines config : m (Except ConnectionError _))
      = Except.map plain <$> opened.bringUp lines other := by
  have en : config.en = other.en := reported .en (by decide)
  have rs : config.rs = other.rs := reported .rs (by decide)
  have d7 : config.d7 = other.d7 := reported .d7 (by decide)
  have d6 : config.d6 = other.d6 := reported .d6 (by decide)
  have d5 : config.d5 = other.d5 := reported .d5 (by decide)
  have d4 : config.d4 = other.d4 := reported .d4 (by decide)
  rw [map_plain_bringUp, map_plain_bringUp, same, en, rs, d7, d6, d5, d4]

section SetUp

variable {options : DisplayOptions} {config other : PinConfig}
variable (alike : options.Alike config.line other.line)

include alike

/-- A connection keeps the configured number of a backlight that is asked for, and it does not matter
which one it is where that is none of a backlight line.
-/
theorem plain_onLines (lines : Wiring (Line ω)) (timer : Timer)
    : (onLines lines config options timer).plain = (onLines lines other options timer).plain := by
  unfold onLines plain
  cases asked : options.backlight with
  | false => simp only [Bool.false_eq_true, if_false]
  | true =>
      simp only [if_true]
      rcases alike.backlight asked with same | ⟨none, none'⟩
      · have configured : config.backlight = other.backlight := same
        rw [configured]
      · have unlit : isBacklightLine config.backlight = false := none
        have unlit' : isBacklightLine other.backlight = false := none'
        simp only [unlit, unlit', Bool.false_eq_true, if_false]

/-- With its numbers checked, a display is set up the same way. -/
theorem establish_plain (numbers : Wiring UInt32) (timer : Timer)
    : Except.map plain <$> (establish numbers config options timer
          : m (Except ConnectionError (Connection ω)))
      = Except.map plain <$> establish numbers other options timer := by
  simp only [establish, map_bind]
  refine bind_congr fun _ => bind_congr fun result => ?_
  cases result with
  | error error => rfl
  | ok lines =>
      simp only [map_bind]
      refine bind_congr fun _ => bind_congr fun _ => ?_
      refine bringUp_plain (plain_onLines alike lines timer) (fun signal member => ?_) lines
      exact alike.required signal (List.mem_append_left _ member)

end SetUp

end Connection

-----------------------------------------------------------------------------------------
-- Sessions
-----------------------------------------------------------------------------------------

namespace Session

variable {m : Type → Type} [Monad m] [LawfulMonad m] [Journal m] [Clock m] [LineDriver m ω]

/-- What a step leads to, with all connections plain. -/
def plainAfter (result : Reply × Session ω) : Reply × Session ω :=
  (result.1, result.2.plain)

@[simp]
theorem plain_plain (session : Session ω) : session.plain.plain = session.plain := by
  simp [plain, Function.comp_def, Option.map_map]

/-- A new connection gets its number in the plain session as well. -/
theorem plainAfter_enroll (session : Session ω)
    (result : Except ConnectionError (Connection ω))
    : plainAfter (session.enroll result) = session.plain.enroll (result.map Connection.plain) := by
  cases result with
  | error error => rfl
  | ok connection => simp [plainAfter, enroll, plain, Except.map]

/-- Every step does the same in the plain session. By cases on the step. -/
theorem step_plain (env : Environment) (session : Session ω) (step : Step)
    : plainAfter <$> (session.plain.step env step : m (Reply × Session ω))
      = plainAfter <$> (session.step env step : m (Reply × Session ω)) := by
  have kept (reply : Reply) : plainAfter (reply, session.plain) = plainAfter (reply, session) := by
    simp [plainAfter]
  have outputs : session.plain.outputs = session.outputs := rfl
  have looked (slot : Nat)
      : occupant session.plain.connections slot
        = (occupant session.connections slot).map Connection.plain :=
    occupant_map _ _ _
  cases step with
  | «export» line =>
      simp only [step, exportLine, map_bind]
      apply bind_congr
      intro answer
      cases answer <;> simp [plain, plainAfter]
  | write slot level =>
      simp only [step, onOutput, outputs]
      cases occupant session.outputs slot <;> simp [kept]
  | release slot =>
      simp only [step, onOutput, outputs]
      cases occupant session.outputs slot <;> simp [plainAfter, plain, releaseOutput]
  | info slot =>
      simp only [step, onOutput, outputs]
      cases occupant session.outputs slot <;> simp [kept]
  | discard slot =>
      simp only [step, discardOutput, outputs]
      rcases session.outputs[slot]? with _ | _ | output <;> simp [plainAfter, plain]
  | init config options timer =>
      simp only [step, map_bind, map_pure, plainAfter_enroll, plain_plain]
  | connect source options timer =>
      simp only [step, map_bind, map_pure, plainAfter_enroll, plain_plain]
  | display slot step =>
      simp only [Session.step, onConnection, looked]
      cases occupant session.connections slot with
      | none => simp [kept]
      | some connection =>
          let place (answer : Reply × Connection ω) : Reply × Session ω :=
            (answer.1,
              { session.plain with
                connections := session.plain.connections.set slot (some answer.2) })
          have placed (session' : Session ω) (same : session'.plain = session.plain)
              (connection : Connection ω)
              : plainAfter <$> (session'.displayStep slot step connection : m (Reply × Session ω))
                = place <$> Connection.plainAfter
                    <$> (step.run : StateT (Connection ω) m Reply).run connection := by
            have outputs := congrArg Session.outputs same
            have connections := congrArg Session.connections same
            simp only [plain] at outputs connections
            simp [displayStep, plainAfter, plain, place, Connection.plainAfter, List.map_set,
              outputs, connections]
          rw [Option.map_some]
          simp only [placed _ (plain_plain session), placed session rfl,
            Connection.displayStep_plain]
  | sendNibble slot target register nibble =>
      simp only [step, onConnection, looked]
      cases occupant session.connections slot <;> simp [kept, sendNibble]
  | writeLine slot signal level =>
      simp only [step, onConnection, looked]
      cases occupant session.connections slot <;> simp [kept]
  | status slot =>
      simp only [step, onConnection, looked]
      cases occupant session.connections slot <;> simp [kept]
  | disconnect slot =>
      have found
          : session.plain.connections[slot]?
            = session.connections[slot]?.map (Option.map Connection.plain) :=
        List.getElem?_map
      simp only [step, disconnect, found]
      rcases session.connections[slot]? with _ | _ | connection <;>
        simp [plainAfter, plain, List.map_set]

end Session

end CharLcd

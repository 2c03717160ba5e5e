import CharLcd.Session.DisplayStep

/-! The operations of a screen as scripts.

An operation sends bytes and pauses in an order that does not depend on the display; only a byte
that cannot be sent cuts it short. So it is the same as playing a list of steps, and what is to be
said of operations can be said by induction on lists.
-/

namespace CharLcd

/-- One step of a script. -/
inductive ScriptStep where
  | send (target : Target) (register : Register) (byte : UInt8)
  /-- Reports a character that the display cannot show. -/
  | replace (c : Char)
  | pause (time : UInt32)
deriving DecidableEq, Repr

namespace ScriptStep

variable {m : Type → Type} [Monad m] [Journal m] [DisplayLink m]

/-- Plays a script up to the first byte that cannot be sent. -/
def play : List ScriptStep → m (Except GpioError Unit)
  | [] => return .ok ()
  | send target register byte :: rest => do
      match ← DisplayLink.send target register byte with
      | .ok () => play rest
      | .error error => return .error error
  | replace c :: rest => do
      note (.notAscii c)
      play rest
  | pause time :: rest => do
      DisplayLink.pause time
      play rest

/-- A script is played part by part, the second part only if the first one came to its end. By
induction on the first part.
-/
theorem play_append [LawfulMonad m] (first second : List ScriptStep)
    : (play (first ++ second) : m (Except GpioError Unit))
      = (do
          match ← play first with
          | .ok () => play second
          | .error error => return .error error) := by
  induction first with
  | nil => simp only [List.nil_append, play, pure_bind]
  | cons step rest ih =>
      cases step with
      | send target register byte =>
          simp only [List.cons_append, play, bind_assoc]
          apply bind_congr
          intro result
          cases result with
          | ok => exact ih
          | error error => simp only [pure_bind]
      | replace c => simp only [List.cons_append, play, bind_assoc, ih]
      | pause time => simp only [List.cons_append, play, bind_assoc, ih]

/-- The bytes of a script with their addresses, in order. -/
def sends (script : List ScriptStep) : List (Target × Register × UInt8) :=
  script.filterMap fun
    | send target register byte => some (target, register, byte)
    | replace _ | pause _ => none

end ScriptStep

-----------------------------------------------------------------------------------------
-- The scripts of a screen
-----------------------------------------------------------------------------------------

namespace Screen

open ScriptStep (play play_append)

/-- Clearing: the instruction, then a wait. -/
def clearScript : List ScriptStep :=
  [.send .all .command clearScreen, .pause clearTime]

/-- Preparing: interface and screen are set up, the screen is cleared, then the cursor is told to
advance.
-/
def prepareScript : List ScriptStep :=
  [.send .all .command functionSet, .send .all .command displayOn,
    .send .all .command clearScreen, .pause clearTime, .send .all .command entryMode]

/-- One character: its code, or a report and the replacement. -/
def charScript (c : Char) : List ScriptStep :=
  if c.toNat < 0x80 then [.send .all .data c.toNat.toUInt8]
  else [.replace c, .send .all .data replacement]

/-- The position of the cursor as an instruction, if the display has that position. -/
def cursorScript (row column : Nat) : Except GpioError (List ScriptStep) :=
  match rowOffsets[row]? with
  | none => .error .invalidArgument
  | some offset =>
      if columns ≤ column then .error .invalidArgument
      else .ok [.send .all .command (cursorBit ||| (offset + column.toUInt8))]

variable {m : Type → Type} [Monad m] [LawfulMonad m] [Journal m] [DisplayLink m]

/-- A single byte is a script of its own. -/
theorem play_send (target : Target) (register : Register) (byte : UInt8)
    : (play [.send target register byte] : m (Except GpioError Unit))
      = DisplayLink.send target register byte := by
  refine Eq.trans (bind_congr fun result => ?_) (bind_pure _)
  cases result <;> rfl

/-- Operations in a row play their scripts in a row. -/
theorem run_seq {first second : ExceptT GpioError m Unit} {script others : List ScriptStep}
    (played : first.run = play script) (next : second.run = play others)
    : (do first; second : ExceptT GpioError m Unit).run = play (script ++ others) := by
  rw [ExceptT.run_bind, played, next, play_append]
  apply bind_congr
  intro result
  cases result <;> rfl

/-- Sending an instruction plays it. -/
theorem run_command (byte : UInt8)
    : (command byte : ExceptT GpioError m Unit).run = play [.send .all .command byte] :=
  (play_send _ _ _).symm

/-- Sending a character code plays it. -/
theorem run_data (byte : UInt8)
    : (data byte : ExceptT GpioError m Unit).run = play [.send .all .data byte] :=
  (play_send _ _ _).symm

/-- Pausing plays a pause. -/
theorem run_pause (time : UInt32)
    : (ExceptT.lift (DisplayLink.pause time) : ExceptT GpioError m Unit).run
      = play [.pause time] := by
  simp only [ExceptT.run_lift, play, map_eq_pure_bind]

/-- Clearing plays its script. -/
theorem run_clear : (clear : ExceptT GpioError m Unit).run = play clearScript :=
  run_seq (run_command _) (run_pause _)

/-- Preparing plays its script. -/
theorem run_prepare : (prepare : ExceptT GpioError m Unit).run = play prepareScript :=
  run_seq (run_command _) (run_seq (run_command _) (run_seq run_clear (run_command _)))

/-- Showing a character plays its script, by cases on its being in ASCII. -/
theorem run_printChar (c : Char)
    : (printChar c : ExceptT GpioError m Unit).run = play (charScript c) := by
  unfold printChar charScript
  split
  · exact run_data _
  · have noted
        : (ExceptT.lift (note (.notAscii c)) : ExceptT GpioError m Unit).run
          = play [.replace c] := by
      simp only [ExceptT.run_lift, play, map_eq_pure_bind]
    exact run_seq noted (run_data _)

/-- Showing characters plays the script of one after the other, by induction on them. -/
theorem run_printChars (text : List Char)
    : (printChars text : ExceptT GpioError m Unit).run = play (text.flatMap charScript) := by
  induction text with
  | nil => rfl
  | cons c rest ih => exact run_seq (run_printChar c) ih

/-- Moving the cursor plays its script, or is refused without playing anything. -/
theorem run_setCursor (row column : Nat)
    : (setCursor row column : ExceptT GpioError m Unit).run
      = match cursorScript row column with
        | .ok script => play script
        | .error error => return .error error := by
  unfold setCursor cursorScript
  cases rowOffsets[row]? with
  | none => rfl
  | some offset =>
      simp only
      split
      · rfl
      · exact run_command _

end Screen

-----------------------------------------------------------------------------------------
-- The steps on a display that are scripts
-----------------------------------------------------------------------------------------

namespace DisplayStep

open ScriptStep (play)

/-- The script of a step, or the refusal in its place. Switching or asking for a backlight and
closing are not scripts.
-/
def plan : DisplayStep → Option (Except GpioError (List ScriptStep))
  | send target register byte =>
      some ((Target.ofId target).map fun target => [.send target register byte])
  | sendCommand target byte =>
      some ((Target.ofId target).map fun target => [.send target .command byte])
  | sendData target byte =>
      some ((Target.ofId target).map fun target => [.send target .data byte])
  | pause time => some (.ok [.pause time])
  | prepare => some (.ok Screen.prepareScript)
  | clear => some (.ok Screen.clearScript)
  | print text => some (.ok (text.toList.flatMap Screen.charScript))
  | setCursor row column => some (Screen.cursorScript row column)
  | backlight _ | supportsBacklight | close => none

variable {m : Type → Type} [Monad m] [LawfulMonad m] [Journal m] [DisplayLink m]

/-- What a plan answers when it is carried out. -/
def follow : Except GpioError (List ScriptStep) → m Reply
  | .ok script => return .ofResult (← play script)
  | .error error => return .refused error

/-- Sending a byte follows its plan, which is a refusal for a number that is no target. -/
theorem sendTo_eq_follow (target : UInt8) (register : Register) (byte : UInt8)
    : (sendTo target register byte : m Reply)
      = follow ((Target.ofId target).map fun target => [.send target register byte]) := by
  unfold sendTo
  cases Target.ofId target with
  | error error => rfl
  | ok target =>
      show _ = (do return .ofResult (← play [.send target register byte]) : m Reply)
      rw [Screen.play_send]

/-- A step that has a plan follows it, by cases on the step. -/
theorem run_eq_follow {step : DisplayStep} {planned : Except GpioError (List ScriptStep)}
    (plans : step.plan = some planned)
    : (step.run : m Reply) = follow planned := by
  cases step with
  | send target register byte =>
      cases plans
      exact sendTo_eq_follow target register byte
  | sendCommand target byte =>
      cases plans
      exact sendTo_eq_follow target .command byte
  | sendData target byte =>
      cases plans
      exact sendTo_eq_follow target .data byte
  | pause time =>
      cases plans
      simp only [run, follow, play, bind_assoc, pure_bind]
      rfl
  | prepare =>
      cases plans
      simp only [run, script, Screen.run_prepare, follow]
  | clear =>
      cases plans
      simp only [run, script, Screen.run_clear, follow]
  | print text =>
      cases plans
      simp only [run, script, Screen.print, Screen.run_printChars, follow]
  | setCursor row column =>
      cases plans
      simp only [run, script, Screen.run_setCursor]
      cases Screen.cursorScript row column with
      | ok script => rfl
      | error error => simp only [pure_bind, follow, Reply.ofResult]
  | backlight _ | supportsBacklight | close => cases plans

end DisplayStep

-----------------------------------------------------------------------------------------
-- Scripts over a connection
-----------------------------------------------------------------------------------------

namespace Connection

variable {m : Type → Type} {ω : Type} [Monad m] [Journal m] [Clock m] [LineDriver m ω]

/-- Plays a script over a connection. -/
def play (connection : Connection ω) : List ScriptStep → m (Except GpioError Unit)
  | [] => return .ok ()
  | .send target register byte :: rest => do
      match ← connection.send target register byte with
      | .ok () => connection.play rest
      | .error error => return .error error
  | .replace c :: rest => do
      note (.notAscii c)
      connection.play rest
  | .pause time :: rest => do
      connection.pause time
      connection.play rest

/-- What a plan answers when it is carried out over a connection. -/
def follow (connection : Connection ω) : Except GpioError (List ScriptStep) → m Reply
  | .ok script => return .ofResult (← connection.play script)
  | .error error => return .refused error

variable [LawfulMonad m]

/-- A script leaves the connection that it is played over as it is, by induction on the script. -/
theorem run_play (connection : Connection ω) (script : List ScriptStep)
    : (ScriptStep.play script : StateT (Connection ω) m _).run connection
      = (do return (← connection.play script, connection)) := by
  induction script with
  | nil => simp only [ScriptStep.play, play, StateT.run_pure, pure_bind]
  | cons step rest ih =>
      cases step with
      | send target register byte =>
          have sent
              : (DisplayLink.send target register byte : StateT (Connection ω) m _).run connection
                = (do return (← connection.send target register byte, connection)) :=
            rfl
          simp only [ScriptStep.play, play, StateT.run_bind, sent, bind_assoc, pure_bind]
          apply bind_congr
          intro result
          cases result with
          | ok => exact ih
          | error error => simp only [StateT.run_pure, pure_bind]
      | replace c =>
          have noted
              : (note (.notAscii c) : StateT (Connection ω) m Unit).run connection
                = (do return (← note (.notAscii c), connection)) :=
            rfl
          simp only [ScriptStep.play, play, StateT.run_bind, noted, bind_assoc, pure_bind, ih]
      | pause time =>
          have paused
              : (DisplayLink.pause time : StateT (Connection ω) m Unit).run connection
                = (do return (← connection.pause time, connection)) :=
            rfl
          simp only [ScriptStep.play, play, StateT.run_bind, paused, bind_assoc, pure_bind, ih]

/-- A step that has a plan follows it over a connection, which stays as it is. -/
theorem run_step {step : DisplayStep} {planned : Except GpioError (List ScriptStep)}
    (plans : step.plan = some planned) (connection : Connection ω)
    : (step.run : StateT (Connection ω) m Reply).run connection
      = (do return (← connection.follow planned, connection)) := by
  rw [DisplayStep.run_eq_follow plans]
  cases planned with
  | error error =>
      simp only [DisplayStep.follow, follow, StateT.run_pure, pure_bind]
  | ok script =>
      simp only [DisplayStep.follow, follow, StateT.run_bind, run_play, bind_assoc, pure_bind,
        StateT.run_pure]

/-- Switching the backlight leaves the connection as it is. -/
theorem run_backlight (on : Bool) (connection : Connection ω)
    : ((DisplayStep.backlight on).run : StateT (Connection ω) m Reply).run connection
      = (do return (.ofResult (← connection.setBacklight on), connection)) := by
  have switched
      : (DisplayLink.setBacklight on : StateT (Connection ω) m _).run connection
        = (do return (← connection.setBacklight on, connection)) :=
    rfl
  simp only [DisplayStep.run, StateT.run_bind, switched, bind_assoc, pure_bind, StateT.run_pure]

omit [LawfulMonad m] in
/-- Closing in a step is closing the connection. -/
theorem run_close (connection : Connection ω)
    : (DisplayStep.close.run : StateT (Connection ω) m Reply).run connection
      = (do
          let (result, closed) ← connection.close
          return (.ofResult result, closed)) := by
  have given
      : (DisplayLink.close : StateT (Connection ω) m _).run connection = connection.close :=
    rfl
  simp only [DisplayStep.run, StateT.run_bind, given, StateT.run_pure]

end Connection

end CharLcd

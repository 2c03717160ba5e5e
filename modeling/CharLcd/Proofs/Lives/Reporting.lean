import CharLcd.Proofs.Lives.Standing
import CharLcd.Proofs.Setup.Stages

/-! The stages that each step on a connection reports, on every driver.

What is done with a connection reports no stage. Only a step that ends one that has its lines reports
that it is closed. To set one up is reported stage by stage.
-/

namespace CharLcd

open LineCall
open Session (occupant)

variable {σ ω α β : Type}
variable [Journal (StateM σ)] [Clock (StateM σ)] [LineDriver (StateM σ) ω]

-----------------------------------------------------------------------------------------
-- Programs that report stages
-----------------------------------------------------------------------------------------

/-- A program that reports these stages, whatever fails. -/
def Reports (reported : List Stage) (x : StateM σ α) : Prop :=
  Makes x fun (calls : List (LineCall ω)) _ => stages calls = reported

namespace Reports

theorem pure (value : α) : Reports [] (pure value : StateM σ α) :=
  Makes.pure rfl

theorem bind {first second : List Stage} {x : StateM σ α} {f : α → StateM σ β}
    (reports : Reports first x) (next : ∀ value, Reports second (f value))
    : Reports (first ++ second) (x >>= f) := by
  refine Makes.bind reports fun value calls same => (next value).mono fun others _ also => ?_
  rw [stages_append, same, also]

/-- What is done before without a report does not matter. -/
theorem after {reported : List Stage} {x : StateM σ α} {f : α → StateM σ β} (quiet : Reports [] x)
    (next : ∀ value, Reports reported (f value))
    : Reports reported (x >>= f) :=
  quiet.bind next

/-- Nor does what is done afterwards. -/
theorem before {reported : List Stage} {x : StateM σ α} {f : α → StateM σ β}
    (reports : Reports reported x) (quiet : ∀ value, Reports [] (f value))
    : Reports reported (x >>= f) :=
  List.append_nil reported ▸ reports.bind quiet

theorem noted {entry : Note} (unstaged : entry.stage? = none)
    : Reports [] (note entry : StateM σ Unit) := by
  refine (Makes.noted entry).mono fun calls _ only => ?_
  subst only
  simp [stages, entries, entry?, unstaged]

theorem entered (stage : Stage) : Reports [stage] (note (.stageEntered stage) : StateM σ Unit) :=
  (Makes.noted _).mono fun _ _ only => only ▸ rfl

/-- What shows no stage reports none. -/
theorem of_reveals {shown : α → Marks} {x : StateM σ α} (reveals : Reveals shown x)
    (unstaged : ∀ value, (shown value).stages = [])
    : Reports [] x :=
  Makes.mono reveals fun _ value same => (congrArg Marks.stages same).trans (unstaged value)

end Reports

-----------------------------------------------------------------------------------------
-- Operations on a connection
-----------------------------------------------------------------------------------------

namespace Connection

variable (connection : Connection ω)

theorem reports_run (target : Target) (steps : Wiring (Line ω) → List (BusStep ω))
    : Reports [] (connection.run target steps : StateM σ (Except GpioError Unit)) := by
  unfold run
  cases connection.lines with
  | none => exact .pure _
  | some lines =>
      have transfers
          : Reports [] (transfer connection.timer (steps lines) : StateM σ (Except GpioError Unit)) :=
        .of_reveals (reveals_transfer _ _) fun _ => rfl
      simp only
      split
      · exact .after (.noted rfl) fun _ => transfers
      · exact transfers

theorem reports_send (target : Target) (register : Register) (byte : UInt8)
    : Reports [] (connection.send target register byte : StateM σ (Except GpioError Unit)) :=
  .after (.noted rfl) fun _ => connection.reports_run target _

theorem reports_sendNibble (target : Target) (register : Register) (nibble : UInt8)
    : Reports [] (connection.sendNibble target register nibble
        : StateM σ (Except GpioError Unit)) := by
  unfold sendNibble
  split
  · exact .pure _
  · exact .after (.noted rfl) fun _ => connection.reports_run target _

theorem reports_setBacklight (on : Bool)
    : Reports [] (connection.setBacklight on : StateM σ (Except GpioError Unit)) := by
  unfold setBacklight
  cases connection.lines with
  | none => exact .pure _
  | some lines =>
      simp only
      split
      · exact .pure _
      · cases lines.backlight with
        | none => exact .pure _
        | some line =>
            refine .after (.noted rfl) fun _ => .after (.of_reveals (.write line on) fun _ => rfl) ?_
            intro result
            cases result with
            | ok => exact .pure _
            | error cause => exact .after (.noted rfl) fun _ => .pure _

/-- A script reports no stage, by induction on the script. -/
theorem reports_play (script : List ScriptStep)
    : Reports [] (connection.play script : StateM σ (Except GpioError Unit)) := by
  induction script with
  | nil => exact .pure _
  | cons step rest ih =>
      cases step with
      | send target register byte =>
          refine .after (connection.reports_send target register byte) fun result => ?_
          cases result with
          | ok => exact ih
          | error cause => exact .pure _
      | replace c => exact .after (.noted rfl) fun _ => ih
      | pause time => exact .after (.of_reveals (.wait _ time) fun _ => rfl) fun _ => ih

/-- Sending a nibble reports no stage, whether or not the number is one of a target. -/
theorem reports_sendNibbleTo (target : UInt8) (register : Register) (nibble : UInt8)
    : Reports [] (Session.sendNibble target register nibble connection : StateM σ Reply) := by
  unfold Session.sendNibble
  cases Target.ofId target with
  | error error => exact .pure _
  | ok target => exact .before (connection.reports_sendNibble target register nibble) fun _ => .pure _

/-- Setting the level of the line of one signal reports no stage, if there is such a line. -/
theorem reports_writeLine (signal : Signal) (level : Bool)
    : Reports [] (Session.writeLine signal level connection : StateM σ Reply) := by
  unfold Session.writeLine writeLine?
  cases connection.lines with
  | none => exact .pure _
  | some lines =>
      cases found : lines.get? signal with
      | none => simpa [found] using Reports.pure Reply.noLine
      | some line =>
          simp only [Option.bind_eq_bind, Option.bind_some, found, Option.pure_def]
          exact .before (.of_reveals (.write line level) fun _ => rfl) fun _ => .pure _

/-- The stage that is reported when a connection is closed: none if it was closed before. -/
def closing (connection : Connection ω) : List Stage :=
  if connection.lines.isSome then [.closed] else []

theorem reports_close
    : Reports connection.closing
        (connection.close : StateM σ (Except GpioError Unit × Connection ω)) := by
  unfold close closing
  cases connection.lines with
  | none => exact .pure _
  | some lines =>
      refine .after (.of_reveals (reveals_releaseAll lines.toList) fun _ => rfl) fun result => ?_
      exact .before (.before (.entered .closed) fun _ => .pure _) fun _ => .pure _

theorem reports_discard
    : Reports connection.closing (connection.discard : StateM σ Unit) := by
  refine .before connection.reports_close fun outcome => ?_
  obtain ⟨⟨⟩ | ⟨⟩, left⟩ := outcome
  · exact .noted rfl
  · exact .pure ()

end Connection

-----------------------------------------------------------------------------------------
-- Steps on a connection
-----------------------------------------------------------------------------------------

namespace Session

variable (env : Environment) (session : Session ω)

/-- The stage that is reported when the connection in a place is ended, if there is one. -/
def closing (slot : Nat) : List Stage :=
  ((occupant session.connections slot).map Connection.closing).getD []

theorem closing_of_present {slot : Nat} {connection : Connection ω}
    (present : occupant session.connections slot = some connection)
    : session.closing slot = connection.closing := by
  rw [closing, present]
  rfl

theorem closing_of_absent {slot : Nat} (absent : occupant session.connections slot = none)
    : session.closing slot = [] := by
  rw [closing, absent]
  rfl

/-- A step on a display reports that it is closed if it closes it, and no stage else. -/
theorem reports_displayStep (slot : Nat) (step : DisplayStep) (connection : Connection ω)
    : Reports (if step = .close then connection.closing else [])
        (session.displayStep slot step connection : StateM σ (Reply × Session ω)) := by
  refine .before ?_ fun _ => .pure _
  cases planned : step.plan with
  | some plan =>
      have stays : step ≠ .close := by
        rintro rfl
        cases planned
      rw [if_neg stays, connection.run_step planned]
      refine .before ?_ fun _ => .pure _
      cases plan with
      | ok script => exact .before (connection.reports_play script) fun _ => .pure _
      | error error => exact .pure _
  | none =>
      cases step with
      | backlight on =>
          rw [connection.run_backlight]
          exact .before (connection.reports_setBacklight on) fun _ => .pure _
      | supportsBacklight => exact .pure (Reply.flag connection.supportsBacklight, connection)
      | close =>
          rw [connection.run_close]
          exact .before connection.reports_close fun _ => .pure _
      | _ => cases planned

/-- A step about the connection in a place reports that it is closed if it ends it and it was open, and
no stage else. By cases on the step.
-/
theorem reports_step {step : Step} {slot : Nat} (about : step.concerns slot = true)
    : Reports (if step.ends slot then session.closing slot else [])
        (session.step env step : StateM σ (Reply × Session ω)) := by
  have nothing (reply : Reply) (absent : occupant session.connections slot = none)
      : Reports (if step.ends slot then session.closing slot else [])
          (Pure.pure (reply, session) : StateM σ (Reply × Session ω)) := by
    rw [session.closing_of_absent absent, ite_self]
    exact .pure _
  cases step with
  | display place step =>
      obtain rfl := beq_iff_eq.mp about
      simp only [Session.step, onConnection]
      cases present : occupant session.connections place with
      | none => exact nothing _ present
      | some connection =>
          rw [session.closing_of_present present]
          have reports := session.reports_displayStep (σ := σ) place step connection
          cases step with
          | close => simpa [Step.ends] using reports
          | _ => simpa [Step.ends] using reports
  | sendNibble place target register nibble =>
      obtain rfl := beq_iff_eq.mp about
      simp only [Session.step, onConnection]
      cases present : occupant session.connections place with
      | none => exact nothing _ present
      | some connection =>
          exact .before (connection.reports_sendNibbleTo target register nibble) fun _ => .pure _
  | writeLine place signal level =>
      obtain rfl := beq_iff_eq.mp about
      simp only [Session.step, onConnection]
      cases present : occupant session.connections place with
      | none => exact nothing _ present
      | some connection =>
          exact .before (connection.reports_writeLine signal level) fun _ => .pure _
  | status place =>
      obtain rfl := beq_iff_eq.mp about
      simp only [Session.step, onConnection]
      cases present : occupant session.connections place with
      | none => exact nothing _ present
      | some connection => exact .pure _
  | disconnect place =>
      obtain rfl := beq_iff_eq.mp about
      simp only [Session.step, disconnect]
      cases there : session.connections[place]? with
      | none => exact nothing _ (by rw [occupant, there]; rfl)
      | some found =>
          cases found with
          | none => exact nothing _ (by rw [occupant, there]; rfl)
          | some connection =>
              have present : occupant session.connections place = some connection := by
                rw [occupant, there]
                rfl
              rw [session.closing_of_present present, Step.ends, if_pos (beq_self_eq_true place)]
              exact .before connection.reports_discard fun _ => .pure _
  | _ => cases about

end Session

end CharLcd

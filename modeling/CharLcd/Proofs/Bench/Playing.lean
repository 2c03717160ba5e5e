import CharLcd.Proofs.Bench.Replay
import CharLcd.Proofs.Bench.Spacing
import CharLcd.Proofs.Display.Script
import CharLcd.Proofs.Display.Setup
import CharLcd.Bench.Basic

/-! What an open connection records on a bench that can write its lines.

A line that can be written always takes its level, so nothing cuts a transfer or a script short, and
what is recorded follows from what was asked for.
-/

namespace CharLcd.Bench

-----------------------------------------------------------------------------------------
-- Programs that record
-----------------------------------------------------------------------------------------

/-- A bench has recorded some events, and is otherwise the same for those who use its lines. -/
structure Logs (log : List Event) (before after : Bench) : Prop where
  events : after.events.toList = before.events.toList ++ log
  held : after.held = before.held
  failing : after.failingWrites = before.failingWrites

theorem Logs.trans {first second : List Event} {before middle after : Bench}
    (earlier : Logs first before middle) (later : Logs second middle after)
    : Logs (first ++ second) before after where
  events := by rw [later.events, earlier.events, List.append_assoc]
  held := later.held.trans earlier.held
  failing := later.failing.trans earlier.failing

variable {α β : Type} {failing : List UInt32}

/-- On a bench where just the lines `failing` cannot be written, a program answers `answer` and
records `log`.
-/
def Plays (failing : List UInt32) (x : StateM Bench α) (answer : α) (log : List Event) : Prop :=
  ∀ bench : Bench,
    bench.failingWrites = failing → (x.run bench).1 = answer ∧ Logs log bench (x.run bench).2

namespace Plays

theorem pure (answer : α) : Plays failing (pure answer) answer [] :=
  fun _ _ => ⟨rfl, (List.append_nil _).symm, rfl, rfl⟩

/-- What follows is recorded behind what came before. -/
theorem bind {x : StateM Bench α} {f : α → StateM Bench β} {answer : α} {result : β}
    {log rest : List Event} (first : Plays failing x answer log)
    (next : Plays failing (f answer) result rest)
    : Plays failing (x >>= f) result (log ++ rest) := by
  intro bench fails
  obtain ⟨answered, logged⟩ := first bench fails
  have follows := next (x.run bench).2 (logged.failing.trans fails)
  rw [← answered] at follows
  exact ⟨follows.1, logged.trans follows.2⟩

/-- Nothing is recorded by what only looks at an answer. -/
theorem bind_quiet {x : StateM Bench α} {f : α → StateM Bench β} {answer : α} {result : β}
    {log : List Event} (first : Plays failing x answer log)
    (next : Plays failing (f answer) result [])
    : Plays failing (x >>= f) result log := by
  rw [← List.append_nil log]
  exact first.bind next

theorem noted (entry : Note) : Plays failing (note entry) () [] :=
  fun _ _ => ⟨rfl, (List.append_nil _).symm, rfl, rfl⟩

/-- A note is not recorded as an event. -/
theorem noted_bind {entry : Note} {x : StateM Bench α} {answer : α} {log : List Event}
    (rest : Plays failing x answer log)
    : Plays failing (do note entry; x) answer log :=
  (noted entry).bind rest

/-- A wait is recorded if the waits of its connection are. -/
theorem wait (failing : List UInt32) (timer : Timer) (time : UInt32)
    : Plays failing (Clock.wait timer time) () (timer.events time) := by
  cases timer with
  | recorded => exact fun bench _ => ⟨rfl, Array.toList_push, rfl, rfl⟩
  | unrecorded => exact fun bench _ => ⟨rfl, (List.append_nil _).symm, rfl, rfl⟩

/-- A line that can be written takes its level. -/
theorem write {line : Line Unit} (works : line.number ∉ failing) (level : Bool)
    : Plays failing (LineDriver.write line level) (.ok ()) [.written line.number level] := by
  intro bench same
  subst same
  have answered
      : (LineDriver.write line level : StateM Bench (Except GpioError Unit)).run bench
        = (.ok (), bench.record (.written line.number level)) :=
    if_neg works
  rw [answered]
  exact ⟨rfl, by simp [record], rfl, rfl⟩

/-- A line that cannot be written does not, and nothing is recorded. -/
theorem write_failing {line : Line Unit} (fails : line.number ∈ failing) (level : Bool)
    : Plays failing (LineDriver.write line level)
        (.error (.writeFailed line.number .brokenPipe)) [] := by
  intro bench same
  subst same
  have answered
      : (LineDriver.write line level : StateM Bench (Except GpioError Unit)).run bench
        = (.error (.writeFailed line.number .brokenPipe), bench) :=
    if_pos fails
  rw [answered]
  exact ⟨rfl, (List.append_nil _).symm, rfl, rfl⟩

end Plays

theorem writes_append (log rest : List Event)
    : Events.writes (log ++ rest) = Events.writes log ++ Events.writes rest :=
  List.filterMap_append

-----------------------------------------------------------------------------------------
-- An open connection whose lines can be written
-----------------------------------------------------------------------------------------

/-- The steps of a transfer over lines that can be written all succeed. By induction on the steps.
-/
theorem plays_transfer (timer : Timer) {steps : List (BusStep Unit)}
    (work : ∀ line ∈ BusStep.driven steps, line.number ∉ failing)
    : ∃ log : List Event,
        Events.writes log = BusStep.writes steps
        ∧ Plays failing (transfer timer steps) (.ok ()) log := by
  induction steps with
  | nil => exact ⟨[], rfl, .pure _⟩
  | cons step rest ih =>
      cases step with
      | settle =>
          obtain ⟨log, written, plays⟩ := ih work
          have waits := Plays.wait failing timer settleTime
          refine ⟨timer.events settleTime ++ log, ?_, waits.bind plays⟩
          rw [writes_append, Timer.writes_events, List.nil_append, written]
          rfl
      | drive line level =>
          obtain ⟨log, written, plays⟩ := ih fun line member =>
            work line (List.mem_cons_of_mem _ member)
          refine ⟨.written line.number level :: log, congrArg (_ :: ·) written, ?_⟩
          exact (Plays.write (work line List.mem_cons_self) level).bind plays

variable {connection : Connection Unit} {lines : Wiring (Line Unit)}

/-- A transfer over lines that can be written runs to its end, with or without a warning. -/
theorem plays_run (opened : connection.lines = some lines)
    (work : ∀ line ∈ lines.bus, line.number ∉ failing) (target : Target)
    (planned : Wiring (Line Unit) → List (BusStep Unit))
    (inside : BusStep.driven (planned lines) ⊆ lines.bus)
    : ∃ log : List Event,
        Events.writes log = BusStep.writes (planned lines)
        ∧ Plays failing (connection.run target planned) (.ok ()) log := by
  have works (line : Line Unit) (member : line ∈ BusStep.driven (planned lines))
      : line.number ∉ failing :=
    work line (inside member)
  obtain ⟨log, written, plays⟩ := plays_transfer connection.timer works
  refine ⟨log, written, ?_⟩
  simp only [Connection.run, opened]
  split
  · exact plays.noted_bind
  · exact plays

/-- A byte that is sent is transferred. -/
theorem plays_send (opened : connection.lines = some lines)
    (work : ∀ line ∈ lines.bus, line.number ∉ failing) (target : Target) (register : Register)
    (byte : UInt8)
    : ∃ log : List Event,
        Events.writes log
          = BusStep.writes (lines.byteSteps connection.controllers target register byte)
        ∧ Plays failing (connection.send target register byte) (.ok ()) log := by
  obtain ⟨log, written, plays⟩ := plays_run opened work target
    (fun lines => lines.byteSteps connection.controllers target register byte)
    (lines.driven_byteSteps_subset _ _ _ _)
  exact ⟨log, written, plays.noted_bind⟩

/-- A nibble that is sent is transferred, unless it is too large. -/
theorem plays_sendNibble (opened : connection.lines = some lines)
    (work : ∀ line ∈ lines.bus, line.number ∉ failing) (target : Target) (register : Register)
    (nibble : UInt8)
    : ∃ answer log,
        Events.writes log
          = (if nibble ≤ 0x0f
              then
                BusStep.writes (lines.nibbleSteps connection.controllers target register nibble)
              else [])
        ∧ Plays failing (connection.sendNibble target register nibble) answer log := by
  obtain ⟨log, written, plays⟩ := plays_run opened work target
    (fun lines => lines.nibbleSteps connection.controllers target register nibble)
    (lines.driven_nibbleSteps_subset _ _ _ _)
  unfold Connection.sendNibble
  by_cases small : nibble ≤ 0x0f
  · refine ⟨.ok (), log, by rw [if_pos small, written], ?_⟩
    rw [if_neg (UInt8.not_lt.mpr small)]
    exact plays.noted_bind
  · refine ⟨.error .invalidArgument, [], by rw [if_neg small]; rfl, ?_⟩
    rw [if_pos (UInt8.not_le.mp small)]
    exact .pure _

/-- What the bytes of a script make a transfer write, in order. -/
def scriptWrites (connection : Connection Unit) (lines : Wiring (Line Unit))
    (script : List ScriptStep)
    : List (UInt32 × Bool) :=
  (ScriptStep.sends script).flatMap fun (target, register, byte) =>
    BusStep.writes (lines.byteSteps connection.controllers target register byte)

/-- A script is played to its end, by induction on the script. -/
theorem plays_script (opened : connection.lines = some lines)
    (work : ∀ line ∈ lines.bus, line.number ∉ failing) (script : List ScriptStep)
    : ∃ log : List Event,
        Events.writes log = scriptWrites connection lines script
        ∧ Plays failing (connection.play script) (.ok ()) log := by
  induction script with
  | nil => exact ⟨[], rfl, .pure _⟩
  | cons step rest ih =>
      obtain ⟨log, written, plays⟩ := ih
      cases step with
      | send target register byte =>
          obtain ⟨sent, transferred, sends⟩ := plays_send opened work target register byte
          refine ⟨sent ++ log, ?_, sends.bind plays⟩
          rw [writes_append, transferred, written]
          rfl
      | replace c => exact ⟨log, written, plays.noted_bind⟩
      | pause time =>
          have waits := Plays.wait failing connection.timer time
          refine ⟨connection.timer.events time ++ log, ?_, waits.bind plays⟩
          rw [writes_append, Timer.writes_events, List.nil_append, written]
          rfl

/-- Switching the backlight writes no line of the bus, whether or not it succeeds. -/
theorem plays_setBacklight (failing : List UInt32) (opened : connection.lines = some lines)
    (distinct : (lines.map Line.number).toList.Nodup) (on : Bool)
    : ∃ answer log,
        (∀ write ∈ Events.writes log, write.1 ∉ (lines.map Line.number).bus)
        ∧ Plays failing (connection.setBacklight on) answer log := by
  simp only [Connection.setBacklight, opened]
  split
  · exact ⟨_, [], nofun, .pure _⟩
  · cases present : lines.backlight with
    | none => exact ⟨_, [], nofun, .pure _⟩
    | some line =>
        by_cases works : line.number ∈ failing
        · refine ⟨.error (.writeFailed line.number .brokenPipe), [], nofun, ?_⟩
          refine Plays.noted_bind ((Plays.write_failing works on).bind_quiet ?_)
          exact (Plays.pure _).noted_bind
        · refine ⟨.ok (), [.written line.number on], ?_, ?_⟩
          · intro write member
            cases List.mem_singleton.mp member
            exact Wiring.backlight_notMem_bus distinct (congrArg (Option.map Line.number) present)
          · exact Plays.noted_bind ((Plays.write works on).bind (.pure _))

end CharLcd.Bench

import CharLcd.Proofs.Bench.SettingUp
import CharLcd.Proofs.Transfer.Whole

/-! A byte is its two nibbles.

A byte is sent by steps of its own, and not by sending its halves. Still it makes no difference, not
even where lines fail, but for one thing: the halves select the register twice. The second time it
has that level already.
-/

namespace CharLcd

open Session (occupant)

-----------------------------------------------------------------------------------------
-- Writing a level again
-----------------------------------------------------------------------------------------

namespace Events

/-- The level that was last written to a line, if any was. -/
def lastLevel (events : List Event) (line : UInt32) : Option Bool :=
  List.lookup line (writes events).reverse

/-- A level is looked for in what came later first. -/
theorem lastLevel_append (events rest : List Event) (line : UInt32)
    : lastLevel (events ++ rest) line = (lastLevel rest line).or (lastLevel events line) := by
  rw [lastLevel, Bench.writes_append, List.reverse_append, List.lookup_append]
  rfl

variable {enable rs line : UInt32} {data : List UInt32} {level : Bool}

/-- A replay only looks at the levels that the writes so far leave. By induction on the writes. -/
theorem clockedFrom_congr {latest others : List (UInt32 × Bool)}
    (same : ∀ line, levelAfter latest line = levelAfter others line)
    (writes : List (UInt32 × Bool))
    : clockedFrom enable rs data latest writes = clockedFrom enable rs data others writes := by
  induction writes generalizing latest others with
  | nil => rfl
  | cons write rest ih =>
      obtain ⟨line, level⟩ := write
      have still
          : ∀ other, levelAfter ((line, level) :: latest) other
            = levelAfter ((line, level) :: others) other := by
        intro other
        simp only [levelAfter, List.lookup_cons]
        split
        · rfl
        · exact same other
      have levels := funext still
      simp only [clockedFrom, ih still, levels]

variable {events : List Event}

/-- Events that at most write a line the level which it has already. -/
def Repeats (events again : List Event) (line : UInt32) (level : Bool) : Prop :=
  again = [] ∨ again = [.written line level] ∧ lastLevel events line = some level

namespace Repeats

variable {again : List Event}

/-- A line that is written its own level again still has it, and so has every other line. -/
theorem lastLevel (repeats : Repeats events again line level) (other : UInt32)
    : Events.lastLevel (events ++ again) other = Events.lastLevel events other := by
  rcases repeats with rfl | ⟨rfl, set⟩
  · rw [List.append_nil]
  · have one : Events.lastLevel [.written line level] other = List.lookup other [(line, level)] :=
      rfl
    rw [lastLevel_append, one]
    by_cases here : other = line
    · subst here
      rw [List.lookup_cons_self, set, Option.some_or]
    · rw [List.lookup_cons, beq_false_of_ne here]
      rfl

/-- What is clocked in later is the same, unless the line is the enable. -/
theorem clockedNibbles (repeats : Repeats events again line level) (apart : enable ≠ line)
    (rest : List Event)
    : Events.clockedNibbles (events ++ again ++ rest) enable rs data
      = Events.clockedNibbles (events ++ rest) enable rs data := by
  have unraised : (enable, true) ∉ writes again := by
    rcases repeats with rfl | ⟨rfl, _⟩ <;> simp [writes, Event.write?, apart]
  have same
      : ∀ other, levelAfter ((writes again).reverse ++ (writes events).reverse) other
        = levelAfter (writes events).reverse other := by
    intro other
    rw [← List.reverse_append, ← Bench.writes_append]
    exact congrArg (Option.getD · false) (repeats.lastLevel other)
  simp only [Events.clockedNibbles, Bench.writes_append, List.append_assoc, clockedFrom_append,
    clockedFrom_of_unraised unraised, List.nil_append, List.append_nil]
  rw [clockedFrom_congr same]

/-- There is no delay among them. -/
theorem delays (repeats : Repeats events again line level) (rest : List Event)
    : Events.delays (events ++ again ++ rest) = Events.delays (events ++ rest) := by
  have waitless : Events.delays again = [] := by
    rcases repeats with rfl | ⟨rfl, _⟩ <;> rfl
  simp only [Events.delays, List.filterMap_append] at waitless ⊢
  rw [waitless, List.append_nil]

end Repeats

end Events

-----------------------------------------------------------------------------------------
-- What is waited for
-----------------------------------------------------------------------------------------

section Waits

variable {σ ω A : Type} [Journal (StateM σ)] [Clock (StateM σ)] [LineDriver (StateM σ) ω]

/-- The length of a wait of a transfer. -/
def Motion.wait? : Motion → Option UInt32
  | wait time => some time
  | set _ _ => none

/-- The waits that a program asks for, in order, whether or not they are recorded. -/
def LineProgram.waits {α : Type} (program : LineProgram ω α) (s : σ) : List (Timer × UInt32) :=
  ((program (Traced σ ω)).run { state := s }).2.calls.filterMap LineCall.wait?

/-- Clocking in a nibble takes four waits, whatever is clocked in by which enables. -/
theorem Motion.waits_clock (enables : List Signal) (nibble : Nat)
    : (clock enables nibble).filterMap wait? = List.replicate 4 50 := by
  have still (level : Bool) : (enables.map (set · level)).filterMap wait? = [] := by
    simp [List.filterMap_eq_nil_iff, wait?]
  simp only [clock, List.filterMap_append, still]
  rfl

/-- Only calls that act ask for a wait. -/
theorem LineCall.waits_acts (calls : List (LineCall ω))
    : (calls.filter acts).filterMap wait? = calls.filterMap wait? := by
  rw [List.filterMap_filter]
  refine List.filterMap_congr fun call _ => ?_
  cases call <;> rfl

/-- Attempts wait as their motions do. By induction on the motions, with their calls. -/
theorem Motion.waits_attempts {lines : Wiring (Line ω)} {timer : Timer} {motions : List Motion}
    {calls : List (LineCall ω)}
    (attempts : List.Forall₂ (AttemptedBy lines timer) motions calls)
    : calls.filterMap LineCall.wait? = (motions.filterMap wait?).map (timer, ·) := by
  induction attempts with
  | nil => rfl
  | @cons motion call motions calls attempt _ ih =>
      rw [List.filterMap_cons, List.filterMap_cons]
      cases motion with
      | set signal level =>
          cases call with
          | wrote line put answer => exact ih
          | _ => exact attempt.elim
      | wait time =>
          cases call with
          | waited timer waited =>
              obtain ⟨rfl, rfl⟩ := attempt
              exact congrArg (_ :: ·) ih
          | _ => exact attempt.elim

/-- What runs to its end asks for the waits of its motions. -/
theorem Site.RunsToEnd.waits {site : Site σ ω A} {connection : Connection ω}
    {lines : Wiring (Line ω)} {target : Target} {motions : List Motion}
    {program : LineProgram ω (Except GpioError Unit)} {before : σ} {calls : List (LineCall ω)}
    (runs : site.RunsToEnd connection lines target motions program before calls)
    : program.waits before = (motions.filterMap Motion.wait?).map (connection.timer, ·) := by
  rw [LineProgram.waits, runs.listed, ← LineCall.waits_acts, Motion.waits_attempts runs.attempts]

end Waits

namespace Bench

-----------------------------------------------------------------------------------------
-- A byte and its halves
-----------------------------------------------------------------------------------------

/-- What a byte leaves on a bench, and what its halves do, one after the other from the same state:
each an answer and a bench.

All three answers are the same, which is told without the byte and the register. The record of the
halves has one event more, by which the register is selected again, if that line can be written.
Every line ends with the same level, the same is clocked in by each enable, and the delays are the
same.
-/
structure Halved (lines : Wiring (Line Unit)) (controllers : Controllers) (target : Target)
    (register : Register) (start : Bench) (whole high low : Except GpioError Unit × Bench)
    : Prop where
  answers :
    let answer := driveResult start.failingWrites ((lines.route controllers target).map Line.number)
    whole.1 = answer ∧ high.1 = answer ∧ low.1 = answer
  record : ∃ first second : List Event,
    let again :=
      if lines.rs.number ∈ start.failingWrites then []
      else [.written lines.rs.number register.level]
    whole.2.events.toList = start.events.toList ++ first ++ second
    ∧ high.2.events.toList = start.events.toList ++ first
    ∧ low.2.events.toList = start.events.toList ++ first ++ again ++ second
    ∧ (again ≠ [] → Events.lastLevel high.2.events.toList lines.rs.number = some register.level)
  levels : Events.lastLevel low.2.events.toList = Events.lastLevel whole.2.events.toList
  clocked : ∀ enable ∈ (lines.map Line.number).strobes,
    let clockedBy (bench : Bench) :=
      Events.clockedNibbles bench.events.toList enable lines.rs.number (lines.data.map Line.number)
    clockedBy low.2 = clockedBy whole.2
  delays : Events.delays low.2.events.toList = Events.delays whole.2.events.toList
  unchanged : low.2.held = whole.2.held ∧ low.2.failingWrites = whole.2.failingWrites

variable {connection : Connection Unit} {lines : Wiring (Line Unit)}

/-- Once a nibble is sent, the register select line has the level of the register, if it can be
written.
-/
theorem lastLevel_nibbleSteps (distinct : (lines.map Line.number).toList.Nodup)
    (timer : Timer) {failing : List UInt32} (works : lines.rs.number ∉ failing)
    (controllers : Controllers) (target : Target) (register : Register) (nibble : UInt8)
    : Events.lastLevel
        ((lines.nibbleSteps controllers target register nibble).flatMap
          (BusStep.events timer failing)) lines.rs.number
      = some register.level := by
  have kept
      : lines.rs.number
        ∉ ((BusStep.writes (lines.clockNibble controllers target nibble)).filter
            (·.1 ∉ failing)).map Prod.fst :=
    fun member =>
      Wiring.rs_notMem_writes_clockNibble distinct nibble
        (List.map_subset _ (List.filter_subset_self _) member)
  have selected
      : (BusStep.writes (lines.select register)).filter (·.1 ∉ failing)
        = [(lines.rs.number, register.level)] := by
    simp [Wiring.select, BusStep.writes, BusStep.write?, works]
  rw [Events.lastLevel, BusStep.writes_events, Wiring.nibbleSteps, BusStep.writes_append,
    List.filter_append, selected, List.reverse_append, List.lookup_append,
    Events.lookup_reverse_of_notMem kept, List.reverse_singleton, List.lookup_cons_self,
    Option.none_or]

/-- To select the register once more after a nibble at most writes the level which its line has. -/
theorem repeats_select (distinct : (lines.map Line.number).toList.Nodup) (timer : Timer)
    (failing : List UInt32) (controllers : Controllers) (target : Target) (register : Register)
    (nibble : UInt8) (start : List Event)
    : Events.Repeats
        (start
          ++ (lines.nibbleSteps controllers target register nibble).flatMap
              (BusStep.events timer failing))
        (if lines.rs.number ∈ failing then [] else [.written lines.rs.number register.level])
        lines.rs.number register.level := by
  by_cases fails : lines.rs.number ∈ failing
  · exact .inl (if_pos fails)
  · refine .inr ⟨if_neg fails, ?_⟩
    rw [Events.lastLevel_append,
      lastLevel_nibbleSteps distinct timer fails controllers target register nibble,
      Option.some_or]

/-- A byte leaves what its halves do. -/
theorem halved (opened : connection.lines = some lines)
    (distinct : (lines.map Line.number).toList.Nodup) (target : Target) (register : Register)
    (byte : UInt8) (bench : Bench)
    : let whole := (connection.send target register byte : StateM Bench _).run bench
      let high := (connection.sendNibble target register (byte >>> 4) : StateM Bench _).run bench
      let low := (connection.sendNibble target register (byte &&& 0x0f) : StateM Bench _).run high.2
      Halved lines connection.controllers target register bench whole high low := by
  intro whole high low
  let clock := fun nibble => (lines.clockNibble connection.controllers target nibble).flatMap
    (BusStep.events connection.timer bench.failingWrites)
  let select := (lines.select register).flatMap
    (BusStep.events connection.timer bench.failingWrites)
  obtain ⟨answerWhole, wholeLogs⟩ :=
    plays_byte opened bench.failingWrites target register byte bench rfl
  obtain ⟨answerHigh, highLogs⟩ :=
    plays_nibble opened bench.failingWrites target register (highNibble_le byte) bench rfl
  obtain ⟨answerLow, lowLogs⟩ :=
    plays_nibble opened bench.failingWrites target register (lowNibble_le byte) high.2
      highLogs.failing
  let start := bench.events.toList
  let first := select ++ clock (byte >>> 4)
  let second := clock (byte &&& 0x0f)
  let again : List Event :=
    if lines.rs.number ∈ bench.failingWrites then []
    else [.written lines.rs.number register.level]
  have selects : select = again := List.append_nil _
  have wholeRecord : whole.2.events.toList = start ++ first ++ second := by
    rw [wholeLogs.events, Wiring.byteSteps, List.flatMap_append, List.flatMap_append,
      ← List.append_assoc]
  have highRecord : high.2.events.toList = start ++ first := by
    rw [highLogs.events, Wiring.nibbleSteps, List.flatMap_append]
  have lowRecord : low.2.events.toList = start ++ first ++ again ++ second := by
    rw [lowLogs.events, highRecord, Wiring.nibbleSteps, List.flatMap_append, ← selects,
      ← List.append_assoc]
  have repeats : Events.Repeats (start ++ first) again lines.rs.number register.level := by
    have once := repeats_select distinct connection.timer bench.failingWrites
      connection.controllers target register (byte >>> 4) start
    rwa [Wiring.nibbleSteps, List.flatMap_append] at once
  refine ⟨⟨answerWhole, answerHigh, answerLow⟩,
    ⟨first, second, wholeRecord, highRecord, lowRecord, ?_⟩, ?_, ?_, ?_, ?_⟩
  · intro works
    rw [highRecord]
    exact (repeats.resolve_left works).2
  · funext line
    rw [lowRecord, wholeRecord, Events.lastLevel_append _ second, repeats.lastLevel,
      ← Events.lastLevel_append]
  · intro enable strobe clockedBy
    have apart : enable ≠ lines.rs.number := by
      rintro rfl
      exact Wiring.strobe_notMem_carriers distinct strobe List.mem_cons_self
    simp only [clockedBy, lowRecord, wholeRecord]
    exact repeats.clockedNibbles apart second
  · rw [lowRecord, wholeRecord, repeats.delays]
  · exact ⟨lowLogs.held.trans (highLogs.held.trans wholeLogs.held.symm),
      lowLogs.failing.trans (highLogs.failing.trans wholeLogs.failing.symm)⟩

/-- In every state of a session, over every open connection and whatever lines are marked as
failing, a byte and its two halves leave the same, and ask for the same waits.
-/
theorem byte_as_two_nibbles (env : Environment) (before : List Action) {slot : Nat}
    (present : occupant (reach env ({}, {}) before).1.connections slot = some connection)
    (opened : connection.lines = some lines) (target : Target) (register : Register) (byte : UInt8)
    : let bench := (reach env ({}, {}) before).2
      let whole := (connection.send target register byte : StateM Bench _).run bench
      let high := (connection.sendNibble target register (byte >>> 4) : StateM Bench _).run bench
      let low := (connection.sendNibble target register (byte &&& 0x0f) : StateM Bench _).run high.2
      Halved lines connection.controllers target register bench whole high low
      ∧ LineProgram.waits (fun _ _ _ _ => connection.send target register byte) bench
        = LineProgram.waits
            (fun _ _ _ _ => connection.sendNibble target register (byte >>> 4)) bench
          ++ LineProgram.waits
              (fun _ _ _ _ => connection.sendNibble target register (byte &&& 0x0f)) high.2 := by
  intro bench whole high low
  have owned : Owned (reach env ({}, {}) before).1.lines bench :=
    owned_reach env ⟨.refl _, List.nodup_nil⟩ before
  have distinct := owned.distinct (Session.getElem?_of_occupant present) opened
  refine ⟨halved opened distinct target register byte bench, ?_⟩
  have sound : (reach env ({}, {}) before).1.Sound :=
    site.sound_reach Session.sound_empty before
  have paired := (sound slot connection present).paired lines opened
  obtain ⟨_, wholeRuns⟩ := site.runsToEnd_send opened paired target register byte bench
  obtain ⟨_, highRuns⟩ :=
    site.runsToEnd_sendNibble opened paired target register (highNibble_le byte) bench
  obtain ⟨_, lowRuns⟩ :=
    site.runsToEnd_sendNibble opened paired target register (lowNibble_le byte) high.2
  rw [wholeRuns.waits, highRuns.waits, lowRuns.waits, ← List.map_append]
  congr 1
  simp only [Motion.ofByte, Motion.ofNibble, List.filterMap_cons, Motion.wait?,
    List.filterMap_append, Motion.waits_clock]

/-- Of a display with two controllers the register select line fails, and so does a data line. A
byte and its halves are sent all the same, and the register select line is to blame.
-/
theorem byte_as_two_nibbles_over_failing_lines
    : let prepared : List Action :=
        [.step (.init {} { controllers := .dual } .recorded), .failWrites 7, .failWrites 18]
      let bench := (reach {} ({}, {}) prepared).2
      ∃ connection lines,
        occupant (reach {} ({}, {}) prepared).1.connections 0 = some connection
        ∧ connection.lines = some lines
        ∧ let whole := (connection.send .second .data 0x41 : StateM Bench _).run bench
          let high := (connection.sendNibble .second .data 0x4 : StateM Bench _).run bench
          let low := (connection.sendNibble .second .data 0x1 : StateM Bench _).run high.2
          whole.1 = .error (.writeFailed 7 .brokenPipe)
          ∧ Halved lines connection.controllers .second .data bench whole high low := by
  intro prepared bench
  let lines : Wiring (Line Unit) :=
    { en := ⟨8, ()⟩, rs := ⟨7, ()⟩, d7 := ⟨18, ()⟩, d6 := ⟨23, ()⟩, d5 := ⟨24, ()⟩
      d4 := ⟨25, ()⟩, backlight := none, en2 := some ⟨22, ()⟩ }
  let connection : Connection Unit :=
    { lines := some lines, controllers := .dual, backlightNumber := PinConfig.noBacklight
      timer := .recorded, stage := .ready }
  have present : occupant (reach {} ({}, {}) prepared).1.connections 0 = some connection := by
    decide +kernel
  have both := byte_as_two_nibbles {} prepared present rfl .second .data 0x41
  exact ⟨connection, lines, present, rfl, by decide +kernel, both.1⟩

end Bench

end CharLcd

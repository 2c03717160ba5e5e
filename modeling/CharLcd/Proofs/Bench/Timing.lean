import CharLcd.Proofs.Bench.Clocking
import CharLcd.Proofs.Bench.Spacing
import CharLcd.Proofs.Bench.Undoing

/-! The timing of a bus holds in every run, also when writes fail.

A write that fails leaves nothing in the record, but the transfer goes on and waits as always. So
whatever lines fail, a transfer records its delays around what is left of its writes.
-/

namespace CharLcd

-----------------------------------------------------------------------------------------
-- Transfers over lines that may fail
-----------------------------------------------------------------------------------------

/-- What a step of a transfer leaves in the record where just the lines `failing` cannot be written.
-/
def BusStep.events (timer : Timer) (failing : List UInt32) : BusStep Unit → List Event
  | .drive line level => if line.number ∈ failing then [] else [.written line.number level]
  | .settle => timer.events settleTime

section Transfers

variable {timer : Timer} {failing : List UInt32} {lines : Wiring (Line Unit)}

/-- Of lines that are driven to one level those take it that do not fail. By induction on the lines.
-/
theorem BusStep.events_map_drive (lines : List (Line Unit)) (level : Bool)
    : (lines.map (BusStep.drive · level)).flatMap (events timer failing)
      = ((lines.map Line.number).filter (· ∉ failing)).map (Event.written · level) := by
  induction lines with
  | nil => rfl
  | cons line rest ih =>
      simp only [List.map_cons, List.flatMap_cons, ih, events, List.filter_cons, decide_eq_true_eq]
      by_cases fails : line.number ∈ failing <;> simp [fails]

/-- Steps that drive no enable line leave no change of one in the record. -/
theorem BusStep.still_of_driven {numbers : Wiring UInt32} {steps : List (BusStep Unit)}
    (off : ∀ line ∈ BusStep.driven steps, line.number ∉ numbers.strobes)
    : ∀ event ∈ steps.flatMap (events timer failing), ¬numbers.Toggles event := by
  rintro event recorded ⟨strobe, member, level, rfl⟩
  obtain ⟨step, taken, leaves⟩ := List.mem_flatMap.mp recorded
  cases step with
  | settle => cases Timer.eq_of_mem_events leaves
  | drive line high =>
      have driven : line ∈ BusStep.driven steps := List.mem_filterMap.mpr ⟨_, taken, rfl⟩
      simp only [events] at leaves
      split at leaves
      · cases leaves
      · cases List.mem_singleton.mp leaves
        exact off line driven member

namespace Wiring

/-- The lines that carry data are no enable lines. -/
theorem number_notMem_strobes (distinct : (lines.map Line.number).toList.Nodup) {line : Line Unit}
    (carries : line ∈ lines.carriers)
    : line.number ∉ (lines.map Line.number).strobes :=
  fun strobe => strobe_notMem_carriers distinct strobe
    (List.mem_map_of_mem (f := Line.number) carries)

/-- Putting a nibble on the data lines and pulsing enable is a complete transfer. -/
theorem paced_clockNibble (distinct : (lines.map Line.number).toList.Nodup)
    (controllers : Controllers) (target : Target) (nibble : UInt8)
    : Paced (lines.map Line.number) timer
        ((lines.clockNibble controllers target nibble).flatMap
          (BusStep.events timer failing)) := by
  let data := lines.clearData ++ lines.data.zipWith .drive (nibbleBits nibble)
  let active := ((lines.enables controllers target).map Line.number).filter (· ∉ failing)
  have settled : [BusStep.settle].flatMap (BusStep.events timer failing) = timer.events 50 :=
    List.append_nil _
  have shape
      : (lines.clockNibble controllers target nibble).flatMap (BusStep.events timer failing)
        = timer.pulse (data.flatMap (BusStep.events timer failing)) active := by
    simp only [clockNibble, putNibble, enable, List.flatMap_append, BusStep.events_map_drive,
      settled, Timer.pulse, data, active, List.append_assoc]
  have enabled : (lines.enables controllers target).map Line.number
      = (lines.map Line.number).enables controllers target :=
    (enables_map _ _ _ _).symm
  rw [shape]
  refine .pulse (fun _ => strobe_notMem_carriers distinct) (BusStep.still_of_driven ?_) ?_ ?_
  · intro line driven
    have onData : BusStep.driven data = lines.data ++ lines.data := by
      simp only [data, clearData, BusStep.driven_append, BusStep.driven_map_drive]
      rfl
    rw [onData, List.mem_append, or_self] at driven
    exact number_notMem_strobes distinct (List.mem_cons_of_mem _ driven)
  · exact (enabled ▸ (apart_of_nodup distinct controllers target).2.2.1).filter _
  · intro strobe member
    exact enables_subset_strobes _ controllers target (enabled ▸ List.mem_of_mem_filter member)

/-- Selecting a register leaves all enable lines alone. -/
theorem paced_select (distinct : (lines.map Line.number).toList.Nodup) (register : Register)
    : Paced (lines.map Line.number) timer
        ((lines.select register).flatMap (BusStep.events timer failing)) := by
  refine .quiet (BusStep.still_of_driven fun line driven => ?_)
  obtain rfl : line = lines.rs := List.mem_singleton.mp driven
  exact number_notMem_strobes distinct List.mem_cons_self

/-- The transfer of a nibble is complete. -/
theorem paced_nibbleSteps (distinct : (lines.map Line.number).toList.Nodup)
    (controllers : Controllers) (target : Target) (register : Register) (nibble : UInt8)
    : Paced (lines.map Line.number) timer
        ((lines.nibbleSteps controllers target register nibble).flatMap
          (BusStep.events timer failing)) := by
  rw [nibbleSteps, List.flatMap_append]
  exact (paced_select distinct register).append (paced_clockNibble distinct controllers target _)

/-- The transfer of a byte is complete. -/
theorem paced_byteSteps (distinct : (lines.map Line.number).toList.Nodup)
    (controllers : Controllers) (target : Target) (register : Register) (byte : UInt8)
    : Paced (lines.map Line.number) timer
        ((lines.byteSteps controllers target register byte).flatMap
          (BusStep.events timer failing)) := by
  rw [byteSteps, ← nibbleSteps, List.flatMap_append]
  exact (paced_nibbleSteps distinct controllers target register _).append
    (paced_clockNibble distinct controllers target _)

/-- The lines that a transfer drives, in the order in which each is driven first. -/
def route {α : Type} (wiring : Wiring α) (controllers : Controllers) (target : Target) : List α :=
  wiring.carriers ++ wiring.enables controllers target

/-- A nibble drives the data lines twice and the enables twice. -/
theorem driven_clockNibble (controllers : Controllers) (target : Target) (nibble : UInt8)
    : BusStep.driven (lines.clockNibble controllers target nibble)
      = lines.data ++ lines.data
        ++ (lines.enables controllers target ++ lines.enables controllers target) := by
  have put : BusStep.driven (lines.putNibble nibble) = lines.data := rfl
  have settle : BusStep.driven [(.settle : BusStep Unit)] = [] := rfl
  simp only [clockNibble, clearData, enable, put, settle, BusStep.driven_append,
    BusStep.driven_map_drive, List.append_nil, List.nil_append, List.append_assoc]

end Wiring

end Transfers

/-- How a connection waits that a step sets up, if it does so. -/
def Step.timer? : Step → Option Timer
  | .init _ _ timer | .connect _ _ timer => some timer
  | _ => none

namespace Bench

-----------------------------------------------------------------------------------------
-- Programs that record complete transfers
-----------------------------------------------------------------------------------------

variable {α β : Type} {numbers : Wiring UInt32} {timer : Timer} {failing : List UInt32}

/-- On every bench a program records complete transfers over the given lines, and its result is as
`post` says.
-/
def Paces (numbers : Wiring UInt32) (timer : Timer) (x : StateM Bench α) (post : α → Prop)
    : Prop :=
  ∀ bench : Bench, ∃ log : List Event,
    (x.run bench).2.events.toList = bench.events.toList ++ log
    ∧ Paced numbers timer log ∧ post (x.run bench).1

namespace Paces

theorem pure {answer : α} {post : α → Prop} (holds : post answer)
    : Paces numbers timer (pure answer) post :=
  fun _ => ⟨[], (List.append_nil _).symm, .nil, holds⟩

theorem bind {x : StateM Bench α} {f : α → StateM Bench β} {mid : α → Prop} {post : β → Prop}
    (first : Paces numbers timer x mid)
    (next : ∀ answer, mid answer → Paces numbers timer (f answer) post)
    : Paces numbers timer (x >>= f) post := by
  intro bench
  obtain ⟨log, extended, paced, holds⟩ := first bench
  obtain ⟨rest, goesOn, rests, ends⟩ := next _ holds (x.run bench).2
  refine ⟨log ++ rest, ?_, paced.append rests, ends⟩
  rw [← List.append_assoc, ← extended]
  exact goesOn

theorem mono {x : StateM Bench α} {post others : α → Prop} (paces : Paces numbers timer x post)
    (stronger : ∀ answer, post answer → others answer)
    : Paces numbers timer x others := by
  intro bench
  obtain ⟨log, extended, paced, holds⟩ := paces bench
  exact ⟨log, extended, paced, stronger _ holds⟩

/-- What is known of a result in another way may be added. -/
theorem obtaining {ε : Type} {x : StateM Bench (Except ε α)} {post : Except ε α → Prop}
    {obtained : α → Prop} (paces : Paces numbers timer x post) (obtains : Obtains x obtained)
    : Paces numbers timer x fun result =>
        post result ∧ ∀ value, result = .ok value → obtained value := by
  intro bench
  obtain ⟨log, extended, paced, holds⟩ := paces bench
  exact ⟨log, extended, paced, holds, obtains bench⟩

/-- It is enough to know for each choice of failing lines what a program records. -/
theorem of_plays {x : StateM Bench α}
    (plays
      : ∀ failing, ∃ answer log, Paced numbers timer log ∧ Plays failing x answer log)
    : Paces numbers timer x fun _ => True := by
  intro bench
  obtain ⟨answer, log, paced, plays⟩ := plays bench.failingWrites
  exact ⟨log, (plays bench rfl).2.events, paced, trivial⟩

theorem noted_bind {entry : Note} {x : StateM Bench α} {post : α → Prop}
    (rest : Paces numbers timer x post)
    : Paces numbers timer (do note entry; x) post :=
  fun bench => rest { bench with notes := bench.notes.push entry }

end Paces

/-- A wait leaves no change of an enable line in the record. -/
theorem paces_wait (numbers : Wiring UInt32) (timer used : Timer) (time : UInt32)
    : Paces numbers timer (Clock.wait used time) fun _ => True := by
  refine .of_plays fun failing => ⟨(), used.events time, .of_writes ?_, .wait failing used time⟩
  simp

-----------------------------------------------------------------------------------------
-- Acquiring and giving back
-----------------------------------------------------------------------------------------

/-- Acquiring a line leaves an export in the record, if anything. -/
theorem paces_acquire (numbers : Wiring UInt32) (timer : Timer) (number : UInt32)
    : Paces numbers timer (LineDriver.acquire number) fun _ => True := by
  intro bench
  let answer : Except GpioError Unit := (acquire number bench).1
  have happens : (LineCall.acquired number answer).Happens bench (acquire number bench).2 := rfl
  refine ⟨_, (effect_of_happens happens).events, .of_writes ?_, trivial⟩
  cases answer <;> nofun

/-- Releasing a line leaves a release in the record. -/
theorem paces_release (numbers : Wiring UInt32) (timer : Timer) (line : Line Unit)
    : Paces numbers timer (LineDriver.release line) fun _ => True :=
  fun _ => ⟨[.released line.number], Array.toList_push, .of_writes nofun, trivial⟩

theorem paces_discard (numbers : Wiring UInt32) (timer : Timer) (line : Line Unit)
    : Paces numbers timer line.discard fun _ => True := by
  refine (paces_release numbers timer line).bind fun result _ => ?_
  cases result with
  | ok => exact .pure trivial
  | error cause => exact .noted_bind (.pure trivial)

/-- Lines are released one after the other, by induction on them. -/
theorem paces_releaseAll (numbers : Wiring UInt32) (timer : Timer) (lines : List (Line Unit))
    : Paces numbers timer (Line.releaseAll lines) fun _ => True := by
  induction lines with
  | nil => exact .pure trivial
  | cons line rest ih =>
      refine (paces_release numbers timer line).bind fun result _ => ?_
      cases result with
      | ok => exact ih
      | error cause => exact .noted_bind (ih.bind fun _ _ => .pure trivial)

/-- A line is held around the steps that follow, and discarded if one of these fails. -/
theorem Paces.holding {signal : Signal} {number : UInt32}
    {next : Line Unit → StateM Bench (Except ConnectionError α)}
    (follow : Paces numbers timer (next ⟨number, ()⟩) fun _ => True)
    : Paces numbers timer (CharLcd.holding signal number next) fun _ => True := by
  refine .noted_bind ((paces_acquire numbers timer number).bind fun answer _ => ?_)
  cases answer with
  | error cause => exact .pure trivial
  | ok handle =>
      refine follow.bind fun result _ => ?_
      cases result with
      | ok => exact .pure trivial
      | error cause =>
          exact (paces_discard numbers timer _).bind fun _ _ => .pure trivial

theorem Paces.holdingOptional {signal : Signal} {number : Option UInt32}
    {next : Option (Line Unit) → StateM Bench (Except ConnectionError α)}
    (follow : ∀ line, Paces numbers timer (next line) fun _ => True)
    : Paces numbers timer (CharLcd.holdingOptional signal number next) fun _ => True := by
  cases number with
  | none => exact follow none
  | some number => exact .holding (follow (some ⟨number, ()⟩))

/-- Acquired lines have the numbers that were asked for, and no two of them the same one. -/
theorem obtains_acquire_distinct (asked : Wiring UInt32)
    : Obtains (asked.acquire : StateM Bench _)
        fun lines : Wiring (Line Unit) =>
          lines.map Line.number = asked ∧ (lines.map Line.number).toList.Nodup := by
  intro bench lines succeeds
  obtain ⟨calls, performs, acquires⟩ := makes_acquire (σ := Bench) (ω := Unit) asked bench
  rw [succeeds] at acquires
  obtain ⟨works, _, all, _⟩ := acquires
  refine ⟨asked.obtains_acquire bench lines succeeds, ?_⟩
  rw [Wiring.toList_map, ← all]
  exact (held_of_works performs works).2.1

/-- Acquiring lines changes no level. -/
theorem paces_acquireWiring (numbers asked : Wiring UInt32) (timer : Timer)
    : Paces numbers timer (asked.acquire : StateM Bench (Except ConnectionError (Wiring (Line Unit))))
        fun _ => True :=
  .holding <| .holding <| .holding <| .holding <| .holding <| .holding <|
    .holdingOptional fun _ => .holdingOptional fun _ => .pure trivial

-----------------------------------------------------------------------------------------
-- An open connection
-----------------------------------------------------------------------------------------

/-- What is answered where lines are written one after the other and just those in `failing` cannot
be: the first failure.
-/
def driveResult (failing lines : List UInt32) : Except GpioError Unit :=
  match lines.find? (· ∈ failing) with
  | some line => .error (.writeFailed line .brokenPipe)
  | none => .ok ()

/-- The steps of a transfer are all carried out, whatever lines fail, and the first line that does is
reported. By induction on the steps.
-/
theorem plays_transfer_failing (timer : Timer) (failing : List UInt32)
    (steps : List (BusStep Unit))
    : Plays failing (transfer timer steps)
        (driveResult failing ((BusStep.driven steps).map Line.number))
        (steps.flatMap (BusStep.events timer failing)) := by
  induction steps with
  | nil => exact .pure _
  | cons step rest ih =>
      cases step with
      | settle => exact (Plays.wait failing timer settleTime).bind ih
      | drive line level =>
          have driven : BusStep.driven (.drive line level :: rest) = line :: BusStep.driven rest :=
            rfl
          rw [List.flatMap_cons, driven, List.map_cons]
          by_cases fails : line.number ∈ failing
          · simp only [BusStep.events, driveResult, List.find?_cons, fails, if_true, decide_true]
            exact (Plays.write_failing fails level).bind (.noted_bind (ih.bind_quiet (.pure _)))
          · simp only [BusStep.events, driveResult, List.find?_cons, fails, if_false, decide_false]
            exact (Plays.write fails level).bind ih

/-- Lines that were driven before do not fail first. -/
theorem driveResult_append {lines others : List UInt32} (failing : List UInt32)
    (again : others ⊆ lines)
    : driveResult failing (lines ++ others) = driveResult failing lines := by
  have found : (lines ++ others).find? (· ∈ failing) = lines.find? (· ∈ failing) := by
    rw [List.find?_append]
    cases first : lines.find? (· ∈ failing) with
    | some line => rfl
    | none =>
        rw [List.find?_eq_none] at first
        exact List.find?_eq_none.mpr fun line member => first line (again member)
  rw [driveResult, found, driveResult]

/-- Which line of a nibble fails first depends on the order of the lines alone. -/
theorem driveResult_nibbleSteps (failing : List UInt32) (lines : Wiring (Line Unit))
    (controllers : Controllers) (target : Target) (register : Register) (nibble : UInt8)
    : driveResult failing
        ((BusStep.driven (lines.nibbleSteps controllers target register nibble)).map Line.number)
      = driveResult failing ((lines.route controllers target).map Line.number) := by
  have select : BusStep.driven (lines.select register) = [lines.rs] := rfl
  have carriers : lines.carriers = [lines.rs] ++ lines.data := rfl
  simp only [Wiring.nibbleSteps, Wiring.route, BusStep.driven_append, Wiring.driven_clockNibble,
    select, carriers, List.map_append, driveResult, List.find?_append]
  cases ([lines.rs].map Line.number).find? (· ∈ failing) <;>
    cases (lines.data.map Line.number).find? (· ∈ failing) <;>
    cases ((lines.enables controllers target).map Line.number).find? (· ∈ failing) <;> rfl

/-- The second nibble of a byte drives no line that the first one did not. -/
theorem driveResult_byteSteps (failing : List UInt32) (lines : Wiring (Line Unit))
    (controllers : Controllers) (target : Target) (register : Register) (byte : UInt8)
    : driveResult failing
        ((BusStep.driven (lines.byteSteps controllers target register byte)).map Line.number)
      = driveResult failing ((lines.route controllers target).map Line.number) := by
  let first := lines.nibbleSteps controllers target register (byte >>> 4)
  have steps
      : lines.byteSteps controllers target register byte
        = first ++ lines.clockNibble controllers target (byte &&& 0x0f) :=
    rfl
  have again
      : (BusStep.driven (lines.clockNibble controllers target (byte &&& 0x0f))).map Line.number
        ⊆ (BusStep.driven first).map Line.number := by
    simp only [first, Wiring.nibbleSteps, BusStep.driven_append, Wiring.driven_clockNibble]
    exact List.map_subset _ (List.subset_append_right _ _)
  rw [steps, BusStep.driven_append, List.map_append, driveResult_append failing again]
  exact driveResult_nibbleSteps failing lines controllers target register _

section Open

variable {connection : Connection Unit} {lines : Wiring (Line Unit)}
variable (opened : connection.lines = some lines)
variable (distinct : (lines.map Line.number).toList.Nodup)

include opened

/-- A transfer over an open connection is carried out whatever lines fail, with or without a warning. -/
theorem plays_run_failing (failing : List UInt32) (target : Target)
    (planned : Wiring (Line Unit) → List (BusStep Unit))
    : Plays failing (connection.run target planned)
        (driveResult failing ((BusStep.driven (planned lines)).map Line.number))
        ((planned lines).flatMap (BusStep.events connection.timer failing)) := by
  have transfers := plays_transfer_failing connection.timer failing (planned lines)
  simp only [Connection.run, opened]
  split
  · exact .noted_bind transfers
  · exact transfers

/-- A byte is sent to the end whatever lines fail, and the first one of its route that does is reported.
-/
theorem plays_byte (failing : List UInt32) (target : Target) (register : Register) (byte : UInt8)
    : Plays failing (connection.send target register byte)
        (driveResult failing ((lines.route connection.controllers target).map Line.number))
        ((lines.byteSteps connection.controllers target register byte).flatMap
          (BusStep.events connection.timer failing)) := by
  have runs := plays_run_failing opened failing target fun lines =>
    lines.byteSteps connection.controllers target register byte
  rw [driveResult_byteSteps] at runs
  exact runs.noted_bind

/-- So is a nibble. -/
theorem plays_nibble (failing : List UInt32) (target : Target) (register : Register)
    {nibble : UInt8} (small : nibble ≤ 0x0f)
    : Plays failing (connection.sendNibble target register nibble)
        (driveResult failing ((lines.route connection.controllers target).map Line.number))
        ((lines.nibbleSteps connection.controllers target register nibble).flatMap
          (BusStep.events connection.timer failing)) := by
  have runs := plays_run_failing opened failing target fun lines =>
    lines.nibbleSteps connection.controllers target register nibble
  rw [driveResult_nibbleSteps] at runs
  unfold Connection.sendNibble
  rw [if_neg (UInt8.not_lt.mpr small)]
  exact runs.noted_bind

/-- A transfer that is complete whatever lines fail is so with or without a warning. -/
theorem paces_run (target : Target) {planned : Wiring (Line Unit) → List (BusStep Unit)}
    (paced
      : ∀ failing,
          Paced (lines.map Line.number) connection.timer
            ((planned lines).flatMap (BusStep.events connection.timer failing)))
    : Paces (lines.map Line.number) connection.timer (connection.run target planned)
        fun _ => True :=
  .of_plays fun failing => ⟨_, _, paced failing, plays_run_failing opened failing target planned⟩

include distinct

theorem paces_send (target : Target) (register : Register) (byte : UInt8)
    : Paces (lines.map Line.number) connection.timer (connection.send target register byte)
        fun _ => True :=
  .noted_bind (paces_run opened target fun _ =>
    Wiring.paced_byteSteps distinct connection.controllers target register byte)

theorem paces_sendNibble (target : Target) (register : Register) (nibble : UInt8)
    : Paces (lines.map Line.number) connection.timer
        (connection.sendNibble target register nibble) fun _ => True := by
  unfold Connection.sendNibble
  split
  · exact .pure trivial
  · exact .noted_bind (paces_run opened target fun _ =>
      Wiring.paced_nibbleSteps distinct connection.controllers target register nibble)

/-- A script is played up to the first byte that cannot be sent, by induction on the script. -/
theorem paces_play (script : List ScriptStep)
    : Paces (lines.map Line.number) connection.timer (connection.play script) fun _ => True := by
  induction script with
  | nil => exact .pure trivial
  | cons step rest ih =>
      cases step with
      | send target register byte =>
          refine (paces_send opened distinct target register byte).bind fun result _ => ?_
          cases result with
          | ok => exact ih
          | error cause => exact .pure trivial
      | replace c => exact .noted_bind ih
      | pause time => exact (paces_wait _ _ _ time).bind fun _ _ => ih

/-- Switching the backlight leaves the bus alone. -/
theorem paces_setBacklight (on : Bool)
    : Paces (lines.map Line.number) connection.timer (connection.setBacklight on)
        fun _ => True := by
  refine .of_plays fun failing => ?_
  obtain ⟨answer, log, untouched, plays⟩ := plays_setBacklight failing opened distinct on
  refine ⟨answer, log, .of_writes fun write member strobe => untouched write member ?_, plays⟩
  rw [Wiring.bus_eq]
  exact List.mem_append_right _ strobe

theorem paces_reset
    : Paces (lines.map Line.number) connection.timer connection.reset fun _ => True := by
  refine (paces_send opened distinct _ _ _).bind fun first _ => ?_
  cases first with
  | error cause => exact .pure trivial
  | ok =>
      refine (paces_wait _ _ _ _).bind fun _ _ => ?_
      refine (paces_send opened distinct _ _ _).bind fun second _ => ?_
      cases second with
      | error cause => exact .pure trivial
      | ok => exact (paces_wait _ _ _ _).bind fun _ _ => .pure trivial

/-- Bringing up a display leaves it open over its lines, or gives them back. -/
theorem paces_bringUp (config : PinConfig)
    : Paces (lines.map Line.number) connection.timer (connection.bringUp lines config)
        fun result =>
          ∀ brought, result = .ok brought
            → brought.lines = some lines ∧ brought.timer = connection.timer := by
  simp only [Connection.bringUp, Connection.enter, bind_assoc, pure_bind]
  refine .noted_bind ((paces_reset opened distinct).bind fun result _ => ?_)
  cases result with
  | error cause =>
      refine (paces_releaseAll _ _ _).bind fun _ _ => .pure fun brought same => ?_
      cases same
  | ok =>
      refine .noted_bind (.noted_bind (.pure fun brought same => ?_))
      cases same
      exact ⟨opened, rfl⟩

end Open

-----------------------------------------------------------------------------------------
-- Setting up
-----------------------------------------------------------------------------------------

/-- A connection is open over lines with the given numbers, and waits by the given timer. -/
def OpenOver (numbers : Wiring UInt32) (timer : Timer) (connection : Connection Unit) : Prop :=
  ∃ lines : Wiring (Line Unit),
    connection.lines = some lines ∧ lines.map Line.number = numbers
    ∧ connection.timer = timer

section SetUp

variable {config : PinConfig} {options : DisplayOptions}

/-- A set-up records complete transfers, whether it succeeds or fails. -/
theorem paces_init (wired : config.wiring options = .ok numbers) (timer : Timer)
    : Paces numbers timer (Connection.init config options timer) fun result =>
        ∀ connection, result = .ok connection → OpenOver numbers timer connection := by
  have established
      : Paces numbers timer (Connection.establish numbers config options timer) fun result =>
          ∀ connection, result = .ok connection → OpenOver numbers timer connection := by
    have acquires := (paces_acquireWiring numbers numbers timer).obtaining
      (obtains_acquire_distinct numbers)
    refine .noted_bind (acquires.bind fun result known => ?_)
    cases result with
    | error cause => exact .pure nofun
    | ok lines =>
        obtain ⟨same, distinct⟩ := known.2 lines rfl
        subst same
        refine .noted_bind (.noted_bind ?_)
        let connection : Connection Unit := .onLines lines config options timer
        have opened : connection.lines = some lines := rfl
        have brings := paces_bringUp opened distinct config
        exact brings.mono fun _ open_ brought same => ⟨lines, (open_ brought same).1, rfl,
          (open_ brought same).2⟩
  have set
      : Paces numbers timer (Connection.setUp config options timer) fun result =>
          ∀ connection, result = .ok connection → OpenOver numbers timer connection := by
    simp only [Connection.setUp_eq, wired]
    refine .noted_bind ?_
    split
    · exact .noted_bind established
    · exact established
  refine set.bind fun result open_ => ?_
  cases result with
  | error cause => exact .noted_bind (.noted_bind (.pure nofun))
  | ok connection => exact .pure open_

/-- Notes are not recorded as events, by induction on them. -/
theorem paces_notes (numbers : Wiring UInt32) (timer : Timer) (notes : List Note)
    : Paces numbers timer (notes.forM note) fun _ => True := by
  induction notes with
  | nil => exact .pure trivial
  | cons entry rest ih => exact .noted_bind ih

/-- A step that sets up a display records complete transfers, and if it answers with a connection it
has put one there, open over the configured lines.
-/
theorem paces_setup (env : Environment) (session : Session Unit) {setup : Step}
    (asked : setup.setup? env = some (config, options)) (waits : setup.timer? = some timer)
    (wired : config.wiring options = .ok numbers)
    : Paces numbers timer (session.step env setup) fun result =>
        ∀ slot, result.1 = .connection slot
          → ∃ connection,
              result.2.connections[slot]? = some (some connection)
              ∧ OpenOver numbers timer connection := by
  have enrolled {x : StateM Bench (Except ConnectionError (Connection Unit))}
      (sets : Paces numbers timer x fun result =>
        ∀ connection, result = .ok connection → OpenOver numbers timer connection)
      : Paces numbers timer (do return session.enroll (← x)) fun result =>
          ∀ slot, result.1 = .connection slot
            → ∃ connection,
                result.2.connections[slot]? = some (some connection)
                ∧ OpenOver numbers timer connection := by
    refine sets.bind fun result open_ => .pure fun slot replied => ?_
    cases result with
    | error cause => cases replied
    | ok connection =>
        cases replied
        exact ⟨connection, by simp [Session.enroll], open_ connection rfl⟩
  cases setup with
  | init given chosen used =>
      cases asked
      cases waits
      exact enrolled (paces_init wired timer)
  | connect source chosen used =>
      cases asked
      cases waits
      refine enrolled ?_
      simp only [Connection.ofSource, Logged.emit, bind_assoc, pure_bind]
      exact (paces_notes _ _ _).bind fun _ _ => paces_init wired timer
  | _ => cases asked

end SetUp

-----------------------------------------------------------------------------------------
-- Steps and runs
-----------------------------------------------------------------------------------------

section Runs

variable {session : Session Unit} {slot : Nat} {connection : Connection Unit}
variable {lines : Wiring (Line Unit)}

/-- A step on a display that leaves it open records complete transfers, and leaves the connection as
it is. By cases on the step.
-/
theorem paces_displayStep (opened : connection.lines = some lines)
    (distinct : (lines.map Line.number).toList.Nodup) {step : DisplayStep}
    (open_ : step ≠ .close)
    : Paces (lines.map Line.number) connection.timer
        ((step.run : StateT (Connection Unit) (StateM Bench) Reply).run connection)
        fun result => result.2 = connection := by
  cases plans : step.plan with
  | some planned =>
      rw [Connection.run_step plans]
      have follows
          : Paces (lines.map Line.number) connection.timer (connection.follow planned)
              fun _ => True := by
        cases planned with
        | error cause => exact .pure trivial
        | ok script => exact (paces_play opened distinct script).bind fun _ _ => .pure trivial
      exact follows.bind fun _ _ => .pure rfl
  | none =>
      cases step with
      | backlight on =>
          rw [Connection.run_backlight]
          exact (paces_setBacklight opened distinct on).bind fun _ _ => .pure rfl
      | supportsBacklight => exact .pure rfl
      | close => exact absurd rfl open_
      | _ => cases plans

/-- A step on a connection that spares it records complete transfers, and leaves the session as it is.
By cases on the step.
-/
theorem paces_concerned (env : Environment)
    (found : session.connections[slot]? = some (some connection))
    (opened : connection.lines = some lines)
    (distinct : (lines.map Line.number).toList.Nodup) {step : Step}
    (concerned : step.concerns slot = true) (spared : step.spares slot = true)
    : Paces (lines.map Line.number) connection.timer (session.step env step)
        fun result => result.2 = session := by
  have here : Session.occupant session.connections slot = some connection := by
    simp [Session.occupant, found]
  cases step with
  | display place step =>
      obtain rfl : place = slot := by simpa [Step.concerns] using concerned
      have open_ : step ≠ .close := by
        rintro rfl
        simp [Step.spares] at spared
      have unchanged : session.connections.set place (some connection) = session.connections := by
        obtain ⟨bound, same⟩ := List.getElem?_eq_some_iff.mp found
        rw [← same, List.set_getElem_self]
      simp only [Session.step, Session.onConnection, here, Session.displayStep]
      refine (paces_displayStep opened distinct open_).bind fun result same => .pure ?_
      rw [same, unchanged]
  | sendNibble place target register nibble =>
      obtain rfl : place = slot := by simpa [Step.concerns] using concerned
      simp only [Session.step, Session.onConnection, here, Session.sendNibble]
      cases Target.ofId target with
      | error cause => exact .pure rfl
      | ok target =>
          simp only [bind_assoc, pure_bind]
          exact (paces_sendNibble opened distinct target register nibble).bind fun _ _ => .pure rfl
  | status place =>
      obtain rfl : place = slot := by simpa [Step.concerns] using concerned
      simp only [Session.step, Session.onConnection, here]
      exact .pure rfl
  | writeLine place signal level =>
      obtain rfl : place = slot := by simpa [Step.concerns] using concerned
      simp [Step.spares] at spared
  | disconnect place =>
      obtain rfl : place = slot := by simpa [Step.concerns] using concerned
      simp [Step.spares] at spared
  | _ => cases concerned

/-- An action that spares a connection leaves it as it is, and records complete transfers over its
lines, if any.
-/
theorem paced_perform (env : Environment) {state : Session Unit × Bench}
    (found : state.1.connections[slot]? = some (some connection))
    (open_ : OpenOver numbers timer connection) (owned : Owned state.1.lines state.2)
    {action : Action} (spared : action.spares slot = true)
    : (perform env state action).2.1.connections[slot]? = some (some connection)
      ∧ ∃ log : List Event,
          (perform env state action).2.2.events.toList = state.2.events.toList ++ log
          ∧ Paced numbers timer log := by
  obtain ⟨session, bench⟩ := state
  obtain ⟨lines, opened, rfl, rfl⟩ := open_
  have unchanged : bench.events.toList = bench.events.toList ++ [] :=
    (List.append_nil _).symm
  cases action with
  | step step =>
      cases concerned : step.concerns slot with
      | false =>
          have bound : slot < session.connections.length :=
            (List.getElem?_eq_some_iff.mp found).1
          obtain ⟨log, extended, untouched⟩ := untouched_step env found owned concerned
          refine ⟨(Session.getElem?_step env bound concerned bench).trans found, log, extended, ?_⟩
          refine .of_writes fun write member strobe => untouched write member ?_
          have onBus : write.1 ∈ (lines.map Line.number).bus := by
            rw [Wiring.bus_eq]
            exact List.mem_append_right _ strobe
          simpa [Connection.held, opened] using Wiring.bus_subset _ onBus
      | true =>
          have paces := paces_concerned env found opened (owned.distinct found opened) concerned
            spared
          obtain ⟨log, extended, paced, same⟩ := paces bench
          refine ⟨?_, log, extended, paced⟩
          show ((session.step env step : StateM Bench _).run bench).1.2.connections[slot]? = _
          rw [same]
          exact found
  | failExport line => exact ⟨found, [], unchanged, .nil⟩
  | failWrites line => exact ⟨found, [], unchanged, .nil⟩
  | clearRecord => cases spared
  | clocked enable rs data => exact ⟨found, [], unchanged, .nil⟩
  | summary line => exact ⟨found, [], unchanged, .nil⟩

/-- Over any actions that spare a connection complete transfers are recorded, by induction on the
actions.
-/
theorem paced_reach (env : Environment) {state : Session Unit × Bench}
    (found : state.1.connections[slot]? = some (some connection))
    (open_ : OpenOver numbers timer connection) (owned : Owned state.1.lines state.2)
    {actions : List Action} (spared : ∀ action ∈ actions, action.spares slot = true)
    : ∃ log : List Event,
        (reach env state actions).2.events.toList = state.2.events.toList ++ log
        ∧ Paced numbers timer log := by
  induction actions generalizing state with
  | nil => exact ⟨[], (List.append_nil _).symm, .nil⟩
  | cons action rest ih =>
      obtain ⟨first, others⟩ := List.forall_mem_cons.mp spared
      obtain ⟨kept, log, extended, paced⟩ := paced_perform env found open_ owned first
      obtain ⟨more, goesOn, rests⟩ := ih kept (owned_perform env owned action) others
      refine ⟨log ++ more, ?_, paced.append rests⟩
      rw [← List.append_assoc, ← extended]
      exact goesOn

end Runs

/-- The timing of a bus holds in every run, also when writes fail.

A display is set up in the middle of a session, after any actions; the set-up may fail. If it answers
with a connection, any actions follow that do not close it, write its lines past the protocol or
clear the record. Then the record has grown since the beginning of the set-up by a log in which each
enable line is raised and lowered in turns, ending low, and no data changes between the two. If the
waits of the connection are recorded, there is a delay of 50 microseconds between data and enable,
between enable and data, and while an enable is high.
-/
theorem bus_timing (env : Environment) (before during : List Action) {setup : Step}
    {config : PinConfig} {options : DisplayOptions} {timer : Timer} {numbers : Wiring UInt32}
    (asked : setup.setup? env = some (config, options)) (waits : setup.timer? = some timer)
    (wired : config.wiring options = .ok numbers)
    : let start := reach env ({}, {}) before
      let reply := (perform env start (.step setup)).1
      let opened := (perform env start (.step setup)).2
      (∃ log : List Event,
        opened.2.events.toList = start.2.events.toList ++ log
        ∧ BusOrder numbers log ∧ (timer = .recorded → BusDelays numbers log))
      ∧ ∀ slot, reply = .connection slot → (∀ action ∈ during, action.spares slot = true)
        → ∃ log : List Event,
            (reach env opened during).2.events.toList = start.2.events.toList ++ log
            ∧ BusOrder numbers log ∧ (timer = .recorded → BusDelays numbers log) := by
  intro start reply opened
  have fresh : Owned ({} : Session Unit).lines {} := ⟨.refl _, List.nodup_nil⟩
  have reached : Owned start.1.lines start.2 := owned_reach env fresh before
  have owned : Owned opened.1.lines opened.2 := owned_perform env reached (.step setup)
  obtain ⟨log, extended, paced, places⟩ := paces_setup env start.1 asked waits wired start.2
  refine ⟨⟨log, extended, paced.order, paced.delays⟩, fun slot replied spared => ?_⟩
  obtain ⟨connection, found, open_⟩ := places slot replied
  obtain ⟨more, goesOn, rests⟩ := paced_reach env found open_ owned spared
  have whole := paced.append rests
  refine ⟨log ++ more, ?_, whole.order, whole.delays⟩
  rw [← List.append_assoc, ← extended]
  exact goesOn

/-- A data line begins to fail before a byte for both controllers and a nibble for the second one.
-/
def sampleFailing : List Action :=
  [.failWrites 23, .step (.display 0 (.send 0 .data 0x41)),
    .step (.sendNibble 0 2 .command 0x05)]

/-- The timing holds over a bus with a failing line, and both controllers are clocked as ever. -/
theorem bus_timing_failing_line
    : let start := reach {} ({}, {}) [.step (.export 3)]
      let opened := (perform {} start (.step (.init {} { controllers := .dual } .recorded))).2
      let numbers : Wiring UInt32 := ⟨8, 7, 18, 23, 24, 25, none, some 22⟩
      Events.writesTo (reach {} opened sampleFailing).2.events.toList 22
        = (List.replicate 7 [true, false]).flatten
      ∧ ∃ log : List Event,
          (reach {} opened sampleFailing).2.events.toList = start.2.events.toList ++ log
          ∧ BusOrder numbers log ∧ BusDelays numbers log := by
  have configured
      : PinConfig.wiring {} { controllers := .dual }
        = .ok ⟨8, 7, 18, 23, 24, 25, none, some 22⟩ := by
    decide +kernel
  have opens
      : (perform {} (reach {} ({}, {}) [.step (.export 3)])
          (.step (.init {} { controllers := .dual } .recorded))).1
        = .connection 0 := by
    decide +kernel
  have asked
      : (Step.init {} { controllers := .dual } .recorded).setup? {}
        = some ({}, { controllers := .dual }) :=
    rfl
  obtain ⟨_, goesOn⟩ :=
    bus_timing {} [.step (.export 3)] sampleFailing asked rfl configured
  obtain ⟨log, extended, order, delays⟩ := goesOn 0 opens (by decide)
  exact ⟨by decide +kernel, log, extended, order, delays rfl⟩

/-- Where the waits of a connection are not recorded, there are no delays: enable is raised in the
record of its set-up without one since the data changed.
-/
theorem unrecorded_waits_leave_no_delay
    : PinConfig.wiring {} {} = .ok ⟨8, 7, 18, 23, 24, 25, none, none⟩
      ∧ ¬BusDelays ⟨8, 7, 18, 23, 24, 25, none, none⟩
          (perform {} ({}, {}) (.step (.init {} {} .unrecorded))).2.2.events.toList := by
  refine ⟨by decide +kernel, fun delays => ?_⟩
  let events := (perform {} ({}, {}) (.step (.init {} {} .unrecorded))).2.2.events.toList
  have split
      : events
        = events.take 14 ++ .written 25 true :: [] ++ .written 8 true :: events.drop 16 := by
    decide +kernel
  obtain ⟨event, between, _⟩ := delays.setup _ _ _ _ _ split
    ⟨⟨25, by decide, true, rfl⟩, 8, by decide, true, rfl⟩
  cases between

end Bench

end CharLcd

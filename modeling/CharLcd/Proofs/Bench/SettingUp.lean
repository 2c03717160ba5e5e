import CharLcd.Proofs.Bench.Acquiring
import CharLcd.Proofs.Bench.Timing

/-! How setting up a display on a bench ends, and what it records.

The configured numbers are checked in one order, the lines are acquired in another, and the first
byte drives them in a third. Each of these stages has its own first failure, and only the first stage
that fails is heard of: a number that is none of a line, a line that is not handed out, or one that
cannot be written.
-/

namespace CharLcd

-----------------------------------------------------------------------------------------
-- A byte for all controllers
-----------------------------------------------------------------------------------------

section Bytes

variable {timer : Timer} {failing : List UInt32} {lines : Wiring (Line Unit)}
variable {controllers : Controllers}

/-- What a command byte for all controllers leaves in the record where just the lines `failing` cannot
be written.
-/
def Wiring.byteEvents (timer : Timer) (failing : List UInt32) (lines : Wiring (Line Unit))
    (controllers : Controllers) (byte : UInt8)
    : List Event :=
  (lines.byteSteps controllers .all .command byte).flatMap (BusStep.events timer failing)

/-- The steps of a transfer leave the writes of those lines that can be written. By induction on the
steps.
-/
theorem BusStep.writes_events (steps : List (BusStep Unit))
    : Events.writes (steps.flatMap (events timer failing))
      = (writes steps).filter (·.1 ∉ failing) := by
  induction steps with
  | nil => rfl
  | cons step rest ih =>
      rw [List.flatMap_cons, Bench.writes_append, ih]
      cases step with
      | settle => exact congrArg (· ++ _) (Timer.writes_events timer settleTime)
      | drive line level =>
          have first : writes (.drive line level :: rest) = (line.number, level) :: writes rest :=
            rfl
          rw [first, List.filter_cons]
          by_cases fails : line.number ∈ failing <;>
            simp [events, fails, Events.writes, Event.write?]

/-- The delays of a transfer are those of its settling, whatever lines fail. -/
theorem BusStep.delays_events (steps : List (BusStep Unit))
    : Events.delays (steps.flatMap (events .recorded failing))
      = List.replicate (steps.count .settle) settleTime := by
  induction steps with
  | nil => rfl
  | cons step rest ih =>
      rw [List.flatMap_cons, Events.delays, List.filterMap_append, ← Events.delays,
        ← Events.delays, ih]
      cases step with
      | settle => simp [events, Timer.events, Events.delays, Event.delay?, List.replicate_succ]
      | drive line level =>
          have other : (BusStep.drive line level == (.settle : BusStep Unit)) = false := rfl
          rw [List.count_cons, other]
          by_cases fails : line.number ∈ failing <;>
            simp [events, fails, Events.delays, Event.delay?]

/-- A byte for all controllers drives all lines of the bus, in order. -/
theorem Wiring.route_eq_bus (second : controllers.isDual = lines.en2.isSome)
    : (lines.route controllers .all).map Line.number = (lines.map Line.number).bus := by
  have enables : lines.enables controllers .all = lines.strobes := by
    unfold Wiring.enables Wiring.strobes
    cases present : lines.en2 <;> simp [present] at second <;> simp [second]
  rw [Wiring.bus_map, Wiring.bus_eq, Wiring.route, enables]

/-- A byte settles eight times: four times for each nibble. -/
theorem Wiring.delays_byteEvents (byte : UInt8)
    : Events.delays (lines.byteEvents .recorded failing controllers byte)
      = List.replicate 8 settleTime := by
  have settles : (lines.byteSteps controllers .all .command byte).count .settle = 8 := by
    have driving (items : List (Line Unit)) (level : Bool)
        : (items.map (BusStep.drive · level)).count .settle = 0 := by
      simp [List.count_eq_zero]
    have put (nibble : UInt8)
        : (lines.data.zipWith .drive (nibbleBits nibble)).count (.settle : BusStep Unit) = 0 := by
      simp [Wiring.data, nibbleBits]
    simp [Wiring.byteSteps, Wiring.select, Wiring.clockNibble, Wiring.clearData,
      Wiring.putNibble, Wiring.enable, List.count_append, driving, put]
  rw [Wiring.byteEvents, BusStep.delays_events, settles]

/-- Over a bus that can be written a byte leaves all of its writes. -/
theorem Wiring.byteEvents_of_work
    (work : ∀ number ∈ (lines.map Line.number).bus, number ∉ failing) (byte : UInt8)
    : lines.byteEvents timer failing controllers byte
      = lines.byteEvents timer [] controllers byte := by
  refine List.flatMap_congr fun step member => ?_
  cases step with
  | settle => rfl
  | drive line level =>
      have driven : line ∈ lines.bus :=
        lines.driven_byteSteps_subset controllers .all .command byte
          (List.mem_filterMap.mpr ⟨_, member, rfl⟩)
      have works : line.number ∉ failing := by
        refine work line.number ?_
        rw [Wiring.bus_map]
        exact List.mem_map_of_mem driven
      simp [BusStep.events, works]

/-- What the reset sequence records over a bus that can be written. -/
def Wiring.resetEvents (timer : Timer) (lines : Wiring (Line Unit)) (controllers : Controllers)
    : List Event :=
  lines.byteEvents timer [] controllers Connection.resetByte
    ++ timer.events Connection.resetTime
    ++ lines.byteEvents timer [] controllers Connection.fourBitByte
    ++ timer.events Connection.fourBitTime

end Bytes

namespace Bench

variable {bench : Bench} {log : List Event} {held : List UInt32}

-----------------------------------------------------------------------------------------
-- Bringing up
-----------------------------------------------------------------------------------------

section BringUp

variable {connection : Connection Unit} {lines : Wiring (Line Unit)} {config : PinConfig}
variable (failing : List UInt32) (opened : connection.lines = some lines)
variable (second : connection.controllers.isDual = lines.en2.isSome)

include opened second

/-- A byte for all controllers is transferred whatever lines fail, and the first one of the bus that
does is reported.
-/
theorem plays_send_failing (byte : UInt8)
    : Plays failing (connection.send .all .command byte)
        (driveResult failing (lines.map Line.number).bus)
        (lines.byteEvents connection.timer failing connection.controllers byte) := by
  rw [← Wiring.route_eq_bus second]
  exact plays_byte opened failing .all .command byte

/-- The reset sequence ends with its first byte if a line of the bus fails. -/
theorem plays_reset_failing {number : UInt32}
    (found : (lines.map Line.number).bus.find? (· ∈ failing) = some number)
    : Plays failing connection.reset (.error (.writeFailed number .brokenPipe))
        (lines.byteEvents connection.timer failing connection.controllers
          Connection.resetByte) := by
  have sends := plays_send_failing failing opened second Connection.resetByte
  simp only [driveResult, found] at sends
  exact sends.bind_quiet (.pure _)

/-- Over a bus that can be written the reset sequence sends both of its bytes. -/
theorem plays_reset (none : (lines.map Line.number).bus.find? (· ∈ failing) = none)
    : Plays failing connection.reset (.ok ())
        (lines.resetEvents connection.timer connection.controllers) := by
  have work : ∀ number ∈ (lines.map Line.number).bus, number ∉ failing := by
    simpa using none
  have sends (byte : UInt8)
      : Plays failing (connection.send .all .command byte) (.ok ())
          (lines.byteEvents connection.timer [] connection.controllers byte) := by
    have sent := plays_send_failing failing opened second byte
    rw [driveResult, none, Wiring.byteEvents_of_work work] at sent
    exact sent
  have waits := Plays.wait failing connection.timer
  simp only [Wiring.resetEvents, List.append_assoc]
  refine (sends _).bind ((waits Connection.resetTime).bind ((sends _).bind ?_))
  exact (waits Connection.fourBitTime).bind_quiet (.pure _)

end BringUp

/-- A display whose bus cannot be written has its lines taken back, the last one first. -/
theorem ends_bringUp_failing {connection : Connection Unit} {lines : Wiring (Line Unit)}
    {config : PinConfig} (opened : connection.lines = some lines)
    (second : connection.controllers.isDual = lines.en2.isSome) {number : UInt32}
    (found : (lines.map Line.number).bus.find? (· ∈ bench.failingWrites) = some number)
    : Ends bench (connection.bringUp lines config) (.error (.gpio (.writeFailed number .brokenPipe)))
        (lines.byteEvents connection.timer bench.failingWrites connection.controllers
            Connection.resetByte
          ++ lines.toList.reverse.map (Event.released ∘ Line.number))
        (bench.held.filter (· ∉ lines.toList.reverse.map Line.number)) := by
  simp only [Connection.bringUp, Connection.enter, bind_assoc, pure_bind]
  have resets (notes : Array Note)
      : Ends { bench with notes }
          ({ connection with stage := .protocolReset }.reset : StateM Bench _) _ _ bench.held :=
    .of_plays (plays_reset_failing bench.failingWrites opened second found) rfl
  refine .noted_bind fun notes => (resets notes).bind fun after leaves => ?_
  rw [← leaves.held]
  exact (Ends.releaseAll lines.toList.reverse).bind_pure rfl

/-- A display whose bus can be written is ready after the reset sequence. -/
theorem ends_bringUp {connection : Connection Unit} {lines : Wiring (Line Unit)}
    {config : PinConfig} (opened : connection.lines = some lines)
    (second : connection.controllers.isDual = lines.en2.isSome)
    (none : (lines.map Line.number).bus.find? (· ∈ bench.failingWrites) = none)
    : Ends bench (connection.bringUp lines config) (.ok { connection with stage := .ready })
        (lines.resetEvents connection.timer connection.controllers) bench.held := by
  simp only [Connection.bringUp, Connection.enter, bind_assoc, pure_bind]
  have resets (notes : Array Note)
      : Ends { bench with notes }
          ({ connection with stage := .protocolReset }.reset : StateM Bench _) _ _ bench.held :=
    .of_plays (plays_reset bench.failingWrites opened second none) rfl
  rw [← List.append_nil (lines.resetEvents _ _)]
  refine .noted_bind fun notes => (resets notes).bind fun after leaves => ?_
  rw [← leaves.held]
  exact .noted_bind fun _ => .noted_bind fun _ => .pure _

-----------------------------------------------------------------------------------------
-- Setting up
-----------------------------------------------------------------------------------------

section SetUp

variable {config : PinConfig} {options : DisplayOptions}

/-- A line that is refused ends the set-up. -/
theorem ends_establish_refused {numbers : Wiring UInt32} {taken : List UInt32} {signal : Signal}
    {number : UInt32}
    (refused
      : firstRefused bench.failingExports bench.held numbers.signed
        = some (taken, signal, number))
    (timer : Timer)
    : Ends bench (Connection.establish numbers config options timer : StateM Bench _)
        (.error (.pinSetup signal number (bench.refusal number)))
        (taken.map .exported ++ taken.reverse.map .released) bench.held := by
  refine .noted_bind fun notes => ?_
  have secures := secures_acquire numbers { bench with notes }
  simp only [refused] at secures
  exact secures.bind_pure rfl

/-- Once all lines are acquired, the set-up goes on to bring the display up over them. -/
theorem ends_establish_secured {numbers : Wiring UInt32}
    (secured : firstRefused bench.failingExports bench.held numbers.signed = none) (timer : Timer)
    {result : Except ConnectionError (Connection Unit)}
    (brings
      : ∀ after : Bench,
          after.failingWrites = bench.failingWrites
          → after.held = numbers.toList.reverse ++ bench.held
          → Ends after
              ((Connection.onLines (handedOut numbers) config options timer).bringUp
                (handedOut numbers) config)
              result log held)
    : Ends bench (Connection.establish numbers config options timer) result
        (numbers.toList.map .exported ++ log) held := by
  have exports : numbers.signed.map (Event.exported ∘ Prod.snd) = numbers.toList.map .exported := by
    rw [← List.map_map, Wiring.map_snd_signed]
  refine .noted_bind fun notes => ?_
  have secures := secures_acquire numbers { bench with notes }
  simp only [secured, exports, Wiring.map_snd_signed] at secures
  refine secures.bind fun after leaves => ?_
  refine .noted_bind fun _ => .noted_bind fun _ => ?_
  exact brings _ leaves.failing leaves.held

/-- A line that cannot be written ends the set-up, and all lines are given back. -/
theorem ends_establish_failing {numbers : Wiring UInt32}
    (secured : firstRefused bench.failingExports bench.held numbers.signed = none)
    (second : options.controllers.isDual = numbers.en2.isSome) {number : UInt32}
    (found : numbers.bus.find? (· ∈ bench.failingWrites) = some number) (timer : Timer)
    : Ends bench (Connection.establish numbers config options timer : StateM Bench _)
        (.error (.gpio (.writeFailed number .brokenPipe)))
        (numbers.toList.map .exported
          ++ ((handedOut numbers).byteEvents timer bench.failingWrites options.controllers
              Connection.resetByte
            ++ numbers.toList.reverse.map .released))
        bench.held := by
  refine ends_establish_secured secured timer fun after failing handed => ?_
  have same : (handedOut numbers).toList.map Line.number = numbers.toList := by
    rw [← Wiring.toList_map, map_number_handedOut]
  have onBus
      : ((handedOut numbers).map Line.number).bus.find? (· ∈ after.failingWrites)
        = some number := by
    rw [map_number_handedOut, failing]
    exact found
  have dual : options.controllers.isDual = (handedOut numbers).en2.isSome :=
    second.trans Option.isSome_map.symm
  have apart := (distinct_of_firstRefused secured).2
  rw [Wiring.map_snd_signed] at apart
  have back : (numbers.toList.reverse ++ bench.held).filter (· ∉ numbers.toList.reverse)
      = bench.held := by
    rw [List.filter_append, List.filter_eq_nil_iff.mpr (by simp), List.nil_append]
    refine List.filter_eq_self.mpr fun other used => decide_eq_true fun member => ?_
    exact apart other (List.mem_reverse.mp member) used
  let connection : Connection Unit := .onLines (handedOut numbers) config options timer
  have brings
      : Ends after (connection.bringUp (handedOut numbers) config) _ _ _ :=
    ends_bringUp_failing rfl dual onBus
  rw [← List.map_map, List.map_reverse, same, failing, handed, back] at brings
  exact brings

/-- A display whose lines are handed out and can be written is set up. -/
theorem ends_establish_ready {numbers : Wiring UInt32}
    (secured : firstRefused bench.failingExports bench.held numbers.signed = none)
    (second : options.controllers.isDual = numbers.en2.isSome)
    (none : numbers.bus.find? (· ∈ bench.failingWrites) = none) (timer : Timer)
    : Ends bench (Connection.establish numbers config options timer : StateM Bench _)
        (.ok
          { Connection.onLines (handedOut numbers) config options timer with stage := .ready })
        (numbers.toList.map .exported
          ++ (handedOut numbers).resetEvents timer options.controllers)
        (numbers.toList.reverse ++ bench.held) := by
  refine ends_establish_secured secured timer fun after failing handed => ?_
  have onBus
      : ((handedOut numbers).map Line.number).bus.find? (· ∈ after.failingWrites)
        = .none := by
    rw [map_number_handedOut, failing]
    exact none
  have dual : options.controllers.isDual = (handedOut numbers).en2.isSome :=
    second.trans Option.isSome_map.symm
  rw [← handed]
  let connection : Connection Unit := .onLines (handedOut numbers) config options timer
  have brings
      : Ends after (connection.bringUp (handedOut numbers) config) _ _ _ :=
    ends_bringUp rfl dual onBus
  exact brings

/-- A set-up with reports ends as one without. -/
theorem Ends.init {timer : Timer} {result : Except ConnectionError (Connection Unit)}
    (sets : Ends bench (Connection.setUp config options timer) result log held)
    : Ends bench (Connection.init config options timer) result log held := by
  rw [← List.append_nil log]
  refine sets.bind fun after leaves => ?_
  rw [← leaves.held]
  cases result with
  | ok connection => exact .pure _
  | error error => exact .noted_bind fun _ => .noted_bind fun _ => .pure _

/-- With its numbers checked a set-up goes on to establish the connection. -/
theorem Ends.setUp {numbers : Wiring UInt32} (wired : config.wiring options = .ok numbers)
    {timer : Timer} {result : Except ConnectionError (Connection Unit)}
    (establishes
      : ∀ notes,
          Ends { bench with notes } (Connection.establish numbers config options timer) result log
            held)
    : Ends bench (Connection.setUp config options timer) result log held := by
  rw [Connection.setUp_eq, wired]
  simp only
  split
  · exact .noted_bind fun _ => .noted_bind fun _ => establishes _
  · exact .noted_bind fun _ => establishes _

/-- The acquired signals are different ones, by cases on the two that may not be needed. -/
theorem nodup_acquired (config : PinConfig) (options : DisplayOptions)
    : (config.acquired options).Nodup := by
  unfold PinConfig.acquired
  cases config.hasBacklight options <;> cases options.controllers.isDual <;> decide

/-- The line numbers of a configuration are those of the acquired signals, in their order. -/
theorem toList_lineNumbers (config : PinConfig) (options : DisplayOptions)
    : (config.lineNumbers options).toList
      = (config.acquired options).map config.lineNumber := by
  rw [← Wiring.map_snd_signed, config.signed_lineNumbers options, List.map_map]
  rfl

/-- There is a line for a second enable just for two controllers. -/
theorem isSome_en2_lineNumbers (config : PinConfig) (options : DisplayOptions)
    : (config.lineNumbers options).en2.isSome = options.controllers.isDual := by
  unfold PinConfig.lineNumbers
  cases options.controllers.isDual <;> rfl

/-- The bus of a display carries the driven signals, by cases on its second enable. -/
theorem bus_lineNumbers (config : PinConfig) (options : DisplayOptions)
    : (config.lineNumbers options).bus = options.driven.map config.lineNumber := by
  unfold PinConfig.lineNumbers DisplayOptions.driven Wiring.bus
  cases options.controllers.isDual <;> rfl

/-- The lines are acquired up to the first signal that is refused. -/
theorem firstRefused_lineNumbers (bench : Bench) (config : PinConfig) (options : DisplayOptions)
    : firstRefused bench.failingExports bench.held (config.lineNumbers options).signed
      = ((config.acquired options).find? (bench.refuses config (config.acquired options))).map
          fun signal =>
            (((config.acquired options).takeWhile (· ≠ signal)).map config.lineNumber, signal,
              config.lineNumber signal) := by
  have distinct : (([] : List Signal) ++ config.acquired options).Nodup :=
    nodup_acquired config options
  rw [config.signed_lineNumbers options]
  exact firstRefused_eq_find? bench config distinct

/-- The first line of the bus that fails is that of the first driven signal that does. -/
theorem find?_bus_lineNumbers (failing : List UInt32) (config : PinConfig)
    (options : DisplayOptions)
    : (config.lineNumbers options).bus.find? (· ∈ failing)
      = (options.driven.find? (config.lineNumber · ∈ failing)).map config.lineNumber := by
  rw [bus_lineNumbers, List.find?_map]
  rfl

/-- Over the reset sequence every controller clocks in the requests for 8-bit mode and the one for
4-bit mode, whatever levels the lines had before.
-/
theorem clockedNibbles_resetEvents {numbers : Wiring UInt32} (distinct : numbers.toList.Nodup)
    (timer : Timer) {controllers : Controllers} {enable : UInt32}
    (enabled : enable ∈ numbers.enables controllers .all) (exported : List UInt32)
    : Events.clockedNibbles
        (exported.map .exported ++ (handedOut numbers).resetEvents timer controllers) enable
        numbers.rs numbers.data
      = [(false, 0x3), (false, 0x3), (false, 0x3), (false, 0x2)] := by
  have same := map_number_handedOut numbers
  have data : (handedOut numbers).data.map Line.number = numbers.data := rfl
  have unwritten : Events.writes (exported.map Event.exported) = [] := by
    simp [Events.writes, Event.write?]
  have bytes (byte : UInt8)
      : Events.writes ((handedOut numbers).byteEvents timer [] controllers byte)
        = BusStep.writes ((handedOut numbers).byteSteps controllers .all .command byte) := by
    rw [Wiring.byteEvents, BusStep.writes_events]
    simp
  have clocks (byte : UInt8)
      : Clocks enable numbers.rs numbers.data
          (BusStep.writes ((handedOut numbers).byteSteps controllers .all .command byte))
          [(false, byte >>> 4), (false, byte &&& 0x0f)] := by
    have sent := Wiring.clocks_byteSteps (same.symm ▸ distinct) (same.symm ▸ enabled) .all .command
      byte
    simp only [Wiring.clockedAt, same, enabled, if_true] at sent
    exact sent
  have both := (clocks Connection.resetByte).append (clocks Connection.fourBitByte)
  simp only [Events.clockedNibbles, Wiring.resetEvents, writes_append, unwritten,
    Timer.writes_events, bytes, List.append_nil, List.nil_append]
  exact both []

/-- How a set-up ends on a bench, for every configuration and whatever the bench was like before.

The first of the checked signals whose number is none of a line is reported, and nothing happens.
Otherwise the lines are acquired up to the first one that is refused, which is reported, and given
back without being written. Otherwise, if a line of the bus cannot be written, the first such line is
reported after the first byte, and all lines are given back. Otherwise the display is ready, its
lines stay handed out, and its controllers have clocked in the reset sequence.
-/
theorem ends_init (config : PinConfig) (options : DisplayOptions) (timer : Timer) (bench : Bench)
    : let asked := config.acquired options
      let numbers := config.lineNumbers options
      let lines := asked.map config.lineNumber
      let controllers := options.controllers
      let EndsInit := Ends bench
        (Connection.init config options timer
          : StateM Bench (Except ConnectionError (Connection Unit)))
      match options.required.find? (!config.isLine ·) with
      | some signal => EndsInit (.error (.invalidPin signal (config.line signal))) [] bench.held
      | none =>
        match asked.find? (bench.refuses config asked) with
        | some signal =>
            let number := config.lineNumber signal
            let taken := (asked.takeWhile (· ≠ signal)).map config.lineNumber
            EndsInit (.error (.pinSetup signal number (bench.refusal number)))
              (taken.map .exported ++ taken.reverse.map .released) bench.held
        | none =>
          match options.driven.find? (config.lineNumber · ∈ bench.failingWrites) with
          | some signal =>
              let byte := (handedOut numbers).byteEvents timer bench.failingWrites controllers 0x33
              EndsInit (.error (.gpio (.writeFailed (config.lineNumber signal) .brokenPipe)))
                (lines.map .exported ++ byte ++ lines.reverse.map .released) bench.held
              ∧ (timer = .recorded → Events.delays byte = List.replicate 8 50)
          | none =>
              let byte := (handedOut numbers).byteEvents timer [] controllers
              let log := lines.map .exported ++ byte 0x33 ++ timer.events 4100 ++ byte 0x32
                ++ timer.events 150
              EndsInit
                (.ok
                  { Connection.onLines (handedOut numbers) config options timer with
                    stage := .ready })
                log (lines.reverse ++ bench.held)
              ∧ ∀ enable ∈ numbers.enables controllers .all,
                Events.clockedNibbles log enable numbers.rs numbers.data
                  = [(false, 0x3), (false, 0x3), (false, 0x3), (false, 0x2)] := by
  intro asked numbers lines controllers EndsInit
  have wired := config.wiring_eq_checking options
  have listed : numbers.toList = lines := toList_lineNumbers config options
  have second : controllers.isDual = numbers.en2.isSome :=
    (isSome_en2_lineNumbers config options).symm
  have acquisition := firstRefused_lineNumbers bench config options
  have driving := find?_bus_lineNumbers bench.failingWrites config options
  cases invalid : options.required.find? (!config.isLine ·) with
  | some signal =>
      rw [PinConfig.checking, invalid] at wired
      refine Ends.init ?_
      rw [Connection.setUp_eq, wired]
      exact .noted_bind fun _ => .pure _
  | none =>
      rw [PinConfig.checking, invalid] at wired
      cases refused : asked.find? (bench.refuses config asked) with
      | some signal =>
          rw [refused] at acquisition
          refine .init (.setUp wired fun _ => ends_establish_refused ?_ timer)
          exact acquisition
      | none =>
          rw [refused] at acquisition
          have distinct : numbers.toList.Nodup := by
            rw [← Wiring.map_snd_signed]
            exact (distinct_of_firstRefused acquisition).1
          cases unwritten : options.driven.find? (config.lineNumber · ∈ bench.failingWrites) with
          | some signal =>
              rw [unwritten] at driving
              refine ⟨.init (.setUp wired fun _ => ?_), ?_⟩
              · rw [← listed, List.append_assoc]
                refine ends_establish_failing ?_ second ?_ timer
                · exact acquisition
                · exact driving
              · rintro rfl
                exact Wiring.delays_byteEvents _
          | none =>
              rw [unwritten] at driving
              have events (first : List Event)
                  : first ++ (handedOut numbers).resetEvents timer controllers
                    = first ++ (handedOut numbers).byteEvents timer [] controllers 0x33
                      ++ timer.events 4100
                      ++ (handedOut numbers).byteEvents timer [] controllers 0x32
                      ++ timer.events 150 := by
                simp only [Wiring.resetEvents, List.append_assoc]
                rfl
              simp only [← events, ← listed]
              refine ⟨.init (.setUp wired fun _ => ?_), fun enable enabled => ?_⟩
              · refine ends_establish_ready ?_ second ?_ timer
                · exact acquisition
                · exact driving
              · exact clockedNibbles_resetEvents distinct timer enabled _

end SetUp

end Bench

end CharLcd

import CharLcd.Proofs.Bench.Ownership
import CharLcd.Proofs.Bench.Playing
import CharLcd.Proofs.Ownership.Apart

/-! What a display clocks in is what was sent to it, whatever else goes on at the bench.

A step on one connection is carried out as a whole before the next step, and the steps of all others
do not touch its lines, as these belong to nobody else. So the record of a session, looked at
through the lines of one display, is a row of complete transfers with nothing in between.
-/

namespace CharLcd

-----------------------------------------------------------------------------------------
-- What is sent
-----------------------------------------------------------------------------------------

/-- A nibble with the controllers it is sent to and the register it is for. -/
structure SentNibble where
  target : Target
  register : Register
  nibble : UInt8
deriving DecidableEq, Repr

namespace SentNibble

/-- A byte is sent as its two nibbles, the high one first. -/
def ofByte (target : Target) (register : Register) (byte : UInt8) : List SentNibble :=
  [⟨target, register, byte >>> 4⟩, ⟨target, register, byte &&& 0x0f⟩]

/-- What a controller sees of nibbles that are sent, if it is not addressed as `other`: each nibble
that is not for the other controller alone, with the level of RS.
-/
def seen (other : Target) (nibbles : List SentNibble) : List (Bool × UInt8) :=
  nibbles.filterMap fun sent =>
    if sent.target = other then none else some (sent.register.level, sent.nibble)

end SentNibble

/-- The nibbles that a step on a display sends, if nothing fails. -/
def DisplayStep.nibbles (step : DisplayStep) : List SentNibble :=
  match step.plan with
  | some (.ok script) =>
      (ScriptStep.sends script).flatMap fun (target, register, byte) =>
        SentNibble.ofByte target register byte
  | _ => []

/-- The nibbles that a step sends over the connection in a place, if nothing fails. -/
def Step.nibbles (slot : Nat) : Step → List SentNibble
  | .display place step => if place = slot then step.nibbles else []
  | .sendNibble place target register nibble =>
      match Target.ofId target with
      | .ok target => if place = slot ∧ nibble ≤ 0x0f then [⟨target, register, nibble⟩] else []
      | .error _ => []
  | _ => []

/-- A step that is not about a connection sends nothing over it. -/
theorem Step.nibbles_of_elsewhere {slot : Nat} {step : Step}
    (elsewhere : step.concerns slot = false)
    : step.nibbles slot = [] := by
  cases step with
  | display place step => exact if_neg (ne_of_beq_false elsewhere)
  | sendNibble place target register nibble =>
      have apart : place ≠ slot := ne_of_beq_false elsewhere
      simp only [nibbles]
      cases Target.ofId target with
      | error cause => rfl
      | ok target => exact if_neg fun both => apart both.1
  | _ => rfl

/-- Whether a step leaves a connection open and does not write its lines past the protocol. -/
def Step.spares (slot : Nat) : Step → Bool
  | .writeLine place _ _ | .disconnect place | .display place .close => place != slot
  | _ => true

namespace Bench.Action

/-- The nibbles that an action sends over the connection in a place, if nothing fails. -/
def nibbles (slot : Nat) : Action → List SentNibble
  | .step taken => taken.nibbles slot
  | _ => []

/-- Whether an action leaves a connection open, does not write its lines past the protocol, and keeps
the record.
-/
def spares (slot : Nat) : Action → Bool
  | .step taken => taken.spares slot
  | .clearRecord => false
  | _ => true

end Bench.Action

namespace Bench

-----------------------------------------------------------------------------------------
-- Steps on the connection itself
-----------------------------------------------------------------------------------------

variable {lines : Wiring (Line Unit)} {controllers : Controllers} {failing : List UInt32}

/-- What the enable line of a controller clocks in of nibbles that are sent. -/
def clockedOf (lines : Wiring (Line Unit)) (controllers : Controllers) (enable : UInt32)
    (nibbles : List SentNibble)
    : List (Bool × UInt8) :=
  nibbles.flatMap fun sent =>
    lines.clockedAt controllers enable sent.target sent.register sent.nibble

/-- Over some writes every controller of a display clocks in just the nibbles that are sent. -/
def Delivers (lines : Wiring (Line Unit)) (controllers : Controllers)
    (writes : List (UInt32 × Bool)) (nibbles : List SentNibble)
    : Prop :=
  ∀ enable ∈ (lines.map Line.number).enables controllers .all,
    Clocks enable lines.rs.number (lines.data.map Line.number) writes
      (clockedOf lines controllers enable nibbles)

namespace Delivers

theorem append {first second : List (UInt32 × Bool)} {nibbles others : List SentNibble}
    (before : Delivers lines controllers first nibbles)
    (after : Delivers lines controllers second others)
    : Delivers lines controllers (first ++ second) (nibbles ++ others) := by
  intro enable enabled
  rw [clockedOf, List.flatMap_append]
  exact (before enable enabled).append (after enable enabled)

/-- Writes apart from the bus deliver nothing. -/
theorem quiet {writes : List (UInt32 × Bool)}
    (untouched : ∀ write ∈ writes, write.1 ∉ (lines.map Line.number).bus)
    : Delivers lines controllers writes [] := by
  intro enable enabled
  refine .quiet fun write member same => untouched write member ?_
  exact same ▸ Wiring.mem_bus_of_enables enabled

theorem nothing : Delivers lines controllers [] [] :=
  quiet nofun

theorem byte (distinct : (lines.map Line.number).toList.Nodup) (target : Target)
    (register : Register) (byte : UInt8)
    : Delivers lines controllers
        (BusStep.writes (lines.byteSteps controllers target register byte))
        (SentNibble.ofByte target register byte) := by
  intro enable enabled
  have clocked := Wiring.clocks_byteSteps distinct enabled target register byte
  simpa [clockedOf, SentNibble.ofByte] using clocked

theorem nibble (distinct : (lines.map Line.number).toList.Nodup) (target : Target)
    (register : Register) {nibble : UInt8} (small : nibble ≤ 0x0f)
    : Delivers lines controllers
        (BusStep.writes (lines.nibbleSteps controllers target register nibble))
        [⟨target, register, nibble⟩] := by
  intro enable enabled
  have clocked := Wiring.clocks_nibbleSteps distinct enabled target register small
  simpa [clockedOf] using clocked

/-- The bytes of a script are delivered one after the other, by induction on them. -/
theorem script (distinct : (lines.map Line.number).toList.Nodup)
    (sends : List (Target × Register × UInt8))
    : Delivers lines controllers
        (sends.flatMap fun (target, register, byte) =>
          BusStep.writes (lines.byteSteps controllers target register byte))
        (sends.flatMap fun (target, register, byte) =>
          SentNibble.ofByte target register byte) := by
  induction sends with
  | nil => exact nothing
  | cons sent rest ih => exact (byte distinct sent.1 sent.2.1 sent.2.2).append ih

end Delivers

variable {session : Session Unit} {slot : Nat} {connection : Connection Unit}

/-- A step on a display that leaves it open sends what it is to send, and leaves the connection as it
is. By cases on the step.
-/
theorem plays_displayStep (opened : connection.lines = some lines)
    (distinct : (lines.map Line.number).toList.Nodup)
    (work : ∀ line ∈ lines.bus, line.number ∉ failing) {step : DisplayStep}
    (open_ : step ≠ .close)
    : ∃ reply log,
        Delivers lines connection.controllers (Events.writes log) step.nibbles
        ∧ Plays failing ((step.run : StateT (Connection Unit) (StateM Bench) Reply).run connection)
            (reply, connection) log := by
  cases plans : step.plan with
  | some planned =>
      rw [Connection.run_step plans, DisplayStep.nibbles, plans]
      cases planned with
      | error cause =>
          refine ⟨.refused cause, [], .nothing, ?_⟩
          exact (Plays.pure _).bind (.pure _)
      | ok script =>
          obtain ⟨log, written, plays⟩ := plays_script opened work script
          refine ⟨.done, log, ?_, ?_⟩
          · rw [written]
            exact .script distinct _
          · have follows : Plays failing (connection.follow (.ok script)) .done log :=
              plays.bind_quiet (.pure _)
            exact follows.bind_quiet (.pure _)
  | none =>
      cases step with
      | backlight on =>
          obtain ⟨answer, log, untouched, plays⟩ :=
            plays_setBacklight failing opened distinct on
          rw [Connection.run_backlight]
          exact ⟨.ofResult answer, log, .quiet untouched, plays.bind_quiet (.pure _)⟩
      | supportsBacklight => exact ⟨_, [], .nothing, .pure _⟩
      | close => exact absurd rfl open_
      | _ => cases plans

/-- A step on a connection that spares it sends what it is to send, and leaves the session as it is.
By cases on the step.
-/
theorem plays_concerned (env : Environment)
    (found : session.connections[slot]? = some (some connection))
    (opened : connection.lines = some lines)
    (distinct : (lines.map Line.number).toList.Nodup)
    (work : ∀ line ∈ lines.bus, line.number ∉ failing) {step : Step}
    (concerned : step.concerns slot = true) (spared : step.spares slot = true)
    : ∃ reply log,
        Delivers lines connection.controllers (Events.writes log) (step.nibbles slot)
        ∧ Plays failing (session.step env step) (reply, session) log := by
  have here : Session.occupant session.connections slot = some connection := by
    simp [Session.occupant, found]
  cases step with
  | display place step =>
      obtain rfl : place = slot := by simpa [Step.concerns] using concerned
      have open_ : step ≠ .close := by
        intro same
        subst same
        simp [Step.spares] at spared
      obtain ⟨reply, log, delivers, plays⟩ :=
        plays_displayStep opened distinct work open_
      have unchanged : session.connections.set place (some connection) = session.connections := by
        obtain ⟨bound, same⟩ := List.getElem?_eq_some_iff.mp found
        rw [← same, List.set_getElem_self]
      refine ⟨reply, log, by simpa [Step.nibbles] using delivers, ?_⟩
      simp only [Session.step, Session.onConnection, here, Session.displayStep]
      refine plays.bind_quiet ?_
      simp only [unchanged]
      exact .pure _
  | sendNibble place target register nibble =>
      obtain rfl : place = slot := by simpa [Step.concerns] using concerned
      simp only [Session.step, Session.onConnection, here, Session.sendNibble, Step.nibbles]
      cases Target.ofId target with
      | error cause => exact ⟨_, [], .nothing, (Plays.pure _).bind (.pure _)⟩
      | ok target =>
          obtain ⟨answer, log, written, plays⟩ :=
            plays_sendNibble opened work target register nibble
          have answered
              : Plays failing
                  (do return .ofResult (← connection.sendNibble target register nibble))
                  (Reply.ofResult answer) log :=
            plays.bind_quiet (.pure _)
          refine ⟨.ofResult answer, log, ?_, answered.bind_quiet (.pure _)⟩
          rw [written]
          by_cases small : nibble ≤ 0x0f
          · simpa only [small, and_self, if_true] using
              Delivers.nibble distinct target register small
          · simpa only [small, and_false, if_false] using Delivers.nothing
  | status place =>
      obtain rfl : place = slot := by simpa [Step.concerns] using concerned
      simp only [Session.step, Session.onConnection, here]
      exact ⟨_, [], .nothing, .pure _⟩
  | writeLine place signal level =>
      obtain rfl : place = slot := by simpa [Step.concerns] using concerned
      simp [Step.spares] at spared
  | disconnect place =>
      obtain rfl : place = slot := by simpa [Step.concerns] using concerned
      simp [Step.spares] at spared
  | _ => cases concerned

-----------------------------------------------------------------------------------------
-- Steps on anything else
-----------------------------------------------------------------------------------------

/-- A step that is not about a connection writes none of its lines, as these belong to nobody else.
-/
theorem untouched_step (env : Environment) {bench : Bench}
    (found : session.connections[slot]? = some (some connection))
    (owned : Owned session.lines bench) {step : Step} (elsewhere : step.concerns slot = false)
    : ∃ log : List Event,
        (perform env (session, bench) (.step step)).2.2.events.toList
          = bench.events.toList ++ log
        ∧ ∀ write ∈ Events.writes log, write.1 ∉ connection.held.map Line.number := by
  have bound : slot < session.connections.length := (List.getElem?_eq_some_iff.mp found).1
  have inside : (session.slotOf step != .connection slot) = true :=
    bne_iff_ne.mpr (Session.slotOf_ne_of_elsewhere bound elsewhere)
  have own : session.linesIn (.connection slot) = connection.held := by
    simp [Session.linesIn, Session.occupant, found, Session.ofConnection]
  have shared
      : bench.held.Perm
          ((session.linesBeside (.connection slot)).map Line.number
            ++ connection.held.map Line.number) := by
    have split := (session.lines_perm_linesIn (.connection slot)).trans List.perm_append_comm
    rw [own] at split
    refine owned.1.trans ?_
    rw [← List.map_append]
    exact split.map _
  have guarded := (keeper bench (connection.held.map Line.number)).step env
    (session.only (· != .connection slot)) step (.atStart shared owned.2)
  rw [session.step_only env step inside] at guarded
  exact guarded.untouched

-----------------------------------------------------------------------------------------
-- Runs
-----------------------------------------------------------------------------------------

/-- The lines of an open connection in a session have different numbers. -/
theorem Owned.distinct {bench : Bench} (owned : Owned session.lines bench)
    (found : session.connections[slot]? = some (some connection))
    (opened : connection.lines = some lines)
    : (lines.map Line.number).toList.Nodup :=
  Session.nodup_wiring (owned.1.nodup owned.2) found opened

/-- An action that spares a connection leaves it as it is, and what is recorded delivers just what
the action sends over it.
-/
theorem delivers_perform (env : Environment) {state : Session Unit × Bench}
    (found : state.1.connections[slot]? = some (some connection))
    (opened : connection.lines = some lines) (owned : Owned state.1.lines state.2)
    {action : Action} (spared : action.spares slot = true)
    (work : ∀ line ∈ lines.bus, line.number ∉ state.2.failingWrites)
    : (perform env state action).2.1.connections[slot]? = some (some connection)
      ∧ ∃ log : List Event,
          (perform env state action).2.2.events.toList = state.2.events.toList ++ log
          ∧ Delivers lines connection.controllers (Events.writes log) (action.nibbles slot) := by
  obtain ⟨session, bench⟩ := state
  have unchanged : bench.events.toList = bench.events.toList ++ [] :=
    (List.append_nil _).symm
  have held := Connection.held_of_open opened
  cases action with
  | step step =>
      cases concerned : step.concerns slot with
      | false =>
          have bound : slot < session.connections.length :=
            (List.getElem?_eq_some_iff.mp found).1
          obtain ⟨log, extended, untouched⟩ := untouched_step env found owned concerned
          refine ⟨(Session.getElem?_step env bound concerned bench).trans found, log, extended, ?_⟩
          rw [Action.nibbles, Step.nibbles_of_elsewhere concerned]
          refine .quiet fun write member inside => untouched write member ?_
          rw [held, ← Wiring.toList_map]
          exact Wiring.bus_subset _ inside
      | true =>
          obtain ⟨reply, log, delivers, plays⟩ :=
            plays_concerned env found opened (owned.distinct found opened) work concerned spared
          obtain ⟨answered, logged⟩ := plays bench rfl
          refine ⟨?_, log, logged.events, delivers⟩
          show ((session.step env step : StateM Bench _).run bench).1.2.connections[slot]? = _
          rw [answered]
          exact found
  | failExport line => exact ⟨found, [], unchanged, .nothing⟩
  | failWrites line => exact ⟨found, [], unchanged, .nothing⟩
  | clearRecord => cases spared
  | clocked enable rs data => exact ⟨found, [], unchanged, .nothing⟩
  | summary line => exact ⟨found, [], unchanged, .nothing⟩

/-- Over any actions that spare a connection just what they send over it is delivered, action by
action.
-/
theorem delivers_reach (env : Environment) {state : Session Unit × Bench}
    (found : state.1.connections[slot]? = some (some connection))
    (opened : connection.lines = some lines) (owned : Owned state.1.lines state.2)
    {actions : List Action} (spared : ∀ action ∈ actions, action.spares slot = true)
    (work : ∀ line ∈ lines.bus, line.number ∉ (reach env state actions).2.failingWrites)
    : ∃ log : List Event,
        (reach env state actions).2.events.toList = state.2.events.toList ++ log
        ∧ Delivers lines connection.controllers (Events.writes log)
            (actions.flatMap fun action => action.nibbles slot) := by
  induction actions generalizing state with
  | nil => exact ⟨[], (List.append_nil _).symm, .nothing⟩
  | cons action rest ih =>
      have later := owned_perform env owned action
      have working : ∀ line ∈ lines.bus, line.number ∉ state.2.failingWrites :=
        fun line member fails =>
          work line member (failing_reach env owned (action :: rest) fails)
      obtain ⟨kept, log, extended, delivers⟩ :=
        delivers_perform env found opened owned (spared action List.mem_cons_self) working
      obtain ⟨others, goesOn, rests⟩ :=
        ih kept later (fun action member => spared action (List.mem_cons_of_mem _ member)) work
      refine ⟨log ++ others, ?_, ?_⟩
      · rw [← List.append_assoc, ← extended]
        exact goesOn
      · rw [writes_append, List.flatMap_cons]
        exact delivers.append rests

/-- A set-up that answers with a connection has put one there, over the configured lines. -/
theorem getElem?_of_opens (env : Environment) (state : Session Unit × Bench) {setup : Step}
    {config : PinConfig} {options : DisplayOptions}
    (asked : setup.setup? env = some (config, options))
    (opens : (perform env state (.step setup)).1 = .connection slot)
    : ∃ connection : Connection Unit,
        (perform env state (.step setup)).2.1.connections[slot]? = some (some connection)
        ∧ connection.Set config options := by
  have enrolled {x : StateM Bench (Except ConnectionError (Connection Unit))}
      (obtains : Obtains x (Connection.Set config options))
      (replied : (state.1.enroll (x.run state.2).1).1 = .connection slot)
      : ∃ connection : Connection Unit,
          (state.1.enroll (x.run state.2).1).2.connections[slot]? = some (some connection)
          ∧ connection.Set config options := by
    cases result : (x.run state.2).1 with
    | error cause => simp [result, Session.enroll] at replied
    | ok connection =>
        have place : state.1.connections.length = slot := by
          simpa [result, Session.enroll] using replied
        refine ⟨connection, ?_, obtains _ _ result⟩
        simp [Session.enroll, ← place]
  cases setup with
  | init given chosen timer =>
      cases asked
      exact enrolled (Connection.obtains_init _ _ timer) opens
  | connect source chosen timer =>
      cases asked
      exact enrolled (Connection.obtains_ofSource _ _ timer) opens
  | _ => cases asked

/-- A controller whose enable clocks all that is not for the `other` controller alone sees just
that. By induction on the nibbles.
-/
theorem clockedOf_eq_seen {enable : UInt32} {other : Target}
    (addressed
      : ∀ target,
          enable ∈ (lines.map Line.number).enables controllers target ↔ target ≠ other)
    (nibbles : List SentNibble)
    : clockedOf lines controllers enable nibbles = SentNibble.seen other nibbles := by
  induction nibbles with
  | nil => rfl
  | cons sent rest ih =>
      rw [clockedOf, List.flatMap_cons, ← clockedOf, ih, Wiring.clockedAt]
      by_cases passed : sent.target = other
      · rw [if_neg fun inside => (addressed sent.target).mp inside passed]
        simp [SentNibble.seen, passed]
      · rw [if_pos ((addressed sent.target).mpr passed)]
        simp [SentNibble.seen, passed]

/-- What a display clocks in is what was sent to it.

A display is set up in the middle of a session, after any actions, and then any actions follow that
do not close it, write its lines past the protocol or clear the record. If the lines of its bus can
be written throughout, then the record has grown by a log over which its first controller clocks in
the nibbles sent to it, in order, and nothing else; and so does its second one, if there is one.
-/
theorem clocked_eq_sent (env : Environment) (before during : List Action) {setup : Step}
    {config : PinConfig} {options : DisplayOptions} {slot : Nat}
    (asked : setup.setup? env = some (config, options))
    (opens : (perform env (reach env ({}, {}) before) (.step setup)).1 = .connection slot)
    (spared : ∀ action ∈ during, action.spares slot = true)
    : let opened := (perform env (reach env ({}, {}) before) (.step setup)).2
      let final := reach env opened during
      let sent := during.flatMap fun action => action.nibbles slot
      ∃ numbers : Wiring UInt32,
        config.wiring options = .ok numbers
        ∧ numbers.en2.isSome = options.controllers.isDual
        ∧ ((∀ line ∈ numbers.bus, line ∉ final.2.failingWrites)
          → ∃ log : List Event,
              final.2.events.toList = opened.2.events.toList ++ log
              ∧ Events.clockedNibbles log numbers.en numbers.rs numbers.data
                = SentNibble.seen .second sent
              ∧ ∀ en2, numbers.en2 = some en2
                → Events.clockedNibbles log en2 numbers.rs numbers.data
                  = SentNibble.seen .first sent) := by
  intro opened final sent
  have fresh : Owned ({} : Session Unit).lines {} := ⟨.refl _, List.nodup_nil⟩
  have reached : Owned (reach env ({}, {}) before).1.lines (reach env ({}, {}) before).2 :=
    owned_reach env fresh before
  have owned : Owned opened.1.lines opened.2 := owned_perform env reached (.step setup)
  obtain ⟨connection, found, lines, holds, wired, kind⟩ := getElem?_of_opens env _ asked opens
  have second : (lines.map Line.number).en2.isSome = options.controllers.isDual :=
    PinConfig.isSome_en2_of_wiring wired
  refine ⟨lines.map Line.number, wired, second, fun work => ?_⟩
  have working : ∀ line ∈ lines.bus, line.number ∉ final.2.failingWrites := by
    intro line member
    refine work line.number ?_
    rw [Wiring.bus_map]
    exact List.mem_map_of_mem member
  obtain ⟨log, extended, delivers⟩ := delivers_reach env found holds owned spared working
  have distinct : (lines.map Line.number).toList.Nodup := by
    have numbers := (Session.lines_perm_connection found).map Line.number
    have all := (owned.1.trans numbers).nodup owned.2
    rw [List.map_append] at all
    rw [Wiring.toList_map]
    simpa [Session.ofConnection, Connection.held, holds] using (List.nodup_append.mp all).1
  refine ⟨log, extended, ?_, fun en2 present => ?_⟩
  · have addressed (target : Target)
        : (lines.map Line.number).en ∈ (lines.map Line.number).enables connection.controllers target
          ↔ target ≠ .second :=
      Wiring.en_mem_enables_iff distinct
    rw [← clockedOf_eq_seen addressed]
    exact delivers _ ((addressed .all).mpr (by decide)) []
  · have dual : connection.controllers.isDual = true := by
      rw [kind, ← second, present]
      rfl
    have addressed (target : Target)
        : en2 ∈ (lines.map Line.number).enables connection.controllers target ↔ target ≠ .first :=
      Wiring.en2_mem_enables_iff distinct dual present
    rw [← clockedOf_eq_seen addressed]
    exact delivers _ ((addressed .all).mpr (by decide)) []

/-- A display with two controllers. -/
def sampleSetup : Step :=
  .init {} { controllers := .dual } .unrecorded

/-- A byte for both of its controllers and a nibble for the second one, while an output is written.
-/
def sampleDuring : List Action :=
  [.step (.display 0 (.send 0 .data 0x41)), .step (.write 0 true), .failWrites 3,
    .step (.sendNibble 0 2 .command 0x05)]

/-- What is sent is seen by the two controllers, each in its part, beside an output that was there
before.
-/
theorem clocked_eq_sent_two_controllers
    : let opened := (perform {} (reach {} ({}, {}) [.step (.export 3)]) (.step sampleSetup)).2
      ∃ log : List Event,
        (reach {} opened sampleDuring).2.events.toList = opened.2.events.toList ++ log
        ∧ Events.clockedNibbles log 8 7 [18, 23, 24, 25] = [(true, 0x04), (true, 0x01)]
        ∧ Events.clockedNibbles log 22 7 [18, 23, 24, 25]
          = [(true, 0x04), (true, 0x01), (false, 0x05)] := by
  have opens
      : (perform {} (reach {} ({}, {}) [.step (.export 3)]) (.step sampleSetup)).1
        = .connection 0 := by
    decide +kernel
  have configured
      : PinConfig.wiring {} { controllers := .dual }
        = .ok ⟨8, 7, 18, 23, 24, 25, none, some 22⟩ := by
    decide +kernel
  have asked : sampleSetup.setup? {} = some ({}, { controllers := .dual }) := rfl
  obtain ⟨numbers, wired, _, clocked⟩ :=
    clocked_eq_sent {} [.step (.export 3)] sampleDuring asked opens (by decide)
  obtain rfl := Except.ok.inj (wired.symm.trans configured)
  have failing
      : (reach {} (perform {} (reach {} ({}, {}) [.step (.export 3)]) (.step sampleSetup)).2
            sampleDuring).2.failingWrites = [3] := by
    decide +kernel
  have elsewhere : 3 ∉ (⟨8, 7, 18, 23, 24, 25, none, some 22⟩ : Wiring UInt32).bus := by
    decide
  have works (line : UInt32)
      (member : line ∈ (⟨8, 7, 18, 23, 24, 25, none, some 22⟩ : Wiring UInt32).bus)
      : line ∉ [3] := by
    intro fails
    cases List.mem_singleton.mp fails
    exact elsewhere member
  obtain ⟨log, extended, first, second⟩ := clocked (failing ▸ works)
  exact ⟨log, extended, first.trans (by decide +kernel), (second 22 rfl).trans (by decide +kernel)⟩

end Bench

end CharLcd

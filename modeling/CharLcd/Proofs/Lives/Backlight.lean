import CharLcd.Proofs.Config.Numbers
import CharLcd.Proofs.Lives.Closing
import CharLcd.Proofs.Ownership.Sparing
import CharLcd.Proofs.Transfer.Driving

/-! The backlight of a connection, on every driver.

Whether there is a backlight to be switched is decided when its line is acquired, when the number
that was kept is looked at, and when the line is looked for. All of these agree at any time.
Switching the backlight is one write to its line, and nothing else handles this line but what is
meant to: what closes the connection, and a write past the protocol.
-/

namespace CharLcd

open LineCall
open Session (occupant)

variable {σ ω A α β : Type}

-----------------------------------------------------------------------------------------
-- Whether there is a backlight
-----------------------------------------------------------------------------------------

/-- A display with this configuration and these options has a backlight to be switched: it is asked
for, and its number can be that of a backlight line.
-/
def PinConfig.Lights (config : PinConfig) (options : DisplayOptions) : Prop :=
  options.backlight = true ∧ 0 ≤ config.backlight.toInt ∧ config.backlight.toInt < 32

theorem PinConfig.hasBacklight_iff {config : PinConfig} {options : DisplayOptions}
    : config.hasBacklight options = true ↔ config.Lights options := by
  rw [hasBacklight, Bool.and_eq_true, backlightEnabled, isBacklightLine_iff, Lights]

/-- All that can tell whether a connection has a backlight to be switched agrees with what it was
set up from: its answer when it is asked, the number that it has kept, and the line itself, which
then has the configured number.
-/
structure Connection.Agrees (config : PinConfig) (options : DisplayOptions)
    (lines : Wiring (Line ω)) (connection : Connection ω)
    : Prop where
  supports : connection.supportsBacklight = true ↔ config.Lights options
  kept : isBacklightLine connection.backlightNumber = true ↔ config.Lights options
  present : lines.backlight.isSome = true ↔ config.Lights options
  number : ∀ line, lines.backlight = some line → (line.number.toNat : Int) = config.backlight.toInt

namespace Connection

variable {config : PinConfig} {options : DisplayOptions} {lines : Wiring (Line ω)}

/-- They agree for a connection over lines with the configured numbers. -/
theorem agrees_onLines (wired : config.wiring options = .ok (lines.map Line.number)) (timer : Timer)
    : Agrees config options lines { onLines lines config options timer with stage := .ready } := by
  have there := PinConfig.isSome_backlight_of_wiring wired
  rw [Wiring.map, Option.isSome_map] at there
  have present : lines.backlight.isSome = true ↔ config.Lights options := by
    rw [there, PinConfig.hasBacklight_iff]
  refine ⟨present, ?_, present, fun line lit => ?_⟩
  · show isBacklightLine (if options.backlight then config.backlight else PinConfig.noBacklight)
        = true
      ↔ config.Lights options
    cases asked : options.backlight with
    | false => simp [PinConfig.Lights, asked, isBacklightLine, PinConfig.noBacklight]
    | true => simp [PinConfig.Lights, asked, isBacklightLine_iff]
  · have lights : config.Lights options := present.mp (lit ▸ rfl)
    have checked := (config.numberIf_backlight options).symm.trans
      (PinConfig.numberIf_of_wiring wired).2
    have own : some (config.lineNumber .backlight) = lines.backlight.map Line.number := by
      rw [PinConfig.lineNumbers, if_pos (PinConfig.hasBacklight_iff.mpr lights)] at checked
      exact Except.ok.inj checked
    rw [lit, Option.map_some] at own
    obtain ⟨_, low, high⟩ := lights
    rw [← Option.some.inj own, PinConfig.lineNumber, UInt32.toNat_ofNat']
    simp only [PinConfig.line]
    omega

end Connection

variable [Journal (StateM σ)] [Clock (StateM σ)] [LineDriver (StateM σ) ω]

/-- A set-up that succeeds has acquired just the lines of its connection, and whatever tells of the
backlight agrees.
-/
def Provides (config : PinConfig) (options : DisplayOptions) (calls : List (LineCall ω))
    (result : Except ConnectionError (Connection ω))
    : Prop :=
  ∀ connection, result = .ok connection
    → taken calls = connection.held
      ∧ ∃ lines, connection.lines = some lines ∧ connection.Agrees config options lines

/-- Every set-up does, with the configuration given or over the lines that a source names. -/
theorem Session.provides_step (env : Environment) (session : Session ω) {step : Step}
    {config : PinConfig} {options : DisplayOptions}
    (sets : step.setup? env = some (config, options))
    : Makes (session.step env step : StateM σ (Reply × Session ω)) fun calls outcome =>
        ∃ result, outcome = session.enroll result ∧ Provides config options calls result := by
  have provides {config : PinConfig} {options : DisplayOptions}
      {x : StateM σ (Except ConnectionError (Connection ω))}
      (makes : Makes x (SetsUp config options))
      (obtains
        : Obtains x fun connection =>
            ∃ lines, connection.lines = some lines ∧ connection.Agrees config options lines)
      : Makes x (Provides config options) := by
    refine (makes.obtaining obtains).mono fun calls result known connection same => ?_
    subst same
    exact ⟨known.1.2.2, known.2 connection rfl⟩
  refine Session.makes_setUp
    (fun config options timer => provides (makes_init config options timer) ?_)
    (fun source options timer _ => provides (makes_ofSource source options timer) ?_)
    env session sets
  · exact Connection.obtains_init_of fun lines wired =>
      ⟨lines, rfl, Connection.agrees_onLines wired timer⟩
  · exact Connection.obtains_ofSource_of fun lines wired =>
      ⟨lines, rfl, Connection.agrees_onLines wired timer⟩

-----------------------------------------------------------------------------------------
-- What leaves its line alone
-----------------------------------------------------------------------------------------

/-- Whether a step is meant to handle the line of the backlight of a connection: it switches the
backlight, writes this line past the protocol, closes the connection or gives it up.
-/
def Step.reachesBacklight (slot : Nat) : Step → Bool
  | .display place (.backlight _) | .display place .close | .writeLine place .backlight _
  | .disconnect place => place == slot
  | _ => false

/-- Everything that has a line but the backlight is on the bus. -/
theorem Wiring.mem_bus_of_get? {wiring : Wiring α} {item : α} {signal : Signal}
    (found : wiring.get? signal = some item) (other : signal ≠ .backlight)
    : item ∈ wiring.bus := by
  cases signal <;> simp_all [get?, bus, data]

/-- Whatever state it starts in, a program handles no line with this number. -/
def Avoids (number : UInt32) (x : StateM σ α) : Prop :=
  Makes x fun calls (_ : α) => ∀ call ∈ calls, call.handles number = false

namespace Avoids

variable {number : UInt32}

theorem pure (value : α) : Avoids number (Pure.pure value : StateM σ α) :=
  Makes.pure (List.forall_mem_nil _)

theorem map {x : StateM σ α} (avoids : Avoids number x) (f : α → β)
    : Avoids number (do return f (← x)) := by
  refine avoids.bind fun _ calls none => .pure ?_
  rwa [List.append_nil]

/-- A program that only writes lines avoids the number if none of them has it. -/
theorem of_works {x : StateM σ α} {owned : List (Line ω)}
    (makes : Makes x fun calls (_ : α) => Works owned calls ∧ taken calls = [])
    (absent : number ∉ owned.map Line.number)
    : Avoids number x :=
  makes.mono fun _ _ both => both.1.handles_eq_false both.2 absent

end Avoids

section Own

variable {connection : Connection ω} {lines : Wiring (Line ω)} {number : UInt32}
variable (opened : connection.lines = some lines) (absent : number ∉ lines.bus.map Line.number)

include opened absent

theorem Connection.avoids_follow (planned : Except GpioError (List ScriptStep))
    : Avoids number (connection.follow planned : StateM σ Reply) := by
  cases planned with
  | error error => exact .pure _
  | ok script =>
      have plays := makes_play (σ := σ) (List.Subset.refl _) opened script
      refine (Avoids.of_works (plays.mono fun _ _ drives => ?_) absent).map _
      exact ⟨drives.1, drives.2.1⟩

/-- A step about an open connection avoids what is not on its bus, unless it is meant for the
backlight. By cases on the step.
-/
theorem Session.avoids_step (env : Environment) {session : Session ω} {slot : Nat}
    (present : occupant session.connections slot = some connection) {step : Step}
    (about : step.concerns slot = true) (apart : step.reachesBacklight slot = false)
    : Avoids number (session.step env step : StateM σ (Reply × Session ω)) := by
  cases step with
  | display place step =>
      obtain rfl := beq_iff_eq.mp about
      simp only [Session.step, onConnection, present, displayStep]
      cases plans : step.plan with
      | some planned =>
          rw [connection.run_step plans]
          exact ((Connection.avoids_follow opened absent planned).map _).map _
      | none =>
          cases step with
          | supportsBacklight => exact .pure _
          | backlight on => exact absurd apart (by simp [Step.reachesBacklight])
          | close => exact absurd apart (by simp [Step.reachesBacklight])
          | _ => cases plans
  | sendNibble place target register nibble =>
      obtain rfl := beq_iff_eq.mp about
      simp only [Session.step, onConnection, present, sendNibble]
      cases Target.ofId target with
      | error error => exact .pure _
      | ok target =>
          have sends := makes_sendNibble (σ := σ) (List.Subset.refl _) opened target register
            nibble
          exact ((Avoids.of_works sends absent).map _).map _
  | writeLine place signal level =>
      obtain rfl := beq_iff_eq.mp about
      have other : signal ≠ .backlight := by
        rintro rfl
        exact absurd apart (by simp [Step.reachesBacklight])
      simp only [Session.step, onConnection, present, writeLine, Connection.writeLine?, opened]
      cases found : lines.get? signal with
      | none =>
          simp only [found, Option.bind_eq_bind, Option.bind_some, Option.bind_none]
          exact .pure _
      | some line =>
          have inside : line ∈ lines.bus := Wiring.mem_bus_of_get? found other
          have writes
              : Avoids number (LineDriver.write line level : StateM σ (Except GpioError Unit)) := by
            refine (Makes.write line level).mono fun calls _ only => ?_
            subst only
            refine List.forall_mem_singleton.mpr (beq_false_of_ne fun same => absent ?_)
            exact same ▸ List.mem_map_of_mem inside
          simp only [found, Option.bind_eq_bind, Option.bind_some]
          exact (writes.map _).map _
  | status place =>
      obtain rfl := beq_iff_eq.mp about
      simp only [Session.step, onConnection, present]
      exact .pure _
  | disconnect place =>
      obtain rfl := beq_iff_eq.mp about
      exact absurd apart (by simp [Step.reachesBacklight])
  | _ => cases about

end Own

-----------------------------------------------------------------------------------------
-- In a session
-----------------------------------------------------------------------------------------

/-- What it comes to to switch the backlight of a connection. If there is a line for it, that is
written once and the answer is what came of this write. If there is none, nothing is done and the
answer is that all went well.
-/
structure Site.Switches (site : Site σ ω A) (env : Environment) (slot : Nat)
    (lines : Wiring (Line ω)) (state : Session ω × σ) (on : Bool)
    : Prop where
  lit : ∀ line, lines.backlight = some line → ∃ answer : Except GpioError Unit,
    (state.1.deed env (.display slot (.backlight on)) state.2).calls = switching line on answer
    ∧ (site.perform env state (site.take (.display slot (.backlight on)))).1 = .ofResult answer
    ∧ (site.perform env state (site.take (.display slot (.backlight on)))).2.1 = state.1
  unlit : lines.backlight = none →
    (state.1.deed env (.display slot (.backlight on)) state.2).calls = []
    ∧ site.perform env state (site.take (.display slot (.backlight on))) = (.done, state)

/-- The backlight of a connection that is open in a session, and was set up by `setUp`. The line for
it was acquired then, if the configuration and the options ask for one, and the connection still
tells so. To switch the backlight is to write this line, and no step handles it but those that are
meant to, whoever takes them.
-/
structure Site.Backlit (site : Site σ ω A) (env : Environment) (config : PinConfig)
    (options : DisplayOptions) (slot : Nat) (connection : Connection ω) (lines : Wiring (Line ω))
    (setUp : Deed ω) (state : Session ω × σ)
    : Prop where
  acquired : taken setUp.calls = lines.toList
  agrees : connection.Agrees config options lines
  switches : ∀ on, site.Switches env slot lines state on
  performs : ∀ step,
    Performs state.2 (state.1.deed env step state.2).calls
      (site.perform env state (site.take step)).2.2
  spared : ∀ line, lines.backlight = some line → ∀ step, step.reachesBacklight slot = false →
    ∀ call ∈ (state.1.deed env step state.2).calls, call.handles line.number = false

namespace Site

variable {site : Site σ ω A} {env : Environment} {state : Session ω × σ} {slot : Nat}
variable {connection : Connection ω} {lines : Wiring (Line ω)} {config : PinConfig}
variable {options : DisplayOptions}

/-- A place for a connection is there for good. -/
theorem place_perform {place : Option (Connection ω)}
    (there : state.1.connections[slot]? = some place) (action : A)
    : ∃ next, (site.perform env state action).2.1.connections[slot]? = some next := by
  cases stepping : site.step? action with
  | none =>
      rw [site.perform_beside stepping]
      exact ⟨place, there⟩
  | some step =>
      rw [site.perform_step stepping]
      cases place with
      | none => exact ⟨none, state.1.emptied_step env step there state.2⟩
      | some earlier => exact ⟨_, state.1.turns_step env step there state.2⟩

/-- What is open in a place has been there all the time. By induction on what was done meanwhile. -/
theorem open_reach {place : Option (Connection ω)} {later : List A}
    (before : state.1.connections[slot]? = some place)
    (there : (site.reach env state later).1.connections[slot]? = some (some connection))
    (opened : connection.lines = some lines)
    : place = some connection := by
  induction later generalizing state place with
  | nil => exact Option.some.inj (before.symm.trans there)
  | cons action rest ih =>
      obtain ⟨next, found⟩
          : ∃ next, (site.perform env state action).2.1.connections[slot]? = some next :=
        place_perform before action
      obtain rfl := ih found there
      exact site.open_before env before found opened

/-- To switch the backlight is a single write, or nothing. -/
theorem switches_of_agrees (present : occupant state.1.connections slot = some connection)
    (opened : connection.lines = some lines) (agrees : connection.Agrees config options lines)
    (on : Bool)
    : site.Switches env slot lines state on := by
  let switch : Step := .display slot (.backlight on)
  have performed := site.perform_take env state switch
  have uses : switch.uses = true := rfl
  have left := state.1.left_of_uses env uses state.2
  constructor
  · intro line lit
    have switchable := agrees.kept.mpr (agrees.present.mp (lit ▸ rfl))
    have makes
        : Makes (state.1.step env (.display slot (.backlight on))
              : StateM (Traced σ ω) (Reply × Session ω))
            fun calls outcome =>
              ∃ answer, calls = switching line on answer ∧ outcome.1 = .ofResult answer := by
      simp only [Session.step, Session.onConnection, present, Session.displayStep,
        connection.run_backlight, bind_assoc, pure_bind]
      refine (makes_switching opened switchable lit on).bind fun answer calls only => .pure ?_
      exact ⟨answer, (List.append_nil _).trans only, rfl⟩
    obtain ⟨answer, calls, reply⟩ := state.1.deed_of_makes env _ makes state.2 site.still
    refine ⟨answer, calls, ?_, ?_⟩
    · rw [performed, reply]
    · rw [performed, left]
  · intro unlit
    have makes
        : Makes (state.1.step env (.display slot (.backlight on))
              : StateM (Traced σ ω) (Reply × Session ω))
            fun calls outcome => calls = [] ∧ outcome.1 = .done := by
      simp only [Session.step, Session.onConnection, present, Session.displayStep,
        connection.run_backlight, connection.setBacklight_unlit opened unlit, pure_bind]
      exact .pure ⟨rfl, rfl⟩
    obtain ⟨calls, reply⟩ := state.1.deed_of_makes env _ makes state.2 site.still
    have performs := (state.1.done env (.display slot (.backlight on)) state.2 site.still).performs
    rw [calls] at performs
    refine ⟨calls, ?_⟩
    rw [performed, reply, left, performs]

variable {Inv : List (Line ω) → σ → Prop}

/-- No step handles the line of the backlight but those that are meant to: for the owner it is not
on the bus, and for everybody else it is the line of somebody else.
-/
theorem spares_backlight (site : Site σ ω A) (exclusive : Exclusive Inv)
    (holds : Inv state.1.lines state.2)
    (present : occupant state.1.connections slot = some connection)
    (opened : connection.lines = some lines) {line : Line ω} (lit : lines.backlight = some line)
    {step : Step} (apart : step.reachesBacklight slot = false)
    : ∀ call ∈ (state.1.deed env step state.2).calls, call.handles line.number = false := by
  have there := Session.getElem?_of_occupant present
  cases about : step.concerns slot with
  | true =>
      have distinct := Session.nodup_wiring (exclusive.distinct holds) there opened
      have absent := Wiring.backlight_notMem_bus distinct (congrArg (Option.map Line.number) lit)
      rw [Wiring.bus_map] at absent
      exact state.1.deed_of_makes env step
        (Session.avoids_step opened absent env present about apart) state.2 site.still
  | false =>
      have bound := (List.getElem?_eq_some_iff.mp there).1
      have other := Session.slotOf_ne_of_elsewhere bound about
      have own : line ∈ state.1.linesIn (.connection slot) := by
        simp [Session.linesIn, present, Session.ofConnection, Connection.held_of_open opened,
          Wiring.toList, lit]
      exact exclusive.spares_beside env state.1 step site.still holds
        (List.mem_map_of_mem (state.1.linesIn_subset_linesBeside other.symm own))

/-- A connection that was set up and is still open has a backlight as it should. -/
theorem backlit (site : Site σ ω A) (exclusive : Exclusive Inv) {setUp : Step}
    (sets : setUp.setup? env = some (config, options)) {before : Session ω × σ} {later : List A}
    (opens : (site.perform env before (site.take setUp)).1 = .connection slot)
    (reached : site.reach env (site.perform env before (site.take setUp)).2 later = state)
    (holds : Inv state.1.lines state.2)
    (present : occupant state.1.connections slot = some connection)
    (opened : connection.lines = some lines)
    : site.Backlit env config options slot connection lines
        (before.1.deed env setUp before.2) state := by
  have performed := site.perform_take env before setUp
  obtain ⟨result, enrolled, provides⟩ :=
    before.1.deed_of_makes env setUp (before.1.provides_step env sets) before.2 site.still
  rw [performed, enrolled] at opens
  rw [performed, enrolled] at reached
  cases result with
  | error error => cases opens
  | ok first =>
      cases opens
      have new : (before.1.enroll (.ok first)).2.connections[before.1.connections.length]?
          = some (some first) := by
        simp [Session.enroll]
      have there := Session.getElem?_of_occupant present
      rw [← reached] at there
      obtain rfl := Option.some.inj (open_reach new there opened)
      obtain ⟨acquired, own, same, agrees⟩ := provides first rfl
      obtain rfl := Option.some.inj (same.symm.trans opened)
      refine ⟨?_, agrees, switches_of_agrees present opened agrees, fun step => ?_, ?_⟩
      · rw [acquired, Connection.held_of_open opened]
      · rw [site.perform_take]
        exact (state.1.done env step state.2 site.still).performs
      · intro line lit step apart
        exact site.spares_backlight exclusive holds present opened lit apart

end Site

end CharLcd

import CharLcd.Proofs.Display.Cutting
import CharLcd.Proofs.Lives.Stages

/-! A closed connection is inert.

Whatever is asked of it, it makes no call to its driver but for waiting when it is asked to pause.
What it answers depends on the request alone. So nothing that is done with it afterwards reaches a
line, and least of all one that somebody else owns by now.
-/

namespace CharLcd

open LineCall
open Session (occupant)

variable {σ ω A : Type}

-----------------------------------------------------------------------------------------
-- What a closed connection does
-----------------------------------------------------------------------------------------

/-- What comes of a request to a closed connection: an answer, what is noted, and the waits. -/
structure Idling where
  reply : Reply
  notes : List Note := []
  waits : List UInt32 := []

namespace Idling

/-- The calls to a driver in which that is all. -/
def calls (timer : Timer) (idling : Idling) : List (LineCall ω) :=
  idling.notes.map .noted ++ idling.waits.map (.waited timer)

/-- A byte is noted and refused. -/
def ofByte (target : UInt8) (register : Register) (byte : UInt8) : Idling :=
  match Target.ofId target with
  | .ok target => { reply := .refused .closed, notes := [.sendingByte byte target register] }
  | .error error => { reply := .refused error }

end Idling

/-- What comes of a step on a closed display. An operation of several bytes is refused at its first
one.
-/
def DisplayStep.onClosed : DisplayStep → Idling
  | send target register byte => .ofByte target register byte
  | sendCommand target byte => .ofByte target .command byte
  | sendData target byte => .ofByte target .data byte
  | backlight _ => { reply := .refused .closed }
  | supportsBacklight => { reply := .flag false }
  | pause time => { reply := .done, waits := [time] }
  | close => { reply := .done }
  | prepare => { reply := .refused .closed, notes := [.sendingByte 0x28 .all .command] }
  | clear => { reply := .refused .closed, notes := [.sendingByte 0x01 .all .command] }
  | print text =>
      match text.toList with
      | [] => { reply := .done }
      | c :: _ =>
          { reply := .refused .closed
            notes :=
              if c.toNat < 0x80 then [.sendingByte c.toNat.toUInt8 .all .data]
              else [.notAscii c, .sendingByte 0x3f .all .data] }
  | setCursor row column =>
      if row < 2 ∧ column < 40 then
        { reply := .refused .closed
          notes := [.sendingByte (0x80 + 0x40 * row + column).toUInt8 .all .command] }
      else { reply := .refused .invalidArgument }

/-- What comes of a step about a closed connection. -/
def Step.onClosed (controllers : Controllers) : Step → Idling
  | .display _ step => step.onClosed
  | .sendNibble _ target register nibble =>
      match Target.ofId target with
      | .error error => { reply := .refused error }
      | .ok target =>
          if 0x0f < nibble then { reply := .refused .invalidArgument }
          else { reply := .refused .closed, notes := [.sendingNibble nibble target register] }
  | .writeLine _ _ _ => { reply := .noLine }
  | .status _ =>
      { reply :=
          .status
            { stage := .closed, controllers, supportsBacklight := false, dataLines := none
              lines := Signal.all.map fun _ => none, exported := Signal.all.map fun _ => none } }
  | .disconnect _ => { reply := .flag true }
  | _ => { reply := .absent }

/-- What comes of a script over a closed connection: its calls, and how it ends. It gets to its
first byte and no further.
-/
def ScriptStep.onClosed (timer : Timer) : List ScriptStep → List (LineCall ω) × Except GpioError Unit
  | [] => ([], .ok ())
  | send target register byte :: _ => ([.noted (.sendingByte byte target register)], .error .closed)
  | replace c :: rest => (.noted (.notAscii c) :: (onClosed timer rest).1, (onClosed timer rest).2)
  | pause time :: rest => (.waited timer time :: (onClosed timer rest).1, (onClosed timer rest).2)

/-- What comes of a plan over a closed connection: its calls, and what is answered. -/
def DisplayStep.followClosed (timer : Timer)
    : Except GpioError (List ScriptStep) → List (LineCall ω) × Reply
  | .ok script =>
      ((ScriptStep.onClosed timer script).1,
        .ofResult (ScriptStep.onClosed timer script : List (LineCall ω) × _).2)
  | .error error => ([], .refused error)

/-- A byte of its own is refused like any other, or because of its target. -/
theorem Idling.ofByte_eq (timer : Timer) (target : UInt8) (register : Register) (byte : UInt8)
    : DisplayStep.followClosed timer
        ((Target.ofId target).map fun target => [.send target register byte])
      = (((ofByte target register byte).calls timer : List (LineCall ω)),
          (ofByte target register byte).reply) := by
  unfold ofByte
  cases Target.ofId target <;> rfl

/-- The plan of a step comes to what the step comes to. By cases on the step. -/
theorem DisplayStep.onClosed_of_plan {step : DisplayStep}
    {planned : Except GpioError (List ScriptStep)} (plans : step.plan = some planned)
    (timer : Timer)
    : followClosed timer planned
      = ((step.onClosed.calls timer : List (LineCall ω)), step.onClosed.reply) := by
  cases step with
  | send target register byte =>
      cases plans
      exact Idling.ofByte_eq timer target register byte
  | sendCommand target byte =>
      cases plans
      exact Idling.ofByte_eq timer target .command byte
  | sendData target byte =>
      cases plans
      exact Idling.ofByte_eq timer target .data byte
  | pause time | prepare | clear =>
      cases plans
      rfl
  | print text =>
      cases plans
      rw [onClosed]
      cases text.toList with
      | nil => rfl
      | cons c rest =>
          rw [List.flatMap_cons, Screen.charScript]
          by_cases ascii : c.toNat < 0x80
          · simp only [ascii, if_true]
            rfl
          · simp only [ascii, if_false]
            rfl
  | setCursor row column =>
      rw [onClosed]
      split
      · obtain ⟨low, near⟩ := ‹row < 2 ∧ column < 40›
        obtain ⟨byte, value, placed⟩ := Screen.scripted.cursor row column low near
        obtain rfl := Option.some.inj (placed.symm.trans plans)
        rw [← value, Nat.toUInt8_eq, UInt8.ofNat_toNat]
        rfl
      · have out : 2 ≤ row ∨ 40 ≤ column := by omega
        obtain rfl := Option.some.inj ((Screen.scripted.beyond row column out).symm.trans plans)
        rfl
  | backlight | supportsBacklight | close => cases plans

-----------------------------------------------------------------------------------------
-- Its calls
-----------------------------------------------------------------------------------------

section Calls

variable [Journal (StateM σ)] [Clock (StateM σ)] [LineDriver (StateM σ) ω]
variable {connection : Connection ω}

namespace Connection

/-- A closed connection notes a byte and refuses it. -/
theorem makes_send_closed (unlined : connection.lines = none) (target : Target)
    (register : Register) (byte : UInt8)
    : Makes (connection.send target register byte : StateM σ (Except GpioError Unit))
        fun calls result =>
          calls = [.noted (.sendingByte byte target register)] ∧ result = .error .closed := by
  refine Makes.noted_bind ?_
  simp only [run, unlined]
  exact .pure ⟨rfl, rfl⟩

/-- It refuses a nibble as well, and one that is too large for another reason. -/
theorem makes_sendNibble_closed (unlined : connection.lines = none) (target : Target)
    (register : Register) (nibble : UInt8)
    : Makes (connection.sendNibble target register nibble : StateM σ (Except GpioError Unit))
        fun calls result =>
          (calls, result)
          = if 0x0f < nibble then ([], .error .invalidArgument)
            else ([.noted (.sendingNibble nibble target register)], .error .closed) := by
  unfold sendNibble
  split
  · exact .pure rfl
  · refine Makes.noted_bind ?_
    simp only [run, unlined]
    exact .pure rfl

/-- A script over a closed connection gets to its first byte. By induction on the script. -/
theorem makes_play_closed (unlined : connection.lines = none) (script : List ScriptStep)
    : Makes (connection.play script : StateM σ (Except GpioError Unit)) fun calls result =>
        (calls, result) = ScriptStep.onClosed connection.timer script := by
  induction script with
  | nil => exact .pure rfl
  | cons step rest ih =>
      cases step with
      | send target register byte =>
          refine (connection.makes_send_closed unlined target register byte).bind ?_
          intro _ calls both
          obtain ⟨rfl, rfl⟩ := both
          exact .pure rfl
      | replace c =>
          refine Makes.noted_bind (ih.mono fun calls result same => ?_)
          rw [ScriptStep.onClosed, ← same]
      | pause time =>
          refine (Makes.wait connection.timer time).bind fun _ calls only => ?_
          subst only
          refine ih.mono fun calls result same => ?_
          rw [ScriptStep.onClosed, ← same]
          rfl

/-- A step on a closed display comes to what it should, and leaves the connection as it is. -/
theorem makes_display_closed (unlined : connection.lines = none) (step : DisplayStep)
    : Makes ((step.run : StateT (Connection ω) (StateM σ) Reply).run connection) fun calls outcome =>
        calls = step.onClosed.calls connection.timer
        ∧ outcome = (step.onClosed.reply, connection) := by
  cases plans : step.plan with
  | some planned =>
      rw [connection.run_step plans]
      have comes := DisplayStep.onClosed_of_plan (ω := ω) plans connection.timer
      have follows
          : Makes (connection.follow planned : StateM σ Reply) fun calls reply =>
              (calls, reply) = DisplayStep.followClosed connection.timer planned := by
        cases planned with
        | error error => exact .pure rfl
        | ok script =>
            refine (makes_play_closed unlined script).bind fun result calls same => .pure ?_
            rw [DisplayStep.followClosed, ← same, List.append_nil]
      refine follows.bind fun reply calls same => .pure ?_
      obtain ⟨rfl, rfl⟩ := Prod.mk.inj (same.trans comes)
      exact ⟨List.append_nil _, rfl⟩
  | none =>
      cases step with
      | backlight on =>
          rw [connection.run_backlight]
          have refused
              : (connection.setBacklight on : StateM σ (Except GpioError Unit))
                = pure (.error .closed) := by
            simp only [setBacklight, unlined]
          rw [refused]
          exact .pure ⟨rfl, rfl⟩
      | supportsBacklight =>
          have dark : connection.supportsBacklight = false := by
            rw [supportsBacklight, unlined]
            rfl
          show Makes (pure (Reply.flag connection.supportsBacklight, connection) : StateM σ _) _
          rw [dark]
          exact .pure ⟨rfl, rfl⟩
      | close =>
          rw [connection.run_close, close_of_none unlined]
          exact .pure ⟨rfl, rfl⟩
      | _ => cases plans

/-- The state of a closed connection. -/
theorem status_closed (unlined : connection.lines = none) (stage : connection.stage = .closed)
    : Reply.status connection.status
      = (Step.onClosed connection.controllers (.status 0)).reply := by
  obtain ⟨lines, controllers, number, timer, last⟩ := connection
  cases unlined
  cases stage
  rfl

end Connection

/-- What a step leaves of a session in which the connection that it is about is closed. -/
def Session.afterClosed (session : Session ω) : Step → Session ω
  | .disconnect slot => { session with connections := session.connections.set slot none }
  | _ => session

/-- A nibble to a closed connection is refused, because of its target or its size if not for that.
-/
theorem Session.makes_sendNibble_closed (unlined : connection.lines = none) (slot : Nat)
    (target : UInt8) (register : Register) (nibble : UInt8)
    : let idling := (Step.sendNibble slot target register nibble).onClosed connection.controllers
      Makes (sendNibble target register nibble connection : StateM σ Reply) fun calls reply =>
        calls = idling.calls connection.timer ∧ reply = idling.reply := by
  simp only [sendNibble, Step.onClosed]
  cases Target.ofId target with
  | error error => exact .pure ⟨rfl, rfl⟩
  | ok target =>
      refine (connection.makes_sendNibble_closed unlined target register nibble).bind ?_
      intro result calls same
      simp only
      split at same
      all_goals
        rename_i size
        obtain ⟨rfl, rfl⟩ := Prod.mk.inj same
        simp only [size, if_true, if_false]
        exact .pure ⟨rfl, rfl⟩

/-- A step about a closed connection comes to what it should, on every driver. By cases on the step.
-/
theorem Session.makes_onClosed (env : Environment) {session : Session ω} {slot : Nat}
    (there : session.connections[slot]? = some (some connection)) (unlined : connection.lines = none)
    (stage : connection.stage = .closed) {step : Step} (about : step.concerns slot = true)
    : Makes (session.step env step : StateM σ (Reply × Session ω)) fun calls outcome =>
        calls = (step.onClosed connection.controllers).calls connection.timer
        ∧ outcome
          = ((step.onClosed connection.controllers).reply, session.afterClosed step) := by
  have present : occupant session.connections slot = some connection := by
    rw [occupant, there]
    rfl
  cases step with
  | display place step =>
      obtain rfl := beq_iff_eq.mp about
      simp only [Session.step, onConnection, present, displayStep]
      refine (connection.makes_display_closed unlined step).bind ?_
      intro outcome calls both
      obtain ⟨rfl, rfl⟩ := both
      have same : session.connections.set place (some connection) = session.connections := by
        obtain ⟨bound, found⟩ := List.getElem?_eq_some_iff.mp there
        rw [← found, List.set_getElem_self]
      refine .pure ⟨List.append_nil _, ?_⟩
      simp only [same]
      rfl
  | sendNibble place target register nibble =>
      obtain rfl := beq_iff_eq.mp about
      simp only [Session.step, onConnection, present]
      refine (makes_sendNibble_closed unlined place target register nibble).bind ?_
      intro reply calls both
      obtain ⟨rfl, rfl⟩ := both
      exact .pure ⟨List.append_nil _, rfl⟩
  | writeLine place signal level =>
      obtain rfl := beq_iff_eq.mp about
      simp only [Session.step, onConnection, present, writeLine, Connection.writeLine?, unlined]
      exact .pure ⟨rfl, rfl⟩
  | status place =>
      obtain rfl := beq_iff_eq.mp about
      simp only [Session.step, onConnection, present, connection.status_closed unlined stage]
      exact .pure ⟨rfl, rfl⟩
  | disconnect place =>
      obtain rfl := beq_iff_eq.mp about
      simp only [Session.step, disconnect, there, Connection.discard_of_none unlined]
      exact .pure ⟨rfl, rfl⟩
  | _ => cases about

-----------------------------------------------------------------------------------------
-- What is left on a driver
-----------------------------------------------------------------------------------------

/-- Whether a call only waits or notes something. -/
def LineCall.idles : LineCall ω → Bool
  | waited _ _ | noted _ => true
  | acquired _ _ | wrote _ _ _ | released _ _ => false

theorem Idling.idles_calls (timer : Timer) (idling : Idling)
    : ∀ call ∈ (idling.calls timer : List (LineCall ω)), call.idles = true := by
  intro call member
  rcases List.mem_append.mp member with note | wait
  · obtain ⟨entry, _, rfl⟩ := List.mem_map.mp note
    rfl
  · obtain ⟨time, _, rfl⟩ := List.mem_map.mp wait
    rfl

/-- The notes among such calls, and the waits. -/
theorem Idling.read_calls (timer : Timer) (idling : Idling)
    : entries (idling.calls timer : List (LineCall ω)) = idling.notes
      ∧ (idling.calls timer : List (LineCall ω)).filterMap wait? = idling.waits.map (timer, ·) := by
  simp [calls, entries, List.filterMap_map, Function.comp_def, entry?, wait?]

/-- A driver that is idle takes notes and may record waits: `idled` is what becomes of it. -/
structure Idles (idled : List Note → List (Timer × UInt32) → σ → σ) : Prop where
  nothing : ∀ s, idled [] [] s = s
  append : ∀ notes others waits more s,
    idled others more (idled notes waits s) = idled (notes ++ others) (waits ++ more) s
  noted : ∀ entry s, ((note entry : StateM σ Unit).run s).2 = idled [entry] [] s
  waited : ∀ timer time s,
    ((Clock.wait timer time : StateM σ Unit).run s).2 = idled [] [(timer, time)] s

omit [LineDriver (StateM σ) ω] in
/-- Calls that only wait and note something leave a driver that was idle. By induction on them. -/
theorem Idles.performs [LineDriver (StateM σ) ω]
    {idled : List Note → List (Timer × UInt32) → σ → σ} (driver : Idles idled)
    {calls : List (LineCall ω)} {before after : σ} (performs : Performs before calls after)
    (idle : ∀ call ∈ calls, call.idles = true)
    : after = idled (entries calls) (calls.filterMap wait?) before := by
  induction calls generalizing before with
  | nil =>
      cases performs
      exact (driver.nothing _).symm
  | cons call rest ih =>
      obtain ⟨middle, happens, rests⟩ := performs
      obtain ⟨here, others⟩ := List.forall_mem_cons.mp idle
      rw [ih rests others]
      cases call with
      | waited timer time =>
          have left := driver.waited timer time before
          rw [LineCall.Happens] at happens
          rw [happens] at left
          subst left
          exact driver.append _ _ _ _ before
      | noted entry =>
          have left := driver.noted entry before
          rw [LineCall.Happens] at happens
          rw [happens] at left
          subst left
          exact driver.append _ _ _ _ before
      | acquired | wrote | released => cases here

/-- The connection in a place is closed and inert in a state of a site. What is asked of it is
answered by the request alone, and no call is made to the driver but for noting it, or for waiting
if that is what is asked. The driver is left as one that was idle, and giving the connection up does
nothing.
-/
structure Site.Inert (site : Site σ ω A) (idled : List Note → List (Timer × UInt32) → σ → σ)
    (env : Environment) (slot : Nat) (connection : Connection ω) (state : Session ω × σ)
    : Prop where
  shut : connection.lines = none ∧ connection.stage = .closed ∧ connection.supportsBacklight = false
  idle : ∀ step : Step, step.concerns slot = true →
    let idling := step.onClosed connection.controllers
    (state.1.deed env step state.2).calls = idling.calls connection.timer
    ∧ site.perform env state (site.take step)
      = (idling.reply, state.1.afterClosed step,
          idled idling.notes (idling.waits.map (connection.timer, ·)) state.2)
  dropped : (connection.discard : StateM σ Unit) = pure ()

namespace Site

variable {site : Site σ ω A} {idled : List Note → List (Timer × UInt32) → σ → σ}
variable {env : Environment} {slot : Nat} {state : Session ω × σ}

/-- A closed connection is inert wherever it is. -/
theorem inert_of_closed (driver : Idles idled)
    (there : state.1.connections[slot]? = some (some connection)) (unlined : connection.lines = none)
    (stage : connection.stage = .closed)
    : site.Inert idled env slot connection state where
  shut := by
    refine ⟨unlined, stage, ?_⟩
    rw [Connection.supportsBacklight, unlined]
    rfl
  idle := by
    intro step about idling
    have makes := Session.makes_onClosed (σ := Traced σ ω) env there unlined stage about
    obtain ⟨calls, outcome⟩ := state.1.deed_of_makes env step makes state.2 site.still
    have performs := (state.1.done env step state.2 site.still).performs
    rw [calls] at performs
    have left := driver.performs performs (idling.idles_calls connection.timer)
    obtain ⟨notes, waits⟩ := idling.read_calls (ω := ω) connection.timer
    rw [notes, waits] at left
    refine ⟨calls, ?_⟩
    rw [site.perform_take, left, outcome]
  dropped := Connection.discard_of_none unlined

/-- The place of a closed connection holds it, or it is empty. -/
def Rests (slot : Nat) (connection : Connection ω) (session : Session ω) : Prop :=
  session.connections[slot]? = some none
  ∨ session.connections[slot]? = some (some connection) ∧ connection.lines = none

theorem rests_perform (rests : Rests slot connection state.1) (action : A)
    : Rests slot connection (site.perform env state action).2.1 := by
  cases stepping : site.step? action with
  | none => rwa [site.perform_beside stepping]
  | some step =>
      rw [site.perform_step stepping]
      rcases rests with empty | ⟨there, unlined⟩
      · exact .inl (state.1.emptied_step env step empty state.2)
      · have turned := state.1.turns_step env step there state.2
        rcases step.turns_cases slot connection with kept | closed | gone
        · rw [kept] at turned
          exact .inr ⟨turned, unlined⟩
        · rw [closed, Connection.closed_of_none unlined] at turned
          exact .inr ⟨turned, unlined⟩
        · rw [gone] at turned
          exact .inl turned

/-- It does so whatever is done. -/
theorem rests_reach (rests : Rests slot connection state.1) (later : List A)
    : Rests slot connection (site.reach env state later).1 :=
  Acting.reach_keeps (fun state => Rests slot connection state.1)
    (fun _ action rests => rests_perform rests action) rests later

end Site

/-- A connection that is closed in its place is inert from then on, whatever is done: until it is
given up, which empties the place for good.
-/
def Site.InertOnceClosed (site : Site σ ω A)
    (idled : List Note → List (Timer × UInt32) → σ → σ) (env : Environment) (slot : Nat)
    (connection : Connection ω) (state : Session ω × σ)
    : Prop :=
  ∀ later : List A,
    let closing := site.perform env state (site.take (.display slot .close))
    let now := site.reach env closing.2 later
    now.1.connections[slot]? = some none
    ∨ now.1.connections[slot]? = some (some connection.closed)
      ∧ site.Inert idled env slot connection.closed now

/-- In every state of a session over a site a connection is inert once it is closed. -/
theorem Site.inertOnceClosed (site : Site σ ω A)
    {idled : List Note → List (Timer × UInt32) → σ → σ} (driver : Idles idled)
    (env : Environment) (start : σ) (before : List A) {slot : Nat}
    (present : occupant (site.reach env ({}, start) before).1.connections slot = some connection)
    : site.InertOnceClosed idled env slot connection (site.reach env ({}, start) before) := by
  intro later closing now
  have sound : (site.reach env ({}, start) before).1.Sound :=
    site.sound_reach Session.sound_empty before
  obtain ⟨stage, unlined⟩ := (sound slot connection present).closed
  have turned := Session.turns_step env (.display slot .close)
    (Session.getElem?_of_occupant present) (site.reach env ({}, start) before).2
  have closes
      : (Step.display slot .close).turns slot connection = some connection.closed :=
    congrArg some (if_pos rfl)
  rw [closes] at turned
  have there : closing.2.1.connections[slot]? = some (some connection.closed) := by
    rw [← turned]
    exact congrArg (·.2.1.connections[slot]?) (site.perform_take env _ _)
  refine (rests_reach (.inr ⟨there, unlined⟩) later).imp_right fun rests => ⟨rests.1, ?_⟩
  exact inert_of_closed driver rests.1 unlined stage

end Calls

-----------------------------------------------------------------------------------------
-- Both drivers
-----------------------------------------------------------------------------------------

/-- The lengths of those waits that are recorded. -/
def delaysOf (waits : List (Timer × UInt32)) : List UInt32 :=
  waits.filterMap fun (timer, time) => if timer = .recorded then some time else none

/-- A bench after some notes and delays. -/
def Bench.idled (notes : List Note) (waits : List (Timer × UInt32)) (bench : Bench) : Bench :=
  { bench with
    events := bench.events ++ ((delaysOf waits).map Event.delayed).toArray
    notes := bench.notes ++ notes.toArray }

theorem Bench.idles : Idles Bench.idled where
  nothing bench := by simp [idled, delaysOf]
  append notes others waits more bench := by simp [idled, delaysOf]
  noted entry bench := by
    show { bench with notes := bench.notes.push entry } = _
    simp [idled, delaysOf]
  waited timer time bench := by
    show Bench.wait timer time bench = _
    cases timer <;> simp [idled, delaysOf, Bench.wait, Bench.record]

/-- A machine after some notes and delays: no file was called. -/
def Sysfs.Machine.idled (notes : List Note) (waits : List (Timer × UInt32))
    (machine : Sysfs.Machine)
    : Sysfs.Machine :=
  { machine with
    calls := machine.calls ++ ((delaysOf waits).map Sysfs.Call.delayed).toArray
    notes := machine.notes ++ notes.toArray }

theorem Sysfs.Machine.idles : Idles Sysfs.Machine.idled where
  nothing machine := by simp [idled, delaysOf]
  append notes others waits more machine := by simp [idled, delaysOf]
  noted entry machine := by
    show { machine with notes := machine.notes.push entry } = _
    simp [idled, delaysOf]
  waited timer time machine := by
    show Sysfs.Machine.wait timer time machine = _
    cases timer <;> simp [idled, delaysOf, Sysfs.Machine.wait, Sysfs.Machine.record]

/-- On both drivers a connection is inert once it is closed, whatever was done before, whatever came
of closing it, and whatever is done later by anybody.
-/
theorem inert_once_closed (env : Environment) (slot : Nat)
    : (∀ (start : Bench) (before : List Bench.Action) (connection : Connection Unit),
        occupant (Bench.reach env ({}, start) before).1.connections slot = some connection
        → Bench.site.InertOnceClosed Bench.idled env slot connection
            (Bench.reach env ({}, start) before))
      ∧ ∀ (start : Sysfs.Machine) (before : List Sysfs.Machine.Action)
          (connection : Connection Nat),
          occupant (Sysfs.reach env ({}, start) before).1.connections slot = some connection
          → Sysfs.Machine.site.InertOnceClosed Sysfs.Machine.idled env slot connection
              (Sysfs.reach env ({}, start) before) := by
  constructor
  · intro start before connection present
    exact Bench.site.inertOnceClosed Bench.idles env start before present
  · intro start before connection present
    exact Sysfs.Machine.site.inertOnceClosed Sysfs.Machine.idles env start before present

/-- No line of a display on a machine can be unexported, so closing it fails. Still it is closed,
and somebody else gets its enable line. The same goes for one on a bench, which is closed without a
failure.
-/
theorem inert_once_closed_after_failure
    : let fault : Sysfs.Fault := { file := "unexport", call := .writing, errno := .eio }
      let start : Sysfs.Machine := { Sysfs.Machine.small with faults := [fault] }
      let setUp : List Sysfs.Machine.Action := [.step (.init {} {} .unrecorded)]
      let closing := Sysfs.perform {} (Sysfs.reach {} ({}, start) setUp) (.step (.display 0 .close))
      let prepared : List Bench.Action := [.step (.init {} {} .recorded)]
      (∃ connection,
        occupant (Sysfs.reach {} ({}, start) setUp).1.connections 0 = some connection
        ∧ closing.1 = .refused (.io (Errno.kind .eio))
        ∧ (Sysfs.reach {} closing.2 [.step (.export 8)]).1.lines.map Line.number = [8]
        ∧ Sysfs.Machine.site.InertOnceClosed Sysfs.Machine.idled {} 0 connection
            (Sysfs.reach {} ({}, start) setUp))
      ∧ ∃ connection,
        occupant (Bench.reach {} ({}, {}) prepared).1.connections 0 = some connection
        ∧ Bench.site.InertOnceClosed Bench.idled {} 0 connection
            (Bench.reach {} ({}, {}) prepared) := by
  intro fault start setUp closing prepared
  obtain ⟨onBenches, onMachines⟩ := inert_once_closed {} 0
  constructor
  · let lines : Wiring (Line Nat) :=
      { en := ⟨8, 2⟩, rs := ⟨7, 5⟩, d7 := ⟨18, 8⟩, d6 := ⟨23, 11⟩, d5 := ⟨24, 14⟩
        d4 := ⟨25, 17⟩, backlight := none, en2 := none }
    let connection : Connection Nat :=
      { lines := some lines, controllers := .single, backlightNumber := PinConfig.noBacklight
        timer := .unrecorded, stage := .ready }
    have present
        : occupant (Sysfs.reach {} ({}, start) setUp).1.connections 0 = some connection := by
      decide +kernel
    exact ⟨connection, present, by decide +kernel, by decide +kernel,
      onMachines start setUp connection present⟩
  · let lines : Wiring (Line Unit) :=
      { en := ⟨8, ()⟩, rs := ⟨7, ()⟩, d7 := ⟨18, ()⟩, d6 := ⟨23, ()⟩, d5 := ⟨24, ()⟩
        d4 := ⟨25, ()⟩, backlight := none, en2 := none }
    let connection : Connection Unit :=
      { lines := some lines, controllers := .single, backlightNumber := PinConfig.noBacklight
        timer := .recorded, stage := .ready }
    have present
        : occupant (Bench.reach {} ({}, {}) prepared).1.connections 0 = some connection := by
      decide +kernel
    exact ⟨connection, present, onBenches {} prepared connection present⟩

end CharLcd

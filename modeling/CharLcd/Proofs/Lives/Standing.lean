import CharLcd.Proofs.Ownership.Apart
import CharLcd.Proofs.Ownership.Using

/-! What becomes of the connections of a session, on every driver.

A step puts a new connection behind the others, closes the one that it is about or gives it up, and
otherwise leaves all of them as they are. So every connection of a session is ready and has its lines,
or it is closed and has none.
-/

namespace CharLcd

variable {σ ω : Type}

-----------------------------------------------------------------------------------------
-- What a connection is like between two steps
-----------------------------------------------------------------------------------------

namespace Connection

/-- A connection is ready over its lines, with a second enable line if there are two controllers. -/
def Ready (connection : Connection ω) : Prop :=
  connection.stage = .ready
  ∧ ∃ lines, connection.lines = some lines
      ∧ lines.en2.isSome = connection.controllers.isDual

/-- A connection is ready and has its lines, or it is closed and has none. There is a line for a second
enable just if there are two controllers.
-/
structure Sound (connection : Connection ω) : Prop where
  standing : (connection.stage = .ready ∧ connection.lines.isSome = true)
    ∨ (connection.stage = .closed ∧ connection.lines = none)
  paired : ∀ lines, connection.lines = some lines
    → lines.en2.isSome = connection.controllers.isDual

variable {connection : Connection ω}

theorem Ready.sound (ready : connection.Ready) : connection.Sound := by
  obtain ⟨stage, lines, opened, paired⟩ := ready
  refine ⟨.inl ⟨stage, by rw [opened]; rfl⟩, fun others same => ?_⟩
  obtain rfl := Option.some.inj (same.symm.trans opened)
  exact paired

/-- A sound connection that has lines is ready. -/
theorem Sound.ready (sound : connection.Sound) {lines : Wiring (Line ω)}
    (opened : connection.lines = some lines)
    : connection.Ready := by
  rcases sound.standing with ⟨stage, _⟩ | ⟨_, none⟩
  · exact ⟨stage, lines, opened, sound.paired lines opened⟩
  · cases opened.symm.trans none

/-- Closing leaves a sound connection closed, whether or not it was before. -/
theorem Sound.closed (sound : connection.Sound)
    : connection.closed.stage = .closed ∧ connection.closed.lines = none := by
  obtain ⟨lines, controllers, number, timer, stage⟩ := connection
  cases lines with
  | none =>
      rcases sound.standing with ⟨_, some⟩ | both
      · cases some
      · exact both
  | some lines => exact ⟨rfl, rfl⟩

/-- A connection without lines is not changed by closing it. -/
theorem closed_of_none (none : connection.lines = none) : connection.closed = connection := by
  rw [Connection.closed, none]

theorem Sound.sound_closed (sound : connection.Sound) : connection.closed.Sound := by
  obtain ⟨stage, none⟩ := sound.closed
  exact ⟨.inr ⟨stage, none⟩, fun lines opened => nomatch none.symm.trans opened⟩

variable [Journal (StateM σ)] [Clock (StateM σ)] [LineDriver (StateM σ) ω]

omit [Clock (StateM σ)] in
/-- Closing leaves the closed connection, whatever fails. -/
theorem run_close_left (connection : Connection ω) (s : σ)
    : ((connection.close : StateM σ (Except GpioError Unit × Connection ω)).run s).1.2
      = connection.closed := by
  obtain ⟨lines, controllers, number, timer, stage⟩ := connection
  cases lines <;> rfl

omit [Clock (StateM σ)] in
/-- There is nothing to close if there are no lines. -/
theorem close_of_none (none : connection.lines = none)
    : (connection.close : StateM σ (Except GpioError Unit × Connection ω))
      = pure (.ok (), connection) := by
  simp only [close, none]

omit [Clock (StateM σ)] in
/-- Nor does giving it up do anything then. -/
theorem discard_of_none (none : connection.lines = none)
    : (connection.discard : StateM σ Unit) = pure () := by
  simp only [discard, close_of_none none, pure_bind]

/-- Closing leaves no lines. -/
theorem lines_closed (connection : Connection ω) : connection.closed.lines = none := by
  cases opened : connection.lines with
  | none => rwa [closed_of_none opened]
  | some lines => rw [closed, opened]

omit [Clock (StateM σ)] in
/-- A connection that was closed is not closed again. -/
theorem run_close_closed (connection : Connection ω) (s : σ)
    : (connection.closed.close : StateM σ (Except GpioError Unit × Connection ω)).run s
      = ((.ok (), connection.closed), s) := by
  rw [close_of_none connection.lines_closed]
  rfl

omit [Clock (StateM σ)] in
/-- Nor is it given up once more. -/
theorem run_discard_closed (connection : Connection ω) (s : σ)
    : (connection.closed.discard : StateM σ Unit).run s = ((), s) := by
  rw [discard_of_none connection.lines_closed]
  rfl

/-- A connection that was set up is ready. -/
theorem obtains_init_ready (config : PinConfig) (options : DisplayOptions) (timer : Timer)
    : Obtains (init config options timer : StateM σ (Except ConnectionError (Connection ω)))
        Ready := by
  refine obtains_init_of fun lines wired => ⟨rfl, lines, rfl, ?_⟩
  have second := PinConfig.isSome_en2_of_wiring wired
  simpa [Wiring.map, onLines] using second

/-- So is one over the lines that a source names. -/
theorem obtains_ofSource_ready (source : ConfigSource) (options : DisplayOptions) (timer : Timer)
    : Obtains
        (ofSource source options timer : StateM σ (Except ConnectionError (Connection ω)))
        Ready := by
  simp only [ofSource, Logged.emit, bind_assoc, pure_bind]
  exact .after fun _ => obtains_init_ready _ options timer

end Connection

-----------------------------------------------------------------------------------------
-- What a step makes of a connection
-----------------------------------------------------------------------------------------

namespace Step

/-- Whether a step closes the connection in a place, or gives it up. -/
def ends (slot : Nat) : Step → Bool
  | .display place .close | .disconnect place => place == slot
  | _ => false

/-- Whether a step sets up a connection. -/
def opens : Step → Bool
  | .init _ _ _ | .connect _ _ _ => true
  | _ => false

/-- What a step makes of the connection in a place. -/
def turns (slot : Nat) (connection : Connection ω) : Step → Option (Connection ω)
  | .display place .close => some (if place = slot then connection.closed else connection)
  | .disconnect place => if place = slot then none else some connection
  | _ => some connection

variable {step : Step} {slot : Nat} {connection : Connection ω}

/-- A step leaves a connection as it is, closes it or gives it up. -/
theorem turns_cases (step : Step) (slot : Nat) (connection : Connection ω)
    : step.turns slot connection = some connection
      ∨ step.turns slot connection = some connection.closed
      ∨ step.turns slot connection = none := by
  unfold turns
  split
  · split
    · exact .inr (.inl rfl)
    · exact .inl rfl
  · split
    · exact .inr (.inr rfl)
    · exact .inl rfl
  · exact .inl rfl

/-- Only a step that closes a connection or gives it up makes something else of it. -/
theorem turns_of_not_ends (stays : step.ends slot = false)
    : step.turns slot connection = some connection := by
  cases step with
  | display place step =>
      cases step with
      | close => exact congrArg some (if_neg (ne_of_beq_false stays))
      | _ => rfl
  | disconnect place => exact if_neg (ne_of_beq_false stays)
  | _ => rfl

/-- A step that ends a connection closes it or gives it up. -/
theorem turns_of_ends (ends : step.ends slot = true) (connection : Connection ω)
    : step.turns slot connection = some connection.closed ∨ step.turns slot connection = none := by
  cases step with
  | display place step =>
      cases step with
      | close => exact .inl (congrArg some (if_pos (beq_iff_eq.mp ends)))
      | _ => cases ends
  | disconnect place => exact .inr (if_pos (beq_iff_eq.mp ends))
  | _ => cases ends

/-- A step that closes a connection or gives it up is about it. -/
theorem concerns_of_ends (ends : step.ends slot = true) : step.concerns slot = true := by
  cases step with
  | display place step =>
      cases step with
      | close => exact ends
      | _ => cases ends
  | disconnect place => exact ends
  | _ => cases ends

/-- A step about a connection that does not end it uses it. -/
theorem uses_of_concerns (about : step.concerns slot = true) (stays : step.ends slot = false)
    : step.uses = true := by
  cases step with
  | display place step =>
      cases step with
      | close => exact absurd about (by simpa [ends, concerns] using stays)
      | _ => rfl
  | disconnect place => exact absurd about (by simpa [ends, concerns] using stays)
  | sendNibble | writeLine | status => rfl
  | _ => cases about

end Step

namespace Session

variable [Journal (StateM σ)] [Clock (StateM σ)] [LineDriver (StateM σ) ω]
variable (env : Environment) {session : Session ω} {slot : Nat}

/-- A step makes of a connection what it should, on every driver. By cases on the step if it is about
the connection.
-/
theorem turns_step (step : Step) {connection : Connection ω}
    (there : session.connections[slot]? = some (some connection)) (s : σ)
    : ((session.step env step : StateM σ (Reply × Session ω)).run s).1.2.connections[slot]?
      = some (step.turns slot connection) := by
  have bound : slot < session.connections.length := (List.getElem?_eq_some_iff.mp there).1
  cases ends : step.ends slot with
  | false =>
      rw [Step.turns_of_not_ends ends, ← there]
      cases about : step.concerns slot with
      | false => exact session.getElem?_step env bound about s
      | true => rw [session.left_of_uses env (Step.uses_of_concerns about ends)]
  | true =>
      cases step with
      | display place step =>
          cases step with
          | close =>
              obtain rfl := beq_iff_eq.mp ends
              have present : occupant session.connections place = some connection := by
                rw [occupant, there]
                rfl
              have run
                  : ((session.step env (.display place .close)
                        : StateM σ (Reply × Session ω)).run s).1.2.connections
                    = session.connections.set place (some connection.closed) := by
                simp only [Session.step, onConnection, present, displayStep,
                  connection.run_close, bind_assoc, pure_bind]
                rw [← connection.run_close_left s]
                rfl
              rw [run, List.getElem?_set_self bound, Step.turns, if_pos rfl]
          | _ => cases ends
      | disconnect place =>
          obtain rfl := beq_iff_eq.mp ends
          have run
              : ((session.step env (.disconnect place)
                    : StateM σ (Reply × Session ω)).run s).1.2.connections
                = session.connections.set place none := by
            simp only [Session.step, disconnect, there]
            rfl
          rw [run, List.getElem?_set_self bound, Step.turns, if_pos rfl]
      | _ => cases ends

/-- A place that was given up stays empty. -/
theorem emptied_step (step : Step) (empty : session.connections[slot]? = some none) (s : σ)
    : ((session.step env step : StateM σ (Reply × Session ω)).run s).1.2.connections[slot]?
      = some none := by
  have bound : slot < session.connections.length := (List.getElem?_eq_some_iff.mp empty).1
  cases about : step.concerns slot with
  | false => rw [session.getElem?_step env bound about s, empty]
  | true =>
      have absent : occupant session.connections slot = none := by
        rw [occupant, empty]
        rfl
      cases step with
      | display place step | sendNibble place | writeLine place | status place =>
          obtain rfl := beq_iff_eq.mp about
          simp only [Session.step, onConnection, absent]
          exact empty
      | disconnect place =>
          obtain rfl := beq_iff_eq.mp about
          simp only [Session.step, disconnect, empty]
          exact empty
      | _ => cases about

/-- Only a set-up puts something behind the connections of a session. -/
theorem length_connections_step {step : Step} (other : step.opens = false) (s : σ)
    : ((session.step env step : StateM σ (Reply × Session ω)).run s).1.2.connections.length
      = session.connections.length := by
  cases found : step.slot? with
  | some about =>
      have left := session.leaves_step env step s
      generalize ((session.step env step : StateM σ _).run s).1.2 = after at left ⊢
      cases left with
      | same => rfl
      | output _ place => rfl
      | connection _ place => exact List.length_set
      | newOutput new output => cases new.symm.trans found
      | newConnection new connection => cases new.symm.trans found
  | none =>
      cases step with
      | «export» line =>
          simp only [Session.step, exportLine, StateT.run_bind]
          rcases (Output.acquire line : StateM σ (Except GpioError (Output ω))).run s
            with ⟨cause | output, after⟩ <;> rfl
      | init config options timer => cases other
      | connect source options timer => cases other
      | _ => cases found

/-- What a step puts behind the connections of a session is a ready connection. -/
theorem ready_of_new (step : Step) (s : σ) (free : session.connections.length ≤ slot)
    {place : Option (Connection ω)}
    (there
      : ((session.step env step : StateM σ (Reply × Session ω)).run s).1.2.connections[slot]?
        = some place)
    : ∃ connection, place = some connection ∧ connection.Ready := by
  have beyond {places : List (Option (Connection ω))}
      (same : places.length = session.connections.length)
      : places[slot]? ≠ some place := by
    rw [List.getElem?_eq_none (same ▸ free)]
    exact nofun
  have enrolled (result : Except ConnectionError (Connection ω))
      (ready : ∀ connection, result = .ok connection → connection.Ready)
      (there : (session.enroll result).2.connections[slot]? = some place)
      : ∃ connection, place = some connection ∧ connection.Ready := by
    cases result with
    | error cause => exact absurd there (beyond rfl)
    | ok connection =>
        refine ⟨connection, ?_, ready connection rfl⟩
        rw [enroll, List.getElem?_append_right free] at there
        exact List.mem_singleton.mp (List.mem_of_getElem? there)
  cases opening : step.opens with
  | false => exact absurd there (beyond (session.length_connections_step env opening s))
  | true =>
      cases step with
      | init config options timer =>
          exact enrolled _ (Connection.obtains_init_ready config options timer s) there
      | connect source options timer =>
          exact enrolled _ (Connection.obtains_ofSource_ready _ _ timer s) there
      | _ => cases opening

/-- Every connection of a session is sound. -/
def Sound (session : Session ω) : Prop :=
  ∀ (slot : Nat) (connection : Connection ω),
    occupant session.connections slot = some connection → connection.Sound

/-- A session without connections. -/
theorem sound_empty : ({} : Session ω).Sound := by
  intro slot connection present
  simp [occupant] at present

/-- Every step leaves the connections of a session sound, on every driver. -/
theorem sound_step (sound : session.Sound) (step : Step) (s : σ)
    : ((session.step env step : StateM σ (Reply × Session ω)).run s).1.2.Sound := by
  intro slot connection present
  have after := getElem?_of_occupant present
  cases before : session.connections[slot]? with
  | none =>
      have free := List.getElem?_eq_none_iff.mp before
      obtain ⟨_, same, ready⟩ := session.ready_of_new env step s free after
      cases same
      exact ready.sound
  | some place =>
      cases place with
      | none =>
          rw [session.emptied_step env step before s] at after
          cases after
      | some earlier =>
          have held := sound slot earlier (by rw [occupant, before]; rfl)
          rw [session.turns_step env step before s] at after
          rcases step.turns_cases slot earlier with same | same | same
          all_goals rw [same] at after; cases after
          · exact held
          · exact held.sound_closed

end Session

end CharLcd

import CharLcd.Proofs.Ownership.Lines

/-! Setting up a connection, part by part, and what closing leaves of one.

Whatever the driver does, a connection that was set up is open, over lines with the numbers that its
configuration names.
-/

namespace CharLcd

variable {ω : Type}

/-- The numbers of the lines that setting up a display asks for, one after the other. -/
def PinConfig.asks (config : PinConfig) (options : DisplayOptions) : List UInt32 :=
  match config.wiring options with
  | .ok numbers => numbers.toList
  | .error _ => []

namespace Connection

/-- A connection after it was closed. -/
def closed (connection : Connection ω) : Connection ω :=
  match connection.lines with
  | none => connection
  | some _ => { connection with lines := none, stage := .closed }

/-- A closed connection has no lines, by cases on its being open before. -/
@[simp]
theorem held_closed (connection : Connection ω) : connection.closed.held = [] := by
  obtain ⟨lines, controllers, number, timer, stage⟩ := connection
  cases lines <;> rfl

/-- A connection over lines that were just acquired. -/
def onLines (lines : Wiring (Line ω)) (config : PinConfig) (options : DisplayOptions)
    (timer : Timer)
    : Connection ω where
  lines := some lines
  controllers := options.controllers
  backlightNumber := if options.backlight then config.backlight else PinConfig.noBacklight
  timer
  stage := .pinsExported

variable {m : Type → Type} [Monad m] [Journal m] [Clock m] [LineDriver m ω]

/-- What is left of setting up once the numbers are checked: acquiring the lines and bringing the
display up over them.
-/
def establish (numbers : Wiring UInt32) (config : PinConfig) (options : DisplayOptions)
    (timer : Timer)
    : m (Except ConnectionError (Connection ω)) := do
  note (.stageEntered .pinsAllocated)
  match ← numbers.acquire with
  | .error error => return .error error
  | .ok lines =>
      let connection : Connection ω := onLines lines config options timer
      note (.stageEntered .pinsExported)
      note (.registered connection.supportsBacklight connection.controllers)
      connection.bringUp lines config

/-- Setting up checks the numbers and then goes on with the lines, perhaps with a note on the
backlight in between.
-/
theorem setUp_eq (config : PinConfig) (options : DisplayOptions) (timer : Timer)
    : (setUp config options timer : m (Except ConnectionError (Connection ω)))
      = (do
          note (.stageEntered .unconfigured)
          match config.wiring options with
          | .error error => return .error error
          | .ok numbers =>
              if options.backlight ∧ !config.backlightEnabled then
                note (.backlightOutOfRange config.backlight)
              establish numbers config options timer) :=
  rfl

end Connection

-----------------------------------------------------------------------------------------
-- What a connection is like that was set up
-----------------------------------------------------------------------------------------

section Results

variable {σ α β ε : Type}

/-- In whatever state a program starts, what it returns satisfies `p` if it succeeds. -/
def Obtains (x : StateM σ (Except ε α)) (p : α → Prop) : Prop :=
  ∀ s value, (x.run s).1 = .ok value → p value

/-- What a program does first does not matter if the rest obtains what it should anyway. -/
theorem Obtains.after {x : StateM σ β} {f : β → StateM σ (Except ε α)} {p : α → Prop}
    (next : ∀ result, Obtains (f result) p)
    : Obtains (x >>= f) p :=
  fun s => next (x.run s).1 (x.run s).2

theorem Obtains.pure {value : α} {p : α → Prop} (holds : p value)
    : Obtains (pure (.ok value) : StateM σ (Except ε α)) p := by
  intro s _ same
  cases same
  exact holds

theorem Obtains.error {cause : ε} {p : α → Prop}
    : Obtains (Pure.pure (.error cause) : StateM σ (Except ε α)) p := by
  intro s _ same
  cases same

/-- What a program obtains is handed on to the part that follows its success. -/
theorem Obtains.bind {x : StateM σ (Except ε α)} {f : Except ε α → StateM σ (Except ε β)}
    {p : α → Prop} {q : β → Prop} (first : Obtains x p)
    (failed : ∀ cause, Obtains (f (.error cause)) q)
    (next : ∀ value, p value → Obtains (f (.ok value)) q)
    : Obtains (x >>= f) q := by
  intro s value
  cases given : (x.run s).1 with
  | error cause =>
      intro succeeded
      refine failed cause (x.run s).2 value ?_
      rw [← given]
      exact succeeded
  | ok obtained =>
      intro succeeded
      refine next obtained (first s obtained given) (x.run s).2 value ?_
      rw [← given]
      exact succeeded

variable [Journal (StateM σ)] [LineDriver (StateM σ) ω]

/-- Holding a line, whatever handle it gets, the steps that follow obtain what they should. -/
theorem Obtains.holding {signal : Signal} {number : UInt32}
    {next : Line ω → StateM σ (Except ConnectionError α)} {p : α → Prop}
    (follow : ∀ handle, Obtains (next ⟨number, handle⟩) p)
    : Obtains (CharLcd.holding signal number next) p := by
  refine .after fun _ => .after fun answer => ?_
  cases answer with
  | error cause => exact .error
  | ok handle =>
      refine (follow handle).bind (fun _ => ?_) fun _ => .pure
      exact .after fun _ => .error

theorem Obtains.holdingOptional {signal : Signal} {number : Option UInt32}
    {next : Option (Line ω) → StateM σ (Except ConnectionError α)} {p : α → Prop}
    (follow : ∀ line : Option (Line ω), line.map Line.number = number → Obtains (next line) p)
    : Obtains (CharLcd.holdingOptional signal number next) p := by
  cases number with
  | none => exact follow none rfl
  | some number => exact .holding fun handle => follow (some ⟨number, handle⟩) rfl

/-- Acquired lines have the numbers that were asked for, signal by signal. -/
theorem Wiring.obtains_acquire (numbers : Wiring UInt32)
    : Obtains (numbers.acquire : StateM σ (Except ConnectionError (Wiring (Line ω))))
        (·.map Line.number = numbers) := by
  refine .holding fun en => .holding fun rs => .holding fun d7 => .holding fun d6 => ?_
  refine .holding fun d5 => .holding fun d4 => ?_
  refine .holdingOptional fun backlight lit => .holdingOptional fun en2 second => .pure ?_
  simp only [Wiring.map, lit, second]

/-- A connection is open over lines with the numbers configured for a display with these
options.
-/
def Connection.Set (config : PinConfig) (options : DisplayOptions) (connection : Connection ω)
    : Prop :=
  ∃ lines : Wiring (Line ω),
    connection.lines = some lines
    ∧ config.wiring options = .ok (lines.map Line.number)
    ∧ connection.controllers = options.controllers

/-- The line number of a signal that a display may not need. -/
def PinConfig.numberIf (config : PinConfig) (needed : Bool) (signal : Signal)
    : Except ConnectionError (Option UInt32) :=
  if needed then some <$> config.number signal else pure none

/-- The numbers are checked one after the other. -/
theorem PinConfig.wiring_eq (config : PinConfig) (options : DisplayOptions)
    : config.wiring options
      = (do
          let en ← config.number .en
          let rs ← config.number .rs
          let d7 ← config.number .d7
          let d6 ← config.number .d6
          let d5 ← config.number .d5
          let d4 ← config.number .d4
          let en2 ← config.numberIf options.controllers.isDual .en2
          let backlight ← config.numberIf (config.hasBacklight options) .backlight
          return { en, rs, d7, d6, d5, d4, backlight, en2 }) := by
  unfold wiring numberIf
  cases options.controllers.isDual <;> cases config.hasBacklight options <;>
    simp only [if_true, if_false, Bool.false_eq_true, pure_bind]

/-- What a signal that may not be needed has is a number just if it is needed. -/
theorem PinConfig.isSome_of_numberIf {config : PinConfig} {needed : Bool} {signal : Signal}
    {number : Option UInt32} (given : config.numberIf needed signal = .ok number)
    : number.isSome = needed := by
  unfold numberIf at given
  cases needed with
  | false =>
      cases given
      rfl
  | true =>
      cases checked : config.number signal with
      | error error => simp [checked] at given
      | ok value =>
          simp only [checked, if_true, Except.map_ok] at given
          cases given
          rfl

/-- The numbers of the signals that may not be needed are found where they are needed. -/
theorem PinConfig.numberIf_of_wiring {config : PinConfig} {options : DisplayOptions}
    {numbers : Wiring UInt32} (wired : config.wiring options = .ok numbers)
    : config.numberIf options.controllers.isDual .en2 = .ok numbers.en2
      ∧ config.numberIf (config.hasBacklight options) .backlight = .ok numbers.backlight := by
  have bound {α β : Type} {x : Except ConnectionError α} {f : α → Except ConnectionError β}
      {b : β} (succeeds : x >>= f = .ok b)
      : ∃ a, x = .ok a ∧ f a = .ok b := by
    cases x with
    | error error => cases succeeds
    | ok a => exact ⟨a, rfl, succeeds⟩
  rw [wiring_eq] at wired
  obtain ⟨en, -, wired⟩ := bound wired
  obtain ⟨rs, -, wired⟩ := bound wired
  obtain ⟨d7, -, wired⟩ := bound wired
  obtain ⟨d6, -, wired⟩ := bound wired
  obtain ⟨d5, -, wired⟩ := bound wired
  obtain ⟨d4, -, wired⟩ := bound wired
  obtain ⟨en2, second, wired⟩ := bound wired
  obtain ⟨backlight, lit, ⟨⟩⟩ := bound wired
  exact ⟨second, lit⟩

/-- A configuration has a number for the second enable just if there are two controllers. -/
theorem PinConfig.isSome_en2_of_wiring {config : PinConfig} {options : DisplayOptions}
    {numbers : Wiring UInt32} (wired : config.wiring options = .ok numbers)
    : numbers.en2.isSome = options.controllers.isDual :=
  isSome_of_numberIf (numberIf_of_wiring wired).1

/-- A configuration has a number for the backlight just if the display has one. -/
theorem PinConfig.isSome_backlight_of_wiring {config : PinConfig} {options : DisplayOptions}
    {numbers : Wiring UInt32} (wired : config.wiring options = .ok numbers)
    : numbers.backlight.isSome = config.hasBacklight options :=
  isSome_of_numberIf (numberIf_of_wiring wired).2

variable [Clock (StateM σ)]

/-- What holds of connections over lines with the configured numbers holds of one that was set up. -/
theorem Connection.obtains_init_of {config : PinConfig} {options : DisplayOptions} {timer : Timer}
    {p : Connection ω → Prop}
    (holds
      : ∀ lines : Wiring (Line ω),
          config.wiring options = .ok (lines.map Line.number)
          → p { onLines lines config options timer with stage := .ready })
    : Obtains (init config options timer : StateM σ (Except ConnectionError (Connection ω)))
        p := by
  have brought (lines : Wiring (Line ω))
      (wired : config.wiring options = .ok (lines.map Line.number))
      : Obtains ((onLines lines config options timer).bringUp lines config : StateM σ _) p := by
    simp only [bringUp, enter, bind_assoc, pure_bind]
    refine .after fun _ => .after fun result => ?_
    cases result with
    | error cause => exact .after fun _ => .error
    | ok => exact .after fun _ => .after fun _ => .pure (holds lines wired)
  have set
      : Obtains (setUp config options timer : StateM σ (Except ConnectionError (Connection ω)))
          p := by
    rw [setUp_eq]
    refine .after ?_
    intro _
    cases wired : config.wiring options with
    | error error => exact .error
    | ok numbers =>
        have rest : Obtains (establish numbers config options timer : StateM σ _) p := by
          refine .after fun _ => (numbers.obtains_acquire).bind (fun _ => .error) ?_
          intro lines same
          subst same
          exact .after fun _ => .after fun _ => brought lines wired
        simp only
        split
        · exact .after fun _ => rest
        · exact rest
  refine set.bind (fun _ => ?_) fun _ => .pure
  exact .after fun _ => .after fun _ => .error

/-- The same over the lines that a source names. -/
theorem Connection.obtains_ofSource_of {source : ConfigSource} {options : DisplayOptions}
    {timer : Timer} {p : Connection ω → Prop}
    (holds
      : ∀ lines : Wiring (Line ω),
          (PinConfig.load source options).value.wiring options = .ok (lines.map Line.number)
          → p { onLines lines (PinConfig.load source options).value options timer with
                stage := .ready })
    : Obtains
        (ofSource source options timer : StateM σ (Except ConnectionError (Connection ω))) p := by
  simp only [ofSource, Logged.emit, bind_assoc, pure_bind]
  exact .after fun _ => obtains_init_of holds

/-- A connection that was set up is open over the configured lines. -/
theorem Connection.obtains_init (config : PinConfig) (options : DisplayOptions) (timer : Timer)
    : Obtains (init config options timer : StateM σ (Except ConnectionError (Connection ω)))
        (Connection.Set config options) :=
  obtains_init_of fun lines wired => ⟨lines, rfl, wired, rfl⟩

/-- The same for a connection over the lines that a source names. -/
theorem Connection.obtains_ofSource (source : ConfigSource) (options : DisplayOptions)
    (timer : Timer)
    : Obtains
        (ofSource source options timer : StateM σ (Except ConnectionError (Connection ω)))
        (Connection.Set (PinConfig.load source options).value options) :=
  obtains_ofSource_of fun lines wired => ⟨lines, rfl, wired, rfl⟩

end Results

end CharLcd

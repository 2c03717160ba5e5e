import CharLcd.Proofs.Config.Integers
import CharLcd.Proofs.Config.Numbers
import Mathlib.Data.List.Nodup

/-! The layers that line numbers come from.

A number stored in the settings comes before one in the environment, and that before the default of
the signal. Which numbers are looked up depends on the options. So everything about the two first
layers that matters to a configuration is what they hold for the keys that are looked up.
-/

namespace CharLcd

/-- The variable that can hold the number of a signal. -/
def Signal.variable (signal : Signal) : String :=
  "HD44780_" ++ String.ofList (signal.key.toList.map Char.toUpper)

/-- The signals whose numbers are looked up, in order. -/
def DisplayOptions.consulted (options : DisplayOptions) : List Signal :=
  [.en, .rs, .d4, .d5, .d6, .d7] ++ (if options.controllers.isDual then [.en2] else [])
    ++ (if options.backlight then [.backlight] else [])

/-- What the layers hold for a signal. Where the settings hold a number for its key, whatever the
environment holds does not count; a variable without an integer in it counts as one not set.
-/
inductive Settings.Resolves (settings : Settings) (env : Environment) (signal : Signal)
    : Int64 → Prop where
  | fromSettings {value : Int64} (held : settings.find? "hd44780" signal.key = some value)
    : Resolves settings env signal value
  | fromVariable {value : Int64} {text : String}
    (missing : settings.find? "hd44780" signal.key = none)
    (set : env.bytes? signal.variable = some (Text.encode text))
    (holds : Text.Holds text value.toInt)
    : Resolves settings env signal value
  | byDefault (missing : settings.find? "hd44780" signal.key = none)
    (unset
      : ∀ text number,
          env.bytes? signal.variable = some (Text.encode text) → ¬Text.Holds text number)
    : Resolves settings env signal signal.defaultLine

/-- The variable of a signal is that of its key in the section of line numbers. By cases. -/
theorem Signal.variableName_eq (signal : Signal)
    : ConfigSource.variableName PinConfig.area signal.key = signal.variable := by
  cases signal <;> decide

/-- No two signals share a variable. -/
theorem Signal.variable_injective {first second : Signal}
    (same : first.variable = second.variable)
    : first = second := by
  have different : (Signal.all.map Signal.variable).Nodup := by decide
  exact List.inj_on_of_nodup_map different (mem_all first) (mem_all second) same

namespace PinConfig

variable {source other : ConfigSource} {options : DisplayOptions}

/-- A configuration is the same, with the same notes, from sources that answer alike for every
signal that is looked up. By cases on the options.
-/
theorem load_congr
    (same
      : ∀ signal ∈ options.consulted,
          source.getInt area signal.key signal.defaultLine
            = other.getInt area signal.key signal.defaultLine)
    : load source options = load other options := by
  have lookedUp (signal : Signal) (member : signal ∈ options.consulted)
      : lookUp source signal = lookUp other signal := by
    simp only [lookUp, same signal member]
  obtain ⟨controllers, backlight⟩ := options
  cases controllers <;> cases backlight <;>
    simp [DisplayOptions.consulted, Controllers.isDual] at lookedUp <;>
    simp [load, Controllers.isDual, lookedUp]

/-- The notes of a configuration are those of the lookups it makes. By cases on the options. -/
theorem notes_load (source : ConfigSource) (options : DisplayOptions)
    : (load source options).notes
      = options.consulted.flatMap fun signal => (lookUp source signal).notes := by
  obtain ⟨controllers, backlight⟩ := options
  cases controllers <;> cases backlight <;>
    simp [load, DisplayOptions.consulted, Controllers.isDual]

/-- A configuration is told by its lines. -/
theorem eq_of_line {config other : PinConfig}
    (same : ∀ signal, config.line signal = other.line signal)
    : config = other := by
  cases config
  cases other
  simp only [mk.injEq]
  exact ⟨same .en, same .en2, same .rs, same .d7, same .d6, same .d5, same .d4, same .backlight⟩

end PinConfig

namespace Settings

open PinConfig (area load numberIn lookUp)

variable {settings other : Settings} {env changed : Environment} {options : DisplayOptions}
  {signal : Signal}

-----------------------------------------------------------------------------------------
-- What the layers hold
-----------------------------------------------------------------------------------------

/-- With a number in the settings a lookup gives it, and nothing is noted. -/
theorem getInt_of_held {value : Int64} (held : settings.find? area signal.key = some value)
    (fallback : Int64)
    : (settings.source env).getInt area signal.key fallback = pure value := by
  simp only [source, held]

/-- Without one a lookup is one in the environment. -/
theorem getInt_of_missing (missing : settings.find? area signal.key = none) (fallback : Int64)
    : (settings.source env).getInt area signal.key fallback
      = (ConfigSource.ofEnvironment env).getInt area signal.key fallback := by
  simp only [source, missing]

/-- A lookup gives the number that the layers hold. By cases on the first layer that holds one. -/
theorem resolves_numberIn (settings : Settings) (env : Environment) (signal : Signal)
    : settings.Resolves env signal (numberIn (settings.source env) signal) := by
  unfold numberIn
  cases held : settings.find? area signal.key with
  | some value =>
      rw [getInt_of_held held]
      exact .fromSettings held
  | none =>
      rw [getInt_of_missing held]
      by_cases set : ∃ text, env.bytes? signal.variable = some (Text.encode text)
      · obtain ⟨text, set⟩ := set
        rw [ConfigSource.getInt_of_text (signal.variableName_eq ▸ set)]
        cases reads : ConfigSource.integer? text with
        | some value =>
            exact .fromVariable held set (Text.holds_iff.mpr ⟨value, rfl, reads⟩)
        | none =>
            refine .byDefault held fun other number setToo => ?_
            obtain rfl := Text.encode_injective (Option.some.inj (set.symm.trans setToo))
            exact Text.not_holds_iff.mpr reads number
      · rw [ConfigSource.getInt_of_unset (signal.variableName_eq ▸ not_exists.mp set)]
        exact .byDefault held fun text _ setToo => absurd ⟨text, setToo⟩ set

/-- The layers hold one number for a signal only, by cases on the layers it can come from. -/
theorem Resolves.unique {value number : Int64} (first : settings.Resolves env signal value)
    (second : settings.Resolves env signal number)
    : value = number := by
  cases first with
  | fromSettings held =>
      cases second with
      | fromSettings heldToo => exact Option.some.inj (held.symm.trans heldToo)
      | fromVariable missing _ _ => cases held.symm.trans missing
      | byDefault missing _ => cases held.symm.trans missing
  | fromVariable missing set holds =>
      cases second with
      | fromSettings held => cases held.symm.trans missing
      | fromVariable _ setToo holdsToo =>
          obtain rfl := Text.encode_injective (Option.some.inj (set.symm.trans setToo))
          exact Text.holds_unique holds holdsToo
      | byDefault _ unset => exact absurd holds (unset _ _ set)
  | byDefault missing unset =>
      cases second with
      | fromSettings held => cases held.symm.trans missing
      | fromVariable _ set holds => exact absurd holds (unset _ _ set)
      | byDefault _ _ => rfl

-----------------------------------------------------------------------------------------
-- What a configuration takes from the layers
-----------------------------------------------------------------------------------------

/-- What line numbers are configured over settings with an environment behind them. -/
structure ConfiguresByLayers (settings : Settings) (env : Environment)
    (options : DisplayOptions)
    : Prop where
  /-- Of a signal that is looked up, the number is what the layers hold. -/
  resolved
    : ∀ signal ∈ options.consulted,
        settings.Resolves env signal ((load (settings.source env) options).value.line signal)
  /-- Without a second controller its enable keeps its default. -/
  single
    : options.controllers.isDual = false
      → (load (settings.source env) options).value.line .en2 = Signal.en2.defaultLine
  /-- Without a backlight its number is that of no line. -/
  unlit
    : options.backlight = false
      → (load (settings.source env) options).value.line .backlight = -1
  /-- Of the settings nothing matters but the keys that are looked up, each as it is written, in the
  one section.
  -/
  keyed
    : ∀ other : Settings,
        (∀ signal ∈ options.consulted,
            settings.find? "hd44780" signal.key = other.find? "hd44780" signal.key)
        → load (settings.source env) options = load (other.source env) options
  /-- What the variable holds whose key is in the settings changes neither numbers nor notes. -/
  unread
    : ∀ (signal : Signal) (changed : Environment),
        (settings.find? "hd44780" signal.key).isSome = true
        → (∀ name, name ≠ signal.variable → env.bytes? name = changed.bytes? name)
        → load (settings.source env) options = load (settings.source changed) options
  /-- That variable is never reported. -/
  unreported
    : ∀ (signal : Signal) (text : String) (fallback : Int64),
        (settings.find? "hd44780" signal.key).isSome = true
        → .integerIgnored signal.variable text fallback ∉ (load (settings.source env) options).notes
  /-- Settings that hold nothing leave the environment. -/
  bare
    : load (({} : Settings).source env) options = load (.ofEnvironment env) options
  /-- Layers that hold the same numbers for the keys that are looked up give the same configuration.
  -/
  alike
    : ∀ (other : Settings) (changed : Environment),
        (∀ signal ∈ options.consulted,
            ∀ number, settings.Resolves env signal number ↔ other.Resolves changed signal number)
        → (load (settings.source env) options).value = (load (other.source changed) options).value

/-- Of a signal that is looked up, a configuration has the number that the source holds. By cases on
the signal.
-/
theorem line_of_consulted (source : ConfigSource) (consulted : signal ∈ options.consulted)
    : (load source options).value.line signal = numberIn source signal := by
  rw [PinConfig.line_load]
  cases signal with
  | en2 =>
      have dual : options.controllers.isDual = true := by
        simpa [DisplayOptions.consulted] using consulted
      exact if_pos dual
  | backlight =>
      have lit : options.backlight = true := by simpa [DisplayOptions.consulted] using consulted
      exact if_pos lit
  | _ => rfl

/-- Of a signal that is not looked up, it has the same number from every source. By cases on the
signal.
-/
theorem line_of_not_consulted (source other : ConfigSource)
    (passed : signal ∉ options.consulted)
    : (load source options).value.line signal = (load other options).value.line signal := by
  rw [PinConfig.line_load, PinConfig.line_load]
  cases signal with
  | en2 =>
      have single : options.controllers.isDual = false := by
        simpa [DisplayOptions.consulted] using passed
      simp only [single, Bool.false_eq_true, if_false]
  | backlight =>
      have unlit : options.backlight = false := by simpa [DisplayOptions.consulted] using passed
      simp only [unlit, Bool.false_eq_true, if_false]
  | _ => exact absurd (by simp [DisplayOptions.consulted]) passed

/-- What is noted of a variable that holds no integer is noted of a signal that the settings hold no
number for. By cases on the first layer.
-/
theorem missing_of_reported {name text : String} {fallback : Int64}
    (reported
      : .integerIgnored name text fallback ∈ (lookUp (settings.source env) signal).notes)
    : name = signal.variable ∧ settings.find? area signal.key = none := by
  have member
      : .integerIgnored name text fallback
        ∈ ((settings.source env).getInt area signal.key signal.defaultLine).notes := by
    simpa [lookUp, Journal.note] using reported
  cases held : settings.find? area signal.key with
  | some value =>
      rw [getInt_of_held held] at member
      cases member
  | none =>
      rw [getInt_of_missing held] at member
      obtain ⟨value, silent⟩ | ⟨text, -, -, answer⟩ :=
        ConfigSource.getInt_ofEnvironment_cases env area signal.key signal.defaultLine
      · rw [silent] at member
        cases member
      · rw [answer, List.mem_singleton] at member
        obtain ⟨rfl, -, -⟩ := Note.integerIgnored.inj member
        exact ⟨signal.variableName_eq, rfl⟩

/-- The numbers of lines come from the settings, the environment and the defaults, in this order,
and no layer matters where one before it holds a number.
-/
theorem lines_by_layers (settings : Settings) (env : Environment) (options : DisplayOptions)
    : ConfiguresByLayers settings env options where
  resolved signal consulted := by
    rw [line_of_consulted _ consulted]
    exact resolves_numberIn settings env signal
  single undual := by
    rw [PinConfig.line_load]
    exact if_neg (by simp [undual])
  unlit unasked := by
    rw [PinConfig.line_load]
    exact if_neg (by simp [unasked])
  keyed other same := by
    refine PinConfig.load_congr fun signal consulted => ?_
    have held : settings.find? area signal.key = other.find? area signal.key :=
      same signal consulted
    simp only [source, held]
  unread signal changed held elsewhere := by
    refine PinConfig.load_congr fun other _ => ?_
    cases holds : settings.find? area other.key with
    | some value => rw [getInt_of_held holds, getInt_of_held holds]
    | none =>
        have different : other.variable ≠ signal.variable := by
          intro same
          obtain rfl := Signal.variable_injective same
          exact absurd held (by rw [← PinConfig.area, holds]; decide)
        rw [getInt_of_missing holds, getInt_of_missing holds]
        refine ConfigSource.getInt_ofEnvironment_congr ?_ other.defaultLine
        rw [other.variableName_eq]
        exact elsewhere _ different
  unreported signal text fallback held reported := by
    rw [PinConfig.notes_load, List.mem_flatMap] at reported
    obtain ⟨other, -, reported⟩ := reported
    obtain ⟨same, missing⟩ := missing_of_reported reported
    obtain rfl := Signal.variable_injective same
    exact absurd held (by rw [← PinConfig.area, missing]; decide)
  bare := by
    refine PinConfig.load_congr fun signal _ => getInt_of_missing rfl signal.defaultLine
  alike other changed same := by
    refine PinConfig.eq_of_line fun signal => ?_
    by_cases consulted : signal ∈ options.consulted
    · rw [line_of_consulted _ consulted, line_of_consulted _ consulted]
      have resolves := resolves_numberIn settings env signal
      exact ((same signal consulted _).mp resolves).unique (resolves_numberIn other changed signal)
    · exact line_of_not_consulted _ _ consulted

/-- A number in the settings hides the variable, whatever it holds, and a key in another case hides
nothing.
-/
theorem lines_by_layers_stored_first
    : load
          (source { sections := [("hd44780", [("pin_EN", 5), ("PIN_RS", 9)])] } ⟨[]⟩)
          { backlight := true }
        = load
            (source { sections := [("hd44780", [("pin_EN", 5), ("PIN_RS", 9)])] }
              (.ofList [("HD44780_PIN_EN", Text.encode "off")]))
            { backlight := true }
      ∧ Resolves { sections := [("hd44780", [("pin_EN", 5), ("PIN_RS", 9)])] }
          (.ofList [("HD44780_PIN_RS", Text.encode " +6")]) .rs 6 := by
  constructor
  · refine (lines_by_layers _ _ _).unread .en _ (by decide) fun name unlike => ?_
    exact (Environment.bytes?_concat_of_ne ⟨[]⟩ (by decide) (by decide) unlike).symm
  · have resolved := (lines_by_layers { sections := [("hd44780", [("pin_EN", 5), ("PIN_RS", 9)])] }
      (.ofList [("HD44780_PIN_RS", Text.encode " +6")]) {}).resolved .rs (by decide)
    exact resolved

end Settings

end CharLcd

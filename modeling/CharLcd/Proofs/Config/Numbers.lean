import CharLcd.Proofs.Setup.Rollback

/-! Which numbers a display is set up over.

The numbers of the needed signals are checked in one order, the lines are acquired in another, and
which signals are needed depends on the options. Once the checks have passed there is a line number
for everything that is acquired.
-/

namespace CharLcd

/-- The signals whose configured numbers are checked, in order. The backlight is not among them: a
number that is none of a line means that there is no backlight.
-/
def DisplayOptions.required (options : DisplayOptions) : List Signal :=
  [.en, .rs, .d7, .d6, .d5, .d4] ++ if options.controllers.isDual then [.en2] else []

/-- Two choices of numbers are the same wherever a display with the given options depends on them: for
all signals that are checked, and for a backlight that is asked for, where all numbers that are none
of a backlight line are as good as each other.
-/
structure DisplayOptions.Alike (options : DisplayOptions) (numbers others : Signal → Int64)
    : Prop where
  required : ∀ signal ∈ options.required, numbers signal = others signal
  backlight :
    options.backlight = true
    → numbers .backlight = others .backlight
      ∨ isBacklightLine (numbers .backlight) = false
        ∧ isBacklightLine (others .backlight) = false

/-- The signals that a byte for all controllers drives, in the order in which each is driven first.
-/
def DisplayOptions.driven (options : DisplayOptions) : List Signal :=
  [.rs, .d7, .d6, .d5, .d4, .en] ++ if options.controllers.isDual then [.en2] else []

/-- The numbers that a backlight line can have are the first 32. -/
theorem isBacklightLine_iff {number : Int64}
    : isBacklightLine number = true ↔ 0 ≤ number.toInt ∧ number.toInt < 32 := by
  have low : (0 : Int64).toInt = 0 := rfl
  have high : (32 : Int64).toInt = 32 := rfl
  simp only [isBacklightLine, Bool.and_eq_true, decide_eq_true_eq, Int64.le_iff_toInt_le,
    Int64.lt_iff_toInt_lt, low, high]

namespace PinConfig

/-- The signals whose lines are acquired, in order. -/
def acquired (config : PinConfig) (options : DisplayOptions) : List Signal :=
  [.en, .rs, .d7, .d6, .d5, .d4] ++ (if config.hasBacklight options then [.backlight] else [])
    ++ (if options.controllers.isDual then [.en2] else [])

/-- Whether the configured number of a signal can be that of a line. -/
def isLine (config : PinConfig) (signal : Signal) : Bool :=
  0 ≤ (config.line signal).toInt && (config.line signal).toInt < UInt32.size

/-- The line number of a signal whose configured number can be one. -/
def lineNumber (config : PinConfig) (signal : Signal) : UInt32 :=
  UInt32.ofNat (config.line signal).toInt.toNat

/-- The line numbers of all signals that a display with the given options has. -/
def lineNumbers (config : PinConfig) (options : DisplayOptions) : Wiring UInt32 where
  en := config.lineNumber .en
  rs := config.lineNumber .rs
  d7 := config.lineNumber .d7
  d6 := config.lineNumber .d6
  d5 := config.lineNumber .d5
  d4 := config.lineNumber .d4
  backlight := if config.hasBacklight options then some (config.lineNumber .backlight) else none
  en2 := if options.controllers.isDual then some (config.lineNumber .en2) else none

variable {config : PinConfig} {options : DisplayOptions} {signal : Signal}

/-- Checking a number either finds that of a line or refuses it. -/
theorem number_eq (config : PinConfig) (signal : Signal)
    : config.number signal
      = if config.isLine signal then .ok (config.lineNumber signal)
        else .error (.invalidPin signal (config.line signal)) := by
  simp only [number, isLine, lineNumber, Bool.and_eq_true, decide_eq_true_eq]

/-- The number of a backlight that is switched is always that of a line. -/
theorem isLine_backlight (lit : config.hasBacklight options = true)
    : config.isLine .backlight = true := by
  have inRange := isBacklightLine_iff.mp (Bool.and_eq_true_iff.mp lit).2
  rw [isLine, Bool.and_eq_true, decide_eq_true_eq, decide_eq_true_eq]
  simp only [line, UInt32.size]
  omega

/-- What is answered where the numbers of some signals are checked: the value, or the refusal of the
first number that is none of a line.
-/
def checking {α : Type} (config : PinConfig) (signals : List Signal) (value : α)
    : Except ConnectionError α :=
  match signals.find? (!config.isLine ·) with
  | some signal => .error (.invalidPin signal (config.line signal))
  | none => .ok value

section Checks

variable {α : Type} {value : α} {rest : List Signal}

/-- Checking one number more comes before the checks that follow. -/
theorem number_bind {next : UInt32 → Except ConnectionError α}
    (follow : next (config.lineNumber signal) = config.checking rest value)
    : (do next (← config.number signal)) = config.checking (signal :: rest) value := by
  rw [number_eq]
  cases valid : config.isLine signal with
  | true =>
      simp only [checking, List.find?_cons, valid, Bool.not_true] at follow ⊢
      exact follow
  | false =>
      simp only [checking, List.find?_cons, valid, Bool.not_false]
      rfl

/-- The same for a number that may not be needed. -/
theorem numberIf_bind {needed : Bool} {next : Option UInt32 → Except ConnectionError α}
    (follow
      : next (if needed then some (config.lineNumber signal) else none)
        = config.checking rest value)
    : (do next (← config.numberIf needed signal))
      = config.checking ((if needed then [signal] else []) ++ rest) value := by
  cases needed with
  | false => exact follow
  | true =>
      have mapped
          : (do next (← config.numberIf true signal))
            = (do
                let number ← config.number signal
                next (some number)) := by
        unfold numberIf
        cases config.number signal <;> rfl
      rw [mapped]
      exact number_bind follow

end Checks

/-- The number of the backlight never fails the check, as it is looked at only where it is that of a
line.
-/
theorem numberIf_backlight (config : PinConfig) (options : DisplayOptions)
    : config.numberIf (config.hasBacklight options) .backlight
      = .ok (config.lineNumbers options).backlight := by
  unfold numberIf
  cases lit : config.hasBacklight options with
  | false =>
      simp only [lineNumbers, lit, Bool.false_eq_true, if_false]
      rfl
  | true => simp [lineNumbers, lit, number_eq, isLine_backlight lit]

/-- A display has its numbers just if all that are checked are those of lines, and otherwise the
first other one is reported. Number by number.
-/
theorem wiring_eq_checking (config : PinConfig) (options : DisplayOptions)
    : config.wiring options = config.checking options.required (config.lineNumbers options) := by
  rw [wiring_eq, config.numberIf_backlight]
  refine number_bind (number_bind (number_bind (number_bind (number_bind (number_bind ?_)))))
  rw [← List.append_nil (ite (options.controllers.isDual = true) _ _)]
  exact numberIf_bind rfl

/-- What is acquired are the numbers of the acquired signals. -/
theorem signed_lineNumbers (config : PinConfig) (options : DisplayOptions)
    : (config.lineNumbers options).signed
      = (config.acquired options).map fun signal => (signal, config.lineNumber signal) := by
  unfold lineNumbers acquired Wiring.signed
  cases config.hasBacklight options <;> cases options.controllers.isDual <;> rfl

section Alike

variable {other : PinConfig} (alike : options.Alike config.line other.line)

include alike

/-- Whether there is a backlight is the same where the numbers are. -/
theorem hasBacklight_congr : config.hasBacklight options = other.hasBacklight options := by
  unfold hasBacklight
  cases asked : options.backlight with
  | false => simp only [Bool.false_and]
  | true =>
      rcases alike.backlight asked with same | ⟨none, none'⟩
      · exact congrArg (true && isBacklightLine ·) same
      · exact congrArg (true && ·) (none.trans none'.symm)

/-- A display is set up over the same lines, or refused for the same number. -/
theorem wiring_congr : config.wiring options = other.wiring options := by
  have number {signal : Signal} (same : config.line signal = other.line signal)
      : config.number signal = other.number signal := by
    simp only [PinConfig.number, same]
  have always (signal : Signal) (member : signal ∈ [Signal.en, .rs, .d7, .d6, .d5, .d4])
      : config.number signal = other.number signal :=
    number (alike.required signal (List.mem_append_left _ member))
  have second
      : config.numberIf options.controllers.isDual .en2
        = other.numberIf options.controllers.isDual .en2 := by
    unfold numberIf
    cases dual : options.controllers.isDual with
    | false => simp only [Bool.false_eq_true, if_false]
    | true =>
        have checked : Signal.en2 ∈ options.required := by simp [DisplayOptions.required, dual]
        rw [if_pos rfl, if_pos rfl, number (alike.required _ checked)]
  have lit
      : config.numberIf (config.hasBacklight options) .backlight
        = other.numberIf (config.hasBacklight options) .backlight := by
    unfold numberIf
    cases lit : config.hasBacklight options with
    | false => simp only [Bool.false_eq_true, if_false]
    | true =>
        obtain ⟨asked, enabled⟩ := Bool.and_eq_true_iff.mp lit
        rcases alike.backlight asked with same | ⟨none, _⟩
        · rw [if_pos rfl, if_pos rfl, number same]
        · cases none.symm.trans enabled
  rw [wiring_eq, wiring_eq, ← hasBacklight_congr alike, second, lit, always .en, always .rs,
    always .d7, always .d6, always .d5, always .d4] <;> decide

end Alike

/-- The number that a source holds for a signal. -/
def numberIn (source : ConfigSource) (signal : Signal) : Int64 :=
  (source.getInt area signal.key signal.defaultLine).value

/-- The number that a display is configured with for a signal: that of the source if the display may
have the signal. By cases on the options and the signal.
-/
theorem line_load (source : ConfigSource) (options : DisplayOptions) (signal : Signal)
    : (load source options).value.line signal
      = match signal with
        | .en2 =>
            if options.controllers.isDual then numberIn source .en2 else Signal.en2.defaultLine
        | .backlight => if options.backlight then numberIn source .backlight else noBacklight
        | signal => numberIn source signal := by
  unfold load
  cases options.controllers.isDual <;> cases options.backlight <;> cases signal <;> rfl

/-- Sources that hold the same numbers wherever it matters configure a display alike. -/
theorem alike_load {source other : ConfigSource}
    (alike : options.Alike (numberIn source) (numberIn other))
    : options.Alike (load source options).value.line (load other options).value.line where
  required := by
    intro signal needed
    have same := alike.required signal needed
    rw [line_load, line_load]
    cases signal with
    | en2 => rw [same]
    | backlight => simp [DisplayOptions.required] at needed
    | _ => exact same
  backlight := by
    intro asked
    rw [line_load, line_load]
    simp only [asked, if_true]
    exact alike.backlight asked

end PinConfig

end CharLcd

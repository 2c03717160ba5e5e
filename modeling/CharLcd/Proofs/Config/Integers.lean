import CharLcd.Config.Source
import Mathlib.Data.List.Basic
import Mathlib.Data.List.TakeWhile

/-! The integers that texts hold.

A text holds an integer if it is a decimal numeral of it with blanks around. The reader of numerals
goes through the digits once, after taking a sign off, so it is followed digit by digit; where the
blanks end is told by the first and the last character of the numeral, which are none.
-/

namespace CharLcd

namespace Text

-----------------------------------------------------------------------------------------
-- Numerals
-----------------------------------------------------------------------------------------

/-- One or more ASCII digits. Any number of zeros may come first. -/
structure Digits (digits : List Char) : Prop where
  nonempty : digits ≠ []
  digits : ∀ c ∈ digits, c.isDigit = true

/-- The decimal numerals of an integer: digits that are worth it, after at most one sign. -/
inductive Numeral : List Char → Int → Prop where
  | unsigned {digits : List Char} (some : Digits digits)
    : Numeral digits (Nat.ofDigitChars 10 digits 0)
  | plus {digits : List Char} (some : Digits digits)
    : Numeral ('+' :: digits) (Nat.ofDigitChars 10 digits 0)
  | minus {digits : List Char} (some : Digits digits)
    : Numeral ('-' :: digits) (-Nat.ofDigitChars 10 digits 0)

/-- A text denotes an integer if it is a numeral of it between blanks. -/
def Denotes (text : List Char) (number : Int) : Prop :=
  ∃ before numeral after,
    text = before ++ numeral ++ after
    ∧ (∀ c ∈ before, isBlank c = true)
    ∧ (∀ c ∈ after, isBlank c = true)
    ∧ Numeral numeral number

/-- Digits are read to the number they are worth, by induction on them. -/
theorem digitsValue?_eq_some_iff {value number : Nat} {digits : List Char}
    : digitsValue? value digits = some number
      ↔ (∀ c ∈ digits, c.isDigit = true) ∧ Nat.ofDigitChars 10 digits value = number := by
  induction digits generalizing value with
  | nil => simp [digitsValue?]
  | cons c rest ih =>
      cases digit : c.isDigit with
      | false => simp [digitsValue?, digit]
      | true => simp [digitsValue?, digit, ih, Nat.ofDigitChars_cons]

/-- One or more digits are read to the number they are worth. -/
theorem natural?_eq_some_iff {number : Nat} {digits : List Char}
    : natural? digits = some number
      ↔ Digits digits ∧ Nat.ofDigitChars 10 digits 0 = number := by
  cases digits with
  | nil => simpa [natural?] using fun some : Digits [] => absurd rfl some.nonempty
  | cons c rest =>
      have all : Digits (c :: rest) ↔ ∀ d ∈ c :: rest, d.isDigit = true :=
        ⟨Digits.digits, fun digits => ⟨List.cons_ne_nil c rest, digits⟩⟩
      rw [all]
      exact digitsValue?_eq_some_iff

/-- Digits begin with no sign. -/
theorem Digits.unsigned {digits : List Char} (some : Digits digits)
    : numeral? digits = (natural? digits).map (Int.ofNat ·) := by
  unfold numeral?
  split
  · exact absurd (some.digits '+' List.mem_cons_self) (by decide)
  · exact absurd (some.digits '-' List.mem_cons_self) (by decide)
  · rfl

/-- What is read as an integer are its numerals, by cases on the sign. -/
theorem numeral?_eq_some_iff {text : List Char} {number : Int}
    : numeral? text = some number ↔ Numeral text number := by
  constructor
  · intro reads
    unfold numeral? at reads
    split at reads <;> obtain ⟨magnitude, worth, rfl⟩ := Option.map_eq_some_iff.mp reads
      <;> obtain ⟨some, rfl⟩ := natural?_eq_some_iff.mp worth
    · exact .plus some
    · exact .minus some
    · exact .unsigned some
  · intro numeral
    cases numeral with
    | unsigned some => rw [some.unsigned, natural?_eq_some_iff.mpr ⟨some, rfl⟩]; rfl
    | plus some => simp [numeral?, natural?_eq_some_iff.mpr ⟨some, rfl⟩]
    | minus some => simp [numeral?, natural?_eq_some_iff.mpr ⟨some, rfl⟩]

-----------------------------------------------------------------------------------------
-- Blanks around a numeral
-----------------------------------------------------------------------------------------

/-- A digit is no blank. -/
theorem isBlank_of_isDigit {c : Char} (digit : c.isDigit = true) : isBlank c = false := by
  rw [Char.isDigit_iff_toNat] at digit
  simp only [isBlank, inRanges, blankRanges, List.any_cons, List.any_nil, Bool.or_false,
    Bool.or_eq_false_iff, Bool.and_eq_false_iff, decide_eq_false_iff_not]
  have low : '0'.toNat = 48 := rfl
  have high : '9'.toNat = 57 := rfl
  omega

/-- No character of a numeral is a blank. -/
theorem Numeral.solid {text : List Char} {number : Int} (numeral : Numeral text number)
    : ∀ c ∈ text, isBlank c = false := by
  have solid {digits : List Char} (some : Digits digits) : ∀ c ∈ digits, isBlank c = false :=
    fun c member => isBlank_of_isDigit (some.digits c member)
  cases numeral with
  | unsigned some => exact solid some
  | plus some => exact List.forall_mem_cons.mpr ⟨by decide, solid some⟩
  | minus some => exact List.forall_mem_cons.mpr ⟨by decide, solid some⟩

/-- A numeral has a digit at least. -/
theorem Numeral.nonempty {text : List Char} {number : Int} (numeral : Numeral text number)
    : text ≠ [] := by
  cases numeral with
  | unsigned some => exact some.nonempty
  | plus some => exact List.cons_ne_nil _ _
  | minus some => exact List.cons_ne_nil _ _

/-- A text splits into blanks, what is left of it without them, and blanks. -/
theorem trim_splits (text : List Char)
    : ∃ before after,
        text = before ++ trim text ++ after
        ∧ (∀ c ∈ before, isBlank c = true)
        ∧ ∀ c ∈ after, isBlank c = true := by
  refine ⟨text.takeWhile isBlank, ((trimStart text).reverse.takeWhile isBlank).reverse, ?_, ?_, ?_⟩
  · have whole := List.takeWhile_append_dropWhile (p := isBlank) (l := (trimStart text).reverse)
    have backwards := congrArg List.reverse whole
    rw [List.reverse_append, List.reverse_reverse] at backwards
    rw [List.append_assoc, trim, trimEnd, backwards]
    exact List.takeWhile_append_dropWhile.symm
  · exact fun c member => List.mem_takeWhile_imp member
  · exact fun c member => List.mem_takeWhile_imp (List.mem_reverse.mp member)

/-- Blanks in front are left out up to the first other character. -/
theorem trimStart_padded {before text : List Char} (blank : ∀ c ∈ before, isBlank c = true)
    (solid : ∀ c ∈ text.head?, isBlank c = false)
    : trimStart (before ++ text) = text := by
  rw [trimStart, List.dropWhile_append_of_pos blank]
  cases text with
  | nil => rfl
  | cons c text => simp [solid c rfl]

/-- Without the blanks around it, a text without blanks in it is left. -/
theorem trim_padded {before text after : List Char} (blank : ∀ c ∈ before, isBlank c = true)
    (blankAfter : ∀ c ∈ after, isBlank c = true) (some : text ≠ [])
    (solid : ∀ c ∈ text, isBlank c = false)
    : trim (before ++ text ++ after) = text := by
  obtain ⟨c, rest, rfl⟩ := List.exists_cons_of_ne_nil some
  have front : trimStart (before ++ c :: rest ++ after) = c :: rest ++ after := by
    rw [List.append_assoc]
    exact trimStart_padded blank fun d member => solid d (by simp_all)
  have back : trimStart (after.reverse ++ (c :: rest).reverse) = (c :: rest).reverse :=
    trimStart_padded (fun d member => blankAfter d (List.mem_reverse.mp member)) fun d member =>
      solid d (List.mem_reverse.mp (List.mem_of_mem_head? member))
  rw [trim, front, trimEnd, List.reverse_append]
  exact (congrArg List.reverse back).trans (List.reverse_reverse _)

-----------------------------------------------------------------------------------------
-- Integers of 64 bits
-----------------------------------------------------------------------------------------

/-- The integers of 64 bits are those in their range. -/
theorem toInt64?_eq_some_iff {number : Int} {value : Int64}
    : toInt64? number = some value ↔ value.toInt = number := by
  unfold toInt64?
  constructor
  · intro fits
    split at fits
    · rename_i range
      obtain rfl := Option.some.inj fits
      exact Int64.toInt_ofInt_of_le range.1 (Int.lt_add_one_of_le range.2)
    · cases fits
  · rintro rfl
    rw [if_pos ⟨value.minValue_le_toInt, value.toInt_le⟩, Int64.ofInt_toInt]

/-- The decimal digits of a number are one or more digits. -/
theorem digits_toDigits (number : Nat) : Digits (Nat.toDigits 10 number) :=
  ⟨Nat.toDigits_ne_nil, fun _ => Nat.isDigit_of_mem_toDigits (by decide) (by decide)⟩

/-- The decimal text of an integer is a numeral of it. -/
theorem numeral_toString (number : Int) : Numeral (toString number).toList number := by
  cases number with
  | ofNat magnitude =>
      have written : toString (Int.ofNat magnitude) = magnitude.repr := rfl
      have numeral := Numeral.unsigned (digits_toDigits magnitude)
      rw [Nat.ofDigitChars_ten_toDigits] at numeral
      rwa [written, Nat.toList_repr]
  | negSucc magnitude =>
      have written : toString (Int.negSucc magnitude) = "-" ++ (magnitude + 1).repr := rfl
      have numeral := Numeral.minus (digits_toDigits (magnitude + 1))
      rw [Nat.ofDigitChars_ten_toDigits] at numeral
      rw [written, String.toList_append, Nat.toList_repr]
      exact numeral

/-- What a variable is taken for are the integers of 64 bits that its text denotes. -/
theorem integer?_eq_some_iff {text : String} {value : Int64}
    : ConfigSource.integer? text = some value ↔ Denotes text.toList value.toInt := by
  rw [ConfigSource.integer?, int64?, Option.bind_eq_some_iff]
  simp only [toInt64?_eq_some_iff, numeral?_eq_some_iff]
  constructor
  · rintro ⟨number, numeral, rfl⟩
    obtain ⟨before, after, splits, blank, blankAfter⟩ := trim_splits text.toList
    exact ⟨before, _, after, splits, blank, blankAfter, numeral⟩
  · rintro ⟨before, numeral, after, splits, blank, blankAfter, denotes⟩
    refine ⟨value.toInt, ?_, rfl⟩
    rw [splits, trim_padded blank blankAfter denotes.nonempty denotes.solid]
    exact denotes

/-- A text holds an integer that fits into 64 bits with a sign. -/
def Holds (text : String) (number : Int) : Prop :=
  Denotes text.toList number ∧ -0x8000000000000000 ≤ number ∧ number < 0x8000000000000000

/-- The integers that texts hold are those that variables are taken for. -/
theorem holds_iff {text : String} {number : Int}
    : Holds text number
      ↔ ∃ value : Int64, value.toInt = number ∧ ConfigSource.integer? text = some value := by
  simp only [integer?_eq_some_iff]
  constructor
  · rintro ⟨denotes, least, below⟩
    have fits := Int64.toInt_ofInt_of_le (by omega) below
    exact ⟨Int64.ofInt number, fits, fits.symm ▸ denotes⟩
  · rintro ⟨value, rfl, denotes⟩
    exact ⟨denotes, value.le_toInt, value.toInt_lt⟩

/-- A text holds one integer only. -/
theorem holds_unique {text : String} {value other : Int64} (first : Holds text value.toInt)
    (second : Holds text other.toInt)
    : value = other :=
  Option.some.inj
    ((integer?_eq_some_iff.mpr first.1).symm.trans (integer?_eq_some_iff.mpr second.1))

/-- A text without an integer is none that a variable is taken for. -/
theorem not_holds_iff {text : String}
    : (∀ number, ¬Holds text number) ↔ ConfigSource.integer? text = none := by
  simp only [holds_iff, Option.eq_none_iff_forall_ne_some, not_exists, not_and]
  exact ⟨fun refused value => refused _ value rfl, fun refused _ value _ => refused value⟩

end Text

-----------------------------------------------------------------------------------------
-- Lookups in an environment
-----------------------------------------------------------------------------------------

/-- An environment with one variable more at its end holds what it held before under every other
name, if there is only one equals sign in the text of the new one.
-/
theorem Environment.bytes?_concat_of_ne (env : Environment) {name other : String} {value : Bytes}
    (named : (0x3d : UInt8) ∉ Text.encode other) (plain : (0x3d : UInt8) ∉ value)
    (unlike : name ≠ other)
    : bytes? ⟨env.entries ++ [opening other ++ value]⟩ name
      = env.bytes? name := by
  have none_after
      : Bytes.after? (opening name) (opening other ++ value) = none := by
    rw [Option.eq_none_iff_forall_ne_some]
    intro rest begins
    rw [Bytes.after?_eq_some_iff] at begins
    simp only [opening, List.append_assoc, List.singleton_append] at begins
    have same := ((List.append_cons_inj_of_notMem named plain).mp begins).1
    exact unlike (Text.encode_injective same).symm
  simp [bytes?, List.findSome?_append, none_after]

namespace ConfigSource

open Text (Holds isBlank)

/-- A lookup reads nothing of the environment but its own variable. -/
theorem getInt_ofEnvironment_congr {env other : Environment} {area key : String}
    (same : env.bytes? (variableName area key) = other.bytes? (variableName area key))
    (fallback : Int64)
    : (ofEnvironment env).getInt area key fallback
      = (ofEnvironment other).getInt area key fallback := by
  simp only [ofEnvironment, Environment.text?, same]

/-- What a lookup in an environment answers, by what its variable holds. A variable whose bytes are
not those of any text counts as one that is not set.
-/
structure AnswersFromVariable (env : Environment) (area key : String) (fallback : Int64)
    : Prop where
  /-- It answers with the integer in the text of the variable. -/
  accepted
    : ∀ text number,
        env.bytes? (variableName area key) = some (Text.encode text)
        → Holds text number
        → ∃ value : Int64,
            value.toInt = number ∧ (ofEnvironment env).getInt area key fallback = pure value
  /-- A text that holds none is reported, and the given value is the answer. -/
  ignored
    : ∀ text,
        env.bytes? (variableName area key) = some (Text.encode text)
        → (∀ number, ¬Holds text number)
        → (ofEnvironment env).getInt area key fallback
          = ⟨fallback, [.integerIgnored (variableName area key) text fallback]⟩
  /-- Without a text the given value is the answer, and nothing is reported. -/
  unset
    : (∀ text, env.bytes? (variableName area key) ≠ some (Text.encode text))
      → (ofEnvironment env).getInt area key fallback = pure fallback
  /-- There is a warning exactly if a text holds no integer. -/
  warned
    : (∃ entry ∈ ((ofEnvironment env).getInt area key fallback).notes, entry.severity = .warn)
      ↔ ∃ text,
          env.bytes? (variableName area key) = some (Text.encode text)
          ∧ ∀ number, ¬Holds text number
  /-- There is at most one. -/
  once : ((ofEnvironment env).getInt area key fallback).notes.length ≤ 1
  /-- Every integer is read back from its decimal text, with any blanks around it. -/
  printed
    : ∀ (value : Int64) (before after : List Char),
        (∀ c ∈ before, isBlank c = true)
        → (∀ c ∈ after, isBlank c = true)
        → env.bytes? (variableName area key)
          = some
              (Text.encode (String.ofList before ++ Text.int64Text value ++ String.ofList after))
        → (ofEnvironment env).getInt area key fallback = pure value

/-- What a lookup answers if its variable holds a text. -/
theorem getInt_of_text {env : Environment} {area key text : String}
    (set : env.bytes? (variableName area key) = some (Text.encode text)) (fallback : Int64)
    : (ofEnvironment env).getInt area key fallback
      = match integer? text with
        | some value => pure value
        | none => ⟨fallback, [.integerIgnored (variableName area key) text fallback]⟩ := by
  simp only [ofEnvironment, Environment.text?, set, Option.bind_some, Text.decode?_encode]
  cases integer? text <;> rfl

/-- What a lookup answers if its variable holds none. -/
theorem getInt_of_unset {env : Environment} {area key : String}
    (unset : ∀ text, env.bytes? (variableName area key) ≠ some (Text.encode text))
    (fallback : Int64)
    : (ofEnvironment env).getInt area key fallback = pure fallback := by
  have none : env.text? (variableName area key) = none := by
    rw [Environment.text?, Option.bind_eq_none_iff]
    intro bytes set
    rw [Option.eq_none_iff_forall_ne_some]
    intro text decodes
    exact unset text (Text.decode?_eq_some_iff.mp decodes ▸ set)
  simp only [ofEnvironment, none]

/-- A lookup notes nothing, or that the text of its variable holds no integer. By cases on whether
there is a text and an integer in it.
-/
theorem getInt_ofEnvironment_cases (env : Environment) (area key : String) (fallback : Int64)
    : (∃ value, (ofEnvironment env).getInt area key fallback = pure value)
      ∨ ∃ text,
          env.bytes? (variableName area key) = some (Text.encode text)
          ∧ (∀ number, ¬Holds text number)
          ∧ (ofEnvironment env).getInt area key fallback
            = ⟨fallback, [.integerIgnored (variableName area key) text fallback]⟩ := by
  by_cases set : ∃ text, env.bytes? (variableName area key) = some (Text.encode text)
  · obtain ⟨text, set⟩ := set
    rw [getInt_of_text set]
    cases reads : integer? text with
    | some value => exact .inl ⟨value, rfl⟩
    | none => exact .inr ⟨text, set, Text.not_holds_iff.mpr reads, rfl⟩
  · exact .inl ⟨fallback, getInt_of_unset (not_exists.mp set) fallback⟩

/-- An environment is asked for the integers in the texts of its variables, and a text without one
is reported once.
-/
theorem integers_of_variables (env : Environment) (area key : String) (fallback : Int64)
    : AnswersFromVariable env area key fallback := by
  have accepted (text : String) (value : Int64)
      (set : env.bytes? (variableName area key) = some (Text.encode text))
      (reads : integer? text = some value)
      : (ofEnvironment env).getInt area key fallback = pure value := by
    rw [getInt_of_text set, reads]
  have ignored (text : String)
      (set : env.bytes? (variableName area key) = some (Text.encode text))
      (refused : ∀ number, ¬Holds text number)
      : (ofEnvironment env).getInt area key fallback
        = ⟨fallback, [.integerIgnored (variableName area key) text fallback]⟩ := by
    rw [getInt_of_text set, Text.not_holds_iff.mp refused]
  have noted := getInt_ofEnvironment_cases env area key fallback
  refine ⟨?_, ignored, fun unset => getInt_of_unset unset fallback, ⟨?_, ?_⟩, ?_, ?_⟩
  · intro text number set holds
    obtain ⟨value, rfl, reads⟩ := Text.holds_iff.mp holds
    exact ⟨value, rfl, accepted text value set reads⟩
  · rintro ⟨entry, member, -⟩
    obtain ⟨value, silent⟩ | ⟨text, set, refused, -⟩ := noted
    · rw [silent] at member
      cases member
    · exact ⟨text, set, refused⟩
  · rintro ⟨text, set, refused⟩
    rw [ignored text set refused]
    exact ⟨_, List.mem_singleton_self _, rfl⟩
  · obtain ⟨value, answer⟩ | ⟨text, -, -, answer⟩ := noted <;> rw [answer]
    · exact Nat.zero_le 1
    · exact Nat.le_refl 1
  · intro value before after blank blankAfter set
    refine accepted _ value set (Text.integer?_eq_some_iff.mpr ⟨before, _, after, ?_, blank,
      blankAfter, Text.numeral_toString value.toInt⟩)
    simp [Text.int64Text]

/-- The least integer is read between two blanks beyond ASCII, and a minus sign without digits after
it is reported.
-/
theorem integers_of_variables_least
    : (ofEnvironment
            (.ofList [("HD44780_PIN_EN", Text.encode "\u3000-9223372036854775808\u00a0")])).getInt
            "hd44780" "pin_EN" 8
          = pure Int64.minValue
      ∧ ∃ entry ∈
          ((ofEnvironment (.ofList [("HD44780_PIN_EN", Text.encode " -")])).getInt
            "hd44780" "pin_EN" 8).notes,
          entry.severity = .warn := by
  constructor
  · exact (integers_of_variables _ "hd44780" "pin_EN" 8).printed Int64.minValue ['\u3000']
      ['\u00a0'] (List.forall_mem_singleton.mpr (by decide))
      (List.forall_mem_singleton.mpr (by decide)) (by decide)
  · exact (integers_of_variables _ "hd44780" "pin_EN" 8).warned.mpr
      ⟨" -", by decide, Text.not_holds_iff.mpr (by decide)⟩

end ConfigSource

end CharLcd

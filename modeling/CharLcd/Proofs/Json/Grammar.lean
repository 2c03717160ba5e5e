import CharLcd.Config.Json.Value
import CharLcd.Proofs.Config.Integers

/-! The texts that JSON allows.

They are put together from their parts, with no reader in mind: what stands for a text or an integer
of a known kind, and what any value at all can look like. Blanks may stand around every part.
-/

namespace CharLcd.Json

-----------------------------------------------------------------------------------------
-- Blanks and strings
-----------------------------------------------------------------------------------------

/-- Any number of blanks. -/
def Blanks (text : Bytes) : Prop :=
  ∀ b ∈ text, isBlank b = true

/-- No blanks at all are blanks. -/
theorem blanks_nil : Blanks [] :=
  fun _ member => nomatch member

/-- What can follow a value: nothing, a blank, a comma or what closes a list or an object. -/
def Ends (text : Bytes) : Prop :=
  ∀ b ∈ text.head?, b ∈ word " \n\t\r,]\x7d"

/-- The hexadecimal digits of a value, the small one and the capital. -/
def HexForm (value : Nat) (b : UInt8) : Prop :=
  (word "0123456789abcdef")[value]? = some b ∨ (word "0123456789ABCDEF")[value]? = some b

/-- The four hexadecimal digits of a unit. -/
inductive UnitForm : Nat → Bytes → Prop where
  | digits {p q r s : Nat} {a b c d : UInt8} (first : HexForm p a) (second : HexForm q b)
      (third : HexForm r c) (fourth : HexForm s d)
    : UnitForm (((p * 16 + q) * 16 + r) * 16 + s) [a, b, c, d]

/-- The letters after a backslash that stand for one character, and the character. -/
def shortEscapes : List (Char × Char) :=
  [('"', '"'), ('\\', '\\'), ('/', '/'), ('b', '\x08'), ('f', '\x0c'), ('n', '\n'), ('r', '\r'),
    ('t', '\t')]

/-- The ways to write a character in a string: as it is, if it is neither a control character nor a
quote nor a backslash; by a letter; or by the units of its UTF-16 encoding.
-/
inductive CharForm : Char → Bytes → Prop where
  | plain {c : Char} (printable : 0x20 ≤ c.toNat) (unquoted : c ≠ '"') (unescaped : c ≠ '\\')
    : CharForm c (String.utf8EncodeChar c)
  | short {letter c : Char} (listed : (letter, c) ∈ shortEscapes)
    : CharForm c [ascii '\\', ascii letter]
  | unit {c : Char} {digits : Bytes} (worth : UnitForm c.toNat digits)
    : CharForm c (ascii '\\' :: ascii 'u' :: digits)
  | pair {c : Char} {high low : Bytes} (beyond : 0x10000 ≤ c.toNat)
      (first : UnitForm (0xd800 + (c.toNat - 0x10000) / 0x400) high)
      (second : UnitForm (0xdc00 + (c.toNat - 0x10000) % 0x400) low)
    : CharForm c (ascii '\\' :: ascii 'u' :: (high ++ ascii '\\' :: ascii 'u' :: low))

/-- The ways to write the inside of a string that stands for a text. -/
inductive StringForm : List Char → Bytes → Prop where
  | nil : StringForm [] []
  | cons {c : Char} {chars : List Char} {text more : Bytes} (first : CharForm c text)
      (others : StringForm chars more)
    : StringForm (c :: chars) (text ++ more)

/-- The inside of a string that need not stand for a text: its bytes beyond ASCII may be any, and
its units may be halves of pairs.
-/
inductive StringText : Bytes → Prop where
  | nil : StringText []
  | plain {b : UInt8} {more : Bytes} (printable : 0x20 ≤ b) (unquoted : b ≠ ascii '"')
      (unescaped : b ≠ ascii '\\') (others : StringText more)
    : StringText (b :: more)
  | short {letter c : Char} {more : Bytes} (listed : (letter, c) ∈ shortEscapes)
      (others : StringText more)
    : StringText (ascii '\\' :: ascii letter :: more)
  | unit {unit : Nat} {digits more : Bytes} (worth : UnitForm unit digits)
      (others : StringText more)
    : StringText (ascii '\\' :: ascii 'u' :: (digits ++ more))

/-- A string with the given inside. -/
def quoted (inside : Bytes) : Bytes :=
  ascii '"' :: (inside ++ [ascii '"'])

-----------------------------------------------------------------------------------------
-- Truth values and numbers
-----------------------------------------------------------------------------------------

/-- The word for a truth value. -/
def BoolForm (value : Bool) (text : Bytes) : Prop :=
  text = word (if value then "true" else "false")

/-- The digits of a whole number: a single zero, or digits that do not begin with zero. -/
inductive WholeText : List Char → Prop where
  | zero : WholeText ['0']
  | unpadded {digits : List Char} (unpadded : digits.head? ≠ some '0') (some : Text.Digits digits)
    : WholeText digits

/-- The numeral of an integer. Zero has no sign, as with one it would count as fractional. -/
inductive IntegerForm : Int → Bytes → Prop where
  | natural {digits : List Char} (whole : WholeText digits)
    : IntegerForm (Nat.ofDigitChars 10 digits 0) (digits.map ascii)
  | negative {digits : List Char} (whole : WholeText digits)
      (positive : 0 < Nat.ofDigitChars 10 digits 0)
    : IntegerForm (-Nat.ofDigitChars 10 digits 0) (ascii '-' :: digits.map ascii)

/-- The numeral of a 64-bit integer. -/
def Int64Form (value : Int64) : Bytes → Prop :=
  IntegerForm value.toInt

/-- The fraction of a number, if it has one. -/
inductive FractionText : List Char → Prop where
  | none : FractionText []
  | some {digits : List Char} (some : Text.Digits digits) : FractionText ('.' :: digits)

/-- The exponent of a number, if it has one. -/
inductive ExponentText : List Char → Prop where
  | none : ExponentText []
  | some {mark : Char} {sign digits : List Char} (marked : mark ∈ ['e', 'E'])
      (signed : sign ∈ [[], ['+'], ['-']]) (some : Text.Digits digits)
    : ExponentText (mark :: (sign ++ digits))

/-- A number of any size and precision. -/
inductive NumberText : Bytes → Prop where
  | parts {sign whole fraction exponent : List Char} (signed : sign ∈ [[], ['-']])
      (digits : WholeText whole) (point : FractionText fraction) (power : ExponentText exponent)
    : NumberText ((sign ++ (whole ++ (fraction ++ exponent))).map ascii)

-----------------------------------------------------------------------------------------
-- Lists and objects
-----------------------------------------------------------------------------------------

variable {ι α β : Type}

/-- What stands before an item: blanks, and before each but the first a comma among them. -/
inductive Separator : Bool → Bytes → Prop where
  | first {lead : Bytes} (blank : Blanks lead) : Separator true lead
  | next {before after : Bytes} (blank : Blanks before) (blankToo : Blanks after)
    : Separator false (before ++ ascii ',' :: after)

/-- Items in a row, each in one of its forms. -/
inductive Joined (form : ι → Bytes → Prop) : Bool → List ι → Bytes → Prop where
  | nil {first : Bool} : Joined form first [] []
  | cons {first : Bool} {lead text more : Bytes} {item : ι} {items : List ι}
      (separator : Separator first lead) (written : form item text)
      (others : Joined form false items more)
    : Joined form first (item :: items) (lead ++ (text ++ more))

/-- Items in a row between an opening and a closing character. -/
inductive Grouped (form : ι → Bytes → Prop) (opening closing : Char) (items : List ι)
    : Bytes → Prop where
  | enclosed {inside pad : Bytes} (joined : Joined form true items inside) (blank : Blanks pad)
    : Grouped form opening closing items (ascii opening :: (inside ++ (pad ++ [ascii closing])))

/-- A colon and a value after it. -/
inductive Assigned (form : Bytes → Prop) : Bytes → Prop where
  | value {before after text : Bytes} (blank : Blanks before) (blankToo : Blanks after)
      (written : form text)
    : Assigned form (before ++ ascii ':' :: (after ++ text))

/-- A name, a colon and a value. -/
inductive Named (name value : Bytes → Prop) : Bytes → Prop where
  | member {inside text : Bytes} (named : name inside) (assigned : Assigned value text)
    : Named name value (quoted inside ++ text)

/-- The name of an item and its value. -/
def MemberForm (nameOf : ι → String) (form : ι → Bytes → Prop) (item : ι) : Bytes → Prop :=
  Named (StringForm (nameOf item).toList) (form item)

/-- An object of items that have a name and a value each. -/
def ObjectForm (nameOf : ι → String) (form : ι → Bytes → Prop) : List ι → Bytes → Prop :=
  Grouped (MemberForm nameOf form) '\x7b' '\x7d'

/-- An object of values under names, all of one kind. -/
def EntriesForm (form : α → Bytes → Prop) : List (String × α) → Bytes → Prop :=
  ObjectForm Prod.fst fun entry => form entry.2

/-- A value of any kind, with lists and objects nested in it up to some depth. -/
inductive ValueText : Nat → Bytes → Prop where
  | word {depth : Nat} {name : String} (listed : name ∈ ["null", "true", "false"])
    : ValueText depth (word name)
  | number {depth : Nat} {text : Bytes} (number : NumberText text) : ValueText depth text
  | string {depth : Nat} {inside : Bytes} (string : StringText inside)
    : ValueText depth (quoted inside)
  | list {depth : Nat} {elements : List Bytes} {text : Bytes}
      (values : ∀ element ∈ elements, ValueText depth element)
      (grouped : Grouped Eq '[' ']' elements text)
    : ValueText (depth + 1) text
  | object {depth : Nat} {members : List (Bytes × Bytes)} {text : Bytes}
      (names : ∀ member ∈ members, StringText member.1)
      (values : ∀ member ∈ members, ValueText depth member.2)
      (grouped
        : Grouped (fun member => Named (Eq member.1) (Eq member.2)) '\x7b' '\x7d' members text)
    : ValueText (depth + 1) text

/-- The depth to which values may be nested in a document. -/
def nestingLimit : Nat :=
  127

-----------------------------------------------------------------------------------------
-- Reading what is written
-----------------------------------------------------------------------------------------

/-- A reader reads a text as a value: it does so after any blanks, and leaves whatever follows. -/
def Reads (read : Bytes → Except Refusal (α × Bytes)) (text : Bytes) (value : α) : Prop :=
  ∀ before rest,
    Blanks before → Ends rest → read (before ++ (text ++ rest)) = .ok (value, rest)

/-- A reader reads back what is written: every value, in whichever of its forms it is. -/
def ReadsBack (form : α → Bytes → Prop) (read : Bytes → Except Refusal (β × Bytes))
    (valueOf : α → β)
    : Prop :=
  ∀ value text, form value text → Reads read text (valueOf value)

end CharLcd.Json

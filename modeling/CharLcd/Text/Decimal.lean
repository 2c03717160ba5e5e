/-! Decimal numerals and the 64-bit integers they stand for.

A numeral is an optional sign followed by one or more ASCII digits. It is accepted as an integer
when the number it denotes fits into 64 bits with a sign.
-/

namespace CharLcd.Text

/-- The number a run of decimal digits stands for, read after digits worth `value`. `none` if some
character is not an ASCII digit.
-/
def digitsValue? (value : Nat) : List Char → Option Nat
  | [] => some value
  | c :: rest =>
      if c.isDigit then digitsValue? (10 * value + (c.toNat - '0'.toNat)) rest else none

/-- The number denoted by one or more digits. -/
def natural? : List Char → Option Nat
  | [] => none
  | digits => digitsValue? 0 digits

/-- The number denoted by an optional sign and one or more digits. -/
def numeral? : List Char → Option Int
  | '+' :: digits => (natural? digits).map (Int.ofNat ·)
  | '-' :: digits => (natural? digits).map (-Int.ofNat ·)
  | digits => (natural? digits).map (Int.ofNat ·)

/-- The integer as a 64-bit one, if it is in range. -/
def toInt64? (number : Int) : Option Int64 :=
  if Int64.minValue.toInt ≤ number ∧ number ≤ Int64.maxValue.toInt then
    some (Int64.ofInt number)
  else
    none

/-- The 64-bit integer a numeral denotes. -/
def int64? (text : List Char) : Option Int64 :=
  (numeral? text).bind toInt64?

/-- The decimal text of a 64-bit integer, without leading zeros or a plus sign. -/
def int64Text (number : Int64) : String :=
  toString number.toInt

end CharLcd.Text

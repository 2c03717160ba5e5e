import CharLcd.Config.Json.Text

/-! Numbers of a JSON text.

Only integers matter to a reader of a configuration, but a fraction or an exponent has to be read to
its end, and a number beyond the range of double precision is refused as malformed. Whether it is
beyond the range is decided on the digits that fit into 64 bits, in exact arithmetic.
-/

namespace CharLcd.Json

/-- Whether a byte is a decimal digit. -/
def isDigit (b : UInt8) : Bool :=
  ascii '0' ≤ b && b ≤ ascii '9'

/-- The value of a decimal digit. -/
def digitValue (b : UInt8) : Nat :=
  b.toNat - 0x30

/-- The number a run of digits stands for, read after digits worth `value`. -/
def digitsValue (value : Nat) (digits : Bytes) : Nat :=
  digits.foldl (fun value b => 10 * value + digitValue b) value

/-- The largest number of 64 bits. -/
def largestWord : Nat :=
  Nat.pow 2 64 - 1

/-- Takes digits for as long as the number stays within 64 bits. Gives that number and the digits
not taken.
-/
def gather (value : Nat) : Bytes → Nat × Bytes
  | [] => (value, [])
  | b :: digits =>
      let next := 10 * value + digitValue b
      if next ≤ largestWord then gather next digits else (value, b :: digits)

/-- The nearest number of at most 53 significant bits, the even one of two equally near. -/
def roundToDouble (number : Nat) : Nat :=
  if number < Nat.pow 2 53 then number
  else
    let shift := number.log2 - 52
    let quotient := number / Nat.pow 2 shift
    let remainder := number % Nat.pow 2 shift
    let half := Nat.pow 2 (shift - 1)
    let up := half < remainder || (remainder = half && quotient % 2 = 1)
    (if up then quotient + 1 else quotient) * Nat.pow 2 shift

/-- Whether a number and a power of ten, each rounded to double precision, have a product that is
beyond every double.
-/
def exceedsDouble (significand : Nat) (exponent : Int) : Bool :=
  if exponent ≤ 0 then false
  else if 308 < exponent then significand ≠ 0
  else
    Nat.pow 2 1024 - Nat.pow 2 970
      ≤ roundToDouble significand * roundToDouble (Nat.pow 10 exponent.toNat)

/-- A number as far as a reader of integers is concerned. -/
inductive Number where
  | integer (value : Int)
  | fractional
deriving DecidableEq, Repr

/-- A number with a fraction, an exponent or too many digits, unless it is beyond every double. -/
def fractional (significand : Nat) (exponent : Int) (rest : Bytes)
    : Except Refusal (Number × Bytes) :=
  if exceedsDouble significand exponent then .error .malformed else .ok (.fractional, rest)

/-- The largest exponent that is counted exactly. -/
def largestExponent : Nat :=
  Nat.pow 2 31 - 1

/-- Splits the sign off an exponent: whether it is negative, and its digits. -/
def exponentSign : Bytes → Bool × Bytes
  | b :: rest =>
      if b = ascii '-' then (true, rest)
      else if b = ascii '+' then (false, rest)
      else (false, b :: rest)
  | [] => (false, [])

/-- Reads what follows the letter of an exponent. -/
def readExponent (significand : Nat) (exponent : Int) (text : Bytes)
    : Except Refusal (Number × Bytes) :=
  let (negative, text) := exponentSign text
  let digits := text.takeWhile isDigit
  let rest := text.dropWhile isDigit
  if digits.isEmpty then
    .error (if text.isEmpty then .truncated else .malformed)
  else
    let value := digitsValue 0 digits
    if largestExponent < value then
      if significand ≠ 0 && !negative then .error .malformed else .ok (.fractional, rest)
    else
      fractional significand (if negative then exponent - value else exponent + value) rest

/-- Reads an exponent, if one follows. -/
def readOptionalExponent (significand : Nat) (exponent : Int) (text : Bytes)
    : Except Refusal (Number × Bytes) :=
  match text with
  | b :: rest =>
      if b = ascii 'e' || b = ascii 'E' then readExponent significand exponent rest
      else fractional significand exponent text
  | [] => fractional significand exponent text

/-- Reads what follows the point of a number. -/
def readFraction (significand : Nat) (exponent : Int) (text : Bytes)
    : Except Refusal (Number × Bytes) :=
  let digits := text.takeWhile isDigit
  let rest := text.dropWhile isDigit
  if digits.isEmpty then
    .error (if text.isEmpty then .truncated else .malformed)
  else
    let (significand, left) := gather significand digits
    let taken := digits.length - left.length
    readOptionalExponent significand (exponent - taken) rest

/-- The integer of a sign and a magnitude. Zero with a minus sign is no integer. -/
def signed (negative : Bool) (magnitude : Nat) : Number :=
  if negative then if magnitude = 0 then .fractional else .integer (-magnitude)
  else .integer magnitude

/-- The digits of a whole number at the front of a text: a single zero, or a run of digits that
does not begin with zero.
-/
def wholeDigits (text : Bytes) : Except Refusal (Bytes × Bytes) :=
  match text with
  | [] => .error .truncated
  | b :: rest =>
      if b = ascii '0' then
        match rest with
        | c :: _ => if isDigit c then .error .malformed else .ok ([b], rest)
        | [] => .ok ([b], rest)
      else if isDigit b then .ok (text.takeWhile isDigit, text.dropWhile isDigit)
      else .error .malformed

/-- Reads a number whose sign was read. -/
def readNumber (negative : Bool) (text : Bytes) : Except Refusal (Number × Bytes) := do
  let (digits, rest) ← wholeDigits text
  let (significand, left) := gather 0 digits
  let exponent : Int := left.length
  match rest with
  | b :: more =>
      if b = ascii '.' then readFraction significand exponent more
      else if b = ascii 'e' || b = ascii 'E' then readExponent significand exponent more
      else if left.isEmpty then return (signed negative significand, rest)
      else fractional significand exponent rest
  | [] =>
      if left.isEmpty then return (signed negative significand, rest)
      else fractional significand exponent rest

/-- Passes over a run of at least one digit. -/
def skipDigits (text : Bytes) : Except Refusal Bytes :=
  if (text.takeWhile isDigit).isEmpty then .error .malformed else .ok (text.dropWhile isDigit)

/-- Passes over an exponent, if one follows. -/
def skipExponent (text : Bytes) : Except Refusal Bytes :=
  match text with
  | b :: rest =>
      if b = ascii 'e' || b = ascii 'E' then skipDigits (exponentSign rest).2 else .ok text
  | [] => .ok text

/-- Passes over a number whose sign was read. A number cut short counts as malformed here, also at
the end of the text, and no number is too large.
-/
def skipNumber (text : Bytes) : Except Refusal Bytes :=
  match wholeDigits text with
  | .error _ => .error .malformed
  | .ok (_, rest) =>
      match rest with
      | b :: more => if b = ascii '.' then skipDigits more >>= skipExponent else skipExponent rest
      | [] => .ok rest

end CharLcd.Json

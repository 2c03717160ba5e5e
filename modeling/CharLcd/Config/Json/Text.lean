import CharLcd.Text.Utf8

/-! The parts of a JSON text that hold no other values: blanks, fixed words and strings.

A text is read byte by byte from the left, and the first thing wrong with it decides how the
document is refused.
-/

namespace CharLcd.Json

/-- Why a document is refused. -/
inductive Refusal where
  /-- The document could not be read at all. -/
  | unreadable
  /-- The text is not JSON. -/
  | malformed
  /-- The text is JSON, or was up to here, but holds a value of another kind than asked for. -/
  | mismatched
  /-- The text ends where more is needed. -/
  | truncated
deriving DecidableEq, Repr

/-- The identifier of a refusal in structured output. -/
def Refusal.name : Refusal → String
  | unreadable => "Io"
  | malformed => "Syntax"
  | mismatched => "Data"
  | truncated => "Eof"

/-- The byte of an ASCII character. -/
def ascii (c : Char) : UInt8 :=
  c.toNat.toUInt8

/-- The bytes of an ASCII text. -/
def word (text : String) : Bytes :=
  text.toList.map ascii

/-- The four bytes that may stand between the parts of a document. -/
def isBlank (b : UInt8) : Bool :=
  b = 0x20 || b = 0x0a || b = 0x09 || b = 0x0d

/-- The text without the blanks it begins with. -/
def skipBlanks (text : Bytes) : Bytes :=
  text.dropWhile isBlank

/-- Reads the given bytes and nothing else. -/
def expect : Bytes → Bytes → Except Refusal Bytes
  | [], text => .ok text
  | _ :: _, [] => .error .truncated
  | b :: expected, c :: text => if c = b then expect expected text else .error .malformed

/-- The value of a hexadecimal digit. -/
def hexValue? (b : UInt8) : Option Nat :=
  if ascii '0' ≤ b && b ≤ ascii '9' then some (b.toNat - 0x30)
  else if ascii 'a' ≤ b && b ≤ ascii 'f' then some (b.toNat - 0x61 + 10)
  else if ascii 'A' ≤ b && b ≤ ascii 'F' then some (b.toNat - 0x41 + 10)
  else none

/-- The value of four hexadecimal digits. -/
def unit? (a b c d : UInt8) : Option Nat := do
  let a ← hexValue? a
  let b ← hexValue? b
  let c ← hexValue? c
  let d ← hexValue? d
  return ((a * 16 + b) * 16 + c) * 16 + d

/-- The byte that a backslash and one further byte stand for. -/
def shortEscape? (b : UInt8) : Option UInt8 :=
  if b = ascii '"' || b = ascii '\\' || b = ascii '/' then some b
  else if b = ascii 'b' then some 0x08
  else if b = ascii 'f' then some 0x0c
  else if b = ascii 'n' then some 0x0a
  else if b = ascii 'r' then some 0x0d
  else if b = ascii 't' then some 0x09
  else none

/-- Whether a unit is the first half of a pair. -/
def isHighHalf (unit : Nat) : Bool :=
  0xd800 ≤ unit && unit ≤ 0xdbff

/-- Whether a unit is the second half of a pair. -/
def isLowHalf (unit : Nat) : Bool :=
  0xdc00 ≤ unit && unit ≤ 0xdfff

/-- The character beyond the first plane that a pair of units stands for. -/
def pairValue (high low : Nat) : Nat :=
  0x10000 + (high - 0xd800) * 0x400 + (low - 0xdc00)

/-- The bytes of the character with the given number. -/
def characterBytes (number : Nat) : Bytes :=
  String.utf8EncodeChar (Char.ofNat number)

/-- Puts bytes in front of the ones read so far. -/
def prepend (bytes : Bytes) (reading : Except Refusal (Bytes × Bytes))
    : Except Refusal (Bytes × Bytes) :=
  reading.map fun (more, rest) => (bytes ++ more, rest)

/-- Reads the inside of a string up to the closing quote, and gives the bytes it stands for. -/
def stringBytes : Bytes → Except Refusal (Bytes × Bytes)
  | [] => .error .truncated
  | 0x5c :: 0x75 :: a :: b :: c :: d :: rest =>
      match unit? a b c d with
      | none => .error .malformed
      | some unit =>
          if isLowHalf unit then .error .malformed
          else if isHighHalf unit then
            match rest with
            | 0x5c :: 0x75 :: e :: f :: g :: h :: more =>
                match unit? e f g h with
                | none => .error .malformed
                | some low =>
                    if isLowHalf low then
                      prepend (characterBytes (pairValue unit low)) (stringBytes more)
                    else .error .malformed
            | 0x5c :: 0x75 :: _ => .error .truncated
            | [0x5c] | [] => .error .truncated
            | _ => .error .malformed
          else prepend (characterBytes unit) (stringBytes rest)
  | 0x5c :: 0x75 :: _ => .error .truncated
  | 0x5c :: b :: rest =>
      match shortEscape? b with
      | some byte => prepend [byte] (stringBytes rest)
      | none => .error .malformed
  | [0x5c] => .error .truncated
  | 0x22 :: rest => .ok ([], rest)
  | b :: rest => if b < 0x20 then .error .malformed else prepend [b] (stringBytes rest)

/-- Reads a string whose opening quote was read. Its bytes have to encode a text. -/
def readString (text : Bytes) : Except Refusal (String × Bytes) := do
  let (bytes, rest) ← stringBytes text
  match Text.decode? bytes with
  | some value => return (value, rest)
  | none => throw .malformed

/-- Passes over a string whose opening quote was read. What it stands for does not matter, so halves
of pairs and bytes that encode no text may occur in it.
-/
def skipString : Bytes → Except Refusal Bytes
  | [] => .error .truncated
  | 0x5c :: 0x75 :: a :: b :: c :: d :: rest =>
      if (unit? a b c d).isSome then skipString rest else .error .malformed
  | 0x5c :: 0x75 :: _ => .error .truncated
  | 0x5c :: b :: rest =>
      if (shortEscape? b).isSome then skipString rest else .error .malformed
  | [0x5c] => .error .truncated
  | 0x22 :: rest => .ok rest
  | b :: rest => if b < 0x20 then .error .malformed else skipString rest

end CharLcd.Json

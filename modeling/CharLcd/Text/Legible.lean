import CharLcd.Text.Utf8

/-! Bytes made legible, whether or not they encode a text.

Bytes that belong to no character are shown as replacement characters. The bytes that begin a
character and are not continued by one that fits count as a single wrong character; the byte that
does not fit begins anew.
-/

namespace CharLcd.Text

/-- The character shown in place of bytes that belong to none. -/
def wrongCharacter : Char :=
  '\ufffd'

/-- A character of which some bytes were read. -/
structure Unfinished where
  /-- The bits of its number so far. -/
  value : Nat
  /-- How many bytes follow the next one. -/
  left : Nat
  /-- The least byte that can come next. -/
  low : UInt8 := 0x80
  /-- The greatest byte that can come next. -/
  high : UInt8 := 0xbf
deriving DecidableEq, Repr

/-- What a byte is where a character may begin. -/
inductive Lead where
  | whole (c : Char)
  | opening (character : Unfinished)
  | wrong
deriving DecidableEq, Repr

/-- Tells what a byte is where a character may begin. The bounds on the second byte keep out numbers
that fewer bytes could hold, halves of pairs, and numbers beyond the last character.
-/
def lead (b : UInt8) : Lead :=
  if b < 0x80 then .whole (Char.ofNat b.toNat)
  else if b < 0xc2 then .wrong
  else if b < 0xe0 then .opening { value := b.toNat - 0xc0, left := 0 }
  else if b = 0xe0 then .opening { value := 0, left := 1, low := 0xa0 }
  else if b = 0xed then .opening { value := 0xd, left := 1, high := 0x9f }
  else if b < 0xf0 then .opening { value := b.toNat - 0xe0, left := 1 }
  else if b = 0xf0 then .opening { value := 0, left := 2, low := 0x90 }
  else if b = 0xf4 then .opening { value := 4, left := 2, high := 0x8f }
  else if b < 0xf4 then .opening { value := b.toNat - 0xf0, left := 2 }
  else .wrong

/-- Reads a byte where a character may begin, and goes on with what was begun. -/
def startWith (b : UInt8) (goOn : Option Unfinished → List Char) : List Char :=
  match lead b with
  | .whole c => c :: goOn none
  | .opening character => goOn (some character)
  | .wrong => wrongCharacter :: goOn none

/-- The characters of bytes, with what is wrong replaced, after the beginning of a character. -/
def repairFrom : Option Unfinished → Bytes → List Char
  | none, [] => []
  | some _, [] => [wrongCharacter]
  | none, b :: rest => startWith b fun begun => repairFrom begun rest
  | some character, b :: rest =>
      if character.low ≤ b ∧ b ≤ character.high then
        let value := character.value * 0x40 + (b.toNat - 0x80)
        if character.left = 0 then Char.ofNat value :: repairFrom none rest
        else repairFrom (some { value, left := character.left - 1 }) rest
      else wrongCharacter :: startWith b fun begun => repairFrom begun rest

/-- The text that bytes are shown as: the one they encode, or what can be made of them. -/
def legible (bytes : Bytes) : String :=
  (decode? bytes).getD (String.ofList (repairFrom none bytes))

/-- The bytes of a text are shown as that text. -/
@[simp]
theorem legible_encode (text : String) : legible (encode text) = text := by
  simp [legible]

end CharLcd.Text

import CharLcd.Text.Unprintable

/-! Texts in double quotes, as log records and descriptions show them. -/

namespace CharLcd.Text

/-- The digits of a number in base sixteen, in lower case and without leading zeros. -/
def hexDigits (number : Nat) : List Char :=
  Nat.toDigits 16 number

/-- One character of a quoted text. The quote and the backslash are escaped, the four usual
controls have letters, and any other character that cannot be shown is written by number.
-/
def quoteChar (c : Char) : List Char :=
  if c = '"' || c = '\\' then ['\\', c]
  else if c = '\t' then ['\\', 't']
  else if c = '\n' then ['\\', 'n']
  else if c = '\r' then ['\\', 'r']
  else if c = '\x00' then ['\\', '0']
  else if isUnprintable c then ['\\', 'u', '\x7b'] ++ hexDigits c.toNat ++ ['\x7d']
  else [c]

/-- A text in double quotes. -/
def quoted (text : String) : String :=
  String.ofList ('"' :: text.toList.flatMap quoteChar ++ ['"'])

end CharLcd.Text

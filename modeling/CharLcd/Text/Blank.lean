import CharLcd.Text.Ranges

/-! Blank characters, and texts without the blanks around them. -/

namespace CharLcd.Text

/-- The code points with the property White_Space. -/
def blankRanges : List (Nat × Nat) := [
  (0x9, 0xd), (0x20, 0x20), (0x85, 0x85), (0xa0, 0xa0), (0x1680, 0x1680), (0x2000, 0x200a),
  (0x2028, 0x2029), (0x202f, 0x202f), (0x205f, 0x205f), (0x3000, 0x3000)
]

/-- The table is in order. -/
theorem ascending_blankRanges : ascending blankRanges = true := by
  decide

/-- Whether the character is white space in the sense of the character standard. -/
def isBlank (c : Char) : Bool :=
  inRanges blankRanges c.toNat

/-- The text without the blanks it begins with. -/
def trimStart (text : List Char) : List Char :=
  text.dropWhile isBlank

/-- The text without the blanks it ends with. -/
def trimEnd (text : List Char) : List Char :=
  (text.reverse.dropWhile isBlank).reverse

/-- The text without the blanks around it. -/
def trim (text : List Char) : List Char :=
  trimEnd (trimStart text)

end CharLcd.Text

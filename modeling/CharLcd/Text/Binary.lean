/-! Small numbers in base two, padded with zeros to a fixed width. -/

namespace CharLcd.Text

/-- The digits of a number in base two, with at least the given count of them. -/
def binary (width number : Nat) : String :=
  let digits := Nat.toDigits 2 number
  String.ofList (List.replicate (width - digits.length) '0' ++ digits)

end CharLcd.Text

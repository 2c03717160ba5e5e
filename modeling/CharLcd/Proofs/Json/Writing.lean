import CharLcd.Proofs.Json.Grammar

/-! Whatever can be read can be written.

Every text and every integer has a form, and so have the objects that hold them. A character that
must not stand as it is can be written by its unit.
-/

namespace CharLcd.Json

-----------------------------------------------------------------------------------------
-- Strings
-----------------------------------------------------------------------------------------

/-- Every value below sixteen has a hexadecimal digit. -/
theorem exists_hexForm {value : Nat} (small : value < 16) : ∃ b, HexForm value b :=
  ⟨_, .inl (List.getElem?_eq_getElem (l := word "0123456789abcdef") (by exact small))⟩

/-- Every unit has four hexadecimal digits. -/
theorem exists_unitForm {unit : Nat} (small : unit < 0x10000) : ∃ digits, UnitForm unit digits := by
  obtain ⟨a, first⟩ := exists_hexForm (by omega : unit / 0x1000 < 16)
  obtain ⟨b, second⟩ := exists_hexForm (by omega : unit / 0x100 % 16 < 16)
  obtain ⟨c, third⟩ := exists_hexForm (by omega : unit / 0x10 % 16 < 16)
  obtain ⟨d, fourth⟩ := exists_hexForm (by omega : unit % 16 < 16)
  have worth
      : ((unit / 0x1000 * 16 + unit / 0x100 % 16) * 16 + unit / 0x10 % 16) * 16 + unit % 16
        = unit := by
    omega
  exact ⟨[a, b, c, d], worth ▸ UnitForm.digits first second third fourth⟩

/-- Characters that may stand as they are make up a string. By induction on them. -/
theorem stringForm_of_plain {chars : List Char}
    (plain : (chars.all fun c => 0x20 ≤ c.toNat && c ≠ '"' && c ≠ '\\') = true)
    : StringForm chars (chars.flatMap String.utf8EncodeChar) := by
  induction chars with
  | nil => exact .nil
  | cons c chars ih =>
      simp only [List.all_cons, Bool.and_eq_true, decide_eq_true_eq] at plain
      obtain ⟨⟨⟨printable, unquoted⟩, unescaped⟩, others⟩ := plain
      exact .cons (.plain printable unquoted unescaped) (ih others)

/-- Every character can be written in a string. By cases on whether it may stand as it is. -/
theorem exists_charForm (c : Char) : ∃ text, CharForm c text := by
  by_cases plain : 0x20 ≤ c.toNat ∧ c ≠ '"' ∧ c ≠ '\\'
  · exact ⟨_, .plain plain.1 plain.2.1 plain.2.2⟩
  · have small : c.toNat < 0x10000 := by
      simp only [not_and_or, not_le, not_not] at plain
      obtain control | rfl | rfl := plain
      · omega
      · decide
      · decide
    obtain ⟨digits, worth⟩ := exists_unitForm small
    exact ⟨_, .unit worth⟩

/-- Every text can be written as a string, by induction on its characters. -/
theorem exists_stringForm (chars : List Char) : ∃ inside, StringForm chars inside := by
  induction chars with
  | nil => exact ⟨_, .nil⟩
  | cons c chars ih =>
      obtain ⟨text, first⟩ := exists_charForm c
      obtain ⟨more, others⟩ := ih
      exact ⟨_, .cons first others⟩

-----------------------------------------------------------------------------------------
-- Integers
-----------------------------------------------------------------------------------------

/-- The decimal digits of a positive number do not begin with zero. By induction on it, as all
digits but the last are those of a tenth of it.
-/
theorem head_toDigits_ne {number : Nat} (positive : 0 < number)
    : (Nat.toDigits 10 number).head? ≠ some '0' := by
  induction number using Nat.strongRecOn with
  | ind number ih =>
      by_cases single : number < 10
      · have nonzero : ∀ digit < 10, 0 < digit → Nat.digitChar digit ≠ '0' := by decide
        rw [Nat.toDigits_of_lt_base single]
        simpa using nonzero number single positive
      · rw [Nat.toDigits_of_base_le (by decide) (not_lt.mp single),
          List.head?_append_of_ne_nil _ Nat.toDigits_ne_nil]
        exact ih (number / 10) (by omega) (by omega)

/-- Every number can be written as a whole number. By cases on whether it is zero. -/
theorem exists_wholeText (number : Nat)
    : ∃ digits, WholeText digits ∧ Nat.ofDigitChars 10 digits 0 = number := by
  obtain rfl | positive := Nat.eq_zero_or_pos number
  · exact ⟨_, .zero, rfl⟩
  · exact ⟨_, .unpadded (head_toDigits_ne positive) (Text.digits_toDigits number),
      Nat.ofDigitChars_ten_toDigits⟩

/-- Every integer has a numeral. By cases on its sign. -/
theorem exists_integerForm (value : Int) : ∃ text, IntegerForm value text := by
  cases value with
  | ofNat magnitude =>
      obtain ⟨digits, whole, rfl⟩ := exists_wholeText magnitude
      exact ⟨_, .natural whole⟩
  | negSucc magnitude =>
      obtain ⟨digits, whole, worth⟩ := exists_wholeText (magnitude + 1)
      have numeral := IntegerForm.negative whole (by omega)
      rw [worth] at numeral
      exact ⟨_, numeral⟩

-----------------------------------------------------------------------------------------
-- Objects
-----------------------------------------------------------------------------------------

variable {ι α : Type} {form : ι → Bytes → Prop}

/-- Items that can be written can be written in a row, by induction on them. -/
theorem exists_joined {items : List ι} (written : ∀ item ∈ items, ∃ text, form item text)
    (first : Bool)
    : ∃ text, Joined form first items text := by
  induction items generalizing first with
  | nil => exact ⟨[], .nil⟩
  | cons item items ih =>
      obtain ⟨⟨text, form⟩, others⟩ := List.forall_mem_cons.mp written
      obtain ⟨more, joined⟩ := ih others false
      obtain ⟨lead, separator⟩ : ∃ lead, Separator first lead := by
        cases first with
        | true => exact ⟨_, .first blanks_nil⟩
        | false => exact ⟨_, .next blanks_nil blanks_nil⟩
      exact ⟨_, .cons separator form joined⟩

/-- Items whose values can be written make up an object. -/
theorem exists_objectForm {nameOf : ι → String} {items : List ι}
    (written : ∀ item ∈ items, ∃ text, form item text)
    : ∃ text, ObjectForm nameOf form items text := by
  have members : ∀ item ∈ items, ∃ text, MemberForm nameOf form item text := by
    intro item member
    obtain ⟨inside, string⟩ := exists_stringForm (nameOf item).toList
    obtain ⟨text, value⟩ := written item member
    exact ⟨_, .member string (.value blanks_nil blanks_nil value)⟩
  obtain ⟨inside, joined⟩ := exists_joined members true
  exact ⟨_, .enclosed joined blanks_nil⟩

end CharLcd.Json

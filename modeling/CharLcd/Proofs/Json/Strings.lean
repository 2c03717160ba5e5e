import CharLcd.Proofs.Json.Grammar

/-! Reading strings.

A string is read one character at a time, however that is written, so a text is read back from every
way of writing it. A string that is passed over is followed byte by byte instead.
-/

namespace CharLcd.Json

-----------------------------------------------------------------------------------------
-- Blanks
-----------------------------------------------------------------------------------------

/-- Blanks in front are left out with any others. -/
@[simp]
theorem skipBlanks_append {before : Bytes} (blank : Blanks before) (text : Bytes)
    : skipBlanks (before ++ text) = skipBlanks text :=
  List.dropWhile_append_of_pos blank

/-- A text that begins with no blank stays as it is. -/
theorem skipBlanks_solid {b : UInt8} (solid : isBlank b = false) (rest : Bytes)
    : skipBlanks (b :: rest) = b :: rest :=
  List.dropWhile_cons_of_neg (by simp [solid])

-----------------------------------------------------------------------------------------
-- Marks
-----------------------------------------------------------------------------------------

/-- The byte of a quote. -/
theorem ascii_quote : ascii '"' = 0x22 :=
  rfl

/-- The byte of a backslash. -/
theorem ascii_backslash : ascii '\\' = 0x5c :=
  rfl

/-- The byte of the letter before a unit. -/
theorem ascii_u : ascii 'u' = 0x75 :=
  rfl

-----------------------------------------------------------------------------------------
-- Escapes
-----------------------------------------------------------------------------------------

/-- A hexadecimal digit is read to its value. -/
theorem hexValue?_of_form {value : Nat} {b : UInt8} (form : HexForm value b)
    : hexValue? b = some value := by
  have small : ∀ value : Fin 16, hexValue? (word "0123456789abcdef")[value] = some value := by
    decide
  have capital : ∀ value : Fin 16, hexValue? (word "0123456789ABCDEF")[value] = some value := by
    decide
  obtain form | form := form
  · obtain ⟨bound, rfl⟩ := List.getElem?_eq_some_iff.mp form
    exact small ⟨value, bound⟩
  · obtain ⟨bound, rfl⟩ := List.getElem?_eq_some_iff.mp form
    exact capital ⟨value, bound⟩

/-- Four hexadecimal digits are read to the unit they stand for. -/
theorem UnitForm.reads {unit : Nat} {digits : Bytes} (form : UnitForm unit digits)
    : ∃ a b c d, digits = [a, b, c, d] ∧ unit? a b c d = some unit := by
  obtain ⟨first, second, third, fourth⟩ := form
  refine ⟨_, _, _, _, rfl, ?_⟩
  simp [unit?, hexValue?_of_form first, hexValue?_of_form second, hexValue?_of_form third,
    hexValue?_of_form fourth]

/-- A letter of an escape is read to the one byte of its character. -/
theorem shortEscape?_of_listed {letter c : Char} (listed : (letter, c) ∈ shortEscapes)
    : ∃ byte, shortEscape? (ascii letter) = some byte ∧ String.utf8EncodeChar c = [byte] := by
  have every
      : ∀ escape ∈ shortEscapes,
          shortEscape? (ascii escape.1) = some (ascii escape.2)
          ∧ String.utf8EncodeChar escape.2 = [ascii escape.2] := by
    decide
  exact ⟨ascii c, every _ listed⟩

/-- The letter of an escape is not the one of a unit. -/
theorem ne_unit_of_listed {letter c : Char} (listed : (letter, c) ∈ shortEscapes)
    : ascii letter ≠ 0x75 := by
  have every : ∀ escape ∈ shortEscapes, ascii escape.1 ≠ 0x75 := by decide
  exact every _ listed

/-- The range of the first halves of pairs. -/
theorem isHighHalf_iff {unit : Nat} : isHighHalf unit = true ↔ 0xd800 ≤ unit ∧ unit ≤ 0xdbff := by
  simp [isHighHalf]

/-- The range of the second halves. -/
theorem isLowHalf_iff {unit : Nat} : isLowHalf unit = true ↔ 0xdc00 ≤ unit ∧ unit ≤ 0xdfff := by
  simp [isLowHalf]

-----------------------------------------------------------------------------------------
-- Reading one character
-----------------------------------------------------------------------------------------

/-- Bytes put in front of others are put in front together. -/
theorem prepend_prepend (bytes more : Bytes) (reading : Except Refusal (Bytes × Bytes))
    : prepend bytes (prepend more reading) = prepend (bytes ++ more) reading := by
  cases reading <;> simp [prepend, Except.map]

/-- A byte that is neither a control character nor a quote nor a backslash stands for itself. -/
theorem stringBytes_plain {b : UInt8} (printable : ¬b < 0x20) (unquoted : b ≠ 0x22)
    (unescaped : b ≠ 0x5c) (rest : Bytes)
    : stringBytes (b :: rest) = prepend [b] (stringBytes rest) := by
  rw [stringBytes, if_neg printable]
  all_goals simp [unquoted, unescaped]

/-- A letter after a backslash stands for its character. -/
theorem stringBytes_short {letter c : Char} (listed : (letter, c) ∈ shortEscapes) (rest : Bytes)
    : stringBytes (0x5c :: ascii letter :: rest)
      = prepend (String.utf8EncodeChar c) (stringBytes rest) := by
  obtain ⟨byte, escape, bytes⟩ := shortEscape?_of_listed listed
  rw [stringBytes, escape, bytes]
  all_goals simp [ne_unit_of_listed listed]

/-- A unit that is no half of a pair stands for its character. -/
theorem stringBytes_unit {c : Char} {digits : Bytes} (form : UnitForm c.toNat digits)
    (rest : Bytes)
    : stringBytes (0x5c :: 0x75 :: (digits ++ rest))
      = prepend (String.utf8EncodeChar c) (stringBytes rest) := by
  obtain ⟨p, q, r, s, rfl, reads⟩ := form.reads
  have valid : c.toNat < 0xd800 ∨ 0xdfff < c.toNat ∧ c.toNat < 0x110000 := c.valid
  have notLow : ¬isLowHalf c.toNat = true := mt isLowHalf_iff.mp (by omega)
  have notHigh : ¬isHighHalf c.toNat = true := mt isHighHalf_iff.mp (by omega)
  simp only [List.cons_append, List.nil_append]
  rw [stringBytes.eq_def]
  simp only [reads, if_neg notLow, if_neg notHigh, characterBytes, Char.ofNat_toNat]

/-- The number that a pair of units stands for is that many beyond the first plane. -/
theorem pairValue_of_offset (offset : Nat)
    : pairValue (0xd800 + offset / 0x400) (0xdc00 + offset % 0x400) = 0x10000 + offset := by
  unfold pairValue
  rw [Nat.add_sub_cancel_left, Nat.add_sub_cancel_left, Nat.add_assoc, Nat.div_add_mod']

/-- A pair of units stands for its character. -/
theorem stringBytes_pair {c : Char} {first second : Bytes} (beyond : 0x10000 ≤ c.toNat)
    (high : UnitForm (0xd800 + (c.toNat - 0x10000) / 0x400) first)
    (low : UnitForm (0xdc00 + (c.toNat - 0x10000) % 0x400) second)
    (rest : Bytes)
    : stringBytes (0x5c :: 0x75 :: (first ++ 0x5c :: 0x75 :: (second ++ rest)))
      = prepend (String.utf8EncodeChar c) (stringBytes rest) := by
  obtain ⟨p, q, r, s, rfl, readsHigh⟩ := high.reads
  obtain ⟨t, u, v, w, rfl, readsLow⟩ := low.reads
  have valid : c.toNat < 0xd800 ∨ 0xdfff < c.toNat ∧ c.toNat < 0x110000 := c.valid
  generalize above : c.toNat - 0x10000 = offset at readsHigh readsLow
  have notLow : ¬isLowHalf (0xd800 + offset / 0x400) = true := mt isLowHalf_iff.mp (by omega)
  have isHigh : isHighHalf (0xd800 + offset / 0x400) = true := isHighHalf_iff.mpr (by omega)
  have isLow : isLowHalf (0xdc00 + offset % 0x400) = true := isLowHalf_iff.mpr (by omega)
  have worth : pairValue (0xd800 + offset / 0x400) (0xdc00 + offset % 0x400) = c.toNat := by
    rw [pairValue_of_offset, ← above, Nat.add_sub_cancel' beyond]
  simp only [List.cons_append, List.nil_append]
  rw [stringBytes.eq_def]
  simp only [readsHigh, readsLow, if_neg notLow, isHigh, isLow, if_true, worth, characterBytes,
    Char.ofNat_toNat]

/-- A byte is plain if its value is none of those that are not. -/
theorem plain_ofNat {n : Nat} (near : n < 256) (printable : 0x20 ≤ n) (unquoted : n ≠ 0x22)
    (unescaped : n ≠ 0x5c)
    : ¬UInt8.ofNat n < 0x20 ∧ UInt8.ofNat n ≠ 0x22 ∧ UInt8.ofNat n ≠ 0x5c := by
  simp only [UInt8.lt_iff_toNat_lt, ← UInt8.toNat_inj, ne_eq, UInt8.toNat_ofNat',
    UInt8.toNat_ofNat]
  omega

/-- The bytes of a character that may stand as it is are all plain. By cases on how many there are,
as all are beyond ASCII if there are several.
-/
theorem plain_utf8EncodeChar {c : Char} (printable : 0x20 ≤ c.toNat) (unquoted : c ≠ '"')
    (unescaped : c ≠ '\\')
    : ∀ b ∈ String.utf8EncodeChar c, ¬b < 0x20 ∧ b ≠ 0x22 ∧ b ≠ 0x5c := by
  have ne_quote : c.toNat ≠ 0x22 := fun same => unquoted (Char.toNat_inj.mp same)
  have ne_backslash : c.toNat ≠ 0x5c := fun same => unescaped (Char.toNat_inj.mp same)
  intro b member
  have small : c.val.toNat = c.toNat := rfl
  simp only [String.utf8EncodeChar, small] at member
  split at member
  · obtain rfl := List.mem_singleton.mp member
    exact plain_ofNat (by omega) printable ne_quote ne_backslash
  · split at member
    · simp only [List.mem_cons, List.not_mem_nil, or_false] at member
      obtain rfl | rfl := member <;> apply plain_ofNat <;> omega
    · split at member
      · simp only [List.mem_cons, List.not_mem_nil, or_false] at member
        obtain rfl | rfl | rfl := member <;> apply plain_ofNat <;> omega
      · simp only [List.mem_cons, List.not_mem_nil, or_false] at member
        obtain rfl | rfl | rfl | rfl := member <;> apply plain_ofNat <;> omega

/-- Plain bytes stand for themselves, by induction on them. -/
theorem stringBytes_append_plain {bytes : Bytes}
    (plain : ∀ b ∈ bytes, ¬b < 0x20 ∧ b ≠ 0x22 ∧ b ≠ 0x5c) (rest : Bytes)
    : stringBytes (bytes ++ rest) = prepend bytes (stringBytes rest) := by
  induction bytes with
  | nil => cases reads : stringBytes rest <;> simp [prepend, Except.map, reads]
  | cons b bytes ih =>
      obtain ⟨⟨printable, unquoted, unescaped⟩, others⟩ := List.forall_mem_cons.mp plain
      rw [List.cons_append, stringBytes_plain printable unquoted unescaped, ih others,
        prepend_prepend]
      rfl

/-- A character is read to its bytes. By cases on how it is written. -/
theorem CharForm.reads {c : Char} {text : Bytes} (form : CharForm c text) (rest : Bytes)
    : stringBytes (text ++ rest) = prepend (String.utf8EncodeChar c) (stringBytes rest) := by
  cases form with
  | plain printable unquoted unescaped =>
      exact stringBytes_append_plain (plain_utf8EncodeChar printable unquoted unescaped) rest
  | short listed => exact stringBytes_short listed rest
  | unit worth => exact stringBytes_unit worth rest
  | pair beyond first second =>
      rw [List.cons_append, List.cons_append, List.append_assoc]
      exact stringBytes_pair beyond first second rest

-----------------------------------------------------------------------------------------
-- Reading a string
-----------------------------------------------------------------------------------------

/-- The inside of a string is read to the bytes of its characters, by induction on them. -/
theorem StringForm.stringBytes {chars : List Char} {inside : Bytes}
    (form : StringForm chars inside) (rest : Bytes)
    : Json.stringBytes (inside ++ ascii '"' :: rest)
      = .ok (chars.flatMap String.utf8EncodeChar, rest) := by
  induction form with
  | nil => exact Json.stringBytes.eq_def (0x22 :: rest)
  | cons first _ ih =>
      rw [List.append_assoc, first.reads, ih]
      rfl

/-- The bytes of a text are those of its characters in turn. -/
theorem encode_eq_flatMap (text : String)
    : Text.encode text = text.toList.flatMap String.utf8EncodeChar := by
  conv_lhs => rw [← String.ofList_toList (s := text)]
  rw [Text.encode, String.toUTF8, String.toByteArray_ofList, List.utf8Encode,
    List.data_toByteArray]

/-- A string is read to the text it stands for. -/
theorem readString_of_form {name : String} {inside : Bytes}
    (form : StringForm name.toList inside) (rest : Bytes)
    : readString (inside ++ ascii '"' :: rest) = .ok (name, rest) := by
  have decodes : Text.decode? (name.toList.flatMap String.utf8EncodeChar) = some name := by
    rw [← encode_eq_flatMap, Text.decode?_encode]
  simp [readString, form.stringBytes, decodes, Bind.bind, Except.bind]
  rfl

-----------------------------------------------------------------------------------------
-- Passing over a string
-----------------------------------------------------------------------------------------

/-- A string is passed over, whatever it stands for. By induction on its inside. -/
theorem StringText.skipped {inside : Bytes} (string : StringText inside) (rest : Bytes)
    : skipString (inside ++ ascii '"' :: rest) = .ok rest := by
  induction string with
  | nil => exact skipString.eq_def (0x22 :: rest)
  | plain printable unquoted unescaped _ ih =>
      rw [List.cons_append, skipString, if_neg (UInt8.not_lt.mpr printable), ih]
      all_goals simp_all [ascii_quote, ascii_backslash]
  | short listed _ ih =>
      obtain ⟨byte, escape, -⟩ := shortEscape?_of_listed listed
      rw [List.cons_append, List.cons_append, ascii_backslash, skipString, escape]
      · exact ih
      all_goals simp [ne_unit_of_listed listed]
  | unit worth _ ih =>
      obtain ⟨p, q, r, s, rfl, reads⟩ := worth.reads
      simp only [List.cons_append, List.nil_append]
      rw [ascii_backslash, ascii_u, skipString, reads]
      exact ih

end CharLcd.Json

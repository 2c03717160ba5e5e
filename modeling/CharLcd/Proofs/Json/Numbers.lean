import CharLcd.Proofs.Json.Strings

/-! Reading numbers.

The digits of a number are taken off the text for as long as they go on, so what follows a number
must not begin with one. A 64-bit integer has few enough digits that none is left over.
-/

namespace CharLcd.Json

-----------------------------------------------------------------------------------------
-- What follows a number
-----------------------------------------------------------------------------------------

/-- A text that does not begin with a byte of a kind. -/
def Avoids (kind : UInt8 → Bool) (text : Bytes) : Prop :=
  ∀ b ∈ text.head?, kind b = false

/-- What can follow a value begins with no byte that none of the marks is. -/
theorem Ends.avoids {kind : UInt8 → Bool} {rest : Bytes} (ends : Ends rest)
    (none : (word " \n\t\r,]\x7d").any kind = false)
    : Avoids kind rest :=
  fun b member => Bool.eq_false_iff.mpr (List.any_eq_false.mp none b (ends b member))

/-- Of a run of bytes of a kind all are taken, if no further one follows. -/
theorem takeWhile_run {kind : UInt8 → Bool} {run rest : Bytes}
    (all : ∀ b ∈ run, kind b = true) (stops : Avoids kind rest)
    : (run ++ rest).takeWhile kind = run := by
  rw [List.takeWhile_append_of_pos all]
  cases rest with
  | nil => simp
  | cons b more => simp [stops b (by simp)]

/-- Without the run what follows is left. -/
theorem dropWhile_run {kind : UInt8 → Bool} {run rest : Bytes}
    (all : ∀ b ∈ run, kind b = true) (stops : Avoids kind rest)
    : (run ++ rest).dropWhile kind = rest := by
  rw [List.dropWhile_append_of_pos all]
  cases rest with
  | nil => rfl
  | cons b more => simp [stops b (by simp)]

-----------------------------------------------------------------------------------------
-- Digits
-----------------------------------------------------------------------------------------

/-- A digit and a byte that is none are different. -/
theorem ne_of_isDigit {b other : UInt8} (digit : isDigit b = true) (none : isDigit other = false)
    : b ≠ other := by
  rintro rfl
  simp [none] at digit

/-- A digit is no blank. -/
theorem isBlank_of_isDigit {b : UInt8} (digit : isDigit b = true) : isBlank b = false := by
  refine Bool.eq_false_iff.mpr fun blank => ?_
  simp only [isBlank, Bool.or_eq_true, decide_eq_true_eq] at blank
  obtain ((rfl | rfl) | rfl) | rfl := blank <;> exact absurd digit (by decide)

/-- A digit is its own byte. -/
theorem toNat_ascii_of_isDigit {c : Char} (digit : c.isDigit = true)
    : (ascii c).toNat = c.toNat := by
  have most : c.toNat ≤ 57 := (Char.isDigit_iff_toNat.mp digit).2
  rw [ascii, Nat.toUInt8_eq, UInt8.toNat_ofNat', Nat.mod_eq_of_lt (by omega)]

/-- The byte of a digit is a digit. -/
theorem isDigit_ascii {c : Char} (digit : c.isDigit = true) : isDigit (ascii c) = true := by
  simp only [isDigit, Bool.and_eq_true, decide_eq_true_eq, UInt8.le_iff_toNat_le,
    toNat_ascii_of_isDigit digit]
  exact Char.isDigit_iff_toNat.mp digit

/-- It has the value of the digit. -/
theorem digitValue_ascii {c : Char} (digit : c.isDigit = true)
    : digitValue (ascii c) = c.toNat - '0'.toNat := by
  rw [digitValue, toNat_ascii_of_isDigit digit]
  rfl

/-- The bytes of digits are digits. -/
theorem isDigit_of_digits {digits : List Char} (some : Text.Digits digits)
    : ∀ b ∈ digits.map ascii, isDigit b = true := by
  intro b member
  obtain ⟨c, among, rfl⟩ := List.mem_map.mp member
  exact isDigit_ascii (some.digits c among)

/-- A number only grows with its digits. -/
theorem le_ofDigitChars (value : Nat) (digits : List Char)
    : value ≤ Nat.ofDigitChars 10 digits value := by
  induction digits generalizing value with
  | nil => simp
  | cons c rest ih =>
      rw [Nat.ofDigitChars_cons]
      exact le_trans (by omega) (ih _)

/-- The digits of a number of 64 bits are all taken, by induction on them. -/
theorem gather_of_fits {value : Nat} {digits : List Char}
    (all : ∀ c ∈ digits, c.isDigit = true)
    (fits : Nat.ofDigitChars 10 digits value ≤ largestWord)
    : gather value (digits.map ascii) = (Nat.ofDigitChars 10 digits value, []) := by
  induction digits generalizing value with
  | nil => rfl
  | cons c rest ih =>
      obtain ⟨digit, others⟩ := List.forall_mem_cons.mp all
      rw [Nat.ofDigitChars_cons, ← digitValue_ascii digit] at fits ⊢
      rw [List.map_cons, gather, if_pos (le_trans (le_ofDigitChars _ rest) fits)]
      exact ih others fits

/-- A whole number has a digit at least, and nothing else. -/
theorem WholeText.someDigits {digits : List Char} (whole : WholeText digits)
    : Text.Digits digits := by
  cases whole with
  | zero => exact ⟨by decide, List.forall_mem_singleton.mpr (by decide)⟩
  | unpadded _ some => exact some

/-- The digits of a whole number are told from what follows. By cases on whether it is zero. -/
theorem WholeText.reads {digits : List Char} (whole : WholeText digits) {rest : Bytes}
    (stops : Avoids isDigit rest)
    : wholeDigits (digits.map ascii ++ rest) = .ok (digits.map ascii, rest) := by
  cases whole with
  | zero =>
      cases rest with
      | nil => rfl
      | cons b more => simp [wholeDigits, stops b (by simp)]
  | unpadded unpadded some =>
      have all := isDigit_of_digits some
      cases digits with
      | nil => exact absurd rfl some.nonempty
      | cons c more =>
          have digit : c.isDigit = true := some.digits c List.mem_cons_self
          have nonzero : ascii c ≠ ascii '0' := by
            intro same
            refine unpadded (congrArg Option.some (Char.toNat_inj.mp ?_))
            rw [← toNat_ascii_of_isDigit digit, same]
            rfl
          have taken := takeWhile_run all stops
          have left := dropWhile_run all stops
          simp only [List.map_cons, List.cons_append] at taken left ⊢
          simp only [wholeDigits, if_neg nonzero, if_pos (isDigit_ascii digit), taken, left]

-----------------------------------------------------------------------------------------
-- Integers
-----------------------------------------------------------------------------------------

/-- Whether a number goes on with a byte after its digits. -/
def goesOn (b : UInt8) : Bool :=
  b = ascii '.' || b = ascii 'e' || b = ascii 'E'

/-- A number that consists of its digits, all of which fit, is that integer. -/
theorem readNumber_integer {negative : Bool} {text digits rest : Bytes} {magnitude : Nat}
    (whole : wholeDigits text = .ok (digits, rest)) (gathered : gather 0 digits = (magnitude, []))
    (stops : Avoids goesOn rest)
    : readNumber negative text = .ok (signed negative magnitude, rest) := by
  simp only [readNumber, whole, gathered, Bind.bind, Except.bind]
  cases rest with
  | nil => rfl
  | cons b more =>
      have other := stops b rfl
      simp only [goesOn, Bool.or_eq_false_iff, decide_eq_false_iff_not] at other
      simp [other]
      rfl

/-- An integer of few enough digits is read to its value. -/
theorem readNumber_of_fits {digits : List Char} (whole : WholeText digits) (negative : Bool)
    (fits : Nat.ofDigitChars 10 digits 0 ≤ largestWord) {rest : Bytes} (ends : Ends rest)
    : readNumber negative (digits.map ascii ++ rest)
      = .ok (signed negative (Nat.ofDigitChars 10 digits 0), rest) :=
  readNumber_integer (whole.reads (ends.avoids (by decide)))
    (gather_of_fits whole.someDigits.digits fits) (ends.avoids (by decide))

/-- The digits of a whole number begin with a digit. -/
theorem WholeText.head {digits : List Char} (whole : WholeText digits)
    : ∃ b more, digits.map ascii = b :: more ∧ isDigit b = true := by
  have some := whole.someDigits
  cases digits with
  | nil => exact absurd rfl some.nonempty
  | cons c rest => exact ⟨_, _, rfl, isDigit_ascii (some.digits c List.mem_cons_self)⟩

/-- The integer in the range of 64 bits is that integer. -/
theorem toInt64?_integer (value : Int64) : Number.toInt64? (.integer value.toInt) = some value := by
  rw [Number.toInt64?, if_pos ⟨Int64.minValue_le_toInt value, Int64.toInt_le value⟩,
    Int64.ofInt_toInt]

/-- A 64-bit integer is read back. By cases on the sign. -/
theorem readsBack_readInt64 : ReadsBack Int64Form readInt64 id := by
  intro value text form before rest blank ends
  have least : -2 ^ 63 ≤ value.toInt := Int64.minValue_le_toInt value
  have most : value.toInt ≤ 2 ^ 63 - 1 := Int64.toInt_le value
  have read := toInt64?_integer value
  rw [readInt64, skipBlanks_append blank]
  unfold Int64Form at form
  generalize value.toInt = number at form least most read
  cases form with
  | natural whole =>
      have reads := readNumber_of_fits whole false (by simp [largestWord]; omega) ends
      obtain ⟨b, more, bytes, digit⟩ := whole.head
      rw [bytes, List.cons_append] at reads ⊢
      simp only [skipBlanks_solid (isBlank_of_isDigit digit),
        if_neg (ne_of_isDigit digit (by decide) : b ≠ ascii '-'), if_pos digit, reads, asInt64,
        signed, Bool.false_eq_true, if_false, read, id]
  | negative whole positive =>
      have reads := readNumber_of_fits whole true (by simp [largestWord]; omega) ends
      rw [List.cons_append, skipBlanks_solid (by decide)]
      simp only [if_true, reads, asInt64, signed, if_neg positive.ne', read, id]

-----------------------------------------------------------------------------------------
-- Passing over a number
-----------------------------------------------------------------------------------------

/-- Digits are passed over. -/
theorem skipDigits_run {digits : List Char} (some : Text.Digits digits) {rest : Bytes}
    (stops : Avoids isDigit rest)
    : skipDigits (digits.map ascii ++ rest) = .ok rest := by
  have all := isDigit_of_digits some
  simp [skipDigits, takeWhile_run all stops, dropWhile_run all stops, some.nonempty]

/-- The sign of an exponent is told from its digits. By cases on the sign. -/
theorem exponentSign_signed {sign digits : List Char} (signed : sign ∈ [[], ['+'], ['-']])
    (some : Text.Digits digits) (rest : Bytes)
    : (exponentSign (sign.map ascii ++ (digits.map ascii ++ rest))).2
      = digits.map ascii ++ rest := by
  simp only [List.mem_cons, List.not_mem_nil, or_false] at signed
  obtain rfl | rfl | rfl := signed
  · cases digits with
    | nil => exact absurd rfl some.nonempty
    | cons c more =>
        have digit := isDigit_ascii (some.digits c List.mem_cons_self)
        have unsigned : ascii c ≠ ascii '-' := ne_of_isDigit digit (by decide)
        have unsignedToo : ascii c ≠ ascii '+' := ne_of_isDigit digit (by decide)
        simp [exponentSign, unsigned, unsignedToo]
  · rfl
  · rfl

/-- An exponent, or none, begins with its mark or is not there. -/
theorem ExponentText.avoids {kind : UInt8 → Bool} {text : List Char} (exponent : ExponentText text)
    {rest : Bytes} (ends : Ends rest)
    (none : (word "eE \n\t\r,]\x7d").any kind = false)
    : Avoids kind (text.map ascii ++ rest) := by
  cases exponent with
  | none =>
      have split : word "eE \n\t\r,]\x7d" = word "eE" ++ word " \n\t\r,]\x7d" := rfl
      rw [split, List.any_append, Bool.or_eq_false_iff] at none
      exact ends.avoids none.2
  | some marked _ _ =>
      intro b head
      obtain rfl := Option.some.inj head
      refine Bool.eq_false_iff.mpr (List.any_eq_false.mp none _ ?_)
      simp only [List.mem_cons, List.not_mem_nil, or_false] at marked
      obtain rfl | rfl := marked <;> decide

/-- An exponent is passed over, or none. By cases on whether there is one. -/
theorem ExponentText.skipped {text : List Char} (exponent : ExponentText text) {rest : Bytes}
    (ends : Ends rest)
    : skipExponent (text.map ascii ++ rest) = .ok rest := by
  cases exponent with
  | none =>
      have stops : Avoids (fun b => b = ascii 'e' || b = ascii 'E') rest := ends.avoids (by decide)
      cases rest with
      | nil => rfl
      | cons b more =>
          have other := stops b rfl
          dsimp only at other
          simp [skipExponent, other]
  | @some mark sign digits marked signed some =>
      have mark : (ascii mark = ascii 'e' || ascii mark = ascii 'E') = true := by
        simp only [List.mem_cons, List.not_mem_nil, or_false] at marked
        obtain rfl | rfl := marked <;> decide
      rw [List.map_cons, List.map_append, List.cons_append, List.append_assoc, skipExponent,
        if_pos mark, exponentSign_signed signed some]
      exact skipDigits_run some (ends.avoids (by decide))

/-- A number whose sign was read is passed over. By cases on whether it has a fraction. -/
theorem skipNumber_parts {whole fraction exponent : List Char} (digits : WholeText whole)
    (point : FractionText fraction) (power : ExponentText exponent) {rest : Bytes}
    (ends : Ends rest)
    : skipNumber (whole.map ascii ++ (fraction.map ascii ++ (exponent.map ascii ++ rest)))
      = .ok rest := by
  cases point with
  | none =>
      have unpointed : Avoids (· = ascii '.') (exponent.map ascii ++ rest) :=
        power.avoids ends (by decide)
      have skipped := power.skipped ends
      rw [List.map_nil, List.nil_append, skipNumber, digits.reads (power.avoids ends (by decide))]
      generalize exponent.map ascii ++ rest = text at unpointed skipped
      cases text with
      | nil => exact skipped
      | cons b more =>
          have other : b ≠ ascii '.' := of_decide_eq_false (unpointed b rfl)
          simp only [if_neg other, skipped]
  | some some =>
      rw [List.map_cons, List.cons_append, skipNumber,
        digits.reads (fun b head => by obtain rfl := Option.some.inj head; decide)]
      simp only [if_true, skipDigits_run some (power.avoids ends (by decide)), power.skipped ends,
        Bind.bind, Except.bind]

/-- A number is passed over, with its sign or from its first digit on. -/
theorem NumberText.skipped {text : Bytes} (number : NumberText text)
    : ∃ b more,
        text = b :: more
        ∧ ∀ rest,
            Ends rest
            → b = ascii '-' ∧ skipNumber (more ++ rest) = .ok rest
              ∨ isDigit b = true ∧ skipNumber (b :: (more ++ rest)) = .ok rest := by
  obtain ⟨signed, digits, point, power⟩ := number
  simp only [List.map_append]
  simp only [List.mem_cons, List.not_mem_nil, or_false] at signed
  obtain rfl | rfl := signed
  · obtain ⟨b, more, bytes, digit⟩ := digits.head
    refine ⟨b, _, by rw [bytes]; rfl, fun rest ends => .inr ⟨digit, ?_⟩⟩
    have skipped := skipNumber_parts digits point power ends
    simpa [bytes] using skipped
  · refine ⟨ascii '-', _, rfl, fun rest ends => .inl ⟨rfl, ?_⟩⟩
    simpa using skipNumber_parts digits point power ends

end CharLcd.Json

import CharLcd.Config.Json.Reader
import CharLcd.Proofs.Json.Values

/-! What a reader has not come to does not matter to it.

A value that is read by itself is read in the same way in a larger document, where it leaves what
stands behind it. Only what can follow a value may stand there, as a number goes on for as long as its
digits do.
-/

namespace CharLcd.Json

variable {ε α β σ : Type}

-----------------------------------------------------------------------------------------
-- Results
-----------------------------------------------------------------------------------------

/-- Two steps succeed if the first one does and the second one does after it. -/
theorem bind_eq_ok {x : Except ε α} {f : α → Except ε β} {result : β}
    : (x >>= f) = .ok result ↔ ∃ value, x = .ok value ∧ f value = .ok result := by
  cases x <;> simp [Bind.bind, Except.bind]

/-- A result that was changed is one from before. -/
theorem map_eq_ok {x : Except ε α} {f : α → β} {result : β}
    : x.map f = .ok result ↔ ∃ value, x = .ok value ∧ f value = result := by
  cases x <;> simp [Except.map]

/-- The first step is done. -/
theorem ok_bind (value : α) (f : α → Except ε β) : (Except.ok value >>= f) = f value :=
  rfl

-----------------------------------------------------------------------------------------
-- Parts without values
-----------------------------------------------------------------------------------------

/-- A reader leaves what follows the value that it has read, and does not depend on it. -/
def Local (read : Bytes → Except Refusal (α × Bytes)) : Prop :=
  ∀ text value rest tail,
    read text = .ok (value, rest) → Ends tail → read (text ++ tail) = .ok (value, rest ++ tail)

/-- Blanks end where another byte was found. -/
theorem skipBlanks_local {text rest : Bytes} {b : UInt8} (skipped : skipBlanks text = b :: rest)
    (tail : Bytes)
    : skipBlanks (text ++ tail) = b :: (rest ++ tail) := by
  rw [skipBlanks] at skipped
  have more : (text.dropWhile isBlank).isEmpty = false := by
    rw [skipped]
    rfl
  rw [skipBlanks, List.dropWhile_append, more]
  exact congrArg (· ++ tail) skipped

/-- Expected bytes that were there still are, by induction on them. -/
theorem expect_local {expected text rest : Bytes} (read : expect expected text = .ok rest)
    (tail : Bytes)
    : expect expected (text ++ tail) = .ok (rest ++ tail) := by
  induction expected generalizing text with
  | nil =>
      cases read
      rfl
  | cons b expected ih =>
      cases text with
      | nil => cases read
      | cons c text =>
          rw [expect] at read
          rw [List.cons_append, expect]
          split_ifs at read ⊢ with same
          exact ih read

/-- With bytes in front a string goes on as it does without them. -/
theorem prepend_local {lead more bytes rest tail : Bytes}
    (others
      : ∀ {bytes : Bytes},
          stringBytes more = .ok (bytes, rest)
          → stringBytes (more ++ tail) = .ok (bytes, rest ++ tail))
    (read : prepend lead (stringBytes more) = .ok (bytes, rest))
    : prepend lead (stringBytes (more ++ tail)) = .ok (bytes, rest ++ tail) := by
  obtain ⟨⟨inside, left⟩, held, same⟩ := map_eq_ok.mp read
  cases same
  rw [others held]
  rfl

/-- A string ends at its quote. By induction on what the reader goes through: five of its ways lead
to the quote, and on all others the string is refused.
-/
theorem stringBytes_local {text bytes rest : Bytes} (read : stringBytes text = .ok (bytes, rest))
    (tail : Bytes)
    : stringBytes (text ++ tail) = .ok (bytes, rest ++ tail) := by
  fun_induction stringBytes text generalizing bytes with
  | case5 a b c d high reads notLow isHigh e f g h more low readsLow isLow ih =>
      simp only [List.cons_append]
      rw [stringBytes.eq_def]
      simp only [reads, readsLow, if_neg notLow, isHigh, isLow, if_true]
      exact prepend_local ih read
  | case11 a b c d more unit reads notLow notHigh ih =>
      simp only [List.cons_append]
      rw [stringBytes.eq_def]
      simp only [reads, if_neg notLow, if_neg notHigh]
      exact prepend_local ih read
  | case13 b more _ notUnit byte escape ih =>
      have other : b ≠ 0x75 := notUnit
      rw [List.cons_append, List.cons_append, stringBytes, escape]
      · exact prepend_local ih read
      all_goals simp [other]
  | case16 more =>
      cases read
      exact stringBytes.eq_def _
  | case18 b more _ _ _ _ unquoted printable ih =>
      have unescaped : b ≠ 0x5c := by
        rintro rfl
        cases more <;> simp_all
      rw [List.cons_append, stringBytes_plain printable unquoted unescaped]
      exact prepend_local ih read
  | _ => cases read

/-- The text of a string does not depend on what follows. -/
theorem readString_local {text rest : Bytes} {value : String}
    (read : readString text = .ok (value, rest)) (tail : Bytes)
    : readString (text ++ tail) = .ok (value, rest ++ tail) := by
  obtain ⟨⟨bytes, left⟩, inside, decoded⟩ := bind_eq_ok.mp read
  rw [readString, stringBytes_local inside, ok_bind]
  cases valid : Text.decode? bytes with
  | none => simp [valid] at decoded
  | some text =>
      simp only [valid] at decoded ⊢
      cases decoded
      rfl

/-- The colon of an entry is found again. -/
theorem readColon_local {text rest : Bytes} (read : readColon text = .ok rest) (tail : Bytes)
    : readColon (text ++ tail) = .ok (rest ++ tail) := by
  cases skipped : skipBlanks text with
  | nil =>
      rw [readColon, skipped] at read
      cases read
  | cons b more =>
      rw [readColon, skipped] at read
      rw [readColon, skipBlanks_local skipped]
      dsimp only at read ⊢
      split_ifs at read ⊢
      cases read
      rfl

-----------------------------------------------------------------------------------------
-- Objects
-----------------------------------------------------------------------------------------

/-- The next name of an object is found again, and so is its closing brace. -/
theorem nextName_local {first found : Bool} {text rest : Bytes}
    (read : nextName first text = .ok (found, rest)) (tail : Bytes)
    : nextName first (text ++ tail) = .ok (found, rest ++ tail) := by
  cases skipped : skipBlanks text with
  | nil =>
      rw [nextName, skipped] at read
      cases read
  | cons b more =>
      rw [nextName, skipped] at read
      rw [nextName, skipBlanks_local skipped]
      dsimp only at read ⊢
      split_ifs at read ⊢
      · cases read
        rfl
      · cases read
        rfl
      · cases after : skipBlanks more with
        | nil =>
            rw [after] at read
            cases read
        | cons c others =>
            rw [after] at read
            rw [skipBlanks_local after]
            dsimp only at read ⊢
            split_ifs at read ⊢
            cases read
            rfl

/-- The entries of an object are read again, with any more fuel. By induction on the fuel that was
enough for them.
-/
theorem readEntries_local {readEntry : σ → String → Bytes → Except Refusal (σ × Bytes)}
    (each : ∀ state name, Local (readEntry state name)) {fuel : Nat} {first : Bool}
    {state last : σ} {text rest : Bytes}
    (read : readEntries readEntry fuel first state text = .ok (last, rest)) {tail : Bytes}
    (ends : Ends tail) (more : Nat)
    : readEntries readEntry (fuel + more) first state (text ++ tail) = .ok (last, rest ++ tail) := by
  induction fuel generalizing first state text with
  | zero => cases read
  | succ fuel ih =>
      rw [readEntries] at read
      rw [Nat.add_right_comm, readEntries]
      obtain ⟨⟨found, left⟩, named, read⟩ := bind_eq_ok.mp read
      rw [nextName_local named, ok_bind]
      cases found with
      | false =>
          cases read
          rfl
      | true =>
          obtain ⟨⟨name, valued⟩, string, read⟩ := bind_eq_ok.mp read
          obtain ⟨⟨next, others⟩, entry, read⟩ := bind_eq_ok.mp read
          simp only [readString_local string, ok_bind, each state name _ _ _ tail entry ends]
          exact ih read

/-- An entry of an object is read again if its value is. -/
theorem local_readEntry {read : Bytes → Except Refusal (α × Bytes)} (each : Local read)
    (table : Table α) (name : String)
    : Local (readEntry read table name) := by
  intro text last rest tail entry ends
  obtain ⟨left, colon, entry⟩ := bind_eq_ok.mp entry
  obtain ⟨⟨value, others⟩, valued, entry⟩ := bind_eq_ok.mp entry
  rw [readEntry, readColon_local colon, ok_bind, each left value others tail valued ends]
  cases entry
  rfl

/-- An object is read again if the values in it are. -/
theorem local_readTable {read : Bytes → Except Refusal (α × Bytes)} (each : Local read)
    : Local (readTable read) := by
  intro text table rest tail reads ends
  cases skipped : skipBlanks text with
  | nil =>
      rw [readTable, skipped] at reads
      cases reads
  | cons b more =>
      rw [readTable, skipped] at reads
      rw [readTable, skipBlanks_local skipped]
      dsimp only at reads ⊢
      split_ifs at reads ⊢
      have length : (more ++ tail).length + 1 = more.length + 1 + tail.length := by
        rw [List.length_append]
        omega
      rw [readObject] at reads
      rw [readObject, length]
      exact readEntries_local (local_readEntry each) reads ends _

-----------------------------------------------------------------------------------------
-- Numbers
-----------------------------------------------------------------------------------------

/-- What is left after the bytes of a kind begins with none of them, if what follows does not. -/
theorem avoids_dropWhile {kind : UInt8 → Bool} {tail : Bytes} (stops : Avoids kind tail)
    (text : Bytes)
    : Avoids kind (text.dropWhile kind ++ tail) := by
  intro b head
  cases left : text.dropWhile kind with
  | nil =>
      rw [left] at head
      exact stops b head
  | cons c rest =>
      rw [left] at head
      obtain rfl := Option.some.inj head
      simpa [left] using List.head?_dropWhile_not kind text

/-- The same bytes of a kind are taken and left before what begins with no further one. -/
theorem takeWhile_local {kind : UInt8 → Bool} {tail : Bytes} (stops : Avoids kind tail)
    (text : Bytes)
    : (text ++ tail).takeWhile kind = text.takeWhile kind
      ∧ (text ++ tail).dropWhile kind = text.dropWhile kind ++ tail := by
  have all : ∀ b ∈ text.takeWhile kind, kind b = true := fun b => List.mem_takeWhile_imp
  have stops := avoids_dropWhile stops text
  have split : text ++ tail = text.takeWhile kind ++ (text.dropWhile kind ++ tail) := by
    rw [← List.append_assoc, List.takeWhile_append_dropWhile]
  rw [split]
  exact ⟨takeWhile_run all stops, dropWhile_run all stops⟩

/-- The digits of a whole number are found again. By cases on whether it is zero, behind which no
digit may stand.
-/
theorem wholeDigits_local {text digits rest tail : Bytes}
    (read : wholeDigits text = .ok (digits, rest)) (stops : Avoids isDigit tail)
    : wholeDigits (text ++ tail) = .ok (digits, rest ++ tail) := by
  cases text with
  | nil => cases read
  | cons b text =>
      obtain ⟨taken, left⟩ := takeWhile_local stops (b :: text)
      simp only [wholeDigits, List.cons_append] at read taken left ⊢
      split_ifs at read ⊢ with zero digit
      · cases text with
        | nil =>
            cases read
            cases tail with
            | nil => rfl
            | cons c more => simp [stops c rfl]
        | cons c text =>
            simp only [List.cons_append] at read ⊢
            split_ifs at read ⊢
            cases read
            rfl
      · cases read
        rw [taken, left]

/-- A number that goes on after its digits is no integer. -/
theorem fractional_of_fractional {significand : Nat} {exponent : Int} {text rest : Bytes}
    {number : Number} (read : fractional significand exponent text = .ok (number, rest))
    : number = .fractional := by
  rw [fractional] at read
  split_ifs at read
  cases read
  rfl

/-- A number with an exponent is none. -/
theorem fractional_of_readExponent {significand : Nat} {exponent : Int} {text rest : Bytes}
    {number : Number} (read : readExponent significand exponent text = .ok (number, rest))
    : number = .fractional := by
  rw [readExponent] at read
  dsimp only at read
  split_ifs at read
  · cases read
    rfl
  · exact fractional_of_fractional read
  · exact fractional_of_fractional read

/-- A number with a fraction is none, by cases on whether an exponent follows. -/
theorem fractional_of_readFraction {significand : Nat} {exponent : Int} {text rest : Bytes}
    {number : Number} (read : readFraction significand exponent text = .ok (number, rest))
    : number = .fractional := by
  rw [readFraction] at read
  dsimp only at read
  split_ifs at read
  unfold readOptionalExponent at read
  split at read
  · split_ifs at read
    · exact fractional_of_readExponent read
    · exact fractional_of_fractional read
  · exact fractional_of_fractional read

/-- An integer consists of its digits: all of them fit, and neither a fraction nor an exponent
follows.
-/
theorem readNumber_eq_integer {negative : Bool} {text rest : Bytes} {value : Int}
    (read : readNumber negative text = .ok (.integer value, rest))
    : ∃ digits magnitude,
        wholeDigits text = .ok (digits, rest)
        ∧ gather 0 digits = (magnitude, [])
        ∧ signed negative magnitude = .integer value
        ∧ Avoids goesOn rest := by
  obtain ⟨⟨digits, after⟩, whole, read⟩ := bind_eq_ok.mp read
  cases gathered : gather 0 digits with
  | mk magnitude left =>
      simp only [gathered] at read
      cases after with
      | nil =>
          split_ifs at read with fits
          · obtain ⟨same, rfl⟩ := Prod.mk.inj (Except.ok.inj read)
            obtain rfl := List.isEmpty_iff.mp fits
            exact ⟨digits, magnitude, whole, gathered, same, by simp [Avoids]⟩
          · cases fractional_of_fractional read
      | cons b more =>
          dsimp only at read
          split_ifs at read with point mark fits
          · cases fractional_of_readFraction read
          · cases fractional_of_readExponent read
          · obtain ⟨same, rfl⟩ := Prod.mk.inj (Except.ok.inj read)
            obtain rfl := List.isEmpty_iff.mp fits
            refine ⟨digits, magnitude, whole, gathered, same, ?_⟩
            simpa [Avoids, goesOn, point] using mark
          · cases fractional_of_fractional read

/-- An integer is read again, as no more digits follow it. -/
theorem readNumber_local {negative : Bool} {text rest tail : Bytes} {value : Int}
    (read : readNumber negative text = .ok (.integer value, rest)) (ends : Ends tail)
    : readNumber negative (text ++ tail) = .ok (.integer value, rest ++ tail) := by
  obtain ⟨digits, magnitude, whole, gathered, same, stops⟩ := readNumber_eq_integer read
  have stops : Avoids goesOn (rest ++ tail) := by
    cases rest with
    | nil => exact ends.avoids (by decide)
    | cons b more => exact stops
  rw [readNumber_integer (wholeDigits_local whole (ends.avoids (by decide))) gathered stops, same]

/-- A number of 64 bits is an integer. -/
theorem asInt64_eq_ok {reading : Except Refusal (Number × Bytes)} {value : Int64} {rest : Bytes}
    : asInt64 reading = .ok (value, rest)
      ↔ ∃ number,
          reading = .ok (.integer number, rest)
          ∧ Number.toInt64? (.integer number) = some value := by
  obtain refusal | ⟨number | -, left⟩ := reading
  · simp [asInt64]
  · cases held : Number.toInt64? (.integer number) with
    | none => simp_all [asInt64]
    | some value => simp_all [asInt64, and_comm]
  · simp [asInt64, Number.toInt64?]

/-- A 64-bit integer is read again. -/
theorem local_readInt64 : Local readInt64 := by
  intro text value rest tail reads ends
  cases skipped : skipBlanks text with
  | nil =>
      rw [readInt64, skipped] at reads
      cases reads
  | cons b more =>
      rw [readInt64, skipped] at reads
      rw [readInt64, skipBlanks_local skipped]
      dsimp only at reads ⊢
      split_ifs at reads ⊢
      · obtain ⟨number, read, held⟩ := asInt64_eq_ok.mp reads
        exact asInt64_eq_ok.mpr ⟨number, readNumber_local read ends, held⟩
      · obtain ⟨number, read, held⟩ := asInt64_eq_ok.mp reads
        exact asInt64_eq_ok.mpr ⟨number, readNumber_local read ends, held⟩

-----------------------------------------------------------------------------------------
-- Values of a shape
-----------------------------------------------------------------------------------------

/-- A truth value is read again. -/
theorem local_readBool : Local readBool := by
  intro text value rest tail reads _
  cases skipped : skipBlanks text with
  | nil =>
      rw [readBool, skipped] at reads
      cases reads
  | cons b more =>
      rw [readBool, skipped] at reads
      rw [readBool, skipBlanks_local skipped]
      dsimp only at reads ⊢
      split_ifs at reads ⊢
      · obtain ⟨left, word, same⟩ := map_eq_ok.mp reads
        cases same
        rw [expect_local word]
        rfl
      · obtain ⟨left, word, same⟩ := map_eq_ok.mp reads
        cases same
        rw [expect_local word]
        rfl

/-- A value of any shape is read again, by induction on the shape. -/
theorem local_readShape (shape : Shape) : Local (readShape shape) := by
  induction shape with
  | flag => exact local_readBool
  | integer => exact local_readInt64
  | table values ih => exact local_readTable ih

/-- Blanks in front of a value do not matter. By cases on its shape. -/
theorem readShape_blanks {before : Bytes} (blank : Blanks before) (shape : Shape) (text : Bytes)
    : readShape shape (before ++ text) = readShape shape text := by
  cases shape with
  | flag =>
      show readBool _ = readBool _
      rw [readBool, skipBlanks_append blank, readBool]
  | integer =>
      show readInt64 _ = readInt64 _
      rw [readInt64, skipBlanks_append blank, readInt64]
  | table values =>
      show readTable _ _ = readTable _ _
      rw [readTable, skipBlanks_append blank, readTable]

end CharLcd.Json

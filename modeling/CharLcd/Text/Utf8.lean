/-! Texts as bytes and back. -/

namespace CharLcd

/-- The content of a file or of a variable. -/
abbrev Bytes := List UInt8

namespace Text

/-- The bytes of a text. -/
def encode (text : String) : Bytes :=
  text.toUTF8.data.toList

/-- The text that the bytes encode, if they encode one. -/
def decode? (bytes : Bytes) : Option String :=
  String.fromUTF8? ⟨bytes.toArray⟩

/-- Bytes that are those of a text decode to it. -/
private theorem fromUTF8?_of_eq {bytes : ByteArray} {text : String} (h : bytes = text.toByteArray)
    : String.fromUTF8? bytes = some text := by
  subst h
  simp only [String.fromUTF8?, text.isValidUTF8, dite_true]
  rfl

/-- The bytes of a text encode that text. -/
@[simp]
theorem decode?_encode (text : String) : decode? (encode text) = some text :=
  fromUTF8?_of_eq rfl

/-- Bytes encode a text exactly if they are the bytes of that text. -/
theorem decode?_eq_some_iff {bytes : Bytes} {text : String}
    : decode? bytes = some text ↔ bytes = encode text := by
  constructor
  · intro h
    unfold decode? String.fromUTF8? at h
    split at h
    · rw [Option.some.injEq] at h
      subst h
      rfl
    · contradiction
  · rintro rfl
    exact decode?_encode text

/-- Different texts have different bytes, as decoding gives the text back. -/
theorem encode_injective {first second : String} (h : encode first = encode second)
    : first = second := by
  have := congrArg decode? h
  simpa using this

/-- The bytes of a text followed by another are those of the two texts in turn. -/
@[simp]
theorem encode_append (first second : String)
    : encode (first ++ second) = encode first ++ encode second := by
  simp [encode, String.toUTF8]

end Text

end CharLcd

import CharLcd.Config.Json.Number

/-! Values of a JSON text: those of a kind that is asked for, and those passed over unread. -/

namespace CharLcd.Json

/-- Reads the colon between a name and its value. -/
def readColon (text : Bytes) : Except Refusal Bytes :=
  match skipBlanks text with
  | [] => .error .truncated
  | b :: rest => if b = ascii ':' then .ok rest else .error .malformed

mutual

/-- Passes over one value of any kind, at any depth of nesting that the fuel allows for. -/
def skipValue : Nat → Bytes → Except Refusal Bytes
  | 0, _ => .error .truncated
  | fuel + 1, text =>
      match skipBlanks text with
      | [] => .error .truncated
      | b :: rest =>
          if b = ascii '"' then skipString rest
          else if b = ascii '[' then
            match skipBlanks rest with
            | [] => .error .truncated
            | c :: more => if c = ascii ']' then .ok more else skipElements fuel rest
          else if b = ascii '\x7b' then
            match skipBlanks rest with
            | [] => .error .truncated
            | c :: more => if c = ascii '\x7d' then .ok more else skipMembers fuel rest
          else if b = ascii 'n' then expect (word "ull") rest
          else if b = ascii 't' then expect (word "rue") rest
          else if b = ascii 'f' then expect (word "alse") rest
          else if b = ascii '-' then skipNumber rest
          else if isDigit b then skipNumber (b :: rest)
          else .error .malformed

/-- Passes over the values of a list up to its closing bracket. -/
def skipElements : Nat → Bytes → Except Refusal Bytes
  | 0, _ => .error .truncated
  | fuel + 1, text => do
      let rest ← skipValue fuel text
      match skipBlanks rest with
      | [] => throw .truncated
      | b :: more =>
          if b = ascii ',' then skipElements fuel more
          else if b = ascii ']' then return more
          else throw .malformed

/-- Passes over the named values of an object up to its closing brace. -/
def skipMembers : Nat → Bytes → Except Refusal Bytes
  | 0, _ => .error .truncated
  | fuel + 1, text =>
      match skipBlanks text with
      | [] => .error .truncated
      | b :: rest =>
          if b = ascii '"' then do
            let rest ← skipString rest
            let rest ← readColon rest
            let rest ← skipValue fuel rest
            match skipBlanks rest with
            | [] => throw .truncated
            | c :: more =>
                if c = ascii ',' then skipMembers fuel more
                else if c = ascii '\x7d' then return more
                else throw .malformed
          else .error .malformed

end

/-- Passes over one value of any kind. Every two steps take at least one byte off the text, so twice
its length is fuel enough.
-/
def skip (text : Bytes) : Except Refusal Bytes :=
  skipValue (2 * text.length + 1) text

/-- The refusal in place of the result of a reading, if it has one, or else the given refusal. -/
def refusalOr {α : Type} (otherwise : Refusal) : Except Refusal α → Refusal
  | .ok _ => otherwise
  | .error refusal => refusal

/-- Why a value of another kind than asked for is refused. A word, a number or a string is read
first, so what is wrong with it comes before its being of the wrong kind.
-/
def refuse (text : Bytes) : Refusal :=
  match text with
  | [] => .truncated
  | b :: rest =>
      if b = ascii 'n' then refusalOr .mismatched (expect (word "ull") rest)
      else if b = ascii 't' then refusalOr .mismatched (expect (word "rue") rest)
      else if b = ascii 'f' then refusalOr .mismatched (expect (word "alse") rest)
      else if b = ascii '-' then refusalOr .mismatched (readNumber true rest)
      else if isDigit b then refusalOr .mismatched (readNumber false text)
      else if b = ascii '"' then refusalOr .mismatched (readString rest)
      else if b = ascii '[' || b = ascii '\x7b' then .mismatched
      else .malformed

/-- Reads a truth value. -/
def readBool (text : Bytes) : Except Refusal (Bool × Bytes) :=
  match skipBlanks text with
  | [] => .error .truncated
  | b :: rest =>
      if b = ascii 't' then (expect (word "rue") rest).map (true, ·)
      else if b = ascii 'f' then (expect (word "alse") rest).map (false, ·)
      else .error (refuse (b :: rest))

/-- The 64-bit integer that a number stands for, if it stands for one. -/
def Number.toInt64? : Number → Option Int64
  | .integer value =>
      if Int64.minValue.toInt ≤ value ∧ value ≤ Int64.maxValue.toInt then
        some (Int64.ofInt value)
      else
        none
  | .fractional => none

/-- Turns a number into a 64-bit integer, if it is one. -/
def asInt64 (reading : Except Refusal (Number × Bytes)) : Except Refusal (Int64 × Bytes) :=
  match reading with
  | .error refusal => .error refusal
  | .ok (number, rest) =>
      match number.toInt64? with
      | some value => .ok (value, rest)
      | none => .error .mismatched

/-- Reads a 64-bit integer. -/
def readInt64 (text : Bytes) : Except Refusal (Int64 × Bytes) :=
  match skipBlanks text with
  | [] => .error .truncated
  | b :: rest =>
      if b = ascii '-' then asInt64 (readNumber true rest)
      else if isDigit b then asInt64 (readNumber false (b :: rest))
      else .error (refuse (b :: rest))

/-- Looks for the next name of an object. Gives whether there is one, and the text after its
opening quote or after the closing brace.
-/
def nextName (first : Bool) (text : Bytes) : Except Refusal (Bool × Bytes) :=
  match skipBlanks text with
  | [] => .error .truncated
  | b :: rest =>
      if b = ascii '\x7d' then .ok (false, rest)
      else if first then
        if b = ascii '"' then .ok (true, rest) else .error .malformed
      else if b = ascii ',' then
        match skipBlanks rest with
        | [] => .error .truncated
        | c :: more => if c = ascii '"' then .ok (true, more) else .error .malformed
      else .error .malformed

/-- Reads the named values of an object whose opening brace was read. The reader of an entry gets
the name and the text after it, from the colon on.
-/
def readEntries {σ : Type} (readEntry : σ → String → Bytes → Except Refusal (σ × Bytes))
    : Nat → Bool → σ → Bytes → Except Refusal (σ × Bytes)
  | 0, _, _, _ => .error .truncated
  | fuel + 1, first, state, text => do
      match ← nextName first text with
      | (false, rest) => return (state, rest)
      | (true, rest) =>
          let (name, rest) ← readString rest
          let (state, rest) ← readEntry state name rest
          readEntries readEntry fuel false state rest

/-- Reads an object whose opening brace was read. Every entry takes at least two bytes off the text,
so its length is fuel enough.
-/
def readObject {σ : Type} (readEntry : σ → String → Bytes → Except Refusal (σ × Bytes))
    (state : σ) (text : Bytes)
    : Except Refusal (σ × Bytes) :=
  readEntries readEntry (text.length + 1) true state text

/-- Looks for the next value of a list. Gives whether there is one, and the text at that value or at
the closing bracket.
-/
def nextElement (first : Bool) (text : Bytes) : Except Refusal (Bool × Bytes) :=
  match skipBlanks text with
  | [] => .error .truncated
  | b :: rest =>
      if b = ascii ']' then .ok (false, b :: rest)
      else if first then .ok (true, b :: rest)
      else if b = ascii ',' then
        match skipBlanks rest with
        | [] => .error .truncated
        | c :: more => if c = ascii ']' then .error .malformed else .ok (true, c :: more)
      else .error .malformed

/-- Reads the closing bracket of a list of which no further value is asked for. -/
def endList (text : Bytes) : Except Refusal Bytes :=
  match skipBlanks text with
  | [] => .error .truncated
  | b :: rest => if b = ascii ']' then .ok rest else .error .malformed

/-- Makes sure that nothing but blanks is left of a document. -/
def endDocument (text : Bytes) : Except Refusal Unit :=
  if (skipBlanks text).isEmpty then .ok () else .error .malformed

end CharLcd.Json

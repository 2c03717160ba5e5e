import CharLcd.Text.Utf8

/-! The variables of a process.

The environment is kept as it is handed to a process: a list of texts of the form `NAME=value`. The
value of a variable is what follows its name and the first equals sign in the first text that
begins so.
-/

namespace CharLcd

/-- What is left of the bytes after the given beginning, if they begin so. -/
def Bytes.after? : Bytes → Bytes → Option Bytes
  | [], rest => some rest
  | _ :: _, [] => none
  | b :: beginning, c :: rest => if b = c then after? beginning rest else none

/-- Bytes begin with a part exactly if they are that part and something more. -/
theorem Bytes.after?_eq_some_iff {beginning bytes rest : Bytes}
    : Bytes.after? beginning bytes = some rest ↔ bytes = beginning ++ rest := by
  induction beginning generalizing bytes with
  | nil => simp [after?]
  | cons b beginning ih =>
      cases bytes with
      | nil => simp [after?]
      | cons c bytes =>
          by_cases h : b = c <;> simp [after?, h, ih]
          exact fun same => absurd same.symm h

/-- The variables of a process, as texts of the form `NAME=value`. -/
structure Environment where
  entries : List Bytes := []
deriving DecidableEq, Repr

namespace Environment

/-- How the text of a variable begins: with its name and an equals sign. -/
def opening (name : String) : Bytes :=
  Text.encode name ++ [0x3d]

/-- The environment in which the given variables have the given values. -/
def ofList (values : List (String × Bytes)) : Environment :=
  ⟨values.map fun entry => opening entry.1 ++ entry.2⟩

/-- Whether a text can name a variable at all. -/
def canName (name : String) : Bool :=
  name ≠ "" && !name.toList.contains '\x00'

/-- The bytes a variable holds, if it is set. -/
def bytes? (env : Environment) (name : String) : Option Bytes :=
  if canName name then env.entries.findSome? (Bytes.after? (opening name)) else none

/-- The text a variable holds. A variable that holds no text counts as one that is not set. -/
def text? (env : Environment) (name : String) : Option String :=
  (env.bytes? name).bind Text.decode?

/-- The environment after a variable was given a value. -/
def set (env : Environment) (name : String) (value : Bytes) : Environment :=
  ⟨env.entries.filter (fun entry => (Bytes.after? (opening name) entry).isNone)
    ++ [opening name ++ value]⟩

end Environment

end CharLcd

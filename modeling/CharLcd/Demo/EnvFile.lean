import CharLcd.Config.Environment
import CharLcd.Config.Table
import CharLcd.Text.Alphanumeric
import CharLcd.Text.Blank

/-! Files that define variables, one `NAME=value` to a line.

A value may be quoted, may hold escaped characters and may refer to variables by a dollar sign. A
variable that the environment defines already keeps its value. Loading stops at the first line that
cannot be understood; the lines before it count.
-/

namespace CharLcd.EnvFile

/-- What is known while a file is loaded: the environment, and the values of the lines so far. -/
structure State where
  environment : Environment
  values : Table String := []

/-- The text that a reference stands for. The environment comes before the lines of the file, and a
name that neither knows stands for nothing.
-/
def resolve (state : State) (name : List Char) : List Char :=
  let name := String.ofList name
  ((state.environment.text? name <|> state.values.find? name).getD "").toList

/-- How the next character of a value is to be taken. -/
inductive Mode where
  /-- As it is, unless it begins something. -/
  | plain
  /-- As the character that follows a backslash. -/
  | escaped
  /-- As it is, up to the closing single quote. -/
  | literal
  /-- As a part of the name behind a dollar sign, or as what ends that name. -/
  | bareName (name : List Char)
  /-- As a part of a name in braces. -/
  | bracedName (name : List Char)
  /-- As a blank or a comment behind the value. -/
  | finished
deriving DecidableEq, Repr

/-- The character that an escaped character stands for. -/
def unescape? (c : Char) : Option Char :=
  if c = '\\' ∨ c = '\'' ∨ c = '"' ∨ c = '$' ∨ c = ' ' then some c
  else if c = 'n' then some '\n'
  else none

/-- Scans the rest of a value. Between double quotes blanks and single quotes stand for themselves.
The value so far is kept; a value that is not closed is refused.
-/
def scan (resolve : List Char → List Char) (quotes : Bool) (mode : Mode) (value : List Char)
    : List Char → Option (List Char)
  | [] =>
      if quotes then none
      else
        match mode with
        | .literal | .bracedName _ => none
        | .bareName name => some (value ++ resolve name)
        | .plain | .escaped | .finished => some value
  | c :: rest =>
      match mode with
      | .finished =>
          if c = ' ' ∨ c = '\t' then scan resolve quotes .finished value rest
          else if c = '#' then some value
          else none
      | .escaped =>
          (unescape? c).bind fun c => scan resolve quotes .plain (value ++ [c]) rest
      | .literal =>
          if c = '\'' then scan resolve quotes .plain value rest
          else scan resolve quotes .literal (value ++ [c]) rest
      | .bareName name =>
          if Text.isAlphanumeric c then scan resolve quotes (.bareName (name ++ [c])) value rest
          else if c = '\x7b' ∧ name.isEmpty then scan resolve quotes (.bracedName []) value rest
          else if c = '$' then scan resolve quotes (.bareName []) (value ++ resolve name) rest
          else scan resolve quotes .plain (value ++ resolve name ++ [c]) rest
      | .bracedName name =>
          if Text.isAlphanumeric c then scan resolve quotes (.bracedName (name ++ [c])) value rest
          else if c = '\x7d' then scan resolve quotes .plain (value ++ resolve name) rest
          else scan resolve quotes (.bracedName (name ++ [c])) value rest
      | .plain =>
          if c = '$' then scan resolve quotes (.bareName []) value rest
          else if c = '\\' then scan resolve quotes .escaped value rest
          else if c = '"' then scan resolve (!quotes) .plain value rest
          else if quotes then scan resolve quotes .plain (value ++ [c]) rest
          else if c = '\'' then scan resolve quotes .literal value rest
          else if c = ' ' ∨ c = '\t' then scan resolve quotes .finished value rest
          else scan resolve quotes .plain (value ++ [c]) rest

/-- Whether a character can begin a name. -/
def beginsName (c : Char) : Bool :=
  c.isAlpha || c = '_'

/-- Whether a character can stand in a name. -/
def continuesName (c : Char) : Bool :=
  c.isAlphanum || c = '_' || c = '.'

/-- Splits a name off a line. -/
def splitName : List Char → Option (List Char × List Char)
  | [] => none
  | c :: rest =>
      if beginsName c then
        some ((c :: rest).takeWhile continuesName, (c :: rest).dropWhile continuesName)
      else none

/-- Takes an equals sign off a line. -/
def splitEquals : List Char → Option (List Char)
  | [] => none
  | c :: rest => if c = '=' then some rest else none

/-- What a line says. -/
inductive Definition where
  /-- Nothing: it is blank or a comment. -/
  | nothing
  | assigned (name value : String)
  /-- It cannot be understood. -/
  | refused
deriving DecidableEq, Repr

/-- Splits a line into the name and what follows the equals sign. The word `export` may stand in
front of the name.
-/
def splitLine (line : List Char) : Option (List Char × List Char) := do
  let (name, rest) ← splitName line
  let rest := Text.trimStart rest
  match splitEquals rest with
  | some value => return (name, value)
  | none =>
      if name = "export".toList then
        let (name, rest) ← splitName rest
        let value ← splitEquals (Text.trimStart rest)
        return (name, value)
      else none

/-- Reads the value of a definition. -/
def readValue (state : State) (text : List Char) : Option (List Char) :=
  match text with
  | [] => some []
  | c :: _ => if c = '#' then some [] else scan (resolve state) false .plain [] text

/-- Reads a line. -/
def readLine (state : State) (line : List Char) : Definition :=
  match Text.trim line with
  | [] => .nothing
  | c :: rest =>
      if c = '#' then .nothing
      else
        let definition := do
          let (name, value) ← splitLine (c :: rest)
          let value ← readValue state (Text.trimStart value)
          return Definition.assigned (String.ofList name) (String.ofList value)
        definition.getD .refused

/-- How loading a file ended. -/
inductive Outcome where
  | loaded (environment : Environment)
  /-- A value holds a zero byte, which no variable can hold. -/
  | impossible
deriving DecidableEq, Repr

/-- Loads lines one after the other. -/
def loadLines (state : State) : List Bytes → Outcome
  | [] => .loaded state.environment
  | line :: rest =>
      match Text.decode? line with
      | none => .loaded state.environment
      | some line =>
          match readLine state line.toList with
          | .nothing => loadLines state rest
          | .refused => .loaded state.environment
          | .assigned name value =>
              let values := state.values.put name value
              if (state.environment.text? name).isSome then
                loadLines { state with values } rest
              else if value.toList.contains '\x00' then .impossible
              else
                let environment := state.environment.set name (Text.encode value)
                loadLines { environment, values } rest

/-- Splits bytes at every line end. -/
def splitLines : Bytes → List Bytes
  | [] => [[]]
  | b :: rest =>
      if b = 0x0a then [] :: splitLines rest
      else
        match splitLines rest with
        | [] => [[b]]
        | line :: lines => (b :: line) :: lines

/-- The environment after loading a file. -/
def load (environment : Environment) (file : Bytes) : Outcome :=
  loadLines { environment } (splitLines file)

end CharLcd.EnvFile

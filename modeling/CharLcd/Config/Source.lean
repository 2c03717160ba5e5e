import CharLcd.Config.Environment
import CharLcd.Config.Table
import CharLcd.Journal.Basic
import CharLcd.Text.Blank

/-! Integers looked up by section and key, from a table or from the environment. -/

namespace CharLcd

/-- A place to look integers up in. A lookup falls back to the given default, and may have something
to report.
-/
structure ConfigSource where
  getInt : (area key : String) → (fallback : Int64) → Logged Int64

namespace ConfigSource

/-- The single text under which a table keeps a section and a key. -/
def flatName (area key : String) : String :=
  area ++ "/" ++ key

/-- A lookup in the values stored under flat names. -/
def ofTable (table : Table Int64) : ConfigSource where
  getInt area key fallback := pure ((table.find? (flatName area key)).getD fallback)

/-- The values of a list of assignments, the last one to a flat name winning. -/
def tableOf (assignments : List (String × String × Int64)) : Table Int64 :=
  assignments.foldl (fun table entry => table.put (flatName entry.1 entry.2.1) entry.2.2) []

/-- A lookup in a list of assignments. -/
def ofAssignments (assignments : List (String × String × Int64)) : ConfigSource :=
  ofTable (tableOf assignments)

/-- The variable that holds the value of a key: section and key in ASCII capitals, joined by an
underscore.
-/
def variableName (area key : String) : String :=
  String.ofList ((area ++ "_" ++ key).toList.map Char.toUpper)

/-- The integer in the text of a variable. Blanks around the numeral do not count. -/
def integer? (text : String) : Option Int64 :=
  Text.int64? (Text.trim text.toList)

/-- A lookup in the environment. A variable that holds no integer is reported and ignored. -/
def ofEnvironment (env : Environment) : ConfigSource where
  getInt area key fallback :=
    let name := variableName area key
    match env.text? name with
    | none => pure fallback
    | some value =>
        match integer? value with
        | some number => pure number
        | none => do
            note (.integerIgnored name value fallback)
            return fallback

end ConfigSource

end CharLcd

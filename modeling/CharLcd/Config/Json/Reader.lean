import CharLcd.Config.Json.Schema
import CharLcd.Config.Json.Value

/-! A reader that goes through a document once, from the left.

The first thing wrong with a document decides how it is refused. A record is an object with its fields in
any order; it may also be a list of their values. A field that is missing leaves the record as it is, one
of another name is passed over, and one that comes twice is refused.
-/

namespace CharLcd.Json

-----------------------------------------------------------------------------------------
-- Values
-----------------------------------------------------------------------------------------

/-- Reads the value of a name and stores it, in place of an earlier one under the same name. -/
def readEntry {α : Type} (readValue : Bytes → Except Refusal (α × Bytes)) (table : Table α)
    (name : String) (text : Bytes)
    : Except Refusal (Table α × Bytes) := do
  let rest ← readColon text
  let (value, rest) ← readValue rest
  return (table.put name value, rest)

/-- Reads an object whose values are all of one kind. -/
def readTable {α : Type} (readValue : Bytes → Except Refusal (α × Bytes)) (text : Bytes)
    : Except Refusal (Table α × Bytes) :=
  match skipBlanks text with
  | [] => .error .truncated
  | b :: rest =>
      if b = ascii '\x7b' then readObject (readEntry readValue) [] rest
      else .error (refuse (b :: rest))

/-- Reads a value of a shape. -/
def readShape : (shape : Shape) → Bytes → Except Refusal (shape.Value × Bytes)
  | .flag => readBool
  | .integer => readInt64
  | .table values => readTable (readShape values)

/-- Reads a document that is a value of a shape. -/
def readValue (shape : Shape) (document : Bytes) : Except Refusal shape.Value := do
  let (value, rest) ← readShape shape document
  endDocument rest
  return value

-----------------------------------------------------------------------------------------
-- Records
-----------------------------------------------------------------------------------------

variable {ρ : Type}

/-- A record that is read, with the names of the fields that it has already. -/
structure Draft (ρ : Type) where
  names : List String := []
  record : ρ

/-- Reads one field of a record, or passes over one that is not asked for. -/
def readMember (schema : Schema ρ) (draft : Draft ρ) (name : String) (text : Bytes)
    : Except Refusal (Draft ρ × Bytes) := do
  match schema.field? name with
  | some field =>
      if name ∈ draft.names then throw .mismatched
      let rest ← readColon text
      let (value, rest) ← readShape field.shape rest
      return (⟨name :: draft.names, field.store value draft.record⟩, rest)
  | none =>
      let rest ← readColon text
      let rest ← skip rest
      return (draft, rest)

/-- Reads the fields of a record that is written as a list, in their order and as far as it goes. -/
def readElements : List (Schema.Field ρ) → Bool → ρ → Bytes → Except Refusal (ρ × Bytes)
  | [], _, record, text => return (record, text)
  | field :: fields, first, record, text => do
      match ← nextElement first text with
      | (false, rest) => readElements fields false record rest
      | (true, rest) =>
          let (value, rest) ← readShape field.shape rest
          readElements fields false (field.store value record) rest

/-- Reads a record, up to its closing brace or bracket. -/
def readFields (schema : Schema ρ) (text : Bytes) : Except Refusal (ρ × Bytes) := do
  match skipBlanks text with
  | [] => throw .truncated
  | b :: rest =>
      if b = ascii '\x7b' then
        let (draft, rest) ← readObject (readMember schema) { record := schema.missing } rest
        return (draft.record, rest)
      else if b = ascii '[' then
        let (record, rest) ← readElements schema.fields true schema.missing rest
        let rest ← endList rest
        return (record, rest)
      else
        throw (refuse (b :: rest))

/-- Reads a document that is a record. -/
def readRecord (schema : Schema ρ) (document : Bytes) : Except Refusal ρ := do
  let (record, rest) ← readFields schema document
  endDocument rest
  return record

/-- The reader that goes through a document once. -/
def reader : Reader where
  value := readValue
  record := readRecord

end CharLcd.Json

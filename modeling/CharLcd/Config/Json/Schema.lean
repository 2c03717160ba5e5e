import CharLcd.Config.Json.Text
import CharLcd.Config.Table

/-! What a document can be asked for, and readers that answer.

A single value is asked for by its shape, and a record by its fields. How a document is read is up to
its reader: it gets what is asked for and gives what the document holds of it, or why it is refused.
-/

namespace CharLcd.Json

/-- The shapes in which a value can be asked for. -/
inductive Shape where
  | flag
  /-- An integer of 64 bits. -/
  | integer
  /-- Values of one shape under names. -/
  | table (values : Shape)
deriving DecidableEq, Repr

/-- What a value of a shape is read to. -/
def Shape.Value : Shape → Type
  | flag => Bool
  | integer => Int64
  | table values => Table values.Value

/-- A field that is asked for, and how its value is stored in the record. -/
structure Schema.Field (ρ : Type) where
  name : String
  shape : Shape
  store : shape.Value → ρ → ρ

/-- What is asked for to make up a record. -/
structure Schema (ρ : Type) where
  fields : List (Schema.Field ρ)
  /-- The record without any of the fields. -/
  missing : ρ
  distinct : (fields.map Schema.Field.name).Nodup

namespace Schema

variable {ρ : Type}

/-- The names of the fields that are asked for. -/
def names (schema : Schema ρ) : List String :=
  schema.fields.map Field.name

/-- The field of a name, if it is asked for. -/
def field? (schema : Schema ρ) (name : String) : Option (Field ρ) :=
  schema.fields.find? (·.name = name)

end Schema

/-- A reader of documents. -/
structure Reader where
  /-- Reads a document that is a single value. -/
  value : (shape : Shape) → Bytes → Except Refusal shape.Value
  /-- Reads a document that is a record. -/
  record : {ρ : Type} → Schema ρ → Bytes → Except Refusal ρ

end CharLcd.Json

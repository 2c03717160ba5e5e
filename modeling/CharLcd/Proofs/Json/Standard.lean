import CharLcd.Config.Json.Schema
import CharLcd.Proofs.Json.Grammar

/-! What is expected of a reader of documents.

How it goes about reading is left open. It is only said what it makes of the documents that consist
of one value and of those that are an object, and that it does so wherever the parts of a document
stand: a value in an object is read as it is read by itself.
-/

namespace CharLcd

/-- The last value written under a name. -/
def Table.lastUnder? {α : Type} (entries : List (String × α)) (name : String) : Option α :=
  (entries.reverse.find? (·.1 = name)).map (·.2)

/-- One more entry is the last under its own name. -/
theorem Table.lastUnder?_concat {α : Type} (entries : List (String × α)) (entry : String × α)
    (name : String)
    : lastUnder? (entries ++ [entry]) name
      = if name = entry.1 then some entry.2 else lastUnder? entries name := by
  rw [lastUnder?, List.reverse_append, List.reverse_singleton, List.singleton_append,
    List.find?_cons]
  by_cases same : name = entry.1
  · simp [same]
  · simp [same, Ne.symm same, lastUnder?]

namespace Json

-----------------------------------------------------------------------------------------
-- Documents in parts
-----------------------------------------------------------------------------------------

/-- What is written in some form, with blanks around it. -/
inductive Padded (form : Bytes → Prop) : Bytes → Prop where
  | blanks {before text after : Bytes} (blank : Blanks before) (written : form text)
      (blankToo : Blanks after)
    : Padded form (before ++ (text ++ after))

/-- There may be no blanks at all. -/
theorem Padded.of_form {form : Bytes → Prop} {text : Bytes} (written : form text)
    : Padded form text := by
  have padded : Padded form ([] ++ (text ++ [])) := .blanks blanks_nil written blanks_nil
  rwa [List.nil_append, List.append_nil] at padded

/-- A name in an object and the text of the value under it. -/
abbrev Member := String × Bytes

/-- Members of an object in a row. -/
def Members : List Member → Bytes → Prop :=
  Joined (MemberForm Prod.fst fun member => Eq member.2) true

/-- The documents that are an object of the given members in their order. -/
def ObjectText (members : List Member) : Bytes → Prop :=
  Padded (EntriesForm Eq members)

/-- The texts that begin as an object of the given members and then have one of their names again, in
whatever way it is written and with anything behind.
-/
inductive NamedAgain (members : List Member) (name : String) : Bytes → Prop where
  | again {before row lead inside rest : Bytes} (blank : Blanks before)
      (joined : Members members row) (earlier : name ∈ members.map Prod.fst)
      (separator : Separator false lead) (string : StringForm name.toList inside)
    : NamedAgain members name
        (before ++ ascii '\x7b' :: (row ++ (lead ++ (quoted inside ++ rest))))

/-- How many objects are nested in a value of a shape. -/
def Shape.depth : Shape → Nat
  | flag | integer => 0
  | table values => values.depth + 1

-----------------------------------------------------------------------------------------
-- Readers
-----------------------------------------------------------------------------------------

namespace Reader

variable {ρ : Type}

/-- A text is read to a value of a shape, if it is all of a document. -/
def Accepts (reader : Reader) (shape : Shape) (part : Bytes) : Prop :=
  ∃ value, reader.value shape part = .ok value

/-- A member can stand in a record: it is a field whose value can be read, or it has another name and a
value of any kind.
-/
inductive Admits (reader : Reader) (schema : Schema ρ) : Member → Prop where
  | known {field : Schema.Field ρ} {part : Bytes} (among : field ∈ schema.fields)
      (shallow : field.shape.depth < nestingLimit) (accepted : reader.Accepts field.shape part)
    : Admits reader schema (field.name, part)
  | unknown {name : String} {part : Bytes} (unknown : name ∉ schema.names)
      (value : ValueText nestingLimit part)
    : Admits reader schema (name, part)

/-- A reader that keeps to the standard. -/
structure Standard (reader : Reader) : Prop where
  /-- A truth value is read from its word. -/
  flag : ∀ value text, Padded (BoolForm value) text → reader.value .flag text = .ok value
  /-- An integer within 64 bits is read from its numeral. -/
  integer : ∀ value text, Padded (Int64Form value) text → reader.value .integer text = .ok value
  /-- An object is read to a table. Of several values under a name the last one counts. -/
  last
    : ∀ shape entries text,
        shape.depth < nestingLimit
        → ObjectText entries text
        → (∀ entry ∈ entries, reader.Accepts shape entry.2)
        → ∃ table,
            reader.value (.table shape) text = .ok table
            ∧ ∀ name,
                table.find? name
                = (Table.lastUnder? entries name).bind fun part =>
                    (reader.value shape part).toOption
  /-- Fields that are missing are at their default. -/
  missing
    : ∀ {ρ : Type} (schema : Schema ρ) text,
        ObjectText [] text → reader.record schema text = .ok schema.missing
  /-- One more field is stored in the record of the others. -/
  known
    : ∀ {ρ : Type} (schema : Schema ρ) members field part text longer record value,
        (∀ member ∈ members, reader.Admits schema member)
        → field ∈ schema.fields
        → field.shape.depth < nestingLimit
        → field.name ∉ members.map Prod.fst
        → ObjectText members text
        → ObjectText (members ++ [(field.name, part)]) longer
        → reader.record schema text = .ok record
        → reader.value field.shape part = .ok value
        → reader.record schema longer = .ok (field.store value record)
  /-- One more member of another name changes nothing. -/
  unknown
    : ∀ {ρ : Type} (schema : Schema ρ) members name part text longer record,
        (∀ member ∈ members, reader.Admits schema member)
        → name ∉ schema.names
        → ValueText nestingLimit part
        → ObjectText members text
        → ObjectText (members ++ [(name, part)]) longer
        → reader.record schema text = .ok record
        → reader.record schema longer = .ok record
  /-- A field that is named again is refused, whatever follows. -/
  repeated
    : ∀ {ρ : Type} (schema : Schema ρ) members name text,
        (∀ member ∈ members, reader.Admits schema member)
        → name ∈ schema.names
        → NamedAgain members name text
        → reader.record schema text = .error .mismatched

end Reader

-----------------------------------------------------------------------------------------
-- Items as members
-----------------------------------------------------------------------------------------

section Rows

variable {ι : Type} {nameOf : ι → String} {form : ι → Bytes → Prop}

/-- An item and the text of its value as a member of an object. -/
def memberOf (nameOf : ι → String) (row : ι × Bytes) : Member :=
  (nameOf row.1, row.2)

/-- Items in a row are members with the texts of their values. By induction on the row. -/
theorem Joined.rows {first : Bool} {items : List ι} {text : Bytes}
    (joined : Joined (MemberForm nameOf form) first items text)
    : ∃ rows : List (ι × Bytes),
        rows.map Prod.fst = items
        ∧ (∀ row ∈ rows, form row.1 row.2)
        ∧ Joined (MemberForm Prod.fst fun member => Eq member.2) first
            (rows.map (memberOf nameOf)) text := by
  induction joined with
  | nil => exact ⟨[], rfl, List.forall_mem_nil _, .nil⟩
  | @cons first lead text more item items separator named _ ih =>
      obtain ⟨string, ⟨before, after, written⟩⟩ := named
      obtain ⟨rows, rfl, forms, joined⟩ := ih
      exact ⟨(item, _) :: rows, rfl, List.forall_mem_cons.mpr ⟨written, forms⟩,
        .cons separator (.member string (.value before after rfl)) joined⟩

/-- A row is one of its first items and one of the others. By induction on the first items. -/
theorem Joined.split {form : ι → Bytes → Prop} {first : Bool} {items others : List ι} {text : Bytes}
    (joined : Joined form first (items ++ others) text)
    : ∃ row more,
        text = row ++ more
        ∧ Joined form first items row
        ∧ Joined form (first && items.isEmpty) others more := by
  induction items generalizing first text with
  | nil => exact ⟨[], text, rfl, .nil, by simpa using joined⟩
  | cons item items ih =>
      obtain - | ⟨separator, written, joined⟩ := joined
      obtain ⟨row, more, rfl, joined, rest⟩ := ih joined
      exact ⟨_, more, by simp, .cons separator written joined, by simpa using rest⟩

/-- Without its last member an object is one as well. -/
theorem ObjectText.init {members : List Member} {member : Member} {longer : Bytes}
    (written : ObjectText (members ++ [member]) longer)
    : ∃ text, ObjectText members text := by
  obtain ⟨-, ⟨joined, -⟩, -⟩ := written
  obtain ⟨row, -, -, joined, -⟩ := joined.split
  exact ⟨_, .of_form (.enclosed joined blanks_nil)⟩

end Rows

-----------------------------------------------------------------------------------------
-- Tables
-----------------------------------------------------------------------------------------

/-- The last value under a name is that of the last row with the name. -/
theorem lastUnder?_map {ι α : Type} (entryOf : ι → String × α) (rows : List ι) (name : String)
    : Table.lastUnder? (rows.map entryOf) name
      = (rows.reverse.find? fun row => (entryOf row).1 = name).map fun row => (entryOf row).2 := by
  rw [Table.lastUnder?, ← List.map_reverse, List.find?_map, Option.map_map]
  rfl

/-- If every value in an object is read to what it says, the object is read to a table that says what
the last value under each name does.
-/
theorem Reader.Standard.reads_entries {reader : Reader} (standard : reader.Standard) {shape : Shape}
    (shallow : shape.depth < nestingLimit) {α β : Type} {form : α → Bytes → Prop}
    {view : shape.Value → β} {tell : α → β}
    (reads
      : ∀ item text,
          form item text → ∃ value, reader.value shape text = .ok value ∧ view value = tell item)
    {entries : List (String × α)} {text : Bytes} (written : EntriesForm form entries text)
    : ∃ table,
        reader.value (.table shape) text = .ok table
        ∧ ∀ name, (table.find? name).map view = (Table.lastUnder? entries name).map tell := by
  obtain ⟨joined, blank⟩ := written
  obtain ⟨rows, rfl, forms, joined⟩ := joined.rows
  have object : ObjectText (rows.map (memberOf Prod.fst)) _ := .of_form (.enclosed joined blank)
  have all : ∀ entry ∈ rows.map (memberOf Prod.fst), reader.Accepts shape entry.2 := by
    refine List.forall_mem_map.mpr fun row among => ?_
    obtain ⟨value, read, -⟩ := reads row.1.2 row.2 (forms row among)
    exact ⟨value, read⟩
  obtain ⟨table, read, found⟩ := standard.last shape _ _ shallow object all
  refine ⟨table, read, fun name => ?_⟩
  have parts
      : Table.lastUnder? (rows.map (memberOf Prod.fst)) name
        = (rows.reverse.find? (·.1.1 = name)).map (·.2) :=
    lastUnder?_map _ rows name
  have items
      : Table.lastUnder? (rows.map Prod.fst) name
        = (rows.reverse.find? (·.1.1 = name)).map (·.1.2) :=
    lastUnder?_map _ rows name
  rw [found, parts, items]
  cases held : rows.reverse.find? (·.1.1 = name) with
  | none => rfl
  | some row =>
      have among : row ∈ rows := List.mem_reverse.mp (List.mem_of_find?_eq_some held)
      obtain ⟨value, read, same⟩ := reads row.1.2 row.2 (forms row among)
      simp [read, same, Except.toOption]

end Json

end CharLcd

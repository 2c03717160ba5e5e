import CharLcd.Proofs.Json.Local
import CharLcd.Proofs.Json.Objects
import CharLcd.Proofs.Json.Standard
import Mathlib.Data.List.Induction
import Mathlib.Data.List.Nodup

/-! The reader that goes through a document once keeps to the standard.

A value in an object is read as it is read by itself, as what follows it does not matter. So the members
of an object are read to what their values are read to, each by itself, one after the other.
-/

namespace CharLcd.Json

-----------------------------------------------------------------------------------------
-- Values by themselves
-----------------------------------------------------------------------------------------

/-- A document ends where only blanks are left. -/
theorem endDocument_eq_ok {text : Bytes} : endDocument text = .ok () ↔ Blanks text := by
  rw [endDocument, skipBlanks, Blanks]
  simp [List.isEmpty_iff, List.dropWhile_eq_nil_iff]

/-- A document is read to a value if nothing but blanks is left after it. -/
theorem readValue_eq_ok {shape : Shape} {text : Bytes} {value : shape.Value}
    : readValue shape text = .ok value
      ↔ ∃ rest, Blanks rest ∧ readShape shape text = .ok (value, rest) := by
  constructor
  · intro read
    obtain ⟨⟨value, rest⟩, read, ended⟩ := bind_eq_ok.mp read
    obtain ⟨⟨⟩, blank, same⟩ := bind_eq_ok.mp ended
    cases same
    exact ⟨rest, endDocument_eq_ok.mp blank, read⟩
  · rintro ⟨rest, blank, read⟩
    simp only [readValue, read, ok_bind, endDocument_eq_ok.mpr blank]
    rfl

/-- A value that is read by itself is read where it stands in a document. -/
theorem readShape_part {shape : Shape} {part : Bytes} {value : shape.Value}
    (accepted : readValue shape part = .ok value) {before rest : Bytes} (blank : Blanks before)
    (ends : Ends rest)
    : ∃ pad,
        Blanks pad ∧ readShape shape (before ++ (part ++ rest)) = .ok (value, pad ++ rest) := by
  obtain ⟨pad, blankToo, read⟩ := readValue_eq_ok.mp accepted
  refine ⟨pad, blankToo, ?_⟩
  rw [readShape_blanks blank]
  exact local_readShape shape _ _ _ _ read ends

/-- A value is read after the colon before it. -/
theorem readColon_assigned {shape : Shape} {part : Bytes} {value : shape.Value}
    (accepted : readValue shape part = .ok value) {text rest : Bytes}
    (assigned : Assigned (Eq part) text) (ends : Ends rest)
    : ∃ pad,
        Blanks pad ∧ (readColon (text ++ rest) >>= readShape shape) = .ok (value, pad ++ rest) := by
  obtain ⟨before, after, rfl⟩ := assigned
  obtain ⟨pad, blank, read⟩ := readShape_part accepted after ends
  refine ⟨pad, blank, ?_⟩
  simpa only [List.append_assoc, List.cons_append, readColon_append before, ok_bind] using read

/-- A form that a reader reads back is that of a document. -/
theorem readValue_of_form {α : Type} {shape : Shape} {form : α → Bytes → Prop}
    {valueOf : α → shape.Value} (readsBack : ReadsBack form (readShape shape) valueOf) {value : α}
    {text : Bytes} (written : Padded (form value) text)
    : readValue shape text = .ok (valueOf value) := by
  obtain ⟨blank, written, blankToo⟩ := written
  exact readValue_eq_ok.mpr ⟨_, blankToo, readsBack _ _ written _ _ blank blankToo.ends⟩

-----------------------------------------------------------------------------------------
-- Objects
-----------------------------------------------------------------------------------------

variable {ι : Type} {nameOf : ι → String} {form : ι → Bytes → Prop}

/-- What holds of all items can be taken up into what is said of their values. -/
theorem Joined.along {holds : ι → Prop} {first : Bool} {items : List ι} {text : Bytes}
    (joined : Joined (MemberForm nameOf form) first items text) (all : ∀ item ∈ items, holds item)
    : Joined (MemberForm nameOf fun item text => holds item ∧ form item text) first items text := by
  induction joined with
  | nil => exact .nil
  | cons separator named others ih =>
      obtain ⟨this, all⟩ := List.forall_mem_cons.mp all
      obtain ⟨string, ⟨before, after, written⟩⟩ := named
      exact .cons separator (.member string (.value before after ⟨this, written⟩)) (ih all)

/-- Where an object begins, its opening brace is found after the blanks before it. -/
theorem skipBlanks_object {before : Bytes} (blank : Blanks before) (text : Bytes)
    : skipBlanks (before ++ ascii '\x7b' :: text) = ascii '\x7b' :: text := by
  rw [skipBlanks_append blank, skipBlanks_solid (by decide)]

-----------------------------------------------------------------------------------------
-- Tables
-----------------------------------------------------------------------------------------

/-- What an entry of an object makes of the table of those before it. -/
def takeEntry (shape : Shape) (table : Table shape.Value) (entry : Member)
    : Except Refusal (Table shape.Value) :=
  (readValue shape entry.2).map (table.put entry.1)

/-- An entry whose value is read by itself is taken up. -/
theorem takes_readEntry (shape : Shape)
    : Takes (readEntry (readShape shape)) Prod.fst
        (fun entry text => reader.Accepts shape entry.2 ∧ entry.2 = text) (takeEntry shape) := by
  rintro table ⟨name, part⟩ text rest ⟨before, after, ⟨value, accepted⟩, rfl⟩ ends
  obtain ⟨pad, blank, read⟩ := readColon_assigned accepted (.value before after rfl) ends
  have accepted : readValue shape part = .ok value := accepted
  refine ⟨pad, blank, ?_⟩
  simp only [readEntry, ← bind_assoc, read, takeEntry, accepted]
  rfl

/-- An object of values that are read by themselves is read to what its entries make in turn. -/
theorem readValue_object {shape : Shape} {entries : List Member} {text : Bytes}
    (written : ObjectText entries text) (all : ∀ entry ∈ entries, reader.Accepts shape entry.2)
    : readValue (.table shape) text = entries.foldlM (takeEntry shape) [] := by
  obtain @⟨before, _, after, blank, ⟨joined, blankInside⟩, blankToo⟩ := written
  have object := readObject_of_form (takes_readEntry shape) (joined.along all) blankInside [] after
  simp only [List.cons_append, List.append_assoc, List.nil_append]
  generalize joining : before ++ _ = text
  have read
      : readShape (.table shape) text = (entries.foldlM (takeEntry shape) []).map (·, after) := by
    subst joining
    rw [readShape, readTable, skipBlanks_object blank]
    dsimp only
    rw [if_pos rfl, object]
  cases taken : entries.foldlM (takeEntry shape) [] with
  | error refusal =>
      rw [taken] at read
      rw [readValue, read]
      rfl
  | ok table =>
      rw [taken] at read
      exact readValue_eq_ok.mpr ⟨after, blankToo, read⟩

/-- Entries whose values are read by themselves are all taken up, and the last one under a name
counts. By induction on them, from the last one on.
-/
theorem foldlM_takeEntry {shape : Shape} {entries : List Member}
    (all : ∀ entry ∈ entries, reader.Accepts shape entry.2)
    : ∃ table,
        entries.foldlM (takeEntry shape) [] = .ok table
        ∧ ∀ name,
            table.find? name
            = (Table.lastUnder? entries name).bind fun part => (readValue shape part).toOption := by
  induction entries using List.reverseRecOn with
  | nil => exact ⟨[], rfl, fun name => rfl⟩
  | append_singleton entries entry ih =>
      obtain ⟨all, this⟩ := List.forall_mem_append.mp all
      obtain ⟨value, accepted⟩ := List.forall_mem_singleton.mp this
      obtain ⟨table, taken, found⟩ := ih all
      have accepted : readValue shape entry.2 = .ok value := accepted
      refine ⟨table.put entry.1 value, ?_, fun name => ?_⟩
      · rw [List.foldlM_append, taken, ok_bind, List.foldlM_cons, takeEntry, accepted]
        rfl
      · rw [Table.find?_put, Table.lastUnder?_concat, found]
        split
        · rw [Option.bind_some, accepted]
          rfl
        · rfl

-----------------------------------------------------------------------------------------
-- Records
-----------------------------------------------------------------------------------------

variable {ρ : Type}

/-- A field is the one of its name. -/
theorem Schema.field?_name {schema : Schema ρ} {field : Schema.Field ρ}
    (among : field ∈ schema.fields)
    : schema.field? field.name = some field := by
  rw [field?]
  cases held : schema.fields.find? (·.name = field.name) with
  | none =>
      have other := List.find?_eq_none.mp held field among
      simp at other
  | some found =>
      have name : found.name = field.name := by simpa using List.find?_some held
      have same :=
        List.inj_on_of_nodup_map schema.distinct (List.mem_of_find?_eq_some held) among name
      rw [same]

/-- A name that no field has is not asked for. -/
theorem Schema.field?_eq_none {schema : Schema ρ} {name : String}
    : schema.field? name = none ↔ name ∉ schema.names := by
  simp [field?, names]

/-- What a member makes of the record of those before it. -/
def Draft.take (schema : Schema ρ) (draft : Draft ρ) (member : Member) : Except Refusal (Draft ρ) :=
  match schema.field? member.1 with
  | some field =>
      if member.1 ∈ draft.names then .error .mismatched
      else
        (readValue field.shape member.2).map fun value =>
          ⟨member.1 :: draft.names, field.store value draft.record⟩
  | none => .ok draft

/-- A member that may stand in a record is taken up or passed over, by cases on which. -/
theorem takes_readMember (schema : Schema ρ)
    : Takes (readMember schema) Prod.fst
        (fun member text => reader.Admits schema member ∧ member.2 = text) (Draft.take schema) := by
  rintro draft member text rest ⟨before, after, admitted, rfl⟩ ends
  cases admitted with
  | @known field part among _ accepted =>
      obtain ⟨value, accepted⟩ := accepted
      obtain ⟨pad, blank, read⟩ := readColon_assigned accepted (.value before after rfl) ends
      have accepted : readValue field.shape part = .ok value := accepted
      refine ⟨pad, blank, ?_⟩
      simp only [readMember, Draft.take, Schema.field?_name among, accepted]
      by_cases had : field.name ∈ draft.names
      · simp only [had, if_true]
        rfl
      · simp only [had, if_false, ← bind_assoc, read]
        rfl
  | @unknown name part unknown value =>
      refine ⟨[], blanks_nil, ?_⟩
      simp only [readMember, Draft.take, Schema.field?_eq_none.mpr unknown, List.append_assoc,
        List.cons_append, readColon_append before, ok_bind, skip_of_value value after ends]
      rfl

/-- A member that is taken up adds its name to those that the record has, if it is a field. -/
theorem names_take {schema : Schema ρ} {member : Member} {draft next : Draft ρ}
    (taken : draft.take schema member = .ok next) (name : String)
    : name ∈ next.names ↔ name ∈ draft.names ∨ name ∈ schema.names ∧ name = member.1 := by
  rw [Draft.take] at taken
  cases held : schema.field? member.1 with
  | some field =>
      have asked : member.1 ∈ schema.names := by
        by_contra unknown
        rw [Schema.field?_eq_none.mpr unknown] at held
        cases held
      simp only [held] at taken
      split_ifs at taken
      obtain ⟨value, -, rfl⟩ := map_eq_ok.mp taken
      rw [List.mem_cons]
      constructor
      · rintro (rfl | earlier)
        · exact .inr ⟨asked, rfl⟩
        · exact .inl earlier
      · rintro (earlier | ⟨-, rfl⟩)
        · exact .inr earlier
        · exact .inl rfl
  | none =>
      have other := Schema.field?_eq_none.mp held
      rw [held] at taken
      cases taken
      refine ⟨.inl, ?_⟩
      rintro (earlier | ⟨asked, rfl⟩)
      · exact earlier
      · exact absurd asked other

/-- The names of the fields among members are those that the record has after them. By induction on
the members.
-/
theorem names_foldlM_take {schema : Schema ρ} {members : List Member} {draft last : Draft ρ}
    (taken : members.foldlM (Draft.take schema) draft = .ok last) (name : String)
    : name ∈ last.names
      ↔ name ∈ draft.names ∨ name ∈ schema.names ∧ name ∈ members.map Prod.fst := by
  induction members generalizing draft with
  | nil =>
      cases taken
      simp
  | cons member members ih =>
      rw [List.foldlM_cons] at taken
      obtain ⟨next, first, taken⟩ := bind_eq_ok.mp taken
      rw [ih taken, names_take first, List.map_cons, List.mem_cons]
      tauto

/-- A member that may stand in a record is refused only for its name. -/
theorem mismatched_of_take {schema : Schema ρ} {member : Member}
    (admitted : reader.Admits schema member) {draft : Draft ρ} {refusal : Refusal}
    (refused : draft.take schema member = .error refusal)
    : refusal = .mismatched := by
  cases admitted with
  | known among _ accepted =>
      obtain ⟨value, accepted⟩ := accepted
      have accepted : readValue _ _ = .ok value := accepted
      simp only [Draft.take, Schema.field?_name among, accepted] at refused
      split_ifs at refused
      · cases refused
        rfl
      · cases refused
  | unknown unknown _ =>
      simp only [Draft.take, Schema.field?_eq_none.mpr unknown] at refused
      cases refused

/-- The same holds of members in a row, by induction on them. -/
theorem mismatched_of_foldlM_take {schema : Schema ρ} {members : List Member}
    (all : ∀ member ∈ members, reader.Admits schema member) {draft : Draft ρ} {refusal : Refusal}
    (refused : members.foldlM (Draft.take schema) draft = .error refusal)
    : refusal = .mismatched := by
  induction members generalizing draft with
  | nil => cases refused
  | cons member members ih =>
      obtain ⟨admitted, all⟩ := List.forall_mem_cons.mp all
      rw [List.foldlM_cons] at refused
      cases first : draft.take schema member with
      | error earlier =>
          obtain rfl := mismatched_of_take admitted first
          rw [first] at refused
          cases refused
          rfl
      | ok next =>
          rw [first] at refused
          exact ih all refused

/-- An object of members that may stand in a record is read to what they make in turn. -/
theorem readRecord_object {schema : Schema ρ} {members : List Member} {text : Bytes}
    (written : ObjectText members text) (all : ∀ member ∈ members, reader.Admits schema member)
    : readRecord schema text
      = (members.foldlM (Draft.take schema) { record := schema.missing }).map Draft.record := by
  obtain @⟨before, _, after, blank, ⟨joined, blankInside⟩, blankToo⟩ := written
  have object :=
    readObject_of_form (takes_readMember schema) (joined.along all) blankInside
      { record := schema.missing } after
  simp only [List.cons_append, List.append_assoc, List.nil_append]
  simp only [readRecord, readFields, skipBlanks_object blank, if_true, object]
  cases members.foldlM (Draft.take schema) { record := schema.missing } with
  | error refusal => rfl
  | ok draft =>
      simp only [Except.map, ok_bind, endDocument_eq_ok.mpr blankToo, pure, Except.pure]

/-- With one more member an object is read to what that member makes of the others. -/
theorem readRecord_concat {schema : Schema ρ} {members : List Member} {member : Member}
    {text longer : Bytes} {record : ρ} (written : ObjectText members text)
    (all : ∀ member ∈ members, reader.Admits schema member)
    (read : reader.record schema text = .ok record)
    (more : ObjectText (members ++ [member]) longer) (admitted : reader.Admits schema member)
    : ∃ draft,
        members.foldlM (Draft.take schema) { record := schema.missing } = .ok draft
        ∧ draft.record = record
        ∧ readRecord schema longer = (draft.take schema member).map Draft.record := by
  obtain ⟨draft, taken, same⟩ := map_eq_ok.mp ((readRecord_object written all).symm.trans read)
  have allToo := List.forall_mem_append.mpr ⟨all, List.forall_mem_singleton.mpr admitted⟩
  refine ⟨draft, taken, same, ?_⟩
  rw [readRecord_object more allToo, List.foldlM_append, taken, ok_bind, List.foldlM_cons]
  cases draft.take schema member <;> rfl

/-- A field that the record has already is refused when it is named again, whatever follows. -/
theorem readMember_again {schema : Schema ρ} {draft : Draft ρ} {name : String}
    (asked : name ∈ schema.names) (had : name ∈ draft.names) (text : Bytes)
    : readMember schema draft name text = .error .mismatched := by
  rw [readMember]
  cases held : schema.field? name with
  | none => exact absurd asked (Schema.field?_eq_none.mp held)
  | some field =>
      simp only [had, if_true]
      rfl

/-- An object that begins with such members and names one of them again is refused there, if it is
not before.
-/
theorem readRecord_again {schema : Schema ρ} {members : List Member} {name : String} {text : Bytes}
    (again : NamedAgain members name text)
    (all : ∀ member ∈ members, reader.Admits schema member) (asked : name ∈ schema.names)
    : readRecord schema text = .error .mismatched := by
  obtain @⟨before, row, lead, inside, rest, blank, joined, earlier, separator, string⟩ := again
  obtain ⟨fuel, pad, blankPad, read⟩ :=
    readObject_joined (takes_readMember schema) (joined.along all)
      (separator.ends (quoted inside ++ rest)) { record := schema.missing }
  simp only [readRecord, readFields, skipBlanks_object blank, if_true, read]
  cases taken : members.foldlM (Draft.take schema) { record := schema.missing } with
  | error refusal =>
      obtain rfl := mismatched_of_foldlM_take all taken
      rfl
  | ok draft =>
      have had : name ∈ draft.names := (names_foldlM_take taken name).mpr (.inr ⟨asked, earlier⟩)
      have several : members.isEmpty = false := by
        cases members with
        | nil => cases earlier
        | cons _ _ => rfl
      simp only [ok_bind, several, readEntries_named blankPad separator string,
        readMember_again asked had]
      rfl

-----------------------------------------------------------------------------------------
-- The standard
-----------------------------------------------------------------------------------------

/-- The reader that goes through a document once keeps to the standard. -/
theorem standard_reader : reader.Standard where
  flag _ _ written := @readValue_of_form Bool .flag _ id readsBack_readBool _ _ written
  integer _ _ written := @readValue_of_form Int64 .integer _ id readsBack_readInt64 _ _ written
  last shape entries text _ written all := by
    obtain ⟨table, taken, found⟩ := foldlM_takeEntry all
    exact ⟨table, (readValue_object written all).trans taken, found⟩
  missing schema text written := readRecord_object written (fun _ member => nomatch member)
  known schema members field part text longer record value all among shallow fresh written more
      read accepted := by
    have admitted : reader.Admits schema (field.name, part) :=
      .known among shallow ⟨value, accepted⟩
    have accepted : readValue field.shape part = .ok value := accepted
    obtain ⟨draft, taken, rfl, last⟩ := readRecord_concat written all read more admitted
    have new : field.name ∉ draft.names := by
      rw [names_foldlM_take taken]
      simp [fresh]
    refine last.trans ?_
    simp only [Draft.take, Schema.field?_name among, if_neg new, accepted]
    rfl
  unknown schema members name part text longer record all unknown value written more read := by
    obtain ⟨draft, taken, rfl, last⟩ :=
      readRecord_concat written all read more (.unknown unknown value)
    refine last.trans ?_
    simp only [Draft.take, Schema.field?_eq_none.mpr unknown]
    rfl
  repeated schema members name text all asked again := readRecord_again again all asked

end CharLcd.Json

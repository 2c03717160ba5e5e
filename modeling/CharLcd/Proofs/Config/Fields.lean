import CharLcd.Config.Settings
import CharLcd.Proofs.Json.Standard
import Mathlib.Data.List.Induction
import Mathlib.Data.List.Nodup

/-! The fields of a document of settings.

A document has its fields in any order, and others among them that are passed over. It writes settings
if its fields tell what the settings say, and it leaves out only what is at its default. A reader that
keeps to the standard gives settings that are written, if no known field comes twice, and it refuses a
document that names one of them again.
-/

namespace CharLcd

open Json

-----------------------------------------------------------------------------------------
-- Tables written as objects
-----------------------------------------------------------------------------------------

namespace Table

variable {α β : Type}

/-- The entries of a table backwards have the values of the table under its names. -/
theorem lastUnder?_reverse (table : Table α) (name : String)
    : lastUnder? table.reverse name = table.find? name := by
  rw [lastUnder?, List.reverse_reverse]
  induction table with
  | nil => rfl
  | cons entry rest ih =>
      obtain ⟨held, value⟩ := entry
      unfold find? at ih ⊢
      by_cases same : held = name
      · simp [same]
      · simp [same, List.lookup_cons, beq_eq_false_iff_ne.2 (Ne.symm same), ih]

/-- Values changed all alike are found changed. -/
theorem find?_map (change : α → β) (table : Table α) (name : String)
    : find? (table.map fun entry => (entry.1, change entry.2)) name
      = (table.find? name).map change := by
  rw [← lastUnder?_reverse, ← lastUnder?_reverse, lastUnder?, lastUnder?]
  simp [List.find?_map, Function.comp_def]

end Table

namespace Settings

-----------------------------------------------------------------------------------------
-- The fields of a document
-----------------------------------------------------------------------------------------

/-- The names of the fields that are known. -/
def fieldNames : List String :=
  ["dual_controller", "backlight", "sections"]

/-- A field as it stands in a document: one that is known, with its value, or any other. -/
inductive Field where
  | dualController (value : Bool)
  | backlight (value : Bool)
  | sections (entries : List (String × List (String × Int64)))
  | other (name : String) (unknown : name ∉ fieldNames)

namespace Field

/-- The name of a field. -/
def name : Field → String
  | dualController _ => "dual_controller"
  | backlight _ => "backlight"
  | sections _ => "sections"
  | other name _ => name

/-- The forms of the value of a field. One that is not known may hold a value of any kind, up to the
depth to which values may be nested.
-/
def Form : Field → Bytes → Prop
  | dualController value | backlight value => BoolForm value
  | sections entries => EntriesForm (EntriesForm Int64Form) entries
  | other _ _ => ValueText nestingLimit

end Field

/-- The names that are known among those of some fields. -/
def knownNames (fields : List Field) : List String :=
  (fields.map Field.name).filter (· ∈ fieldNames)

/-- A known name is among those of some fields if a field of its kind is among them. -/
theorem mem_knownNames_iff {α : Type} {slot : α → Field} {name : String}
    (known : name ∈ fieldNames)
    (named : ∀ field : Field, field.name = name ↔ ∃ value, field = slot value)
    (fields : List Field)
    : name ∈ knownNames fields ↔ ∃ value, slot value ∈ fields := by
  simp only [knownNames, List.mem_filter, List.mem_map, named, decide_eq_true known, and_true]
  constructor
  · rintro ⟨_, among, value, rfl⟩
    exact ⟨value, among⟩
  · rintro ⟨value, among⟩
    exact ⟨slot value, among, value, rfl⟩

/-- A field of a known name holds a value of its own kind. By cases on the field. -/
theorem name_eq_iff (field : Field)
    : (field.name = "dual_controller" ↔ ∃ value, field = .dualController value)
      ∧ (field.name = "backlight" ↔ ∃ value, field = .backlight value)
      ∧ (field.name = "sections" ↔ ∃ entries, field = .sections entries) := by
  cases field with
  | other name unknown =>
      simp only [fieldNames, List.mem_cons, List.not_mem_nil, or_false, not_or] at unknown
      simpa [Field.name] using unknown
  | _ => simp [Field.name]

/-- The second controller is told of if its field is among the fields. -/
theorem mem_knownNames_dualController {fields : List Field}
    : "dual_controller" ∈ knownNames fields ↔ ∃ value, Field.dualController value ∈ fields :=
  mem_knownNames_iff (by decide) (fun field => (name_eq_iff field).1) fields

/-- The backlight is told of if its field is. -/
theorem mem_knownNames_backlight {fields : List Field}
    : "backlight" ∈ knownNames fields ↔ ∃ value, Field.backlight value ∈ fields :=
  mem_knownNames_iff (by decide) (fun field => (name_eq_iff field).2.1) fields

/-- The sections are told if their field is. -/
theorem mem_knownNames_sections {fields : List Field}
    : "sections" ∈ knownNames fields ↔ ∃ entries, Field.sections entries ∈ fields :=
  mem_knownNames_iff (by decide) (fun field => (name_eq_iff field).2.2) fields

/-- The known names with one more field differ if they did before and its own is new, or not known.
-/
theorem nodup_knownNames_concat (fields : List Field) (field : Field)
    : (knownNames (fields ++ [field])).Nodup
      ↔ (knownNames fields).Nodup ∧ field.name ∉ knownNames fields := by
  by_cases known : field.name ∈ fieldNames
  · have names : knownNames (fields ++ [field]) = knownNames fields ++ [field.name] := by
      simp [knownNames, known]
    rw [names, ← List.concat_eq_append, List.nodup_concat, and_comm]
  · simp [knownNames, known]

/-- Where a known name comes twice, some field has the name of one before it. By induction on the
fields, from the last one on.
-/
theorem exists_repeated {fields : List Field} (twice : ¬(knownNames fields).Nodup)
    : ∃ earlier field later,
        fields = earlier ++ field :: later ∧ field.name ∈ knownNames earlier := by
  induction fields using List.reverseRecOn with
  | nil => exact absurd List.nodup_nil twice
  | append_singleton fields field ih =>
      by_cases again : field.name ∈ knownNames fields
      · exact ⟨fields, field, [], rfl, again⟩
      · have twice : ¬(knownNames fields).Nodup :=
          fun once => twice ((nodup_knownNames_concat fields field).mpr ⟨once, again⟩)
        obtain ⟨earlier, repeated, later, rfl, held⟩ := ih twice
        exact ⟨earlier, repeated, later ++ [field], by simp, held⟩

-----------------------------------------------------------------------------------------
-- Settings and the fields that write them
-----------------------------------------------------------------------------------------

/-- What the settings hold for the keys of a section, if there is such a section. -/
def contents (settings : Settings) (area : String) : Option (String → Option Int64) :=
  (settings.sections.find? area).map Table.find?

/-- Settings are the same if they say the same, in whichever order their tables hold it. -/
structure Same (settings other : Settings) : Prop where
  dualController : settings.dualController = other.dualController
  backlight : settings.backlight = other.backlight
  contents : settings.contents = other.contents

/-- A field tells what the settings say, or it says nothing about them. Of sections and keys that
are written several times the last one counts.
-/
def Field.Tells (settings : Settings) : Field → Prop
  | dualController value => value = settings.dualController
  | backlight value => value = settings.backlight
  | sections entries =>
      ∀ area, (Table.lastUnder? entries area).map Table.lastUnder? = settings.contents area
  | other _ _ => True

/-- Fields that write settings: each known one at most once, with what the settings say, and those
left out only where the settings are at their default.
-/
structure Writes (fields : List Field) (settings : Settings) : Prop where
  once : (knownNames fields).Nodup
  told : ∀ field ∈ fields, field.Tells settings
  single : "dual_controller" ∉ knownNames fields → settings.dualController = false
  unlit : "backlight" ∉ knownNames fields → settings.backlight = false
  bare : "sections" ∉ knownNames fields → ∀ area, settings.contents area = none

/-- Fields write one settings at most, as each part of them is told by its field or at its default.
-/
theorem Writes.same {fields : List Field} {settings other : Settings}
    (writes : Writes fields settings) (writesToo : Writes fields other)
    : Same settings other := by
  refine ⟨?_, ?_, funext fun area => ?_⟩
  · by_cases known : "dual_controller" ∈ knownNames fields
    · obtain ⟨value, among⟩ := mem_knownNames_dualController.mp known
      exact (writes.told _ among).symm.trans (writesToo.told _ among)
    · rw [writes.single known, writesToo.single known]
  · by_cases known : "backlight" ∈ knownNames fields
    · obtain ⟨value, among⟩ := mem_knownNames_backlight.mp known
      exact (writes.told _ among).symm.trans (writesToo.told _ among)
    · rw [writes.unlit known, writesToo.unlit known]
  · by_cases known : "sections" ∈ knownNames fields
    · obtain ⟨entries, among⟩ := mem_knownNames_sections.mp known
      exact (writes.told _ among area).symm.trans (writesToo.told _ among area)
    · rw [writes.bare known, writesToo.bare known]

/-- One more field of a new name writes the settings that it changes to what it tells. What it does
not name is told by the other fields.
-/
theorem Writes.concat {fields : List Field} {settings next : Settings}
    (writes : Writes fields settings) {field : Field} (new : field.name ∉ knownNames fields)
    (tells : field.Tells next)
    (controllers
      : field.name ≠ "dual_controller" → next.dualController = settings.dualController)
    (backlight : field.name ≠ "backlight" → next.backlight = settings.backlight)
    (sections : field.name ≠ "sections" → next.contents = settings.contents)
    : Writes (fields ++ [field]) next := by
  have others : ∀ other ∈ fields, other.Tells next := by
    intro other among
    have told := writes.told other among
    cases other with
    | dualController value =>
        have known := mem_knownNames_dualController.mpr ⟨value, among⟩
        exact told.trans (controllers fun same => new (same ▸ known)).symm
    | backlight value =>
        have known := mem_knownNames_backlight.mpr ⟨value, among⟩
        exact told.trans (backlight fun same => new (same ▸ known)).symm
    | sections entries =>
        have known := mem_knownNames_sections.mpr ⟨entries, among⟩
        intro area
        rw [sections fun same => new (same ▸ known)]
        exact told area
    | other name unknown => trivial
  have absent
      : ∀ name ∈ fieldNames,
          name ∉ knownNames (fields ++ [field])
          → field.name ≠ name ∧ name ∉ knownNames fields := by
    intro name known absent
    simpa [knownNames, known, not_or, eq_comm, and_comm] using absent
  refine ⟨(nodup_knownNames_concat fields field).mpr ⟨writes.once, new⟩,
    List.forall_mem_append.mpr ⟨others, List.forall_mem_singleton.mpr tells⟩, fun leftOut => ?_,
    fun leftOut => ?_, fun leftOut => ?_⟩
  · obtain ⟨apart, leftOut⟩ := absent _ (by decide) leftOut
    rw [controllers apart, writes.single leftOut]
  · obtain ⟨apart, leftOut⟩ := absent _ (by decide) leftOut
    rw [backlight apart, writes.unlit leftOut]
  · obtain ⟨apart, leftOut⟩ := absent _ (by decide) leftOut
    rw [sections apart]
    exact writes.bare leftOut

-----------------------------------------------------------------------------------------
-- Reading
-----------------------------------------------------------------------------------------

/-- The documents that consist of some fields in their order. -/
def DocumentForm (fields : List Field) : Bytes → Prop :=
  Padded (ObjectForm Field.name Field.Form fields)

/-- A text that names a known field for the second time, in whatever way and with anything behind.
-/
inductive RepeatsField : Bytes → Prop where
  | again {fields : List Field} {field : Field} {before row lead inside rest : Bytes}
      (blank : Blanks before) (joined : Joined (MemberForm Field.name Field.Form) true fields row)
      (earlier : field.name ∈ knownNames fields) (separator : Separator false lead)
      (string : StringForm field.name.toList inside)
    : RepeatsField (before ++ ascii '\x7b' :: (row ++ (lead ++ (quoted inside ++ rest))))

/-- A document with a known field that comes twice names it again. -/
theorem DocumentForm.repeats {fields : List Field} {document : Bytes}
    (written : DocumentForm fields document) (twice : ¬(knownNames fields).Nodup)
    : RepeatsField document := by
  obtain ⟨earlier, field, later, rfl, named⟩ := exists_repeated twice
  obtain ⟨blank, ⟨joined, -⟩, -⟩ := written
  obtain ⟨row, more, rfl, first, rest⟩ := joined.split
  have several : earlier.isEmpty = false := by
    cases earlier with
    | nil => cases named
    | cons _ _ => rfl
  rw [several, Bool.and_false] at rest
  obtain - | ⟨separator, ⟨string, assigned⟩, others⟩ := rest
  simp only [List.cons_append, List.append_assoc]
  exact .again blank first named separator string

variable {reader : Json.Reader}

/-- The integers of all sections are read to what they say. -/
theorem reads_sections (standard : reader.Standard)
    {entries : List (String × List (String × Int64))} {text : Bytes}
    (written : EntriesForm (EntriesForm Int64Form) entries text)
    : ∃ sections : Table (Table Int64),
        reader.value (.table (.table .integer)) text = .ok sections
        ∧ ∀ area,
            (sections.find? area).map Table.find?
            = (Table.lastUnder? entries area).map Table.lastUnder? := by
  have integers
      : ∀ value text,
          Int64Form value text
          → ∃ held, reader.value .integer text = .ok held ∧ id held = id value :=
    fun value text written => ⟨value, standard.integer _ _ (.of_form written), rfl⟩
  have keys
      : ∀ keys text,
          EntriesForm Int64Form keys text
          → ∃ table,
              reader.value (.table .integer) text = .ok table
              ∧ Table.find? table = Table.lastUnder? keys := by
    intro keys text written
    obtain ⟨table, read, found⟩ := standard.reads_entries (by decide) integers written
    refine ⟨table, read, funext fun key => ?_⟩
    exact Option.map_id_apply.symm.trans ((found key).trans Option.map_id_apply)
  exact standard.reads_entries (by decide) keys written

/-- Every field may stand in the record of settings, by cases on it. -/
theorem admits_field (standard : reader.Standard) {field : Field} {part : Bytes}
    (written : field.Form part)
    : reader.Admits schema (field.name, part) := by
  cases field with
  | dualController value =>
      have read := standard.flag _ _ (.of_form written)
      show reader.Admits schema (controllersField.name, part)
      exact .known (by simp [schema]) (by decide) ⟨value, read⟩
  | backlight value =>
      have read := standard.flag _ _ (.of_form written)
      show reader.Admits schema (backlightField.name, part)
      exact .known (by simp [schema]) (by decide) ⟨value, read⟩
  | sections entries =>
      obtain ⟨sections, read, -⟩ := reads_sections standard written
      show reader.Admits schema (sectionsField.name, part)
      exact .known (by simp [schema]) (by decide) ⟨sections, read⟩
  | other name unknown => exact .unknown unknown written

/-- Fields in a row may all stand in the record of settings. -/
theorem admits_rows (standard : reader.Standard) {rows : List (Field × Bytes)}
    (forms : ∀ row ∈ rows, row.1.Form row.2)
    : ∀ member ∈ rows.map (memberOf Field.name), reader.Admits schema member :=
  List.forall_mem_map.mpr fun row among => admits_field standard (forms row among)

/-- The name of a field that is new among the known ones is that of no member. -/
theorem not_mem_members {rows : List (Field × Bytes)} {name : String} (known : name ∈ fieldNames)
    (new : name ∉ knownNames (rows.map Prod.fst))
    : name ∉ (rows.map (memberOf Field.name)).map Prod.fst := by
  intro member
  refine new (List.mem_filter.mpr ⟨?_, decide_eq_true known⟩)
  simpa [memberOf] using member

/-- Fields of which no known one comes twice are read to the settings that they write. By induction
on the fields, from the last one on, and by cases on it.
-/
theorem reads_rows (standard : reader.Standard) {rows : List (Field × Bytes)}
    (forms : ∀ row ∈ rows, row.1.Form row.2) (once : (knownNames (rows.map Prod.fst)).Nodup)
    {text : Bytes} (object : ObjectText (rows.map (memberOf Field.name)) text)
    : ∃ settings,
        reader.record schema text = .ok settings ∧ Writes (rows.map Prod.fst) settings := by
  induction rows using List.reverseRecOn generalizing text with
  | nil =>
      exact ⟨{}, standard.missing schema text object, once, List.forall_mem_nil _, fun _ => rfl,
        fun _ => rfl, fun _ _ => rfl⟩
  | append_singleton rows row ih =>
      obtain ⟨forms, written⟩ := List.forall_mem_append.mp forms
      have written := List.forall_mem_singleton.mp written
      rw [List.map_append, List.map_singleton] at once object ⊢
      obtain ⟨once, new⟩ := (nodup_knownNames_concat _ _).mp once
      obtain ⟨shorter, others⟩ := object.init
      obtain ⟨settings, read, writes⟩ := ih forms once others
      have admitted := admits_rows standard forms
      obtain ⟨field, part⟩ := row
      cases field with
      | dualController value =>
          have held := standard.flag _ _ (.of_form written)
          have stored :=
            standard.known schema _ controllersField part _ _ _ _ admitted (by simp [schema])
              (by decide) (not_mem_members (by decide) new) others object read held
          exact ⟨_, stored, writes.concat new rfl (absurd rfl) (fun _ => rfl) fun _ => rfl⟩
      | backlight value =>
          have held := standard.flag _ _ (.of_form written)
          have stored :=
            standard.known schema _ backlightField part _ _ _ _ admitted (by simp [schema])
              (by decide) (not_mem_members (by decide) new) others object read held
          exact ⟨_, stored, writes.concat new rfl (fun _ => rfl) (absurd rfl) fun _ => rfl⟩
      | sections entries =>
          obtain ⟨sections, held, found⟩ := reads_sections standard written
          have stored :=
            standard.known schema _ sectionsField part _ _ _ _ admitted (by simp [schema])
              (by decide) (not_mem_members (by decide) new) others object read held
          exact ⟨_, stored, writes.concat new (fun area => (found area).symm) (fun _ => rfl)
            (fun _ => rfl) (absurd rfl)⟩
      | other name unknown =>
          have passed :=
            standard.unknown schema _ name part _ _ _ admitted unknown written others object read
          exact ⟨_, passed, writes.concat new trivial (fun _ => rfl) (fun _ => rfl) fun _ => rfl⟩

/-- A document of which no known field comes twice is read to the settings that it writes. -/
theorem DocumentForm.read {fields : List Field} {document : Bytes}
    (written : DocumentForm fields document) (standard : reader.Standard)
    (once : (knownNames fields).Nodup)
    : ∃ settings, reader.record schema document = .ok settings ∧ Writes fields settings := by
  obtain ⟨blank, ⟨joined, blankInside⟩, blankToo⟩ := written
  obtain ⟨rows, rfl, forms, joined⟩ := joined.rows
  exact reads_rows standard forms once (.blanks blank (.enclosed joined blankInside) blankToo)

/-- A text that names a known field again is refused. -/
theorem RepeatsField.refused {document : Bytes} (repeated : RepeatsField document)
    (standard : reader.Standard)
    : reader.record schema document = .error .mismatched := by
  obtain @⟨fields, field, before, row, lead, inside, rest, blank, joined, earlier, separator,
    string⟩ := repeated
  obtain ⟨rows, rfl, forms, joined⟩ := joined.rows
  have known : field.name ∈ fieldNames := of_decide_eq_true (List.mem_filter.mp earlier).2
  have named : field.name ∈ (rows.map (memberOf Field.name)).map Prod.fst := by
    simpa [memberOf] using (List.mem_filter.mp earlier).1
  exact standard.repeated schema _ field.name _ (admits_rows standard forms) known
    (.again blank joined named separator string)

end Settings

end CharLcd

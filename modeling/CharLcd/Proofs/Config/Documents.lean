import CharLcd.Demo.Program
import CharLcd.Proofs.Config.Fields
import CharLcd.Proofs.Json.Reader
import CharLcd.Proofs.Json.Writing

/-! Settings read back from the documents that write them.

Whichever reader the settings are loaded with, it is enough that it keeps to the standard. Settings are
the same if they say the same, as the order in their tables says nothing.
-/

namespace CharLcd

open Json

namespace Settings

-----------------------------------------------------------------------------------------
-- Documents for all settings
-----------------------------------------------------------------------------------------

/-- The sections of settings with all entries backwards. Of several entries under a name the
settings are searched for the first, but the last one written counts.
-/
def backwards (settings : Settings) : List (String × List (String × Int64)) :=
  (settings.sections.map fun entry => (entry.1, entry.2.reverse)).reverse

/-- They tell what the settings say. -/
theorem tells_backwards (settings : Settings)
    : Field.Tells settings (.sections settings.backwards) := by
  intro area
  rw [backwards, Table.lastUnder?_reverse, Table.find?_map, Option.map_map, contents]
  congr 1
  funext keys key
  exact Table.lastUnder?_reverse keys key

/-- The fields of a document that leaves none out. -/
def fields (settings : Settings) : List Field :=
  [.dualController settings.dualController, .backlight settings.backlight,
    .sections settings.backwards]

/-- Every settings are written by the fields of a document. -/
theorem exists_document (settings : Settings)
    : ∃ document, DocumentForm settings.fields document ∧ Writes settings.fields settings := by
  have written : ∀ field ∈ settings.fields, ∃ text, field.Form text := by
    simp only [fields, List.forall_mem_cons, List.not_mem_nil, false_implies, implies_true,
      and_true]
    refine ⟨⟨_, rfl⟩, ⟨_, rfl⟩, exists_objectForm fun entry _ => exists_objectForm fun keys _ => ?_⟩
    exact exists_integerForm keys.2.toInt
  obtain ⟨text, object⟩ : ∃ text, ObjectForm Field.name Field.Form settings.fields text :=
    exists_objectForm written
  have names : knownNames settings.fields = fieldNames := by
    show fieldNames.filter (· ∈ fieldNames) = fieldNames
    decide
  refine ⟨_, .of_form object, ?_, ?_, ?_, ?_, ?_⟩
  · rw [names]
    decide
  · have told := tells_backwards settings
    simpa [fields, Field.Tells] using told
  all_goals exact fun leftOut => absurd (by rw [names]; decide) leftOut

/-- A lookup of an integer is one in the contents. -/
theorem find?_eq (settings : Settings) (area key : String)
    : settings.find? area key = (settings.contents area).bind (· key) := by
  rw [contents, Option.bind_map]
  rfl

-----------------------------------------------------------------------------------------
-- Loading
-----------------------------------------------------------------------------------------

/-- Settings that were loaded in place of those that were written. -/
structure Restored (loaded settings : Settings) : Prop where
  /-- They say the same. -/
  same : loaded.Same settings
  /-- They describe a display with a second controller exactly if it is written so. -/
  controllers : loaded.options.controllers = .dual ↔ settings.dualController = true
  /-- They describe a display with a backlight exactly if it is written so. -/
  backlight : loaded.options.backlight = true ↔ settings.backlight = true
  /-- Every integer that is written is looked up, whatever the environment holds. -/
  integers
    : ∀ env area key value fallback,
        settings.find? area key = some value
        → (loaded.source env).getInt area key fallback = pure value

/-- The file of settings is refused with an error of a category. -/
def RefusedAs (reader : Json.Reader) (env : Environment) (tree : FileTree) (category : String)
    : Prop :=
  ∃ refusal, loadBy reader env tree = .error refusal ∧ refusal.name = category

/-- How a document in the file of settings is loaded. -/
structure LoadsDocument (reader : Json.Reader) (env : Environment) (tree : FileTree)
    (document : Bytes) : Prop where
  /-- What it writes is restored. -/
  restored
    : ∀ fields settings,
        DocumentForm fields document
        → Writes fields settings
        → ∃ loaded, loadBy reader env tree = .ok (some loaded) ∧ Restored loaded settings
  /-- With a known field that is written twice it is refused. -/
  twice
    : ∀ fields,
        DocumentForm fields document
        → ¬(knownNames fields).Nodup
        → RefusedAs reader env tree "Data"
  /-- It is refused as soon as the field is named again, whatever follows. -/
  again : RepeatsField document → RefusedAs reader env tree "Data"

/-- The same settings restore what is written. -/
theorem Same.restored {loaded settings : Settings} (same : loaded.Same settings)
    : Restored loaded settings where
  same := same
  controllers := by
    rw [options, same.dualController]
    cases settings.dualController <;> simp [Controllers.ofDual]
  backlight := by rw [options, same.backlight]
  integers env area key value fallback held := by
    have holds : loaded.find? area key = some value := by
      rw [find?_eq, same.contents, ← find?_eq, held]
    simp only [source, holds]

/-- Settings are read back from every document that writes them, with its fields in any order, and a
document that writes one of them twice is refused.
-/
theorem documents_read_back (reader : Json.Reader) (standard : reader.Standard) (env : Environment)
    (tree : FileTree) (document : Bytes) (found : tree.look (path env) = .content document)
    : LoadsDocument reader env tree document := by
  have load : loadBy reader env tree = (reader.record schema document).map some := by
    rw [loadBy, found]
    rfl
  have again : RepeatsField document → RefusedAs reader env tree "Data" :=
    fun repeated => ⟨.mismatched, by rw [load, repeated.refused standard]; rfl, rfl⟩
  refine ⟨fun fields settings written writes => ?_,
    fun fields written twice => again (written.repeats twice), again⟩
  obtain ⟨loaded, read, writesToo⟩ := written.read standard writes.once
  exact ⟨loaded, by rw [load, read]; rfl, (writesToo.same writes).restored⟩

/-- A file in the working directory is the one of settings, if no other is named. -/
theorem look_default (document : Bytes)
    : (FileTree.system.putFile ["config.json"] document).look (path ⟨[]⟩) = .content document := by
  have relative : "config.json".startsWith "/" = false := by decide +kernel
  have default : path ⟨[]⟩ = "config.json" := by decide
  rw [default, FileTree.look, if_neg (by decide), relative]
  rfl

/-- Settings with the least integer and nothing else. -/
def leastSettings : Settings where
  sections := [("a", [("b", Int64.minValue)])]

/-- A document that holds them, with an escape in the name of the section and a field that is not
known.
-/
def leastDocument : Bytes :=
  word "\x7b\"sections\":\x7b\"\\u0061\":\x7b\"b\":-9223372036854775808\x7d\x7d,\"x\":[null]\x7d"

/-- It has the field of the sections and another. -/
theorem documentForm_leastDocument
    : DocumentForm [.sections [("a", [("b", Int64.minValue)])], .other "x" (by decide)]
        leastDocument := by
  have digits : WholeText "9223372036854775808".toList :=
    .unpadded (by decide) ⟨by decide, List.all_eq_true.mp (by decide)⟩
  have value : Int64Form Int64.minValue _ := .negative digits (by decide)
  have key : MemberForm Prod.fst (fun entry => Int64Form entry.2) ("b", Int64.minValue) _ :=
    .member (stringForm_of_plain (by decide)) (.value blanks_nil blanks_nil value)
  have keys : EntriesForm Int64Form [("b", Int64.minValue)] _ :=
    .enclosed (.cons (.first blanks_nil) key .nil) blanks_nil
  have letter : CharForm 'a' _ :=
    .unit (.digits (p := 0) (q := 0) (r := 6) (s := 1) (.inl rfl) (.inl rfl) (.inl rfl) (.inl rfl))
  have area
      : MemberForm Prod.fst (fun entry => EntriesForm Int64Form entry.2)
          ("a", [("b", Int64.minValue)]) _ :=
    .member (.cons letter .nil) (.value blanks_nil blanks_nil keys)
  have sections : MemberForm Field.name Field.Form (.sections [("a", [("b", Int64.minValue)])]) _ :=
    .member (stringForm_of_plain (by decide))
      (.value blanks_nil blanks_nil (.enclosed (.cons (.first blanks_nil) area .nil) blanks_nil))
  have null : ∀ element ∈ [word "null"], ValueText 126 element :=
    List.forall_mem_singleton.mpr (.word (by decide))
  have list : ValueText nestingLimit _ :=
    .list null (.enclosed (.cons (.first blanks_nil) rfl .nil) blanks_nil)
  have other : MemberForm Field.name Field.Form (.other "x" (by decide)) _ :=
    .member (stringForm_of_plain (by decide)) (.value blanks_nil blanks_nil list)
  have row : Joined (MemberForm Field.name Field.Form) true _ _ :=
    .cons (.first blanks_nil) sections (.cons (.next blanks_nil blanks_nil) other .nil)
  exact .of_form (.enclosed row blanks_nil)

/-- A text that names the field of the backlight again, with an escape, and breaks off. -/
def repeatingText : Bytes :=
  word "\x7b\"backlight\":true,\"\\u0062acklight\":no"

/-- It repeats that field. -/
theorem repeatsField_repeatingText : RepeatsField repeatingText := by
  have backlight : MemberForm Field.name Field.Form (.backlight true) _ :=
    .member (stringForm_of_plain (by decide)) (.value blanks_nil blanks_nil rfl)
  have row : Joined (MemberForm Field.name Field.Form) true [.backlight true] _ :=
    .cons (.first blanks_nil) backlight .nil
  have letter : CharForm 'b' _ :=
    .unit (.digits (p := 0) (q := 0) (r := 6) (s := 2) (.inl rfl) (.inl rfl) (.inl rfl) (.inl rfl))
  have letters : StringForm "acklight".toList _ := stringForm_of_plain (by decide)
  have name : StringForm (Field.backlight true).name.toList _ := .cons letter letters
  exact @RepeatsField.again _ _ _ _ _ _ (word ":no") blanks_nil row (by decide)
    (.next blanks_nil blanks_nil) name

/-- The least integer is restored under its key, and a field named again with an escape is refused.
-/
theorem documents_read_back_escaped
    : (∃ loaded,
        load ⟨[]⟩ (FileTree.system.putFile ["config.json"] leastDocument) = .ok (some loaded)
        ∧ loaded.options.backlight = false
        ∧ ∀ fallback, (loaded.source ⟨[]⟩).getInt "a" "b" fallback = pure Int64.minValue)
      ∧ RefusedAs Json.reader ⟨[]⟩ (FileTree.system.putFile ["config.json"] repeatingText)
          "Data" := by
  constructor
  · have told
        : ∀ field ∈ [.sections leastSettings.backwards, .other "x" (by decide)],
            Field.Tells leastSettings field :=
      List.forall_mem_cons.mpr
        ⟨tells_backwards leastSettings, List.forall_mem_singleton.mpr trivial⟩
    have writes
        : Writes [.sections leastSettings.backwards, .other "x" (by decide)] leastSettings :=
      ⟨by decide, told, fun _ => rfl, fun _ => rfl, fun leftOut => absurd (by decide) leftOut⟩
    obtain ⟨loaded, loads, restored⟩ :=
      (documents_read_back _ standard_reader _ _ _ (look_default leastDocument)).restored _ _
        documentForm_leastDocument writes
    exact ⟨loaded, loads, restored.same.backlight,
      fun fallback => restored.integers _ _ _ _ fallback rfl⟩
  · exact
      (documents_read_back _ standard_reader _ _ _ (look_default repeatingText)).again
        repeatsField_repeatingText

end Settings

end CharLcd

import CharLcd.Proofs.Config.Integers
import Mathlib

/-! Which lookups are told apart.

A source keeps a section and a key under one name: a variable has the two in capitals with an
underscore between, a table has them with a slash between. A name is cut at its first separator, so
the two come back from it wherever no section holds one; a key may.
-/

namespace CharLcd

/-- Where a separator is in neither first part, the texts around it are those of equal parts. By
induction on the first parts.
-/
theorem append_cons_inj_of_unseparated {α : Type} {separator : α}
    {first other rest otherRest : List α}
    (plain : separator ∉ first) (plainOther : separator ∉ other)
    : first ++ separator :: rest = other ++ separator :: otherRest
      ↔ first = other ∧ rest = otherRest := by
  induction first generalizing other with
  | nil =>
      cases other with
      | nil => simp
      | cons c other => simp [List.ne_of_not_mem_cons plainOther]
  | cons a first ih =>
      have plainRest : separator ∉ first := fun member => plain (List.mem_cons_of_mem a member)
      cases other with
      | nil => simp [(List.ne_of_not_mem_cons plain).symm]
      | cons c other =>
          have plainOtherRest : separator ∉ other :=
            fun member => plainOther (List.mem_cons_of_mem c member)
          simp only [List.cons_append, List.cons.injEq, ih plainRest plainOtherRest, and_assoc]

-----------------------------------------------------------------------------------------
-- Texts up to the case of their ASCII letters
-----------------------------------------------------------------------------------------

/-- Two texts are equal up to the case of their ASCII letters. Any other character counts as it is.
-/
def Text.AlikeButCase (text other : String) : Prop :=
  List.Forall₂ (fun a b : Char => a.toLower = b.toLower) text.toList other.toList

instance (text other : String) : Decidable (Text.AlikeButCase text other) :=
  inferInstanceAs (Decidable (List.Forall₂ _ _ _))

/-- Characters have the same capital exactly if they have the same small letter. -/
theorem Text.toUpper_eq_toUpper_iff {a b : Char}
    : a.toUpper = b.toUpper ↔ a.toLower = b.toLower := by
  constructor <;> intro same
  · rw [← Char.toLower_toUpper_eq_toLower, same, Char.toLower_toUpper_eq_toLower]
  · rw [← Char.toUpper_toLower_eq_toUpper, same, Char.toUpper_toLower_eq_toUpper]

/-- Only a separator has it for a capital, as it is no letter. -/
theorem Text.toUpper_eq_underscore_iff {c : Char} : c.toUpper = '_' ↔ c = '_' := by
  constructor
  · intro same
    have letter := Char.isUpper_toUpper_eq_isAlpha c
    rw [same] at letter
    have other : ¬c.isLower = true := fun lower => by
      have isLetter : c.isAlpha = true := by simp [Char.isAlpha, lower]
      cases letter.trans isLetter
    rwa [Char.toUpper_eq_of_not_isLower other] at same
  · rintro rfl
    rfl

/-- Texts have the same capitals exactly if they are alike but for case. -/
theorem Text.map_toUpper_eq_iff {text other : String}
    : text.toList.map Char.toUpper = other.toList.map Char.toUpper
      ↔ Text.AlikeButCase text other := by
  rw [← List.forall₂_eq_eq_eq, List.forall₂_map_left_iff, List.forall₂_map_right_iff]
  simp only [toUpper_eq_toUpper_iff, AlikeButCase]

-----------------------------------------------------------------------------------------
-- The names of variables
-----------------------------------------------------------------------------------------

namespace ConfigSource

/-- A variable's name is that of the section in capitals, an underscore, and that of the key. -/
theorem toList_variableName (area key : String)
    : (variableName area key).toList
      = area.toList.map Char.toUpper ++ '_' :: key.toList.map Char.toUpper := by
  have separator : Char.toUpper '_' = '_' := rfl
  simp [variableName, separator]

/-- Where no section holds an underscore, lookups read the same variable exactly if sections and
keys are alike but for case.
-/
theorem variableName_eq_iff {area other key otherKey : String} (plain : '_' ∉ area.toList)
    (plainOther : '_' ∉ other.toList)
    : variableName area key = variableName other otherKey
      ↔ Text.AlikeButCase area other ∧ Text.AlikeButCase key otherKey := by
  have capitals {text : String} (plain : '_' ∉ text.toList)
      : '_' ∉ text.toList.map Char.toUpper := by
    simpa only [List.mem_map, Text.toUpper_eq_underscore_iff, exists_eq_right] using plain
  rw [← String.toList_inj, toList_variableName, toList_variableName,
    append_cons_inj_of_unseparated (capitals plain) (capitals plainOther),
    Text.map_toUpper_eq_iff, Text.map_toUpper_eq_iff]

-----------------------------------------------------------------------------------------
-- The names in a table
-----------------------------------------------------------------------------------------

/-- Where no section holds a slash, a table keeps lookups under the same name exactly if sections
and keys are equal.
-/
theorem flatName_eq_iff {area other key otherKey : String} (plain : '/' ∉ area.toList)
    (plainOther : '/' ∉ other.toList)
    : flatName area key = flatName other otherKey ↔ area = other ∧ key = otherKey := by
  have parts (area key : String)
      : (flatName area key).toList = area.toList ++ '/' :: key.toList := by
    simp [flatName]
  rw [← String.toList_inj, parts, parts, append_cons_inj_of_unseparated plain plainOther,
    String.toList_inj, String.toList_inj]

/-- The value of the last assignment to a section and a key that are meant. -/
def lastAssigned? (assignments : List (String × String × Int64)) (meant : String → String → Bool)
    : Option Int64 :=
  (assignments.reverse.find? fun entry => meant entry.1 entry.2.1).map (·.2.2)

/-- It does not matter how it is told which assignments are meant. -/
theorem lastAssigned?_congr {assignments : List (String × String × Int64)}
    {meant other : String → String → Bool}
    (same : ∀ entry ∈ assignments, meant entry.1 entry.2.1 = other entry.1 entry.2.1)
    : lastAssigned? assignments meant = lastAssigned? assignments other :=
  congrArg (Option.map _)
    (List.find?_congr fun entry member => same entry (List.mem_reverse.mp member))

/-- A lookup in assignments gives the last value under its flat name, and notes nothing. -/
theorem getInt_ofAssignments (assignments : List (String × String × Int64)) (area key : String)
    (fallback : Int64)
    : (ofAssignments assignments).getInt area key fallback
      = pure
          ((lastAssigned? assignments fun other otherKey =>
              flatName other otherKey = flatName area key).getD fallback) := by
  simp only [ofAssignments, ofTable, tableOf, lastAssigned?]
  rw [Table.find?_foldl_put (fun entry : String × String × Int64 => flatName entry.1 entry.2.1)]
  simp [Table.find?]

/-- What two lookups in an environment have to do with each other. -/
structure VariablesApart (area key other otherKey : String) : Prop where
  /-- They read the same variable exactly if sections and keys are alike but for case. -/
  named
    : variableName area key = variableName other otherKey
      ↔ Text.AlikeButCase area other ∧ Text.AlikeButCase key otherKey
  /-- Otherwise it does not matter to the one what the variable of the other holds. -/
  unread
    : ¬(Text.AlikeButCase area other ∧ Text.AlikeButCase key otherKey)
      → ∀ env changed : Environment,
          (∀ name, name ≠ variableName other otherKey → env.bytes? name = changed.bytes? name)
          → ∀ fallback,
              (ofEnvironment env).getInt area key fallback
                = (ofEnvironment changed).getInt area key fallback

/-- Which of some assignments a lookup in them answers with: the last one that is meant. -/
structure LastWins (assignments : List (String × String × Int64)) (area key : String)
    (fallback : Int64)
    : Prop where
  /-- An assignment is meant if section, slash and key make up the same text. -/
  joined
    : (ofAssignments assignments).getInt area key fallback
      = pure
          ((lastAssigned? assignments fun other otherKey =>
              other ++ "/" ++ otherKey = area ++ "/" ++ key).getD fallback)
  /-- Where no section holds a slash it is meant if section and key are the same. -/
  apart
    : (∀ entry ∈ assignments, '/' ∉ entry.1.toList)
      → '/' ∉ area.toList
      → (ofAssignments assignments).getInt area key fallback
        = pure
            ((lastAssigned? assignments fun other otherKey =>
                other = area ∧ otherKey = key).getD fallback)

/-- Lookups are told apart by section and key: in an environment up to the case of ASCII letters,
where no section holds an underscore, and in assignments exactly, where none holds a slash.
-/
theorem lookups_told_apart
    : (∀ {area other key otherKey : String},
        '_' ∉ area.toList
        → '_' ∉ other.toList
        → VariablesApart area key other otherKey)
      ∧ ∀ assignments area key fallback, LastWins assignments area key fallback := by
  constructor
  · intro area other key otherKey plain plainOther
    have named
        : variableName area key = variableName other otherKey
          ↔ Text.AlikeButCase area other ∧ Text.AlikeButCase key otherKey :=
      variableName_eq_iff plain plainOther
    refine ⟨named, fun unlike env changed elsewhere fallback => ?_⟩
    exact getInt_ofEnvironment_congr (elsewhere _ (mt named.mp unlike)) fallback
  · intro assignments area key fallback
    refine ⟨getInt_ofAssignments assignments area key fallback, fun plain plainArea => ?_⟩
    rw [getInt_ofAssignments, lastAssigned?_congr]
    intro entry member
    simp only [flatName_eq_iff (plain entry member) plainArea]

/-- The variable of the second enable is read by neither way to write the key of the first, and the
last of two assignments to a key counts.
-/
theorem lookups_told_apart_second_enable
    : (variableName "hd44780" "pin_EN" = variableName "HD44780" "pin_en"
        ∧ ∀ fallback,
            (ofEnvironment ⟨[]⟩).getInt "hd44780" "pin_EN" fallback
              = (ofEnvironment (.ofList [("HD44780_PIN_EN2", Text.encode "6")])).getInt
                  "hd44780" "pin_EN" fallback)
      ∧ (ofAssignments [("hd44780", "pin/EN", 1), ("lcd", "pin/EN", 2), ("hd44780", "pin/EN", 3)]
          ).getInt "hd44780" "pin/EN" 8 = pure 3 := by
  refine ⟨⟨?_, ?_⟩, ?_⟩
  · exact (lookups_told_apart.1 (by decide) (by decide)).named.mpr (by decide)
  · have apart : VariablesApart "hd44780" "pin_EN" "hd44780" "pin_EN2" :=
      lookups_told_apart.1 (by decide) (by decide)
    refine apart.unread (by decide) _ _ fun name unlike => ?_
    exact (Environment.bytes?_concat_of_ne ⟨[]⟩ (by decide) (by decide) unlike).symm
  · exact (lookups_told_apart.2 _ _ _ _).apart (by decide) (by decide)

end ConfigSource

end CharLcd

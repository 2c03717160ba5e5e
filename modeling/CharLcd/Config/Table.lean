/-! Tables from names to values, in the order in which the names first came. -/

namespace CharLcd

/-- Values stored under names. -/
abbrev Table (α : Type) := List (String × α)

namespace Table

variable {α : Type}

/-- The value stored under a name, if there is one. -/
def find? (table : Table α) (name : String) : Option α :=
  List.lookup name table

/-- Stores a value under a name, in place of the value stored there before. -/
def put : Table α → String → α → Table α
  | [], name, value => [(name, value)]
  | (held, old) :: rest, name, value =>
      if held = name then (name, value) :: rest else (held, old) :: put rest name value

/-- A name just stored under has the new value, and every other name keeps its own. -/
theorem find?_put (table : Table α) (name other : String) (value : α)
    : (table.put name value).find? other
      = if other = name then some value else table.find? other := by
  induction table with
  | nil => by_cases h : other = name <;> simp [put, find?, List.lookup_cons, h, beq_eq_false_iff_ne.2]
  | cons entry rest ih =>
      obtain ⟨held, old⟩ := entry
      unfold find? at ih ⊢
      by_cases same : held = name
      · subst same
        by_cases h : other = held <;> simp [put, List.lookup_cons, h, beq_eq_false_iff_ne.2]
      · by_cases h : other = held
        · subst h
          simp [put, same]
        · simp [put, same, List.lookup_cons, h, ih, beq_eq_false_iff_ne.2]

/-- Of the values stored in a row the last one under a name is found, and without one what was there
before. By induction on what is stored.
-/
theorem find?_foldl_put {β : Type} (nameOf : β → String) (valueOf : β → α) (stored : List β)
    (table : Table α) (name : String)
    : (stored.foldl (fun table entry => table.put (nameOf entry) (valueOf entry)) table).find? name
      = ((stored.reverse.find? (nameOf · = name)).map valueOf).or (table.find? name) := by
  induction stored generalizing table with
  | nil => rfl
  | cons entry rest ih =>
      rw [List.foldl_cons, ih, find?_put, List.reverse_cons, List.find?_append]
      by_cases same : nameOf entry = name
      · simp [same]
      · simp [same, Ne.symm same]

end Table

end CharLcd

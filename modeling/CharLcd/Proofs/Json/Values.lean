import CharLcd.Proofs.Json.Numbers

/-! Reading truth values, and passing over values of any kind.

Passing over a value takes a step of fuel for the value and one for what it holds, so twice the
length of its text is enough. That carries the induction: what a value holds is shorter than it by
the brackets around.
-/

namespace CharLcd.Json

-----------------------------------------------------------------------------------------
-- Marks between values
-----------------------------------------------------------------------------------------

/-- A blank can follow a value. -/
theorem mem_of_isBlank {b : UInt8} (blank : isBlank b = true) : b ∈ word " \n\t\r,]\x7d" := by
  simp only [isBlank, Bool.or_eq_true, decide_eq_true_eq] at blank
  obtain ((rfl | rfl) | rfl) | rfl := blank <;> decide

/-- Nothing but blanks can follow a value. -/
theorem Blanks.ends {text : Bytes} (blank : Blanks text) : Ends text :=
  fun b head => mem_of_isBlank (blank b (List.mem_of_mem_head? head))

/-- A comma or a closing mark, after any blanks, can follow a value. -/
theorem ends_of_mark {pad : Bytes} (blank : Blanks pad) {b : UInt8} (mark : b ∈ word ",]\x7d")
    (rest : Bytes)
    : Ends (pad ++ b :: rest) := by
  intro first head
  cases pad with
  | nil =>
      obtain rfl := Option.some.inj head
      exact List.mem_append_right (word " \n\t\r") mark
  | cons c more =>
      obtain rfl := Option.some.inj head
      exact mem_of_isBlank (blank c List.mem_cons_self)

/-- What separates two items can follow a value. -/
theorem Separator.ends {lead : Bytes} (separator : Separator false lead) (rest : Bytes)
    : Ends (lead ++ rest) := by
  obtain - | ⟨before, after⟩ := separator
  rw [List.append_assoc]
  exact ends_of_mark before (by decide) _

/-- What comes after an item of a row can follow a value: the next separator, or what comes after
the row.
-/
theorem Joined.ends {ι : Type} {form : ι → Bytes → Prop} {items : List ι} {text rest : Bytes}
    (joined : Joined form false items text) (ends : Ends rest)
    : Ends (text ++ rest) := by
  cases joined with
  | nil => exact ends
  | cons separator _ _ =>
      rw [List.append_assoc]
      exact separator.ends _

/-- A name and its value begin with a quote. -/
theorem Named.head {name value : Bytes → Prop} {text : Bytes} (named : Named name value text)
    : ∃ more, text = ascii '"' :: more := by
  cases named
  exact ⟨_, rfl⟩

/-- The colon before a value is read. -/
theorem readColon_append {before : Bytes} (blank : Blanks before) (rest : Bytes)
    : readColon (before ++ ascii ':' :: rest) = .ok rest := by
  rw [readColon, skipBlanks_append blank, skipBlanks_solid (by decide)]
  exact if_pos rfl

-----------------------------------------------------------------------------------------
-- Truth values
-----------------------------------------------------------------------------------------

/-- Expected bytes are read, by induction on them. -/
theorem expect_append (expected rest : Bytes) : expect expected (expected ++ rest) = .ok rest := by
  induction expected with
  | nil => rfl
  | cons b expected ih => simpa [expect] using ih

/-- A truth value is read back. By cases on it. -/
theorem readsBack_readBool : ReadsBack BoolForm readBool id := by
  rintro value - rfl before rest blank -
  rw [readBool, skipBlanks_append blank]
  cases value with
  | false =>
      show Except.map (false, ·) (expect (word "alse") (word "alse" ++ rest)) = _
      rw [expect_append]
      rfl
  | true =>
      show Except.map (true, ·) (expect (word "rue") (word "rue" ++ rest)) = _
      rw [expect_append]
      rfl

-----------------------------------------------------------------------------------------
-- Passing over values
-----------------------------------------------------------------------------------------

/-- A text is passed over as a value: after any blanks, and up to whatever follows, with fuel for
twice its length.
-/
def Skips (text : Bytes) : Prop :=
  ∀ fuel before rest,
    2 * text.length ≤ fuel
    → Blanks before
    → Ends rest
    → skipValue fuel (before ++ (text ++ rest)) = .ok rest

/-- A value begins with no blank and no closing bracket. By cases on its kind. -/
theorem ValueText.head {depth : Nat} {text : Bytes} (value : ValueText depth text)
    : ∃ b more, text = b :: more ∧ isBlank b = false ∧ b ≠ ascii ']' := by
  cases value with
  | word listed =>
      simp only [List.mem_cons, List.not_mem_nil, or_false] at listed
      obtain rfl | rfl | rfl := listed <;> exact ⟨_, _, rfl, by decide, by decide⟩
  | number number =>
      obtain ⟨b, more, rfl, skipped⟩ := number.skipped
      refine ⟨b, more, rfl, ?_⟩
      obtain ⟨rfl, -⟩ | ⟨digit, -⟩ := skipped [] (by simp [Ends])
      · decide
      · exact ⟨isBlank_of_isDigit digit, ne_of_isDigit digit (by decide)⟩
  | string _ => exact ⟨_, _, rfl, by decide, by decide⟩
  | list _ grouped =>
      cases grouped
      exact ⟨_, _, rfl, by decide, by decide⟩
  | object _ _ grouped =>
      cases grouped
      exact ⟨_, _, rfl, by decide, by decide⟩

/-- A value of a list is passed over, and the mark after it tells how to go on. -/
theorem skipElements_step {element : Bytes} (skips : Skips element) {lead after : Bytes}
    (blank : Blanks lead) (ends : Ends after) {fuel : Nat} (room : 2 * element.length ≤ fuel)
    : skipElements (fuel + 1) (lead ++ (element ++ after))
      = match skipBlanks after with
        | [] => .error .truncated
        | b :: more =>
            if b = ascii ',' then skipElements fuel more
            else if b = ascii ']' then .ok more
            else .error .malformed := by
  rw [skipElements, skips fuel lead after room blank ends]
  rfl

/-- The values of a list are passed over up to its closing bracket, by induction on them. -/
theorem skipElements_joined {element : Bytes} {elements : List Bytes}
    (values : ∀ value ∈ element :: elements, Skips value) {lead tail pad : Bytes}
    (blank : Blanks lead) (others : Joined Eq false elements tail) (blankToo : Blanks pad)
    {fuel : Nat} (room : 2 * (lead ++ (element ++ tail)).length ≤ fuel) (rest : Bytes)
    : skipElements (fuel + 1) (lead ++ (element ++ (tail ++ (pad ++ ascii ']' :: rest))))
      = .ok rest := by
  have closing : Ends (pad ++ ascii ']' :: rest) := ends_of_mark blankToo (by decide) rest
  simp only [List.length_append] at room
  induction elements generalizing element lead tail fuel with
  | nil =>
      obtain ⟨skips, -⟩ := List.forall_mem_cons.mp values
      rw [skipElements_step skips blank (others.ends closing) (by omega)]
      cases others
      rw [List.nil_append, skipBlanks_append blankToo, skipBlanks_solid (by decide)]
      rfl
  | cons next elements ih =>
      obtain ⟨skips, values⟩ := List.forall_mem_cons.mp values
      rw [skipElements_step skips blank (others.ends closing) (by omega)]
      obtain - | ⟨- | ⟨before, after⟩, rfl, others⟩ := others
      simp only [List.append_assoc, List.cons_append, skipBlanks_append before]
      rw [skipBlanks_solid (by decide)]
      simp only [List.length_append, List.length_cons] at room
      obtain ⟨fuel, rfl⟩ : ∃ left, fuel = left + 1 := ⟨fuel - 1, by omega⟩
      exact ih values after others (by omega)

/-- A named value of an object is passed over, and the mark after it tells how to go on. -/
theorem skipMembers_step {name value text : Bytes} (string : StringText name)
    (skips : Skips value) (named : Named (Eq name) (Eq value) text) {lead after : Bytes}
    (blank : Blanks lead) (ends : Ends after) {fuel : Nat} (room : 2 * text.length ≤ fuel)
    : skipMembers (fuel + 1) (lead ++ (text ++ after))
      = match skipBlanks after with
        | [] => .error .truncated
        | c :: more =>
            if c = ascii ',' then skipMembers fuel more
            else if c = ascii '\x7d' then .ok more
            else .error .malformed := by
  obtain ⟨rfl, ⟨before, between, rfl⟩⟩ := named
  simp only [quoted, List.length_append, List.length_cons] at room
  simp only [quoted, List.append_assoc, List.cons_append, List.nil_append]
  rw [skipMembers, skipBlanks_append blank, skipBlanks_solid (by decide)]
  simp only [if_true, string.skipped, readColon_append before, Bind.bind, Except.bind]
  rw [skips fuel _ after (by omega) between ends]
  rfl

/-- The named values of an object are passed over up to its closing brace, by induction on them. -/
theorem skipMembers_joined {member : Bytes × Bytes} {members : List (Bytes × Bytes)}
    (names : ∀ named ∈ member :: members, StringText named.1)
    (values : ∀ named ∈ member :: members, Skips named.2) {lead text tail pad : Bytes}
    (blank : Blanks lead) (named : Named (Eq member.1) (Eq member.2) text)
    (others : Joined (fun member => Named (Eq member.1) (Eq member.2)) false members tail)
    (blankToo : Blanks pad) {fuel : Nat} (room : 2 * (lead ++ (text ++ tail)).length ≤ fuel)
    (rest : Bytes)
    : skipMembers (fuel + 1) (lead ++ (text ++ (tail ++ (pad ++ ascii '\x7d' :: rest))))
      = .ok rest := by
  have closing : Ends (pad ++ ascii '\x7d' :: rest) := ends_of_mark blankToo (by decide) rest
  simp only [List.length_append] at room
  induction members generalizing member lead text tail fuel with
  | nil =>
      obtain ⟨string, -⟩ := List.forall_mem_cons.mp names
      obtain ⟨skips, -⟩ := List.forall_mem_cons.mp values
      rw [skipMembers_step string skips named blank (others.ends closing) (by omega)]
      cases others
      rw [List.nil_append, skipBlanks_append blankToo, skipBlanks_solid (by decide)]
      rfl
  | cons next members ih =>
      obtain ⟨string, names⟩ := List.forall_mem_cons.mp names
      obtain ⟨skips, values⟩ := List.forall_mem_cons.mp values
      rw [skipMembers_step string skips named blank (others.ends closing) (by omega)]
      obtain - | ⟨- | ⟨before, after⟩, named, others⟩ := others
      simp only [List.append_assoc, List.cons_append, skipBlanks_append before]
      rw [skipBlanks_solid (by decide)]
      simp only [List.length_append, List.length_cons] at room
      obtain ⟨fuel, rfl⟩ : ∃ left, fuel = left + 1 := ⟨fuel - 1, by omega⟩
      exact ih names values after named others (by omega)

/-- A list is passed over by its values, if a first one begins before the closing bracket. -/
theorem skipValue_list {before : Bytes} (blank : Blanks before) (fuel : Nat) (text : Bytes)
    : skipValue (fuel + 1) (before ++ ascii '[' :: text)
      = match skipBlanks text with
        | [] => .error .truncated
        | c :: more => if c = ascii ']' then .ok more else skipElements fuel text := by
  rw [skipValue, skipBlanks_append blank, skipBlanks_solid (by decide)]
  rfl

/-- An object is passed over by its named values, if a first one begins before the closing brace. -/
theorem skipValue_object {before : Bytes} (blank : Blanks before) (fuel : Nat) (text : Bytes)
    : skipValue (fuel + 1) (before ++ ascii '\x7b' :: text)
      = match skipBlanks text with
        | [] => .error .truncated
        | c :: more => if c = ascii '\x7d' then .ok more else skipMembers fuel text := by
  rw [skipValue, skipBlanks_append blank, skipBlanks_solid (by decide)]
  rfl

/-- A list of values that are passed over is passed over. By cases on whether it has any. -/
theorem skips_list {depth : Nat} {elements : List Bytes} {text : Bytes}
    (values : ∀ element ∈ elements, ValueText depth element)
    (skips : ∀ element ∈ elements, Skips element)
    (grouped : Grouped Eq '[' ']' elements text)
    : Skips text := by
  intro fuel before rest room blank _
  obtain ⟨joined, blankToo⟩ := grouped
  simp only [List.length_append, List.length_cons] at room
  obtain ⟨fuel, rfl⟩ : ∃ left, fuel = left + 2 := ⟨fuel - 2, by omega⟩
  simp only [List.cons_append, List.append_assoc, List.nil_append]
  rw [skipValue_list blank]
  cases joined with
  | nil =>
      rw [List.nil_append, skipBlanks_append blankToo, skipBlanks_solid (by decide)]
      rfl
  | @cons _ lead _ tail element _ separator same others =>
      subst same
      obtain ⟨blankLead⟩ := separator
      have room : 2 * (lead ++ (element ++ tail)).length ≤ fuel := by omega
      have skipped := skipElements_joined skips blankLead others blankToo room rest
      obtain ⟨b, more, rfl, solid, opens⟩ := (values element List.mem_cons_self).head
      simp only [List.append_assoc, List.cons_append, skipBlanks_append blankLead,
        skipBlanks_solid solid, if_neg opens]
      exact skipped

/-- An object of values that are passed over is passed over. By cases on whether it has any. -/
theorem skips_object {members : List (Bytes × Bytes)} {text : Bytes}
    (names : ∀ member ∈ members, StringText member.1) (skips : ∀ member ∈ members, Skips member.2)
    (grouped
      : Grouped (fun member => Named (Eq member.1) (Eq member.2)) '\x7b' '\x7d' members text)
    : Skips text := by
  intro fuel before rest room blank _
  obtain ⟨joined, blankToo⟩ := grouped
  simp only [List.length_append, List.length_cons] at room
  obtain ⟨fuel, rfl⟩ : ∃ left, fuel = left + 2 := ⟨fuel - 2, by omega⟩
  simp only [List.cons_append, List.append_assoc, List.nil_append]
  rw [skipValue_object blank]
  cases joined with
  | nil =>
      rw [List.nil_append, skipBlanks_append blankToo, skipBlanks_solid (by decide)]
      rfl
  | @cons _ lead text tail _ _ separator named others =>
      obtain ⟨blankLead⟩ := separator
      have room : 2 * (lead ++ (text ++ tail)).length ≤ fuel := by omega
      have skipped := skipMembers_joined names skips blankLead named others blankToo room rest
      obtain ⟨more, rfl⟩ := named.head
      simp only [List.append_assoc, List.cons_append, skipBlanks_append blankLead]
      rw [skipBlanks_solid (by decide)]
      exact skipped

/-- A number is passed over. -/
theorem skips_number {text : Bytes} (number : NumberText text) : Skips text := by
  intro fuel before rest room blank ends
  obtain ⟨b, more, rfl, skipped⟩ := number.skipped
  simp only [List.length_cons] at room
  obtain ⟨fuel, rfl⟩ : ∃ left, fuel = left + 1 := ⟨fuel - 1, by omega⟩
  rw [skipValue, skipBlanks_append blank, List.cons_append]
  obtain ⟨rfl, skips⟩ | ⟨digit, skips⟩ := skipped rest ends
  · rw [skipBlanks_solid (by decide)]
    exact skips
  · rw [skipBlanks_solid (isBlank_of_isDigit digit)]
    simp (disch := decide) only [ne_of_isDigit digit, if_false, digit, if_true, skips]

/-- A value is passed over. By induction on it. -/
theorem ValueText.skips {depth : Nat} {text : Bytes} (value : ValueText depth text)
    : Skips text := by
  induction value with
  | word listed =>
      intro fuel before rest room blank _
      simp only [List.mem_cons, List.not_mem_nil, or_false] at listed
      obtain rfl | rfl | rfl := listed
      all_goals
        simp only [Json.word, List.length_map] at room
        obtain ⟨fuel, rfl⟩ : ∃ left, fuel = left + 1 := ⟨fuel - 1, by simp at room; omega⟩
        rw [skipValue, skipBlanks_append blank]
        exact expect_append _ rest
  | number number => exact skips_number number
  | string string =>
      intro fuel before rest room blank _
      simp only [quoted, List.length_cons] at room
      obtain ⟨fuel, rfl⟩ : ∃ left, fuel = left + 1 := ⟨fuel - 1, by omega⟩
      rw [skipValue, skipBlanks_append blank, quoted, List.cons_append, List.append_assoc,
        skipBlanks_solid (by decide)]
      exact string.skipped rest
  | list values grouped ih => exact skips_list values ih grouped
  | object names _ grouped ih => exact skips_object names ih grouped

/-- A value is passed over, whatever stands around it. -/
theorem skip_of_value {depth : Nat} {text : Bytes} (value : ValueText depth text)
    {before rest : Bytes} (blank : Blanks before) (ends : Ends rest)
    : skip (before ++ (text ++ rest)) = .ok rest :=
  value.skips _ before rest (by simp only [List.length_append]; omega) blank ends

end CharLcd.Json

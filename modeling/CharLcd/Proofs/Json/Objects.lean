import CharLcd.Proofs.Json.Values

/-! Reading objects.

The entries of an object are read one after the other, each by a reader of its own. What such a
reader makes of every item is enough to know: the object is then read to what all its items make in
turn.
-/

namespace CharLcd.Json

variable {σ ι : Type} {nameOf : ι → String} {form : ι → Bytes → Prop}
  {readEntry : σ → String → Bytes → Except Refusal (σ × Bytes)}
  {take : σ → ι → Except Refusal σ}

/-- What a reader of entries makes of every item that is written in one of its forms: it gets the
name and the text from the colon on, and leaves what follows, with any blanks before it.
-/
def Takes (readEntry : σ → String → Bytes → Except Refusal (σ × Bytes)) (nameOf : ι → String)
    (form : ι → Bytes → Prop) (take : σ → ι → Except Refusal σ)
    : Prop :=
  ∀ state item text rest,
    Assigned (form item) text
    → Ends rest
    → ∃ pad,
        Blanks pad
        ∧ readEntry state (nameOf item) (text ++ rest) = (take state item).map (·, pad ++ rest)

-----------------------------------------------------------------------------------------
-- The next name
-----------------------------------------------------------------------------------------

/-- After what separates two items the quote of the next name is found. By cases on the separator.
-/
theorem nextName_of_separator {first : Bool} {lead : Bytes} (separator : Separator first lead)
    (rest : Bytes)
    : nextName first (lead ++ ascii '"' :: rest) = .ok (true, rest) := by
  cases separator with
  | first blank =>
      rw [nextName, skipBlanks_append blank, skipBlanks_solid (by decide)]
      rfl
  | next before after =>
      rw [List.append_assoc, nextName, skipBlanks_append before, List.cons_append,
        skipBlanks_solid (by decide)]
      simp only [skipBlanks_append after]
      rw [skipBlanks_solid (by decide)]
      rfl

/-- After the last item the closing brace is found. -/
theorem nextName_of_closing {pad : Bytes} (blank : Blanks pad) (first : Bool) (rest : Bytes)
    : nextName first (pad ++ ascii '\x7d' :: rest) = .ok (false, rest) := by
  rw [nextName, skipBlanks_append blank, skipBlanks_solid (by decide)]
  rfl

-----------------------------------------------------------------------------------------
-- Entries
-----------------------------------------------------------------------------------------

/-- With no further item the entries end. -/
theorem readEntries_closing {pad : Bytes} (blank : Blanks pad) (fuel : Nat) (first : Bool)
    (state : σ) (rest : Bytes)
    : readEntries readEntry (fuel + 1) first state (pad ++ ascii '\x7d' :: rest)
      = .ok (state, rest) := by
  rw [readEntries, nextName_of_closing blank]
  rfl

/-- Blanks before other blanks are blanks. -/
theorem Blanks.append {before after : Bytes} (blank : Blanks before) (blankToo : Blanks after)
    : Blanks (before ++ after) :=
  fun b member => (List.mem_append.mp member).elim (blank b) (blankToo b)

/-- What separates two items does so with further blanks before it. -/
theorem Separator.padded {first : Bool} {lead pad : Bytes} (separator : Separator first lead)
    (blank : Blanks pad)
    : Separator first (pad ++ lead) := by
  cases separator with
  | first lead => exact .first (blank.append lead)
  | next before after =>
      rw [← List.append_assoc]
      exact .next (blank.append before) after

/-- A name is read before its entry, whatever follows it and with any blanks before what separates
it from the entry before.
-/
theorem readEntries_named {first : Bool} {pad lead inside : Bytes} {name : String}
    (blank : Blanks pad) (separator : Separator first lead) (string : StringForm name.toList inside)
    (fuel : Nat) (state : σ) (rest : Bytes)
    : readEntries readEntry (fuel + 1) first state (pad ++ (lead ++ (quoted inside ++ rest)))
      = (readEntry state name rest >>= fun (state, rest) =>
          readEntries readEntry fuel false state rest) := by
  rw [quoted, List.cons_append, List.append_assoc, ← List.append_assoc pad, readEntries,
    nextName_of_separator (separator.padded blank)]
  simp only [Bind.bind, Except.bind, List.cons_append, List.nil_append,
    readString_of_form string]

/-- Items in a row are taken up one after the other, by induction on them. What one leaves stands
before what separates it from the next.
-/
theorem readEntries_joined (takes : Takes readEntry nameOf form take) {first : Bool}
    {items : List ι} {inside rest : Bytes}
    (joined : Joined (MemberForm nameOf form) first items inside) (ends : Ends rest) (fuel : Nat)
    (state : σ) {pad : Bytes} (blank : Blanks pad)
    : ∃ left,
        Blanks left
        ∧ readEntries readEntry (items.length + fuel) first state (pad ++ (inside ++ rest))
          = (items.foldlM take state >>= fun state =>
              readEntries readEntry fuel (first && items.isEmpty) state (left ++ rest)) := by
  induction joined generalizing state pad with
  | nil => exact ⟨pad, blank, by simp [Bind.bind, Except.bind, pure, Except.pure]⟩
  | @cons first lead text more item items separator named others ih =>
      obtain ⟨string, assigned⟩ := named
      obtain ⟨left, blankLeft, taken⟩ := takes state item _ _ assigned (others.ends ends)
      rw [List.length_cons, Nat.add_right_comm, List.append_assoc, List.append_assoc,
        List.append_assoc, readEntries_named blank separator string, taken, List.foldlM_cons]
      cases take state item with
      | error refusal => exact ⟨[], blanks_nil, rfl⟩
      | ok next =>
          obtain ⟨pad, blank, read⟩ := ih next blankLeft
          rw [List.isEmpty_cons, Bool.and_false]
          exact ⟨pad, blank, read⟩

/-- A row has no more items than bytes, by induction on it. -/
theorem Joined.length_le {first : Bool} {items : List ι} {inside : Bytes}
    (joined : Joined (MemberForm nameOf form) first items inside)
    : items.length ≤ inside.length := by
  induction joined with
  | nil => simp
  | cons _ named _ ih =>
      obtain ⟨more, rfl⟩ := named.head
      simp only [List.length_cons, List.length_append]
      omega

/-- The first items of an object are taken up, and its other entries are read after them. -/
theorem readObject_joined (takes : Takes readEntry nameOf form take) {items : List ι}
    {inside rest : Bytes} (joined : Joined (MemberForm nameOf form) true items inside)
    (ends : Ends rest) (state : σ)
    : ∃ fuel pad,
        Blanks pad
        ∧ readObject readEntry state (inside ++ rest)
          = (items.foldlM take state >>= fun state =>
              readEntries readEntry (fuel + 1) items.isEmpty state (pad ++ rest)) := by
  obtain ⟨spare, length⟩ := Nat.exists_eq_add_of_le joined.length_le
  have fuel
      : (inside ++ rest).length + 1 = items.length + (spare + rest.length + 1) := by
    rw [List.length_append, length]
    omega
  obtain ⟨pad, blank, read⟩ :=
    readEntries_joined takes joined ends (spare + rest.length + 1) state blanks_nil
  exact ⟨spare + rest.length, pad, blank, by rw [readObject, fuel]; exact read⟩

/-- An object is read to what its items make in turn, if they can all be taken up. -/
theorem readObject_of_form (takes : Takes readEntry nameOf form take) {items : List ι}
    {inside pad : Bytes} (joined : Joined (MemberForm nameOf form) true items inside)
    (blank : Blanks pad) (state : σ) (rest : Bytes)
    : readObject readEntry state (inside ++ (pad ++ ascii '\x7d' :: rest))
      = (items.foldlM take state).map (·, rest) := by
  have ends : Ends (pad ++ ascii '\x7d' :: rest) := ends_of_mark blank (by decide) rest
  obtain ⟨fuel, left, blankLeft, read⟩ := readObject_joined takes joined ends state
  rw [read]
  cases items.foldlM take state with
  | error refusal => rfl
  | ok taken =>
      rw [← List.append_assoc]
      exact readEntries_closing (blankLeft.append blank) fuel _ taken rest

end CharLcd.Json

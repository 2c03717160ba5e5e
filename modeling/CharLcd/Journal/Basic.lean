import CharLcd.Journal.Note

/-! Keeping a journal of notes.

A program that reports while it acts runs in a monad with a `Journal`. A lookup that only computes
returns a `Logged` value instead, which carries its notes with it until they are reported.
-/

namespace CharLcd

/-- A monad whose programs can report notes. -/
class Journal (m : Type → Type) where
  note : Note → m Unit

export Journal (note)

/-- A value together with the notes made on the way to it, in order. -/
structure Logged (α : Type) where
  value : α
  notes : List Note := []
deriving Repr

namespace Logged

instance : Monad Logged where
  pure value := ⟨value, []⟩
  bind first next := ⟨(next first.value).value, first.notes ++ (next first.value).notes⟩

instance : Journal Logged where
  note entry := ⟨(), [entry]⟩

/-- A value reached without a note. -/
@[simp]
theorem value_pure {α : Type} (value : α) : (pure value : Logged α).value = value :=
  rfl

/-- Nothing is noted on the way to a value that is already there. -/
@[simp]
theorem notes_pure {α : Type} (value : α) : (pure value : Logged α).notes = [] :=
  rfl

/-- The value of a sequence is that of its last part. -/
@[simp]
theorem value_bind {α β : Type} (first : Logged α) (next : α → Logged β)
    : (first >>= next).value = (next first.value).value :=
  rfl

/-- The notes of a sequence follow each other. -/
@[simp]
theorem notes_bind {α β : Type} (first : Logged α) (next : α → Logged β)
    : (first >>= next).notes = first.notes ++ (next first.value).notes :=
  rfl

/-- A mapped value keeps the notes made on the way to it. -/
@[simp]
theorem value_map {α β : Type} (f : α → β) (first : Logged α)
    : (f <$> first).value = f first.value :=
  rfl

/-- Mapping a value notes nothing further. -/
@[simp]
theorem notes_map {α β : Type} (f : α → β) (first : Logged α)
    : (f <$> first).notes = first.notes :=
  List.append_nil _

/-- Reports the notes of a value, in order, and returns the value. -/
def emit {m : Type → Type} [Monad m] [Journal m] {α : Type} (logged : Logged α) : m α := do
  logged.notes.forM note
  return logged.value

end Logged

end CharLcd

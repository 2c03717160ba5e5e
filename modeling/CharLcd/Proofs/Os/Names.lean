import CharLcd.Proofs.Os.Trees
import Mathlib.Data.List.Pairwise

/-! The names of files, of which no file ever gets a second one.

A file that is put into a system is a new one, unless there was a file in its place, which stays the
same file then. So two names always stand for two files, whatever was put there or removed before.
-/

namespace CharLcd

/-- The number of the file that an entry names, if it is not a directory. -/
def Entry.number? : Entry → Option Nat
  | .file number => some number
  | .directory => none

namespace FileTree

variable {tree other : FileTree} {way path : Path} {number : Nat}

/-- Two entries do not name the same file. -/
def Apart (entry other : Place × Entry) : Prop :=
  ∀ number ∈ entry.2.number?, number ∉ other.2.number?

instance (entry other : Place × Entry) : Decidable (Apart entry other) :=
  inferInstanceAs (Decidable (∀ number ∈ entry.2.number?, number ∉ other.2.number?))

instance : Std.Symm Apart where
  symm _ _ apart number own foreign := apart number foreign own

/-- No file has two names, and every file that has one is there. -/
structure SinglyNamed (tree : FileTree) : Prop where
  distinct : tree.entries.Pairwise Apart
  present : ∀ entry ∈ tree.entries, ∀ number ∈ entry.2.number?, number < tree.contents.length

/-- An entry that is found at a place is one of the tree. -/
theorem mem_entries_of_entry? (found : tree.entry? path = some (.file number))
    : (Place.ofPath path, Entry.file number) ∈ tree.entries := by
  unfold entry? at found
  split at found
  · cases found
  · obtain ⟨before, after, parts, _⟩ := List.lookup_eq_some_iff.mp found
    rw [parts]
    exact List.mem_append_right _ List.mem_cons_self

/-- A search that finds a file has found it in the place where the path leads. By induction on the
path.
-/
theorem entry?_of_findFrom (moves : ∀ name ∈ path, staysInPlace name = false)
    (found : tree.findFrom way path = .ok (.file number))
    : tree.entry? (path.foldl follow way) = some (.file number) := by
  induction path generalizing way with
  | nil => cases found
  | cons name rest ih =>
      obtain ⟨first, others⟩ := List.forall_mem_cons.mp moves
      simp only [findFrom, first, Bool.false_eq_true, if_false] at found
      cases entered : tree.entry? (follow way name) with
      | none =>
          rw [entered] at found
          cases found
      | some entry =>
          rw [entered] at found
          cases entry with
          | directory => exact ih others found
          | file other =>
              cases rest with
              | cons next rest => cases found
              | nil =>
                  cases found
                  exact entered

theorem entry?_of_findFile (moves : ∀ name ∈ path, staysInPlace name = false)
    (found : tree.findFile path = .ok number)
    : tree.entry? (resolve path) = some (.file number) := by
  unfold findFile find at found
  cases searched : tree.findFrom working path with
  | error errno =>
      rw [searched] at found
      cases found
  | ok entry =>
      rw [searched] at found
      cases entry with
      | directory => cases found
      | file other =>
          cases found
          exact entry?_of_findFrom moves searched

-----------------------------------------------------------------------------------------
-- Changes of a tree
-----------------------------------------------------------------------------------------

/-- A tree has come out of another one in which no file had two names: none has now, no file is gone,
and every name is an old one or that of a new file.
-/
structure Descends (tree other : FileTree) : Prop where
  named : tree.SinglyNamed → other.SinglyNamed
  more : tree.contents.length ≤ other.contents.length
  known : ∀ entry ∈ other.entries, ∀ number ∈ entry.2.number?,
    entry ∈ tree.entries ∨ tree.contents.length ≤ number

namespace Descends

theorem refl (tree : FileTree) : Descends tree tree :=
  ⟨id, Nat.le_refl _, fun _ member _ _ => Or.inl member⟩

theorem trans {middle : FileTree} (first : Descends tree middle) (second : Descends middle other)
    : Descends tree other where
  named := second.named ∘ first.named
  more := Nat.le_trans first.more second.more
  known entry member number own := by
    rcases second.known entry member number own with old | new
    · exact first.known entry old number own
    · exact Or.inr (Nat.le_trans first.more new)

theorem setContent (tree : FileTree) (number : Nat) (bytes : Bytes)
    : Descends tree (tree.setContent number bytes) where
  named named := by
    refine ⟨named.distinct, fun entry member number own => ?_⟩
    simpa [FileTree.setContent] using named.present entry member number own
  more := by simp [FileTree.setContent]
  known _ member _ _ := Or.inl member

/-- A directory has no number that a file could share. -/
theorem addDirectory (tree : FileTree) (way : Path) : Descends tree (tree.addDirectory way) := by
  unfold FileTree.addDirectory
  split
  · exact refl tree
  · refine ⟨fun named => ⟨?_, fun entry member number own => ?_⟩, Nat.le_refl _, ?_⟩
    · refine List.pairwise_append.mpr ⟨named.distinct, List.pairwise_singleton _ _, ?_⟩
      intro entry _ added member number _
      rw [List.mem_singleton.mp member]
      exact nofun
    · rcases List.mem_append.mp member with old | added
      · exact named.present entry old number own
      · rw [List.mem_singleton.mp added] at own
        cases own
    · intro entry member number own
      rcases List.mem_append.mp member with old | added
      · exact Or.inl old
      · rw [List.mem_singleton.mp added] at own
        cases own

/-- By induction on the names that lead to the directory. -/
theorem makeFrom (tree : FileTree) (way : Path) (names : List String)
    : Descends tree (tree.makeFrom way names) := by
  induction names generalizing tree way with
  | nil => exact addDirectory tree way
  | cons name rest ih => exact (addDirectory tree way).trans (ih _ _)

/-- A file that is put where none was gets a number that no other one has. -/
theorem putFile (tree : FileTree) (path : Path) (bytes : Bytes)
    : Descends tree (tree.putFile path bytes) := by
  unfold FileTree.putFile
  rcases tree.entry? (resolve path) with _ | _ | number
  · have made := makeFrom tree working path.dropLast
    refine made.trans ⟨fun named => ⟨?_, fun entry member number own => ?_⟩, ?_, ?_⟩
    · refine List.pairwise_append.mpr ⟨named.distinct, List.pairwise_singleton _ _, ?_⟩
      intro entry inside added member number own
      rw [List.mem_singleton.mp member]
      intro same
      cases same
      exact absurd (named.present entry inside _ own) (Nat.lt_irrefl _)
    · rw [List.length_append, List.length_singleton]
      rcases List.mem_append.mp member with old | added
      · exact Nat.lt_succ_of_lt (named.present entry old number own)
      · rw [List.mem_singleton.mp added] at own
        cases own
        exact Nat.lt_succ_self _
    · simp [makeDirectory]
    · intro entry member number own
      rcases List.mem_append.mp member with old | added
      · exact Or.inl old
      · rw [List.mem_singleton.mp added] at own
        cases own
        exact Or.inr (Nat.le_refl _)
  · exact refl tree
  · exact setContent tree number bytes

theorem put (tree : FileTree) (path : Path) (content : Option Bytes)
    : Descends tree (tree.put path content) := by
  cases content with
  | none => exact makeFrom tree working path
  | some bytes => exact putFile tree path bytes

/-- Names that are left were there before. -/
theorem remove (tree : FileTree) (path : Path) : Descends tree (tree.remove path) := by
  unfold FileTree.remove
  split
  · exact refl tree
  · refine ⟨fun named => ⟨named.distinct.filter _, fun entry member => ?_⟩, Nat.le_refl _, ?_⟩
    · exact named.present entry (List.mem_of_mem_filter member)
    · exact fun entry member _ _ => Or.inl (List.mem_of_mem_filter member)

/-- What every step does, all steps do. By induction on the items. -/
theorem foldl {α : Type} {change : FileTree → α → FileTree}
    (descends : ∀ tree item, Descends tree (change tree item)) (tree : FileTree) (items : List α)
    : Descends tree (items.foldl change tree) := by
  induction items generalizing tree with
  | nil => exact refl tree
  | cons item rest ih => exact (descends tree item).trans (ih _)

end Descends

/-- In a system before anything is put into it no file has two names. -/
theorem singlyNamed_system : SinglyNamed system where
  distinct := by decide
  present := by decide

end FileTree

end CharLcd

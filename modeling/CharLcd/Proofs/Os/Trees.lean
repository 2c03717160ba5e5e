import CharLcd.Os.FileTree
import Mathlib.Data.List.Infix
import Mathlib.Tactic.SplitIfs

/-! What is found in a tree of files, and what is found after files were put into it. -/

namespace CharLcd.FileTree

variable {tree other : FileTree} {way path : Path} {number : Nat}

-----------------------------------------------------------------------------------------
-- Searching
-----------------------------------------------------------------------------------------

/-- Where a path leads depends on the names in a tree alone. By induction on the rest of the path. -/
theorem findFrom_congr (same : tree.entries = other.entries) (way : Path) (path : Path)
    : tree.findFrom way path = other.findFrom way path := by
  have entries (way : Path) : tree.entry? way = other.entry? way := by
    unfold entry?
    rw [same]
  induction path generalizing way with
  | nil => rfl
  | cons name rest ih => simp only [findFrom, ih, entries]

theorem findFile_congr (same : tree.entries = other.entries) (path : Path)
    : tree.findFile path = other.findFile path := by
  unfold findFile find
  rw [findFrom_congr same]

/-- A name that leads down. -/
def Proper (name : String) : Prop :=
  staysInPlace name = false ∧ name ≠ ".."

/-- A search that comes through directories only finds the file at its end. By induction on the path. -/
theorem findFrom_of_entries (proper : ∀ name ∈ path, Proper name) (some : path ≠ [])
    (inner
      : ∀ part, part <+: path → part ≠ [] → part ≠ path
        → tree.entry? (way ++ part) = .some .directory)
    (found : tree.entry? (way ++ path) = .some (.file number))
    : tree.findFrom way path = .ok (.file number) := by
  induction path generalizing way with
  | nil => exact absurd rfl some
  | cons name rest ih =>
      obtain ⟨⟨moves, down⟩, others⟩ := List.forall_mem_cons.mp proper
      have step : follow way name = way ++ [name] := if_neg down
      rw [findFrom, if_neg (by simp [moves]), step]
      cases rest with
      | nil => simp [found]
      | cons next rest =>
          have through : tree.entry? (way ++ [name]) = .some .directory :=
            inner [name] ⟨next :: rest, rfl⟩ (List.cons_ne_nil _ _) (by simp)
          simp only [through]
          apply ih others (List.cons_ne_nil _ _)
          · intro part before some short
            rw [List.append_assoc]
            apply inner (name :: part) _ (List.cons_ne_nil _ _)
            · exact fun same => short (List.cons.inj same).2
            · exact (List.prefix_cons_inj name).mpr before
          · rw [List.append_assoc]
            exact found

-----------------------------------------------------------------------------------------
-- Contents
-----------------------------------------------------------------------------------------

/-- Content that is replaced twice is replaced the second time. -/
theorem setContent_setContent (tree : FileTree) (number : Nat) (first second : Bytes)
    : (tree.setContent number first).setContent number second
      = tree.setContent number second := by
  simp [setContent, List.set_set]

/-- Content that is replaced by itself stays. -/
theorem setContent_of_present {bytes : Bytes} (present : tree.contents[number]? = some bytes)
    : tree.setContent number bytes = tree := by
  obtain ⟨bound, rfl⟩ := List.getElem?_eq_some_iff.mp present
  simp [setContent]

/-- A write from the beginning on replaces content that is not longer. -/
theorem overwrite_of_length_le {old bytes : Bytes} (short : old.length ≤ bytes.length)
    : overwrite old 0 bytes = bytes := by
  simp [overwrite, List.drop_eq_nil_of_le short]

-----------------------------------------------------------------------------------------
-- Putting files
-----------------------------------------------------------------------------------------

/-- An entry that is added at the end is found where there was none. -/
theorem entry?_append (tree : FileTree) (place : Path) (entry : Entry) (way : Path)
    : entry? { tree with entries := tree.entries ++ [(.ofPath place, entry)] } way
      = (tree.entry? way).or (if way = place then some entry else none) := by
  unfold entry?
  by_cases above : way.isPrefixOf working
  · rw [if_pos above, if_pos above, Option.some_or]
  · rw [if_neg above, if_neg above, List.lookup_append, List.lookup_cons]
    congr 1
    by_cases here : way = place
    · rw [here, beq_self_eq_true, if_pos rfl]
    · have different : (Place.ofPath way == Place.ofPath place) = false :=
        beq_false_of_ne fun same => here (Place.ofPath_inj.mp same)
      rw [different, if_neg here, List.lookup_nil]

theorem entry?_addDirectory (tree : FileTree) (place way : Path)
    : entry? (tree.addDirectory place) way
      = (tree.entry? way).or (if way = place then some .directory else none) := by
  unfold addDirectory
  by_cases present : (tree.entry? place).isSome
  · rw [if_pos present]
    split_ifs with here
    · obtain ⟨entry, found⟩ := Option.isSome_iff_exists.mp present
      rw [here, found, Option.some_or]
    · rw [Option.or_none]
  · rw [if_neg present, entry?_append]

/-- A way leads along a path down from another one. -/
def Between (way : Path) (names : List String) (other : Path) : Prop :=
  way <+: other ∧ other <+: way ++ names

instance (way : Path) (names : List String) (other : Path) : Decidable (Between way names other) :=
  inferInstanceAs (Decidable (_ ∧ _))

theorem between_nil {way other : Path} : Between way [] other ↔ other = way := by
  rw [Between, List.append_nil]
  constructor
  · intro both
    obtain ⟨first, second⟩ := both
    exact second.eq_of_length_le first.length_le
  · intro same
    subst same
    exact ⟨List.prefix_rfl, List.prefix_rfl⟩

theorem between_cons {way other : Path} {name : String} {rest : List String}
    : Between way (name :: rest) other ↔ other = way ∨ Between (way ++ [name]) rest other := by
  have regroup : way ++ name :: rest = way ++ [name] ++ rest := by simp
  constructor
  · intro both
    obtain ⟨⟨tail, rfl⟩, within⟩ := both
    have along := (List.prefix_append_right_inj way).mp within
    cases tail with
    | nil => exact Or.inl (List.append_nil way)
    | cons head tail =>
        obtain ⟨rfl, later⟩ := List.cons_prefix_cons.mp along
        refine Or.inr ⟨⟨tail, by simp⟩, ?_⟩
        rw [← regroup]
        exact within
  · intro either
    rcases either with rfl | ⟨first, second⟩
    · exact ⟨List.prefix_rfl, List.prefix_append other _⟩
    · exact ⟨(List.prefix_append way [name]).trans first, regroup ▸ second⟩

/-- The directories on the way to a place are those above it. -/
theorem between_dropLast {way place other : Path} (some : place ≠ [])
    : Between way place.dropLast (way ++ other) ↔ other ≠ place ∧ other <+: place := by
  obtain ⟨above, last, rfl⟩ := List.eq_nil_or_concat' place |>.resolve_left some
  rw [Between, List.prefix_append_right_inj, List.dropLast_concat, List.prefix_concat_iff]
  constructor
  · intro both
    obtain ⟨-, before⟩ := both
    refine ⟨?_, Or.inr before⟩
    intro same
    subst same
    have bound := before.length_le
    rw [List.length_append, List.length_singleton] at bound
    omega
  · intro both
    obtain ⟨different, same | before⟩ := both
    · exact absurd same different
    · exact ⟨List.prefix_append way other, before⟩

/-- Directories are added where nothing was on the way. By induction on the names. -/
theorem entry?_makeFrom {names : List String} (down : ".." ∉ names) (tree : FileTree)
    (way other : Path)
    : entry? (tree.makeFrom way names) other
      = (tree.entry? other).or (if Between way names other then some .directory else none) := by
  induction names generalizing tree way with
  | nil => simp only [makeFrom, entry?_addDirectory, between_nil]
  | cons name rest ih =>
      obtain ⟨first, others⟩ := not_or.mp (mt List.mem_cons.mpr down)
      have step : follow way name = way ++ [name] := if_neg (Ne.symm first)
      rw [makeFrom, ih others, entry?_addDirectory, step, Option.or_assoc]
      congr 1
      simp only [between_cons]
      by_cases here : other = way
      · simp [here]
      · simp [here]

theorem contents_makeFrom (tree : FileTree) (way : Path) (names : List String)
    : (tree.makeFrom way names).contents = tree.contents := by
  have added (tree : FileTree) (way : Path) : (tree.addDirectory way).contents = tree.contents := by
    unfold addDirectory
    split <;> rfl
  induction names generalizing tree way with
  | nil => exact added tree way
  | cons name rest ih => rw [makeFrom, ih, added]

/-- A file is put where nothing was, with the directories on the way to it. -/
theorem entry?_putFile (down : ".." ∉ path) (missing : tree.entry? (working ++ path) = none)
    (bytes : Bytes) (way : Path)
    : entry? (tree.putFile path bytes) (working ++ way)
      = ((tree.entry? (working ++ way)).or
          (if way ≠ path ∧ way <+: path then some .directory else none)).or
          (if way = path then some (.file tree.contents.length) else none) := by
  have inside : ".." ∉ path.dropLast := fun member => down (List.mem_of_mem_dropLast member)
  have somewhere : path ≠ [] := by
    intro same
    subst same
    cases missing
  have added := entry?_append (tree.makeFrom working path.dropLast) (working ++ path)
    (.file tree.contents.length) (working ++ way)
  simp only [entry?_makeFrom inside, between_dropLast somewhere, List.append_cancel_left_eq] at added
  rw [putFile, resolve_of_down down, missing, ← added]
  simp only [makeDirectory, contents_makeFrom]
  rfl

theorem contents_putFile (down : ".." ∉ path) (missing : tree.entry? (working ++ path) = none)
    (bytes : Bytes)
    : (tree.putFile path bytes).contents = tree.contents ++ [bytes] := by
  rw [putFile, resolve_of_down down, missing]
  simp only [makeDirectory]
  rw [contents_makeFrom]

/-- A file is put where it was before. -/
theorem putFile_of_present (down : ".." ∉ path)
    (found : tree.entry? (working ++ path) = some (.file number)) (bytes : Bytes)
    : tree.putFile path bytes = tree.setContent number bytes := by
  rw [putFile, resolve_of_down down, found]

end CharLcd.FileTree

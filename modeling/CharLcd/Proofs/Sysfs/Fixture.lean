import CharLcd.Proofs.Os.Trees
import CharLcd.Proofs.Sysfs.Faultless
import CharLcd.Proofs.Sysfs.Holding
import CharLcd.Session.OnMachine

/-! The files of a freshly started machine.

They are put into the tree one after the other. What is in the tree then can be told from the list of
those that were put, and so can the number of each.
-/

namespace CharLcd.Sysfs

open FileTree Machine

variable {directory : Path} {placed : List ControlFile} {tree : FileTree} {file : ControlFile}

-----------------------------------------------------------------------------------------
-- Names of control files
-----------------------------------------------------------------------------------------

namespace ControlFile

theorem toList_lineDirectory (line : UInt32)
    : (lineDirectory line).toList = ['g', 'p', 'i', 'o'] ++ Nat.toDigits 10 line.toNat := by
  simp [lineDirectory, toString]

theorem lineDirectory_inj {line other : UInt32} (same : lineDirectory line = lineDirectory other)
    : line = other := by
  have equal := congrArg String.toList same
  rw [toList_lineDirectory, toList_lineDirectory] at equal
  exact digits_inj (List.append_cancel_left equal)

/-- The directory of a line has no name that starts with another letter. -/
theorem lineDirectory_ne {line : UInt32} {name : String} (other : name.toList.head? ≠ some 'g')
    : lineDirectory line ≠ name := by
  intro same
  subst same
  apply other
  rw [toList_lineDirectory]
  rfl

/-- All names on the path of a control file lead down. -/
theorem proper_of_mem_path {name : String} (member : name ∈ file.path) : Proper name := by
  have named (line : UInt32) : Proper (lineDirectory line) := by
    refine ⟨?_, lineDirectory_ne (by decide)⟩
    have full : lineDirectory line ≠ "" := lineDirectory_ne (by decide)
    have elsewhere : lineDirectory line ≠ "." := lineDirectory_ne (by decide)
    simp [staysInPlace, full, elsewhere]
  cases file with
  | exportFile | unexportFile =>
      cases List.mem_singleton.mp member
      exact ⟨by decide, by decide⟩
  | direction line | value line =>
      rcases List.mem_cons.mp member with rfl | last
      · exact named line
      · cases List.mem_singleton.mp last
        exact ⟨by decide, by decide⟩

/-- No control file is in the place of another one or below it. -/
theorem eq_of_prefix {other : ControlFile} (before : file.path <+: other.path) : file = other := by
  have exports (line : UInt32) : lineDirectory line ≠ "export" := lineDirectory_ne (by decide)
  have unexports (line : UInt32) : lineDirectory line ≠ "unexport" := lineDirectory_ne (by decide)
  cases file with
  | exportFile | unexportFile =>
      cases other <;> simp_all [path, List.cons_prefix_cons, eq_comm]
  | direction line | value line =>
      cases other with
      | exportFile | unexportFile => simp_all [path, List.cons_prefix_cons]
      | direction other | value other =>
          obtain ⟨same, rest⟩ := List.cons_prefix_cons.mp before
          cases lineDirectory_inj same
          simp_all [List.cons_prefix_cons]

theorem path_ne_nil (file : ControlFile) : file.path ≠ [] := by
  cases file <;> exact List.cons_ne_nil _ _

end ControlFile

-----------------------------------------------------------------------------------------
-- Files put one after the other
-----------------------------------------------------------------------------------------

/-- What is on a control file before any line is asked for. -/
def untouched : ControlFile → String
  | .exportFile | .unexportFile => ""
  | .direction _ => "in"
  | .value _ => "0"

/-- These control files were put into a system, in this order, and nothing else was. -/
structure Laid (directory : Path) (placed : List ControlFile) (tree : FileTree) : Prop where
  entries : ∀ way, tree.entry? (working ++ way)
    = ((placed.findIdx? fun file => directory ++ file.path = way).map fun position =>
          Entry.file (system.contents.length + position)).or
        (if way = [] ∨ ∃ file ∈ placed, way <+: directory ++ file.path then some .directory
          else none)
  contents : tree.contents
    = system.contents ++ placed.map fun file => Text.encode (untouched file)

/-- Nothing is put into a system of its own accord. -/
theorem laid_system (directory : Path) : Laid directory [] system where
  entries way := by
    cases way with
    | nil => rfl
    | cons name rest =>
        have elsewhere : ∀ entry ∈ system.entries, ¬working <+: entry.1.names := by decide
        have above : ¬(working ++ name :: rest).isPrefixOf working := by
          rw [List.isPrefixOf_iff_prefix]
          intro before
          have bound := before.length_le
          simp only [List.length_append, List.length_cons] at bound
          omega
        have missing : List.lookup (Place.ofPath (working ++ name :: rest)) system.entries = none := by
          rw [List.lookup_eq_none_iff]
          intro entry member
          apply bne_iff_ne.mpr
          intro same
          apply elsewhere entry member
          rw [← same]
          exact List.prefix_append _ _
        unfold entry?
        rw [if_neg above, missing]
        simp
  contents := (List.append_nil _).symm

/-- Where a control file is put there was none before. -/
theorem Laid.missing (laid : Laid directory placed tree) (new : file ∉ placed)
    : tree.entry? (working ++ (directory ++ file.path)) = none := by
  have alone (other : ControlFile) (member : other ∈ placed)
      : ¬file.path <+: other.path := by
    intro before
    exact new (ControlFile.eq_of_prefix before ▸ member)
  have unnumbered
      : placed.findIdx? (fun other => directory ++ other.path = directory ++ file.path) = none := by
    rw [List.findIdx?_eq_none_iff]
    intro other member
    simpa using fun same : other.path = file.path => alone other member (same ▸ List.prefix_rfl)
  rw [laid.entries, unnumbered]
  simp only [Option.map_none, Option.none_or]
  apply if_neg
  intro either
  rcases either with empty | ⟨other, member, before⟩
  · exact file.path_ne_nil (List.append_eq_nil_iff.mp empty).2
  · exact alone other member ((List.prefix_append_right_inj directory).mp before)

/-- All names on the way to a control file lead down. -/
theorem proper_of_mem_append {name : String} (proper : ∀ name ∈ directory, Proper name)
    (member : name ∈ directory ++ file.path)
    : Proper name := by
  rcases List.mem_append.mp member with above | below
  · exact proper name above
  · exact ControlFile.proper_of_mem_path below

/-- A control file is put where none was. -/
theorem Laid.putFile_new (laid : Laid directory placed tree) (proper : ∀ name ∈ directory, Proper name)
    (new : file ∉ placed)
    : Laid directory (placed ++ [file])
        (tree.putFile (directory ++ file.path) (Text.encode (untouched file))) := by
  have down : ".." ∉ directory ++ file.path := fun member =>
    (proper_of_mem_append proper member).2 rfl
  have missing := laid.missing new
  refine ⟨?_, ?_⟩
  · intro way
    rw [entry?_putFile down missing, List.findIdx?_append, List.findIdx?_singleton]
    by_cases here : way = directory ++ file.path
    · subst here
      have empty := laid.entries (directory ++ file.path)
      rw [missing, eq_comm, Option.or_eq_none_iff, Option.map_eq_none_iff] at empty
      rw [missing, empty.1]
      simp [laid.contents]
    · rw [laid.entries]
      cases placed.findIdx? fun other => directory ++ other.path = way with
      | some position => simp
      | none =>
          have added
              : (∃ other ∈ placed ++ [file], way <+: directory ++ other.path)
                ↔ (∃ other ∈ placed, way <+: directory ++ other.path)
                  ∨ way <+: directory ++ file.path := by
            simp only [List.mem_append, List.mem_singleton, or_and_right, exists_or,
              exists_eq_left]
          simp only [added, ← or_assoc]
          by_cases before : way = [] ∨ ∃ other ∈ placed, way <+: directory ++ other.path
          · simp [before, here, Ne.symm here]
          · simp [before, here, Ne.symm here]
  · rw [contents_putFile down missing, laid.contents, List.map_append, List.append_assoc]
    rfl

/-- The number of a control file tells its position among those that were put. -/
theorem Laid.position (laid : Laid directory placed tree) (member : file ∈ placed)
    : ∃ position,
        placed[position]? = some file
        ∧ tree.entry? (working ++ (directory ++ file.path))
          = some (.file (system.contents.length + position)) := by
  have entry := laid.entries (directory ++ file.path)
  cases position : placed.findIdx? fun other => directory ++ other.path = directory ++ file.path with
  | none =>
      rw [List.findIdx?_eq_none_iff] at position
      exact absurd rfl (of_decide_eq_false (position file member))
  | some position' =>
      rw [position] at entry
      obtain ⟨bound, same, _⟩ := List.findIdx?_eq_some_iff_getElem.mp position
      have path : placed[position'].path = file.path :=
        List.append_cancel_left (of_decide_eq_true same)
      have here : placed[position'] = file := ControlFile.eq_of_prefix (path ▸ List.prefix_rfl)
      exact ⟨position', List.getElem?_eq_some_iff.mpr ⟨bound, here⟩, entry⟩

/-- The entry and the content of a control file that was put. -/
theorem Laid.found (laid : Laid directory placed tree) (member : file ∈ placed)
    : ∃ number,
        tree.entry? (working ++ (directory ++ file.path)) = some (.file number)
        ∧ tree.contents[number]? = some (Text.encode (untouched file)) := by
  obtain ⟨position, here, entry⟩ := laid.position member
  refine ⟨_, entry, ?_⟩
  rw [laid.contents, List.getElem?_append_right (Nat.le_add_right _ _), Nat.add_sub_cancel_left,
    List.getElem?_map, here]
  rfl

/-- A control file that is put again stays as it is. -/
theorem Laid.putFile_again (laid : Laid directory placed tree)
    (proper : ∀ name ∈ directory, Proper name) (member : file ∈ placed)
    : tree.putFile (directory ++ file.path) (Text.encode (untouched file)) = tree := by
  have down : ".." ∉ directory ++ file.path := fun member =>
    (proper_of_mem_append proper member).2 rfl
  obtain ⟨number, found, present⟩ := laid.found member
  rw [putFile_of_present down found, setContent_of_present present]

/-- The control files that were put are told apart by their numbers. -/
theorem Laid.apart {other : ControlFile} {number : Nat} (laid : Laid directory placed tree)
    (member : file ∈ placed) (also : other ∈ placed)
    (found : tree.entry? (working ++ (directory ++ file.path)) = some (.file number))
    (too : tree.entry? (working ++ (directory ++ other.path)) = some (.file number))
    : file = other := by
  obtain ⟨position, here, entry⟩ := laid.position member
  obtain ⟨another, there, second⟩ := laid.position also
  rw [found, Option.some.injEq, Entry.file.injEq] at entry
  rw [too, Option.some.injEq, Entry.file.injEq] at second
  have same : position = another := Nat.add_left_cancel (entry.symm.trans second)
  rw [same, there] at here
  exact (Option.some.inj here).symm

/-- Putting control files one after the other leaves those that were asked for. By induction on these.
-/
theorem Laid.putFiles (laid : Laid directory placed tree)
    (proper : ∀ name ∈ directory, Proper name) (files : List ControlFile)
    : ∃ all, (∀ file, file ∈ all ↔ file ∈ placed ∨ file ∈ files)
        ∧ Laid directory all
          (files.foldl
            (fun tree file => tree.putFile (directory ++ file.path) (Text.encode (untouched file)))
            tree) := by
  induction files generalizing placed tree with
  | nil => exact ⟨placed, fun file => by simp, laid⟩
  | cons first rest ih =>
      by_cases again : first ∈ placed
      · obtain ⟨all, members, kept⟩ := ih laid
        refine ⟨all, ?_, ?_⟩
        · intro file
          rw [members, List.mem_cons]
          constructor
          · intro either
            rcases either with before | later
            · exact Or.inl before
            · exact Or.inr (Or.inr later)
          · intro either
            rcases either with before | rfl | later
            · exact Or.inl before
            · exact Or.inl again
            · exact Or.inr later
        · rw [List.foldl_cons, laid.putFile_again proper again]
          exact kept
      · obtain ⟨all, members, kept⟩ := ih (laid.putFile_new proper again)
        refine ⟨all, ?_, kept⟩
        intro file
        rw [members, List.mem_append, List.mem_singleton, List.mem_cons, or_assoc]

-----------------------------------------------------------------------------------------
-- The machine
-----------------------------------------------------------------------------------------

/-- All control files of some lines. -/
def controlFiles (lines : List UInt32) : List ControlFile :=
  .exportFile :: .unexportFile :: lines.flatMap fun line => [.direction line, .value line]

theorem mem_controlFiles {lines : List UInt32} : file ∈ controlFiles lines ↔ Covers lines file := by
  cases file <;> simp [controlFiles, Covers]

theorem fixture_eq_foldl (directory : Path) (lines : List UInt32)
    : fixture directory lines
      = (controlFiles lines).foldl
          (fun tree file => tree.putFile (directory ++ file.path) (Text.encode (untouched file)))
          system := by
  simp only [fixture, controlFiles, List.foldl_cons, List.foldl_flatMap, List.foldl_nil, untouched]

/-- A search for a control file that was put comes to it. -/
theorem Laid.findFile (laid : Laid directory placed tree) (proper : ∀ name ∈ directory, Proper name)
    (member : file ∈ placed) {number : Nat}
    (found : tree.entry? (working ++ (directory ++ file.path)) = some (.file number))
    : tree.findFile (directory ++ file.path) = .ok number := by
  have somewhere : directory ++ file.path ≠ [] := fun empty =>
    file.path_ne_nil (List.append_eq_nil_iff.mp empty).2
  have inner (part : Path) (before : part <+: directory ++ file.path) (_ : part ≠ [])
      (above : part ≠ directory ++ file.path)
      : tree.entry? (working ++ part) = some .directory := by
    have unnumbered : placed.findIdx? (fun other => directory ++ other.path = part) = none := by
      rw [List.findIdx?_eq_none_iff]
      intro other _
      apply decide_eq_false
      intro same
      subst same
      apply above
      rw [ControlFile.eq_of_prefix ((List.prefix_append_right_inj directory).mp before)]
    rw [laid.entries, unnumbered, if_pos (Or.inr ⟨file, member, before⟩)]
    rfl
  have led := findFrom_of_entries (fun _ => proper_of_mem_append proper) somewhere inner found
  rw [FileTree.findFile, find, led]
  rfl

/-- A freshly started machine has all control files of its lines, if these can be named. -/
theorem holds_prepare {base : String} {lines : List UInt32} (nameable : ¬Unnameable base)
    (down : ".." ∉ names base)
    (short : ∀ file, Covers lines file → (file.fullPath base).utf8ByteSize < pathLimit)
    : Holds lines untouched (prepare base true lines [] []) := by
  have proper : ∀ name ∈ names base, Proper name := by
    intro name member
    have moves := (List.mem_filter.mp member).2
    exact ⟨by simpa using moves, fun same => down (same ▸ member)⟩
  obtain ⟨all, members, laid⟩ := (laid_system (names base)).putFiles proper (controlFiles lines)
  rw [← fixture_eq_foldl] at laid
  have placed {file : ControlFile} (covers : Covers lines file) : file ∈ all :=
    (members file).mpr (Or.inr (mem_controlFiles.mpr covers))
  have located {file : ControlFile} (covers : Covers lines file)
      : (prepare base true lines [] []).locate file
        = (fixture (names base) lines).findFile (names base ++ file.path) :=
    if_neg (Nat.not_le_of_lt (short file covers))
  refine ⟨nameable, rfl, ?_, ?_⟩
  · intro file covers
    obtain ⟨number, found, present⟩ := laid.found (placed covers)
    exact ⟨number, (located covers).trans (laid.findFile proper (placed covers) found), present⟩
  · intro file other number covers also here there
    obtain ⟨first, found, _⟩ := laid.found (placed covers)
    obtain ⟨second, too, _⟩ := laid.found (placed also)
    rw [located covers, laid.findFile proper (placed covers) found, Except.ok.injEq] at here
    rw [located also, laid.findFile proper (placed also) too, Except.ok.injEq] at there
    rw [here] at found
    rw [there] at too
    exact laid.apart (placed covers) (placed also) found too

end CharLcd.Sysfs

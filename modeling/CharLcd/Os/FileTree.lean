import CharLcd.Os.Errno
import CharLcd.Text.Legible

/-! The files and directories of a system.

A path names an entry of the tree; an entry is a directory or a file. Files are told apart from
their names, as a file that was opened can still be written after its name is gone. So the tree
holds the names, with the number of a file for each, and the contents by number.

The place of an entry is its path from the top of the system. Other paths lead from the working
directory, unless they are said to lead from the top.
-/

namespace CharLcd

/-- A path, as the names on the way down. -/
abbrev Path := List String

/-- A path together with its length, by which most places are told apart at once. -/
structure Place where
  depth : Nat
  names : Path
deriving DecidableEq, Repr

/-- The place at the end of a path. -/
def Place.ofPath (path : Path) : Place where
  depth := path.length
  names := path

/-- Different paths end at different places. -/
theorem Place.ofPath_inj {first second : Path} : ofPath first = ofPath second ↔ first = second :=
  ⟨congrArg Place.names, congrArg ofPath⟩

/-- What a path can name. -/
inductive Entry where
  | directory
  | file (number : Nat)
deriving DecidableEq, Repr

/-- What is found where a path leads to. -/
inductive Found where
  | nothing
  | directory
  | content (bytes : Bytes)
deriving DecidableEq, Repr

/-- The files and directories of a system. -/
structure FileTree where
  /-- The entry at every place where there is one. The top has none. -/
  entries : List (Place × Entry)
  /-- The content of every file, by number. -/
  contents : List Bytes
deriving DecidableEq, Repr

namespace FileTree

/-- The working directory. It is a temporary one, and nobody can tell its name. -/
def working : Path :=
  ["tmp", ""]

/-- The directories that every system has. -/
def standardDirectories : List Path :=
  [["bin"], ["boot"], ["dev"], ["etc"], ["home"], ["lib"], ["media"], ["mnt"], ["opt"], ["proc"],
    ["root"], ["run"], ["sbin"], ["srv"], ["sys"], ["tmp"], ["usr"], ["var"], ["usr", "bin"],
    ["usr", "lib"], ["usr", "local"], ["usr", "sbin"], ["usr", "share"], ["var", "cache"],
    ["var", "lib"], ["var", "log"], ["var", "spool"], ["var", "tmp"]]

/-- The files that every system has: one that is always empty, one of zeros without an end, and the
list of users. Of a file that goes on, the beginning is there.
-/
def standardFiles : List (Path × String) :=
  [(["dev", "null"], ""), (["dev", "zero"], "\x00"), (["etc", "passwd"], "root:x:0:0:")]

/-- A system before anything is put into its working directory. -/
def system : FileTree where
  entries :=
    standardDirectories.map (fun path => (.ofPath path, .directory))
      ++ standardFiles.zipIdx.map fun (file, number) => (.ofPath file.1, .file number)
  contents := standardFiles.map fun file => Text.encode file.2

/-- The entry at a place given by its path from the top, if there is one. The working directory and
those above it are always there.
-/
def entry? (tree : FileTree) (path : Path) : Option Entry :=
  if path.isPrefixOf working then some .directory
  else List.lookup (Place.ofPath path) tree.entries

/-- The longest name that a directory can hold, in bytes. -/
def nameLimit : Nat :=
  255

/-- The bound on the length of a path in text form, in bytes. -/
def pathLimit : Nat :=
  4096

/-- Whether a name on a path leads to no other directory. -/
def staysInPlace (name : String) : Bool :=
  name = "" || name = "."

/-- The failure to find a name that is not there. A name that no directory can hold is told apart.
-/
def missing (name : String) : Errno :=
  if nameLimit < name.utf8ByteSize then .enametoolong else .enoent

/-- Follows a name from the end of a way, up or down. The top is above itself. -/
def follow (way : Path) (name : String) : Path :=
  if name = ".." then way.dropLast else way ++ [name]

/-- Follows names from a place. A name on the way that is missing or belongs to a file ends the
search with a failure.
-/
def findFrom (tree : FileTree) (way : Path) : List String → Except Errno Entry
  | [] => .ok .directory
  | name :: rest =>
      if staysInPlace name then findFrom tree way rest
      else
        match tree.entry? (follow way name) with
        | none => .error (missing name)
        | some .directory => findFrom tree (follow way name) rest
        | some (.file number) => if rest.isEmpty then .ok (.file number) else .error .enotdir

/-- The entry found by following a path from the working directory. -/
def find (tree : FileTree) (path : Path) : Except Errno Entry :=
  tree.findFrom working path

/-- The number of the file that a path leads to. A directory is refused. -/
def findFile (tree : FileTree) (path : Path) : Except Errno Nat := do
  match ← tree.find path with
  | .directory => throw .eisdir
  | .file number => return number

/-- The content of the file with the given number. -/
def content (tree : FileTree) (number : Nat) : Bytes :=
  tree.contents.getD number []

/-- What a search has found. A search that failed, for whatever reason, has found nothing. -/
def found (tree : FileTree) : Except Errno Entry → Found
  | .error _ => .nothing
  | .ok .directory => .directory
  | .ok (.file number) => .content (tree.content number)

/-- Gives the file with the given number another content. -/
def setContent (tree : FileTree) (number : Nat) (bytes : Bytes) : FileTree :=
  { tree with contents := tree.contents.set number bytes }

/-- Content with bytes written over it from an offset on. A gap before the offset holds zeros. -/
def overwrite (old : Bytes) (offset : Nat) (bytes : Bytes) : Bytes :=
  old.take offset ++ List.replicate (offset - old.length) 0 ++ bytes
    ++ old.drop (offset + bytes.length)

/-- Adds a directory at the end of a way, unless something is there. -/
def addDirectory (tree : FileTree) (way : Path) : FileTree :=
  if (tree.entry? way).isSome then tree
  else { tree with entries := tree.entries ++ [(.ofPath way, .directory)] }

/-- The way from the top to the place where a path leads. -/
def resolve (path : Path) : Path :=
  path.foldl follow working

/-- Following names that all lead down puts them behind the way. -/
theorem foldl_follow {path : Path} (down : ".." ∉ path) (way : Path)
    : path.foldl follow way = way ++ path := by
  induction path generalizing way with
  | nil => simp
  | cons name rest ih =>
      obtain ⟨first, others⟩ := not_or.1 (mt List.mem_cons.2 down)
      simp [follow, Ne.symm first, ih others]

/-- A path whose names all lead down ends that far below the working directory. -/
theorem resolve_of_down {path : Path} (down : ".." ∉ path) : resolve path = working ++ path :=
  foldl_follow down working

/-- Adds the directory at the end of a way, and those that names lead to from there. -/
def makeFrom (tree : FileTree) (way : Path) : List String → FileTree
  | [] => tree.addDirectory way
  | name :: rest => makeFrom (tree.addDirectory way) (follow way name) rest

/-- Adds a directory, and those on the way to it. -/
def makeDirectory (tree : FileTree) (path : Path) : FileTree :=
  tree.makeFrom working path

/-- Adds a file, and the directories on the way to it. A file that is there already gets the new
content and stays the same file.
-/
def putFile (tree : FileTree) (path : Path) (bytes : Bytes) : FileTree :=
  match tree.entry? (resolve path) with
  | some (.file number) => tree.setContent number bytes
  | some .directory => tree
  | none =>
      let tree := tree.makeDirectory path.dropLast
      { tree with
        entries := tree.entries ++ [(.ofPath (resolve path), .file tree.contents.length)]
        contents := tree.contents ++ [bytes] }

/-- The rest of a path behind a directory, if it leads there or below. -/
def within? : Path → Path → Option Path
  | [], rest => some rest
  | _ :: _, [] => none
  | name :: directory, head :: rest => if name = head then within? directory rest else none

/-- Removes what a path leads to, with everything below it. The files themselves stay for whoever
has opened them.
-/
def remove (tree : FileTree) (path : Path) : FileTree :=
  match tree.find path with
  | .error _ => tree
  | .ok _ =>
      let place := resolve path
      { tree with entries := tree.entries.filter fun entry => (within? place entry.1.names).isNone }

/-- Puts a file with the given content, or a directory if there is no content. -/
def put (tree : FileTree) (path : Path) (content : Option Bytes) : FileTree :=
  match content with
  | some bytes => tree.putFile path bytes
  | none => tree.makeDirectory path

/-- A system with the given files and directories. -/
def ofList (files : List (Path × Option Bytes)) : FileTree :=
  files.foldl (fun tree file => tree.put file.1 file.2) system

/-- What stands between the slashes of a path in text form. -/
def parts (path : String) : List String :=
  (path.toList.splitOn '/').map String.ofList

/-- The names of a path in text form. Names that stay in the same directory are left out. -/
def names (path : String) : Path :=
  (parts path).filter fun name => !staysInPlace name

/-- A path in text form. -/
def pathText (path : Path) : String :=
  "/".intercalate path

/-- Every entry below a directory by its name there: a file with its content, a directory with a
slash behind its name and without content.
-/
def listing (tree : FileTree) (directory : Path) : List (String × Option Bytes) :=
  let place := resolve directory
  tree.entries.filterMap fun entry => do
    let rest ← within? place entry.1.names
    if rest.isEmpty then none
    else
      match entry.2 with
      | .directory => return (pathText rest ++ "/", none)
      | .file number => return (pathText rest, some (tree.content number))

/-- The files below a directory with their content as a text, by their names there. -/
def files (tree : FileTree) (directory : Path) : List (String × String) :=
  (tree.listing directory).filterMap fun entry =>
    entry.2.map fun content => (entry.1, Text.legible content)

/-- What a path in text form leads to. With a slash in front it leads from the top. An empty path
and one that is too long lead nowhere.
-/
def look (tree : FileTree) (path : String) : Found :=
  if path = "" ∨ pathLimit ≤ path.utf8ByteSize then .nothing
  else tree.found (tree.findFrom (if path.startsWith "/" then [] else working) (parts path))

end FileTree

/-- How an entry changed between two listings. -/
inductive Change where
  /-- A file has new content, shown as a text. -/
  | written (content : String)
  | made
  | gone
deriving DecidableEq, Repr

/-- The entries that differ between two listings of a tree. Content that differs is a change, also
if it is shown as the same text.
-/
def changes (before after : List (String × Option Bytes)) : List (String × Change) :=
  let changed := after.filterMap fun entry =>
    if List.lookup entry.1 before = some entry.2 then none
    else
      match entry.2 with
      | some content => some (entry.1, Change.written (Text.legible content))
      | none => some (entry.1, Change.made)
  let gone := before.filterMap fun entry =>
    if (List.lookup entry.1 after).isSome then none else some (entry.1, Change.gone)
  changed ++ gone

end CharLcd

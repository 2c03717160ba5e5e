import CharLcd.Os.FileTree

/-! The files through which GPIO lines are controlled. -/

namespace CharLcd.Sysfs

/-- A file below the directory of all GPIO lines. -/
inductive ControlFile where
  /-- Takes the number of a line to be handed out. -/
  | exportFile
  /-- Takes the number of a line to be given back. -/
  | unexportFile
  /-- Takes the direction of a line, for an output together with its first level. -/
  | direction (line : UInt32)
  /-- Takes the level of a line. -/
  | value (line : UInt32)
deriving DecidableEq, Repr

namespace ControlFile

/-- The directory of a line. -/
def lineDirectory (line : UInt32) : String :=
  s!"gpio{line}"

/-- Where the file is, below the directory of all lines. -/
def path : ControlFile → Path
  | exportFile => ["export"]
  | unexportFile => ["unexport"]
  | direction line => [lineDirectory line, "direction"]
  | value line => [lineDirectory line, "value"]

/-- The path of the file in text form. -/
def name (file : ControlFile) : String :=
  FileTree.pathText file.path

end ControlFile

/-- A name below a directory. Nothing comes between them if the directory is empty or ends with a
slash.
-/
def join (directory name : String) : String :=
  if directory = "" ∨ directory.endsWith "/" then directory ++ name
  else directory ++ "/" ++ name

/-- The full path of a file, for a directory of all lines. -/
def ControlFile.fullPath (file : ControlFile) (base : String) : String :=
  file.path.foldl join base

end CharLcd.Sysfs

import CharLcd.Demo.Program

/-! The demonstration program on a computer with GPIO lines.

Everything it decides is decided by the library; here it is joined to files, clock and error output.
-/

namespace CharLcd.Live

/-- Programs on a live system, with the account of the lines that are handed out. -/
abbrev Program := StateT (List UInt32) IO

/-- The number that the system gave a failure. -/
def code? : IO.Error → Option UInt32
  | .alreadyExists _ code _ | .interrupted _ code _ | .noFileOrDirectory _ code _
  | .invalidArgument _ code _ | .permissionDenied _ code _ | .resourceExhausted _ code _
  | .inappropriateType _ code _ | .noSuchThing _ code _ => some code
  | .otherError code _ | .resourceBusy code _ | .resourceVanished code _
  | .unsupportedOperation code _ | .hardwareFault code _ | .unsatisfiedConstraints code _
  | .illegalOperation code _ | .protocolError code _ | .timeExpired code _ => some code
  | .unexpectedEof | .userError _ => none

/-- The failure as one of a file call. -/
def errno (error : IO.Error) : Errno :=
  ((code? error).bind fun code => Errno.ofCode? code.toNat).getD .eio

/-- Makes a file call. -/
def attempt {α : Type} (action : IO α) : Program (Except Errno α) := do
  match ← (action.toBaseIO : BaseIO _) with
  | .ok value => return .ok value
  | .error error => return .error (errno error)

/-- Opens a file for writing. It must be there already: a probe for reading tells, whether or not
the file can be read.
-/
def openExisting (path : String) (truncate : Bool) : IO IO.FS.Handle := do
  match ← (IO.FS.Handle.mk path .read).toBaseIO with
  | .ok _ => pure ()
  | .error error =>
      if errno error = .enoent ∨ errno error = .enotdir then
        throw error
  IO.FS.Handle.mk path (if truncate then .write else .readWrite)

instance : Journal Program where
  note entry := do
    if entry.passes (some .error) then
      (← IO.getStderr).putStrLn entry.line

instance : Clock Program where
  wait _ time := IO.sleep ((time + 999) / 1000)

instance : Sysfs.Host Program IO.FS.Handle where
  base := return Sysfs.Machine.systemBase
  used := get
  setUsed := set
  openFile file truncate :=
    attempt (openExisting (file.fullPath Sysfs.Machine.systemBase) truncate)
  writeFile handle text := attempt (do handle.putStr text; handle.flush)
  rewind handle := attempt handle.rewind
  closeFile _ := return

/-- The variables of this process. -/
def environment : IO Environment := do
  let bytes ← IO.FS.readBinFile "/proc/self/environ"
  let entries := bytes.data.toList.splitOnP (· = 0)
  return ⟨entries.filter (!·.isEmpty)⟩

/-- What a path leads to. -/
def look (path : String) : IO Found := do
  try
    let content ← IO.FS.readBinFile path
    return .content content.data.toList
  catch error =>
    return if errno error = .eisdir then .directory else .nothing

/-- Runs the program and gives its exit code. -/
def run (arguments : List String) : IO UInt32 := do
  match Demo.loadEnvironment (← environment) (← look Demo.envFile) with
  | .impossible => return Demo.abortCode.toUInt32
  | .loaded env =>
      match Settings.ofFound Json.reader (← look (Settings.path env)) with
      | .error refusal =>
          (← IO.getStderr).putStrLn (Demo.refusalText refusal)
          return 1
      | .ok settings =>
          let shown :=
            Demo.present (settings.getD {}) env (Demo.textOf arguments)
          match ← (shown : Program _).run' [] with
          | .ok () => return 0
          | .error error =>
              (← IO.getStderr).putStrLn (Demo.errorText error)
              return 1

end CharLcd.Live

/-- Shows the arguments on the display. -/
def main (arguments : List String) : IO UInt32 :=
  CharLcd.Live.run arguments

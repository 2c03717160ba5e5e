import CharLcd.Config.Settings
import CharLcd.Demo.EnvFile
import CharLcd.Display.Screen
import CharLcd.Sysfs.Machine

/-! The demonstration program: it shows a text on a display, blinks the backlight and ends.

Its settings come from a file and from the environment. Whatever fails, the connection it set up is
closed before it ends.
-/

namespace CharLcd

open Json (Refusal)

/-- The path of the settings file. -/
def Settings.path (env : Environment) : String :=
  (env.text? "CONFIG_FILE").getD "config.json"

/-- The settings in what is found where their path leads to, as a reader gives them. Without anything
there none are read.
-/
def Settings.ofFound (reader : Json.Reader) : Found → Except Refusal (Option Settings)
  | .nothing => .ok none
  | .directory => .error .unreadable
  | .content document => (reader.record Settings.schema document).map some

/-- Reads the settings with a reader from the file that their path leads to. -/
def Settings.loadBy (reader : Json.Reader) (env : Environment) (tree : FileTree)
    : Except Refusal (Option Settings) :=
  Settings.ofFound reader (tree.look (Settings.path env))

/-- Reads the settings with the reader of this library. -/
def Settings.load : Environment → FileTree → Except Refusal (Option Settings) :=
  Settings.loadBy Json.reader

namespace Demo

/-- The version of the program, as it is shown. -/
def version : String :=
  "v0.1.0"

/-- The text shown if none is given. -/
def greeting : String :=
  "Hello, HD44780!"

/-- The text that the arguments of the program stand for. -/
def textOf (arguments : List String) : String :=
  if arguments.isEmpty then greeting else " ".intercalate arguments

/-- The levels that the backlight is switched to in turn. -/
def blinking : List Bool :=
  [false, true, false, true]

/-- Microseconds between two switches of the backlight. -/
def blinkTime : UInt32 :=
  500000

/-- Microseconds for which the text stays. -/
def showTime : UInt32 :=
  2000000

section Script

variable {m : Type → Type} [Monad m] [Journal m] [Clock m] [DisplayLink m]

/-- Switches the backlight to one level after the other. -/
def blink : List Bool → ExceptT GpioError m Unit
  | [] => pure ()
  | on :: rest => do
      ExceptT.mk (DisplayLink.setBacklight on)
      ExceptT.lift (Clock.wait .recorded blinkTime)
      blink rest

/-- What the program does on a display. -/
def script (text : String) : ExceptT GpioError m Unit := do
  Screen.prepare
  Screen.print text
  Screen.setCursor 1 0
  Screen.print version
  if ← ExceptT.lift DisplayLink.supportsBacklight then
    blink blinking
  ExceptT.lift (Clock.wait .recorded showTime)
  ExceptT.mk DisplayLink.close

end Script

variable {m : Type → Type} {ω : Type} [Monad m] [Journal m] [Clock m] [LineDriver m ω]

instance : Clock (StateT (Connection ω) m) where
  wait timer time := StateT.lift (Clock.wait timer time)

/-- Sets up a connection, runs the script on it and gives it up. -/
def present (settings : Settings) (env : Environment) (text : String)
    : m (Except ConnectionError Unit) := do
  match ← Connection.ofSource (settings.source env) settings.options .recorded with
  | .error error => return .error error
  | .ok connection =>
      let (result, connection) ←
        ((script text).run : StateT (Connection ω) m (Except GpioError Unit)).run connection
      connection.discard
      return result.mapError .gpio

end Demo

/-- The exit code of a program that cannot go on. -/
def Demo.abortCode : Nat :=
  101

/-- How the program ended. -/
structure Demo.Outcome where
  exitCode : Nat
  /-- What was written to the error output, from the message on. -/
  message : String := ""
  /-- What was done to the GPIO files, and the waits between. -/
  actions : List String := []
  /-- The GPIO files at the end. -/
  files : List (String × String) := []
deriving DecidableEq, Repr

namespace Demo

/-- The line of a file call in the record of the program: only what changes a file counts, and the
waits.
-/
def actionOf? : Sysfs.Call → Option String
  | .wrote file text none => some s!"write {file.name} {text}"
  | .delayed time => some s!"sleep {time}"
  | _ => none

/-- The message of an error, and of the one behind it. -/
def errorText (error : ConnectionError) : String :=
  let cause :=
    match error.cause? with
    | some cause => s!"\n\nCaused by:\n    {cause.message}"
    | none => ""
  s!"Error: {error.message}{cause}"

/-- The message of a document that is refused. -/
def refusalText : Refusal → String
  | .unreadable => s!"Error: {Errno.eisdir.message}"
  | .malformed => "Error: the settings are malformed"
  | .mismatched => "Error: the settings hold a value of the wrong kind"
  | .truncated => "Error: the settings end too early"

/-- The file that adds variables to the environment. -/
def envFile : String :=
  ".env"

/-- The environment with the variables of a file that may be there. -/
def loadEnvironment (env : Environment) : Found → EnvFile.Outcome
  | .content file => EnvFile.load env file
  | .nothing | .directory => .loaded env

/-- The directory that stands for the one of all GPIO lines. -/
def gpioDirectory : Path :=
  ["gpio"]

/-- Runs the program with its settings read. -/
def runWith (settings : Settings) (env : Environment) (arguments : List String)
    (tree : FileTree)
    : Outcome :=
  let machine : Sysfs.Machine :=
    { base := Sysfs.Machine.systemBase, tree, directory := gpioDirectory }
  let (result, machine) :=
    (present settings env (textOf arguments) : StateM Sysfs.Machine _).run machine
  let outcome : Outcome :=
    { exitCode := 0
      actions := machine.calls.toList.filterMap actionOf?
      files := machine.tree.files gpioDirectory }
  match result with
  | .ok () => outcome
  | .error error => { outcome with exitCode := 1, message := errorText error }

/-- Runs the program in a directory. -/
def run (arguments : List String) (env : Environment) (tree : FileTree) : Outcome :=
  let untouched := tree.files gpioDirectory
  match loadEnvironment env (tree.look envFile) with
  | .impossible => { exitCode := abortCode, files := untouched }
  | .loaded env =>
      match Settings.load env tree with
      | .error refusal => { exitCode := 1, message := refusalText refusal, files := untouched }
      | .ok settings => runWith (settings.getD {}) env arguments tree

end Demo

end CharLcd

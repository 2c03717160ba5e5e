import CharLcd.Config.Json.Reader
import CharLcd.Config.Source
import CharLcd.Display.Options

/-! The settings of the demonstration program, and what a document is asked for to hold them. -/

namespace CharLcd

open Json

/-- What a configuration file says. -/
structure Settings where
  dualController : Bool := false
  backlight : Bool := false
  /-- The integers of every section, by key. -/
  sections : Table (Table Int64) := []
deriving DecidableEq, Repr

namespace Settings

/-- The display that the settings describe. -/
def options (settings : Settings) : DisplayOptions where
  controllers := .ofDual settings.dualController
  backlight := settings.backlight

/-- The integer stored for a key of a section. -/
def find? (settings : Settings) (area key : String) : Option Int64 :=
  (settings.sections.find? area).bind (·.find? key)

/-- A lookup in the settings first and in the environment second. -/
def source (settings : Settings) (env : Environment) : ConfigSource where
  getInt area key fallback :=
    match settings.find? area key with
    | some value => pure value
    | none => (ConfigSource.ofEnvironment env).getInt area key fallback

/-- The field that tells whether there is a second controller. -/
def controllersField : Schema.Field Settings where
  name := "dual_controller"
  shape := .flag
  store value settings := { settings with dualController := value }

/-- The field that tells whether there is a backlight. -/
def backlightField : Schema.Field Settings where
  name := "backlight"
  shape := .flag
  store value settings := { settings with backlight := value }

/-- The field of the sections. -/
def sectionsField : Schema.Field Settings where
  name := "sections"
  shape := .table (.table .integer)
  store value settings := { settings with sections := value }

/-- What a document is asked for: up to three fields, each of which has a default. -/
def schema : Schema Settings where
  fields := [controllersField, backlightField, sectionsField]
  missing := {}
  distinct := by decide

/-- The settings that a document holds, as the reader of this library gives them. -/
def ofDocument (document : Bytes) : Except Refusal Settings :=
  Json.reader.record schema document

end Settings

end CharLcd

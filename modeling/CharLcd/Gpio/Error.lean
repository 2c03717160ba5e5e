import CharLcd.Os.Errno

/-! What can go wrong with a GPIO line. -/

namespace CharLcd

/-- Why an operation on a GPIO line, or on a connection made of such lines, was refused. -/
inductive GpioError where
  | alreadyInUse
  | invalidArgument
  | exportFailed (line : UInt32) (kind : ErrorKind)
  | configureFailed (line : UInt32) (kind : ErrorKind)
  | writeFailed (line : UInt32) (kind : ErrorKind)
  | notExported (line : UInt32)
  | closed
  | io (kind : ErrorKind)
deriving DecidableEq, Repr

namespace GpioError

/-- A failed file call, when it is reported for no particular line. -/
def ofErrno (errno : Errno) : GpioError :=
  .io errno.kind

/-- The identifier of the cause in structured output. -/
def name : GpioError → String
  | alreadyInUse => "AlreadyInUse"
  | invalidArgument => "InvalidArgument"
  | exportFailed _ _ => "ExportFailed"
  | configureFailed _ _ => "ConfigureFailed"
  | writeFailed _ _ => "WriteFailed"
  | notExported _ => "NotExported"
  | closed => "Closed"
  | io _ => "Io"

/-- The line the error is about, for the causes that name one. -/
def line? : GpioError → Option UInt32
  | exportFailed line _ | configureFailed line _ | writeFailed line _ | notExported line =>
      some line
  | alreadyInUse | invalidArgument | closed | io _ => none

/-- The kind of the file failure behind the error, if there was one. -/
def kind? : GpioError → Option ErrorKind
  | exportFailed _ kind | configureFailed _ kind | writeFailed _ kind | io kind => some kind
  | alreadyInUse | invalidArgument | notExported _ | closed => none

/-- The sentence shown to a person. -/
def message : GpioError → String
  | alreadyInUse => "pin already in use"
  | invalidArgument => "invalid argument"
  | exportFailed line kind =>
      "exporting GPIO " ++ toString line ++ " failed: " ++ kind.message
  | configureFailed line kind =>
      "configuring GPIO " ++ toString line ++ " as output failed: " ++ kind.message
  | writeFailed line kind =>
      "writing GPIO " ++ toString line ++ " failed: " ++ kind.message
  | notExported line => "GPIO " ++ toString line ++ " is not exported"
  | closed => "connection is closed"
  | io kind => "IO error: " ++ kind.message

/-- The structured text of an error: its identifier, then its fields by name. -/
def describe : GpioError → String
  | exportFailed line kind =>
      "ExportFailed \x7b pin: " ++ toString line ++ ", kind: " ++ kind.name ++ " \x7d"
  | configureFailed line kind =>
      "ConfigureFailed \x7b pin: " ++ toString line ++ ", kind: " ++ kind.name ++ " \x7d"
  | writeFailed line kind =>
      "WriteFailed \x7b pin: " ++ toString line ++ ", kind: " ++ kind.name ++ " \x7d"
  | notExported line => "NotExported \x7b pin: " ++ toString line ++ " \x7d"
  | io kind => "Io(" ++ kind.name ++ ")"
  | error => error.name

end GpioError

end CharLcd

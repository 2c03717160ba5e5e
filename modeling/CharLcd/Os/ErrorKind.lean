/-! Kinds of failure the operating system reports, and the failures of single file calls.

An `ErrorKind` classifies a failure; an `Errno` is one failure as a file call answers it. Each
errno belongs to exactly one kind, and several share the kind `uncategorized`.
-/

namespace CharLcd

/-- The classes of input and output failure an error value can carry. -/
inductive ErrorKind where
  | notFound
  | permissionDenied
  | connectionRefused
  | connectionReset
  | hostUnreachable
  | networkUnreachable
  | connectionAborted
  | notConnected
  | addrInUse
  | addrNotAvailable
  | networkDown
  | brokenPipe
  | alreadyExists
  | wouldBlock
  | notADirectory
  | isADirectory
  | directoryNotEmpty
  | readOnlyFilesystem
  | staleNetworkFileHandle
  | invalidInput
  | invalidData
  | timedOut
  | writeZero
  | storageFull
  | notSeekable
  | quotaExceeded
  | fileTooLarge
  | resourceBusy
  | executableFileBusy
  | deadlock
  | tooManyLinks
  | argumentListTooLong
  | interrupted
  | unsupported
  | unexpectedEof
  | outOfMemory
  | other
  | inputOutputError
  | uncategorized
  | tooManyOpenFiles
  | invalidFilename
  | filesystemLoop
  | crossesDevices
  | inProgress
deriving DecidableEq, Repr

namespace ErrorKind

/-- Every kind once, in the order of declaration. -/
def all : List ErrorKind :=
  [notFound, permissionDenied, connectionRefused, connectionReset, hostUnreachable,
    networkUnreachable, connectionAborted, notConnected, addrInUse, addrNotAvailable,
    networkDown, brokenPipe, alreadyExists, wouldBlock, notADirectory, isADirectory,
    directoryNotEmpty, readOnlyFilesystem, staleNetworkFileHandle, invalidInput, invalidData,
    timedOut, writeZero, storageFull, notSeekable, quotaExceeded, fileTooLarge, resourceBusy,
    executableFileBusy, deadlock, tooManyLinks, argumentListTooLong, interrupted, unsupported,
    unexpectedEof, outOfMemory, other, inputOutputError, uncategorized, tooManyOpenFiles,
    invalidFilename, filesystemLoop, crossesDevices, inProgress]

/-- The identifier a kind goes by in structured output. -/
def name : ErrorKind → String
  | notFound => "NotFound"
  | permissionDenied => "PermissionDenied"
  | connectionRefused => "ConnectionRefused"
  | connectionReset => "ConnectionReset"
  | hostUnreachable => "HostUnreachable"
  | networkUnreachable => "NetworkUnreachable"
  | connectionAborted => "ConnectionAborted"
  | notConnected => "NotConnected"
  | addrInUse => "AddrInUse"
  | addrNotAvailable => "AddrNotAvailable"
  | networkDown => "NetworkDown"
  | brokenPipe => "BrokenPipe"
  | alreadyExists => "AlreadyExists"
  | wouldBlock => "WouldBlock"
  | notADirectory => "NotADirectory"
  | isADirectory => "IsADirectory"
  | directoryNotEmpty => "DirectoryNotEmpty"
  | readOnlyFilesystem => "ReadOnlyFilesystem"
  | staleNetworkFileHandle => "StaleNetworkFileHandle"
  | invalidInput => "InvalidInput"
  | invalidData => "InvalidData"
  | timedOut => "TimedOut"
  | writeZero => "WriteZero"
  | storageFull => "StorageFull"
  | notSeekable => "NotSeekable"
  | quotaExceeded => "QuotaExceeded"
  | fileTooLarge => "FileTooLarge"
  | resourceBusy => "ResourceBusy"
  | executableFileBusy => "ExecutableFileBusy"
  | deadlock => "Deadlock"
  | tooManyLinks => "TooManyLinks"
  | argumentListTooLong => "ArgumentListTooLong"
  | interrupted => "Interrupted"
  | unsupported => "Unsupported"
  | unexpectedEof => "UnexpectedEof"
  | outOfMemory => "OutOfMemory"
  | other => "Other"
  | inputOutputError => "InputOutputError"
  | uncategorized => "Uncategorized"
  | tooManyOpenFiles => "TooManyOpenFiles"
  | invalidFilename => "InvalidFilename"
  | filesystemLoop => "FilesystemLoop"
  | crossesDevices => "CrossesDevices"
  | inProgress => "InProgress"

/-- The words a kind is described with inside an error message. -/
def message : ErrorKind → String
  | notFound => "entity not found"
  | permissionDenied => "permission denied"
  | connectionRefused => "connection refused"
  | connectionReset => "connection reset"
  | hostUnreachable => "host unreachable"
  | networkUnreachable => "network unreachable"
  | connectionAborted => "connection aborted"
  | notConnected => "not connected"
  | addrInUse => "address in use"
  | addrNotAvailable => "address not available"
  | networkDown => "network down"
  | brokenPipe => "broken pipe"
  | alreadyExists => "entity already exists"
  | wouldBlock => "operation would block"
  | notADirectory => "not a directory"
  | isADirectory => "is a directory"
  | directoryNotEmpty => "directory not empty"
  | readOnlyFilesystem => "read-only filesystem or storage medium"
  | staleNetworkFileHandle => "stale network file handle"
  | invalidInput => "invalid input parameter"
  | invalidData => "invalid data"
  | timedOut => "timed out"
  | writeZero => "write zero"
  | storageFull => "no storage space"
  | notSeekable => "seek on unseekable file"
  | quotaExceeded => "quota exceeded"
  | fileTooLarge => "file too large"
  | resourceBusy => "resource busy"
  | executableFileBusy => "executable file busy"
  | deadlock => "deadlock"
  | tooManyLinks => "too many links"
  | argumentListTooLong => "argument list too long"
  | interrupted => "operation interrupted"
  | unsupported => "unsupported"
  | unexpectedEof => "unexpected end of file"
  | outOfMemory => "out of memory"
  | other => "other error"
  | inputOutputError => "input/output error"
  | uncategorized => "uncategorized error"
  | tooManyOpenFiles => "too many open files"
  | invalidFilename => "invalid filename"
  | filesystemLoop => "filesystem loop or indirection limit (e.g. symlink loop)"
  | crossesDevices => "cross-device link or rename"
  | inProgress => "in progress"

/-- The kind that goes by `text`, if any does. -/
def ofName? (text : String) : Option ErrorKind :=
  all.find? (·.name == text)

/-- The list of kinds leaves none out, by cases. -/
theorem mem_all (kind : ErrorKind) : kind ∈ all := by
  cases kind <;> decide

end ErrorKind

end CharLcd

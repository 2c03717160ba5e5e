import CharLcd.Os.ErrorKind

/-! Failures of single file calls, with the kind, the number and the words of each.

Those that file calls usually answer with are told apart. A failure of any other kind may occur as well,
except that of an interrupted call, which is tried again where it is made.
-/

namespace CharLcd

/-- A failure a file call can answer with. -/
inductive Errno where
  | eperm
  | enoent
  | eio
  | enxio
  | eagain
  | enomem
  | eacces
  | ebusy
  | eexist
  | enodev
  | enotdir
  | eisdir
  | einval
  | emfile
  | etxtbsy
  | efbig
  | enospc
  | espipe
  | erofs
  | epipe
  | enametoolong
  | etimedout
  | edquot
  /-- Another failure, of which only the kind is known. -/
  | unlisted (kind : ErrorKind) (final : kind ≠ .interrupted)
deriving DecidableEq, Repr

namespace Errno

/-- Every errno with a number once, in ascending order of these. -/
def all : List Errno :=
  [eperm, enoent, eio, enxio, eagain, enomem, eacces, ebusy, eexist, enodev, enotdir, eisdir,
    einval, emfile, etxtbsy, efbig, enospc, espipe, erofs, epipe, enametoolong, etimedout,
    edquot]

/-- The symbolic name of an errno. -/
def name : Errno → String
  | eperm => "EPERM"
  | enoent => "ENOENT"
  | eio => "EIO"
  | enxio => "ENXIO"
  | eagain => "EAGAIN"
  | enomem => "ENOMEM"
  | eacces => "EACCES"
  | ebusy => "EBUSY"
  | eexist => "EEXIST"
  | enodev => "ENODEV"
  | enotdir => "ENOTDIR"
  | eisdir => "EISDIR"
  | einval => "EINVAL"
  | emfile => "EMFILE"
  | etxtbsy => "ETXTBSY"
  | efbig => "EFBIG"
  | enospc => "ENOSPC"
  | espipe => "ESPIPE"
  | erofs => "EROFS"
  | epipe => "EPIPE"
  | enametoolong => "ENAMETOOLONG"
  | etimedout => "ETIMEDOUT"
  | edquot => "EDQUOT"
  | unlisted kind _ => kind.name

/-- The number the operating system gives an errno, if it is one of those told apart. -/
def code? : Errno → Option Nat
  | eperm => some 1
  | enoent => some 2
  | eio => some 5
  | enxio => some 6
  | eagain => some 11
  | enomem => some 12
  | eacces => some 13
  | ebusy => some 16
  | eexist => some 17
  | enodev => some 19
  | enotdir => some 20
  | eisdir => some 21
  | einval => some 22
  | emfile => some 24
  | etxtbsy => some 26
  | efbig => some 27
  | enospc => some 28
  | espipe => some 29
  | erofs => some 30
  | epipe => some 32
  | enametoolong => some 36
  | etimedout => some 110
  | edquot => some 122
  | unlisted _ _ => none

/-- What an errno means, in words. -/
def meaning : Errno → String
  | eperm => "Operation not permitted"
  | enoent => "No such file or directory"
  | eio => "Input/output error"
  | enxio => "No such device or address"
  | eagain => "Resource temporarily unavailable"
  | enomem => "Cannot allocate memory"
  | eacces => "Permission denied"
  | ebusy => "Device or resource busy"
  | eexist => "File exists"
  | enodev => "No such device"
  | enotdir => "Not a directory"
  | eisdir => "Is a directory"
  | einval => "Invalid argument"
  | emfile => "Too many open files"
  | etxtbsy => "Text file busy"
  | efbig => "File too large"
  | enospc => "No space left on device"
  | espipe => "Illegal seek"
  | erofs => "Read-only file system"
  | epipe => "Broken pipe"
  | enametoolong => "File name too long"
  | etimedout => "Connection timed out"
  | edquot => "Disk quota exceeded"
  | unlisted kind _ => kind.message

/-- The class of failure an errno belongs to. -/
def kind : Errno → ErrorKind
  | eperm | eacces => .permissionDenied
  | enoent => .notFound
  | eio => .inputOutputError
  | enxio | enodev => .uncategorized
  | eagain => .wouldBlock
  | enomem => .outOfMemory
  | ebusy => .resourceBusy
  | eexist => .alreadyExists
  | enotdir => .notADirectory
  | eisdir => .isADirectory
  | einval => .invalidInput
  | emfile => .tooManyOpenFiles
  | etxtbsy => .executableFileBusy
  | efbig => .fileTooLarge
  | enospc => .storageFull
  | espipe => .notSeekable
  | erofs => .readOnlyFilesystem
  | epipe => .brokenPipe
  | enametoolong => .invalidFilename
  | etimedout => .timedOut
  | edquot => .quotaExceeded
  | unlisted kind _ => kind

/-- The text a failed file call is reported with: its meaning, then its number if it has one. -/
def message (errno : Errno) : String :=
  match errno.code? with
  | some code => errno.meaning ++ " (os error " ++ toString code ++ ")"
  | none => errno.meaning

/-- The errno that goes by the symbolic name `text`, if any does. -/
def ofName? (text : String) : Option Errno :=
  all.find? (·.name == text)

/-- The errno with the given number, if it is one of those told apart here. -/
def ofCode? (number : Nat) : Option Errno :=
  all.find? (·.code? == some number)

/-- A number belongs to one errno only, so reading it back finds that errno. -/
theorem ofCode?_eq {errno : Errno} {number : Nat} (numbered : errno.code? = some number)
    : ofCode? number = some errno := by
  cases errno with
  | unlisted _ _ => cases numbered
  | _ =>
      obtain rfl := Option.some.inj numbered
      decide

/-- No errno stands for an interrupted call: such a call is tried again where it is made. -/
theorem kind_ne_interrupted (errno : Errno) : errno.kind ≠ .interrupted := by
  cases errno with
  | unlisted _ final => exact final
  | _ => decide

end Errno

end CharLcd

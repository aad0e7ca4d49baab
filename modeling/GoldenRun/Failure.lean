import GoldenRun.Bytes.Utf8
import GoldenRun.Duration
import GoldenRun.Errno

/-!
# Causes of failure

Failures are causes, and each kind of cause has one function that words it.

* `IoError`: the operating system, or a stream, refused an operation.
* `CommandError`: an external command gave no result. This never ends a run.
* `RunError`: the run itself cannot go on. There are two causes only: the tests directory is missing,
  or a reporter could not write.
* `Complaint`: what the program says on its error stream before it ends, and its exit code.
-/

namespace GoldenRun

/-! ## 1. Refused operations -/

/-- The classes of refusal. -/
inductive IoKind where
  | addrInUse
  | addrNotAvailable
  | alreadyExists
  | argumentListTooLong
  | brokenPipe
  | connectionAborted
  | connectionRefused
  | connectionReset
  | crossesDevices
  | deadlock
  | directoryNotEmpty
  | executableFileBusy
  | fileTooLarge
  | filesystemLoop
  | hostUnreachable
  | inProgress
  | interrupted
  | invalidData
  | invalidFilename
  | invalidInput
  | isADirectory
  | networkDown
  | networkUnreachable
  | notADirectory
  | notConnected
  | notFound
  | notSeekable
  | other
  | outOfMemory
  | permissionDenied
  | quotaExceeded
  | readOnlyFilesystem
  | resourceBusy
  | staleNetworkFileHandle
  | storageFull
  | timedOut
  | tooManyLinks
  | uncategorized
  | unexpectedEof
  | unsupported
  | wouldBlock
  | writeZero
  deriving DecidableEq, Repr

/-- The wording of a class that comes without a message of its own. -/
def IoKind.message : IoKind → String
  | .addrInUse => "address in use"
  | .addrNotAvailable => "address not available"
  | .alreadyExists => "entity already exists"
  | .argumentListTooLong => "argument list too long"
  | .brokenPipe => "broken pipe"
  | .connectionAborted => "connection aborted"
  | .connectionRefused => "connection refused"
  | .connectionReset => "connection reset"
  | .crossesDevices => "cross-device link or rename"
  | .deadlock => "deadlock"
  | .directoryNotEmpty => "directory not empty"
  | .executableFileBusy => "executable file busy"
  | .fileTooLarge => "file too large"
  | .filesystemLoop => "filesystem loop or indirection limit (e.g. symlink loop)"
  | .hostUnreachable => "host unreachable"
  | .inProgress => "in progress"
  | .interrupted => "operation interrupted"
  | .invalidData => "invalid data"
  | .invalidFilename => "invalid filename"
  | .invalidInput => "invalid input parameter"
  | .isADirectory => "is a directory"
  | .networkDown => "network down"
  | .networkUnreachable => "network unreachable"
  | .notADirectory => "not a directory"
  | .notConnected => "not connected"
  | .notFound => "entity not found"
  | .notSeekable => "seek on unseekable file"
  | .other => "other error"
  | .outOfMemory => "out of memory"
  | .permissionDenied => "permission denied"
  | .quotaExceeded => "quota exceeded"
  | .readOnlyFilesystem => "read-only filesystem or storage medium"
  | .resourceBusy => "resource busy"
  | .staleNetworkFileHandle => "stale network file handle"
  | .storageFull => "no storage space"
  | .timedOut => "timed out"
  | .tooManyLinks => "too many links"
  | .uncategorized => "uncategorized error"
  | .unexpectedEof => "unexpected end of file"
  | .unsupported => "unsupported"
  | .wouldBlock => "operation would block"
  | .writeZero => "write zero"

/-- A refused operation. -/
inductive IoError where
  /-- The operating system refused. -/
  | os (errno : Errno)
  /-- A bare class of refusal. -/
  | kind (kind : IoKind)
  /-- A class of refusal with a message of its own. -/
  | custom (kind : IoKind) (text : String)
  deriving DecidableEq, Repr

/-- The wording of a refusal; a message of its own stands alone. -/
def IoError.message : IoError → String
  | .os errno => errno.message ++ " (os error " ++ toString errno.number ++ ")"
  | .kind k => k.message
  | .custom _ text => text

/-! ## 2. Commands without a result -/

/-- Why an external command gave no result. The program is named as it is displayed. -/
inductive CommandError where
  /-- The command could not be started. -/
  | spawn (program : String) (cause : IoError)
  /-- The command was started, but its end could not be awaited. -/
  | wait (program : String) (cause : IoError)
  /-- The command was still running at the limit and was killed. -/
  | timedOut (program : String) (limit : Duration)
  deriving DecidableEq, Repr

/-- The wording of a command's failure. -/
def CommandError.message : CommandError → String
  | .spawn program cause => "failed to spawn '" ++ program ++ "': " ++ cause.message
  | .wait program cause => "failed while waiting for '" ++ program ++ "': " ++ cause.message
  | .timedOut program limit => "'" ++ program ++ "' timed out after " ++ limit.inTenths ++ "s"

/-- The refused operation behind a command's failure, if there is one. -/
def CommandError.cause? : CommandError → Option IoError
  | .spawn _ cause => some cause
  | .wait _ cause => some cause
  | .timedOut _ _ => none

/-! ## 3. Runs that cannot go on -/

/-- Why a run ended without a report. -/
inductive RunError where
  /-- The tests directory is missing, or is not a directory. -/
  | testsDirNotFound (root : Bytes)
  /-- The reporter could not write. -/
  | io (cause : IoError)
  deriving DecidableEq, Repr

/-- The wording of a run's failure. -/
def RunError.message : RunError → String
  | .testsDirNotFound root =>
    "tests directory '" ++ root.lossy ++ "' does not exist or is not a directory"
  | .io cause => "I/O error: " ++ cause.message

/-- The refused operation behind a run's failure, if there is one. -/
def RunError.cause? : RunError → Option IoError
  | .testsDirNotFound _ => none
  | .io cause => some cause

/-! ## 4. The program's last word -/

/-- A message for the user and the exit code that goes with it; an empty message is not printed. -/
structure Complaint where
  message : String
  /-- Exit code 1 stands for failure. -/
  exitCode : Int := 1
  deriving DecidableEq, Repr

end GoldenRun

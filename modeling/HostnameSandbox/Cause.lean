import HostnameSandbox.Errno

/-!
# Causes of failed input and output

A cause is an error number, a kind alone, or a text that somebody attached to a kind.  What a
caller decides by is the kind; what a reader sees is the text.
-/

namespace HostnameSandbox

/-- The kinds of failure that do not depend on the system's numbering. -/
inductive CauseKind where
  | notFound
  | permissionDenied
  | connectionRefused
  | connectionReset
  | connectionAborted
  | notConnected
  | addressInUse
  | addressNotAvailable
  | brokenPipe
  | alreadyExists
  | wouldBlock
  | invalidInput
  | invalidData
  | timedOut
  | writeZero
  | interrupted
  | unsupported
  | unexpectedEnd
  | outOfMemory
  | other
  | notDirectory
  | isDirectory
  | argumentListTooLong
  | executableBusy
  | resourceBusy
deriving DecidableEq, Repr

/-- The text of a kind that stands alone. -/
def CauseKind.text : CauseKind → String
  | .notFound => "entity not found"
  | .permissionDenied => "permission denied"
  | .connectionRefused => "connection refused"
  | .connectionReset => "connection reset"
  | .connectionAborted => "connection aborted"
  | .notConnected => "not connected"
  | .addressInUse => "address in use"
  | .addressNotAvailable => "address not available"
  | .brokenPipe => "broken pipe"
  | .alreadyExists => "entity already exists"
  | .wouldBlock => "operation would block"
  | .invalidInput => "invalid input parameter"
  | .invalidData => "invalid data"
  | .timedOut => "timed out"
  | .writeZero => "write zero"
  | .interrupted => "operation interrupted"
  | .unsupported => "unsupported"
  | .unexpectedEnd => "unexpected end of file"
  | .outOfMemory => "out of memory"
  | .other => "other error"
  | .notDirectory => "not a directory"
  | .isDirectory => "is a directory"
  | .argumentListTooLong => "argument list too long"
  | .executableBusy => "executable file busy"
  | .resourceBusy => "resource busy"

/-- Why an operation of the system failed. -/
inductive Cause where
  | numbered (errno : Errno)
  | bare (kind : CauseKind)
  | stated (kind : CauseKind) (text : String)
deriving DecidableEq, Repr

namespace Cause

/-- What a reader is shown. -/
def text : Cause → String
  | .numbered errno => errno.text
  | .bare kind => kind.text
  | .stated _ text => text

/-- Whether the cause says that something does not exist. -/
def isNotFound : Cause → Bool
  | .numbered errno => errno = Errno.noEntry
  | .bare kind => kind = .notFound
  | .stated kind _ => kind = .notFound

/-- A path or an argument that holds a NUL byte cannot be handed to the system. -/
def nulByte : Cause :=
  .stated .invalidInput "nul byte found in provided data"

end Cause

end HostnameSandbox

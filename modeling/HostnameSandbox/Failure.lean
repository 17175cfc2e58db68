import HostnameSandbox.Cause
import HostnameSandbox.Command
import HostnameSandbox.Hostname
import HostnameSandbox.Membership
import HostnameSandbox.Signal

/-!
# Failures

Everything that can go wrong between the command line and the end of the command.  Each
failure has a text and an exit code, so that what happens in either stage shows in how the
outermost process ends.
-/

namespace HostnameSandbox

/-- Why an invocation makes no sense. -/
inductive InvocationFault where
  | command (fault : InvalidCommand)
  | stated (text : String)
deriving DecidableEq, Repr

/-- What a reader is told about an invocation that makes no sense. -/
def InvocationFault.text : InvocationFault → String
  | .command fault => fault.text
  | .stated text => text

/-- Why a namespace could not be set up. -/
inductive SetupFault where
  | hostname (fault : InvalidHostname)
  | unreadable (pid : Pid) (cause : Cause)
  | shared (uts : String) (parent : Pid)
  | refused (errno : Errno)
  | stated (text : String)
deriving DecidableEq, Repr

/-- What a reader is told about a namespace that could not be set up. -/
def SetupFault.text : SetupFault → String
  | .hostname fault => fault.text
  | .unreadable pid cause =>
      "Failed to read UTS namespace of PID " ++ toString pid ++ ": " ++ cause.text
  | .shared uts parent =>
      "not running in a fresh UTS namespace (" ++ uts ++ " is shared with parent PID " ++
        toString parent ++ "); use `outer` to launch commands"
  | .refused errno => "Failed to set hostname: " ++ errno.described
  | .stated text => text

/-- What can go wrong. -/
inductive Failure where
  /-- The command line names no stage or no command. -/
  | invocation (fault : InvocationFault)
  /-- The program could not be started again in its new namespace. -/
  | launch (program : String) (cause : Cause)
  /-- The namespace could not be set up. -/
  | namespaceSetup (fault : SetupFault)
  /-- The command could not be started. -/
  | spawn (program : String) (cause : Cause)
  /-- A child was ended by a signal. -/
  | runtime (program : String) (signal : Int)
  /-- Some other input or output failed. -/
  | io (cause : Cause)
  /-- Some other system call failed. -/
  | system (errno : Errno)
deriving DecidableEq, Repr

namespace Failure

/-- What a reader is told. -/
def message : Failure → String
  | .invocation fault => "Invalid invocation: " ++ fault.text
  | .launch program cause => "Failed to launch " ++ program ++ ": " ++ cause.text
  | .namespaceSetup fault => "Namespace setup failed: " ++ fault.text
  | .spawn program cause => "Failed to execute " ++ program ++ ": " ++ cause.text
  | .runtime program signal => program ++ " terminated by signal " ++ toString signal
  | .io cause => "I/O error: " ++ cause.text
  | .system errno => "System error: " ++ errno.described

/-- The text of what caused the failure, if something else did. -/
def causeText : Failure → Option String
  | .launch _ cause => some cause.text
  | .spawn _ cause => some cause.text
  | .io cause => some cause.text
  | .system errno => some errno.described
  | .invocation _ | .namespaceSetup _ | .runtime _ _ => none

/-- The exit code of a malformed invocation. -/
def invocationCode : Int := 2

/-- The exit code when the sandbox itself fails. -/
def setupCode : Int := 125

/-- The exit code when the command exists but cannot be executed. -/
def cannotExecuteCode : Int := 126

/-- The exit code when the command cannot be found. -/
def notFoundCode : Int := 127

/-- Added to the number of the signal that ended a child. -/
def signalBase : Int := 128

/-- The exit code that reports a failure. -/
def exitCode : Failure → Int
  | .invocation _ => invocationCode
  | .spawn _ cause => if cause.isNotFound then notFoundCode else cannotExecuteCode
  | .runtime _ signal => signalBase + signal
  | .launch _ _ | .namespaceSetup _ | .io _ | .system _ => setupCode

end Failure

end HostnameSandbox

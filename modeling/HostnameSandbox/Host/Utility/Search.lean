import HostnameSandbox.Host.Loading
import HostnameSandbox.Process

/-!
# Turning into a program by its name

A process turns into a program that is looked for in the directories of its search path.  A file in
no format of its own is handed to the shell.
-/

namespace HostnameSandbox

namespace Utility.Search

/-- The directories that are searched if no others are named. -/
def usualPath : Bytes := Bytes.ofString "/bin:/usr/bin"

/-- Turns into the program in a file; there is a value only if that fails. -/
def becomeFile (path : Bytes) (words : List Bytes) (environment : Environment) : Process Errno := do
  let errno : Errno ← Process.ask (.become path words environment)
  if errno = .badFormat then
    Process.ask (.become Loading.shellPath (Loading.shellPath :: path :: words.tail) environment)
  else pure errno

/-- Turns into a program of one of the directories. -/
def becomeWithin (name : Bytes) (words : List Bytes) (environment : Environment) (denied : Bool)
    (latest : Errno) : List Bytes → Process Errno
  | [] => pure (if denied then .accessDenied else latest)
  | directory :: rest => do
      let path := if directory.isEmpty then name else directory ++ FileTree.slash :: name
      let errno ← becomeFile path words environment
      if Loading.isPassedOver errno then
        becomeWithin name words environment (denied || errno = .accessDenied) errno rest
      else pure errno

/-- Turns into the program with a name; there is a value only if that fails. -/
def become (name : Bytes) (words : List Bytes) (environment : Environment) : Process Errno :=
  if name.isEmpty then pure .noEntry
  else if name.contains FileTree.slash then becomeFile name words environment
  else if FileTree.longestName < name.length then pure .nameTooLong
  else
    becomeWithin name words environment false .noEntry
      (((environment.value? "PATH").getD usualPath).splitOn 0x3A)

end Utility.Search

end HostnameSandbox

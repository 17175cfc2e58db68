import HostnameSandbox.Host.FileTree
import HostnameSandbox.Host.Utility.Basic

/-!
# Telling where one is

`pwd` tells the directory that it was started in: by a path without links, or by the one that the
environment tells, if that leads there.
-/

namespace HostnameSandbox

namespace Utility.Pwd

/-- The options of the program. -/
def options : Options where
  short := [('L', .none), ('P', .none)]
  long := [("logical", .none, 'L'), ("physical", .none, 'P'), ("help", .none, 'h'),
    ("version", .none, 'v')]
  ordered := false

/-- Whether a path begins at the root and leads only downwards. -/
def isDirect (path : Bytes) : Bool :=
  FileTree.isAbsolute path &&
    !(path.splitOn FileTree.slash).any fun name => name = FileTree.here || name = FileTree.above

/-- The path that the environment tells, if it leads to where the program is. -/
def told? (environment : Environment) : Process (Option Bytes) := do
  match environment.value? "PWD" with
  | none => pure none
  | some path =>
      if isDirect path then
        match (← Process.ask (.examine path true) : Except Errno FileFacts),
            (← Process.ask (.examine FileTree.here true) : Except Errno FileFacts) with
        | .ok one, .ok other => pure (if one.place = other.place then some path else none)
        | _, _ => pure none
      else pure none

/-- Whether options and environment ask for the path that the environment tells; the last option
counts. -/
def asksTold (parsed : Options.Parsed) (environment : Environment) : Bool :=
  match parsed.chosen.getLast? with
  | some option => option.1 = 'L'
  | none => (environment.value? "POSIXLY_CORRECT").isSome

/-- Tells where the program is. -/
def program : Program := fun start => do
  match options.parse start.args with
  | .error fault => refuse start.name fault.message 1
  | .ok parsed =>
      let isHeard ← if parsed.operands.isEmpty then pure true
        else note (complaint start.name (Bytes.ofString "ignoring non-option arguments"))
      let told ← if asksTold parsed start.environment then told? start.environment else pure none
      let path : Bytes ← match told with
        | some path => pure path
        | none => Process.ask .directory
      finish start.name (Output.empty.add (path ++ [0x0A])) (if isHeard then 0 else 1) 1

end Utility.Pwd

end HostnameSandbox

import HostnameSandbox.Text.Bytes

/-!
# Commands of the shell itself

The commands that the shell carries out without starting a program, by their names.
-/

namespace HostnameSandbox

namespace Shell

/-- A command that the shell carries out itself. -/
structure Builtin where
  name : String
  /-- Whether its errors end the shell, and assignments in front of it last. -/
  isSpecial : Bool
  /-- Whether its arguments are expanded like assignments. -/
  assigns : Bool
deriving DecidableEq, Repr

namespace Builtin

/-- The commands that the shell carries out itself. -/
def all : List Builtin :=
  [".", ":", "break", "continue", "eval", "exec", "exit", "return", "set", "shift", "times", "trap",
    "unset"].map (⟨·, true, false⟩) ++
  ["export", "local", "readonly"].map (⟨·, true, true⟩) ++
  [⟨"alias", false, true⟩] ++
  ["[", "bg", "cd", "chdir", "command", "echo", "false", "fg", "getopts", "hash", "jobs", "kill",
    "printf", "pwd", "read", "test", "true", "type", "ulimit", "umask", "unalias", "wait"].map
    (⟨·, false, false⟩)

/-- The command with a name that the shell carries out itself. -/
def find? (name : Bytes) : Option Builtin :=
  all.find? fun found => Bytes.ofString found.name = name

end Builtin

end Shell

end HostnameSandbox

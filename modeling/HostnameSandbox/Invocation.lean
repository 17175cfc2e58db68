import HostnameSandbox.Command

/-!
# Invocations

The program plays one of two stages: the outer one re-executes it inside a new UTS namespace,
the inner one gives that namespace its host name and runs the command.
-/

namespace HostnameSandbox

/-- The stage that the program plays. -/
inductive Stage where
  | outer
  | inner
deriving DecidableEq, Repr

namespace Stage

/-- The word that selects a stage on the command line. -/
def word : Stage → String
  | .outer => "outer"
  | .inner => "inner"

/-- How a stage is written in a description. -/
def describe : Stage → String
  | .outer => "Outer"
  | .inner => "Inner"

end Stage

/-- A stage and the command that it is to run. -/
structure Invocation where
  stage : Stage
  command : Command
deriving DecidableEq

end HostnameSandbox

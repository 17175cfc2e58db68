/-!
# Standard streams of a child

Each of the three standard streams of a child is its parent's or the null device.
-/

namespace HostnameSandbox

/-- What a standard stream of a child is connected to. -/
inductive Binding where
  | inherit
  | null
deriving DecidableEq, Repr

/-- How a binding is written in a description of its owner. -/
def Binding.describe : Binding → String
  | .inherit => "Inherit"
  | .null => "Null"

/-- What the standard streams of a child are connected to. -/
structure Streams where
  input : Binding
  output : Binding
  error : Binding
deriving DecidableEq, Repr

namespace Streams

/-- All three streams are the parent's. -/
def inherited : Streams := ⟨.inherit, .inherit, .inherit⟩

/-- All three streams are the null device. -/
def discarded : Streams := ⟨.null, .null, .null⟩

/-- How the bindings are written in a description of their owner. -/
def describe (streams : Streams) : String :=
  "StdioBindings \x7b stdin: " ++ streams.input.describe ++
    ", stdout: " ++ streams.output.describe ++
    ", stderr: " ++ streams.error.describe ++ " \x7d"

end Streams

end HostnameSandbox

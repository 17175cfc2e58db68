/-!
# Requests for new namespaces

A request says which namespaces a child is to get of its own when it is created.
-/

namespace HostnameSandbox

/-- The namespaces that a child gets of its own. -/
structure Isolation where
  uts : Bool
deriving DecidableEq, Repr

namespace Isolation

/-- A new UTS namespace, hence a host name of its own. -/
def standard : Isolation := ⟨true⟩

/-- No new namespace: the child shares its parent's. -/
def none : Isolation := ⟨false⟩

/-- Whether any namespace is asked for. -/
def hasAny (isolation : Isolation) : Bool :=
  isolation.uts

/-- The names of the namespaces asked for. -/
def names (isolation : Isolation) : List String :=
  if isolation.uts then ["uts"] else []

/-- The bits that ask the kernel for these namespaces. -/
def flags (isolation : Isolation) : Nat :=
  if isolation.uts then 0x04000000 else 0

/-- How a request is written in a description of its owner. -/
def describe (isolation : Isolation) : String :=
  "IsolationRequest \x7b uts: " ++ (if isolation.uts then "true" else "false") ++ " \x7d"

end Isolation

end HostnameSandbox

/-!
# Namespace membership

Which UTS namespace a process is a member of.  Namespaces are compared by the names that the
kernel gives them.
-/

namespace HostnameSandbox

/-- The number of a process. -/
abbrev Pid := Int

/-- A process together with the name of its UTS namespace. -/
structure Membership where
  pid : Pid
  uts : String
deriving DecidableEq, Repr

namespace Membership

/-- Whether two processes are members of the same UTS namespace. -/
def sharesWith (one other : Membership) : Bool :=
  one.uts == other.uts

/-- A membership as a reader sees it. -/
def display (membership : Membership) : String :=
  "PID " ++ toString membership.pid ++ ": " ++ membership.uts

end Membership

end HostnameSandbox

import HostnameSandbox.Limit

/-!
# Limits as a shell tells them

A shell calls a resource by a letter, and counts it in a unit of its own.
-/

namespace HostnameSandbox

namespace Shell

/-- A resource as a shell tells about it: the letter that it is asked for by, its name, and the size
of its unit. -/
structure Measure where
  resource : Resource
  letter : Char
  name : String
  unit : Nat
deriving DecidableEq, Repr

namespace Measure

/-- The resources that a shell knows. -/
def all : List Measure :=
  [⟨.time, 't', "time(seconds)", 1⟩, ⟨.fileSize, 'f', "file(blocks)", 512⟩,
    ⟨.data, 'd', "data(kbytes)", 1024⟩, ⟨.stack, 's', "stack(kbytes)", 1024⟩,
    ⟨.crash, 'c', "coredump(blocks)", 512⟩, ⟨.resident, 'm', "memory(kbytes)", 1024⟩,
    ⟨.locked, 'l', "locked memory(kbytes)", 1024⟩, ⟨.processes, 'p', "process", 1⟩,
    ⟨.files, 'n', "nofiles", 1⟩, ⟨.memory, 'v', "vmemory(kbytes)", 1024⟩,
    ⟨.locks, 'w', "locks", 1⟩, ⟨.priority, 'r', "rtprio", 1⟩]

/-- How much may be used, in units. -/
def shown (measure : Measure) (amount : Option Nat) : String :=
  match amount with
  | none => "unlimited\n"
  | some value => toString (value / measure.unit) ++ "\n"

end Measure

end Shell

end HostnameSandbox

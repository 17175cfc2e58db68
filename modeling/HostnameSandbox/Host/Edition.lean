/-!
# The edition of a system

How the system of a host calls itself.
-/

namespace HostnameSandbox

namespace Edition

/-- The name of the system. -/
def system : String := "Linux"

/-- The release of the kernel. -/
def release : String := "6.18.44-fc-v509"

/-- The version of the kernel. -/
def version : String := "#1 SMP PREEMPT_DYNAMIC @0"

/-- The tools that the kernel was built with, and where. -/
def tools : String :=
  "(builder@sandboxing) (gcc (GCC) 15.3.0, GNU ld (GNU Binutils) 2.46)"

/-- All of it on one line. -/
def whole : String :=
  system ++ " version " ++ release ++ " " ++ tools ++ " " ++ version

/-- The processor that the system runs on. -/
def machine : String := "x86_64"

/-- The domain of the host, of which there is none. -/
def domain : String := "(none)"

end Edition

end HostnameSandbox

import HostnameSandbox.Host.Edition
import HostnameSandbox.Host.Utility.Basic

/-!
# Telling about the system

`uname` tells the names of the system, of the host, and of what the system runs on.
-/

namespace HostnameSandbox

namespace Utility.Uname

/-- The options of the program. -/
def options : Options where
  short := "asnrvmpio".toList.map fun letter => (letter, .none)
  long := [("all", .none, 'a'), ("kernel-name", .none, 's'), ("sysname", .none, 's'),
    ("nodename", .none, 'n'), ("kernel-release", .none, 'r'), ("release", .none, 'r'),
    ("kernel-version", .none, 'v'), ("machine", .none, 'm'), ("processor", .none, 'p'),
    ("hardware-platform", .none, 'i'), ("operating-system", .none, 'o'), ("help", .none, 'h'),
    ("version", .none, 'V')]
  ordered := false

/-- What there is to tell, in order, by the option that asks for it; some of it is not known. -/
def facts (hostname : Bytes) : List (Char × Option Bytes) :=
  let told (text : String) : Option Bytes := some (Bytes.ofString text)
  [('s', told Edition.system), ('n', some hostname), ('r', told Edition.release),
    ('v', told Edition.version), ('m', told Edition.machine), ('p', none), ('i', none),
    ('o', told "GNU/Linux")]

/-- What is told of something that is not known, unless everything is asked for. -/
def unknown : Bytes := Bytes.ofString "unknown"

/-- Tells what it is asked for, or the name of the system. -/
def program : Program := fun start => do
  match options.parse start.args with
  | .error fault => refuse start.name fault.message 1
  | .ok ⟨_, word :: _⟩ =>
      refuse start.name (Bytes.ofString "extra operand " ++ Quoting.always word) 1
  | .ok parsed =>
      let hostname : Bytes ← Process.ask .hostname
      let told := (facts hostname).filterMap fun (letter, fact) =>
        if parsed.has 'a' then fact
        else if parsed.has letter || (parsed.chosen.isEmpty && letter = 's') then
          some (fact.getD unknown)
        else none
      finish start.name (Output.empty.add (joined told ++ [0x0A])) 0 1

end Utility.Uname

end HostnameSandbox

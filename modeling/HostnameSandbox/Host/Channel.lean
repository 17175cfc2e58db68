import HostnameSandbox.Process

/-!
# Channels

What open files lead to: stores of bytes, files, pipes, devices, and files in which the system
tells about itself and about its processes.
-/

namespace HostnameSandbox

/-- What the system tells about a process in a file. -/
inductive Topic where
  /-- The words that the process was started with. -/
  | words
  /-- The environment that the process was started with. -/
  | environment
  /-- The name of the program. -/
  | name
  /-- Everything on one line, without names. -/
  | line
  /-- The essential, on lines with names. -/
  | summary
  | limits
  /-- Something that is the same for all processes, by the name of its file. -/
  | common (file : String)
deriving DecidableEq, Repr

/-- The name of the file in which something is told about a process. -/
def Topic.fileName : Topic → String
  | .words => "cmdline"
  | .environment => "environ"
  | .name => "comm"
  | .line => "stat"
  | .summary => "status"
  | .limits => "limits"
  | .common file => file

/-- What the system tells about itself in a file. -/
inductive SystemFact where
  | hostname
  | domain
  | system
  | release
  | version
  /-- All about the edition of the system. -/
  | edition
deriving DecidableEq, Repr

/-- The name of the file in which something is told about the system. -/
def SystemFact.fileName : SystemFact → String
  | .hostname => "hostname"
  | .domain => "domainname"
  | .system => "ostype"
  | .release => "osrelease"
  | .version | .edition => "version"

/-- What an open file leads to. -/
inductive Channel where
  /-- Nothing is read from it, and what is written to it is lost. -/
  | null
  /-- It has no end of zero bytes, and what is written to it is lost. -/
  | zero
  /-- It has no end of zero bytes, and no room for anything. -/
  | full
  /-- The terminal of a process that has none. -/
  | terminal
  /-- A store of bytes that has no place among the files. -/
  | store (number : Nat)
  /-- The file at a place. -/
  | file (place : List Bytes)
  /-- The directory at a place. -/
  | directory (place : List Bytes)
  /-- The end of a pipe that is read from. -/
  | outlet (pipe : Nat)
  /-- The end of a pipe that is written to. -/
  | inlet (pipe : Nat)
  /-- What is told about a process. -/
  | report (pid : Pid) (topic : Topic)
  /-- What is told about the system. -/
  | fact (fact : SystemFact)
  /-- A namespace of a kind, by its number. -/
  | space (kind : Bytes) (number : Nat)
deriving DecidableEq, Repr

namespace Channel

/-- What kind of file an open file is. -/
def kind : Channel → FileKind
  | .null | .zero | .full | .terminal => .device
  | .store _ | .file _ | .report _ _ | .fact _ | .space _ _ => .regular
  | .directory _ => .directory
  | .outlet _ | .inlet _ => .pipe

/-- The permissions of what has no place among the files that could be changed. -/
def mode : Channel → Nat
  | .report _ .environment | .report _ (.common "personality") => 0o400
  | .report _ .name | .fact .hostname | .fact .domain => 0o644
  | .report _ _ | .fact _ | .space _ _ => 0o444
  | .outlet _ | .inlet _ => 0o600
  | .store _ => 0o777
  | .null | .zero | .full | .terminal | .file _ | .directory _ => 0o666

end Channel

end HostnameSandbox

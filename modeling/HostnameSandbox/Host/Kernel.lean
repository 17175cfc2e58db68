import HostnameSandbox.Host.Pipe
import HostnameSandbox.Host.Task

/-!
# The kernel of a host

The state of a host as far as a run depends on it: the UTS namespaces with their host names, the
files, the open ones among them, and the processes.  Every process has a clock of its own, so that
processes run side by side; what one of them does becomes visible in the order of the clocks.
-/

namespace HostnameSandbox

/-- The names in a UTS namespace. -/
structure Names where
  host : Bytes
  domain : Bytes
deriving DecidableEq, Repr

/-- The state of a host. -/
structure Kernel where
  /-- The names in each UTS namespace; the first is the host's own. -/
  names : List Names
  nextPid : Pid
  files : FileTree
  /-- When files were changed; the absent ones have not been changed since the host was started. -/
  changes : List (Place × Nat)
  /-- Whether programs are started with the privilege to change namespaces. -/
  grantsPrivilege : Bool
  /-- Processes that nothing here depends on, with the namespaces they are in. -/
  bystanders : List (Pid × Nat)
  /-- The processes that belong to somebody else: nobody may look at them or send them signals. -/
  hidden : List Pid
  stores : Array Data
  pipes : Array Pipe
  handles : Array Handle
  /-- What log lines begin with: the time of the run. -/
  stamp : String
  events : List Event
  /-- The process that work is done by. -/
  worker : Pid
  tasks : List Task
  /-- The time of what was done last. -/
  now : Nat

namespace Kernel

/-! ### Processes -/

/-- The process with a number. -/
def task? (kernel : Kernel) (pid : Pid) : Option Task :=
  kernel.tasks.find? fun task => task.pid = pid

/-- The kernel with a change of one process. -/
def modify (kernel : Kernel) (pid : Pid) (change : Task → Task) : Kernel :=
  { kernel with
    tasks := kernel.tasks.map fun task => if task.pid = pid then change task else task }

/-- Whether a process is there and has not ended. -/
def isAlive (kernel : Kernel) (pid : Pid) : Bool :=
  kernel.tasks.any fun task => task.pid = pid && task.isAlive

/-! ### Open files -/

/-- The open file that a process has by a number. -/
def handle? (kernel : Kernel) (task : Task) (descriptor : Descriptor) : Option (Nat × Handle) := do
  let entry ← task.find? descriptor
  let handle ← kernel.handles[entry.handle]?
  return (entry.handle, handle)

/-- Whether a living process has an end of a pipe open. -/
def hasOpen (kernel : Kernel) (channel : Channel) : Bool :=
  kernel.tasks.any fun task =>
    task.isAlive && task.opened.any fun entry =>
      (kernel.handles[entry.handle]?).any fun handle => handle.channel = channel

/-- The time between two ticks of the clock by which changes of files are dated. -/
def tick : Nat := 4000

/-- The kernel after the file at a place has been changed. -/
def touch (kernel : Kernel) (place : Place) : Kernel :=
  { kernel with
    changes := (place, (kernel.now / tick + 1) * tick) ::
      kernel.changes.filter fun entry => entry.1 != place }

/-- What is in a store or a file. -/
def contents (kernel : Kernel) : Channel → Data
  | .store number => (kernel.stores[number]?).getD .none
  | .file place => kernel.files.contents place
  | _ => .none

/-- The kernel with other data in a store or a file. -/
def setContents (kernel : Kernel) (channel : Channel) (data : Data) : Kernel :=
  match channel with
  | .store number => { kernel with stores := kernel.stores.setIfInBounds number data }
  | .file place => { kernel with files := kernel.files.store place data }.touch place
  | _ => kernel

/-- Where in a store or a file an open file writes next. -/
def writingOffset (kernel : Kernel) (handle : Handle) : Nat :=
  if handle.appends then (kernel.contents handle.channel).size else handle.offset

/-- Writes bytes to a store or a file by way of an open file. -/
def writeThrough (kernel : Kernel) (number : Nat) (handle : Handle) (bytes : Bytes) : Kernel :=
  let offset := kernel.writingOffset handle
  let present := kernel.contents handle.channel
  let written := if bytes.isEmpty then kernel
    else kernel.setContents handle.channel (present.overwrite offset bytes)
  { written with
    handles := written.handles.setIfInBounds number
      { handle with offset := offset + bytes.length } }

/-- The pipe with a number. -/
def pipe (kernel : Kernel) (number : Nat) : Pipe := (kernel.pipes[number]?).getD Pipe.empty

/-- The kernel with another pipe of a number. -/
def setPipe (kernel : Kernel) (number : Nat) (pipe : Pipe) : Kernel :=
  { kernel with pipes := kernel.pipes.setIfInBounds number pipe }

/-- Logs an event on behalf of a process. -/
def log (kernel : Kernel) (task : Task) (event : Event) : Kernel :=
  match task.journal with
  | .closed => kernel
  | .kept => { kernel with events := kernel.events ++ [event] }
  | .lines filter =>
      if filter.admits event then
        let line := Bytes.ofString (kernel.stamp ++ " " ++ event.line ++ "\n")
        match kernel.handle? task Descriptor.error with
        | some (number, handle) =>
            if !handle.writes then kernel
            else
              match handle.channel with
              | .store _ | .file _ => kernel.writeThrough number handle line
              | .inlet pipe =>
                  let (joined, rest) := (kernel.pipe pipe).join line
                  kernel.setPipe pipe (joined.put rest).1
              | _ => kernel
        | none => kernel
      else kernel

/-! ### Namespaces -/

/-- The name of the UTS namespace with a number. -/
def namespaceName (number : Nat) : String :=
  "uts:[" ++ toString (4026531838 + number) ++ "]"

/-- The processes with the namespaces that they are in. -/
def members (kernel : Kernel) : List (Pid × Nat) :=
  (kernel.tasks.map fun task => (task.pid, task.uts)) ++ kernel.bystanders

/-- The UTS namespace of a process, by name, if the process exists and may be looked at. -/
def namespaceOf (kernel : Kernel) (pid : Pid) : Except Errno String :=
  match kernel.members.find? fun member => member.1 = pid with
  | none => .error .noEntry
  | some member =>
      if kernel.hidden.contains pid then .error .accessDenied
      else .ok (namespaceName member.2)

/-- The names in a process's namespace. -/
def namesFor (kernel : Kernel) (task : Task) : Names :=
  (kernel.names[task.uts]?).getD ⟨[], []⟩

/-- The host name in a process's namespace. -/
def hostnameFor (kernel : Kernel) (task : Task) : Bytes := (kernel.namesFor task).host

/-- The kernel with other names in a process's namespace. -/
def setNames (kernel : Kernel) (task : Task) (change : Names → Names) : Kernel :=
  { kernel with names := kernel.names.set task.uts (change (kernel.namesFor task)) }

/-- The most bytes that the kernel holds of a name. -/
def longestHostname : Nat := 64

/-- Changes the names in a process's namespace to hold the one that is given. -/
def rename (kernel : Kernel) (task : Task) (name : Bytes) (change : Names → Names) :
    Except Errno Kernel :=
  if !task.privileged then .error .notPermitted
  else if longestHostname < name.length then .error .invalidArgument
  else .ok (kernel.setNames task change)

/-- Moves a process into a new UTS namespace, which begins with the same names. -/
def unshare (kernel : Kernel) (task : Task) : Except Errno Kernel :=
  if !task.privileged then .error .notPermitted
  else
    let moved := kernel.modify task.pid fun task => { task with uts := kernel.names.length }
    .ok { moved with names := kernel.names ++ [kernel.namesFor task] }

/-- Moves a process into the UTS namespace with a number. -/
def enter (kernel : Kernel) (task : Task) (number : Nat) : Except Errno Kernel :=
  if !task.privileged then .error .notPermitted
  else .ok (kernel.modify task.pid fun task => { task with uts := number })

end Kernel

end HostnameSandbox

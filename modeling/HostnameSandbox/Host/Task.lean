import HostnameSandbox.Event.Line
import HostnameSandbox.Host.Loading

/-!
# Processes of a host

What a host keeps of each process: its place among the others, its open files, what it does about
signals, its limits, and what it is about to do.
-/

namespace HostnameSandbox

/-- What becomes of the events that a process reports. -/
inductive Journal where
  /-- They are dropped. -/
  | closed
  /-- They are kept by the kernel. -/
  | kept
  /-- The admitted ones are written to standard error, a line each. -/
  | lines (filter : Event.Filter)

/-- An open file.  Processes that have it in common also have its offset in common. -/
structure Handle where
  channel : Channel
  reads : Bool
  writes : Bool
  appends : Bool
  offset : Nat
deriving DecidableEq, Repr

/-- An open file as a process has it: by a number of its own.  Unless it is `lasting`, programs
that the process turns into do not have it. -/
structure Opened where
  descriptor : Descriptor
  handle : Nat
  lasting : Bool
deriving DecidableEq, Repr

/-- A process. -/
structure Task where
  pid : Pid
  parent : Pid
  /-- The number of the UTS namespace that the process is in. -/
  uts : Nat
  /-- Whether the process may change namespaces and host names. -/
  privileged : Bool
  /-- What the program is called. -/
  name : Bytes
  /-- The path that the process was started from. -/
  path : Bytes
  /-- The words that the process was started with. -/
  words : List Bytes
  environment : Environment
  directory : Place
  /-- The permissions that new files do not get. -/
  mask : Nat
  limits : Limits
  opened : List Opened
  journal : Journal
  /-- What the process does about signals; the absent ones have their usual effect. -/
  reactions : List (Signal × Reaction)
  /-- The signals that have to wait. -/
  held : List Signal
  /-- The signals that wait, since they are held or the process is stopped. -/
  waiting : List Signal
  /-- The caught signals that have not been asked for. -/
  noted : List Signal
  stopped : Bool
  /-- What remains of the bytes that the process is writing. -/
  unwritten : Bytes
  /-- How the process ended, if it has; its parent has not been told yet. -/
  ending : Option ExitStatus
  /-- When the process goes on, in microseconds. -/
  clock : Nat
  /-- What the process is about to do. -/
  process : Process UInt8

namespace Task

/-! ### Signals -/

/-- What a process does about a signal. -/
def reactionTo (task : Task) (signal : Signal) : Reaction :=
  match task.reactions.find? fun entry => entry.1 = signal with
  | some entry => if signal.canBeHandled then entry.2 else .standard
  | none => .standard

/-- Whether a process drops a signal. -/
def drops (task : Task) (signal : Signal) : Bool :=
  match task.reactionTo signal with
  | .ignored => true
  | .standard => !signal.isFatal && !signal.stops
  | .ignoredOnce | .caught => false

/-- The process with another reaction to a signal, which does not wait any more if it is
dropped. -/
def react (task : Task) (signal : Signal) (reaction : Reaction) : Task :=
  let task := { task with
    reactions := (signal, reaction) ::
      task.reactions.filter fun entry => entry.1 != signal }
  if task.drops signal then { task with waiting := task.waiting.filter (· != signal) } else task

/-- Notes a caught signal, once. -/
def note (task : Task) (signal : Signal) : Task :=
  if task.noted.contains signal then task else { task with noted := task.noted ++ [signal] }

/-- Whether a process makes a signal wait. -/
def holds (task : Task) (signal : Signal) : Bool :=
  signal.canBeHandled && task.held.contains signal

/-- The process with a signal more that waits, unless it drops it.  A signal to go on makes an end of
those that stop the process, and the other way round. -/
def receive (task : Task) (signal : Signal) : Task :=
  let task :=
    if signal = .resume then
      { task with stopped := false, waiting := task.waiting.filter fun other => !other.stops }
    else if signal = .kill then { task with stopped := false }
    else if signal.stops then { task with waiting := task.waiting.filter (· != .resume) }
    else task
  if task.waiting.contains signal || (task.drops signal && !task.holds signal) then task
  else { task with waiting := task.waiting ++ [signal] }

/-- The signals that take effect, by their numbers. -/
def due (task : Task) : List Signal :=
  if task.stopped then []
  else
    (task.waiting.filter fun signal => !task.holds signal).mergeSort fun one other =>
      decide (one.number ≤ other.number)

/-- The reactions that outlive the start of a program: signals stay ignored, but are no
longer caught. -/
def survivingReactions (task : Task) : List (Signal × Reaction) :=
  task.reactions.filter fun entry => entry.2 = .ignored

/-! ### Open files -/

/-- Whether a process has not ended. -/
def isAlive (task : Task) : Bool := task.ending.isNone

/-- The open file that a process has by a number. -/
def find? (task : Task) (descriptor : Descriptor) : Option Opened :=
  task.opened.find? fun entry => entry.descriptor = descriptor

/-- The process with an open file, in place of another one of its number. -/
def install (task : Task) (entry : Opened) : Task :=
  { task with
    opened := entry :: task.opened.filter fun other => other.descriptor != entry.descriptor }

/-- The process without an open file. -/
def drop (task : Task) (descriptor : Descriptor) : Task :=
  { task with opened := task.opened.filter fun entry => entry.descriptor != descriptor }

/-- The first number from `least` on that no open file has, tried so often. -/
def unusedFrom (task : Task) : Nat → Descriptor → Descriptor
  | 0, least => least
  | tries + 1, least =>
      if (task.find? least).isSome then unusedFrom task tries (least + 1) else least

/-- Whether an open file may have a number. -/
def mayUse (task : Task) (descriptor : Descriptor) : Bool :=
  Limit.isWithin (some (descriptor + 1)) (task.limits.allowed? .files)

/-- The first free number from `least` on. -/
def free? (task : Task) (least : Descriptor) : Except Errno Descriptor :=
  let descriptor := task.unusedFrom task.opened.length least
  if task.mayUse descriptor then .ok descriptor else .error .tooManyFiles

/-- The open files that outlive the start of a program. -/
def lastingFiles (task : Task) : List Opened :=
  task.opened.filter Opened.lasting

/-! ### Programs -/

/-- The room that the words of a program may take which a process turns into. -/
def roomForWords (task : Task) : Nat := Loading.roomForWords (task.limits.allowed? .stack)

/-- The directories that a process looks programs up in. -/
def searchPath (task : Task) : List Bytes :=
  let places := (task.environment.value? "PATH").getD (Bytes.ofString "/bin:/usr/bin")
  places.splitOn 0x3A

end Task

end HostnameSandbox

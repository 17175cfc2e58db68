import HostnameSandbox.Event.Filter
import HostnameSandbox.Failure
import HostnameSandbox.Limit
import HostnameSandbox.Streams

/-!
# Processes

A process is described by the calls that it makes to the operating system: a tree that says,
for every answer to a call, how the process goes on.  Whatever runs on a host is such a tree,
the stages of the program as well as any command, so that a statement about all commands
ranges over all trees.
-/

namespace HostnameSandbox

/-- The number by which a process calls an open file. -/
abbrev Descriptor := Nat

namespace Descriptor

/-- The standard input. -/
def input : Descriptor := 0

/-- The standard output. -/
def output : Descriptor := 1

/-- The standard error. -/
def error : Descriptor := 2

end Descriptor

/-- What a process does about a signal. -/
inductive Reaction where
  /-- The signal has its usual effect. -/
  | standard
  /-- The signal is dropped. -/
  | ignored
  /-- The signal is dropped, but has its usual effect from then on. -/
  | ignoredOnce
  /-- The signal is noted and can be asked for. -/
  | caught
deriving DecidableEq, Repr

/-- What is asked of the system when a child is created. -/
structure Spawning where
  path : Bytes
  args : List Bytes
  streams : Streams
  isolation : Isolation
  /-- What the child does about signals at first, where it does not follow its parent. -/
  reactions : List (Signal × Reaction)
deriving DecidableEq

/-- The environment of a process: its variables with their values. -/
abbrev Environment := List (Bytes × Bytes)

/-- The value of a variable of an environment. -/
def Environment.value? (environment : Environment) (name : String) : Option Bytes :=
  (environment.find? fun entry => entry.1 = Bytes.ofString name).map Prod.snd

/-- What a file is opened for.  A missing file is created if `creates` is set, and one that is
there is refused if `exclusive` is set too. -/
structure OpenMode where
  reads : Bool
  writes : Bool
  creates : Bool
  truncates : Bool
  appends : Bool
  exclusive : Bool
deriving DecidableEq, Repr

namespace OpenMode

/-- To read. -/
def reading : OpenMode := ⟨true, false, false, false, false, false⟩

/-- To write from the beginning, into an empty file. -/
def writing : OpenMode := ⟨false, true, true, true, false, false⟩

/-- To write at the end. -/
def appending : OpenMode := ⟨false, true, true, false, true, false⟩

/-- To read and write, from the beginning. -/
def updating : OpenMode := ⟨true, true, true, false, false, false⟩

end OpenMode

/-- What a file is. -/
inductive FileKind where
  | regular
  | directory
  | link
  | device
  | pipe
deriving DecidableEq, Repr

/-- What a look at a file tells; `place` says which file it is, and `mayRead` and the like what
the one who looks may do. -/
structure FileFacts where
  kind : FileKind
  size : Nat
  mode : Nat
  place : List Bytes
  mayRead : Bool
  mayWrite : Bool
  mayExecute : Bool
  /-- When the file was changed last, in microseconds. -/
  changed : Nat
deriving DecidableEq, Repr

/-- What a look at an open file tells. -/
structure OpenFacts where
  file : FileFacts
  offset : Nat
  /-- Whether everything is written at the end. -/
  appends : Bool
deriving DecidableEq, Repr

/-- How long a process waits for any of its children. -/
inductive Patience where
  /-- Until one has ended. -/
  | untilEnd
  /-- Until one has ended or a caught signal has arrived. -/
  | untilSignal
  /-- Not at all. -/
  | none
deriving DecidableEq, Repr

/-- What came of waiting for any child. -/
inductive Awaited where
  | ended (child : Pid) (status : ExitStatus)
  | interrupted
  /-- There are children, but none has ended. -/
  | nothing
  | childless
deriving DecidableEq, Repr

/-- What came of waiting for a certain child and for signals. -/
inductive Ready where
  /-- The child has ended. -/
  | ended (status : ExitStatus)
  /-- The signal had been noted, and is not noted any more. -/
  | noted (signal : Signal)
deriving DecidableEq, Repr

/-- A call that a process makes to the system. -/
inductive Call where
  /-- Log an event. -/
  | report (event : Event)
  /-- Log the events that a filter admits from now on, to standard error. -/
  | openLog (filter : Event.Filter)
  /-- Write to an open file. -/
  | write (descriptor : Descriptor) (bytes : Bytes)
  /-- Read at most so many bytes from an open file; there are none at its end. -/
  | read (descriptor : Descriptor) (limit : Nat)
  /-- Open a file. -/
  | openFile (path : Bytes) (mode : OpenMode)
  /-- Close a file. -/
  | close (descriptor : Descriptor)
  /-- Call an open file by another number too, by the first free one from `least` on; programs
  that the process turns into do not have it. -/
  | duplicate (descriptor : Descriptor) (least : Nat)
  /-- Call an open file by a certain number too. -/
  | connect (source target : Descriptor)
  /-- Create a pipe; the reply gives the end to read from, and the end to write to. -/
  | pipe
  /-- Look at a file; unless `follows` is set, a link is not followed. -/
  | examine (path : Bytes) (follows : Bool)
  /-- Look at an open file. -/
  | inspect (descriptor : Descriptor)
  /-- The names in a directory, in order. -/
  | list (path : Bytes)
  /-- Move to another directory. -/
  | enterDirectory (path : Bytes)
  /-- The path of the directory that the process is in. -/
  | directory
  /-- Choose which permissions new files do not get; the reply tells the earlier choice. -/
  | setMask (mask : Nat)
  /-- The limit to a resource. -/
  | limit (resource : Resource)
  /-- Change the limit to a resource. -/
  | setLimit (resource : Resource) (limit : Limit)
  /-- The number of this process. -/
  | ownPid
  /-- The number of this process's parent. -/
  | parentPid
  /-- The name of the UTS namespace of a process. -/
  | namespaceOf (pid : Pid)
  /-- The host name in this process's namespace. -/
  | hostname
  /-- Change the host name in this process's namespace. -/
  | setHostname (name : Bytes)
  /-- The domain name in this process's namespace. -/
  | domain
  /-- Change the domain name in this process's namespace. -/
  | setDomain (name : Bytes)
  /-- The path that this process was started from. -/
  | ownPath
  /-- Choose what happens on a signal; the reply tells the earlier choice. -/
  | react (signal : Signal) (reaction : Reaction)
  /-- What happens on a signal. -/
  | reactionTo (signal : Signal)
  /-- Choose the signals that have to wait. -/
  | hold (signals : List Signal)
  /-- The signals that have to wait. -/
  | held
  /-- The signals noted since the last such call, each once. -/
  | takeCaught
  /-- Send a signal. -/
  | send (pid : Pid) (signal : Signal)
  /-- Create a child that runs a program. -/
  | spawn (spawning : Spawning)
  /-- Wait until a child has ended. -/
  | await (child : Pid)
  /-- Wait until a child has ended or one of some signals has been noted; of the things that have
  happened, the reply tells one. -/
  | select (child : Pid) (signals : List Signal)
  /-- Wait for any child. -/
  | awaitAny (patience : Patience)
  /-- Let so many microseconds pass. -/
  | pause (time : Nat)
  /-- Turn into another program; there is a reply only if that fails. -/
  | become (path : Bytes) (words : List Bytes) (environment : Environment)
  /-- End with an exit code; there is no reply. -/
  | exit (code : UInt8)
  /-- Never go on; there is no reply. -/
  | never

/-- What a call is answered with. -/
@[reducible]
def Call.Reply : Call → Type
  | .report _ | .openLog _ | .pause _ | .hold _ => Unit
  | .write _ _ | .close _ | .connect _ _ | .enterDirectory _ | .setHostname _ | .setDomain _
  | .send _ _ | .setLimit _ _ => Except Errno Unit
  | .read _ _ => Except Errno Bytes
  | .openFile _ _ | .duplicate _ _ => Except Errno Descriptor
  | .pipe => Except Errno (Descriptor × Descriptor)
  | .examine _ _ => Except Errno FileFacts
  | .inspect _ => Except Errno OpenFacts
  | .list _ => Except Errno (List Bytes)
  | .directory | .hostname | .domain => Bytes
  | .setMask _ => Nat
  | .ownPid | .parentPid => Pid
  | .namespaceOf _ => Except Errno String
  | .ownPath => Except Cause Bytes
  | .react _ _ | .reactionTo _ => Reaction
  | .held | .takeCaught => List Signal
  | .limit _ => Limit
  | .spawn _ => Except Cause Pid
  | .await _ => ExitStatus
  | .select _ _ => Ready
  | .awaitAny _ => Awaited
  | .become _ _ _ => Errno
  | .exit _ | .never => Empty

/-- One turn of a loop: calls that come to a value of type `α`. -/
inductive Turn (α : Type) where
  /-- The turn has come to its value. -/
  | done (value : α)
  /-- The turn makes a call and goes on with the reply. -/
  | call (request : Call) (next : request.Reply → Turn α)

namespace Turn

/-- Goes on with a turn that depends on the value of the first. -/
protected def bind {α β : Type} (first : Turn α) (next : α → Turn β) : Turn β :=
  match first with
  | .done value => next value
  | .call request goOn => .call request fun reply => (goOn reply).bind next

instance : Monad Turn where
  pure := .done
  bind := Turn.bind

/-- Makes one call. -/
def ask (request : Call) : Turn request.Reply :=
  .call request .done

/-- Logs an event. -/
def report (event : Event) : Turn Unit := ask (.report event)

end Turn

/-- A process that may come to a value of type `α`. -/
inductive Process (α : Type) where
  /-- The process has come to its value. -/
  | done (value : α)
  /-- The process makes a call and goes on with the reply. -/
  | call (request : Call) (next : request.Reply → Process α)
  /-- The process goes on as two: as itself, which is told the number of its child, and as the
  child, which is told nothing. -/
  | fork (next : Option Pid → Process α)
  /-- The process takes turns until one comes to a status, and goes on with that. -/
  | loop (turn : Turn (Option ExitStatus)) (next : ExitStatus → Process α)

/-- The process that takes a turn and goes on with what the turn comes to. -/
def Turn.before {α β : Type} (turn : Turn α) (next : α → Process β) : Process β :=
  match turn with
  | .done value => next value
  | .call request goOn => .call request fun reply => (goOn reply).before next

namespace Process

/-- Takes the first turn of a loop; unless it comes to a status, the loop starts over. -/
def unroll {α : Type} (turn : Turn (Option ExitStatus)) (next : ExitStatus → Process α) :
    Process α :=
  turn.before fun
    | none => .loop turn next
    | some status => next status

/-- Goes on with a process that depends on the value of the first. -/
protected def bind {α β : Type} (first : Process α) (next : α → Process β) : Process β :=
  match first with
  | .done value => next value
  | .call request goOn => .call request fun reply => (goOn reply).bind next
  | .fork goOn => .fork fun child => (goOn child).bind next
  | .loop turn goOn => .loop turn fun status => (goOn status).bind next

instance : Monad Process where
  pure := .done
  bind := Process.bind

/-- A process that has come to its value goes on at once. -/
theorem pure_bind {α β : Type} (value : α) (next : α → Process β) :
    (pure value >>= next : Process β) = next value :=
  rfl

/-- A process that only passes its value on is the process itself. -/
theorem bind_pure {α : Type} (process : Process α) : process >>= pure = process := by
  change Process.bind process .done = process
  induction process with
  | done value => rfl
  | call request next hypothesis => simp [Process.bind, hypothesis]
  | fork next hypothesis => simp [Process.bind, hypothesis]
  | loop turn next hypothesis => simp [Process.bind, hypothesis]

/-- It does not matter how a chain of processes is bracketed. -/
theorem bind_assoc {α β γ : Type} (first : Process α) (second : α → Process β)
    (third : β → Process γ) :
    first >>= second >>= third = first >>= fun value => second value >>= third := by
  change (first.bind second).bind third = first.bind fun value => (second value).bind third
  induction first with
  | done value => rfl
  | call request next hypothesis => simp [Process.bind, hypothesis]
  | fork next hypothesis => simp [Process.bind, hypothesis]
  | loop turn next hypothesis => simp [Process.bind, hypothesis]

instance : LawfulMonad Process := LawfulMonad.mk'
  Process
  (fun process => bind_pure process)
  (fun value next => pure_bind value next)
  (fun first second third => bind_assoc first second third)

/-- Makes one call. -/
def ask (request : Call) : Process request.Reply :=
  .call request .done

/-- Takes turns until one comes to a status. -/
def untilStatus (turn : Turn (Option ExitStatus)) : Process ExitStatus :=
  .loop turn .done

/-- Goes on as two processes. -/
def split : Process (Option Pid) :=
  .fork .done

/-- Logs an event. -/
def report (event : Event) : Process Unit := ask (.report event)

/-- Writes to an open file; whether that could be done does not matter. -/
def write (descriptor : Descriptor) (bytes : Bytes) : Process Unit := do
  let _ ← ask (.write descriptor bytes)

/-- Writes a text to an open file; whether that could be done does not matter. -/
def writeText (descriptor : Descriptor) (text : String) : Process Unit :=
  write descriptor (Bytes.ofString text)

/-- Chooses what happens on a signal. -/
def react (signal : Signal) (reaction : Reaction) : Process Unit := do
  let _ ← ask (.react signal reaction)

/-- Ends with an exit code. -/
def exit {α : Type} (code : UInt8) : Process α :=
  .call (.exit code) Empty.elim

/-- Never goes on. -/
def stall {α : Type} : Process α :=
  .call .never Empty.elim

end Process

/-- What a program is told when it starts: the name it was called by, its arguments, and its
environment. -/
structure Start where
  name : Bytes
  args : List Bytes
  environment : Environment

/-- A program: the process that it is for every start, which ends with an exit code. -/
abbrev Program := Start → Process UInt8

/-- A process that may fail. -/
abbrev Action := ExceptT Failure Process

end HostnameSandbox

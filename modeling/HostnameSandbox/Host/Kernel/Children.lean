import HostnameSandbox.Host.Kernel.Access

/-!
# Children of processes

How processes create others, turn into other programs, and wait for their children to end.
-/

namespace HostnameSandbox

namespace Kernel

/-- How long it takes until a new process goes on. -/
def birthTime : Nat := 300

/-- What a loaded program is told when it starts. -/
def startOf (environment : Environment) (loaded : Loaded) : Start :=
  ⟨loaded.words.head?.getD [], loaded.words.tail, environment⟩

/-- A program that cannot read its libraries, since it may not open another file. -/
def withoutLibraries : Program := fun start => do
  Process.write Descriptor.error (start.name ++ Bytes.ofString
    (": error while loading shared libraries: libc.so.6: cannot open shared object file: " ++
      "Error 24\n"))
  pure 127

/-- The process with a program that it is about to run, and the environment of that. -/
def starting (kernel : Kernel) (task : Task) (environment : Environment) (loaded : Loaded) :
    Task :=
  let program := match task.free? 0 with
    | .ok _ => loaded.program
    | .error _ => withoutLibraries
  { task with
    privileged := kernel.grantsPrivilege
    name := loaded.name.take nameLimit
    path := loaded.path
    words := loaded.words
    environment
    journal := .closed
    noted := []
    unwritten := []
    clock := kernel.now + birthTime
    process := program (startOf environment loaded) }

/-- The places of the files that somebody may write to. -/
def writtenPlaces (kernel : Kernel) : List Place :=
  kernel.tasks.flatMap fun task =>
    if task.isAlive then
      task.opened.filterMap fun entry => do
        let handle ← kernel.handles[entry.handle]?
        match handle.channel with
        | .file place => if handle.writes then some place else none
        | _ => none
    else []

/-- What a process takes along when it turns into another program. -/
def luggage (kernel : Kernel) (task : Task) (environment : Environment) : Loading.Luggage :=
  ⟨environment.map fun (name, value) => name ++ 0x3D :: value, task.roomForWords,
    kernel.writtenPlaces⟩

/-- The program of a process that is to be created.  Without new namespaces the file itself
has to be a program; with them, a text in no format is handed to the shell. -/
def loadChild (kernel : Kernel) (task : Task) (spawning : Spawning) : Except Errno Loaded :=
  let words := spawning.path :: spawning.args
  let files := kernel.view task
  let luggage := kernel.luggage task task.environment
  if spawning.isolation.hasAny then
    if task.privileged then
      Loading.locate
        (fun path => Loading.loadOrInterpret files luggage task.directory path words)
        task.searchPath spawning.path
    else .error .notPermitted
  else
    Loading.locate (fun path => Loading.load files luggage task.directory path words)
      task.searchPath spawning.path

/-- The open files of a child: the standard ones as it is told, the others as its parent's. -/
def childFiles (kernel : Kernel) (task : Task) (streams : Streams) : List Opened × Kernel :=
  let bindings := [(Descriptor.input, streams.input), (Descriptor.output, streams.output),
    (Descriptor.error, streams.error)]
  let discarded := bindings.filter fun binding => binding.2 = .null
  let inherited := task.lastingFiles.filter fun entry =>
    !discarded.any fun binding => binding.1 = entry.descriptor
  let number := kernel.handles.size
  let handle : Handle := ⟨.null, true, true, false, 0⟩
  (discarded.map (fun binding => ⟨binding.1, number, true⟩) ++ inherited,
    if discarded.isEmpty then kernel else { kernel with handles := kernel.handles.push handle })

/-- Creates a child of a process. -/
def spawn (kernel : Kernel) (task : Task) (spawning : Spawning) : Except Cause Pid × Kernel :=
  if (spawning.path :: spawning.args).any fun word => word.contains 0 then
    (.error .nulByte, kernel)
  else
    match kernel.loadChild task spawning with
    | .error errno => (.error (.numbered errno), kernel)
    | .ok loaded =>
        let (opened, kernel) := kernel.childFiles task spawning.streams
        let (uts, names) :=
          if spawning.isolation.uts then
            (kernel.names.length, kernel.names ++ [kernel.namesFor task])
          else (task.uts, kernel.names)
        let born : Task :=
          { task with
            pid := kernel.nextPid
            parent := task.pid
            uts
            opened
            reactions := spawning.reactions ++ task.survivingReactions.filter fun entry =>
              !spawning.reactions.any fun other => other.1 = entry.1
            waiting := [] }
        let child := kernel.starting born task.environment loaded
        (.ok child.pid,
          { kernel with
            names
            nextPid := kernel.nextPid + 1
            tasks := kernel.tasks ++ [child] })

/-- Lets a process go on as two; tells the number of the child, which does what is given. -/
def fork (kernel : Kernel) (task : Task) (process : Process UInt8) : Pid × Kernel :=
  let child : Task :=
    { task with
      pid := kernel.nextPid
      parent := task.pid
      waiting := []
      noted := []
      clock := kernel.now + birthTime
      process }
  (child.pid, { kernel with nextPid := kernel.nextPid + 1, tasks := kernel.tasks ++ [child] })

/-- Turns a process into another program. -/
def become (kernel : Kernel) (task : Task) (path : Bytes) (words : List Bytes)
    (environment : Environment) : Except Errno Kernel := do
  let loaded ← Loading.load (kernel.view task) (kernel.luggage task environment) task.directory path
    words
  .ok (kernel.modify task.pid fun task =>
    kernel.starting
      { task with opened := task.lastingFiles, reactions := task.survivingReactions }
      environment loaded)

/-- Forgets a process that has ended. -/
def forget (kernel : Kernel) (pid : Pid) : Kernel :=
  { kernel with tasks := kernel.tasks.filter fun task => task.pid != pid }

/-- The first of a process's children that has ended, by the time of its end. -/
def endedChild? (kernel : Kernel) (parent : Pid) : Option (Pid × ExitStatus) :=
  let ended := kernel.tasks.filter fun task => task.parent = parent && !task.isAlive
  let first := ended.foldl
    (fun first task =>
      match first with
      | none => some task
      | some other => if task.clock < other.clock then some task else some other)
    none
  first.bind fun task => task.ending.map fun status => (task.pid, status)

/-- Waits for a certain child of a process. -/
def await (kernel : Kernel) (child : Pid) : Attempt (.await child) :=
  match (kernel.task? child).bind Task.ending with
  | some status => .answered status (kernel.forget child)
  | none => .blocked

/-- Waits for a certain child of a process and for signals.  That the child has ended comes first, and
of the signals the one that was noted first. -/
def select (kernel : Kernel) (task : Task) (child : Pid) (signals : List Signal) :
    Attempt (.select child signals) :=
  match (kernel.task? child).bind Task.ending with
  | some status => .answered (.ended status) (kernel.forget child)
  | none =>
      match task.noted.find? fun signal => signals.contains signal with
      | some signal =>
          .answered (.noted signal) (kernel.modify task.pid fun task =>
            { task with noted := task.noted.filter (· != signal) })
      | none => .blocked

/-- How long it takes a process to end. -/
def endingTime : Nat := 100

/-- Whether a signal has woken a process before a certain child of it came to its end. -/
def isWokenBefore (kernel : Kernel) (task : Task) (child : Pid) : Bool :=
  (task.noted.any fun signal => signal ≠ .childEnded) &&
    (kernel.task? child).any fun child => decide (task.clock < child.clock + endingTime)

/-- Waits for any child of a process. -/
def awaitAny (kernel : Kernel) (task : Task) (patience : Patience) :
    Attempt (.awaitAny patience) :=
  match kernel.endedChild? task.pid with
  | some (child, status) =>
      match patience with
      | .untilSignal =>
          if kernel.isWokenBefore task child then .answered .interrupted kernel
          else .answered (.ended child status) (kernel.forget child)
      | _ => .answered (.ended child status) (kernel.forget child)
  | none =>
      if !kernel.tasks.any fun other => other.parent = task.pid then
        .answered .childless kernel
      else
        match patience with
        | .none => .answered .nothing kernel
        | .untilEnd => .blocked
        | .untilSignal =>
            if task.noted.isEmpty then .blocked else .answered .interrupted kernel

end Kernel

end HostnameSandbox

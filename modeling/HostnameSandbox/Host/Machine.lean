import HostnameSandbox.Host.Run
import HostnameSandbox.Host.Shell
import HostnameSandbox.Host.Utility.Cat
import HostnameSandbox.Host.Utility.Echo
import HostnameSandbox.Host.Utility.Env
import HostnameSandbox.Host.Utility.Hostname
import HostnameSandbox.Host.Utility.More
import HostnameSandbox.Host.Utility.Printf
import HostnameSandbox.Host.Utility.Pwd
import HostnameSandbox.Host.Utility.Sleep
import HostnameSandbox.Host.Utility.Test
import HostnameSandbox.Host.Utility.Uname
import HostnameSandbox.Sandbox

/-!
# A machine

A host with the usual directories and everyday programs, on which the sandbox is installed.
Work is done in one directory; a run starts with given input and empty output.
-/

namespace HostnameSandbox

namespace Machine

/-- The place that a path without links names. -/
def place (path : String) : Place :=
  FileTree.names (Bytes.ofString path)

/-- The mode of a program that everybody may execute. -/
def programMode : Nat := 0o755

/-- The mode of a directory that its owner may change. -/
def directoryMode : Nat := 0o755

/-- The mode of directories that only tell about the system. -/
def tellingMode : Nat := 0o555

/-- The everyday programs. -/
def utilities : List (String × Program) :=
  [("dash", Shell.program), ("true", Utility.succeed), ("false", Utility.fail),
    ("echo", Utility.Echo.program), ("printf", Utility.Printf.program),
    ("cat", Utility.Cat.program), ("sleep", Utility.Sleep.program),
    ("uname", Utility.Uname.program), ("hostname", Utility.Hostname.program),
    ("env", Utility.Env.program), ("more", Utility.More.program), ("pwd", Utility.Pwd.program),
    ("test", Utility.Test.program), ("[", Utility.Test.bracketed)]

/-- The path of the sandbox. -/
def sandboxPath : String := "/opt/sandbox/utsbox"

/-- The directory that work is done in. -/
def workPlace : Place := place "/tmp/work"

/-- The environment of a process, with a log setting or without. -/
def environment (logSetting : Option Bytes) : Environment :=
  let path := Bytes.ofString "/usr/local/sbin:/usr/local/bin:/usr/sbin:/usr/bin:/sbin:/bin"
  (Bytes.ofString "PATH", path) ::
    (logSetting.toList.map fun setting => (Bytes.ofString Sandbox.logVariable, setting)) ++
    [(Bytes.ofString "NO_COLOR", Bytes.ofString "1")]

/-- The directories of the system. -/
def systemDirectories : List String :=
  ["/usr", "/usr/bin", "/usr/sbin", "/usr/lib", "/usr/lib64", "/usr/share", "/usr/local",
    "/usr/local/bin", "/usr/local/sbin", "/etc", "/dev", "/opt", "/opt/sandbox", "/home", "/var",
    "/boot", "/media", "/mnt", "/run", "/srv", "/var/tmp"]

/-- The directories in which the system tells about itself. -/
def tellingDirectories : List String := ["/proc", "/proc/sys", "/proc/sys/kernel", "/sys"]

/-- The links that every machine has. -/
def systemLinks : List (String × String) :=
  [("/bin", "usr/bin"), ("/sbin", "usr/sbin"), ("/lib", "usr/lib"), ("/lib64", "usr/lib64"),
    ("/usr/bin/sh", "dash"),
    ("/dev/stdin", "/proc/self/fd/0"), ("/dev/stdout", "/proc/self/fd/1"),
    ("/dev/stderr", "/proc/self/fd/2"), ("/dev/fd", "/proc/self/fd")]

/-- The users that every machine has. -/
def users : List String :=
  let others := [("daemon", 1, 1, "daemon", "/usr/sbin"), ("bin", 2, 2, "bin", "/bin"),
    ("sys", 3, 3, "sys", "/dev")]
  let later := [("games", 5, 60, "games", "/usr/games"), ("man", 6, 12, "man", "/var/cache/man"),
    ("lp", 7, 7, "lp", "/var/spool/lpd"), ("mail", 8, 8, "mail", "/var/mail"),
    ("news", 9, 9, "news", "/var/spool/news"), ("uucp", 10, 10, "uucp", "/var/spool/uucp"),
    ("proxy", 13, 13, "proxy", "/bin"), ("www-data", 33, 33, "www-data", "/var/www"),
    ("backup", 34, 34, "backup", "/var/backups"),
    ("list", 38, 38, "Mailing List Manager", "/var/list"), ("irc", 39, 39, "ircd", "/run/ircd"),
    ("_apt", 42, 65534, "", "/nonexistent"), ("nobody", 65534, 65534, "nobody", "/nonexistent")]
  let line (user : String × Nat × Nat × String × String) : String :=
    ":".intercalate [user.1, "x", toString user.2.1, toString user.2.2.1, user.2.2.2.1,
      user.2.2.2.2, "/usr/sbin/nologin"] ++ "\n"
  "root:x:0:0:root:/root:/bin/bash\n" :: others.map line ++
    "sync:x:4:65534:sync:/bin:/bin/sync\n" :: later.map line

/-- The files in which the system tells about itself. -/
def systemFacts : List (Place × Node) :=
  (place "/proc/version", Node.device (.fact .edition)) ::
  [SystemFact.hostname, .domain, .system, .release, .version].map fun fact =>
    (place ("/proc/sys/kernel/" ++ fact.fileName), Node.device (.fact fact))

/-- The devices that every machine has. -/
def devices : List (String × Channel) :=
  [("null", .null), ("zero", .zero), ("full", .full), ("random", .zero), ("urandom", .zero),
    ("tty", .terminal)]

/-- The files that every machine has. -/
def standardFiles : FileTree where
  entries :=
    (utilities.map fun (name, program) =>
      (place ("/usr/bin/" ++ name), Node.file programMode (.program program))) ++
    (systemDirectories.map fun path => (place path, Node.directory directoryMode)) ++
    (tellingDirectories.map fun path => (place path, Node.directory tellingMode)) ++
    (systemLinks.map fun (path, target) => (place path, Node.link (Bytes.ofString target))) ++
    (devices.map fun (name, channel) => (place ("/dev/" ++ name), .device channel)) ++
    systemFacts ++
    [(place "/root", .directory 0o700), (place "/tmp", .directory 0o1777),
      (workPlace, .directory directoryMode),
      (place "/etc/passwd", .file 0o644 (.text (.ofBytes (Bytes.ofString (String.join users))))),
      (place sandboxPath, .file programMode (.program Sandbox.program))]

/-- The stores behind the standard streams: given input, and room for output. -/
def standardStores (input : Bytes) : Array Data := #[.ofBytes input, .none, .none]

/-- The open files behind the standard streams; `store` is the number of the first store. -/
def standardHandles (store : Nat) : Array Handle :=
  #[store, store + 1, store + 2].map fun number => ⟨.store number, true, true, false, 0⟩

/-- The standard streams of a process; `handle` is the number of the first open file. -/
def standardFilesFrom (handle : Nat) : List Opened :=
  [⟨Descriptor.input, handle, true⟩, ⟨Descriptor.output, handle + 1, true⟩,
    ⟨Descriptor.error, handle + 2, true⟩]

/-- The number of the process that work is done by. -/
def workerPid : Pid := 100

/-- The limits of a process that has not changed them. -/
def limits : Limits :=
  [(.time, .none), (.fileSize, .none), (.data, .none), (.stack, ⟨none, some 8388608⟩),
    (.crash, ⟨none, some 0⟩), (.resident, .none), (.processes, .both 128620), (.files, .both 20000),
    (.locked, .both 8388608), (.memory, .none), (.locks, .none), (.signals, .both 128620),
    (.messages, .both 819200), (.niceness, .both 0), (.priority, .both 0), (.stretch, .none)]

/-- The process that work is done by, before its first run. -/
def worker (privileged : Bool) : Task where
  pid := workerPid
  parent := 99
  uts := 0
  privileged := privileged
  name := Bytes.ofString "worker"
  path := Bytes.ofString sandboxPath
  words := [Bytes.ofString "worker"]
  environment := environment (some (Bytes.ofString "off"))
  directory := workPlace
  mask := 0o022
  limits := limits
  opened := standardFilesFrom 0
  journal := .kept
  reactions := Sandbox.reactions
  held := []
  waiting := []
  noted := []
  stopped := false
  unwritten := []
  ending := none
  clock := 0
  process := .done 0

/-- The time that log lines begin with. -/
def stamp : String := "2026-01-01T00:00:00.000000Z"

/-- The host name of the machine. -/
def hostname : Bytes := Bytes.ofString "vm"

/-- A machine with files in the directory that work is done in.  `privileged` tells whether its
processes may change namespaces and host names. -/
def boot (privileged : Bool) (files : List (Bytes × Node)) : Kernel where
  names := [⟨hostname, Bytes.ofString Edition.domain⟩]
  nextPid := workerPid + 1
  files := files.foldl
    (fun tree (name, node) => tree.insert (workPlace ++ FileTree.names name) node) standardFiles
  changes := (workPlace :: files.map fun entry => workPlace ++ FileTree.names entry.1).map fun place =>
    (place, 1)
  grantsPrivilege := privileged
  bystanders := [(99, 0), (1, 0)]
  hidden := if privileged then [] else [1]
  stores := standardStores []
  pipes := #[]
  handles := standardHandles 0
  stamp := stamp
  events := []
  worker := workerPid
  tasks := [worker privileged]
  now := 0

/-- The machine with new input, empty output, and no events kept.  Processes that earlier runs have
left behind go on with the streams that they have. -/
def refresh (kernel : Kernel) (input : Bytes) : Kernel :=
  let fresh := { kernel with
    stores := kernel.stores ++ standardStores input
    handles := kernel.handles ++ standardHandles kernel.stores.size
    events := [] }
  fresh.modify kernel.worker fun task =>
    { task with opened := standardFilesFrom kernel.handles.size }

/-- What has been written to standard output, whose store is the last but one. -/
def output (kernel : Kernel) : Bytes :=
  (kernel.contents (.store (kernel.stores.size - 2))).toBytes

/-- What has been written to standard error, whose store is the last. -/
def errorOutput (kernel : Kernel) : Bytes :=
  (kernel.contents (.store (kernel.stores.size - 1))).toBytes

/-- How many steps a run may take. -/
def stepLimit : Nat := 20000000

/-- Runs an action to its end. -/
def perform {α : Type} (action : Action α) (kernel : Kernel) :
    Option (Ending (Except Failure α) × Kernel) :=
  kernel.run stepLimit action.run

/-- Runs the sandbox as a child, with a log setting in its environment. -/
def runSandbox (args : List Bytes) (logSetting : Option Bytes) (kernel : Kernel) :
    Option (ExitStatus × Kernel) :=
  let process : Process (Except Cause ExitStatus) := do
    match (← Process.ask (.spawn ⟨Bytes.ofString sandboxPath, args, .inherited, .none,
        startingReactions .none⟩) : Except Cause Pid) with
    | .error cause => pure (.error cause)
    | .ok child =>
        let status : ExitStatus ← Process.ask (.await child)
        pure (.ok status)
  let kernel := kernel.modify kernel.worker fun task =>
    { task with environment := environment logSetting }
  match kernel.run stepLimit process with
  | some (.value (.ok status), kernel) => some (status, kernel)
  | _ => none

end Machine

end HostnameSandbox

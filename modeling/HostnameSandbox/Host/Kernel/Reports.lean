import HostnameSandbox.Host.Edition
import HostnameSandbox.Host.Kernel

/-!
# Reports of the kernel

The kernel tells about itself and about the processes in files.  They are there for every process
that has not been forgotten, and tell what holds when they are read.
-/

namespace HostnameSandbox

namespace Kernel

/-! ### What is told -/

/-- The letter and the word for what a process is doing, as another or the process itself sees
it. -/
def activity (task : Task) (isReader : Bool) : String × String :=
  if !task.isAlive then ("Z", "zombie")
  else if task.stopped then ("T", "stopped")
  else if isReader then ("R", "running")
  else ("S", "sleeping")

/-- Signals as the bits of a number. -/
def signalBits (signals : List Signal) : Nat :=
  signals.foldl (fun bits signal => bits ||| Nat.pow 2 (signal.number - 1)) 0

/-- The signals about which a process does something. -/
def signalsWith (task : Task) (reaction : Reaction) : List Signal :=
  (task.reactions.filter fun entry => entry.2 = reaction).map Prod.fst

/-- The digits of a number in base sixteen, filled up to sixteen. -/
def sixteenDigits (number : Nat) : String :=
  let digits := Nat.toDigits 16 number
  String.ofList (List.replicate (16 - digits.length) '0' ++ digits)

/-- The processes of a host form one group, led by the one that started the worker. -/
def group : Nat := 99

/-- What is told about a process on one line: fields that are numbers, apart from the first ones. -/
def line (task : Task) (isReader : Bool) : Bytes :=
  let bits (signals : List Signal) : String := toString (signalBits signals % Nat.pow 2 31)
  let fields : List String :=
    [(activity task isReader).1, toString task.parent, toString group, toString group, "0", "-1",
      "4194304", "100", "0", "0", "0", "0", "0", "0", "0", "20", "0", "1", "0", "1000", "2654208",
      "400", "18446744073709551615", "1", "1", "0", "0", "0", bits task.waiting, bits task.held,
      bits (signalsWith task .ignored), bits (signalsWith task .caught), "0", "0", "0", "17", "0",
      "0", "0", "0", "0", "0", "0", "0", "0", "0", "0", "0", "0", "0"]
  Bytes.ofString (toString task.pid ++ " (") ++ task.name ++
    Bytes.ofString (") " ++ " ".intercalate fields ++ "\n")

/-- What is told about a process on lines with names. -/
def summary (task : Task) (isReader : Bool) : Bytes :=
  let (letter, word) := activity task isReader
  let pid := toString task.pid
  let mask := Nat.toDigits 8 task.mask
  let bits (signals : List Signal) : String := sixteenDigits (signalBits signals)
  let lines : List (String × String) :=
    [("Umask", String.ofList (List.replicate (4 - mask.length) '0' ++ mask)),
      ("State", letter ++ " (" ++ word ++ ")"), ("Tgid", pid), ("Ngid", "0"), ("Pid", pid),
      ("PPid", toString task.parent), ("TracerPid", "0"), ("Uid", "0\t0\t0\t0"),
      ("Gid", "0\t0\t0\t0"), ("FDSize", "64"), ("Groups", "0 "), ("NStgid", pid),
      ("NSpid", pid), ("NSpgid", toString group), ("NSsid", toString group), ("Kthread", "0"),
      ("VmPeak", "    2848 kB"), ("VmSize", "    2848 kB"), ("VmLck", "       0 kB"),
      ("VmPin", "       0 kB"), ("VmHWM", "    1636 kB"), ("VmRSS", "    1636 kB"),
      ("RssAnon", "     100 kB"), ("RssFile", "    1536 kB"), ("RssShmem", "       0 kB"),
      ("VmData", "     360 kB"), ("VmStk", "     132 kB"), ("VmExe", "      20 kB"),
      ("VmLib", "    1748 kB"), ("VmPTE", "      44 kB"), ("VmSwap", "       0 kB"),
      ("HugetlbPages", "       0 kB"), ("CoreDumping", "0"), ("THP_enabled", "1"),
      ("untag_mask", "0xffffffffffffffff"), ("Threads", "1"), ("SigQ", "0/128620"),
      ("SigPnd", bits []), ("ShdPnd", bits task.waiting), ("SigBlk", bits task.held),
      ("SigIgn", bits (signalsWith task .ignored)), ("SigCgt", bits (signalsWith task .caught)),
      ("CapInh", bits []), ("CapPrm", bits []), ("CapEff", bits []), ("CapBnd", bits []),
      ("CapAmb", bits []), ("NoNewPrivs", "0"), ("Seccomp", "0"), ("Seccomp_filters", "0"),
      ("Speculation_Store_Bypass", "vulnerable"),
      ("SpeculationIndirectBranch", "always enabled"), ("Cpus_allowed", "f"),
      ("Cpus_allowed_list", "0-3"), ("Mems_allowed_list", "0"), ("voluntary_ctxt_switches", "1"),
      ("nonvoluntary_ctxt_switches", "0")]
  Bytes.ofString "Name:\t" ++ task.name ++ Bytes.ofString "\n" ++
    lines.flatMap fun (name, value) => Bytes.ofString (name ++ ":\t" ++ value ++ "\n")

/-- The resources, with their names and units. -/
def resourceNames : List (Resource × String × String) :=
  [(.time, "cpu time", "seconds"), (.fileSize, "file size", "bytes"),
    (.data, "data size", "bytes"), (.stack, "stack size", "bytes"),
    (.crash, "core file size", "bytes"), (.resident, "resident set", "bytes"),
    (.processes, "processes", "processes"), (.files, "open files", "files"),
    (.locked, "locked memory", "bytes"), (.memory, "address space", "bytes"),
    (.locks, "file locks", "locks"), (.signals, "pending signals", "signals"),
    (.messages, "msgqueue size", "bytes"), (.niceness, "nice priority", ""),
    (.priority, "realtime priority", ""), (.stretch, "realtime timeout", "us")]

/-- A text with blanks behind it up to a width. -/
def column (width : Nat) (text : String) : String :=
  text ++ String.ofList (List.replicate (width - text.length) ' ')

/-- The limits of a process, as a table. -/
def limitsTable (limits : Limits) : Bytes :=
  let row (name soft hard unit : String) : Bytes :=
    Bytes.ofString (column 26 name ++ column 21 soft ++ column 21 hard ++
      (if unit.isEmpty then "" else column 10 unit) ++ "\n")
  let amount (amount : Option Nat) : String := amount.elim "unlimited" toString
  row "Limit" "Soft Limit" "Hard Limit" "Units" ++
    resourceNames.flatMap fun (resource, name, unit) =>
      let limit := limits.find resource
      row ("Max " ++ name) (amount limit.soft) (amount limit.hard) unit

/-- The files with what is the same for all processes. -/
def commonFiles : List (String × String) :=
  let identities := "         0          0 4294967295\n"
  [("coredump_filter", "00000033\n"), ("cpuset", "/\n"), ("gid_map", identities),
    ("loginuid", "4294967295"), ("oom_adj", "0\n"), ("oom_score_adj", "0\n"),
    ("personality", "00000000\n"), ("projid_map", identities), ("sessionid", "4294967295"),
    ("setgroups", "allow\n"), ("timerslack_ns", "50000\n"), ("uid_map", identities)]

/-- What is told about a process. -/
def report (task : Task) (isReader : Bool) : Topic → Bytes
  | .words => if task.isAlive then task.words.flatMap (· ++ [0]) else []
  | .environment =>
      if task.isAlive then
        task.environment.flatMap fun (name, value) => name ++ 0x3D :: value ++ [0]
      else []
  | .name => task.name ++ [0x0A]
  | .line => line task isReader
  | .summary => summary task isReader
  | .limits => limitsTable task.limits
  | .common file =>
      Bytes.ofString (((commonFiles.find? fun entry => entry.1 = file).map Prod.snd).getD "")

/-- What is told about the system to a process. -/
def systemFact (kernel : Kernel) (task : Task) : SystemFact → Bytes
  | .hostname => kernel.hostnameFor task ++ [0x0A]
  | .domain => (kernel.namesFor task).domain ++ [0x0A]
  | .system => Bytes.ofString (Edition.system ++ "\n")
  | .release => Bytes.ofString (Edition.release ++ "\n")
  | .version => Bytes.ofString (Edition.version ++ "\n")
  | .edition => Bytes.ofString (Edition.whole ++ "\n")

/-! ### Where it is told -/

/-- The place of what tells about a process. -/
def processPlace (pid : Pid) : Place :=
  [Bytes.ofString "proc", Bytes.ofString (toString pid)]

/-- The files that tell about a process, by their names. -/
def topics : List (Bytes × Topic) :=
  let own : List Topic := [.words, .environment, .name, .line, .summary, .limits]
  let common : List Topic := commonFiles.map fun entry => Topic.common entry.1
  (own ++ common).map fun (topic : Topic) => (Bytes.ofString topic.fileName, topic)

/-- The kinds of namespaces, other than that of host names. -/
def namespaceKinds : List Bytes :=
  ["cgroup", "ipc", "mnt", "net", "pid", "pid_for_children", "time", "time_for_children",
    "user"].map Bytes.ofString

/-- What tells about a process. -/
def processEntries (kernel : Kernel) (task : Task) : List (Place × Node) :=
  let origin := processPlace task.pid
  let inside (name : String) : Place := origin ++ [Bytes.ofString name]
  let uts := Bytes.ofString "uts"
  [(origin, .directory 0o555), (inside "fd", .directory 0o500), (inside "ns", .directory 0o511),
    (inside "task", .directory 0o555),
    (inside "task" ++ [Bytes.ofString (toString task.pid)], .link (Bytes.ofString "..")),
    (inside "exe", .link task.path), (inside "root", .link [FileTree.slash]),
    (inside "cwd", .link (FileTree.pathOf task.directory)),
    (inside "ns" ++ [uts], .device (.space uts task.uts))] ++
  (namespaceKinds.map fun kind => (inside "ns" ++ [kind], .device (.space kind 0))) ++
  (topics.map fun (name, topic) => (origin ++ [name], .device (.report task.pid topic))) ++
  task.opened.filterMap fun entry =>
    (kernel.handles[entry.handle]?).map fun handle =>
      (inside "fd" ++ [Bytes.ofString (toString entry.descriptor)], .device handle.channel)

/-- What tells a process about itself and all others. -/
def reportEntries (kernel : Kernel) (task : Task) : List (Place × Node) :=
  let inside (name : String) : Place := [Bytes.ofString "proc", Bytes.ofString name]
  let pid := toString task.pid
  (inside "self", .link (Bytes.ofString pid)) ::
    (inside "thread-self", .link (Bytes.ofString (pid ++ "/task/" ++ pid))) ::
    (kernel.bystanders.map fun (pid, _) => (processPlace pid, .directory 0o555)) ++
    kernel.tasks.flatMap kernel.processEntries

/-- The files as a process sees them, with what tells about processes. -/
def view (kernel : Kernel) (task : Task) : FileTree :=
  ⟨kernel.files.entries ++ kernel.reportEntries task⟩

/-- The files after a process has changed what it sees of them. -/
def changed (kernel : Kernel) (tree : FileTree) : FileTree :=
  let shown := kernel.members.map fun member => processPlace member.1
  let own : List Place := ["self", "thread-self"].map fun name =>
    [Bytes.ofString "proc", Bytes.ofString name]
  ⟨tree.entries.filter fun entry =>
    !own.contains entry.1 && !shown.any fun place => place.isPrefixOf entry.1⟩

end Kernel

end HostnameSandbox

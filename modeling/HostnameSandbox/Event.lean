import HostnameSandbox.Cause
import HostnameSandbox.Hostname
import HostnameSandbox.Invocation
import HostnameSandbox.Isolation
import HostnameSandbox.Membership
import HostnameSandbox.Signal

/-!
# Events

What the stages say about a run while it goes on.  An event is stated by its meaning; its
level, its text and its fields follow from that.
-/

namespace HostnameSandbox

/-- How much an event matters. -/
inductive Level where
  | error
  | warn
  | info
  | debug
deriving DecidableEq, Repr

namespace Level

/-- The name of a level. -/
def name : Level → String
  | .error => "ERROR"
  | .warn => "WARN"
  | .info => "INFO"
  | .debug => "DEBUG"

/-- How much must be logged for a level to show: 1 shows errors only. -/
def detail : Level → Nat
  | .error => 1
  | .warn => 2
  | .info => 3
  | .debug => 4

end Level

/-- Something that a stage does, or that happens to it. -/
inductive Event where
  /-- An invocation goes to its stage. -/
  | dispatching (stage : Stage) (command : Command)
  /-- The outer stage starts. -/
  | launching (command : Command)
  /-- The child is to get namespaces of its own. -/
  | requesting (isolation : Isolation)
  /-- The program has been started again as a child. -/
  | relaunched (program : String) (child : Pid)
  /-- The inner stage starts. -/
  | initializing (command : Command)
  /-- The inner stage is in its parent's namespace. -/
  | sharing (uts : String) (parent : Pid)
  /-- The inner stage is in a namespace of its own. -/
  | fresh (uts : String) (parentUts : String)
  /-- The namespace is about to be named. -/
  | naming (hostname : Hostname)
  /-- The kernel refused the name. -/
  | namingRefused (hostname : Hostname) (errno : Errno)
  /-- The command is about to be started. -/
  | executing (command : Command)
  /-- A child has been started and is waited for. -/
  | waiting (program : String) (child : Pid)
  /-- A signal has been caught and is passed on. -/
  | relaying (signal : Signal) (child : Pid)
  /-- The signal could not be passed on. -/
  | relayFailed (errno : Errno)
  /-- The child ended by itself. -/
  | exited (program : String) (code : UInt8)
  /-- The child was ended by a signal. -/
  | killed (program : String) (signal : Signal)
deriving DecidableEq

/-- A named value that belongs to an event.  A `quoted` one is put into quotes in a log line. -/
structure Event.Field where
  name : String
  text : String
  quoted : Bool := false
deriving DecidableEq, Repr

namespace Event

/-- How much an event matters. -/
def level : Event → Level
  | .sharing _ _ | .namingRefused _ _ => .error
  | .relaying _ _ | .killed _ _ => .warn
  | .launching _ | .initializing _ | .executing _ => .info
  | .dispatching _ _ | .requesting _ | .relaunched _ _ | .fresh _ _ | .naming _
  | .waiting _ _ | .relayFailed _ | .exited _ _ => .debug

/-- The component that an event comes from, by which log settings select it. -/
def target : Event → String
  | .dispatching _ _ => "utsbox::dispatch"
  | .launching _ | .requesting _ | .relaunched _ _ => "utsbox_namespace::launcher"
  | .initializing _ | .sharing _ _ | .fresh _ _ | .naming _ | .namingRefused _ _ =>
      "utsbox_namespace::initializer"
  | .executing _ | .waiting _ _ | .relaying _ _ | .relayFailed _ | .exited _ _ | .killed _ _ =>
      "utsbox_namespace::executor"

/-- What a reader is told. -/
def message : Event → String
  | .dispatching _ _ => "Dispatching"
  | .launching command => "📦 Running " ++ command.display
  | .requesting _ => "Requesting namespaces for child"
  | .relaunched _ _ => "Re-executed into new namespace"
  | .initializing command => "🔒 Running in new UTS namespace: " ++ command.display
  | .sharing _ _ => "Inner stage is sharing its parent's UTS namespace"
  | .fresh _ _ => "Fresh UTS namespace confirmed"
  | .naming _ => "Setting hostname"
  | .namingRefused _ _ => "Failed to set hostname"
  | .executing command => "🚀 Executing command: " ++ command.display
  | .waiting _ _ => "Waiting for child to exit"
  | .relaying signal child =>
      "Received " ++ signal.name ++ ", forwarding to child (PID " ++ toString child ++ ")"
  | .relayFailed _ => "Could not forward signal"
  | .exited _ _ => "Child exited"
  | .killed _ _ => "Child terminated by signal"

/-- A list of words in brackets, each in quotes. -/
private def bracketed (words : List String) : String :=
  "[" ++ ", ".intercalate (words.map fun word => "\"" ++ word ++ "\"") ++ "]"

/-- The values that belong to an event, in the order in which they are shown. -/
def fields : Event → List Field
  | .dispatching stage command => [⟨"mode", stage.word, false⟩, ⟨"command", command.display, false⟩]
  | .requesting isolation => [⟨"namespaces", bracketed isolation.names, false⟩]
  | .relaunched program child =>
      [⟨"program", program, false⟩, ⟨"pid", "Some(" ++ toString child ++ ")", false⟩]
  | .sharing uts parent => [⟨"namespace", uts, false⟩, ⟨"parent", toString parent, false⟩]
  | .fresh uts parentUts => [⟨"namespace", uts, false⟩, ⟨"parent", parentUts, false⟩]
  | .naming hostname => [⟨"hostname", hostname.text, false⟩]
  | .namingRefused hostname errno =>
      [⟨"hostname", hostname.text, false⟩, ⟨"error", errno.described, false⟩]
  | .waiting program child =>
      [⟨"program", program, true⟩, ⟨"pid", "Some(Pid(" ++ toString child ++ "))", false⟩]
  | .relayFailed errno => [⟨"error", errno.described, false⟩]
  | .exited program code => [⟨"program", program, true⟩, ⟨"code", toString code.toNat, false⟩]
  | .killed program signal =>
      [⟨"program", program, true⟩, ⟨"signal", toString signal.number, false⟩]
  | .launching _ | .initializing _ | .executing _ | .relaying _ _ => []

end Event

end HostnameSandbox

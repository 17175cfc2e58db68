import HostnameSandbox.Runner
import HostnameSandbox.Text.Quoted

/-!
# The inner stage

The inner stage is entered only through the outer one, which has created a UTS namespace for
it.  It touches the host name only after it has seen that its namespace is not its parent's, so
that the stage, called directly by a process of the host's namespace, cannot rename the host.
-/

namespace HostnameSandbox

namespace Membership

/-- The namespace membership of a process. -/
def ofPid (pid : Pid) : Action Membership := do
  match ← Process.ask (.namespaceOf pid) with
  | .error errno => throw (.namespaceSetup (.unreadable pid (.numbered errno)))
  | .ok uts => pure ⟨pid, uts⟩

/-- The namespace membership of this process. -/
def own : Action Membership := do
  ofPid (← Process.ask .ownPid)

/-- The namespace membership of the parent process. -/
def ofParent : Action Membership := do
  ofPid (← Process.ask .parentPid)

end Membership

/-- Fails unless this process is in another UTS namespace than its parent. -/
def ensureFreshNamespace : Action Unit := do
  let own ← Membership.own
  let parent ← Membership.ofParent
  if own.sharesWith parent then
    Process.report (.sharing own.uts parent.pid)
    throw (.namespaceSetup (.shared own.uts parent.pid))
  else
    Process.report (.fresh own.uts parent.uts)

/-- How a command is run in a namespace of its own. -/
structure InnerStage where
  hostname : Hostname
  runner : Runner
deriving DecidableEq

namespace InnerStage

/-- Gives the namespace a name and runs commands on the caller's own streams. -/
def new (hostname : Hostname) : InnerStage := ⟨hostname, .inherited⟩

/-- The stage with another way to run commands. -/
def withRunner (stage : InnerStage) (runner : Runner) : InnerStage :=
  { stage with runner }

/-- The stage that gives the marker name. -/
def standard : InnerStage := new .marker

/-- Gives the namespace its host name. -/
def nameNamespace (stage : InnerStage) : Action Unit := do
  Process.report (.naming stage.hostname)
  match ← Process.ask (.setHostname (Bytes.ofString stage.hostname.text)) with
  | .ok () => pure ()
  | .error errno =>
      Process.report (.namingRefused stage.hostname errno)
      throw (.namespaceSetup (.refused errno))

/-- Sets the namespace up and runs a command in it until it ends. -/
def run (stage : InnerStage) (command : Command) : Action UInt8 := do
  Process.report (.initializing command)
  ensureFreshNamespace
  stage.nameNamespace
  stage.runner.execute command

/-- How a stage describes itself. -/
def describe (stage : InnerStage) : String :=
  "NamespaceInitializer \x7b identity: NamespaceIdentity(" ++ quoted stage.hostname.text ++
    "), executor: " ++ stage.runner.describe ++ " \x7d"

end InnerStage

end HostnameSandbox

import HostnameSandbox.Runner
import HostnameSandbox.Text.Quoted

/-!
# The outer stage

The outer stage starts the program again as its inner stage, in namespaces created for it
between the birth of the child and the start of the program in it, and waits for it.
-/

namespace HostnameSandbox

/-- Where the program to start again is found. -/
inductive Executable where
  /-- The program that is running. -/
  | running
  /-- The program at a path. -/
  | path (path : Bytes)
  /-- No path can be told. -/
  | unresolvable (cause : Cause)
deriving DecidableEq, Repr

namespace Executable

/-- The path of the program to start again. -/
def resolve : Executable → Process (Except Cause Bytes)
  | .running => Process.ask .ownPath
  | .path place => pure (.ok place)
  | .unresolvable cause => pure (.error cause)

/-- How the place of a program is written in a description of its owner. -/
def describe : Executable → String
  | .running => "SelfExecutable"
  | .path place => quoted place.lossy
  | .unresolvable cause => quoted cause.text

end Executable

/-- How the program is started again. -/
structure OuterStage where
  executable : Executable
  isolation : Isolation
  streams : Streams
  verbose : Bool
deriving DecidableEq, Repr

namespace OuterStage

/-- Starts a program in a new UTS namespace on the caller's own streams, without verbosity. -/
def new (executable : Executable) : OuterStage :=
  ⟨executable, .standard, .inherited, false⟩

/-- Starts the program that is running. -/
def ofRunning : OuterStage := new .running

/-- The stage with other namespaces for the child. -/
def withIsolation (stage : OuterStage) (isolation : Isolation) : OuterStage :=
  { stage with isolation }

/-- The stage with other connections of the child's streams. -/
def withStreams (stage : OuterStage) (streams : Streams) : OuterStage :=
  { stage with streams }

/-- The stage with or without verbosity passed on to the inner stage. -/
def withVerbose (stage : OuterStage) (verbose : Bool) : OuterStage :=
  { stage with verbose }

/-- The short flag that asks for verbosity. -/
def verboseWord : Bytes := Bytes.ofString "-v"

/-- The arguments by which the program plays its inner stage for a command. -/
def arguments (stage : OuterStage) (command : Command) : List Bytes :=
  (if stage.verbose then [verboseWord] else []) ++
    Bytes.ofString Stage.inner.word :: command.words

/-- Starts the program again as its inner stage and waits for it. -/
def run (stage : OuterStage) (command : Command) : Action UInt8 := do
  Process.report (.launching command)
  match ← stage.executable.resolve with
  | .error cause => throw (.launch "current executable" cause)
  | .ok path =>
      let label := path.lossy
      Relay.listen
      if stage.isolation.hasAny then
        Process.report (.requesting stage.isolation)
      match ← Process.ask (.spawn ⟨path, stage.arguments command, stage.streams,
          stage.isolation, startingReactions stage.isolation⟩) with
      | .error cause => throw (.launch label cause)
      | .ok child =>
          Process.report (.relaunched label child)
          awaitChild child label

/-- How a stage describes itself. -/
def describe (stage : OuterStage) : String :=
  "Launcher \x7b executable: " ++ stage.executable.describe ++
    ", isolation: " ++ stage.isolation.describe ++
    ", streams: " ++ stage.streams.describe ++
    ", verbose: " ++ (if stage.verbose then "true" else "false") ++ " \x7d"

end OuterStage

end HostnameSandbox

import HostnameSandbox.Process

/-!
# Running a command

Both stages start exactly one child and wait for it.  A termination or hangup that reaches a
waiting stage is passed to the child, so that ending the stage does not leave the command
running.  Listening begins before the child exists, so that a signal in between is not lost.
-/

namespace HostnameSandbox

namespace Relay

/-- The signals that are passed on to a child. -/
def signals : List Signal := [.terminate, .hangup]

/-- Starts to note the signals that are passed on. -/
def listen : Process Unit :=
  signals.forM fun signal => Process.react signal .caught

/-- Passes a signal on to a child; that the child is not there any more does not matter. -/
def forward (child : Pid) (signal : Signal) : Turn Unit := do
  Turn.report (.relaying signal child)
  match ← Turn.ask (.send child signal) with
  | .ok () => pure ()
  | .error errno => Turn.report (.relayFailed errno)

/-- One turn of waiting for a child: it comes to how the child ended, or passes a signal on. -/
def turn (child : Pid) : Turn (Option ExitStatus) := do
  match ← Turn.ask (.select child signals) with
  | .ended status => pure (some status)
  | .noted signal => do
      forward child signal
      pure none

end Relay

/-- What a child does about signals at first: a broken pipe ends it as usual, although the
program itself ignores those.  A child that is created in its parent's namespaces ignores the
signals that the C library keeps for itself. -/
def startingReactions (isolation : Isolation) : List (Signal × Reaction) :=
  (Signal.brokenPipe, .standard) ::
    if isolation.hasAny then [] else Signal.reserved.map fun signal => (signal, .ignored)

/-- Reports how a child ended, and takes over its exit code. -/
def conclude (label : String) : ExitStatus → Action UInt8
  | .exited code => do
      Process.report (.exited label code)
      pure code
  | .killed signal => do
      Process.report (.killed label signal)
      throw (.runtime label signal.number)

/-- Waits until a child has ended, passing signals on.  `label` is what the child is called. -/
def awaitChild (child : Pid) (label : String) : Action UInt8 := do
  Process.report (.waiting label child)
  let status ← Process.untilStatus (Relay.turn child)
  conclude label status

/-- Runs commands with given connections of their standard streams. -/
structure Runner where
  streams : Streams
deriving DecidableEq, Repr

namespace Runner

/-- Runs commands on the caller's own streams. -/
def inherited : Runner := ⟨.inherited⟩

/-- Runs a command until it ends, in the namespaces that the caller is in. -/
def execute (runner : Runner) (command : Command) : Action UInt8 := do
  Process.report (.executing command)
  let label := command.program.lossy
  Relay.listen
  match ← Process.ask (.spawn ⟨command.program, command.args, runner.streams, .none,
      startingReactions .none⟩) with
  | .error cause => throw (.spawn label cause)
  | .ok child => awaitChild child label

/-- Runs a program on the caller's own streams until it ends, where `pending` reaches the
caller after it has begun to listen and before the child exists.  `label` is what the child is
called. -/
def watch (pending : Option Signal) (program : Bytes) (args : List Bytes) (label : String) :
    Action UInt8 := do
  Relay.listen
  match pending with
  | none => pure ()
  | some signal =>
      let own : Pid ← Process.ask .ownPid
      let _ : Except Errno Unit ← Process.ask (.send own signal)
  match ← Process.ask (.spawn ⟨program, args, .inherited, .none, startingReactions .none⟩) with
  | .error cause => throw (.io cause)
  | .ok child => awaitChild child label

/-- How a runner describes itself. -/
def describe (runner : Runner) : String :=
  "ProcessExecutor \x7b streams: " ++ runner.streams.describe ++ " \x7d"

end Runner

end HostnameSandbox

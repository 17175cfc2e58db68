import HostnameSandbox.CommandLine
import HostnameSandbox.InnerStage
import HostnameSandbox.OuterStage

/-!
# The program

The program reads its command line, opens its log, and plays the stage that was asked for.
How that ends becomes its exit code; a failure is told on standard error.
-/

namespace HostnameSandbox

/-- Plays the stage of an invocation. -/
def Invocation.run (invocation : Invocation) (verbose : Bool) : Action UInt8 := do
  Process.report (.dispatching invocation.stage invocation.command)
  match invocation.stage with
  | .outer => (OuterStage.ofRunning.withVerbose verbose).run invocation.command
  | .inner => InnerStage.standard.run invocation.command

namespace Sandbox

/-- The line that tells a user about a failure. -/
def diagnostic (failure : Failure) : String :=
  "❌ Error: " ++ failure.message ++ "\n"

/-- Turns the end of a run into an exit code. -/
def finish : Except Failure UInt8 → Process UInt8
  | .ok code => pure code
  | .error failure => do
      Process.writeText Descriptor.error (diagnostic failure)
      pure (exitCodeOf failure.exitCode)

/-- The variable of the environment that holds the log setting. -/
def logVariable : String := "RUST_LOG"

/-- What the program does about signals from its start on: that nobody reads what it writes is
told by the write itself, and a fault that some process only claims is passed over once. -/
def reactions : List (Signal × Reaction) :=
  [(.brokenPipe, .ignored), (.busError, .ignoredOnce), (.segmentFault, .ignoredOnce)]

/-- Carries out a request. -/
def serve (request : CommandLine.Request) : Action UInt8 := do
  match request.invocation with
  | .error failure => throw failure
  | .ok invocation => invocation.run request.verbose

/-- The program itself. -/
def program : Program := fun start => do
  reactions.forM fun (signal, reaction) => Process.react signal reaction
  match CommandLine.parse start.args with
  | .error refusal =>
      Process.writeText (if refusal.isRequest then Descriptor.output else Descriptor.error)
        (refusal.text .interrupts)
      pure refusal.exitCode
  | .ok request =>
      let setting := start.environment.value? logVariable
      Process.ask (.openLog (.choose setting request.verbose))
      finish (← (serve request).run)

end Sandbox

end HostnameSandbox

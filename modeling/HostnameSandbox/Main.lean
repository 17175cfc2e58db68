import HostnameSandbox.Host.Machine

/-!
# The command line program

Reads the arguments, the input and the log setting of this process, runs the sandbox on a
machine of its own, and writes out what it writes.
-/

namespace HostnameSandbox

/-- Whether a command line may start a run, so that the input is needed. -/
def needsInput (args : List Bytes) : Bool :=
  match CommandLine.parse args with
  | .ok _ => true
  | .error _ => false

end HostnameSandbox

open HostnameSandbox in
/-- Runs the sandbox with the arguments of this process. -/
def main (args : List String) : IO UInt32 := do
  let words := args.map Bytes.ofString
  let setting := (← IO.getEnv Sandbox.logVariable).map Bytes.ofString
  let input ← if needsInput words then (← IO.getStdin).readBinToEnd else pure .empty
  let machine := Machine.boot true []
  match Machine.runSandbox words setting (Machine.refresh machine input.data.toList) with
  | none =>
      IO.eprintln "the command does not end"
      return 125
  | some (status, machine) =>
      (← IO.getStdout).write ⟨(Machine.output machine).toArray⟩
      (← IO.getStderr).write ⟨(Machine.errorOutput machine).toArray⟩
      match status with
      | .exited code => return code.toUInt32
      | .killed signal => return (128 + signal.number).toUInt32

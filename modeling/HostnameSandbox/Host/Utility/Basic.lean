import HostnameSandbox.Host.Utility.Options
import HostnameSandbox.Host.Utility.Output
import HostnameSandbox.Host.Utility.Quoting
import HostnameSandbox.Process

/-!
# What everyday programs have in common

A program collects what it writes to its output and writes it when it ends.  What it has to
complain about begins with the name that it was called by.
-/

namespace HostnameSandbox

namespace Utility

/-- Writes a line to the error output; the result is whether that could be done. -/
def note (line : Bytes) : Process Bool := do
  let written : Except Errno Unit ← Process.ask (.write Descriptor.error (line ++ [0x0A]))
  pure written.toBool

/-- Writes lines to the error output; the result is whether all of that could be done. -/
def noteAll (lines : List Bytes) : Process Bool :=
  lines.foldlM (fun isHeard line => do pure ((← note line) && isHeard)) true

/-- The line with a complaint. -/
def complaint (name message : Bytes) : Bytes := name ++ Bytes.ofString ": " ++ message

/-- Complains. -/
def complain (name message : Bytes) : Process Unit :=
  Process.write Descriptor.error (complaint name message ++ [0x0A])

/-- The text of an error, behind what it is about. -/
def withErrno (subject : Bytes) (errno : Errno) : Bytes :=
  subject ++ Bytes.ofString (": " ++ errno.plainText)

/-- The hint that follows a complaint about how a program was called. -/
def hint (name : Bytes) : Process Unit :=
  Process.write Descriptor.error
    (Bytes.ofString "Try '" ++ name ++ Bytes.ofString " --help' for more information.\n")

/-- Complains about how a program was called, and ends it. -/
def refuse (name message : Bytes) (code : UInt8) : Process UInt8 := do
  complain name message
  hint name
  pure code

/-- Writes what has been collected; the result is the error if that cannot be done. -/
def flush (output : Output) : Process (Option Errno) := do
  if output.bytes.isEmpty then pure none
  else
    match (← Process.ask (.write Descriptor.output output.bytes) : Except Errno Unit) with
    | .ok () => pure none
    | .error errno => pure (some errno)

/-- Writes the output of a program, and ends it; if that cannot be written, with `failure`.
`isSpoilt` tells that some output has been lost before.  The reason is told if some of the output
would have been written last, or if the output cannot be closed either. -/
def finishAfter (name : Bytes) (isSpoilt : Bool) (output : Output) (code failure : UInt8) :
    Process UInt8 := do
  let refused ← flush output
  if refused.isNone && !isSpoilt then pure code
  else
    let complaint := Bytes.ofString "write error"
    let errno ← if refused.isSome && output.collected ≠ 0 then pure refused
      else do
        match (← Process.ask (.inspect Descriptor.output) : Except Errno OpenFacts) with
        | .ok _ => pure none
        | .error errno => pure (some errno)
    complain name (errno.elim complaint (withErrno complaint))
    pure failure

/-- Writes the output of a program, and ends it; if that cannot be written, with `failure`. -/
def finish (name : Bytes) (output : Output) (code failure : UInt8) : Process UInt8 :=
  finishAfter name false output code failure

/-- The words with one blank between them. -/
def joined (words : List Bytes) : Bytes := ([0x20] : Bytes).intercalate words

/-- Does nothing, successfully. -/
def succeed : Program := fun _ => pure 0

/-- Does nothing, without success. -/
def fail : Program := fun _ => pure 1

end Utility

end HostnameSandbox

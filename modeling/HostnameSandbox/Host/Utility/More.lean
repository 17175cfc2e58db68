import HostnameSandbox.Host.Utility.Basic

/-!
# Showing files

`more` shows its input and then files, each under its name.  Where nobody looks at the pages, it
copies them.
-/

namespace HostnameSandbox

namespace Utility.More

/-- The options of the program. -/
def options : Options where
  short := ('n', .required) :: "dflpcsue".toList.map fun letter => (letter, .none)
  long := [("silent", .none, 'd'), ("logical", .none, 'f'), ("no-pause", .none, 'l'),
    ("print-over", .none, 'c'), ("clean-print", .none, 'p'), ("exit-on-eof", .none, 'e'),
    ("squeeze", .none, 's'), ("plain", .none, 'u'), ("lines", .required, 'n'),
    ("help", .none, 'h'), ("version", .none, 'V')]
  ordered := false

/-- How much is read at a time. -/
def blockSize : Nat := 4096

/-- The most blocks that are copied of one file. -/
def blockLimit : Nat := 1000000

/-- The output with the rest of an open file, within so many blocks. -/
def copy (descriptor : Descriptor) : Nat → Output → Process Output
  | 0, output => pure output
  | blocks + 1, output => do
      match (← Process.ask (.read descriptor blockSize) : Except Errno Bytes) with
      | .error _ | .ok [] => pure output
      | .ok bytes => copy descriptor blocks (output.add bytes)

/-- The line above and below the name of a file. -/
def rule : Bytes := List.replicate 14 0x3A ++ [0x0A]

/-- The output with a file under its name.  A directory is only named. -/
def showFile (name : Bytes) (output : Output) (file : Bytes) : Process Output := do
  match (← Process.ask (.openFile file .reading) : Except Errno Descriptor) with
  | .error errno =>
      complain name (withErrno (Bytes.ofString "cannot open " ++ file) errno)
      pure output
  | .ok descriptor => do
      let shown ← match (← Process.ask (.inspect descriptor) : Except Errno OpenFacts) with
        | .ok facts =>
            if facts.file.kind = .directory then
              pure (output.add (Bytes.ofString "\n*** " ++ file ++
                Bytes.ofString ": directory ***\n\n"))
            else copy descriptor blockLimit (output.add (rule ++ file ++ 0x0A :: rule))
        | .error _ => pure output
      let _ : Except Errno Unit ← Process.ask (.close descriptor)
      pure shown

/-- Shows the input of a program and files. -/
def program : Program := fun start => do
  match options.parse start.args with
  | .error fault => refuse start.name fault.message 1
  | .ok parsed =>
      let output ← copy Descriptor.input blockLimit .empty
      let output ← parsed.operands.foldlM (showFile start.name) output
      finish start.name output 0 1

end Utility.More

end HostnameSandbox

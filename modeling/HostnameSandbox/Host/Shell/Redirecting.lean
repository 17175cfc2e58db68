import HostnameSandbox.Host.Shell.Expansion
import HostnameSandbox.Host.Shell.Jobs

/-!
# Redirections

Before a command is carried out its open files are connected as it asks.  What they were before is
kept beyond the numbers that commands use, and put back afterwards.
-/

namespace HostnameSandbox

namespace Shell

namespace Redirecting

/-- The numbers from this one on are kept for the shell. -/
def leastKept : Descriptor := 10

/-- How many bytes of a document are written without a process of their own. -/
def pipeRoom : Nat := 4096

/-- A redirection whose words have been expanded. -/
inductive Expanded where
  | file (use : FileUse) (name : Bytes)
  | copy (descriptor : Option Nat)
  | document (document : Document)

/-- How a complaint calls an error about a file: one that is not there is told by what was to be
done with it. -/
def errorText (errno : Errno) (missing : String) : String :=
  if errno = .noEntry || errno = .notDirectory then missing else errno.plainText

/-- Complains that a file cannot be opened. -/
def failOpening {α : Type} (name : Bytes) (creates : Bool) (errno : Errno) : Doing α :=
  let (verb, missing) := if creates then ("cannot create ", "Directory nonexistent")
    else ("cannot open ", "No such file")
  fail (Bytes.ofString verb ++ name ++ Bytes.ofString (": " ++ errorText errno missing))

/-- Opens a file. -/
def openFile (name : Bytes) (how : OpenMode) : Doing Descriptor := do
  match (← Doing.ask (.openFile name how) : Except Errno Descriptor) with
  | .ok descriptor => return descriptor
  | .error errno => failOpening name how.creates errno

/-- Closes an open file. -/
def close (descriptor : Descriptor) : Doing Unit := do
  let _ ← Doing.ask (.close descriptor)

/-- Opens a file to write without overwriting one that is there. -/
def openProtected (name : Bytes) : Doing Descriptor := do
  match (← Doing.ask (.examine name true) : Except Errno FileFacts) with
  | .error _ => openFile name { OpenMode.writing with truncates := false, exclusive := true }
  | .ok facts =>
      if facts.kind = .regular then failOpening name true .alreadyThere
      else openFile name { OpenMode.writing with creates := false, truncates := false }

/-- Opens the file of a redirection. -/
def openFor (use : FileUse) (name : Bytes) : Doing Descriptor := do
  match use with
  | .read => openFile name .reading
  | .readWrite => openFile name { OpenMode.updating with creates := true }
  | .append => openFile name .appending
  | .overwrite => openFile name .writing
  | .write => if (← get).has .protects then openProtected name else openFile name .writing

/-- Keeps an open file under a number beyond those that commands use, and closes it. -/
def keep (descriptor : Nat) : Doing Kept := do
  match (← Doing.ask (.duplicate descriptor leastKept) : Except Errno Descriptor) with
  | .ok saved =>
      close descriptor
      return .saved saved
  | .error errno =>
      if errno = .badDescriptor then return .closed
      else
        close descriptor
        failAbout (digits descriptor) errno.plainText

section

variable (output : Code → Doing Bytes) (fork : Doing Unit → Doing Pid)

/-- The number of an open file that a word names. -/
def descriptorOf (word : Bytes) : Doing (Option Nat) := do
  match word with
  | [0x2D] => return none
  | [byte] => if isDigit byte then return some (byte - 0x30).toNat
  | _ => pure ()
  modify fun state => { state with line := state.scriptLine }
  failText "Syntax error: Bad fd number"

/-- Expands the words of a redirection. -/
def expand (redirection : Redirection) : Doing (Nat × Expanded) := do
  match redirection with
  | .redirect descriptor target =>
      match target with
      | .file use name => return (descriptor, .file use (← Expansion.toText output .text name))
      | .copy source => return (descriptor, .copy source)
      | .copyNamed word =>
          let named ← descriptorOf (← Expansion.toText output .text word)
          return (descriptor, .copy named)
      | .document number =>
          return (descriptor, .document (((← get).document? number).getD ⟨[], false⟩))

/-- Creates a pipe. -/
def pipe : Doing (Descriptor × Descriptor) := do
  match (← Doing.ask .pipe : Except Errno (Descriptor × Descriptor)) with
  | .ok ends => return ends
  | .error _ => failText "Pipe call failed"

/-- Opens a document to read it: what fits goes into a pipe, more is written by a process. -/
def openDocument (document : Document) : Doing Descriptor := do
  let text ← if document.expands then Expansion.toText output .quoted document.text
    else pure (Word.unquoted document.text)
  let (outlet, inlet) ← pipe
  if text.length ≤ pipeRoom then
    let _ ← Doing.ask (.write inlet text)
  else
    let _ ← fork do
      close outlet
      [1, 2, 3].forM Trap.ignore
      let _ ← Doing.ask (.write inlet text)
      let _ : Empty ← Doing.ask (.exit 0)
  close inlet
  return outlet

/-- What an open file is connected to. -/
inductive Source where
  /-- Nothing is to be done. -/
  | same
  | closed
  /-- Another open file, which is closed afterwards if it was opened for this. -/
  | other (descriptor : Descriptor) (isOwn : Bool)

/-- Opens what an open file is to be connected to. -/
def openSource (descriptor : Nat) : Expanded → Doing Source
  | .file use name => do return .other (← openFor use name) true
  | .document document => do return .other (← openDocument output fork document) true
  | .copy none => return .closed
  | .copy (some source) => return if source = descriptor then .same else .other source false

/-- Remembers what an open file was, unless that is remembered for this command already. -/
def remember (descriptor : Nat) (source : Source) : Doing Unit := do
  match (← get).kept with
  | [] => pure ()
  | frame :: frames =>
      if frame.any fun entry => entry.1 = descriptor then pure ()
      else
        let kept ← match source with
          | .other other _ => if other = descriptor then pure Kept.closed else keep descriptor
          | _ => keep descriptor
        modify fun state => { state with kept := ((descriptor, kept) :: frame) :: frames }

/-- Connects an open file. -/
def connect (descriptor : Nat) : Source → Doing Unit
  | .same => pure ()
  | .closed => close descriptor
  | .other source isOwn => do
      if source ≠ descriptor then
        let result : Except Errno Unit ← Doing.ask (.connect source descriptor)
        if isOwn then close source
        match result with
        | .ok () => pure ()
        | .error errno => failAbout (digits source) errno.plainText

/-- Connects open files one after the other; `remembers` tells whether that is for one command. -/
def redirect (remembers : Bool) (redirections : List (Nat × Expanded)) : Doing Unit :=
  redirections.forM fun (descriptor, expanded) => do
    match ← openSource output fork descriptor expanded with
    | .same => pure ()
    | source => do
        if remembers then remember descriptor source
        connect descriptor source

end

/-- Puts the open files of a command back, unless what was redirected is to stay. -/
def leave (stays : Bool) : Doing Unit := do
  match (← get).kept with
  | [] => pure ()
  | frame :: frames => do
      modify fun state => { state with kept := frames }
      (frame.mergeSort fun one other => decide (one.1 ≤ other.1)).forM fun (descriptor, kept) => do
        match kept with
        | .closed => if !stays then close descriptor
        | .saved saved => do
            if !stays then let _ ← Doing.ask (.connect saved descriptor)
            close saved

/-- Puts back the open files of all commands beyond so many. -/
def leaveTo : Nat → Nat → Doing Unit
  | 0, _ => pure ()
  | count + 1, depth => do
      if depth < (← get).kept.length then
        leave false
        leaveTo count depth

end Redirecting

end Shell

end HostnameSandbox

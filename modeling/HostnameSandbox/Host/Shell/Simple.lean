import HostnameSandbox.Host.Shell.Builtin.Assigning
import HostnameSandbox.Host.Shell.Builtin.Naming
import HostnameSandbox.Host.Shell.Builtin.Placing
import HostnameSandbox.Host.Shell.Builtin.Printing
import HostnameSandbox.Host.Shell.Builtin.Signalling
import HostnameSandbox.Host.Shell.Builtin.Testing
import HostnameSandbox.Host.Shell.Heading
import HostnameSandbox.Host.Shell.Session

/-!
# Simple commands

A simple command consists of assignments, words and redirections.  Its first word is the name of a
function, of something that the shell carries out itself, or of a program.
-/

namespace HostnameSandbox

namespace Shell

namespace Simple

/-- Makes loops pass over commands. -/
def leaveLoops (skip : Nat → Skip) (args : List Bytes) : Doing Nat := do
  let count ← match args with
    | [] => pure 1
    | word :: _ => do
        let count ← number word
        if count = 0 then failNumber word else pure count
  modify fun state =>
    let count := min count state.loops
    if count = 0 then state else { state with skip := skip count }
  return 0

/-- Leaves a function or a file. -/
def leaveFunction (args : List Bytes) : Doing Nat := do
  match args with
  | [] => do
      modify fun state => { state with skip := .returning false }
      return (← get).status
  | word :: _ => do
      let status ← number word
      modify fun state => { state with skip := .returning true }
      return status

/-- Ends the shell. -/
def exit (args : List Bytes) : Doing Nat := do
  match args with
  | [] => throw .exited
  | word :: _ => do
      let status ← number word
      modify fun state => { state with keptStatus := some status }
      throw .exited

/-- Turns into a program, if one is named. -/
def exec (args : List Bytes) : Doing Nat := do
  if args.isEmpty then return 0
  else
    modify fun state =>
      { state with
        settings := state.settings.filter fun setting =>
          setting ≠ .interactive && setting ≠ .monitors }
    Lookup.become args (Lookup.searchPath (← get)) 0

/-- Ends the return from a function or a file. -/
def endReturn : Doing Unit :=
  modify fun state =>
    match state.skip with
    | .returning _ => { state with skip := .nothing }
    | _ => state

/-- The path of a file with commands, which is looked for in directories unless it is a path. -/
def scriptPath (name : Bytes) : List Bytes → Doing Bytes
  | [] => failAbout name "not found"
  | directory :: rest => do
      if Lookup.isPath name then return name
      else
        let path := Lookup.within directory name
        match (← Doing.ask (.examine path true) : Except Errno FileFacts) with
        | .ok facts => if facts.kind = .regular then return path else scriptPath name rest
        | .error _ => scriptPath name rest

/-- Opens a file with commands, out of the way of other open files. -/
def openScript (path : Bytes) : Doing Descriptor := do
  let opened ← Redirecting.openFile path .reading
  match ← Redirecting.keep opened with
  | .saved descriptor => return descriptor
  | .closed => return opened

section

variable (evaluate : Evaluator)

/-- Carries out the commands in a file. -/
def dot (args : List Bytes) : Doing Nat := do
  match ← Letters.operands args with
  | [] => return 0
  | name :: _ => do
      let path ← scriptPath name (Lookup.directories (Lookup.searchPath (← get)))
      let descriptor ← openScript path
      modify fun state => { state with command := some path }
      let result ← Doing.attempt (Session.runInner evaluate {} (.ofDescriptor descriptor))
      Redirecting.close descriptor
      endReturn
      Doing.resume result

/-- Carries out words as commands. -/
def eval (context : Context) (args : List Bytes) : Doing Nat :=
  if args.isEmpty then return 0
  else
    Session.runText evaluate { isTested := context.isTested } (([0x20] : Bytes).intercalate args)

/-- Carries out a command of the shell itself. -/
def runBuiltin (context : Context) (builtin : Builtin) (args : List Bytes) : Doing Nat :=
  match builtin.name with
  | "." => dot evaluate args
  | "[" => Testing.bracketed args
  | "alias" => Naming.nickname args
  | "bg" | "fg" => Signalling.move args
  | "break" => leaveLoops .breaking args
  | "cd" | "chdir" => Placing.cd args
  | "command" => Naming.command args
  | "continue" => leaveLoops .continuing args
  | "echo" => Printing.echo args
  | "eval" => eval evaluate context args
  | "exec" => exec args
  | "exit" => exit args
  | "export" => Assigning.declare "export" { isExported := true } args
  | "false" => return 1
  | "getopts" => Assigning.getopts args
  | "hash" => Naming.hash args
  | "jobs" => Signalling.jobs args
  | "kill" => Signalling.kill args
  | "local" => Assigning.makeLocals args
  | "printf" => Printing.printf args
  | "pwd" => Placing.pwd args
  | "read" => Assigning.read args
  | "readonly" => Assigning.declare "readonly" { isReadOnly := true } args
  | "return" => leaveFunction args
  | "set" => Settings.set args
  | "shift" => Assigning.shift args
  | "test" => Testing.test args
  | "times" => Placing.times
  | "trap" => Signalling.trap args
  | "type" => Naming.type args
  | "ulimit" => Placing.ulimit args
  | "umask" => Placing.umask args
  | "unalias" => Naming.unalias args
  | "unset" => Assigning.unset args
  | "wait" => Signalling.wait args
  | _ => return 0

/-- Carries out a command of the shell itself and writes what it prints. -/
def callBuiltin (context : Context) (builtin : Builtin) (call : List Bytes) : Doing Nat := do
  let former := (← get).command
  modify fun state => { state with command := call.head? }
  let result ← Doing.attempt do
    let status ← runBuiltin evaluate context builtin call.tail
    if ← flush then return status
    else
      warn (((← get).command.getD []) ++ Bytes.ofString ": I/O error")
      return status ||| 1
  modify fun state => { state with command := former }
  let status ← Doing.resume result
  modify fun state => { state with status }
  return status

/-- Calls a function. -/
def callFunction (context : Context) (function : Function) (args : List Bytes) : Doing Nat := do
  let former ← get
  set { former with loops := 0, parameters := args, optionIndex := 1, optionOffset := none }
  let result ← Doing.attempt (evaluate { isTested := context.isTested } function.body)
  modify fun state =>
    { state with
      loops := former.loops, parameters := former.parameters
      optionIndex := former.optionIndex, optionOffset := former.optionOffset }
  endReturn
  let _ ← Doing.resume result
  return (← get).status

/-- Runs a program; the shell itself turns into it if nothing is left to do. -/
def runProgram (context : Context) (call : List Bytes) (path : Bytes) (place : Nat) :
    Doing Nat := do
  if context.isLast && !Trap.isAny (← get) then Lookup.become call path place
  else
    Jobs.makeRoom
    match ← (Process.split : Process (Option Pid)) with
    | some pid => do
        Doing.ask (.hold [])
        Jobs.await [pid]
    | none => do
        Doing.ask (.hold [])
        let _ : Except Escape Empty ← Doing.attempt (Lookup.become call path place)
        let never : Empty ← Doing.ask (.exit (UInt8.ofNat (← get).status))
        never.elim

/-- The open file on which a command is shown: standard error as it was before the command. -/
def traceDescriptor (isRedirected : Bool) : Doing Descriptor := do
  match isRedirected, (← get).kept with
  | true, frame :: _ =>
      match frame.find? fun entry => entry.1 = Descriptor.error with
      | some (_, .saved descriptor) => return descriptor
      | _ => return Descriptor.error
  | _, _ => return Descriptor.error

/-- Shows a command before it is carried out. -/
def trace (isRedirected : Bool) (words : List Bytes) : Doing Unit := do
  let state ← get
  if state.has .traces && !state.isShowing then
    set { state with isShowing := true }
    let lead ← Script.expanded (Session.output evaluate) ((state.value? "PS4").getD [])
    modify fun state => { state with isShowing := false }
    let descriptor ← traceDescriptor isRedirected
    let _ ← Doing.ask (.write descriptor (lead ++ ([0x20] : Bytes).intercalate words ++ [0x0A]))

/-- Carries out an assignment in front of a command; the result is its text. -/
def assignFor (heading : Heading) (word : Word) : Doing Bytes := do
  let text ← Expansion.toText (Session.output evaluate) .assignment word
  let (name, value) := Assigning.split text
  if heading.isLocal then makeLocal name value { isExported := true }
  else assign name value { isExported := heading.isExec && 1 < heading.call.length }
  return text

/-- Carries out a command whose files are open. -/
def carryOut (context : Context) (heading : Heading) (assignments : List Word)
    (isRedirected : Bool) : Doing Nat := do
  let assigned ← assignments.mapM (assignFor evaluate heading)
  trace evaluate isRedirected (assigned ++ heading.fields)
  match heading.call with
  | [] => return (← get).expandedStatus
  | name :: args => do
      let path := heading.path
      let found ← match heading.builtin with
        | some builtin => pure (Lookup.Found.builtin builtin)
        | none => Lookup.find name ⟨true, !heading.passesFunctions, path⟩
      match found with
      | .unknown => return 127
      | .function function => callFunction evaluate context function args
      | .program place => do
          let path := path.getD (Lookup.searchPath (← get))
          runProgram context heading.call path (place.getD 0)
      | .builtin builtin => do
          match ← Doing.attempt (callBuiltin evaluate context builtin heading.call) with
          | .ok status => return status
          | .error escape =>
              if escape = .failed && heading.isSpecial ≠ some true then return (← get).status
              else throw escape

/-- Puts the second word of a command over the earlier ones, with a zero byte behind it.  Behind a
long name it lies elsewhere. -/
def overlay (state : State) : List Bytes → State
  | name :: word :: _ =>
      if name.length < 8 then
        { state with overlaid := word ++ 0 :: state.overlaid.drop (word.length + 1) }
      else state
  | _ => state

/-- Carries out a simple command. -/
def run (context : Context) (line : Nat) (assignments words : List Word)
    (redirections : List Redirection) : Doing Nat := do
  let output := Session.output evaluate
  modify fun state => { state with line, expandedStatus := 0 }
  let heading ← Heading.expand output words
  modify fun state => overlay state heading.fields
  let before ← get
  if heading.isLocal then set { before with frames := [] :: before.frames }
  let expanded ← redirections.mapM (Redirecting.expand output)
  let isRedirected := !redirections.isEmpty
  if isRedirected then modify fun state => { state with kept := [] :: state.kept }
  let opened ← Doing.attempt
    (Redirecting.redirect output (Session.fork evaluate) true expanded)
  let status ← match opened with
    | .ok () => carryOut evaluate context heading assignments isRedirected
    | .error .failed => do
        modify fun state => { state with status := 2 }
        if heading.isSpecial = some true then throw .failed else pure 2
    | .error escape => throw escape
  if isRedirected then Redirecting.leave heading.isExec
  Redirecting.leaveTo (← get).kept.length before.kept.length
  leaveFrames before.frames.length
  return status

end

end Simple

end Shell

end HostnameSandbox

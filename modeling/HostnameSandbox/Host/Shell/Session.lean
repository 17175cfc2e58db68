import HostnameSandbox.Host.Shell.Script

/-!
# Sessions

A session carries out the lines of a script one after the other, and ends: then what is to be done at
the end is done, with the open files that the shell began with.  Parts of a script may go on as
processes with sessions of their own.
-/

namespace HostnameSandbox

namespace Shell

/-- Where a command stands. -/
structure Context where
  /-- Whether the shell ends with the command. -/
  isLast : Bool := false
  /-- Whether somebody looks at the status of the command. -/
  isTested : Bool := false
deriving DecidableEq, Repr

/-- How commands are carried out; the result is their status. -/
abbrev Evaluator := Context → Code → Doing Nat

namespace Session

/-- The most lines of a script. -/
def lineLimit : Nat := Nat.pow 2 60

section

variable (evaluate : Evaluator)

/-- Carries out a script, of which at most so many lines are left; the result is the status of the
last line that is not empty. -/
def runWithin (context : Context) : Nat → Nat → Script → Doing Nat
  | 0, status, _ => return status
  | count + 1, status, script => do
      match ← script.next [] with
      | (.ended, _) => return status
      | (.commands code, script) => do
          let result ← evaluate context code
          let status := if code.isNothing then status else result
          if (← get).skip = .nothing then runWithin context count status script
          else return status

/-- Carries out a script within another one. -/
def runInner (context : Context) (script : Script) : Doing Nat := do
  let line := (← get).scriptLine
  let result ← Doing.attempt (runWithin evaluate context lineLimit 0 script)
  modify fun state => { state with scriptLine := line }
  Doing.resume result

/-- Carries out a text. -/
def runText (context : Context) (text : Bytes) : Doing Nat :=
  runInner evaluate context (.ofText text)

/-- Leaves what commands have begun: their loops, and their open files.  The status that was kept
becomes the status again if the shell was told to end. -/
def leaveCommands (escape : Option Escape) : Doing Unit := do
  modify fun state =>
    let isOrdered := escape = some .exited || state.skip = .returning false
    { state with
      status := if isOrdered then state.keptStatus.getD state.status else state.status
      keptStatus := none, skip := .nothing, loops := 0 }
  Redirecting.leaveTo (← get).kept.length 0

/-- Ends the shell: the action for its end is carried out, and what was printed is written.  The
result is the exit code. -/
def conclude (escape : Option Escape) : Doing UInt8 := do
  if escape.isSome then leaveCommands escape
  modify fun state => { state with keptStatus := some state.status }
  let state ← get
  match state.trap? 0 with
  | none => leaveCommands escape
  | some action => do
      set { state.setTrap 0 none with skip := .nothing }
      match ← Doing.attempt (runText evaluate {} action) with
      | .ok _ => do
          modify fun state => { state with skip := .returning false }
          leaveCommands none
      | .error escape => leaveCommands (some escape)
  let _ ← flush
  return UInt8.ofNat (← get).status

/-- Makes the shell one that has come out of another one. -/
def becomeInner : Doing Unit := do
  modify fun state =>
    { state with
      isInner := true, skip := .nothing, kept := [], jobs := []
      scriptLine := state.outerLine }
  Trap.forget

/-- Takes a process out of the hands of users: interruptions are ignored, and there is nothing to
read unless it comes from another process. -/
def detach (isFirst : Bool) : Doing Unit := do
  Trap.ignore Signal.interrupt.number
  Trap.ignore Signal.quit.number
  if isFirst then
    Redirecting.close Descriptor.input
    let _ ← Redirecting.openFile (Bytes.ofString "/dev/null") .reading

/-- Creates a process that does something and ends. -/
def fork (body : Doing Unit) : Doing Pid := do
  match ← (Process.split : Process (Option Pid)) with
  | some pid => return pid
  | none => do
      becomeInner
      let escape := match ← Doing.attempt body with
        | .ok () => none
        | .error escape => some escape
      let code ← conclude evaluate escape
      let never : Empty ← Doing.ask (.exit code)
      never.elim

/-- The status of a command that a process carries out for the shell. -/
def runApart (body : Doing Unit) : Doing Nat := do
  Jobs.makeRoom
  Jobs.await [← fork evaluate body]

/-- Makes an open file standard output or input, and nothing else. -/
def attach (descriptor target : Descriptor) : Doing Unit := do
  if descriptor ≠ target then
    let _ ← Doing.ask (.connect descriptor target)
    Redirecting.close descriptor

/-- What a command prints, without zero bytes. -/
def output (code : Code) : Doing Bytes := do
  if code.isNothing then return []
  let (outlet, inlet) ← Redirecting.pipe
  Jobs.makeRoom
  let pid ← fork evaluate do
    Redirecting.close outlet
    attach inlet Descriptor.output
    let _ ← evaluate { isLast := true } code
  Redirecting.close inlet
  let printed ← Expansion.readAll outlet Expansion.limit
  Redirecting.close outlet
  let status ← Jobs.await [pid]
  modify fun state => { state with expandedStatus := status }
  return printed.filter (· != 0)

end

end Session

end Shell

end HostnameSandbox

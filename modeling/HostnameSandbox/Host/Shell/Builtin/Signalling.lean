import HostnameSandbox.Host.Shell.Builtin.Letters
import HostnameSandbox.Host.Shell.Jobs

/-!
# Commands about signals and jobs

Signals are sent to processes and jobs, and actions are chosen for those that arrive.  Jobs are
shown and waited for.
-/

namespace HostnameSandbox

namespace Shell

namespace Signalling

/-- Complains about how `kill` was called. -/
def killUsage {α : Type} : Doing α :=
  failText ("Usage: kill [-s sigspec | -signum | -sigspec] [pid | job]... or\n" ++
    "kill -l [exitstatus]")

/-- Lists the signals, or tells the name of one that has ended a process. -/
def listSignals : List Bytes → Doing Nat
  | [] => do
      print [0x30, 0x0A]
      (List.range Signal.greatest).forM fun number => printText (Trap.name (number + 1) ++ "\n")
      return 0
  | word :: _ => do
      let status ← number word
      let signal := if 128 < status then status - 128 else status
      if 0 < signal && signal ≤ Signal.greatest then
        printText (Trap.name signal ++ "\n")
        return 0
      else fail (Bytes.ofString "invalid signal number or exit status: " ++ word)

/-- The process that a word names. -/
def target (word : Bytes) : Doing Pid := do
  match word with
  | 0x25 :: _ => do return -((← Jobs.find (some word)).members.head?.elim 0 Member.pid)
  | 0x2D :: rest => do return -((← number rest) : Int)
  | _ => do return ((← number word) : Int)

/-- Sends a signal to processes; the status tells whether all of them could get it. -/
def sendAll (signal : Nat) (words : List Bytes) : Doing Nat :=
  words.foldlM
    (fun (status : Nat) word => do
      match (← Doing.ask (.send (← target word) ⟨signal⟩) : Except Errno Unit) with
      | .ok () => do
          Trap.note
          return status
      | .error errno => do
          warn (Bytes.ofString (errno.plainText ++ "\n"))
          return 1)
    0

/-- Sends a signal, which is the request to terminate unless another is named. -/
def kill (args : List Bytes) : Doing Nat := do
  let named := match args with
    | (0x2D :: word) :: _ => Trap.signal? word 1
    | _ => none
  let (signal, lists, words) ← match named, args with
    | some signal, _ => pure (signal, false, args.tail)
    | none, (0x2D :: _) :: _ => do
        let parsed ← Letters.parse [('l', false), ('s', true)] args
        let signal ← parsed.chosen.foldlM
          (fun (signal : Nat) (letter, word) => do
            if letter ≠ 's' then return signal
            else
              match Trap.signal? word 1 with
              | some signal => return signal
              | none => fail (Bytes.ofString "invalid signal number or name: " ++ word))
          Signal.terminate.number
        if parsed.has 'l' && parsed.has 's' && !parsed.operands.isEmpty then killUsage
        pure (signal, parsed.has 'l', parsed.operands)
    | none, _ => pure (Signal.terminate.number, false, args)
  if lists then listSignals words
  else if words.isEmpty then killUsage
  else sendAll signal words

/-- Shows the actions on signals. -/
def showTraps : Doing Unit := do
  let state ← get
  (List.range (Signal.greatest + 1)).forM fun number =>
    match state.trap? number with
    | some action =>
        print (Bytes.ofString "trap -- " ++ quoted action ++
          Bytes.ofString (" " ++ Trap.name number ++ "\n"))
    | none => pure ()

/-- Chooses an action for signals, up to a word that names none. -/
def choose (action : Option Bytes) : List Bytes → Doing Nat
  | [] => return 0
  | word :: rest => do
      match Trap.signal? word 0 with
      | none => do
          say (Bytes.ofString "trap: " ++ word ++ Bytes.ofString ": bad trap\n")
          return 1
      | some signal => do
          modify fun state => state.setTrap signal (action.filter (· != [0x2D]))
          Trap.settle signal
          choose action rest

/-- Chooses what is done on signals, or shows what has been chosen. -/
def trap (args : List Bytes) : Doing Nat := do
  match ← Letters.operands args with
  | [] => do
      showTraps
      return 0
  | [word] => choose none [word]
  | action :: words =>
      let isNumber := ((Bytes.decimal? action).filter fun number =>
        decide (number ≤ Signal.greatest)).isSome
      if isNumber then choose none (action :: words) else choose (some action) words

/-- Shows jobs. -/
def jobs (args : List Bytes) : Doing Nat := do
  let parsed ← Letters.parse [('l', false), ('p', false)] args
  let detail : Jobs.Detail := match parsed.chosen.getLast? with
    | some ('l', _) => .numbers
    | some _ => .leaders
    | none => .plain
  if parsed.operands.isEmpty then
    Jobs.sweep
    (← get).jobs.forM (Jobs.display detail)
  else
    parsed.operands.forM fun word => do Jobs.display detail (← Jobs.find (some word))
  return 0

/-- Complains about a job that was not created to be moved. -/
def move (args : List Bytes) : Doing Nat := do
  let words ← Letters.operands args
  let _ ← Jobs.find words.head?
  fail (Bytes.ofString "job " ++ words.head?.getD (Bytes.ofString "(null)") ++
    Bytes.ofString " not created under job control")

/-- The status of a command that was cut short by a signal. -/
def cutShort : Doing Nat := do
  Trap.note
  return 128 + (← get).arrived.getLastD 0

/-- Waits until no job runs, within so many ends of processes. -/
def waitForAll : Nat → Doing Nat
  | 0 => return 0
  | count + 1 => do
      let isRunning := (← get).jobs.any Job.isRunning
      modify fun state =>
        { state with jobs := state.jobs.map fun job =>
            if job.isRunning then job else { job with isKnown := true } }
      if !isRunning then return 0
      else if ← Jobs.awaitJob none then waitForAll count
      else cutShort

/-- Waits until a job has ended, within so many ends of processes; there is no status if a signal
cuts that short. -/
def waitForJob : Nat → Job → Doing (Option Nat)
  | 0, _ => return some 0
  | count + 1, job => do
      if !job.isRunning then
        modify fun state =>
          { state with jobs := state.jobs.map fun other =>
              if other.number = job.number then { other with isKnown := true } else other }
        return some (job.ending.elim 0 Jobs.statusOf)
      else if ← Jobs.awaitJob (some job) then waitForJob count (← Jobs.current job)
      else return none

/-- Waits for the processes and jobs that words name, one after the other. -/
def waitForEach (status : Nat) : List Bytes → Doing Nat
  | [] => return status
  | word :: rest => do
      let job ← if word.head? = some 0x25 then some <$> Jobs.find (some word)
        else do
          let pid ← number word
          pure ((← get).jobs.find? fun job => (job.members.getLast?.map Member.pid) = some (pid : Int))
      match job with
      | none => waitForEach status rest
      | some job => do
          match ← waitForJob Jobs.limit job with
          | some status => waitForEach status rest
          | none => cutShort

/-- Waits for jobs. -/
def wait (args : List Bytes) : Doing Nat := do
  let words ← Letters.operands args
  Trap.note
  let status ← if words.isEmpty then waitForAll Jobs.limit else waitForEach 127 words
  Trap.note
  return status

end Signalling

end Shell

end HostnameSandbox

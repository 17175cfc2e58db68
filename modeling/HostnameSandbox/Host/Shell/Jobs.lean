import HostnameSandbox.Host.Shell.Trap

/-!
# Jobs

The processes that a shell has created and not forgotten.  A shell waits for the processes of a
pipe; those in the background are remembered by a number until somebody has asked how they ended.
-/

namespace HostnameSandbox

namespace Shell

namespace Jobs

/-- The status that stands for the end of a process. -/
def statusOf : ExitStatus → Nat
  | .exited code => code.toNat
  | .killed signal => 128 + signal.number

/-- How the end of a process is called: its signal, or that it is done. -/
def endingText (ending : ExitStatus) : String :=
  match ending with
  | .exited code => if code = 0 then "Done" else "Done(" ++ toString code.toNat ++ ")"
  | .killed signal => signal.description

/-- The first free number for a job, tried so often, and the jobs without one that is not needed any
more. -/
def freeNumber (jobs : List Job) : Nat → Nat → Nat × List Job
  | 0, number => (number, jobs)
  | tries + 1, number =>
      match jobs.find? fun job => job.number = number with
      | none => (number, jobs)
      | some job =>
          if job.isRunning || !job.isKnown then freeNumber jobs tries (number + 1)
          else (number, jobs.filter fun job => job.number ≠ number)

/-- Remembers processes as a job. -/
def add (pids : List Pid) : Doing Unit :=
  modify fun state =>
    let (number, jobs) := freeNumber state.jobs state.jobs.length 1
    { state with jobs := ⟨number, pids.map (⟨·, none⟩), false⟩ :: jobs }

/-- Makes room for a job, as one does that is not remembered. -/
def makeRoom : Doing Unit :=
  modify fun state => { state with jobs := (freeNumber state.jobs state.jobs.length 1).2 }

/-- Notes the end of a process in a job. -/
def Job.note (pid : Pid) (ending : ExitStatus) (job : Job) : Job :=
  { job with members := job.members.map fun found =>
      if found.pid = pid && found.ending.isNone then { found with ending := some ending } else found }

/-- Notes the end of a process. -/
def note (pid : Pid) (ending : ExitStatus) : Doing Unit :=
  modify fun state => { state with jobs := state.jobs.map (Job.note pid ending) }

/-- Tells about the end of a process by a signal, unless it is one that users cause. -/
def tell (ending : ExitStatus) : Doing Unit :=
  match ending with
  | .exited _ => pure ()
  | .killed signal =>
      if signal = .interrupt || signal = .brokenPipe then pure ()
      else say (Bytes.ofString (signal.description ++ "\n"))

/-- How often something is waited for at most. -/
def limit : Nat := Nat.pow 2 60

/-- Waits until none of some processes is left; the status is that of the last one. -/
def awaitWithin (last : Pid) : Nat → List Pid → Nat → Doing Nat
  | 0, _, status | _, [], status => return status
  | count + 1, pids, status => do
      match (← Doing.ask (.awaitAny .untilEnd) : Awaited) with
      | .ended pid ending =>
          if pids.contains pid then
            tell ending
            awaitWithin last count (pids.filter (· != pid))
              (if pid = last then statusOf ending else status)
          else
            note pid ending
            awaitWithin last count pids status
      | _ => return status

/-- Waits for processes, the last of which stands for all. -/
def await (pids : List Pid) : Doing Nat := do
  let status ← awaitWithin (pids.getLastD 0) limit pids 0
  Trap.note
  return status

/-- Notes the processes that have ended, at most so many. -/
def sweepWithin : Nat → Doing Unit
  | 0 => pure ()
  | count + 1 => do
      match (← Doing.ask (.awaitAny .none) : Awaited) with
      | .ended pid ending => do
          note pid ending
          sweepWithin count
      | _ => pure ()

/-- Notes the processes that have ended. -/
def sweep : Doing Unit := do
  if !(← get).jobs.isEmpty then sweepWithin limit

/-- Waits for any process until a signal arrives.  If that takes time, no signal has to wait
afterwards. -/
def awaitAny : Doing Awaited := do
  match (← Doing.ask (.awaitAny .none) : Awaited) with
  | .nothing => do
      let awaited : Awaited ← Doing.ask (.awaitAny .untilSignal)
      Doing.ask (.hold [])
      return awaited
  | awaited => return awaited

/-- Waits until a job has ended, or any job if none is given; tells whether that was not cut short
by a signal. -/
def awaitJob (job : Option Job) : Doing Bool := do
  match ← awaitAny with
  | .ended pid ending => do
      if (job.elim [] Job.members).any fun found => found.pid = pid then tell ending
      note pid ending
      return true
  | .interrupted => return false
  | _ => return true

/-- The job that a word names behind a percent sign, or the current one. -/
def find (word : Option Bytes) : Doing Job := do
  let jobs := (← get).jobs
  let orElse (job : Option Job) (message : String) : Doing Job :=
    match job with
    | some job => return job
    | none => failText message
  match word with
  | none | some [0x25] | some [0x25, 0x25] | some [0x25, 0x2B] =>
      orElse jobs.head? "No current job"
  | some [0x25, 0x2D] => orElse jobs[1]? "No previous job"
  | some word =>
      let number := if word.head? = some 0x25 then Bytes.decimal? word.tail else none
      match number.bind fun number => jobs.find? fun job => job.number = number with
      | some job => return job
      | none => fail (Bytes.ofString "No such job: " ++ word)

/-- The job as it is now. -/
def current (job : Job) : Doing Job := do
  return ((← get).jobs.find? fun other => other.number = job.number).getD job

/-- Which processes of a job are shown. -/
inductive Detail where
  | plain
  | numbers
  | leaders
deriving DecidableEq, Repr

/-- The text that tells about a job; the first two jobs are marked. -/
def shown (jobs : List Job) (detail : Detail) (job : Job) : Bytes :=
  let pid := job.members.head?.elim 0 Member.pid
  if detail = .leaders then integerText pid ++ [0x0A]
  else
    let number := "[" ++ toString job.number ++ "]   "
    let place := jobs.findIdx? fun other => other.number = job.number
    let mark := if place = some 0 then "+" else if place = some 1 then "-" else " "
    let marked := "[" ++ toString job.number ++ "] " ++ mark ++ " "
    let column := number.length
    let first := marked ++ (if detail = .numbers then toString pid ++ " " else "")
    let state := match job.isRunning, job.ending with
      | false, some ending => endingText ending
      | _, _ => "Running"
    let line := first ++ state
    let blanks (count : Nat) : String := String.ofList (List.replicate (max 1 count) ' ')
    let whole := line ++ blanks (33 - line.length)
    match detail with
    | .numbers =>
        let others := (job.members.drop 1).map fun found =>
          let head := blanks column ++ toString found.pid ++ " "
          " |\n" ++ head ++ blanks (33 - head.length)
        Bytes.ofString (whole ++ String.join others ++ "\n")
    | _ =>
        Bytes.ofString (whole ++ String.join ((job.members.drop 1).map fun _ => " | ") ++ "\n")

/-- Shows a job, which is forgotten if it has ended. -/
def display (detail : Detail) (job : Job) : Doing Unit := do
  let state ← get
  print (shown state.jobs detail job)
  if !job.isRunning && detail ≠ .leaders then
    set { (← get) with jobs := state.jobs.filter fun other => other.number ≠ job.number }

end Jobs

end Shell

end HostnameSandbox

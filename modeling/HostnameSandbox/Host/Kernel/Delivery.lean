import HostnameSandbox.Host.Kernel

/-!
# Delivery of signals

A signal that is sent to a process takes effect at once, unless the process holds it or is stopped;
then it waits.  Signals that have waited take effect in the order of their numbers, each once.
-/

namespace HostnameSandbox

namespace Kernel

/-- Makes a process end.  Its children become orphans; one whose parent is not there to ask how
it ended is forgotten. -/
def finish (kernel : Kernel) (pid : Pid) (status : ExitStatus) : Kernel :=
  match kernel.task? pid with
  | none => kernel
  | some ended =>
      let kept := kernel.tasks.filter fun task =>
        !(task.parent = pid && !task.isAlive) &&
          !(task.pid = pid && pid ≠ kernel.worker && !kernel.isAlive ended.parent)
      { kernel with
        tasks := kept.map fun task =>
          if task.pid = pid then { task with ending := some status, opened := [] }
          else if task.parent = pid then { task with parent := 1 }
          else if task.pid = ended.parent && task.reactionTo .childEnded = .caught then
            task.note .childEnded
          else task }

/-- How long it takes until a process that a signal wakes goes on, by how long it has slept. -/
def wakingTime (slept : Nat) : Nat := if slept < 50000 then 50 else 200

/-- Lets a signal that waits take effect on a process, unless the process is stopped. -/
def act (pid : Pid) (kernel : Kernel) (signal : Signal) : Kernel :=
  match kernel.task? pid with
  | none => kernel
  | some task =>
      if !task.isAlive || task.stopped || !task.waiting.contains signal then kernel
      else
        let kernel := kernel.modify pid fun task =>
          { task with waiting := task.waiting.filter (· != signal) }
        match task.reactionTo signal with
        | .ignored => kernel
        | .ignoredOnce => kernel.modify pid fun task => task.react signal .standard
        | .caught =>
            let clock := max task.clock (kernel.now + wakingTime (kernel.now - task.clock))
            kernel.modify pid fun task => { task.note signal with clock }
        | .standard =>
            if signal.stops then kernel.modify pid fun task => { task with stopped := true }
            else if signal.isFatal then kernel.finish pid (.killed signal)
            else kernel

/-- Changes a process, and lets the signals take effect that do not have to wait any more. -/
def change (kernel : Kernel) (pid : Pid) (change : Task → Task) : Kernel :=
  match kernel.task? pid with
  | none => kernel
  | some task =>
      if !task.isAlive then kernel
      else
        let changed := change task
        changed.due.foldl (act pid) (kernel.modify pid fun _ => changed)

/-- Lets a signal reach a process. -/
def signal (kernel : Kernel) (pid : Pid) (signal : Signal) : Kernel :=
  kernel.change pid fun task => task.receive signal

/-- The processes that a number stands for when a signal is sent: all of them, all others, or one
of them. -/
def addressed (kernel : Kernel) (sender pid : Pid) : List Pid :=
  let all := kernel.tasks.map Task.pid
  if pid = 0 then all.filter (· ≠ sender) ++ [sender]
  else if pid = -1 then all.filter (· ≠ sender)
  else all.filter (· = pid)

/-- Sends a signal to processes. -/
def send (kernel : Kernel) (sender pid : Pid) (signal : Signal) : Except Errno Unit × Kernel :=
  if Signal.greatest < signal.number then (.error .invalidArgument, kernel)
  else
    let targets := kernel.addressed sender pid
    if !targets.isEmpty then
      (.ok (), if signal.number = 0 then kernel
        else targets.foldl (fun kernel target => kernel.signal target signal) kernel)
    else if kernel.bystanders.any fun member => member.1 = pid then
      (if kernel.hidden.contains pid then .error .notPermitted else .ok (), kernel)
    else (.error .noProcess, kernel)

end Kernel

end HostnameSandbox

import HostnameSandbox.Host.Kernel.Calls

/-!
# Running processes

A host is run step by step.  In every step one process makes one call: of those that can go on,
the one whose clock is furthest behind.  A run has a limited number of steps; beyond it, and where
no process can go on, there is no outcome.
-/

namespace HostnameSandbox

/-- How a process comes to an end: with a value, or otherwise. -/
inductive Ending (α : Type) where
  | value (result : α)
  | ended (status : ExitStatus)

namespace Kernel

/-- What comes of a step of a process. -/
inductive Step (α : Type) where
  | blocked
  | again (kernel : Kernel)
  | going (process : Process α) (kernel : Kernel)
  | value (result : α) (kernel : Kernel)

/-- How long a call takes. -/
def callTime : Nat := 10

/-- How long it takes a process to go on as two. -/
def forkTime : Nat := 100

/-- The kernel at the time of a process's next step. -/
def atTimeOf (kernel : Kernel) (task : Task) : Kernel :=
  let now := max kernel.now task.clock
  { kernel with now }.modify task.pid fun task => { task with clock := now + callTime }

/-- Lets a process make one step; `code` tells with which exit code a value of it ends a child. -/
def step {α : Type} (kernel : Kernel) (task : Task) (code : α → UInt8) : Process α → Step α
  | .done value => .value value (kernel.atTimeOf task)
  | .fork next =>
      let kernel := kernel.atTimeOf task
      let (child, kernel) := kernel.fork task (code <$> next none)
      .going (next (some child)) (kernel.modify task.pid fun task =>
        { task with clock := task.clock + forkTime })
  | .loop turn next => .going (.unroll turn next) kernel
  | .call request next =>
      match (kernel.atTimeOf task).attempt task request with
      | .blocked => .blocked
      | .again kernel => .again kernel
      | .answered reply kernel => .going (next reply) kernel

/-- Lets a process that nobody watches make one step, unless it has to wait. -/
def stepOther? (kernel : Kernel) (task : Task) : Option Kernel :=
  match kernel.step task id task.process with
  | .blocked => none
  | .again kernel => some kernel
  | .going process kernel => some (kernel.modify task.pid fun task => { task with process })
  | .value code kernel => some (kernel.finish task.pid (.exited code))

/-- Whether a process is about to turn into another program. -/
def becomes {α : Type} : Process α → Bool
  | .call (.become _ _ _) _ => true
  | _ => false

/-- How far the process that work is done by has come: it is about to do something, or it has
turned into a program that nobody watches. -/
inductive Progress (α : Type) where
  | going (process : Process α)
  | replaced

/-- What comes of a step of the host. -/
inductive HostStep (α : Type) where
  | stuck
  | going (progress : Progress α) (kernel : Kernel)
  | value (result : α) (kernel : Kernel)

/-- Lets the first process make a step that can. -/
def stepFirst {α : Type} (kernel : Kernel) (code : α → UInt8) (progress : Progress α) :
    List Task → HostStep α
  | [] => .stuck
  | task :: tasks =>
      match progress with
      | .going process =>
          if task.pid = kernel.worker then
            match kernel.step task code process with
            | .blocked => stepFirst kernel code progress tasks
            | .again kernel =>
                .going (if becomes process then .replaced else progress) kernel
            | .going process kernel => .going (.going process) kernel
            | .value result kernel => .value result kernel
          else
            match kernel.stepOther? task with
            | none => stepFirst kernel code progress tasks
            | some kernel => .going progress kernel
      | .replaced =>
          match kernel.stepOther? task with
          | none => stepFirst kernel code progress tasks
          | some kernel => .going progress kernel

/-- The processes that may go on, by their clocks. -/
def candidates (kernel : Kernel) : List Task :=
  let living := kernel.tasks.filter fun task => task.isAlive && !task.stopped
  match living with
  | [] | [_] => living
  | _ => living.mergeSort fun one other => decide (one.clock ≤ other.clock)

/-- Runs the host until the process that work is done by has ended, within so many steps. -/
def follow {α : Type} (code : α → UInt8) :
    Nat → Progress α → Kernel → Option (Ending α × Kernel)
  | 0, _, _ => none
  | steps + 1, progress, kernel =>
      match (kernel.task? kernel.worker).bind Task.ending with
      | some status => some (.ended status, kernel)
      | none =>
          match kernel.stepFirst code progress kernel.candidates with
          | .stuck => none
          | .value result kernel => some (.value result, kernel)
          | .going progress kernel => follow code steps progress kernel

/-- Runs a process as the one that work is done by, within so many steps. -/
def run {α : Type} (steps : Nat) (process : Process α) (kernel : Kernel) :
    Option (Ending α × Kernel) :=
  follow (fun _ => 0) steps (.going process) kernel

end Kernel

end HostnameSandbox

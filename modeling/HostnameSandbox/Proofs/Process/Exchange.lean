import HostnameSandbox.Host.Run
import Mathlib.Data.List.Induction

/-!
# Exchanges of processes

A process and the system that it runs on exchange calls and replies.  An exchange is a step of
the process, and a run of a process is a sequence of them, whatever the system may answer.  The
steps that a host lets a process make are such steps.
-/

namespace HostnameSandbox

/-- A sequence of steps from a first state to a last one, with the labels of the steps. -/
inductive Run {State Label : Type} (Step : State → Label → State → Prop) (first : State) :
    List Label → State → Prop
  | start : Run Step first [] first
  | next {labels : List Label} {label : Label} {between last : State} :
      Run Step first labels between → Step between label last →
        Run Step first (labels ++ [label]) last

namespace Run

variable {State Label : Type} {Step : State → Label → State → Prop} {first last : State}
  {labels : List Label}

/-- What holds at first and is kept by every step holds after every run. -/
theorem invariant {Holds : State → Prop} (run : Run Step first labels last) (holds : Holds first)
    (keeps : ∀ state label after, Holds state → Step state label after → Holds after) :
    Holds last := by
  induction run with
  | start => exact holds
  | next run step hypothesis => exact keeps _ _ _ hypothesis step

theorem trans {between : State} {later : List Label} (run : Run Step first labels between)
    (rest : Run Step between later last) : Run Step first (labels ++ later) last := by
  induction rest with
  | start =>
      rw [List.append_nil]
      exact run
  | next rest step hypothesis =>
      rw [← List.append_assoc]
      exact .next hypothesis step

theorem cons {between : State} {label : Label} (step : Step first label between)
    (rest : Run Step between labels last) : Run Step first (label :: labels) last :=
  trans (.next .start step) rest

theorem last_step {label : Label} (run : Run Step first (labels ++ [label]) last) :
    ∃ between, Run Step first labels between ∧ Step between label last := by
  generalize whole : labels ++ [label] = all at run
  cases run with
  | start => simp at whole
  | next run step =>
      obtain ⟨rfl, same⟩ := List.append_inj' whole rfl
      cases same
      exact ⟨_, run, step⟩

theorem split {later : List Label} (run : Run Step first (labels ++ later) last) :
    ∃ between, Run Step first labels between ∧ Run Step between later last := by
  induction later using List.reverseRecOn generalizing last with
  | nil =>
      rw [List.append_nil] at run
      exact ⟨last, run, .start⟩
  | append_singleton later label hypothesis =>
      rw [← List.append_assoc] at run
      obtain ⟨reached, run, step⟩ := run.last_step
      obtain ⟨between, before, after⟩ := hypothesis run
      exact ⟨between, before, .next after step⟩

/-- A run makes each of its steps between two runs. -/
theorem split_at {later : List Label} {label : Label}
    (run : Run Step first (labels ++ label :: later) last) :
    ∃ before after, Run Step first labels before ∧ Step before label after ∧
      Run Step after later last := by
  rw [List.append_cons] at run
  obtain ⟨after, run, rest⟩ := run.split
  obtain ⟨before, run, step⟩ := run.last_step
  exact ⟨before, after, run, step, rest⟩

end Run

/-- A call with the reply that it was answered with. -/
structure Exchange where
  request : Call
  reply : request.Reply

namespace Process

/-- A process makes a call, is answered, and goes on.  A loop makes the calls of its turns. -/
inductive Step {α : Type} : Process α → Exchange → Process α → Prop
  | call (request : Call) (next : request.Reply → Process α) (reply : request.Reply) :
      Step (.call request next) ⟨request, reply⟩ (next reply)
  | loop {turn : Turn (Option ExitStatus)} {next : ExitStatus → Process α} {exchange : Exchange}
      {after : Process α} :
      Step (.unroll turn next) exchange after → Step (.loop turn next) exchange after

end Process

namespace Kernel

/-- Where a host lets a process go on that does not become two, the process has made an
exchange or begun a turn of a loop. -/
theorem step_eq_going {α : Type} {kernel after : Kernel} {task : Task} {code : α → UInt8}
    {process goneOn : Process α} (noFork : ∀ next, process ≠ .fork next)
    (went : kernel.step task code process = .going goneOn after) :
    (∃ exchange, process.Step exchange goneOn) ∨
      ∃ turn next, process = .loop turn next ∧ goneOn = .unroll turn next := by
  cases process with
  | done value => simp [step] at went
  | fork next => exact absurd rfl (noFork next)
  | loop turn next =>
      simp only [step] at went
      cases went
      exact .inr ⟨turn, next, rfl, rfl⟩
  | call request next =>
      simp only [step] at went
      split at went
      · cases went
      · cases went
      · next reply _ _ =>
          cases went
          exact .inl ⟨⟨request, reply⟩, .call request next reply⟩

end Kernel

end HostnameSandbox

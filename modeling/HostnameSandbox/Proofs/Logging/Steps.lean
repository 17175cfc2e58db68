import HostnameSandbox.Proofs.Logging.Answers
import HostnameSandbox.Proofs.Logging.Spawning
import HostnameSandbox.Proofs.Logging.Twins
import HostnameSandbox.Proofs.Namespaces.Following

/-!
# Steps on hosts that differ in what is logged

A process that overlooks what is logged makes the same step on two hosts that differ only in that.
So does a process that plays a stage, whatever it logs and whichever flag it gives its child.
-/

namespace HostnameSandbox

open Process (Twins)

/-- The words of two programs that are given different arguments, whatever leads to them. -/
def Loading.Given (args others : List Bytes) (words also : List Bytes) : Prop :=
  ∃ before path, words = before ++ path :: args ∧ also = before ++ path :: others

theorem Loading.carries_given (args others : List Bytes) : Carries (Given args others) := by
  rintro before path _ _ ⟨opening, leading, rfl, rfl⟩
  cases opening with
  | nil => exact ⟨before, path, rfl, rfl⟩
  | cons word opening => exact ⟨before ++ path :: opening, leading, by simp, by simp⟩

/-- A program that is given nothing but its arguments is given nothing but the other ones in the
other case. -/
theorem Loading.Given.of_eq {args others words : List Bytes} {path : Bytes}
    (given : Given args others (path :: args) words) : words = path :: others := by
  obtain ⟨before, leading, same, rfl⟩ := given
  cases before with
  | nil =>
      obtain ⟨rfl, -⟩ := List.cons.inj same
      rfl
  | cons word before =>
      have long := congrArg List.length same
      simp only [List.cons_append, List.length_cons, List.length_append] at long
      omega

namespace Kernel

variable {sink : Channel} {stages later : List Pid} {one two after : Kernel} {task other : Task}
  {pid : Pid}

/-! ### Processes that play no stage -/

/-- It makes no difference what of a stage changes that is not looked at. -/
theorem modify_muted_of_same {change : Task → Task}
    (same : ∀ task, pid = task.pid → (change task).muted stages = task.muted stages)
    (kernel : Kernel) : (kernel.modify pid change).muted sink stages = kernel.muted sink stages := by
  simp only [muted, modify, List.map_map, Kernel.mk.injEq, true_and, and_true]
  refine List.map_congr_left fun task _ => ?_
  by_cases is : task.pid = pid
  · simp only [Function.comp_apply, if_pos is, same task is.symm]
  · simp only [Function.comp_apply, if_neg is]

theorem goOn_muted_of_mem (member : pid ∈ stages) (kernel : Kernel) (process : Process UInt8) :
    (kernel.modify pid fun task => { task with process }).muted sink stages =
      kernel.muted sink stages := by
  refine modify_muted_of_same ?_ kernel
  rintro task rfl
  simp [Task.muted, member]

theorem goOn_muted (foreign : pid ∉ stages) (kernel : Kernel) (process : Process UInt8) :
    (kernel.modify pid fun task => { task with process }).muted sink stages =
      (kernel.muted sink stages).modify pid fun task => { task with process } := by
  simp only [muted, modify, List.map_map, Kernel.mk.injEq, true_and, and_true]
  refine List.map_congr_left fun task _ => ?_
  by_cases is : task.pid = pid
  · simp [Task.muted, is, foreign]
  · simp [Task.muted, is]

theorem fork_muted {kernel : Kernel} (foreign : task.pid ∉ stages)
    (fresh : kernel.nextPid ∉ stages) (process : Process UInt8) :
    (kernel.fork task process).2.muted sink stages =
      ((kernel.muted sink stages).fork (task.muted stages) process).2 := by
  simp [fork, muted, Task.muted, foreign, fresh]

/-- A process that overlooks what is logged, or writes it where it goes in the same way, makes the
same step on both hosts. -/
theorem stepOther?_alike (foreign : task.pid ∉ stages) (fresh : one.nextPid ∉ stages)
    (same : one.muted sink stages = two.muted sink stages)
    (sameTask : task.muted stages = other.muted stages)
    (alike : ∀ request next, task.process = .call request next →
      ((one.atTimeOf task).attempt task request).Alike sink stages
        ((two.atTimeOf other).attempt other request)) :
    (one.stepOther? task).map (fun kernel => kernel.muted sink stages) =
      (two.stepOther? other).map fun kernel => kernel.muted sink stages := by
  have pid : task.pid = other.pid := (congrArg Task.pid sameTask :)
  have process : task.process = other.process := by
    have muted : (task.muted stages).process = (other.muted stages).process :=
      congrArg Task.process sameTask
    simpa [Task.muted, foreign, ← pid] using muted
  have times : (one.atTimeOf task).muted sink stages = (two.atTimeOf other).muted sink stages := by
    rw [atTimeOf_muted, atTimeOf_muted, same, sameTask]
  unfold stepOther?
  rw [← process, ← pid]
  cases doing : task.process with
  | done code =>
      simp only [step, Option.map_some]
      rw [finish_muted, finish_muted, times]
  | loop turn next =>
      simp only [step, Option.map_some]
      rw [goOn_muted foreign, goOn_muted foreign, same]
  | fork next =>
      have next? : one.nextPid = two.nextPid := (congrArg Kernel.nextPid same :)
      have forked : ((one.atTimeOf task).fork task (next none)).2.muted sink stages =
          ((two.atTimeOf other).fork other (next none)).2.muted sink stages := by
        have freshToo : two.nextPid ∉ stages := next? ▸ fresh
        rw [fork_muted foreign (by exact fresh), fork_muted (pid ▸ foreign) (by exact freshToo),
          times, sameTask]
      have later (kernel : Kernel) (clock : Nat) :
          (kernel.modify task.pid fun task => { task with clock := task.clock + clock }).muted sink
            stages = (kernel.muted sink stages).modify task.pid fun task =>
              { task with clock := task.clock + clock } :=
        modify_muted (fun _ => rfl) kernel task.pid
      have child : ((one.atTimeOf task).fork task (next none)).1 =
          ((two.atTimeOf other).fork other (next none)).1 := next?
      simp only [step, id_map, Option.map_some, ← pid]
      rw [goOn_muted foreign, goOn_muted foreign, later, later, forked, child]
  | call request next =>
      have tried := alike request next doing
      simp only [step]
      generalize (one.atTimeOf task).attempt task request = attempt at tried
      generalize (two.atTimeOf other).attempt other request = attemptToo at tried
      cases tried with
      | blocked => rfl
      | again same => simp only [Option.map_some, same]
      | answered reply same =>
          simp only [Option.map_some]
          rw [goOn_muted foreign, goOn_muted foreign, same]

end Kernel

end HostnameSandbox

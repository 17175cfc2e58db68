import HostnameSandbox.Proofs.Namespaces.Moves

/-!
# Contracts among moves

A process of a host that keeps a contract goes on keeping it, whatever the others do.  A move of
its own leaves it where it was in its contract, or is an exchange that the contract allows.
-/

namespace HostnameSandbox

/-- Whoever keeps the contract neither turns into another program nor ends by a call. -/
def Contract.Steadfast {State : Type} (contract : Contract State) : Prop :=
  ∀ state, (∀ path words environment, ¬ contract.allows state (.become path words environment)) ∧
    ∀ code, ¬ contract.allows state (.exit code)

namespace Kernel

variable {kernel before after : Kernel} {task : Task} {move : Move} {mover pid : Pid}

/-! ### Calls that are made again -/

theorem settles_of_write_again {losses : Loss → Prop} {descriptor : Descriptor} {bytes : Bytes}
    (again : kernel.write task descriptor bytes = .again after) :
    kernel.Settles mover losses after := by
  unfold write at again
  split at again
  · cases again
  · next number handle found =>
      split at again
      · cases again
      · split at again
        · cases again
        · next pipe is =>
            exact (settles_writePipe kernel task descriptor pipe bytes).of_again again
        · exact (settles_writeStored kernel task descriptor number handle bytes).of_again again
        · exact (settles_writeStored kernel task descriptor number handle bytes).of_again again
        · cases again
        · cases again
        · cases again
        · cases again

/-- Only what does not fit into a pipe yet is tried again, apart from calls that do not return. -/
theorem again_cases {request : Call} (again : kernel.attempt task request = .again after) :
    (∃ descriptor bytes, request = .write descriptor bytes) ∨
      (∃ path words environment, request = .become path words environment) ∨
      ∃ code, request = .exit code := by
  cases request with
  | write descriptor bytes => exact .inl ⟨descriptor, bytes, rfl⟩
  | become path words environment => exact .inr (.inl ⟨path, words, environment, rfl⟩)
  | exit code => exact .inr (.inr ⟨code, rfl⟩)
  | read descriptor limit =>
      simp only [attempt, read] at again
      repeat' split at again
      all_goals cases again
  | select child signals =>
      simp only [attempt, select] at again
      repeat' split at again
      all_goals cases again
  | await child =>
      simp only [attempt, await] at again
      repeat' split at again
      all_goals cases again
  | awaitAny patience =>
      simp only [attempt, awaitAny] at again
      repeat' split at again
      all_goals cases again
  | _ =>
      simp only [attempt] at again
      repeat' split at again
      all_goals cases again

/-! ### Moves of one process -/

theorem Coherent.task?_eq (coherent : kernel.Coherent) (member : task ∈ kernel.tasks) :
    kernel.task? task.pid = some task := by
  have present : (kernel.task? task.pid).isSome :=
    List.find?_isSome.2 ⟨task, member, by simp⟩
  obtain ⟨found, isFound⟩ := Option.isSome_iff_exists.1 present
  rw [isFound, coherent.eq_of_pid (mem_of_task? isFound) member (task?_pid isFound)]

/-- A process that can make a step may act. -/
theorem mayAct_of_stepOther? (coherent : kernel.Coherent) (member : task ∈ kernel.tasks)
    (alive : task.isAlive) (steps : kernel.stepOther? task ≠ none) : kernel.mayAct task.pid := by
  rw [mayAct, coherent.task?_eq member]
  simpa [alive, Option.isSome_iff_ne_none] using steps

theorem mayAct_of_call (coherent : kernel.Coherent) (member : task ∈ kernel.tasks)
    (alive : task.isAlive) {request : Call} {next : request.Reply → Process UInt8}
    (calls : task.process = .call request next)
    (free : (kernel.atTimeOf task).attempt task request ≠ .blocked) : kernel.mayAct task.pid := by
  refine mayAct_of_stepOther? coherent member alive ?_
  rw [stepOther?, calls, step]
  cases tried : (kernel.atTimeOf task).attempt task request with
  | blocked => exact absurd tried free
  | again after => exact Option.some_ne_none _
  | answered reply between => exact Option.some_ne_none _

/-- Where nobody has moved, a process is about to do what it was. -/
theorem Coherent.process_eq {found : Task} (coherent : before.Coherent)
    (steady : ∀ mover, before.Steady mover after) (member : task ∈ before.tasks)
    (isFound : found ∈ after.tasks) (same : found.pid = task.pid) :
    found.process = task.process := by
  obtain ⟨earlier, isEarlier, continues⟩ := (steady (found.pid - 1)).tasks found isFound
  rw [← coherent.eq_of_pid isEarlier member (continues.pid.symm.trans same)]
  exact continues.process (Int.ne_of_gt (Int.sub_one_lt_of_le (Int.le_refl _)))

/-- What a process does next is what it was told to. -/
theorem process_goOn {process : Process UInt8}
    (member : task ∈ (kernel.modify pid fun task => { task with process }).tasks)
    (is : task.pid = pid) : task.process = process := by
  obtain ⟨earlier, -, rfl⟩ := List.mem_map.1 member
  by_cases own : earlier.pid = pid
  · rw [if_pos own]
  · rw [if_neg own] at is
    exact absurd is own

/-- What comes of a move of a process that is about to make a call. -/
inductive Calls (task : Task) (request : Call) (next : request.Reply → Process UInt8)
    (before after : Kernel) : Prop
  | answered {reply : request.Reply} {between : Kernel}
      (answered : (before.atTimeOf task).attempt task request = .answered reply between)
      (is : after = between.modify task.pid fun task => { task with process := next reply })
  | again (again : (before.atTimeOf task).attempt task request = .again after)
  | fails {reply : request.Reply} (fails : Exchange.Fails ⟨request, reply⟩)
      (is : after = before.modify task.pid fun task => { task with process := next reply })

namespace Moves

theorem isAlive_mover (moves : Moves before move after) (coherent : before.Coherent)
    (member : task ∈ before.tasks) (made : move.mover? = some task.pid) : task.isAlive := by
  cases moves with
  | act isMover alive _ => exact coherent.eq_of_pid isMover member (Option.some.inj made) ▸ alive
  | fail isMover alive _ _ =>
      exact coherent.eq_of_pid isMover member (Option.some.inj made) ▸ alive
  | signal other signal => cases made
  | grant privilege => cases made

/-- A move of a process is a step of it, or a call of it fails. -/
theorem acts_or_fails (moves : Moves before move after) (coherent : before.Coherent)
    (member : task ∈ before.tasks) (made : move.mover? = some task.pid) :
    before.Acts task after ∨ ∃ exchange next, task.process.Step exchange next ∧ exchange.Fails ∧
      after = before.modify task.pid fun task => { task with process := next } := by
  cases moves with
  | act isMover alive stepped =>
      obtain rfl := coherent.eq_of_pid isMover member (Option.some.inj made)
      exact .inl (acts_of_stepOther? stepped)
  | fail isMover alive step fails =>
      obtain rfl := coherent.eq_of_pid isMover member (Option.some.inj made)
      exact .inr ⟨_, _, step, fails, rfl⟩
  | signal other signal => cases made
  | grant privilege => cases made

theorem calls (moves : Moves before move after) (coherent : before.Coherent)
    (member : task ∈ before.tasks) (made : move.mover? = some task.pid) {request : Call}
    {next : request.Reply → Process UInt8} (calls : task.process = .call request next) :
    Calls task request next before after := by
  rcases moves.acts_or_fails coherent member made with acts | ⟨exchange, later, step, fails, is⟩
  · cases acts with
    | ends came => cases calls.symm.trans came
    | turns loops => cases calls.symm.trans loops
    | forks splits => cases calls.symm.trans splits
    | tries asks again =>
        cases calls.symm.trans asks
        exact .again again
    | makes asks answered =>
        cases calls.symm.trans asks
        exact .answered answered rfl
  · rw [calls] at step
    cases step with
    | call _ _ reply => exact .fails fails is

end Moves

section Following

variable {State : Type} {contract : Contract State} {ends : UInt8 → State → Prop} {state : State}

/-- The process with a number keeps a contract. -/
def Keeps (contract : Contract State) (ends : UInt8 → State → Prop) (pid : Pid) (state : State)
    (kernel : Kernel) : Prop :=
  ∀ task ∈ kernel.tasks, task.pid = pid → task.process.Keeps contract ends state

/-- What comes of a move of a process that keeps a contract. -/
inductive Follows (contract : Contract State) (ends : UInt8 → State → Prop) (pid : Pid)
    (state : State) (before after : Kernel) : Prop
  | rests (steady : before.Steady pid after) (keeps : after.Keeps contract ends pid state)
  | fails {exchange : Exchange} (allowed : contract.allows state exchange.request)
      (fails : exchange.Fails) (steady : before.Steady pid after)
      (keeps : after.Keeps contract ends pid (contract.after state exchange))
  | makes {task : Task} {request : Call} {reply : request.Reply} {ready between : Kernel}
      (member : task ∈ before.tasks) (is : task.pid = pid)
      (allowed : contract.allows state request) (begins : before.Steady pid ready)
      (answered : ready.attempt task request = .answered reply between)
      (rest : between.Steady pid after)
      (keeps : after.Keeps contract ends pid (contract.after state ⟨request, reply⟩))

/-- A process whose turn it is not goes on keeping its contract. -/
theorem Keeps.of_steady (keeps : before.Keeps contract ends pid state) (other : mover ≠ pid)
    (steady : before.Steady mover after) : after.Keeps contract ends pid state := by
  rintro task member rfl
  obtain ⟨earlier, isEarlier, continues⟩ := steady.tasks task member
  rw [continues.process other.symm]
  exact keeps earlier isEarlier continues.pid.symm

theorem keeps_modify {process : Process UInt8} (keeps : process.Keeps contract ends state)
    (kernel : Kernel) (pid : Pid) :
    (kernel.modify pid fun task => { task with process }).Keeps contract ends pid state := by
  intro later member is
  obtain ⟨task, -, rfl⟩ := List.mem_map.1 member
  by_cases own : task.pid = pid
  · simpa [own] using keeps
  · simp [own] at is

theorem Acts.follows (steadfast : contract.Steadfast) (member : task ∈ kernel.tasks)
    (keeps : kernel.Keeps contract ends task.pid state) (acts : kernel.Acts task after) :
    Follows contract ends task.pid state kernel after := by
  have now := keeps task member rfl
  have begins {mover : Pid} : kernel.Steady mover (kernel.atTimeOf task) :=
    steady_atTimeOf kernel task
  have other : task.pid - 1 ≠ task.pid :=
    Int.ne_of_lt (Int.sub_one_lt_of_le (Int.le_refl _))
  cases acts with
  | @ends code came =>
      have steady {mover : Pid} : kernel.Steady mover _ :=
        begins.trans (steady_finish (kernel.atTimeOf task) task.pid (.exited code))
      exact .rests steady (keeps.of_steady other steady)
  | turns loops =>
      rw [loops] at now
      exact .rests (steady_goOn _ kernel task.pid) (keeps_modify now.unroll kernel task.pid)
  | forks splits change seat =>
      rw [splits] at now
      exact now.elim
  | @tries request next after calls again =>
      rw [calls] at now
      rcases again_cases again with
        ⟨descriptor, bytes, rfl⟩ | ⟨path, words, environment, rfl⟩ | ⟨code, rfl⟩
      · have settles {mover : Pid} : (kernel.atTimeOf task).Settles mover (fun _ => False) after :=
          settles_of_write_again again
        have steady {mover : Pid} : kernel.Steady mover after := begins.trans settles.steady
        exact .rests steady (keeps.of_steady other steady)
      · exact absurd now.1 ((steadfast state).1 path words environment)
      · exact absurd now.1 ((steadfast state).2 code)
  | @makes request next reply between calls answered =>
      rw [calls] at now
      exact .makes member rfl now.1 begins answered (steady_goOn _ between task.pid)
        (keeps_modify (now.2 reply) between task.pid)

/-- A process that keeps a contract goes on keeping it: it has not moved, or its move is one that
the contract allows. -/
theorem Moves.follows (steadfast : contract.Steadfast) (known : pid < before.nextPid)
    (keeps : before.Keeps contract ends pid state)
    (moves : Moves before move after) :
    (move.mover? ≠ some pid ∧ after.Keeps contract ends pid state) ∨
      move.mover? = some pid ∧ Follows contract ends pid state before after := by
  by_cases made : move.mover? = some pid
  · refine .inr ⟨made, ?_⟩
    cases moves with
    | act member alive stepped =>
        cases made
        exact (acts_of_stepOther? stepped).follows steadfast member keeps
    | @fail task exchange next member alive step fails =>
        cases made
        obtain ⟨allowed, goesOn⟩ := (keeps task member rfl).step step
        exact .fails allowed fails (steady_goOn next before task.pid)
          (keeps_modify goesOn before task.pid)
    | signal other signal => cases made
    | grant privilege => cases made
  · exact .inl ⟨made, moves.idle (·.Keeps contract ends state) known made keeps⟩

/-- A process keeps a contract throughout a run, in a state of which all that exchanges leave true is
true. -/
theorem Keeps.of_run {first last : Kernel} {trace : List Move} {Holds : State → Prop}
    (steadfast : contract.Steadfast) (known : pid < first.nextPid)
    (keeps : first.Keeps contract ends pid state) (run : Run Moves first trace last)
    (holds : Holds state)
    (closed : ∀ state exchange, Holds state → Holds (contract.after state exchange)) :
    ∃ later, Holds later ∧ last.Keeps contract ends pid later := by
  induction run with
  | start => exact ⟨state, holds, keeps⟩
  | next run moves hypothesis =>
      obtain ⟨between, holds, keeps⟩ := hypothesis
      have known := Int.lt_of_lt_of_le known (grows_of_run run).2
      rcases moves.follows steadfast known keeps with ⟨-, keeps⟩ | ⟨-, follows⟩
      · exact ⟨between, holds, keeps⟩
      · cases follows with
        | rests steady keeps => exact ⟨between, holds, keeps⟩
        | fails allowed fails steady keeps => exact ⟨_, closed _ _ holds, keeps⟩
        | makes member is allowed begins answered rest keeps =>
            exact ⟨_, closed _ _ holds, keeps⟩

end Following

end Kernel

end HostnameSandbox

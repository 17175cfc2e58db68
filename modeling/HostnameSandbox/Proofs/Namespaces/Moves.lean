import HostnameSandbox.Proofs.Namespaces.Places
import HostnameSandbox.Proofs.Namespaces.Preparation
import Mathlib.Data.List.Nodup

/-!
# Moves of a host

A host goes on by moves.  One of its processes makes a step, whichever it is and whatever it runs,
or fails to make a call; or something comes from outside.  No move brings a process from one
namespace into another, and none changes a host name but in the namespace of the process that
makes it.
-/

namespace HostnameSandbox

/-- A move of a host; one that comes from outside is made by no process. -/
structure Move where
  mover? : Option Pid
  before : Kernel
  after : Kernel

namespace Kernel

/-- How a host goes on. -/
inductive Moves : Kernel → Move → Kernel → Prop
  | act {kernel after : Kernel} {task : Task} (member : task ∈ kernel.tasks)
      (alive : task.isAlive) (stepped : kernel.stepOther? task = some after) :
      Moves kernel ⟨some task.pid, kernel, after⟩ after
  /-- A call fails, whatever the reason. -/
  | fail {kernel : Kernel} {task : Task} {exchange : Exchange} {next : Process UInt8}
      (member : task ∈ kernel.tasks) (alive : task.isAlive)
      (step : task.process.Step exchange next) (fails : exchange.Fails) :
      Moves kernel
        ⟨some task.pid, kernel, kernel.modify task.pid fun task => { task with process := next }⟩
        (kernel.modify task.pid fun task => { task with process := next })
  | signal (kernel : Kernel) (pid : Pid) (signal : Signal) :
      Moves kernel ⟨none, kernel, kernel.signal pid signal⟩ (kernel.signal pid signal)
  /-- From now on, programs are started with or without privilege. -/
  | grant (kernel : Kernel) (privilege : Bool) :
      Moves kernel ⟨none, kernel, { kernel with grantsPrivilege := privilege }⟩
        { kernel with grantsPrivilege := privilege }

/-- No two processes have the same number, the next number is above all of them, and every process
is in a namespace that is there. -/
structure Coherent (kernel : Kernel) : Prop where
  distinct : (kernel.tasks.map Task.pid).Nodup
  known : ∀ task ∈ kernel.tasks, task.pid < kernel.nextPid
  housed : ∀ member ∈ kernel.members, member.2 < kernel.names.length

/-- What comes of a step of a process. -/
inductive Acts (kernel : Kernel) (task : Task) : Kernel → Prop
  | ends {code : UInt8} (came : task.process = .done code) :
      Acts kernel task ((kernel.atTimeOf task).finish task.pid (.exited code))
  | turns {turn : Turn (Option ExitStatus)} {next : ExitStatus → Process UInt8}
      (loops : task.process = .loop turn next) :
      Acts kernel task
        (kernel.modify task.pid fun task => { task with process := .unroll turn next })
  | forks {next : Option Pid → Process UInt8} (splits : task.process = .fork next)
      (change : Task → Task) (seat : ∀ task, ((change task).pid, (change task).parent,
        (change task).uts, (change task).ending) =
          (task.pid, task.parent, task.uts, task.ending)) :
      Acts kernel task
        (((kernel.atTimeOf task).fork task (next none)).2.modify task.pid change)
  | tries {request : Call} {next : request.Reply → Process UInt8} {after : Kernel}
      (calls : task.process = .call request next)
      (again : (kernel.atTimeOf task).attempt task request = .again after) :
      Acts kernel task after
  | makes {request : Call} {next : request.Reply → Process UInt8} {reply : request.Reply}
      {between : Kernel} (calls : task.process = .call request next)
      (answered : (kernel.atTimeOf task).attempt task request = .answered reply between) :
      Acts kernel task
        (between.modify task.pid fun task => { task with process := next reply })

variable {kernel ready before between after : Kernel} {task child : Task} {mover pid : Pid}

/-- Nobody has the number that the next process will have. -/
theorem Coherent.ne_nextPid (coherent : kernel.Coherent) (member : task ∈ kernel.tasks) :
    task.pid ≠ kernel.nextPid :=
  Int.ne_of_lt (coherent.known task member)

theorem modify_modify (kernel : Kernel) (pid : Pid) {first second : Task → Task}
    (same : ∀ task, (first task).pid = task.pid) :
    (kernel.modify pid first).modify pid second = kernel.modify pid (second ∘ first) := by
  simp only [modify, List.map_map]
  congr 1
  refine List.map_congr_left fun task _ => ?_
  by_cases is : task.pid = pid <;> simp [is, same]

theorem acts_of_stepOther? (stepped : kernel.stepOther? task = some after) :
    kernel.Acts task after := by
  unfold stepOther? at stepped
  cases process : task.process with
  | done code =>
      rw [process] at stepped
      cases stepped
      exact .ends process
  | loop turn next =>
      rw [process] at stepped
      cases stepped
      exact .turns process
  | fork next =>
      rw [process] at stepped
      simp only [step, id_map, Option.some.injEq] at stepped
      subst stepped
      rw [modify_modify]
      · exact .forks process _ fun _ => rfl
      · exact fun _ => rfl
  | call request next =>
      rw [process] at stepped
      simp only [step] at stepped
      cases tried : (kernel.atTimeOf task).attempt task request with
      | blocked =>
          rw [tried] at stepped
          cases stepped
      | again after =>
          rw [tried] at stepped
          cases stepped
          exact .tries process tried
      | answered reply between =>
          rw [tried] at stepped
          cases stepped
          exact .makes process tried

/-! ### What a move can change -/

end Kernel

/-- A process is about to create a child, in a new namespace if `fresh` is set. -/
def Task.MayBear (task : Task) (fresh : Bool) : Prop :=
  (∃ spawning next, task.process = .call (.spawn spawning) next ∧ spawning.isolation.uts = fresh) ∨
    fresh = false ∧ ∃ next, task.process = .fork next

/-- A process is about to make a call by which it may change the names in its namespace. -/
def Task.MayRename (task : Task) (kernel : Kernel) : Prop :=
  ∃ request next, task.process = .call request next ∧ request.Renames kernel task

/-- What may be lost by what a process is about to do. -/
def Task.MayLose (task : Task) (kernel : Kernel) (loss : Loss) : Prop :=
  (∃ code, task.process = .done code ∧ loss = .exited task.pid code) ∨
    ∃ request next, task.process = .call request next ∧ request.Loses kernel task loss

namespace Kernel

variable {kernel ready before between after : Kernel} {task child : Task} {mover pid : Pid}
  {fresh : Bool}

/-- What a step of a process can change: nothing but what lets the host go on, the names in the
namespace of the process, or that there is a child more. -/
inductive Shift (task : Task) (before : Kernel) : Kernel → Prop
  | settles {after : Kernel} (settles : before.Settles task.pid (task.MayLose before) after) :
      Shift task before after
  | renamed {ready after : Kernel} (may : task.MayRename before)
      (begins : before.Settles task.pid (task.MayLose before) ready) (change : Names → Names)
      (rest : (ready.setNames task change).Settles task.pid (task.MayLose before) after) :
      Shift task before after
  | bore {ready between after : Kernel} {child : Task} {fresh : Bool} (may : task.MayBear fresh)
      (begins : before.Resumes task.pid ready) (bears : Bears fresh task child ready between)
      (rest : between.Resumes task.pid after) : Shift task before after

theorem resumes_atTimeOf (kernel : Kernel) (task : Task) :
    kernel.Resumes mover (kernel.atTimeOf task) := by
  have same : kernel.SameCompany { kernel with now := max kernel.now task.clock } :=
    ⟨rfl, rfl, rfl, rfl, rfl⟩
  refine same.resumes.trans (resumes_modify fun other member is => ⟨other, member, is, ?_⟩)
  exact .of_seat rfl (fun _ => rfl) fun _ => rfl

theorem steady_atTimeOf (kernel : Kernel) (task : Task) :
    kernel.Steady mover (kernel.atTimeOf task) :=
  (resumes_atTimeOf kernel task).steady

theorem houses_atTimeOf (member : task ∈ kernel.tasks) : (kernel.atTimeOf task).Houses task := by
  refine ⟨_, List.mem_map_of_mem member, ?_⟩
  rw [if_pos rfl]
  exact .of_seat rfl (fun _ => rfl) fun _ => rfl

/-- Nobody is a child of another one because a process has a turn. -/
theorem exists_of_mem_atTimeOf (member : child ∈ (kernel.atTimeOf task).tasks) :
    ∃ earlier ∈ kernel.tasks, earlier.pid = child.pid ∧ earlier.parent = child.parent := by
  obtain ⟨earlier, isEarlier, rfl⟩ := List.mem_map.1 member
  refine ⟨earlier, isEarlier, ?_⟩
  split <;> exact ⟨rfl, rfl⟩

theorem loses_of_atTimeOf {request : Call} {loss : Loss}
    (loses : request.Loses (kernel.atTimeOf task) task loss) : request.Loses kernel task loss := by
  cases request with
  | awaitAny patience =>
      cases loss with
      | exited pid code => exact loses
      | forgotten pid =>
          obtain ⟨child, member, rfl, isChild⟩ := loses
          obtain ⟨earlier, isEarlier, same, parent⟩ := exists_of_mem_atTimeOf member
          exact ⟨earlier, isEarlier, same, parent.trans isChild⟩
  | _ => cases loss <;> exact loses

theorem resumes_goOn (process : Process UInt8) (kernel : Kernel) (pid : Pid) :
    kernel.Resumes pid (kernel.modify pid fun task => { task with process }) := by
  refine resumes_own ?_ kernel pid
  exact fun _ => rfl

theorem steady_goOn (process : Process UInt8) (kernel : Kernel) (pid : Pid) :
    kernel.Steady pid (kernel.modify pid fun task => { task with process }) :=
  (resumes_goOn process kernel pid).steady

/-- What a call changes is what a step of the process can change that makes it. -/
theorem Change.shift {request : Call} {next : request.Reply → Process UInt8}
    (calls : task.process = .call request next)
    (change : Change request task (kernel.atTimeOf task) between)
    (rest : between.Resumes task.pid after) : Shift task kernel after := by
  have begins : kernel.Resumes task.pid (kernel.atTimeOf task) := resumes_atTimeOf kernel task
  have may (loss : Loss) (loses : request.Loses (kernel.atTimeOf task) task loss) :
      task.MayLose kernel loss :=
    .inr ⟨request, next, calls, loses_of_atTimeOf loses⟩
  cases change with
  | settles settles =>
      exact .settles (.trans (.resumes begins) (.trans (settles.mono may) (.resumes rest)))
  | renamed change renames renamed =>
      refine .renamed ⟨request, next, calls, ?_⟩ (.resumes begins) change
        (.trans (renamed.mono may) (.resumes rest))
      cases request with
      | write descriptor bytes => exact renames
      | setHostname name => trivial
      | setDomain name => trivial
      | _ => exact renames.elim
  | bore asked bears =>
      subst asked
      exact .bore (.inl ⟨_, next, calls, rfl⟩) begins bears rest

theorem Acts.shift (member : task ∈ kernel.tasks) (acts : kernel.Acts task after) :
    Shift task kernel after := by
  have begins : kernel.Resumes task.pid (kernel.atTimeOf task) := resumes_atTimeOf kernel task
  cases acts with
  | ends came => exact .settles (.trans (.resumes begins) (.exited (.inl ⟨_, came, rfl⟩) _))
  | turns loops => exact .settles (.resumes (resumes_goOn _ kernel task.pid))
  | @forks next splits change seat =>
      obtain ⟨child, bears, -⟩ := bears_fork (kernel.atTimeOf task) task (next none)
      exact .bore (.inr ⟨rfl, next, splits⟩) begins bears (resumes_own seat _ task.pid)
  | @tries request next after calls again =>
      have change := (leaves_attempt (houses_atTimeOf member)).of_again again
      exact change.shift calls (SameCompany.refl after).resumes
  | @makes request next reply between calls answered =>
      have change := (leaves_attempt (houses_atTimeOf member)).of_answered answered
      exact change.shift calls (resumes_goOn _ between task.pid)

/-- A process that has just been created, in a new namespace or in that of the process that has
created it. -/
structure Newborn (fresh : Bool) (task : Task) (before after : Kernel) (child : Task) : Prop where
  may : task.MayBear fresh
  pid : child.pid = before.nextPid
  nextPid : after.nextPid = before.nextPid + 1
  uts : child.uts = if fresh then before.names.length else task.uts
  parent : child.parent = task.pid
  ending : child.ending = task.ending
  names : fresh → before.names.length < after.names.length

/-- Who has just been created is none of those that were there before. -/
theorem Newborn.pid_ne (newborn : Newborn fresh task before after child)
    (known : pid < before.nextPid) : child.pid ≠ pid :=
  newborn.pid ▸ (Int.ne_of_lt known).symm

namespace Shift

/-- Every process was there before, or has just been created. -/
theorem tasks (shift : Shift task before after) :
    ∀ other ∈ after.tasks, (∃ earlier ∈ before.tasks, earlier.Continues task.pid other) ∨
      ∃ fresh, Newborn fresh task before after other := by
  intro other isOther
  cases shift with
  | settles settles => exact .inl (settles.steady.tasks other isOther)
  | renamed may begins change rest =>
      obtain ⟨between, isBetween, later⟩ := rest.steady.tasks other isOther
      obtain ⟨earlier, isEarlier, sooner⟩ := begins.steady.tasks between isBetween
      exact .inl ⟨earlier, isEarlier, sooner.trans later⟩
  | bore may begins bears rest =>
      obtain ⟨between, isBetween, later⟩ := rest.tasks other isOther
      rw [bears.tasks, List.mem_append, List.mem_singleton] at isBetween
      rcases isBetween with isReady | rfl
      · obtain ⟨earlier, isEarlier, sooner⟩ := begins.tasks between isReady
        exact .inl ⟨earlier, isEarlier, sooner.toContinues.trans later.toContinues⟩
      · refine .inr ⟨_, may, ?_, ?_, ?_, ?_, ?_, fun fresh => ?_⟩
        · rw [later.pid, bears.pid, begins.nextPid]
        · rw [rest.nextPid, bears.nextPid, begins.nextPid]
        · rw [later.uts, bears.uts, begins.names]
        · rw [later.parent, bears.parent]
        · rw [later.ending, bears.ending]
        · rw [rest.names, bears.names, if_pos fresh, begins.names, List.length_append]
          exact Nat.lt_succ_self _

theorem bystanders (shift : Shift task before after) : after.bystanders = before.bystanders := by
  cases shift with
  | settles settles => exact settles.steady.bystanders
  | renamed may begins change rest =>
      exact rest.steady.bystanders.trans begins.steady.bystanders
  | bore may begins bears rest =>
      exact rest.bystanders.trans (bears.bystanders.trans begins.bystanders)

theorem grows (shift : Shift task before after) :
    before.names.length ≤ after.names.length ∧ before.nextPid ≤ after.nextPid := by
  cases shift with
  | settles settles => simp [settles.steady.names, settles.steady.nextPid]
  | renamed may begins change rest =>
      simp [rest.steady.names, rest.steady.nextPid, setNames, begins.steady.names,
        begins.steady.nextPid]
  | @bore ready between after child fresh may begins bears rest =>
      have later : before.nextPid ≤ before.nextPid + 1 := Int.le_of_lt (Int.lt_succ _)
      rw [rest.names, rest.nextPid, bears.names, bears.nextPid, begins.names, begins.nextPid]
      cases fresh <;> simp [later]

/-- A name that changes is that of the namespace of the process. -/
theorem names (shift : Shift task before after) {number : Nat}
    (present : number < before.names.length) :
    after.names[number]? = before.names[number]? ∨ number = task.uts ∧ task.MayRename before := by
  cases shift with
  | settles settles => exact .inl (by rw [settles.steady.names])
  | renamed may begins change rest =>
      by_cases is : task.uts = number
      · exact .inr ⟨is.symm, may⟩
      · left
        rw [rest.steady.names, setNames, List.getElem?_set_ne is, begins.steady.names]
  | @bore ready between after child fresh may begins bears rest =>
      left
      rw [rest.names, bears.names, begins.names]
      cases fresh with
      | false => rfl
      | true => exact List.getElem?_append_left present

theorem distinct (shift : Shift task before after) (coherent : before.Coherent) :
    (after.tasks.map Task.pid).Nodup := by
  cases shift with
  | settles settles => exact coherent.distinct.sublist settles.steady.pids
  | renamed may begins change rest =>
      exact coherent.distinct.sublist (rest.steady.pids.trans begins.steady.pids)
  | bore may begins bears rest =>
      rw [rest.pids, bears.tasks, List.map_append, List.map_singleton, begins.pids]
      refine coherent.distinct.append (List.nodup_singleton _) ?_
      rw [List.disjoint_singleton, bears.pid, begins.nextPid]
      intro isOld
      obtain ⟨old, isReady, same⟩ := List.mem_map.1 isOld
      exact coherent.ne_nextPid isReady same

end Shift

namespace Moves

variable {move : Move}

/-- A move is a step of one process, or comes from outside and lets the host go on. -/
theorem effect (moves : Moves before move after) : move.before = before ∧ move.after = after ∧
    ((∃ task ∈ before.tasks, move.mover? = some task.pid ∧ Shift task before after) ∨
      move.mover? = none ∧ ∀ mover, before.Settles mover (fun _ => False) after) := by
  cases moves with
  | act member alive stepped =>
      exact ⟨rfl, rfl, .inl ⟨_, member, rfl, (acts_of_stepOther? stepped).shift member⟩⟩
  | @fail task exchange next member alive step fails =>
      exact ⟨rfl, rfl, .inl ⟨_, member, rfl, .settles (.resumes (resumes_goOn next before task.pid))⟩⟩
  | signal pid signal =>
      exact ⟨rfl, rfl, .inr ⟨rfl, fun mover => settles_signal before pid signal⟩⟩
  | grant privilege =>
      have same : before.SameCompany { before with grantsPrivilege := privilege } :=
        ⟨rfl, rfl, rfl, rfl, rfl⟩
      exact ⟨rfl, rfl, .inr ⟨rfl, fun mover => same.settles⟩⟩

theorem before_eq (moves : Moves before move after) : move.before = before := moves.effect.1

theorem after_eq (moves : Moves before move after) : move.after = after := moves.effect.2.1

theorem grows (moves : Moves before move after) :
    before.names.length ≤ after.names.length ∧ before.nextPid ≤ after.nextPid := by
  obtain ⟨-, -, ⟨task, -, -, shift⟩ | ⟨-, settles⟩⟩ := moves.effect
  · exact shift.grows
  · simp [(settles 0).steady.names, (settles 0).steady.nextPid]

theorem names (moves : Moves before move after) {number : Nat}
    (present : number < before.names.length) :
    after.names[number]? = before.names[number]? ∨
      ∃ task ∈ before.tasks, move.mover? = some task.pid ∧ number = task.uts ∧
        task.MayRename before := by
  obtain ⟨-, -, ⟨task, member, made, shift⟩ | ⟨-, settles⟩⟩ := moves.effect
  · rcases shift.names present with same | ⟨is, may⟩
    · exact .inl same
    · exact .inr ⟨task, member, made, is, may⟩
  · exact .inl (by rw [(settles 0).steady.names])

/-- Every process was there before, in the same namespace, or has just been created. -/
theorem tasks (moves : Moves before move after) : ∀ other ∈ after.tasks,
    (∃ earlier ∈ before.tasks, other.pid = earlier.pid ∧ other.uts = earlier.uts ∧
      (move.mover? ≠ some other.pid → other.process = earlier.process)) ∨
    ∃ task ∈ before.tasks, ∃ fresh, move.mover? = some task.pid ∧
      Newborn fresh task before after other := by
  intro other member
  obtain ⟨-, -, ⟨task, isTask, made, shift⟩ | ⟨-, settles⟩⟩ := moves.effect
  · rcases shift.tasks other member with ⟨earlier, isEarlier, continues⟩ | ⟨fresh, newborn⟩
    · refine .inl ⟨earlier, isEarlier, continues.pid, continues.uts, fun others => ?_⟩
      exact continues.process fun is => others (made.trans (congrArg some is.symm))
    · exact .inr ⟨task, isTask, fresh, made, newborn⟩
  · -- a move from outside may be taken as that of any process
    obtain ⟨earlier, isEarlier, continues⟩ := (settles (other.pid - 1)).steady.tasks other member
    refine .inl ⟨earlier, isEarlier, continues.pid, continues.uts, fun _ => ?_⟩
    exact continues.process fun is => Int.ne_of_gt (Int.sub_one_lt_of_le (Int.le_refl _)) is

/-- Of those who are in namespaces, all were there before or have just been created. -/
theorem members (moves : Moves before move after) : ∀ member ∈ after.members,
    member ∈ before.members ∨ ∃ task ∈ before.tasks, ∃ fresh child, child ∈ after.tasks ∧
      move.mover? = some task.pid ∧ Newborn fresh task before after child ∧
        member = (child.pid, child.uts) := by
  intro member isMember
  have bystanders : after.bystanders = before.bystanders := by
    obtain ⟨-, -, ⟨task, -, -, shift⟩ | ⟨-, settles⟩⟩ := moves.effect
    · exact shift.bystanders
    · exact (settles 0).steady.bystanders
  rw [Kernel.members, List.mem_append, bystanders] at isMember
  rw [Kernel.members, List.mem_append]
  rcases isMember with isTask | isBystander
  · obtain ⟨other, isOther, rfl⟩ := List.mem_map.1 isTask
    rcases moves.tasks other isOther with
      ⟨earlier, isEarlier, pid, uts, -⟩ | ⟨task, isTask, fresh, made, newborn⟩
    · rw [pid, uts]
      exact .inl (.inl (List.mem_map_of_mem isEarlier))
    · exact .inr ⟨task, isTask, fresh, other, isOther, made, newborn, rfl⟩
  · exact .inl (.inr isBystander)

theorem coherent (moves : Moves before move after) (coherent : before.Coherent) :
    after.Coherent where
  distinct := by
    obtain ⟨-, -, ⟨task, -, -, shift⟩ | ⟨-, settles⟩⟩ := moves.effect
    · exact shift.distinct coherent
    · exact coherent.distinct.sublist (settles 0).steady.pids
  known task member := by
    rcases moves.tasks task member with
      ⟨earlier, isEarlier, pid, -, -⟩ | ⟨mover, -, fresh, -, newborn⟩
    · rw [pid]
      exact Int.lt_of_lt_of_le (coherent.known earlier isEarlier) moves.grows.2
    · rw [newborn.pid, newborn.nextPid]
      exact Int.lt_succ _
  housed member isMember := by
    rcases moves.members member isMember with
      isOld | ⟨mover, isMover, fresh, child, -, -, newborn, rfl⟩
    · exact Nat.lt_of_lt_of_le (coherent.housed member isOld) moves.grows.1
    · have uts := newborn.uts
      cases fresh with
      | true =>
          rw [if_pos rfl] at uts
          exact uts ▸ newborn.names rfl
      | false =>
          have seat := coherent.housed _ (mem_members isMover)
          rw [if_neg nofun] at uts
          exact uts ▸ Nat.lt_of_lt_of_le seat moves.grows.1

end Moves

end Kernel

/-- A process has just been created by another one. -/
structure Move.Bears (move : Move) (parent : Pid) (child : Task) : Prop where
  mover : move.mover? = some parent
  member : child ∈ move.after.tasks
  pid : child.pid = move.before.nextPid

namespace Kernel

variable {before after : Kernel} {task child : Task} {pid : Pid} {move : Move}

theorem Coherent.eq_of_pid (coherent : before.Coherent) {one other : Task}
    (isOne : one ∈ before.tasks) (isOther : other ∈ before.tasks) (same : one.pid = other.pid) :
    one = other :=
  List.inj_on_of_nodup_map coherent.distinct isOne isOther same

theorem Coherent.space?_eq (coherent : before.Coherent) (member : task ∈ before.tasks) :
    before.space? task.pid = some task.uts := by
  have present : (before.task? task.pid).isSome :=
    List.find?_isSome.2 ⟨task, member, by simp⟩
  obtain ⟨found, isFound⟩ := Option.isSome_iff_exists.1 present
  have same := coherent.eq_of_pid (mem_of_task? isFound) member (task?_pid isFound)
  exact space?_of_task? (same ▸ isFound)

/-- Whoever creates a process changes no name by that. -/
theorem Moves.born (moves : Moves before move after) (coherent : before.Coherent)
    (bears : move.Bears pid child) : ∃ task ∈ before.tasks, ∃ fresh, task.pid = pid ∧
      Newborn fresh task before after child ∧
        ∀ number < before.names.length, after.names[number]? = before.names[number]? := by
  obtain ⟨made, member, isNew⟩ := bears
  rw [moves.after_eq] at member
  rw [moves.before_eq] at isNew
  rcases moves.tasks child member with
    ⟨earlier, isEarlier, same, -, -⟩ | ⟨task, isTask, fresh, isMover, newborn⟩
  · exact absurd (same.symm.trans isNew) (coherent.ne_nextPid isEarlier)
  · have is : task.pid = pid := Option.some.inj (isMover.symm.trans made)
    refine ⟨task, isTask, fresh, is, newborn, fun number present => ?_⟩
    rcases moves.names present with same | ⟨other, isOther, alsoMover, -, request, next, calls, may⟩
    · exact same
    · obtain rfl := coherent.eq_of_pid isOther isTask
        (Option.some.inj (alsoMover.symm.trans isMover))
      rcases newborn.may with ⟨spawning, goOn, spawns, -⟩ | ⟨-, goOn, forks⟩
      · rw [spawns] at calls
        cases calls
        exact may.elim
      · rw [forks] at calls
        cases calls

/-- Names stay as they are unless a process may change them or creates a child with a copy. -/
theorem Moves.names_eq (moves : Moves before move after) (coherent : before.Coherent)
    (member : task ∈ before.tasks) (mine : move.mover? = some task.pid)
    (unnamed : ¬ task.MayRename before) (shared : ¬ task.MayBear true) :
    after.names = before.names := by
  obtain ⟨-, -, ⟨other, isOther, made, shift⟩ | ⟨outside, -⟩⟩ := moves.effect
  · obtain rfl := coherent.eq_of_pid isOther member (Option.some.inj (made.symm.trans mine))
    cases shift with
    | settles settles => exact settles.steady.names
    | renamed may begins change rest => exact absurd may unnamed
    | @bore ready between after child fresh may begins bears rest =>
        cases fresh with
        | true => exact absurd may shared
        | false => exact rest.names.trans (bears.names.trans begins.names)
  · cases outside.symm.trans mine

/-- A process stays alone in its namespace unless it creates a child there. -/
theorem Moves.alone {number : Nat} (moves : Moves before move after)
    (room : number < before.names.length)
    (alone : ∀ member ∈ before.members, member.2 = number → member.1 = pid)
    (childless : move.mover? = some pid → ∀ task ∈ before.tasks, task.pid = pid →
      ¬ task.MayBear false) :
    ∀ member ∈ after.members, member.2 = number → member.1 = pid := by
  rintro member isMember rfl
  rcases moves.members member isMember with
    isOld | ⟨mover, isMover, fresh, child, -, made, newborn, rfl⟩
  · exact alone member isOld rfl
  · have uts := newborn.uts
    cases fresh with
    | true => exact absurd uts (Nat.ne_of_lt room)
    | false =>
        -- a process beside the one that is alone would have been created by it
        have is := alone _ (mem_members isMover) uts.symm
        exact absurd newborn.may (childless (made.trans (congrArg some is)) mover isMover is)

/-- A process that was there before stays in its namespace. -/
theorem Moves.seat {number : Nat} (moves : Moves before move after) (known : pid < before.nextPid)
    (seat : ∀ task ∈ before.tasks, task.pid = pid → task.uts = number) :
    ∀ task ∈ after.tasks, task.pid = pid → task.uts = number := by
  rintro task member rfl
  rcases moves.tasks task member with
    ⟨earlier, isEarlier, same, uts, -⟩ | ⟨mover, -, fresh, -, newborn⟩
  · exact uts.trans (seat earlier isEarlier same.symm)
  · exact absurd rfl (newborn.pid_ne known)

/-- A process whose move it is not is about to do what it was. -/
theorem Moves.idle (Holds : Process UInt8 → Prop) (moves : Moves before move after)
    (known : pid < before.nextPid) (others : move.mover? ≠ some pid)
    (holds : ∀ task ∈ before.tasks, task.pid = pid → Holds task.process) :
    ∀ task ∈ after.tasks, task.pid = pid → Holds task.process := by
  rintro task member rfl
  rcases moves.tasks task member with
    ⟨earlier, isEarlier, same, -, process⟩ | ⟨mover, -, fresh, -, newborn⟩
  · rw [process others]
    exact holds earlier isEarlier same.symm
  · exact absurd rfl (newborn.pid_ne known)

theorem Moves.exists_mover (moves : Moves before move after) (made : move.mover? = some pid) :
    ∃ task ∈ before.tasks, task.pid = pid := by
  obtain ⟨-, -, ⟨task, member, isMover, -⟩ | ⟨outside, -⟩⟩ := moves.effect
  · exact ⟨task, member, Option.some.inj (isMover.symm.trans made)⟩
  · cases outside.symm.trans made

/-! ### Runs of moves -/

section Runs

variable {first last : Kernel} {trace earlier later : List Move}

theorem coherent_of_run (coherent : first.Coherent) (run : Run Moves first trace last) :
    last.Coherent :=
  run.invariant coherent fun _ _ _ before moves => moves.coherent before

theorem grows_of_run (run : Run Moves first trace last) :
    first.names.length ≤ last.names.length ∧ first.nextPid ≤ last.nextPid := by
  induction run with
  | start => exact ⟨Nat.le_refl _, Int.le_refl _⟩
  | next run moves hypothesis =>
      exact ⟨Nat.le_trans hypothesis.1 moves.grows.1, Int.le_trans hypothesis.2 moves.grows.2⟩

theorem stays_of_run (coherent : first.Coherent) (run : Run Moves first trace last)
    {task found : Task} (isTask : task ∈ first.tasks) (isFound : found ∈ last.tasks)
    (same : found.pid = task.pid) : found.uts = task.uts := by
  induction run generalizing found with
  | start => rw [coherent.eq_of_pid isFound isTask same]
  | next run moves hypothesis =>
      rcases moves.tasks found isFound with
        ⟨between, isBetween, pid, uts, -⟩ | ⟨mover, -, fresh, -, newborn⟩
      · exact uts.trans (hypothesis isBetween (pid.symm.trans same))
      · have known := Int.lt_of_lt_of_le (coherent.known task isTask) (grows_of_run run).2
        exact absurd same (newborn.pid_ne known)

theorem split_of_run (run : Run Moves first (earlier ++ move :: later) last) :
    Run Moves first earlier move.before ∧ Moves move.before move move.after ∧
      Run Moves move.after later last := by
  obtain ⟨before, after, sofar, moves, rest⟩ := run.split_at
  obtain rfl := moves.before_eq
  obtain rfl := moves.after_eq
  exact ⟨sofar, moves, rest⟩

/-- Nobody is in a namespace before it is there. -/
theorem members_of_run (coherent : first.Coherent) (run : Run Moves first trace last) :
    ∀ move ∈ trace, ∀ member ∈ move.before.members, member.2 < last.names.length := by
  intro move isMove member isMember
  obtain ⟨earlier, later, rfl⟩ := List.append_of_mem isMove
  obtain ⟨sofar, moves, rest⟩ := split_of_run run
  have present := (coherent_of_run coherent sofar).housed member isMember
  exact Nat.lt_of_lt_of_le present (Nat.le_trans moves.grows.1 (grows_of_run rest).1)

end Runs

/-! ### Letting processes act -/

/-- The host after a step of a process, if that can make one. -/
def acted (kernel : Kernel) (pid : Pid) : Kernel :=
  ((kernel.task? pid).bind kernel.stepOther?).getD kernel

/-- Whether a process can make a step. -/
def mayAct (kernel : Kernel) (pid : Pid) : Bool :=
  (kernel.task? pid).any fun task => task.isAlive && (kernel.stepOther? task).isSome

/-- Lets processes act one after the other, and tells their moves. -/
def play : List Pid → Kernel → List Move × Kernel
  | [], kernel => ([], kernel)
  | pid :: pids, kernel =>
      (⟨some pid, kernel, kernel.acted pid⟩ :: (play pids (kernel.acted pid)).1,
        (play pids (kernel.acted pid)).2)

/-- Whether processes can act one after the other. -/
def mayPlay : List Pid → Kernel → Bool
  | [], _ => true
  | pid :: pids, kernel => kernel.mayAct pid && mayPlay pids (kernel.acted pid)

theorem moves_acted (may : before.mayAct pid) :
    Moves before ⟨some pid, before, before.acted pid⟩ (before.acted pid) := by
  unfold mayAct at may
  unfold acted
  cases found : before.task? pid with
  | none => simp [found] at may
  | some task =>
      cases stepped : before.stepOther? task with
      | none => simp [found, stepped] at may
      | some after =>
          obtain rfl := task?_pid found
          have alive : task.isAlive := by simpa [found, stepped] using may
          simpa [stepped] using Moves.act (mem_of_task? found) alive stepped

theorem run_play {pids : List Pid} {kernel : Kernel} (may : mayPlay pids kernel) :
    Run Moves kernel (play pids kernel).1 (play pids kernel).2 := by
  induction pids generalizing kernel with
  | nil => exact .start
  | cons pid pids hypothesis =>
      rw [mayPlay, Bool.and_eq_true] at may
      exact .cons (moves_acted may.1) (hypothesis may.2)

theorem play_append (pids later : List Pid) (kernel : Kernel) :
    play (pids ++ later) kernel =
      ((play pids kernel).1 ++ (play later (play pids kernel).2).1,
        (play later (play pids kernel).2).2) := by
  induction pids generalizing kernel with
  | nil => rfl
  | cons pid pids hypothesis => simp [play, hypothesis]

end Kernel

end HostnameSandbox

import HostnameSandbox.Proofs.Namespaces.Following

/-!
# Parents and ends of processes

A process has the same parent for as long as the parent lives.  It ends by coming to its value, by
a call, or by a signal, and once it has ended it stays so until somebody asks how.
-/

namespace HostnameSandbox

/-- A process is there still: it has the same parent unless that has ended and it has been adopted,
and if it has ended meanwhile, it was killed or has exited. -/
structure Task.Remains (losses : Loss → Prop) (after : Kernel) (earlier later : Task) : Prop where
  pid : later.pid = earlier.pid
  parent : later.parent = earlier.parent ∨ ¬ after.isAlive earlier.parent ∧ later.parent = 1
  ending : later.ending = earlier.ending ∨ (∃ signal, later.ending = some (.killed signal)) ∨
    ∃ code, losses (.exited later.pid code) ∧ later.ending = some (.exited code)

namespace Kernel

variable {mover pid : Pid} {losses : Loss → Prop} {kernel before between after : Kernel}
  {task child : Task} {move : Move}

theorem isAlive_iff :
    kernel.isAlive pid ↔ ∃ task ∈ kernel.tasks, task.pid = pid ∧ task.isAlive := by
  simp [isAlive, List.any_eq_true]

/-- Nobody lives who did not before, and all others are there still. -/
structure Remains (losses : Loss → Prop) (before after : Kernel) : Prop where
  alive : ∀ {pid}, after.isAlive pid → before.isAlive pid
  tasks : ∀ task ∈ after.tasks, ∃ earlier ∈ before.tasks, earlier.Remains losses after task

namespace Remains

theorem of_resumes
    (resumes : ∀ task ∈ after.tasks, ∃ earlier ∈ before.tasks, earlier.Resumes mover task) :
    before.Remains losses after where
  alive lives := by
    obtain ⟨task, member, rfl, alive⟩ := isAlive_iff.1 lives
    obtain ⟨earlier, isEarlier, resumes⟩ := resumes task member
    refine isAlive_iff.2 ⟨earlier, isEarlier, resumes.pid.symm, ?_⟩
    rwa [Task.isAlive, ← resumes.ending]
  tasks task member := by
    obtain ⟨earlier, isEarlier, resumes⟩ := resumes task member
    exact ⟨earlier, isEarlier, resumes.pid, .inl resumes.parent, .inl resumes.ending⟩

theorem of_tasks (subset : after.tasks ⊆ before.tasks) : before.Remains losses after := by
  have refl (task : Task) : task.Resumes 0 task := .refl task
  exact of_resumes fun task member => ⟨task, subset member, refl task⟩

theorem trans (first : before.Remains losses between) (second : between.Remains losses after) :
    before.Remains losses after where
  alive lives := first.alive (second.alive lives)
  tasks task member := by
    obtain ⟨between, isBetween, later⟩ := second.tasks task member
    obtain ⟨earlier, isEarlier, sooner⟩ := first.tasks between isBetween
    refine ⟨earlier, isEarlier, later.pid.trans sooner.pid, ?_, ?_⟩
    · rcases sooner.parent with same | ⟨orphaned, adopted⟩
      · exact same ▸ later.parent
      · refine .inr ⟨fun lives => orphaned (second.alive lives), ?_⟩
        exact later.parent.elim (·.trans adopted) And.right
    · rcases later.ending with same | ended
      · rw [same, later.pid]
        exact sooner.ending
      · exact .inr ended

end Remains

/-- What becomes of a process by the end of one: it has ended if it is the one, and may have lost
its parent if it is not. -/
theorem mem_finish {status : ExitStatus} (member : task ∈ (kernel.finish pid status).tasks) :
    ∃ earlier ∈ kernel.tasks, task.pid = earlier.pid ∧
      ((task.pid = pid ∧ task.parent = earlier.parent ∧ task.ending = some status) ∨
        (task.pid ≠ pid ∧
          (task.parent = earlier.parent ∨ earlier.parent = pid ∧ task.parent = 1) ∧
          task.ending = earlier.ending)) := by
  unfold finish at member
  cases found : kernel.task? pid with
  | none =>
      rw [found] at member
      have other : task.pid ≠ pid := by simpa using List.find?_eq_none.1 found task member
      exact ⟨task, member, rfl, .inr ⟨other, .inl rfl, rfl⟩⟩
  | some ended =>
      rw [found] at member
      obtain ⟨earlier, isKept, rfl⟩ := List.mem_map.1 member
      refine ⟨earlier, (List.mem_filter.1 isKept).1, ?_⟩
      split
      · next own => exact ⟨rfl, .inl ⟨own, rfl, rfl⟩⟩
      · next other =>
          split
          · next isChild => exact ⟨rfl, .inr ⟨other, .inr ⟨isChild, rfl⟩, rfl⟩⟩
          · split
            · have noted : earlier.Resumes pid (earlier.note .childEnded) :=
                (harmless_note .childEnded).resumes earlier
              exact ⟨noted.pid, .inr ⟨noted.pid ▸ other, .inl noted.parent, noted.ending⟩⟩
            · exact ⟨rfl, .inr ⟨other, .inl rfl, rfl⟩⟩

/-- Whoever has been made to end does not live. -/
theorem not_isAlive_finish (kernel : Kernel) (pid : Pid) (status : ExitStatus) :
    ¬ (kernel.finish pid status).isAlive pid := by
  intro lives
  obtain ⟨task, member, is, alive⟩ := isAlive_iff.1 lives
  obtain ⟨earlier, -, -, ⟨-, -, ended⟩ | ⟨other, -, -⟩⟩ := mem_finish member
  · simp [Task.isAlive, ended] at alive
  · exact other is

theorem remains_finish {status : ExitStatus}
    (may : (∃ signal, status = .killed signal) ∨
      ∃ code, losses (.exited pid code) ∧ status = .exited code) (kernel : Kernel) :
    kernel.Remains losses (kernel.finish pid status) where
  alive {other} lives := by
    obtain ⟨task, member, is, alive⟩ := isAlive_iff.1 lives
    obtain ⟨earlier, isEarlier, same, ⟨-, -, ended⟩ | ⟨-, -, ending⟩⟩ := mem_finish member
    · simp [Task.isAlive, ended] at alive
    · refine isAlive_iff.2 ⟨earlier, isEarlier, same.symm.trans is, ?_⟩
      rwa [Task.isAlive, ← ending]
  tasks task member := by
    obtain ⟨earlier, isEarlier, same, ⟨is, parent, ended⟩ | ⟨-, parent, ending⟩⟩ :=
      mem_finish member
    · refine ⟨earlier, isEarlier, same, .inl parent, .inr ?_⟩
      rw [is, ended]
      rcases may with ⟨signal, rfl⟩ | ⟨code, may, rfl⟩
      · exact .inl ⟨signal, rfl⟩
      · exact .inr ⟨code, may, rfl⟩
    · refine ⟨earlier, isEarlier, same, parent.imp_right fun orphaned => ?_, .inl ending⟩
      rw [orphaned.1]
      exact ⟨not_isAlive_finish kernel pid status, orphaned.2⟩

theorem remains_forget (kernel : Kernel) (pid : Pid) :
    kernel.Remains losses (kernel.forget pid) :=
  .of_tasks List.filter_sublist.subset

/-- Where a host goes on, nobody lives who did not before. -/
theorem Settles.remains (settles : before.Settles mover losses after) :
    before.Remains losses after := by
  induction settles with
  | resumes resumes => exact .of_resumes resumes.tasks
  | killed kernel pid signal => exact remains_finish (.inl ⟨signal, rfl⟩) kernel
  | exited may kernel => exact remains_finish (.inr ⟨_, may, rfl⟩) kernel
  | forgotten may kernel => exact remains_forget kernel _
  | trans _ _ first second => exact first.trans second

/-- A process whose parent lives is there until somebody has asked how it ended. -/
theorem exists_mem_finish {status : ExitStatus} (distinct : (kernel.tasks.map Task.pid).Nodup)
    (member : task ∈ kernel.tasks) (lives : (kernel.finish pid status).isAlive task.parent) :
    ∃ later ∈ (kernel.finish pid status).tasks, later.pid = task.pid := by
  have notParent : task.parent ≠ pid := fun is => not_isAlive_finish kernel pid status (is ▸ lives)
  have parentLives : kernel.isAlive task.parent := by
    have remains : kernel.Remains (fun _ => True) (kernel.finish pid status) :=
      remains_finish (by cases status <;> simp) kernel
    exact remains.alive lives
  unfold finish
  cases found : kernel.task? pid with
  | none => exact ⟨task, member, rfl⟩
  | some ended =>
      have kept : task ∈ kernel.tasks.filter fun other =>
          !(other.parent = pid && !other.isAlive) &&
            !(other.pid = pid && pid ≠ kernel.worker && !kernel.isAlive ended.parent) := by
        refine List.mem_filter.2 ⟨member, ?_⟩
        by_cases is : task.pid = pid
        · have same : ended = task := List.inj_on_of_nodup_map distinct (mem_of_task? found) member
            ((task?_pid found).trans is.symm)
          simp [notParent, same, parentLives]
        · simp [notParent, is]
      refine ⟨_, List.mem_map_of_mem kept, ?_⟩
      split
      · rfl
      · split
        · have noted : task.Resumes pid (task.note .childEnded) :=
            (harmless_note .childEnded).resumes task
          exact noted.pid
        · rfl

theorem Resumes.stays (resumes : before.Resumes mover after) (member : task ∈ before.tasks) :
    ∃ later ∈ after.tasks, later.pid = task.pid := by
  have there := List.mem_map_of_mem (f := Task.pid) member
  rw [← resumes.pids] at there
  exact List.mem_map.1 there

theorem Settles.stays (settles : before.Settles mover losses after)
    (distinct : (before.tasks.map Task.pid).Nodup) (member : task ∈ before.tasks)
    (kept : ¬ losses (.forgotten task.pid)) (lives : after.isAlive task.parent) :
    ∃ later ∈ after.tasks, later.pid = task.pid := by
  induction settles generalizing task with
  | resumes resumes => exact resumes.stays member
  | killed kernel pid signal => exact exists_mem_finish distinct member lives
  | exited may kernel => exact exists_mem_finish distinct member lives
  | @forgotten pid may kernel =>
      have other : task.pid ≠ pid := fun is => kept (is ▸ may)
      exact ⟨task, List.mem_filter.2 ⟨member, by simpa using other⟩, rfl⟩
  | @trans before between after first second sooner later =>
      obtain ⟨middle, isMiddle, same⟩ := sooner distinct member kept (second.remains.alive lives)
      obtain ⟨earlier, isEarlier, remains⟩ := first.remains.tasks middle isMiddle
      obtain rfl := List.inj_on_of_nodup_map distinct isEarlier member
        (remains.pid.symm.trans same)
      have parent : middle.parent = earlier.parent := by
        refine remains.parent.resolve_right fun orphaned => orphaned.1 ?_
        exact second.remains.alive lives
      obtain ⟨last, isLast, sameToo⟩ := later (distinct.sublist first.steady.pids) isMiddle
        (same ▸ kept) (parent ▸ lives)
      exact ⟨last, isLast, sameToo.trans same⟩

end Kernel

/-- What may be lost by a move. -/
def Move.MayLose (move : Move) (loss : Loss) : Prop :=
  ∃ task ∈ move.before.tasks, move.mover? = some task.pid ∧ task.MayLose move.before loss

namespace Kernel

variable {pid : Pid} {before after first last : Kernel} {task : Task} {move : Move}
  {trace : List Move}

/-- By a move, the processes of a host go on, some may be lost, or there is one more. -/
inductive Passes (move : Move) (before after : Kernel) : Prop
  | settles {mover : Pid} {ready between : Kernel}
      (begins : before.Settles mover move.MayLose ready) (same : between.tasks = ready.tasks)
      (rest : between.Settles mover move.MayLose after)
  | bore {mover : Pid} {ready between : Kernel} {child : Task}
      (begins : before.Resumes mover ready) (tasks : between.tasks = ready.tasks ++ [child])
      (isNew : child.pid = before.nextPid) (rest : between.Resumes mover after)

namespace Moves

theorem passes (moves : Moves before move after) : Passes move before after := by
  obtain ⟨rfl, -, ⟨task, member, made, shift⟩ | ⟨-, settles⟩⟩ := moves.effect
  · have may (loss : Loss) (loses : task.MayLose move.before loss) : move.MayLose loss :=
      ⟨task, member, made, loses⟩
    cases shift with
    | settles settles => exact .settles (settles.mono may) rfl (.refl after)
    | @renamed ready after mayRename begins change rest =>
        have same : (ready.setNames task change).tasks = ready.tasks := rfl
        exact .settles (begins.mono may) same (rest.mono may)
    | bore mayBear begins bears rest =>
        exact .bore begins bears.tasks (bears.pid.trans begins.nextPid) rest
  · exact .settles ((settles 0).mono fun _ => False.elim) rfl (.refl after)

/-- Nobody is forgotten by a move unless by a call that is told how somebody has ended. -/
theorem kept (moves : Moves before move after) (coherent : before.Coherent)
    (member : task ∈ before.tasks) (mine : move.mover? = some task.pid)
    (kept : ∀ request next, task.process = .call request next →
      ¬ request.Loses before task (.forgotten pid)) : ¬ move.MayLose (.forgotten pid) := by
  rintro ⟨other, isOther, made, loses⟩
  rw [moves.before_eq] at isOther loses
  obtain rfl := coherent.eq_of_pid isOther member (Option.some.inj (made.symm.trans mine))
  rcases loses with ⟨code, -, is⟩ | ⟨request, next, calls, loses⟩
  · cases is
  · exact kept request next calls loses

/-- Of those that were there before, nobody lives who did not. -/
theorem alive (moves : Moves before move after) (known : pid < before.nextPid)
    (lives : after.isAlive pid) : before.isAlive pid := by
  cases moves.passes with
  | @settles mover ready between begins same rest =>
      have between : ready.Remains move.MayLose between := .of_tasks (same ▸ List.Subset.refl _)
      exact begins.remains.alive (between.alive (rest.remains.alive lives))
  | bore begins tasks isNew rest =>
      have sooner : before.Remains move.MayLose _ := .of_resumes begins.tasks
      have later : Remains move.MayLose _ after := .of_resumes rest.tasks
      obtain ⟨task, member, rfl, alive⟩ := isAlive_iff.1 (later.alive lives)
      rw [tasks, List.mem_append, List.mem_singleton] at member
      rcases member with isReady | rfl
      · exact sooner.alive (isAlive_iff.2 ⟨task, isReady, rfl, alive⟩)
      · exact absurd isNew (Int.ne_of_lt known)

/-- Whoever was there before is there still, or is gone. -/
theorem remains (moves : Moves before move after) (member : task ∈ after.tasks)
    (known : task.pid < before.nextPid) :
    ∃ earlier ∈ before.tasks, earlier.Remains move.MayLose after task := by
  cases moves.passes with
  | @settles mover ready between begins same rest =>
      have between : ready.Remains move.MayLose between := .of_tasks (same ▸ List.Subset.refl _)
      exact ((begins.remains.trans between).trans rest.remains).tasks task member
  | bore begins tasks isNew rest =>
      obtain ⟨middle, isMiddle, later⟩ := rest.tasks task member
      rw [tasks, List.mem_append, List.mem_singleton] at isMiddle
      rcases isMiddle with isReady | rfl
      · obtain ⟨earlier, isEarlier, sooner⟩ := begins.tasks middle isReady
        have resumes := sooner.trans later
        exact ⟨earlier, isEarlier, resumes.pid, .inl resumes.parent, .inl resumes.ending⟩
      · exact absurd (later.pid.trans isNew) (Int.ne_of_lt known)

/-- A process whose parent lives is there until somebody has asked how it ended. -/
theorem stays_there (moves : Moves before move after) (coherent : before.Coherent)
    (member : task ∈ before.tasks) (kept : ¬ move.MayLose (.forgotten task.pid))
    (known : task.parent < before.nextPid) (lives : after.isAlive task.parent) :
    ∃ later ∈ after.tasks, later.pid = task.pid := by
  cases moves.passes with
  | @settles mover ready between begins same rest =>
      have unchanged : ready.Remains move.MayLose between := .of_tasks (same ▸ List.Subset.refl _)
      have living := unchanged.alive (rest.remains.alive lives)
      obtain ⟨middle, isMiddle, isSame⟩ := begins.stays coherent.distinct member kept living
      obtain ⟨earlier, isEarlier, remains⟩ := begins.remains.tasks middle isMiddle
      obtain rfl := coherent.eq_of_pid isEarlier member (remains.pid.symm.trans isSame)
      have parent : middle.parent = earlier.parent :=
        remains.parent.resolve_right fun orphaned => orphaned.1 living
      have distinct : (between.tasks.map Task.pid).Nodup := by
        rw [same]
        exact coherent.distinct.sublist begins.steady.pids
      obtain ⟨later, isLater, sameToo⟩ := rest.stays distinct (same ▸ isMiddle) (isSame ▸ kept)
        (parent ▸ lives)
      exact ⟨later, isLater, sameToo.trans isSame⟩
  | bore begins tasks isNew rest =>
      have there := List.mem_map_of_mem (f := Task.pid) member
      refine List.mem_map.1 ?_
      rw [rest.pids, tasks, List.map_append, begins.pids]
      exact List.mem_append_left _ there

end Moves

/-! ### Runs -/

theorem isAlive_of_run (run : Run Moves first trace last) (known : pid < first.nextPid)
    (lives : last.isAlive pid) : first.isAlive pid := by
  induction run with
  | start => exact lives
  | next run moves hypothesis =>
      exact hypothesis (moves.alive (Int.lt_of_lt_of_le known (grows_of_run run).2) lives)

/-- A process has the same parent for as long as that lives. -/
theorem parent_of_run (coherent : first.Coherent) (run : Run Moves first trace last)
    (member : task ∈ first.tasks) (known : task.parent < first.nextPid)
    (lives : last.isAlive task.parent) :
    ∀ later ∈ last.tasks, later.pid = task.pid → later.parent = task.parent := by
  induction run with
  | start =>
      intro later isLater same
      rw [coherent.eq_of_pid isLater member same]
  | next run moves hypothesis =>
      intro later isLater same
      have grown := (grows_of_run run).2
      have knownPid : later.pid < first.nextPid := same ▸ coherent.known task member
      obtain ⟨earlier, isEarlier, remains⟩ :=
        moves.remains isLater (Int.lt_of_lt_of_le knownPid grown)
      have parent := hypothesis (moves.alive (Int.lt_of_lt_of_le known grown) lives) earlier
        isEarlier (remains.pid.symm.trans same)
      rw [← parent]
      exact remains.parent.resolve_right fun orphaned => orphaned.1 (parent.symm ▸ lives)

/-! ### Parents and children -/

/-- A process is the child of another one, which lives. -/
structure Parents (launcher child : Pid) (kernel : Kernel) : Prop where
  coherent : kernel.Coherent
  known : launcher < kernel.nextPid
  childKnown : child < kernel.nextPid
  parent : ∀ task ∈ kernel.tasks, task.pid = child → task.parent = launcher

theorem Parents.next {launcher child : Pid} (parents : before.Parents launcher child)
    (moves : Moves before move after) (lives : after.isAlive launcher) :
    after.Parents launcher child where
  coherent := moves.coherent parents.coherent
  known := Int.lt_of_lt_of_le parents.known moves.grows.2
  childKnown := Int.lt_of_lt_of_le parents.childKnown moves.grows.2
  parent task member is := by
    obtain ⟨earlier, isEarlier, remains⟩ := moves.remains member (is ▸ parents.childKnown)
    have was := parents.parent earlier isEarlier (remains.pid.symm.trans is)
    rw [← was]
    exact remains.parent.resolve_right fun orphaned => orphaned.1 (was ▸ lives)

/-- A child of a process that lives is there until somebody has asked how it ended. -/
theorem Parents.stays {launcher child : Pid} (parents : before.Parents launcher child)
    (moves : Moves before move after) (lives : after.isAlive launcher)
    (kept : ¬ move.MayLose (.forgotten child)) (there : ∃ task ∈ before.tasks, task.pid = child) :
    ∃ task ∈ after.tasks, task.pid = child := by
  obtain ⟨task, member, rfl⟩ := there
  have isParent := parents.parent task member rfl
  exact moves.stays_there parents.coherent member kept (isParent ▸ parents.known)
    (isParent ▸ lives)

end Kernel

end HostnameSandbox

import HostnameSandbox.Host.Kernel.Calls

/-!
# What most calls leave as it is

Most of what a host does for a process changes files, open files, or what processes do about
signals.  It changes no host name, creates no process, and leaves every process in the namespace
that it is in; only the process that is served may be about to do something else afterwards.
-/

namespace HostnameSandbox

/-- A process is there as it was before, in the same namespace; unless it is the one that has
moved, it is about to do the same, and has the same files open for as long as it lives. -/
structure Task.Continues (mover : Pid) (earlier later : Task) : Prop where
  pid : later.pid = earlier.pid
  uts : later.uts = earlier.uts
  process : later.pid ≠ mover → later.process = earlier.process
  opened : later.isAlive → earlier.isAlive ∧ (later.pid ≠ mover → later.opened = earlier.opened)

namespace Task.Continues

variable {mover : Pid} {task earlier later : Task}

theorem refl (task : Task) : task.Continues mover task :=
  ⟨rfl, rfl, fun _ => rfl, fun alive => ⟨alive, fun _ => rfl⟩⟩

theorem trans {between : Task} (first : earlier.Continues mover between)
    (second : between.Continues mover later) : earlier.Continues mover later where
  pid := second.pid.trans first.pid
  uts := second.uts.trans first.uts
  process other := (second.process other).trans (first.process (second.pid ▸ other))
  opened alive := by
    obtain ⟨middle, later⟩ := second.opened alive
    obtain ⟨before, sooner⟩ := first.opened middle
    exact ⟨before, fun other => (later other).trans (sooner (second.pid ▸ other))⟩

end Task.Continues

/-- A process is there as it was before, of the same parent and without having ended. -/
structure Task.Resumes (mover : Pid) (earlier later : Task) : Prop
    extends earlier.Continues mover later where
  parent : later.parent = earlier.parent
  ending : later.ending = earlier.ending

namespace Task.Resumes

variable {mover : Pid} {task earlier later : Task}

theorem refl (task : Task) : task.Resumes mover task :=
  ⟨.refl task, rfl, rfl⟩

theorem trans {between : Task} (first : earlier.Resumes mover between)
    (second : between.Resumes mover later) : earlier.Resumes mover later where
  toContinues := first.toContinues.trans second.toContinues
  parent := second.parent.trans first.parent
  ending := second.ending.trans first.ending

/-- A process resumes if only what it is about to do and what it has open are others. -/
theorem of_seat (seat : (later.pid, later.parent, later.uts, later.ending) =
      (earlier.pid, earlier.parent, earlier.uts, earlier.ending))
    (process : later.pid ≠ mover → later.process = earlier.process)
    (opened : later.pid ≠ mover → later.opened = earlier.opened) : earlier.Resumes mover later := by
  simp only [Prod.mk.injEq] at seat
  obtain ⟨pid, parent, uts, ending⟩ := seat
  refine ⟨⟨pid, uts, process, fun alive => ⟨?_, opened⟩⟩, parent, ending⟩
  rwa [Task.isAlive, ← ending]

end Task.Resumes

/-- What a host can lose: a process that exits, or one that is forgotten. -/
inductive Loss where
  | exited (pid : Pid) (code : UInt8)
  | forgotten (pid : Pid)

namespace Kernel

variable {mover : Pid} {losses : Loss → Prop} {kernel before between after : Kernel}

/-- Only files, open files and events differ. -/
structure SameCompany (before after : Kernel) : Prop where
  names : after.names = before.names
  nextPid : after.nextPid = before.nextPid
  bystanders : after.bystanders = before.bystanders
  tasks : after.tasks = before.tasks
  hidden : after.hidden = before.hidden

/-- No host name has changed, and there are only processes that were there before. -/
structure Steady (mover : Pid) (before after : Kernel) : Prop where
  names : after.names = before.names
  nextPid : after.nextPid = before.nextPid
  bystanders : after.bystanders = before.bystanders
  pids : (after.tasks.map Task.pid).Sublist (before.tasks.map Task.pid)
  tasks : ∀ task ∈ after.tasks, ∃ earlier ∈ before.tasks, earlier.Continues mover task

theorem SameCompany.refl (kernel : Kernel) : kernel.SameCompany kernel :=
  ⟨rfl, rfl, rfl, rfl, rfl⟩

theorem Steady.trans (first : before.Steady mover between) (second : between.Steady mover after) :
    before.Steady mover after where
  names := second.names.trans first.names
  nextPid := second.nextPid.trans first.nextPid
  bystanders := second.bystanders.trans first.bystanders
  pids := second.pids.trans first.pids
  tasks task member := by
    obtain ⟨between, memberBetween, later⟩ := second.tasks task member
    obtain ⟨earlier, memberEarlier, sooner⟩ := first.tasks between memberBetween
    exact ⟨earlier, memberEarlier, sooner.trans later⟩

/-- All processes go on, with the same names. -/
structure Resumes (mover : Pid) (before after : Kernel) : Prop where
  names : after.names = before.names
  nextPid : after.nextPid = before.nextPid
  bystanders : after.bystanders = before.bystanders
  pids : after.tasks.map Task.pid = before.tasks.map Task.pid
  tasks : ∀ task ∈ after.tasks, ∃ earlier ∈ before.tasks, earlier.Resumes mover task

theorem Resumes.trans (first : before.Resumes mover between)
    (second : between.Resumes mover after) : before.Resumes mover after where
  names := second.names.trans first.names
  nextPid := second.nextPid.trans first.nextPid
  bystanders := second.bystanders.trans first.bystanders
  pids := second.pids.trans first.pids
  tasks task member := by
    obtain ⟨between, isBetween, later⟩ := second.tasks task member
    obtain ⟨earlier, isEarlier, sooner⟩ := first.tasks between isBetween
    exact ⟨earlier, isEarlier, sooner.trans later⟩

/-- The processes of a host go on, but some may be lost. -/
inductive Settles (mover : Pid) (losses : Loss → Prop) : Kernel → Kernel → Prop
  | resumes {before after : Kernel} (resumes : before.Resumes mover after) :
      Settles mover losses before after
  | killed (kernel : Kernel) (pid : Pid) (signal : Signal) :
      Settles mover losses kernel (kernel.finish pid (.killed signal))
  | exited {pid : Pid} {code : UInt8} (may : losses (.exited pid code)) (kernel : Kernel) :
      Settles mover losses kernel (kernel.finish pid (.exited code))
  | forgotten {pid : Pid} (may : losses (.forgotten pid)) (kernel : Kernel) :
      Settles mover losses kernel (kernel.forget pid)
  | trans {before between after : Kernel} (first : Settles mover losses before between)
      (second : Settles mover losses between after) : Settles mover losses before after

theorem SameCompany.resumes (same : before.SameCompany after) : before.Resumes mover after where
  names := same.names
  nextPid := same.nextPid
  bystanders := same.bystanders
  pids := by rw [same.tasks]
  tasks task member := ⟨task, same.tasks ▸ member, .refl task⟩

theorem Resumes.steady (resumes : before.Resumes mover after) : before.Steady mover after := by
  refine ⟨resumes.names, resumes.nextPid, resumes.bystanders, resumes.pids ▸ .refl _,
    fun task member => ?_⟩
  obtain ⟨earlier, isEarlier, resumes⟩ := resumes.tasks task member
  exact ⟨earlier, isEarlier, resumes.toContinues⟩

theorem SameCompany.steady (same : before.SameCompany after) : before.Steady mover after :=
  same.resumes.steady

theorem Steady.refl (kernel : Kernel) : kernel.Steady mover kernel :=
  (SameCompany.refl kernel).steady

theorem SameCompany.settles (same : before.SameCompany after) :
    before.Settles mover losses after :=
  .resumes same.resumes

theorem Settles.refl (kernel : Kernel) : kernel.Settles mover losses kernel :=
  (SameCompany.refl kernel).settles

theorem Settles.mono {more : Loss → Prop} (weaker : ∀ loss, losses loss → more loss)
    (settles : before.Settles mover losses after) : before.Settles mover more after := by
  induction settles with
  | resumes resumes => exact .resumes resumes
  | killed kernel pid signal => exact .killed kernel pid signal
  | exited may kernel => exact .exited (weaker _ may) kernel
  | forgotten may kernel => exact .forgotten (weaker _ may) kernel
  | trans _ _ first second => exact .trans first second

/-- A fold of steps by which a host goes on lets it go on. -/
theorem settles_foldl {α : Type} {step : Kernel → α → Kernel}
    (settles : ∀ (kernel : Kernel) item, kernel.Settles mover losses (step kernel item))
    (items : List α) (kernel : Kernel) : kernel.Settles mover losses (items.foldl step kernel) := by
  induction items generalizing kernel with
  | nil => exact .refl kernel
  | cons item items hypothesis => exact (settles kernel item).trans (hypothesis _)

/-! ### Files -/

theorem sameCompany_setPipe (kernel : Kernel) (number : Nat) (pipe : Pipe) :
    kernel.SameCompany (kernel.setPipe number pipe) :=
  ⟨rfl, rfl, rfl, rfl, rfl⟩

theorem sameCompany_setContents (kernel : Kernel) (channel : Channel) (data : Data) :
    kernel.SameCompany (kernel.setContents channel data) := by
  cases channel <;> exact ⟨rfl, rfl, rfl, rfl, rfl⟩

theorem sameCompany_advance (kernel : Kernel) (number : Nat) (handle : Handle) (bytes : Bytes) :
    kernel.SameCompany (kernel.advance number handle bytes) :=
  ⟨rfl, rfl, rfl, rfl, rfl⟩

theorem sameCompany_readAt (kernel : Kernel) (number : Nat) (handle : Handle) (data : Data)
    (limit : Nat) : kernel.SameCompany (kernel.readAt number handle data limit).2 :=
  ⟨rfl, rfl, rfl, rfl, rfl⟩

theorem sameCompany_writeThrough (kernel : Kernel) (number : Nat) (handle : Handle)
    (bytes : Bytes) : kernel.SameCompany (kernel.writeThrough number handle bytes) := by
  have written : kernel.SameCompany (if bytes.isEmpty then kernel
      else kernel.setContents handle.channel ((kernel.contents handle.channel).overwrite
        (kernel.writingOffset handle) bytes)) := by
    split
    · exact .refl kernel
    · exact sameCompany_setContents kernel handle.channel _
  exact ⟨written.names, written.nextPid, written.bystanders, written.tasks, written.hidden⟩

/-- What is logged goes to files, to pipes, or to the kernel itself. -/
theorem sameCompany_log (kernel : Kernel) (task : Task) (event : Event) :
    kernel.SameCompany (kernel.log task event) := by
  unfold log
  split
  · exact .refl kernel
  · exact ⟨rfl, rfl, rfl, rfl, rfl⟩
  · split
    · dsimp only
      split
      · split
        · exact .refl kernel
        · split
          · exact sameCompany_writeThrough kernel _ _ _
          · exact sameCompany_writeThrough kernel _ _ _
          · exact sameCompany_setPipe kernel _ _
          · exact .refl kernel
      · exact .refl kernel
    · exact .refl kernel

/-! ### Changes of one process -/

/-- A change of a process that leaves alone what it is, where it is, what it is about to do, and
what it has open. -/
def Harmless (change : Task → Task) : Prop :=
  ∀ task, ((change task).pid, (change task).parent, (change task).uts, (change task).ending,
    (change task).process, (change task).opened) =
      (task.pid, task.parent, task.uts, task.ending, task.process, task.opened)

theorem Harmless.resumes {change : Task → Task} (harmless : Harmless change) (task : Task) :
    task.Resumes mover (change task) := by
  have same := harmless task
  simp only [Prod.mk.injEq] at same
  obtain ⟨pid, parent, uts, ending, process, opened⟩ := same
  exact .of_seat (by rw [pid, parent, uts, ending]) (fun _ => process) fun _ => opened

/-- A change of one process lets the host go on if the process goes on. -/
theorem resumes_modify {change : Task → Task} {pid : Pid} {kernel : Kernel}
    (resumes : ∀ task ∈ kernel.tasks, task.pid = pid → ∃ earlier ∈ kernel.tasks,
      earlier.pid = pid ∧ earlier.Resumes mover (change task)) :
    kernel.Resumes mover (kernel.modify pid change) := by
  refine ⟨rfl, rfl, rfl, ?_, fun later member => ?_⟩
  · simp only [modify, List.map_map]
    refine List.map_congr_left fun task member => ?_
    simp only [Function.comp]
    split
    · next is =>
        obtain ⟨earlier, -, samePid, resumes⟩ := resumes task member is
        exact resumes.pid.trans (samePid.trans is.symm)
    · rfl
  · obtain ⟨task, isTask, rfl⟩ := List.mem_map.1 member
    split
    · next is =>
        obtain ⟨earlier, isEarlier, -, resumes⟩ := resumes task isTask is
        exact ⟨earlier, isEarlier, resumes⟩
    · exact ⟨task, isTask, .refl task⟩

/-- What a process does next is its own affair, and so are its open files. -/
theorem resumes_own {change : Task → Task} (seat : ∀ task, ((change task).pid,
      (change task).parent, (change task).uts, (change task).ending) =
        (task.pid, task.parent, task.uts, task.ending))
    (kernel : Kernel) (pid : Pid) : kernel.Resumes pid (kernel.modify pid change) := by
  refine resumes_modify fun task member is => ⟨task, member, is, .of_seat (seat task) ?_ ?_⟩
  all_goals
    have same := congrArg Prod.fst (seat task)
    exact fun other => absurd (same.trans is) other

theorem settles_modify {change : Task → Task} (harmless : Harmless change) (kernel : Kernel)
    (pid : Pid) : kernel.Settles mover losses (kernel.modify pid change) :=
  .resumes (resumes_modify fun task member is => ⟨task, member, is, harmless.resumes task⟩)

theorem task?_pid {pid : Pid} {task : Task} (found : kernel.task? pid = some task) :
    task.pid = pid := by
  simpa using List.find?_some found

theorem mem_of_task? {pid : Pid} {task : Task} (found : kernel.task? pid = some task) :
    task ∈ kernel.tasks :=
  List.mem_of_find?_eq_some found

theorem settles_replace {task changed : Task} {pid : Pid} (member : task ∈ kernel.tasks)
    (is : task.pid = pid) (resumes : task.Resumes mover changed) :
    kernel.Settles mover losses (kernel.modify pid fun _ => changed) :=
  .resumes (resumes_modify fun _ _ _ => ⟨task, member, is, resumes⟩)

theorem harmless_receive (signal : Signal) : Harmless fun task => task.receive signal := by
  intro task
  simp only [Task.receive]
  repeat' split
  all_goals rfl

theorem harmless_react (signal : Signal) (reaction : Reaction) :
    Harmless fun task => task.react signal reaction := by
  intro task
  simp only [Task.react]
  split <;> rfl

theorem harmless_note (signal : Signal) : Harmless fun task => task.note signal := by
  intro task
  simp only [Task.note]
  split <;> rfl

/-! ### Losses -/

/-- A host stays steady where some processes are taken away and the others go on. -/
theorem steady_map {kept : List Task} {change : Task → Task} {kernel : Kernel}
    (sublist : kept.Sublist kernel.tasks)
    (continues : ∀ task ∈ kept, task.Continues mover (change task)) :
    kernel.Steady mover { kernel with tasks := kept.map change } where
  names := rfl
  nextPid := rfl
  bystanders := rfl
  pids := by
    have same : (kept.map change).map Task.pid = kept.map Task.pid := by
      rw [List.map_map]
      exact List.map_congr_left fun task isKept => (continues task isKept).pid
    exact same ▸ sublist.map Task.pid
  tasks task member := by
    obtain ⟨kept, isKept, rfl⟩ := List.mem_map.1 member
    exact ⟨kept, sublist.subset isKept, continues kept isKept⟩

/-- The end of a process takes processes away, and changes none of the others' namespaces. -/
theorem steady_finish (kernel : Kernel) (pid : Pid) (status : ExitStatus) :
    kernel.Steady mover (kernel.finish pid status) := by
  unfold finish
  cases kernel.task? pid with
  | none => exact .refl kernel
  | some ended =>
      refine steady_map List.filter_sublist fun task _ => ?_
      split
      · exact ⟨rfl, rfl, fun _ => rfl, nofun⟩
      · split
        · exact ⟨rfl, rfl, fun _ => rfl, fun alive => ⟨alive, fun _ => rfl⟩⟩
        · split
          · exact ((harmless_note .childEnded).resumes task).toContinues
          · exact .refl task

theorem steady_forget (kernel : Kernel) (pid : Pid) : kernel.Steady mover (kernel.forget pid) := by
  have steady : kernel.Steady mover
      { kernel with tasks := (kernel.tasks.filter fun task => task.pid != pid).map id } :=
    steady_map List.filter_sublist fun task _ => .refl task
  rwa [List.map_id] at steady

/-- A host that goes on is steady. -/
theorem Settles.steady (settles : before.Settles mover losses after) :
    before.Steady mover after := by
  induction settles with
  | resumes resumes => exact resumes.steady
  | killed kernel pid signal => exact steady_finish kernel pid _
  | exited may kernel => exact steady_finish kernel _ _
  | forgotten may kernel => exact steady_forget kernel _
  | trans _ _ first second => exact first.trans second

/-! ### Signals -/

theorem settles_act (pid : Pid) (kernel : Kernel) (signal : Signal) :
    kernel.Settles mover losses (act pid kernel signal) := by
  unfold act
  cases kernel.task? pid with
  | none => exact .refl kernel
  | some task =>
      dsimp only
      split
      · exact .refl kernel
      · have taken : kernel.Settles mover losses (kernel.modify pid fun task =>
            { task with waiting := task.waiting.filter (· != signal) }) := by
          refine settles_modify ?_ kernel pid
          exact fun _ => rfl
        refine taken.trans ?_
        cases task.reactionTo signal with
        | ignored => exact .refl _
        | ignoredOnce => exact settles_modify (harmless_react signal .standard) _ pid
        | caught =>
            refine settles_modify ?_ _ pid
            exact fun task => harmless_note signal task
        | standard =>
            dsimp only
            split
            · refine settles_modify ?_ _ pid
              exact fun _ => rfl
            · split
              · exact .killed _ pid signal
              · exact .refl _

/-- A change of one process and the signals that take effect then let the host go on. -/
theorem settles_change {change : Task → Task} (harmless : Harmless change) (kernel : Kernel)
    (pid : Pid) : kernel.Settles mover losses (kernel.change pid change) := by
  unfold Kernel.change
  cases found : kernel.task? pid with
  | none => exact .refl kernel
  | some task =>
      dsimp only
      split
      · exact .refl kernel
      · refine .trans ?_ (settles_foldl (settles_act pid) _ _)
        exact settles_replace (mem_of_task? found) (task?_pid found) (harmless.resumes task)

theorem settles_signal (kernel : Kernel) (pid : Pid) (signal : Signal) :
    kernel.Settles mover losses (kernel.signal pid signal) :=
  settles_change (harmless_receive signal) kernel pid

theorem settles_send (kernel : Kernel) (sender pid : Pid) (signal : Signal) :
    kernel.Settles mover losses (kernel.send sender pid signal).2 := by
  unfold send
  split
  · exact .refl kernel
  · dsimp only
    split
    · split
      · exact .refl kernel
      · exact settles_foldl (fun kernel target => settles_signal kernel target signal) _ kernel
    · split <;> exact .refl kernel

end Kernel

end HostnameSandbox

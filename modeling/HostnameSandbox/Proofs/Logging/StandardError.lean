import HostnameSandbox.Proofs.Logging.Staging
import HostnameSandbox.Proofs.Logging.Storage
import HostnameSandbox.Proofs.Namespaces.Loaded

/-!
# Where stages log to

A stage never opens or closes a file, and nobody else can do so for it.  So its standard error leads
where it led at first for as long as it lives, and that of an inner stage where that of its outer
stage leads.
-/

namespace HostnameSandbox

/-- The open file that a process has by a number, if programs that it starts have it too. -/
def Task.passed? (task : Task) (descriptor : Descriptor) : Option Opened :=
  task.lastingFiles.find? fun entry => entry.descriptor = descriptor

/-- What the standard streams of a child are connected to, by their numbers. -/
def Streams.bindings (streams : Streams) : List (Descriptor × Binding) :=
  [(Descriptor.input, streams.input), (Descriptor.output, streams.output),
    (Descriptor.error, streams.error)]

theorem Streams.binding_unique {streams : Streams} {descriptor : Descriptor} {one other : Binding}
    (first : (descriptor, one) ∈ streams.bindings) (second : (descriptor, other) ∈ streams.bindings) :
    one = other := by
  simp only [bindings, List.mem_cons, Prod.mk.injEq, List.not_mem_nil, or_false] at first second
  rcases first with ⟨rfl, rfl⟩ | ⟨rfl, rfl⟩ | ⟨rfl, rfl⟩ <;>
    simpa [Descriptor.input, Descriptor.output, Descriptor.error, eq_comm] using second

/-- The numbers by which a child is given the null device. -/
def Streams.discards (streams : Streams) : List (Descriptor × Binding) :=
  streams.bindings.filter fun binding => binding.2 = .null

namespace Kernel

variable {fresh : Pid} {kernel before between after : Kernel} {task child other : Task}
  {sink : Channel} {manner : Manner} {move : Move} {spawning : Spawning}

/-- Whoever lives, but one perhaps, has lived before with the same files open. -/
def KeepsOpened (fresh : Pid) (before after : Kernel) : Prop :=
  ∀ task ∈ after.tasks, task.isAlive → task.pid ≠ fresh →
    ∃ earlier ∈ before.tasks, earlier.pid = task.pid ∧ earlier.isAlive ∧
      task.opened = earlier.opened

namespace KeepsOpened

theorem of_tasks (same : after.tasks = before.tasks) : before.KeepsOpened fresh after :=
  fun task member alive _ => ⟨task, same ▸ member, rfl, alive, rfl⟩

theorem refl (kernel : Kernel) : kernel.KeepsOpened fresh kernel := .of_tasks rfl

theorem trans (first : before.KeepsOpened fresh between) (second : between.KeepsOpened fresh after) :
    before.KeepsOpened fresh after := by
  intro task member alive other
  obtain ⟨middle, isMiddle, pid, lives, opened⟩ := second task member alive other
  obtain ⟨earlier, isEarlier, pidToo, livesToo, openedToo⟩ :=
    first middle isMiddle lives (pid ▸ other)
  exact ⟨earlier, isEarlier, pidToo.trans pid, livesToo, opened.trans openedToo⟩

/-- Where nobody has moved, nobody has opened or closed a file. -/
theorem of_steady (steady : ∀ mover, before.Steady mover after) :
    before.KeepsOpened fresh after := by
  intro task member alive _
  obtain ⟨earlier, isEarlier, continues⟩ := (steady (task.pid - 1)).tasks task member
  obtain ⟨lives, opened⟩ := continues.opened alive
  refine ⟨earlier, isEarlier, continues.pid.symm, lives, opened ?_⟩
  exact Int.ne_of_gt (Int.sub_one_lt_of_le (Int.le_refl _))

theorem modify {change : Task → Task} (harmless : Harmless change) (kernel : Kernel) (pid : Pid) :
    kernel.KeepsOpened fresh (kernel.modify pid change) := by
  have settles (mover : Pid) : kernel.Settles mover (fun _ => False) (kernel.modify pid change) :=
    settles_modify harmless kernel pid
  exact of_steady fun mover => (settles mover).steady

theorem goOn (process : Process UInt8) (kernel : Kernel) (pid : Pid) :
    kernel.KeepsOpened fresh (kernel.modify pid fun task => { task with process }) := by
  intro later member alive _
  obtain ⟨task, isTask, rfl⟩ := List.mem_map.1 member
  by_cases is : task.pid = pid
  · rw [if_pos is] at alive ⊢
    exact ⟨task, isTask, rfl, alive, rfl⟩
  · rw [if_neg is] at alive ⊢
    exact ⟨task, isTask, rfl, alive, rfl⟩

theorem atTimeOf (kernel : Kernel) (task : Task) :
    kernel.KeepsOpened fresh (kernel.atTimeOf task) :=
  of_steady fun _ => steady_atTimeOf kernel task

theorem write (kernel : Kernel) (task : Task) (descriptor : Descriptor) (bytes : Bytes) :
    (kernel.write task descriptor bytes).Leaves (kernel.KeepsOpened fresh) := by
  have left := fun mover => leaves_write mover kernel task descriptor bytes
  generalize kernel.write task descriptor bytes = attempt at left
  have keeps {after : Kernel} (changed : ∀ mover, kernel.Settles mover
      ((Call.write descriptor bytes).Loses kernel task) after ∨
        ∃ number handle, kernel.handle? task descriptor = some (number, handle) ∧
          handle.channel.LeadsToNames ∧ ∃ change, (kernel.setNames task change).Settles mover
            ((Call.write descriptor bytes).Loses kernel task) after) :
      kernel.KeepsOpened fresh after := by
    intro later member alive other
    rcases changed (later.pid - 1) with settles | ⟨-, -, -, -, change, settles⟩
    all_goals
      obtain ⟨earlier, isEarlier, continues⟩ := settles.steady.tasks later member
      obtain ⟨lives, opened⟩ := continues.opened alive
      refine ⟨earlier, isEarlier, continues.pid.symm, lives, opened ?_⟩
      exact Int.ne_of_gt (Int.sub_one_lt_of_le (Int.le_refl _))
  cases attempt with
  | blocked => trivial
  | again after => exact keeps left
  | answered reply after => exact keeps left

theorem spawn (kernel : Kernel) (task : Task) (spawning : Spawning) :
    kernel.KeepsOpened kernel.nextPid (kernel.spawn task spawning).2 := by
  cases spawned : kernel.spawn task spawning with
  | mk reply after =>
      rcases bears_spawn spawned with ⟨cause, -, rfl⟩ | ⟨child, loaded, -, -, -, bears⟩
      · exact .refl after
      · intro later member alive other
        rw [bears.tasks, List.mem_append, List.mem_singleton] at member
        rcases member with isOld | rfl
        · exact ⟨later, isOld, rfl, alive, rfl⟩
        · exact absurd bears.pid other

/-- By the calls of stages nobody opens or closes a file. -/
theorem of_staging {request : Call} (allowed : (staging manner).allows () request)
    (kernel : Kernel) (task : Task) :
    (kernel.attempt task request).Leaves (kernel.KeepsOpened kernel.nextPid) := by
  have settled {after : Kernel} (settles : ∀ mover, kernel.Settles mover (fun _ => True) after) :
      kernel.KeepsOpened kernel.nextPid after :=
    of_steady fun mover => (settles mover).steady
  cases request with
  | report event => exact of_steady fun _ => (sameCompany_log kernel task event).steady
  | openLog filter =>
      refine .modify ?_ kernel task.pid
      exact fun _ => rfl
  | react signal reaction => exact .modify (harmless_react signal reaction) kernel task.pid
  | select child signals =>
      have left (mover : Pid) : (kernel.select task child signals).Leaves
          (kernel.Settles mover fun _ => True) := leaves_select trivial kernel task signals
      simp only [attempt]
      generalize kernel.select task child signals = attempt at left
      cases attempt with
      | blocked => trivial
      | again after => exact settled left
      | answered reply after => exact settled left
  | send pid signal => exact settled fun _ => settles_send kernel task.pid pid signal
  | setHostname name =>
      simp only [attempt]
      split
      · next renamed =>
          rw [rename_eq_ok renamed]
          exact .of_tasks rfl
      · exact .refl kernel
  | write descriptor bytes => exact write kernel task descriptor bytes
  | spawn spawning => exact spawn kernel task spawning
  | ownPath | ownPid | parentPid | namespaceOf _ => exact .refl kernel
  | _ => cases allowed

/-- By a step of a stage nobody opens or closes a file. -/
theorem of_acts (plays : task.process.Plays manner) (acts : kernel.Acts task after) :
    kernel.KeepsOpened kernel.nextPid after := by
  have begins : kernel.KeepsOpened kernel.nextPid (kernel.atTimeOf task) := .atTimeOf kernel task
  cases acts with
  | ends came => exact begins.trans (of_steady fun _ => steady_finish _ _ _)
  | turns loops => exact .goOn _ kernel task.pid
  | forks splits =>
      rw [splits] at plays
      exact plays.elim
  | tries calls again =>
      rw [calls] at plays
      exact begins.trans ((of_staging plays.1 _ task).of_again again)
  | makes calls answered =>
      rw [calls] at plays
      exact (begins.trans ((of_staging plays.1 _ task).of_answered answered)).trans (.goOn _ _ _)

end KeepsOpened

/-- By no move does a file that was open lead elsewhere. -/
theorem Moves.keepsHandles (moves : Moves before move after) :
    before.KeepsHandles (fun _ => True) after := by
  cases moves with
  | act member alive stepped =>
      cases acts_of_stepOther? stepped with
      | ends came => exact .of_eq (SameStorage.finish _ _ _).handles
      | turns loops => exact .of_eq rfl
      | forks splits change seat => exact .of_eq rfl
      | @tries request next after calls again =>
          have keeps := (KeepsHandles.of_attempt (fun _ => trivial) _ _ _).of_again again
          exact keeps
      | @makes request next reply between calls answered =>
          have keeps := (KeepsHandles.of_attempt (fun _ => trivial) _ _ _).of_answered answered
          exact keeps
  | fail member alive step fails => exact .of_eq rfl
  | signal pid signal => exact .of_eq (SameStorage.signal before pid signal).handles
  | grant privilege => exact .of_eq rfl

/-! ### Standard error -/

/-- What a process logs goes to a channel, and so does what any program logs that it turns into. -/
def LogsTo (kernel : Kernel) (task : Task) (sink : Channel) : Prop :=
  match task.find? Descriptor.error with
  | none => sink = .null
  | some entry => entry.lasting ∧ ∃ handle, kernel.handles[entry.handle]? = some handle ∧
      sink = if handle.writes then handle.channel else .null

theorem LogsTo.sinkOf (logs : kernel.LogsTo task sink) : kernel.sinkOf task = sink := by
  unfold LogsTo at logs
  unfold Kernel.sinkOf handle?
  cases found : task.find? Descriptor.error with
  | none =>
      rw [found] at logs
      exact logs.symm
  | some entry =>
      rw [found] at logs
      obtain ⟨-, handle, isThere, rfl⟩ := logs
      simp [isThere]

theorem LogsTo.of_keeps (logs : before.LogsTo task sink)
    (keeps : before.KeepsHandles (fun _ => True) after)
    (same : other.find? Descriptor.error = task.find? Descriptor.error) :
    after.LogsTo other sink := by
  unfold LogsTo at logs ⊢
  rw [same]
  cases found : task.find? Descriptor.error with
  | none =>
      rw [found] at logs
      exact logs
  | some entry =>
      rw [found] at logs
      obtain ⟨lasting, handle, isThere, rfl⟩ := logs
      obtain ⟨offset, isLater, -⟩ := keeps entry.handle handle isThere
      exact ⟨lasting, _, isLater, rfl⟩

/-- What is found among others is found where only others have been left out. -/
theorem find?_filter_of_keeps {α : Type} {holds kept : α → Bool} {items : List α}
    (keeps : ∀ item, items.find? holds = some item → kept item) :
    (items.filter kept).find? holds = items.find? holds := by
  induction items with
  | nil => rfl
  | cons item items hypothesis =>
      cases is : holds item with
      | true =>
          have isKept := keeps item (List.find?_cons_of_pos is)
          rw [List.filter_cons_of_pos isKept, List.find?_cons_of_pos is, List.find?_cons_of_pos is]
      | false =>
          have isNot : ¬ holds item := by simp [is]
          rw [List.find?_cons_of_neg isNot] at keeps ⊢
          rw [← hypothesis keeps, List.filter_cons]
          split
          · exact List.find?_cons_of_neg isNot
          · rfl

theorem childFiles_eq (kernel : Kernel) (task : Task) (streams : Streams) :
    kernel.childFiles task streams =
      ((streams.discards.map fun binding => ⟨binding.1, kernel.handles.size, true⟩) ++
        task.lastingFiles.filter fun entry =>
          !streams.discards.any fun binding => binding.1 = entry.descriptor,
      if streams.discards.isEmpty then kernel
      else { kernel with handles := kernel.handles.push ⟨.null, true, true, false, 0⟩ }) :=
  rfl

/-- By a number that it is not given the null device by, a child has what its parent shares. -/
theorem find?_childFiles_inherit {streams : Streams} {descriptor : Descriptor}
    (binds : (descriptor, .inherit) ∈ streams.bindings) (kernel : Kernel) (task : Task) :
    ((kernel.childFiles task streams).1.find? fun entry => entry.descriptor = descriptor) =
      task.passed? descriptor := by
  have discards {binding : Descriptor × Binding} (discarded : binding ∈ streams.discards) :
      binding.1 ≠ descriptor := by
    rintro rfl
    obtain ⟨among, isNull⟩ := List.mem_filter.1 discarded
    have same : binding.2 = .inherit := Streams.binding_unique among binds
    simp [same] at isNull
  rw [childFiles_eq, List.find?_append, List.find?_eq_none.2, Option.none_or]
  · refine find?_filter_of_keeps fun entry found => ?_
    have number : entry.descriptor = descriptor := by simpa using List.find?_some found
    rw [number, Bool.not_eq_true', List.any_eq_false]
    intro binding discarded
    simpa using discards discarded
  · intro entry among
    obtain ⟨binding, discarded, rfl⟩ := List.mem_map.1 among
    simpa using discards discarded

/-- By a number that it is given the null device by, a child has a new open file that leads there. -/
theorem find?_childFiles_null {streams : Streams} {descriptor : Descriptor}
    (binds : (descriptor, .null) ∈ streams.bindings) (kernel : Kernel) (task : Task) :
    ((kernel.childFiles task streams).1.find? fun entry => entry.descriptor = descriptor) =
        some ⟨descriptor, kernel.handles.size, true⟩ ∧
      (kernel.childFiles task streams).2.handles[kernel.handles.size]? =
        some ⟨.null, true, true, false, 0⟩ := by
  have among : (descriptor, .null) ∈ streams.discards := List.mem_filter.2 ⟨binds, rfl⟩
  rw [childFiles_eq]
  constructor
  · have present : (streams.discards.find? fun binding => binding.1 = descriptor).isSome :=
      List.find?_isSome.2 ⟨_, among, by simp⟩
    obtain ⟨binding, found⟩ := Option.isSome_iff_exists.1 present
    have number : binding.1 = descriptor := by simpa using List.find?_some found
    have mapped : ((streams.discards.map fun binding => (⟨binding.1, kernel.handles.size, true⟩ :
        Opened)).find? fun entry => entry.descriptor = descriptor) =
          some ⟨binding.1, kernel.handles.size, true⟩ := by
      rw [List.find?_map]
      exact congrArg (Option.map _) found
    rw [List.find?_append, mapped, number, Option.some_or]
  · have some : ¬ streams.discards.isEmpty := fun none => by
      rw [List.isEmpty_iff.1 none] at among
      cases among
    rw [if_neg some]
    exact Array.getElem?_push_size

/-- A child that shares its parent's standard error has it open as its parent has. -/
theorem find?_newborn (shares : spawning.streams.error = .inherit)
    (lasts : ∀ entry, task.find? Descriptor.error = some entry → entry.lasting)
    (kernel : Kernel) :
    (kernel.newborn task spawning).find? Descriptor.error = task.find? Descriptor.error := by
  have binds : (Descriptor.error, .inherit) ∈ spawning.streams.bindings := by
    simp [Streams.bindings, shares]
  exact (find?_childFiles_inherit binds kernel task).trans (find?_filter_of_keeps lasts)

/-- A child that shares its parent's standard error logs to where its parent does. -/
theorem LogsTo.childOf {loaded : Loaded} (logs : kernel.LogsTo task sink)
    (shares : spawning.streams.error = .inherit)
    (keeps : kernel.KeepsHandles (fun _ => True) after) :
    after.LogsTo (kernel.childOf task spawning loaded) sink := by
  refine logs.of_keeps keeps (find?_newborn shares (fun entry found => ?_) kernel)
  rw [LogsTo, found] at logs
  exact logs.1

end Kernel

end HostnameSandbox

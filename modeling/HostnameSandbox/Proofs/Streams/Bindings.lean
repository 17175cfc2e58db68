import HostnameSandbox.Proofs.Streams.Silence

/-!
# Where the streams of children lead

Each of the three standard streams of a child is its parent's own or leads to the null device, as it
is bound, whatever the two others are bound to.  A process that plays a stage has the same files
open for as long as it lives, so that a child of its child is connected to whatever its child is.
-/

namespace HostnameSandbox

namespace Task

variable {task : Task} {descriptor : Descriptor}

theorem lasting_of_passed? {entry : Opened} (passed : task.passed? descriptor = some entry) :
    entry.lasting :=
  (List.mem_filter.1 (List.mem_of_find?_eq_some passed)).2

/-- An open file is shared with children unless programs do not have it that the process turns
into. -/
theorem passed?_eq_find? (lasts : ∀ entry, task.find? descriptor = some entry → entry.lasting) :
    task.passed? descriptor = task.find? descriptor :=
  Kernel.find?_filter_of_keeps lasts

end Task

/-- A stream that is bound in whatever way is shared where all are. -/
theorem Streams.mem_inherited {streams : Streams} {descriptor : Descriptor} {binding : Binding}
    (binds : (descriptor, binding) ∈ streams.bindings) :
    (descriptor, .inherit) ∈ inherited.bindings := by
  simp only [bindings, List.mem_cons, Prod.mk.injEq, List.not_mem_nil, or_false] at binds
  rcases binds with ⟨rfl, -⟩ | ⟨rfl, -⟩ | ⟨rfl, -⟩ <;> decide

namespace Kernel

variable {first kernel before after last : Kernel} {task caller child : Task} {move : Move}
  {trace : List Move} {manner : Manner} {pid : Pid} {files : List Opened}
  {descriptor : Descriptor} {streams : Streams}

/-! ### The null device -/

/-- By a number a process reads as if at an end, and what it writes is taken and lost. -/
structure Voids (kernel : Kernel) (task : Task) (descriptor : Descriptor) : Prop where
  reads : ∀ limit, kernel.attempt task (.read descriptor limit) = .answered (.ok []) kernel
  writes : ∀ bytes, kernel.attempt task (.write descriptor bytes) = .answered (.ok ()) kernel

/-- A process has the null device open by a number, to read and to write. -/
def HasNull (kernel : Kernel) (task : Task) (descriptor : Descriptor) : Prop :=
  ∃ number offset, task.find? descriptor = some ⟨descriptor, number, true⟩ ∧
    kernel.handles[number]? = some ⟨.null, true, true, false, offset⟩

theorem HasNull.voids (null : kernel.HasNull task descriptor) : kernel.Voids task descriptor := by
  obtain ⟨number, offset, found, leads⟩ := null
  have handle : kernel.handle? task descriptor =
      some (number, ⟨.null, true, true, false, offset⟩) := by
    simp [handle?, found, leads]
  constructor
  · intro limit
    simp [attempt, read, handle]
  · intro bytes
    simp [attempt, write, handle]

/-- What leads to the null device goes on doing so. -/
theorem HasNull.of_keeps (null : before.HasNull task descriptor)
    (keeps : before.KeepsHandles (fun _ => True) after)
    (same : child.find? descriptor = task.find? descriptor) : after.HasNull child descriptor := by
  obtain ⟨number, offset, found, leads⟩ := null
  obtain ⟨later, isLater, -⟩ := keeps number _ leads
  exact ⟨number, later, same.trans found, isLater⟩

theorem keepsHandles_of_run (run : Run Moves first trace last) :
    first.KeepsHandles (fun _ => True) last := by
  induction run with
  | start => exact .refl first
  | next run moves hypothesis => exact hypothesis.trans moves.keepsHandles

/-! ### The streams of a child -/

/-- The standard streams of a process are those of a caller or lead to the null device, each as it
is bound. -/
structure Connects (caller : Task) (streams : Streams) (task : Task) (kernel : Kernel) : Prop where
  own : ∀ descriptor, (descriptor, .inherit) ∈ streams.bindings →
    task.find? descriptor = caller.passed? descriptor
  lost : ∀ descriptor, (descriptor, .null) ∈ streams.bindings → kernel.HasNull task descriptor

namespace Connects

/-- A child that has just been created is connected as it was told. -/
theorem of_childFiles (before : Kernel) (same : child.opened = (before.childFiles task streams).1)
    (handles : after.handles = (before.childFiles task streams).2.handles) :
    Connects task streams child after where
  own descriptor binds := by
    rw [Task.find?, same]
    exact find?_childFiles_inherit binds before task
  lost descriptor binds := by
    obtain ⟨found, leads⟩ := find?_childFiles_null binds before task
    refine ⟨before.handles.size, 0, ?_, handles ▸ leads⟩
    rw [Task.find?, same]
    exact found

/-- Every stream of a process is shared with its children that is connected in some way. -/
theorem passed?_eq (connects : Connects caller streams task kernel) {binding : Binding}
    (binds : (descriptor, binding) ∈ streams.bindings) :
    task.passed? descriptor = task.find? descriptor := by
  refine Task.passed?_eq_find? fun entry found => ?_
  cases binding with
  | inherit =>
      -- what has come from the caller outlives the start of a program, as it has done so before
      exact Task.lasting_of_passed? ((connects.own descriptor binds).symm.trans found)
  | null =>
      obtain ⟨number, offset, isNull, -⟩ := connects.lost descriptor binds
      obtain rfl := Option.some.inj (isNull.symm.trans found)
      rfl

/-- A child that shares all streams of a process is connected as that is. -/
theorem trans (connects : Connects caller streams task before)
    (keeps : before.KeepsHandles (fun _ => True) after)
    (shares : Connects task .inherited child after) : Connects caller streams child after where
  own descriptor binds := by
    rw [shares.own descriptor (Streams.mem_inherited binds), connects.passed?_eq binds,
      connects.own descriptor binds]
  lost descriptor binds := by
    refine (connects.lost descriptor binds).of_keeps keeps ?_
    rw [shares.own descriptor (Streams.mem_inherited binds), connects.passed?_eq binds]

theorem of_caller {other : Task} (connects : Connects caller streams task kernel)
    (same : other.opened = caller.opened) : Connects other streams task kernel where
  own descriptor binds := by
    rw [connects.own descriptor binds, Task.passed?, Task.lastingFiles, ← same]
    rfl
  lost := connects.lost

end Connects

/-! ### Stages among moves -/

/-- A process plays a stage in a manner, and has the same files open for as long as it lives. -/
structure Abides (manner : Manner) (pid : Pid) (files : List Opened) (kernel : Kernel) : Prop where
  coherent : kernel.Coherent
  known : pid < kernel.nextPid
  plays : kernel.Keeps (staging manner) (fun _ _ => True) pid ()
  opened : ∀ task ∈ kernel.tasks, task.pid = pid → task.isAlive → task.opened = files

/-- Whoever lives after a move has had the same files open before, unless it is another process than
a stage that has moved. -/
theorem Moves.opened (moves : Moves before move after) (coherent : before.Coherent)
    (plays : before.Keeps (staging manner) (fun _ _ => True) task.pid ())
    (member : task ∈ after.tasks) (known : task.pid < before.nextPid) (alive : task.isAlive) :
    ∃ earlier ∈ before.tasks, earlier.pid = task.pid ∧ earlier.isAlive ∧
      task.opened = earlier.opened := by
  have other := Int.ne_of_lt known
  obtain ⟨-, -, ⟨mover, isMover, made, shift⟩ | ⟨-, settles⟩⟩ := moves.effect
  · by_cases mine : mover.pid = task.pid
    · rcases moves.acts_or_fails coherent isMover made with acts | ⟨exchange, next, -, -, rfl⟩
      · exact KeepsOpened.of_acts (plays mover isMover mine) acts task member alive other
      · have keeps : before.KeepsOpened before.nextPid _ := .goOn next before mover.pid
        exact keeps task member alive other
    · rcases shift.tasks task member with ⟨earlier, isEarlier, continues⟩ | ⟨fresh, newborn⟩
      · obtain ⟨lives, opened⟩ := continues.opened alive
        exact ⟨earlier, isEarlier, continues.pid.symm, lives, opened fun is => mine is.symm⟩
      · exact absurd rfl (newborn.pid_ne known)
  · have keeps : before.KeepsOpened before.nextPid after :=
      .of_steady fun mover => (settles mover).steady
    exact keeps task member alive other

namespace Abides

theorem next (abides : Abides manner pid files before) (moves : Moves before move after) :
    Abides manner pid files after where
  coherent := moves.coherent abides.coherent
  known := Int.lt_of_lt_of_le abides.known moves.grows.2
  plays := by
    rcases moves.follows (staging_steadfast manner) abides.known abides.plays with
      ⟨-, keeps⟩ | ⟨-, follows⟩
    · exact keeps
    · cases follows with
      | rests steady keeps => exact keeps
      | fails allowed fails steady keeps => exact keeps
      | makes isTask is allowed begins answered rest keeps => exact keeps
  opened task member is alive := by
    subst is
    obtain ⟨earlier, isEarlier, same, lives, opened⟩ :=
      moves.opened abides.coherent abides.plays member abides.known alive
    exact opened.trans (abides.opened earlier isEarlier same lives)

theorem of_run (abides : Abides manner pid files first) (run : Run Moves first trace last) :
    Abides manner pid files last :=
  run.invariant abides fun _ _ _ abides moves => abides.next moves

/-- Whoever plays a stage and creates a child connects that as it asks for it. -/
theorem bears (abides : Abides manner pid files before) (moves : Moves before move after)
    (bears : move.Bears pid child) :
    ∃ task ∈ before.tasks, task.pid = pid ∧ ∃ spawning next,
      task.process = .call (.spawn spawning) next ∧ Connects task spawning.streams child after := by
  obtain ⟨task, member, fresh, rfl, newborn, -⟩ := moves.born abides.coherent bears
  have now := abides.plays task member rfl
  have grown : after.nextPid ≠ before.nextPid := by
    rw [newborn.nextPid]
    exact Int.ne_of_gt (Int.lt_succ _)
  rcases newborn.may with ⟨spawning, next, calls, -⟩ | ⟨-, next, splits⟩
  · refine ⟨task, member, rfl, spawning, next, calls, ?_⟩
    have isChild : child ∈ after.tasks := moves.after_eq ▸ bears.member
    rcases moves.acts_or_fails abides.coherent member bears.mover with acts | ⟨_, _, -, -, is⟩
    · obtain ⟨loaded, loads, rfl⟩ := acts.eq_childOf abides.coherent member calls isChild newborn.pid
      obtain ⟨reply, between, spawned, rfl⟩ := acts.of_spawn calls
      refine .of_childFiles (before.atTimeOf task) rfl ?_
      rw [spawn_eq, loads] at spawned
      split at spawned
      · cases spawned
        exact absurd rfl grown
      · cases spawned
        rfl
    · exact absurd (congrArg Kernel.nextPid is) grown
  · rw [splits] at now
    exact now.elim

end Abides

end Kernel

end HostnameSandbox

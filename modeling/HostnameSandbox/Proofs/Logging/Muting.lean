import HostnameSandbox.Host.Run
import HostnameSandbox.Sandbox

/-!
# Hosts without what is logged

Two hosts that differ only in what the program logs are the same host once that is taken away: the
log setting of every environment, the verbosity that the stages were started with and what they do
by it, and what has come to the channel that they log to.  Whatever the kernel does for a process
without a look at these, it does in the same way on the host without them.
-/

namespace HostnameSandbox

/-- An environment without a variable. -/
def Environment.unset (environment : Environment) (name : String) : Environment :=
  environment.filter fun entry => entry.1 ≠ Bytes.ofString name

theorem Environment.value?_unset {name other : String} (distinct : Bytes.ofString other ≠
    Bytes.ofString name) (environment : Environment) :
    (environment.unset name).value? other = environment.value? other := by
  rw [value?, value?, unset, List.find?_filter]
  congr 2
  funext entry
  by_cases is : entry.1 = Bytes.ofString other <;> simp [is, distinct]

/-- A process without the log setting and, if it plays a stage, without what it was started with and
what it does. -/
def Task.muted (task : Task) (stages : List Pid) : Task :=
  { task with
    environment := task.environment.unset Sandbox.logVariable
    words := if task.pid ∈ stages then [] else task.words
    journal := if task.pid ∈ stages then .closed else task.journal
    process := if task.pid ∈ stages then .done 0 else task.process }

/-- An open file without how far one has come in it that things are logged to. -/
def Handle.muted (handle : Handle) (sink : Channel) : Handle :=
  match sink with
  | .store _ | .file _ => if handle.channel = sink then { handle with offset := 0 } else handle
  | _ => handle

/-- A file tree without what is in the file that things are logged to, which is put last. -/
def FileTree.muted (tree : FileTree) (sink : Channel) : FileTree :=
  match sink with
  | .file place =>
      match tree.find? place with
      | some (.file mode _) =>
          ⟨(tree.entries.filter fun entry => entry.1 != place) ++
            [(place, .file mode (.text .none))]⟩
      | _ => tree
  | _ => tree

/-- The stores without what is in the one that things are logged to. -/
def Channel.muteStores (sink : Channel) (stores : Array Data) : Array Data :=
  match sink with
  | .store number => stores.setIfInBounds number .none
  | _ => stores

/-- The pipes without what is in the one that things are logged to. -/
def Channel.mutePipes (sink : Channel) (pipes : Array Pipe) : Array Pipe :=
  match sink with
  | .inlet number => pipes.setIfInBounds number .empty
  | _ => pipes

/-- A host without what is logged, where `sink` is the channel that things are logged to and `stages`
are the processes that play stages. -/
def Kernel.muted (kernel : Kernel) (sink : Channel) (stages : List Pid) : Kernel :=
  { kernel with
    files := kernel.files.muted sink
    changes := kernel.changes.filter fun entry => Channel.file entry.1 != sink
    stores := sink.muteStores kernel.stores
    pipes := sink.mutePipes kernel.pipes
    handles := kernel.handles.map fun handle => handle.muted sink
    stamp := ""
    events := []
    tasks := kernel.tasks.map fun task => task.muted stages }

/-! ### Processes -/

/-- A change of a process that is the same without what is logged. -/
def Task.Deaf (stages : List Pid) (change : Task → Task) : Prop :=
  ∀ task, (change task).muted stages = change (task.muted stages)

namespace Task

variable {stages : List Pid}

theorem Deaf.comp {first second : Task → Task} (later : Deaf stages second)
    (sooner : Deaf stages first) : Deaf stages (second ∘ first) := by
  intro task
  rw [Function.comp_apply, later, sooner]
  rfl

theorem deaf_note (stages : List Pid) (signal : Signal) :
    Deaf stages fun task => task.note signal := by
  intro task
  change (if task.noted.contains signal then _ else _ : Task).muted stages =
    if task.noted.contains signal then _ else _
  split <;> rfl

theorem deaf_wake (stages : List Pid) (signal : Signal) (clock : Nat) :
    Deaf stages fun task => { task.note signal with clock } := by
  have sets : Deaf stages fun task => { task with clock } := fun _ => rfl
  exact sets.comp (deaf_note stages signal)

theorem deaf_react (stages : List Pid) (signal : Signal) (reaction : Reaction) :
    Deaf stages fun task => task.react signal reaction := by
  have settles : Deaf stages fun task =>
      if task.drops signal then { task with waiting := task.waiting.filter (· != signal) }
      else task := by
    intro task
    change (if task.drops signal then _ else _ : Task).muted stages =
      if task.drops signal then _ else _
    split <;> rfl
  have chooses : Deaf stages fun task => { task with
      reactions := (signal, reaction) :: task.reactions.filter fun entry => entry.1 != signal } :=
    fun _ => rfl
  exact settles.comp chooses

theorem deaf_receive (stages : List Pid) (signal : Signal) :
    Deaf stages fun task => task.receive signal := by
  have begins : Deaf stages fun task =>
      if signal = .resume then
        { task with stopped := false, waiting := task.waiting.filter fun other => !other.stops }
      else if signal = .kill then { task with stopped := false }
      else if signal.stops then { task with waiting := task.waiting.filter (· != .resume) }
      else task := by
    intro task
    dsimp only
    split
    · rfl
    · split
      · rfl
      · split <;> rfl
  have waits : Deaf stages fun task =>
      if task.waiting.contains signal || (task.drops signal && !task.holds signal) then task
      else { task with waiting := task.waiting ++ [signal] } := by
    intro task
    change (if task.waiting.contains signal || (task.drops signal && !task.holds signal) then _
        else _ : Task).muted stages =
      if task.waiting.contains signal || (task.drops signal && !task.holds signal) then _ else _
    split <;> rfl
  exact waits.comp begins

end Task

namespace Kernel

variable {sink : Channel} {stages : List Pid}

theorem task?_muted (kernel : Kernel) (pid : Pid) :
    (kernel.muted sink stages).task? pid = (kernel.task? pid).map fun task => task.muted stages := by
  rw [task?, task?, muted, List.find?_map]
  rfl

theorem isAlive_muted (kernel : Kernel) (pid : Pid) :
    (kernel.muted sink stages).isAlive pid = kernel.isAlive pid := by
  rw [isAlive, isAlive, muted, List.any_map]
  rfl

theorem members_muted (kernel : Kernel) :
    (kernel.muted sink stages).members = kernel.members := by
  rw [members, members, muted, List.map_map]
  rfl

theorem modify_muted {change : Task → Task} (deaf : Task.Deaf stages change) (kernel : Kernel)
    (pid : Pid) :
    (kernel.modify pid change).muted sink stages = (kernel.muted sink stages).modify pid change := by
  simp only [muted, modify, List.map_map, Kernel.mk.injEq, true_and, and_true]
  refine List.map_congr_left fun task _ => ?_
  change (if task.pid = pid then change task else task : Task).muted stages =
    if task.pid = pid then change (task.muted stages) else task.muted stages
  split
  · exact deaf task
  · rfl

theorem replace_muted (kernel : Kernel) (pid : Pid) (task : Task) :
    (kernel.modify pid fun _ => task).muted sink stages =
      (kernel.muted sink stages).modify pid fun _ => task.muted stages := by
  simp only [muted, modify, List.map_map, Kernel.mk.injEq, true_and, and_true]
  refine List.map_congr_left fun other _ => ?_
  simp only [Function.comp_apply]
  change (if other.pid = pid then task else other : Task).muted stages =
    if other.pid = pid then task.muted stages else other.muted stages
  split <;> rfl

theorem forget_muted (kernel : Kernel) (pid : Pid) :
    (kernel.forget pid).muted sink stages = (kernel.muted sink stages).forget pid := by
  simp only [muted, forget, List.filter_map, Kernel.mk.injEq, true_and, and_true]
  rfl

theorem atTimeOf_muted (kernel : Kernel) (task : Task) :
    (kernel.atTimeOf task).muted sink stages =
      (kernel.muted sink stages).atTimeOf (task.muted stages) := by
  refine modify_muted ?_ { kernel with now := max kernel.now task.clock } task.pid
  exact fun _ => rfl

/-! ### Signals -/

theorem finish_muted (kernel : Kernel) (pid : Pid) (status : ExitStatus) :
    (kernel.finish pid status).muted sink stages =
      (kernel.muted sink stages).finish pid status := by
  unfold finish
  rw [task?_muted]
  cases kernel.task? pid with
  | none => rfl
  | some ended =>
      simp only [Option.map_some, isAlive_muted]
      simp only [muted, List.filter_map, List.map_map, Kernel.mk.injEq, true_and, and_true]
      refine List.map_congr_left fun task _ => ?_
      simp only [Function.comp_apply]
      change (if task.pid = pid then _ else if task.parent = pid then _
          else if task.pid = ended.parent && task.reactionTo .childEnded = .caught then _
          else _ : Task).muted stages =
        if task.pid = pid then _ else if task.parent = pid then _
          else if task.pid = ended.parent && task.reactionTo .childEnded = .caught then _ else _
      split
      · rfl
      · split
        · rfl
        · split
          · exact Task.deaf_note stages .childEnded task
          · rfl

theorem act_muted (pid : Pid) (kernel : Kernel) (signal : Signal) :
    (act pid kernel signal).muted sink stages = act pid (kernel.muted sink stages) signal := by
  unfold act
  rw [task?_muted]
  cases kernel.task? pid with
  | none => rfl
  | some task =>
      change (if !task.isAlive || task.stopped || !task.waiting.contains signal then _
          else _ : Kernel).muted sink stages =
        if !task.isAlive || task.stopped || !task.waiting.contains signal then _ else _
      split
      · rfl
      · have begins : (kernel.modify pid fun task =>
              { task with waiting := task.waiting.filter (· != signal) }).muted sink stages =
            (kernel.muted sink stages).modify pid fun task =>
              { task with waiting := task.waiting.filter (· != signal) } :=
          modify_muted (fun _ => rfl) kernel pid
        have same : (task.muted stages).reactionTo signal = task.reactionTo signal := rfl
        rw [same]
        cases task.reactionTo signal with
        | ignored => exact begins
        | ignoredOnce =>
            rw [modify_muted (Task.deaf_react stages signal .standard), begins]
        | caught =>
            dsimp only
            rw [modify_muted (Task.deaf_wake stages signal _), begins]
            rfl
        | standard =>
            dsimp only
            split
            · rw [modify_muted, begins]
              exact fun _ => rfl
            · split
              · rw [finish_muted, begins]
              · exact begins

theorem foldl_muted {α : Type} {step : Kernel → α → Kernel}
    (deaf : ∀ kernel value, (step kernel value).muted sink stages =
      step (kernel.muted sink stages) value) (values : List α) (kernel : Kernel) :
    (values.foldl step kernel).muted sink stages = values.foldl step (kernel.muted sink stages) := by
  induction values generalizing kernel with
  | nil => rfl
  | cons value values hypothesis => rw [List.foldl_cons, hypothesis, deaf, List.foldl_cons]

theorem change_muted {change : Task → Task} (deaf : Task.Deaf stages change) (kernel : Kernel)
    (pid : Pid) :
    (kernel.change pid change).muted sink stages = (kernel.muted sink stages).change pid change := by
  unfold Kernel.change
  rw [task?_muted]
  cases kernel.task? pid with
  | none => rfl
  | some task =>
      change (if !task.isAlive then _ else _ : Kernel).muted sink stages =
        if !task.isAlive then _ else _
      split
      · rfl
      · dsimp only
        rw [foldl_muted (act_muted pid), ← deaf task, replace_muted]
        rfl

theorem signal_muted (kernel : Kernel) (pid : Pid) (signal : Signal) :
    (kernel.signal pid signal).muted sink stages = (kernel.muted sink stages).signal pid signal :=
  change_muted (Task.deaf_receive stages signal) kernel pid

theorem addressed_muted (kernel : Kernel) (sender pid : Pid) :
    (kernel.muted sink stages).addressed sender pid = kernel.addressed sender pid := by
  have pids : (kernel.muted sink stages).tasks.map Task.pid = kernel.tasks.map Task.pid := by
    rw [muted, List.map_map]
    rfl
  rw [addressed, addressed, pids]

theorem send_muted (kernel : Kernel) (sender pid : Pid) (signal : Signal) :
    (kernel.muted sink stages).send sender pid signal =
      ((kernel.send sender pid signal).1, (kernel.send sender pid signal).2.muted sink stages) := by
  unfold send
  rw [addressed_muted]
  dsimp only
  split
  · rfl
  · split
    · split
      · rfl
      · rw [foldl_muted fun kernel target => signal_muted kernel target signal]
    · change (if kernel.bystanders.any fun member => member.1 = pid then _ else _) = _
      split <;> rfl

end Kernel

end HostnameSandbox

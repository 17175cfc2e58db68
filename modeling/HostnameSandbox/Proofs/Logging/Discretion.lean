import HostnameSandbox.Proofs.Logging.Scene

/-!
# What stages write

A stage whose command line is read writes nowhere but to its standard error, so that what is in any
other file, store or pipe changes only by what other processes do.  A stage whose inner stage does
not read its command line may write elsewhere, but then nothing is ever run but stages.
-/

namespace HostnameSandbox

/-- Who keeps to a manner writes to its standard error only. -/
def Manner.OnlyTells (manner : Manner) : Prop :=
  ∀ descriptor, manner.mayWrite descriptor → descriptor = Descriptor.error

theorem Manner.onlyTells_discreet : Manner.discreet.OnlyTells := fun _ => id

namespace Kernel

variable {sink : Channel} {stages : List Pid} {kernel before between after : Kernel} {task : Task}
  {pid : Pid}

/-- What is in files, stores and pipes is the same on two hosts, but for one of them. -/
structure SameBeside (sink : Channel) (one two : Kernel) : Prop where
  contents : ∀ channel, channel ≠ sink → one.contents channel = two.contents channel
  pipe : ∀ number, .inlet number ≠ sink → one.pipe number = two.pipe number

namespace SameBeside

theorem trans (first : SameBeside sink before between) (second : SameBeside sink between after) :
    SameBeside sink before after where
  contents channel distinct :=
    (first.contents channel distinct).trans (second.contents channel distinct)
  pipe number distinct := (first.pipe number distinct).trans (second.pipe number distinct)

/-- Hosts that differ only in what is logged store the same but for that. -/
theorem of_muted {one two : Kernel} (same : one.muted sink stages = two.muted sink stages) :
    SameBeside sink one two where
  contents channel distinct := by rw [← contents_muted distinct one, same, contents_muted distinct]
  pipe number distinct := by rw [← pipe_muted distinct one, same, pipe_muted distinct]

theorem of_eq (files : after.files = before.files) (stores : after.stores = before.stores)
    (pipes : after.pipes = before.pipes) : SameBeside sink before after where
  contents channel _ := by
    unfold Kernel.contents
    rw [files, stores]
  pipe number _ := by rw [Kernel.pipe, Kernel.pipe, pipes]

theorem of_storage (same : before.SameStorage after) : SameBeside sink before after :=
  .of_eq same.files same.stores same.pipes

theorem refl (kernel : Kernel) : SameBeside sink kernel kernel := .of_storage (.refl kernel)

theorem modify (kernel : Kernel) (pid : Pid) (change : Task → Task) :
    SameBeside sink kernel (kernel.modify pid change) :=
  .of_storage (.modify kernel pid change)

theorem signal (kernel : Kernel) (pid : Pid) (signal : Signal) :
    SameBeside sink kernel (kernel.signal pid signal) :=
  .of_storage (.signal kernel pid signal)

theorem setContents (kernel : Kernel) (channel : Channel) (data : Data) :
    SameBeside channel kernel (kernel.setContents channel data) := by
  have same : (kernel.setContents channel data).muted channel [] = kernel.muted channel [] :=
    setContents_muted_self kernel channel data
  exact .of_muted same.symm

theorem setPipe (kernel : Kernel) (number : Nat) (pipe : Pipe) :
    SameBeside (.inlet number) kernel (kernel.setPipe number pipe) := by
  have same : (kernel.setPipe number pipe).muted (.inlet number) [] =
      kernel.muted (.inlet number) [] := setPipe_muted_self kernel number pipe
  exact .of_muted same.symm

theorem writeThrough (kernel : Kernel) (number : Nat) (handle : Handle) (bytes : Bytes) :
    SameBeside handle.channel kernel (kernel.writeThrough number handle bytes) := by
  unfold Kernel.writeThrough
  dsimp only
  split
  · exact .of_eq rfl rfl rfl
  · exact (setContents kernel handle.channel _).trans (.of_eq rfl rfl rfl)

theorem writePipe (kernel : Kernel) (task : Task) (descriptor : Descriptor) (number : Nat)
    (bytes : Bytes) :
    (kernel.writePipe task descriptor number bytes).Leaves (SameBeside (.inlet number) kernel) := by
  unfold Kernel.writePipe
  dsimp only
  split
  · exact (modify kernel task.pid _).trans (signal _ task.pid .brokenPipe)
  · split
    · trivial
    · split
      · split <;> exact (setPipe kernel number _).trans (modify _ task.pid _)
      · split <;> exact (setPipe kernel number _).trans (modify _ task.pid _)

theorem writeStored (kernel : Kernel) (task : Task) (descriptor : Descriptor) (number : Nat)
    (handle : Handle) (bytes : Bytes) :
    (kernel.writeStored task descriptor number handle bytes).Leaves
      (SameBeside handle.channel kernel) := by
  unfold Kernel.writeStored
  dsimp only
  split
  · split
    · exact (writeThrough kernel number handle _).trans (signal _ task.pid .fileTooLarge)
    · exact writeThrough kernel number handle bytes
  · exact writeThrough kernel number handle bytes

/-- What is written through an open file changes nothing but what that one leads to. -/
theorem write {descriptor : Descriptor} (leads : ∀ number handle,
      kernel.handle? task descriptor = some (number, handle) → handle.writes →
        handle.channel = sink) (bytes : Bytes) :
    (kernel.write task descriptor bytes).Leaves (SameBeside sink kernel) := by
  unfold Kernel.write
  split
  · exact .refl kernel
  · next number handle found =>
      split
      · exact .refl kernel
      · next writes =>
          obtain rfl := leads number handle found (by simpa using writes)
          split
          · exact .refl kernel
          · next pipe is =>
              rw [is]
              exact writePipe kernel task descriptor pipe bytes
          · exact writeStored kernel task descriptor number handle bytes
          · exact writeStored kernel task descriptor number handle bytes
          · exact modify kernel _ _
          · exact .of_eq rfl rfl rfl
          · exact .of_eq rfl rfl rfl
          · exact .refl kernel

theorem log (kernel : Kernel) (task : Task) (event : Event) :
    SameBeside (kernel.sinkOf task) kernel (kernel.log task event) := by
  have same : (kernel.log task event).muted (kernel.sinkOf task) [] =
      kernel.muted (kernel.sinkOf task) [] := log_muted kernel task event
  exact .of_muted same.symm

theorem spawn (kernel : Kernel) (task : Task) (spawning : Spawning) :
    SameBeside sink kernel (kernel.spawn task spawning).2 := by
  have files : SameBeside sink kernel (kernel.childFiles task spawning.streams).2 := by
    unfold childFiles
    dsimp only
    split
    · exact .refl kernel
    · exact .of_eq rfl rfl rfl
  rw [spawn_eq]
  split
  · exact .refl kernel
  · cases kernel.loadChild task spawning with
    | error errno => exact .refl kernel
    | ok loaded => exact files.trans (.of_eq rfl rfl rfl)

/-- A stage that writes to its standard error only changes by its calls nothing that is stored but
what that leads to. -/
theorem of_staging {manner : Manner} {request : Call} (only : manner.OnlyTells)
    (allowed : (staging manner).allows () request) (kernel : Kernel) (task : Task) :
    (kernel.attempt task request).Leaves (SameBeside (kernel.sinkOf task) kernel) := by
  by_cases storing : request.IsStoring
  · cases request with
    | report event => exact log kernel task event
    | write descriptor bytes =>
        obtain rfl := only descriptor allowed
        refine write (fun number handle found writes => ?_) bytes
        rw [Kernel.sinkOf, found]
        exact (if_pos writes).symm
    | spawn spawning => exact spawn kernel task spawning
    | read descriptor limit => cases allowed
    | openFile path how => cases allowed
    | pipe => cases allowed
    | _ => cases storing
  · exact (SameStorage.of_attempt storing kernel task).mono fun _ => .of_storage

/-- A stage that writes to its standard error only changes by its steps nothing that is stored but
what that leads to. -/
theorem of_acts {manner : Manner} (only : manner.OnlyTells) (plays : task.process.Plays manner)
    (acts : kernel.Acts task after) : SameBeside (kernel.sinkOf task) kernel after := by
  have begins : SameBeside (kernel.sinkOf task) kernel (kernel.atTimeOf task) := .of_eq rfl rfl rfl
  cases acts with
  | ends came => exact begins.trans (.of_storage (.finish _ _ _))
  | turns loops => exact .modify kernel _ _
  | forks splits =>
      rw [splits] at plays
      exact plays.elim
  | tries calls again =>
      rw [calls] at plays
      exact begins.trans ((of_staging only plays.1 (kernel.atTimeOf task) task).of_again again)
  | makes calls answered =>
      rw [calls] at plays
      have made := (of_staging only plays.1 (kernel.atTimeOf task) task).of_answered answered
      exact (begins.trans made).trans (.modify _ _ _)

end SameBeside

end Kernel

namespace Scene

variable {start scene next : Scene} {sink : Channel} {manner : Manner}
  {impulses earlier later : List Impulse} {pid : Pid}

/-- Among what a host goes on by is a turn of a process. -/
def HasTurn (start : Scene) (impulses : List Impulse) (scene : Scene) (pid : Pid) (next : Scene) :
    Prop :=
  ∃ earlier later, impulses = earlier ++ .turn pid :: later ∧ start.after? earlier = some scene ∧
    scene.next? (.turn pid) = some next

/-- By no turn of a stage does anything change that is stored but where the stages log to. -/
def Discreet (start : Scene) (sink : Channel) (impulses : List Impulse) : Prop :=
  ∀ scene pid next, start.HasTurn impulses scene pid next → pid ∈ scene.stages →
    Kernel.SameBeside sink scene.kernel next.kernel

/-- Whatever a stage creates plays a stage. -/
def Barren (start : Scene) (impulses : List Impulse) : Prop :=
  ∀ scene pid next, start.HasTurn impulses scene pid next → pid ∈ scene.stages →
    ∀ task ∈ next.kernel.tasks, task.pid ∈ next.stages ∨ task.pid < scene.kernel.nextPid

/-- All who play stages go on doing so in the same manner. -/
theorem Sound.after (lasts : manner.Lasts) (sound : start.Sound sink manner)
    (heedless : start.HeedlessAlong sink (earlier ++ later))
    (came : start.after? earlier = some scene) : scene.Sound sink manner := by
  induction earlier generalizing start with
  | nil =>
      obtain rfl := Option.some.inj came
      exact sound
  | cons impulse rest hypothesis =>
      obtain ⟨now, goesOn⟩ := heedless
      obtain ⟨between, went, came⟩ := Option.bind_eq_some_iff.1 came
      exact hypothesis (sound.next lasts now went) (goesOn between went) came

theorem Sound.of_hasTurn (lasts : manner.Lasts) (sound : start.Sound sink manner)
    (heedless : start.HeedlessAlong sink impulses) (turn : start.HasTurn impulses scene pid next) :
    scene.Sound sink manner := by
  obtain ⟨earlier, later, rfl, came, -⟩ := turn
  exact sound.after lasts heedless came

theorem Sound.discreet (sound : start.Sound sink .discreet)
    (heedless : start.HeedlessAlong sink impulses) : start.Discreet sink impulses := by
  intro scene pid next turn isStage
  have still := sound.of_hasTurn Manner.lasts_discreet heedless turn
  obtain ⟨earlier, later, -, -, went⟩ := turn
  obtain ⟨task, found, alive, stepped, -⟩ := exists_of_next? went
  have isTask := Kernel.mem_of_task? found
  obtain rfl := Kernel.task?_pid found
  have beside := Kernel.SameBeside.of_acts Manner.onlyTells_discreet
    (still.plays task.pid isStage task isTask rfl) (Kernel.acts_of_stepOther? stepped)
  rwa [(still.logs task isTask alive isStage).sinkOf] at beside

theorem Sound.barren (sound : start.Sound sink .barren)
    (heedless : start.HeedlessAlong sink impulses) : start.Barren impulses := by
  intro scene pid next turn isStage child isChild
  have still := sound.of_hasTurn Manner.lasts_barren heedless turn
  obtain ⟨earlier, later, -, -, went⟩ := turn
  obtain ⟨task, found, alive, stepped, -, is, stages⟩ := exists_of_next? went
  have isTask := Kernel.mem_of_task? found
  obtain rfl := Kernel.task?_pid found
  have acts := Kernel.acts_of_stepOther? stepped
  rcases (acts.shift isTask).tasks child isChild with
    ⟨earlier, isEarlier, continues⟩ | ⟨fresh, newborn⟩
  · exact .inr (continues.pid ▸ still.coherent.known earlier isEarlier)
  · left
    have plays := still.plays task.pid isStage task isTask rfl
    rcases newborn.may with ⟨spawning, goOn, calls, -⟩ | ⟨-, goOn, splits⟩
    · rw [calls] at plays
      have relaunches : task.isRelaunching := by
        rw [Task.isRelaunching, calls]
        exact plays.1.1
      have grown : scene.kernel.nextPid ≠ next.kernel.nextPid := by
        rw [newborn.nextPid]
        exact Int.ne_of_lt (Int.lt_succ _)
      rw [stages, Kernel.stagesAfter, if_pos ⟨isStage, relaunches, grown⟩, newborn.pid]
      exact List.mem_append_right _ List.mem_cons_self
    · rw [splits] at plays
      exact plays.elim

end Scene

end HostnameSandbox

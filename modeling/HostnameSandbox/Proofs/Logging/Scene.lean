import HostnameSandbox.Proofs.Logging.StandardError
import HostnameSandbox.Proofs.Logging.Steps

/-!
# Hosts with stages

A host goes on by impulses: one of its processes has its turn, or a signal comes from outside.  Of
its processes some play stages, and whoever a stage creates in new namespaces plays one too.  All
of them play their stages in the same manner, whatever the other processes do.
-/

namespace HostnameSandbox

/-- What makes a host go on. -/
inductive Impulse where
  /-- A process has its turn. -/
  | turn (pid : Pid)
  /-- A signal comes from outside. -/
  | signal (pid : Pid) (signal : Signal)

/-- A host with those of its processes that play stages. -/
structure Scene where
  kernel : Kernel
  stages : List Pid

/-- Whether a process is about to create a child in new namespaces. -/
def Task.isRelaunching (task : Task) : Bool :=
  match task.process with
  | .call (.spawn spawning) _ => spawning.isolation.uts
  | _ => false

/-- Who plays a stage after a process has made a step: if a stage has created a child in new
namespaces, that one too. -/
def Kernel.stagesAfter (kernel : Kernel) (stages : List Pid) (task : Task) (after : Kernel) :
    List Pid :=
  if task.pid ∈ stages ∧ task.isRelaunching ∧ kernel.nextPid ≠ after.nextPid then
    stages ++ [kernel.nextPid]
  else stages

/-- Nobody can run what is logged to a channel, since somebody may write to it. -/
def Kernel.Withholds (kernel : Kernel) (sink : Channel) : Prop :=
  ∀ place, Channel.file place = sink → kernel.writtenPlaces.contains place

/-- What must be so, where a process starts something, that it makes no difference what has been
logged to a channel. -/
structure Kernel.StartsHeedlessly (kernel : Kernel) (sink : Channel) (stages : List Pid)
    (task : Task) (spawning : Spawning) : Prop where
  /-- No program stands where things are logged to. -/
  textual : kernel.files.Textual sink
  /-- Whoever plays no stage does not run what has been logged. -/
  withholds : task.pid ∉ stages → kernel.Withholds sink
  /-- What is started can be told its words. -/
  fits : kernel.loadChild task spawning ≠ .error .argumentsTooLong
  /-- Where a stage starts the program again, that is what is there. -/
  finds : task.pid ∈ stages → ∀ loaded, kernel.loadChild task spawning = .ok loaded →
    spawning.isolation.uts →
      loaded.program = Sandbox.program ∧ loaded.words = spawning.path :: spawning.args
  /-- What else is started does the same whatever the log setting is. -/
  ignores : ∀ loaded, kernel.loadChild task spawning = .ok loaded →
    ¬ (task.pid ∈ stages ∧ spawning.isolation.uts) → loaded.program.Ignores Sandbox.logVariable

/-- What must be so, where a process has its turn, that it makes no difference what has been logged
to a channel. -/
structure Kernel.Heedless (kernel : Kernel) (sink : Channel) (stages : List Pid) (task : Task) :
    Prop where
  /-- What is written where things are logged to is taken as a whole and at once. -/
  takes : ∀ descriptor bytes next, task.process = .call (.write descriptor bytes) next →
    kernel.WritesThere task descriptor sink →
      ∃ after, (kernel.atTimeOf task).attempt task (.write descriptor bytes) =
        .answered (.ok ()) after
  /-- Whoever plays no stage, and looks where something is logged or at how a stage was started, is
  told the same as if nothing had been logged. -/
  overlooks : task.pid ∉ stages → ∀ request next, task.process = .call request next →
    (kernel.atTimeOf task).Regards sink task request →
      (kernel.atTimeOf task).Overlooks sink stages task request
  starts : ∀ spawning next, task.process = .call (.spawn spawning) next →
    (kernel.atTimeOf task).StartsHeedlessly sink stages task spawning
  /-- What a process turns into is not what has been logged. -/
  turns : ∀ path words environment next, task.process = .call (.become path words environment) next →
    (kernel.atTimeOf task).files.Textual sink ∧ (kernel.atTimeOf task).Withholds sink

namespace Scene

/-- What a host comes to by an impulse, unless the process whose turn it is has to wait. -/
def next? (scene : Scene) : Impulse → Option Scene
  | .turn pid =>
      if scene.kernel.mayAct pid then
        let after := scene.kernel.acted pid
        some ⟨after, (scene.kernel.task? pid).elim scene.stages fun task =>
          scene.kernel.stagesAfter scene.stages task after⟩
      else none
  | .signal pid signal => some { scene with kernel := scene.kernel.signal pid signal }

/-- What a host comes to by one impulse after the other. -/
def after? (scene : Scene) : List Impulse → Option Scene
  | [] => some scene
  | impulse :: later => (scene.next? impulse).bind fun next => next.after? later

/-- By an impulse it makes no difference what has been logged. -/
def Heedless (scene : Scene) (sink : Channel) : Impulse → Prop
  | .turn pid => ∀ task, scene.kernel.task? pid = some task →
      scene.kernel.Heedless sink scene.stages task
  | .signal _ _ => True

/-- By one impulse after the other it makes no difference what has been logged. -/
def HeedlessAlong (scene : Scene) (sink : Channel) : List Impulse → Prop
  | [] => True
  | impulse :: later => scene.Heedless sink impulse ∧
      ∀ next, scene.next? impulse = some next → next.HeedlessAlong sink later

/-- All who play stages do so in a manner, and log to a channel for as long as they live. -/
structure Sound (scene : Scene) (sink : Channel) (manner : Manner) : Prop where
  coherent : scene.kernel.Coherent
  known : ∀ pid ∈ scene.stages, pid < scene.kernel.nextPid
  plays : ∀ pid ∈ scene.stages, scene.kernel.Keeps (staging manner) (fun _ _ => True) pid ()
  logs : ∀ task ∈ scene.kernel.tasks, task.isAlive → task.pid ∈ scene.stages →
    scene.kernel.LogsTo task sink

end Scene

theorem staging_steadfast (manner : Manner) : (staging manner).Steadfast :=
  fun _ => ⟨fun _ _ _ => nofun, fun _ => nofun⟩

namespace Kernel

variable {kernel after : Kernel} {task child : Task}

/-! ### Children -/

/-- What a child runs, unless it cannot read its libraries. -/
def runBy (kernel : Kernel) (task : Task) (spawning : Spawning) (program : Program) : Program :=
  match (kernel.newborn task spawning).free? 0 with
  | .ok _ => program
  | .error _ => withoutLibraries

theorem process_childOf (kernel : Kernel) (task : Task) (spawning : Spawning) (loaded : Loaded) :
    (kernel.childOf task spawning loaded).process =
      kernel.runBy task spawning loaded.program (startOf task.environment loaded) :=
  rfl

end Kernel

theorem Kernel.exists_of_mayAct {kernel : Kernel} {pid : Pid} (may : kernel.mayAct pid) :
    ∃ task, kernel.task? pid = some task ∧ task.isAlive ∧
      kernel.stepOther? task = some (kernel.acted pid) := by
  unfold mayAct at may
  cases found : kernel.task? pid with
  | none => simp [found] at may
  | some task =>
      rw [found, Option.any_some, Bool.and_eq_true, Option.isSome_iff_exists] at may
      obtain ⟨alive, after, stepped⟩ := may
      refine ⟨task, rfl, alive, ?_⟩
      simp [acted, found, stepped]

theorem Process.plays_withoutLibraries {manner : Manner} (tells : manner.mayWrite Descriptor.error)
    (start : Start) : (Kernel.withoutLibraries start).Plays manner :=
  Process.keeps_bind (Process.keeps_bind ⟨tells, fun _ => trivial⟩)

/-- A child that runs the program, if it can, plays its stage as the command line says. -/
theorem Kernel.plays_runBy {manner : Manner} {start : Start}
    (tells : manner.mayWrite Descriptor.error) (plays : (Sandbox.program start).Plays manner)
    (kernel : Kernel) (task : Task) (spawning : Spawning) :
    (kernel.runBy task spawning Sandbox.program start).Plays manner := by
  unfold runBy
  cases (kernel.newborn task spawning).free? 0 with
  | ok _ => exact plays
  | error _ => exact Process.plays_withoutLibraries tells start

namespace Kernel

variable {kernel after : Kernel} {stages : List Pid} {task : Task}

theorem subset_stagesAfter (kernel : Kernel) (stages : List Pid) (task : Task) (after : Kernel) :
    stages ⊆ kernel.stagesAfter stages task after := by
  unfold stagesAfter
  split
  · exact List.subset_append_left _ _
  · exact List.Subset.refl _

/-- Whoever plays a stage newly has been created by a stage in new namespaces. -/
theorem mem_stagesAfter {pid : Pid} (member : pid ∈ kernel.stagesAfter stages task after) :
    pid ∈ stages ∨ pid = kernel.nextPid ∧ task.pid ∈ stages ∧ kernel.nextPid ≠ after.nextPid ∧
      ∃ spawning next, task.process = .call (.spawn spawning) next ∧ spawning.isolation.uts := by
  unfold stagesAfter at member
  split at member
  · next holds =>
      obtain ⟨isStage, relaunches, grown⟩ := holds
      refine (List.mem_append.1 member).imp_right fun isNew => ?_
      refine ⟨List.mem_singleton.1 isNew, isStage, grown, ?_⟩
      rw [Task.isRelaunching] at relaunches
      split at relaunches
      · next spawning next calls => exact ⟨spawning, next, calls, relaunches⟩
      · cases relaunches
  · exact .inl member

end Kernel

namespace Scene

variable {scene after : Scene} {manner : Manner} {impulse : Impulse} {sink : Channel} {pid : Pid}

/-- What a host comes to by a turn of a process that can go on. -/
theorem exists_of_next? (next : scene.next? (.turn pid) = some after) :
    ∃ task, scene.kernel.task? pid = some task ∧ task.isAlive ∧
      scene.kernel.stepOther? task = some after.kernel ∧
        scene.kernel.mayAct pid ∧ after.kernel = scene.kernel.acted pid ∧
          after.stages = scene.kernel.stagesAfter scene.stages task after.kernel := by
  rw [next?] at next
  by_cases may : scene.kernel.mayAct pid
  · rw [if_pos may] at next
    obtain rfl := Option.some.inj next
    obtain ⟨task, found, alive, stepped⟩ := Kernel.exists_of_mayAct may
    exact ⟨task, found, alive, stepped, may, rfl, by rw [found]; rfl⟩
  · rw [if_neg may] at next
    cases next

/-- What plays a stage goes on playing it in the same manner when another process or it itself has
had a turn. -/
theorem Sound.keeps (sound : scene.Sound sink manner) {move : Move} {kernel : Kernel}
    (moves : Kernel.Moves scene.kernel move kernel) (member : pid ∈ scene.stages) :
    kernel.Keeps (staging manner) (fun _ _ => True) pid () := by
  rcases moves.follows (staging_steadfast manner) (sound.known pid member)
    (sound.plays pid member) with ⟨-, keeps⟩ | ⟨-, follows⟩
  · exact keeps
  · cases follows with
    | rests steady keeps => exact keeps
    | fails allowed fails steady keeps => exact keeps
    | makes isTask is allowed begins answered rest keeps => exact keeps

/-- Who is created by a stage in new namespaces plays a stage in the same manner. -/
theorem Sound.plays_child (sound : scene.Sound sink manner) (lasts : manner.Lasts) {task : Task}
    {kernel : Kernel} {spawning : Spawning} {next : Except Cause Pid → Process UInt8}
    (isTask : task ∈ scene.kernel.tasks) (member : task.pid ∈ scene.stages)
    (calls : task.process = .call (.spawn spawning) next) (fresh : spawning.isolation.uts)
    (heedless : scene.kernel.Heedless sink scene.stages task)
    (acts : scene.kernel.Acts task kernel) :
    kernel.Keeps (staging manner) (fun _ _ => True) scene.kernel.nextPid () := by
  intro child isChild isNew
  obtain ⟨loaded, loads, rfl⟩ := acts.eq_childOf sound.coherent isTask calls isChild isNew
  obtain ⟨program, words⟩ := (heedless.starts spawning next calls).finds member loaded loads fresh
  have may : manner.mayStart spawning := by
    have keeps := sound.plays task.pid member task isTask rfl
    rw [calls] at keeps
    exact keeps.1
  rw [Kernel.process_childOf, program]
  refine Kernel.plays_runBy lasts.tells (lasts.starts spawning may fresh _ ?_) _ _ _
  rw [Kernel.startOf, words]
  rfl

/-- Whoever played a stage before a move and lives after it logs to where it has logged to. -/
theorem Sound.logsTo (sound : scene.Sound sink manner) {move : Move} {kernel : Kernel}
    (moves : Kernel.Moves scene.kernel move kernel) {task earlier : Task}
    (isEarlier : earlier ∈ scene.kernel.tasks) (lived : earlier.isAlive)
    (isStage : earlier.pid ∈ scene.stages) (same : task.opened = earlier.opened) :
    kernel.LogsTo task sink := by
  refine (sound.logs earlier isEarlier lived isStage).of_keeps moves.keepsHandles ?_
  rw [Task.find?, same, Task.find?]

/-- After a signal, all who play stages log to where they have logged to. -/
theorem Sound.logs_signal (sound : scene.Sound sink manner) (receiver : Pid) (signal : Signal) :
    ∀ task ∈ (scene.kernel.signal receiver signal).tasks, task.isAlive → task.pid ∈ scene.stages →
      (scene.kernel.signal receiver signal).LogsTo task sink := by
  intro task member alive isStage
  have keeps : scene.kernel.KeepsOpened scene.kernel.nextPid
      (scene.kernel.signal receiver signal) := by
    have settles (mover : Pid) : scene.kernel.Settles mover (fun _ => False)
        (scene.kernel.signal receiver signal) := Kernel.settles_signal _ _ _
    exact .of_steady fun mover => (settles mover).steady
  obtain ⟨earlier, isEarlier, samePid, lived, opened⟩ :=
    keeps task member alive (Int.ne_of_lt (sound.known task.pid isStage))
  exact sound.logsTo (.signal scene.kernel receiver signal) isEarlier lived (samePid ▸ isStage) opened

/-- After a turn, all who play stages log to where stages have logged to. -/
theorem Sound.logs_turn (sound : scene.Sound sink manner) (lasts : manner.Lasts) {mover : Task}
    {kernel : Kernel} (isMover : mover ∈ scene.kernel.tasks) (alive : mover.isAlive)
    (stepped : scene.kernel.stepOther? mover = some kernel) :
    ∀ task ∈ kernel.tasks, task.isAlive →
      task.pid ∈ scene.kernel.stagesAfter scene.stages mover kernel → kernel.LogsTo task sink := by
  intro task member lives isStage
  have acts := Kernel.acts_of_stepOther? stepped
  have moves : Kernel.Moves scene.kernel ⟨some mover.pid, scene.kernel, kernel⟩ kernel :=
    .act isMover alive stepped
  have plays (among : mover.pid ∈ scene.stages) : mover.process.Plays manner :=
    sound.plays mover.pid among mover isMover rfl
  rcases Kernel.mem_stagesAfter isStage with
    isOld | ⟨isNew, among, -, spawning, next, calls, fresh⟩
  · have known := sound.known task.pid isOld
    by_cases among : mover.pid ∈ scene.stages
    · obtain ⟨earlier, isEarlier, samePid, lived, opened⟩ :=
        Kernel.KeepsOpened.of_acts (plays among) acts task member lives (Int.ne_of_lt known)
      exact sound.logsTo moves isEarlier lived (samePid ▸ isOld) opened
    · have isOther : task.pid ≠ mover.pid := fun is => among (is ▸ isOld)
      rcases (acts.shift isMover).tasks task member with
        ⟨earlier, isEarlier, continues⟩ | ⟨fresh, newborn⟩
      · obtain ⟨lived, opened⟩ := continues.opened lives
        exact sound.logsTo moves isEarlier lived (continues.pid ▸ isOld) (opened isOther)
      · exact absurd rfl (newborn.pid_ne known)
  · obtain ⟨loaded, loads, rfl⟩ := acts.eq_childOf sound.coherent isMover calls member isNew
    have may : manner.mayStart spawning := by
      have may := plays among
      rw [calls] at may
      exact may.1
    have logs : (scene.kernel.atTimeOf mover).LogsTo mover sink :=
      (sound.logs mover isMover alive among).of_keeps (.of_eq rfl) rfl
    exact logs.childOf (lasts.shares spawning may fresh) moves.keepsHandles

/-- By no impulse is there a stage that plays in another manner or logs elsewhere. -/
theorem Sound.next (sound : scene.Sound sink manner) (lasts : manner.Lasts)
    (heedless : scene.Heedless sink impulse) (next : scene.next? impulse = some after) :
    after.Sound sink manner := by
  cases impulse with
  | signal pid signal =>
      cases next
      have moves := Kernel.Moves.signal scene.kernel pid signal
      refine ⟨moves.coherent sound.coherent, fun other member => ?_, fun other member => ?_,
        sound.logs_signal pid signal⟩
      · exact Int.lt_of_lt_of_le (sound.known other member) moves.grows.2
      · exact sound.keeps moves member
  | turn pid =>
      obtain ⟨task, found, alive, stepped, may, is, stages⟩ := exists_of_next? next
      have moves := Kernel.moves_acted may
      rw [← is] at moves
      obtain rfl := Kernel.task?_pid found
      refine ⟨moves.coherent sound.coherent, fun other member => ?_, fun other member => ?_,
        stages ▸ sound.logs_turn lasts (Kernel.mem_of_task? found) alive stepped⟩
      · rcases Kernel.mem_stagesAfter (stages ▸ member) with isOld | ⟨rfl, -, grown, -⟩
        · exact Int.lt_of_lt_of_le (sound.known other isOld) moves.grows.2
        · exact Int.lt_iff_le_and_ne.2 ⟨moves.grows.2, grown⟩
      · rcases Kernel.mem_stagesAfter (stages ▸ member) with
          isOld | ⟨rfl, isStage, -, spawning, goOn, calls, fresh⟩
        · exact sound.keeps moves isOld
        · exact sound.plays_child lasts (Kernel.mem_of_task? found) isStage calls fresh
            (heedless task found) (Kernel.acts_of_stepOther? stepped)

end Scene

end HostnameSandbox

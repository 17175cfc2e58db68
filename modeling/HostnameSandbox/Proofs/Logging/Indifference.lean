import HostnameSandbox.Proofs.Logging.Discretion
import HostnameSandbox.Proofs.Logging.Mirroring
import HostnameSandbox.Proofs.Namespaces.Outings

/-!
# Logging makes no difference

Two runs of the program on the same host, by command lines that differ only in verbose flags and
with whatever log settings, go on alike: by the same turns and signals the same processes are
there, do the same, come to the same ends and see the same names, and what is stored is the same
but for what has been logged.  And what the stages write is not in the way of what the command
writes.
-/

namespace HostnameSandbox

open CommandLine (DifferInFlags)

/-- A host on which a process has just been started as the program. -/
def Kernel.started (kernel : Kernel) (root : Pid) (start : Start) : Kernel :=
  kernel.modify root fun task =>
    { task with
      words := start.name :: start.args
      environment := start.environment
      process := Sandbox.program start }

/-- A host on which a process has just been started as the program, which plays a stage. -/
def Scene.started (kernel : Kernel) (root : Pid) (start : Start) : Scene :=
  ⟨kernel.started root start, [root]⟩

/-- Whose turn it is makes no difference to a host without what is logged. -/
theorem Kernel.candidates_muted (kernel : Kernel) (sink : Channel) (stages : List Pid) :
    (kernel.muted sink stages).candidates =
      kernel.candidates.map fun task => task.muted stages := by
  have living : (kernel.muted sink stages).tasks.filter (fun task => task.isAlive && !task.stopped) =
      (kernel.tasks.filter fun task => task.isAlive && !task.stopped).map fun task =>
        task.muted stages := List.filter_map
  have sorted (tasks : List Task) :
      (tasks.mergeSort fun one other => decide (one.clock ≤ other.clock)).map
          (fun task => task.muted stages) =
        (tasks.map fun task => task.muted stages).mergeSort fun one other =>
          decide (one.clock ≤ other.clock) := List.map_mergeSort fun _ _ _ _ => rfl
  unfold candidates
  rw [living]
  generalize kernel.tasks.filter (fun task => task.isAlive && !task.stopped) = tasks
  match tasks with
  | [] => rfl
  | [task] => rfl
  | one :: two :: rest => exact (sorted (one :: two :: rest)).symm

namespace Scene

variable {sink : Channel} {one two : Scene}

/-- Nothing but what has been logged to a channel differs: the names are the same, and so are the
processes, where they are, how they have ended, whose turn it is, what runs that is no stage and by
which words, and what is stored. -/
structure Agree (sink : Channel) (one two : Scene) : Prop where
  stages : one.stages = two.stages
  turns : one.kernel.candidates.map Task.pid = two.kernel.candidates.map Task.pid
  names : one.kernel.names = two.kernel.names
  members : one.kernel.members = two.kernel.members
  endings : ∀ pid,
    (one.kernel.task? pid).map Task.ending = (two.kernel.task? pid).map Task.ending
  commands : ∀ pid ∉ one.stages,
    (one.kernel.task? pid).map (fun task => (task.path, task.words, task.process)) =
      (two.kernel.task? pid).map fun task => (task.path, task.words, task.process)
  stored : Kernel.SameBeside sink one.kernel two.kernel

/-- Hosts that mirror each other agree in everything but what has been logged. -/
theorem Mirrors.agree (mirrors : Mirrors sink one two) : Agree sink one two := by
  have seen {α : Type} (pid : Pid) (look : Task → α) :
      (one.kernel.task? pid).map (fun task => look (task.muted one.stages)) =
        (two.kernel.task? pid).map fun task => look (task.muted one.stages) := by
    have same := congrArg (fun kernel => (kernel.task? pid).map look) mirrors.same
    rwa [Kernel.task?_muted, Kernel.task?_muted, Option.map_map, Option.map_map] at same
  refine ⟨mirrors.stages, ?_, (congrArg Kernel.names mirrors.same :), ?_, fun pid => ?_,
    fun pid foreign => ?_, .of_muted mirrors.same⟩
  · have same := congrArg (fun kernel => kernel.candidates.map Task.pid) mirrors.same
    rwa [Kernel.candidates_muted, Kernel.candidates_muted, List.map_map, List.map_map] at same
  · have same := congrArg Kernel.members mirrors.same
    rwa [Kernel.members_muted, Kernel.members_muted] at same
  · exact seen pid Task.ending
  · have look (scene : Scene) :
        (scene.kernel.task? pid).map (fun task => (task.path, task.words, task.process)) =
          (scene.kernel.task? pid).map fun task => ((task.muted one.stages).path,
            (task.muted one.stages).words, (task.muted one.stages).process) := by
      refine Option.map_congr fun task found => ?_
      obtain rfl := Kernel.task?_pid found
      simp [Task.muted, foreign]
    rw [look one, look two]
    exact seen pid fun task => (task.path, task.words, task.process)

end Scene

namespace Kernel

variable {kernel before after : Kernel} {root : Task} {start other : Start} {sink : Channel}
  {mover : Pid}

/-- Where only processes go on that were there, everything is still in order. -/
theorem Coherent.of_steady (coherent : before.Coherent) (steady : before.Steady mover after) :
    after.Coherent where
  distinct := coherent.distinct.sublist steady.pids
  known task member := by
    obtain ⟨earlier, isEarlier, continues⟩ := steady.tasks task member
    rw [continues.pid, steady.nextPid]
    exact coherent.known earlier isEarlier
  housed member isMember := by
    rw [steady.names]
    rw [members, List.mem_append, steady.bystanders] at isMember
    rcases isMember with isTask | isBystander
    · obtain ⟨task, isThere, rfl⟩ := List.mem_map.1 isTask
      obtain ⟨earlier, isEarlier, continues⟩ := steady.tasks task isThere
      rw [continues.pid, continues.uts]
      exact coherent.housed _ (mem_members isEarlier)
    · exact coherent.housed member (List.mem_append_right _ isBystander)

theorem steady_started (kernel : Kernel) (root : Pid) (start : Start) :
    kernel.Steady root (kernel.started root start) := by
  refine (resumes_own ?_ kernel root).steady
  exact fun _ => rfl

/-- Who has just been started as the program runs it, with the files open that it had. -/
theorem Coherent.eq_of_started (coherent : kernel.Coherent) (present : root ∈ kernel.tasks)
    {task : Task} (member : task ∈ (kernel.started root.pid start).tasks)
    (is : task.pid = root.pid) :
    task.process = Sandbox.program start ∧ task.opened = root.opened := by
  obtain ⟨earlier, isEarlier, rfl⟩ := List.mem_map.1 member
  by_cases same : earlier.pid = root.pid
  · obtain rfl := coherent.eq_of_pid isEarlier present same
    rw [if_pos rfl]
    exact ⟨rfl, rfl⟩
  · rw [if_neg same] at is
    exact absurd is same

end Kernel

namespace Scene

variable {kernel : Kernel} {root : Task} {start other : Start} {sink : Channel} {manner : Manner}

theorem sound_started (coherent : kernel.Coherent) (present : root ∈ kernel.tasks)
    (logs : kernel.LogsTo root sink) (plays : (Sandbox.program start).Plays manner) :
    (Scene.started kernel root.pid start).Sound sink manner where
  coherent := coherent.of_steady (kernel.steady_started root.pid start)
  known pid isStage := by
    obtain rfl := List.mem_singleton.1 isStage
    exact coherent.known root present
  plays pid isStage := by
    obtain rfl := List.mem_singleton.1 isStage
    intro task member is
    rw [(coherent.eq_of_started present member is).1]
    exact plays
  logs task member alive isStage := by
    have is := List.mem_singleton.1 isStage
    refine logs.of_keeps (.of_eq rfl) ?_
    rw [Task.find?, (coherent.eq_of_started present member is).2, Task.find?]

theorem mirrors_started (coherent : kernel.Coherent) (present : root ∈ kernel.tasks)
    (environment : start.environment.unset Sandbox.logVariable =
      other.environment.unset Sandbox.logVariable)
    (twins : Process.Twins (Sandbox.program start) (Sandbox.program other)) :
    Mirrors sink (started kernel root.pid start) (started kernel root.pid other) := by
  refine ⟨rfl, ?_, fun task member also memberToo isStage is => ?_⟩
  · have tasks : (kernel.started root.pid start).tasks.map (fun task => task.muted [root.pid]) =
        (kernel.started root.pid other).tasks.map fun task => task.muted [root.pid] := by
      simp only [Kernel.started, Kernel.modify, List.map_map]
      refine List.map_congr_left fun task _ => ?_
      by_cases is : task.pid = root.pid
      · simp [Task.muted, is, environment]
      · simp [is]
    exact congrArg (fun tasks => { kernel.muted sink [] with tasks }) tasks
  · have isRoot := List.mem_singleton.1 isStage
    rw [(coherent.eq_of_started present member isRoot).1,
      (coherent.eq_of_started present memberToo (is.trans isRoot)).1]
    exact twins

end Scene

/-- A file tree has programs only, at a path only the program itself, and elsewhere programs that do
the same whatever the log setting is. -/
structure FileTree.Offers (tree : FileTree) (own : Bytes) : Prop
    extends tree.Installs own Sandbox.program where
  ignores : ∀ place mode other, (place, .file mode (.program other)) ∈ tree.entries →
    FileTree.pathOf place ≠ own → other.Ignores Sandbox.logVariable

/-- Whether a process has a store open by a number, other than the one that things are logged to, or
nothing at all. -/
def Kernel.leadsAside (kernel : Kernel) (number : Nat) (task : Task) (descriptor : Descriptor) :
    Bool :=
  (kernel.handle? task descriptor).all fun entry =>
    match entry.2.channel with
    | .store other => other != number
    | _ => false

/-- Whether it can be told of a turn of a process that it makes no difference to it what has been
logged to the store `number`: that is not written to or read from, and if a child is created, what
runs is the program at the path `own` where a stage starts that again and another one where not. -/
def Kernel.isHeedless (kernel : Kernel) (number : Nat) (own : Bytes) (stages : List Pid)
    (task : Task) : Bool :=
  match task.process with
  | .call (.spawn spawning) _ =>
      match (kernel.atTimeOf task).loadChild task spawning with
      | .ok loaded =>
          if task.pid ∈ stages ∧ spawning.isolation.uts then
            loaded.path == own && loaded.words == spawning.path :: spawning.args
          else loaded.path != own
      | .error errno => errno != .argumentsTooLong
  | .call (.write descriptor _) _ | .call (.read descriptor _) _ =>
      decide (task.pid ∉ stages) && kernel.leadsAside number task descriptor
  | .call request _ => if task.pid ∈ stages then request.IsStaging else request.IsDeaf
  | _ => true

namespace Kernel

variable {kernel after : Kernel} {own : Bytes} {stages : List Pid} {task : Task} {number : Nat}

theorem leads_of_leadsAside {descriptor : Descriptor} {index : Nat} {handle : Handle}
    (aside : kernel.leadsAside number task descriptor)
    (found : kernel.handle? task descriptor = some (index, handle)) :
    ∃ other, handle.channel = .store other ∧ other ≠ number := by
  rw [leadsAside, found, Option.all_some] at aside
  dsimp only at aside
  split at aside
  · next other leads => exact ⟨other, leads, by simpa using aside⟩
  · cases aside

theorem startsHeedlessly_of_isHeedless {spawning : Spawning}
    {next : Except Cause Pid → Process UInt8} (offers : kernel.files.Offers own)
    (calls : task.process = .call (.spawn spawning) next)
    (holds : kernel.isHeedless number own stages task) :
    (kernel.atTimeOf task).StartsHeedlessly (.store number) stages task spawning := by
  rw [isHeedless, calls] at holds
  dsimp only at holds
  refine ⟨fun place mode program is => (by cases is), fun _ place is => (by cases is),
    fun fails => ?_, fun isStage loaded loads fresh => ?_, fun loaded loads shared => ?_⟩
  · simp [fails] at holds
  · obtain ⟨place, mode, isFile, path⟩ := mem_of_loadChild (by exact offers.textless) loads
    simp only [loads, isStage, fresh, and_self, if_true, Bool.and_eq_true, beq_iff_eq] at holds
    exact ⟨offers.sole place mode _ isFile (path.symm.trans holds.1), holds.2⟩
  · obtain ⟨place, mode, isFile, path⟩ := mem_of_loadChild (by exact offers.textless) loads
    have elsewhere : loaded.path ≠ own := by simpa [loads, shared] using holds
    exact offers.ignores place mode _ isFile (path ▸ elsewhere)

theorem heedless_of_isHeedless (offers : kernel.files.Offers own)
    (holds : kernel.isHeedless number own stages task) :
    kernel.Heedless (.store number) stages task where
  takes descriptor bytes next calls there := by
    rw [isHeedless, calls, Bool.and_eq_true] at holds
    obtain ⟨index, handle, found, -, leads, -⟩ := there
    obtain ⟨other, leadsAside, distinct⟩ := leads_of_leadsAside holds.2 found
    exact absurd (Channel.store.inj (leadsAside.symm.trans leads)) distinct
  overlooks foreign request next calls regards := by
    cases request with
    | spawn _ | write _ _ | become _ _ _ | openFile _ _ | enterDirectory _ => cases regards
    | examine _ _ | inspect _ | list _ =>
        simp [isHeedless, calls, foreign, Call.IsDeaf] at holds
    | read descriptor limit =>
        rw [isHeedless, calls, Bool.and_eq_true] at holds
        refine absurd (fun index handle found reads shows => ?_) regards
        obtain ⟨other, leadsAside, distinct⟩ := leads_of_leadsAside holds.2 found
        rw [leadsAside] at shows
        exact distinct (Channel.store.inj shows)
    | _ => exact absurd (by simpa [isHeedless, calls, foreign] using holds) regards
  starts spawning next calls := startsHeedlessly_of_isHeedless offers calls holds
  turns path words environment next calls :=
    ⟨fun place mode program is => (by cases is), fun place is => (by cases is)⟩

/-- What goes into a store changes no file. -/
theorem files_writeThrough {handle : Handle} (leads : handle.channel = .store number)
    (kernel : Kernel) (index : Nat) (bytes : Bytes) :
    (kernel.writeThrough index handle bytes).files = kernel.files := by
  unfold writeThrough
  rw [leads]
  dsimp only
  split <;> rfl

theorem files_write {descriptor : Descriptor} (aside : kernel.leadsAside number task descriptor)
    (bytes : Bytes) :
    (kernel.write task descriptor bytes).Leaves fun after => after.files = kernel.files := by
  unfold write
  split
  · exact rfl
  · next index handle found =>
      obtain ⟨other, leads, -⟩ := leads_of_leadsAside aside found
      rw [leads]
      split
      · exact rfl
      · have written (bytes : Bytes) := files_writeThrough leads kernel index bytes
        dsimp only [writeStored]
        split
        · split
          · exact (SameStorage.signal _ task.pid .fileTooLarge).files.trans (written _)
          · exact written bytes
        · exact written bytes

theorem files_read {descriptor : Descriptor} (aside : kernel.leadsAside number task descriptor)
    (limit : Nat) :
    (kernel.read task descriptor limit).Leaves fun after => after.files = kernel.files := by
  unfold read
  split
  · exact rfl
  · next index handle found =>
      obtain ⟨other, leads, -⟩ := leads_of_leadsAside aside found
      rw [leads]
      dsimp only
      split <;> exact rfl

/-- What is logged to a store changes no file. -/
theorem LogsTo.files_log (logs : kernel.LogsTo task (.store number)) (event : Event) :
    (kernel.log task event).files = kernel.files := by
  unfold log
  split
  · rfl
  · rfl
  · split
    · dsimp only
      split
      · next index handle found =>
          split
          · rfl
          · next writes =>
              have leads : kernel.sinkOf task = .store number := logs.sinkOf
              have may : handle.writes := by simpa using writes
              have is : handle.channel = .store number := by
                simpa [Kernel.sinkOf, found, may] using leads
              rw [is]
              exact files_writeThrough is kernel index _
      · rfl
    · rfl

theorem files_openPipe (kernel : Kernel) (task : Task) :
    (kernel.openPipe task).2.files = kernel.files := by
  unfold openPipe
  dsimp only
  split <;> rfl

theorem files_of_isHeedless (holds : kernel.isHeedless number own stages task)
    (logs : task.pid ∈ stages → kernel.LogsTo task (.store number))
    (acts : kernel.Acts task after) : after.files = kernel.files := by
  have stays {request : Call} {next : request.Reply → Process UInt8}
      (calls : task.process = .call request next) :
      ((kernel.atTimeOf task).attempt task request).Leaves fun after =>
        after.files = kernel.files := by
    by_cases storing : request.IsStoring
    · cases request with
      | spawn spawning => exact files_spawn (kernel.atTimeOf task) task spawning
      | pipe => exact files_openPipe (kernel.atTimeOf task) task
      | write descriptor bytes =>
          rw [isHeedless, calls, Bool.and_eq_true] at holds
          have aside : (kernel.atTimeOf task).leadsAside number task descriptor := holds.2
          exact files_write aside bytes
      | read descriptor limit =>
          rw [isHeedless, calls, Bool.and_eq_true] at holds
          have aside : (kernel.atTimeOf task).leadsAside number task descriptor := holds.2
          exact files_read aside limit
      | report event =>
          have isStage : task.pid ∈ stages := by
            by_contra foreign
            simp [isHeedless, calls, foreign, Call.IsDeaf] at holds
          have logsThen : (kernel.atTimeOf task).LogsTo task (.store number) :=
            (logs isStage).of_keeps (.of_eq rfl) rfl
          exact logsThen.files_log event
      | _ =>
          simp [isHeedless, calls, Call.IsStaging, Call.IsDeaf, Call.IsStoring] at holds storing
    · exact (SameStorage.of_attempt storing _ task).mono fun _ same => same.files
  cases acts with
  | ends came => exact (SameStorage.finish _ _ _).files
  | turns loops => rfl
  | forks splits => rfl
  | tries calls again => exact (stays calls).of_again again
  | makes calls answered =>
      have same := (stays calls).of_answered answered
      exact same

end Kernel

namespace Scene

variable {scene : Scene} {own : Bytes} {number : Nat} {manner : Manner}

/-- Whether it can be told of turns of processes that it makes no difference to them what has been
logged. -/
def isHeedlessAlong (number : Nat) (own : Bytes) : Scene → List Pid → Bool
  | _, [] => true
  | scene, pid :: later =>
      (scene.kernel.task? pid).all fun task =>
        scene.kernel.isHeedless number own scene.stages task &&
          (scene.kernel.stepOther? task).all fun after =>
            isHeedlessAlong number own ⟨after, scene.kernel.stagesAfter scene.stages task after⟩ later

theorem heedlessAlong_of_isHeedlessAlong {pids : List Pid} (lasts : manner.Lasts)
    (sound : scene.Sound (.store number) manner) (offers : scene.kernel.files.Offers own)
    (holds : isHeedlessAlong number own scene pids) :
    scene.HeedlessAlong (.store number) (pids.map .turn) := by
  induction pids generalizing scene with
  | nil => trivial
  | cons pid later hypothesis =>
      have told {task : Task} (found : scene.kernel.task? pid = some task) :
          scene.kernel.isHeedless number own scene.stages task ∧
            (scene.kernel.stepOther? task).all fun after =>
              isHeedlessAlong number own ⟨after, scene.kernel.stagesAfter scene.stages task after⟩
                later := by
        rw [isHeedlessAlong, found, Option.all_some, Bool.and_eq_true] at holds
        exact holds
      have heedless : scene.Heedless (.store number) (.turn pid) := fun task found =>
        Kernel.heedless_of_isHeedless offers (told found).1
      refine ⟨heedless, fun next went => ?_⟩
      obtain ⟨task, found, alive, stepped, -, -, stages⟩ := exists_of_next? went
      obtain ⟨now, goesOn⟩ := told found
      rw [stepped, Option.all_some, ← stages] at goesOn
      have same := Kernel.files_of_isHeedless now
        (sound.logs task (Kernel.mem_of_task? found) alive) (Kernel.acts_of_stepOther? stepped)
      exact hypothesis (sound.next lasts heedless went) (same ▸ offers) goesOn

end Scene

namespace Machine

/-- A process that is in another namespace than that of the host. -/
def installed : Task := { Machine.worker true with uts := 1, path := Bytes.ofString "/utsbox" }

/-- A program that passes on what it reads, and gives its namespace another name. -/
def passesOn : Program := fun _ => do
  let read : Except Errno Bytes ← Process.ask (.read Descriptor.input 64)
  Process.write Descriptor.output (read.toOption.getD [])
  let _ : Except Errno Unit ← Process.ask (.setHostname (Bytes.ofString "renamed"))
  pure 0

/-- The words by which that one is run. -/
def passing : List Bytes := [Bytes.ofString "/passes"]

def bootInstalled : Kernel :=
  { bootElsewhere with
    stores := standardStores (Bytes.ofString "spoken")
    files := ⟨[([], .directory 0o755),
      ([Bytes.ofString "utsbox"], .file programMode (.program Sandbox.program)),
      ([Bytes.ofString "passes"], .file programMode (.program passesOn))]⟩
    tasks := [installed] }

/-- How the program is started with both flags, but with nothing logged. -/
def mutedStart : Start where
  name := Bytes.ofString "/utsbox"
  args := OuterStage.verboseWord :: Bytes.ofString Stage.outer.word :: CommandLine.verboseLong ::
    passing
  environment := [(Bytes.ofString Sandbox.logVariable, Bytes.ofString "off")]

/-- How the program is started with as much logged as usual. -/
def plainStart : Start where
  name := Bytes.ofString "/utsbox"
  args := Bytes.ofString Stage.outer.word :: passing
  environment := []

/-- The outer stage up to its child, the inner stage up to its own, the command, and the stages to
their ends. -/
def wholeRun : List Pid :=
  List.replicate 11 100 ++ List.replicate 17 101 ++ List.replicate 4 102 ++
    List.replicate 5 101 ++ List.replicate 6 100

theorem coherent_bootInstalled : bootInstalled.Coherent :=
  ⟨by decide +kernel, by decide +kernel, by decide +kernel⟩

theorem offers_bootInstalled : bootInstalled.files.Offers (Bytes.ofString "/utsbox") where
  textless place mode data := by simp [bootInstalled]
  sole place mode other member path := by
    simp only [bootInstalled, List.mem_cons, Prod.mk.injEq, Node.file.injEq, Content.program.injEq,
      reduceCtorEq, and_false, false_or, List.not_mem_nil, or_false] at member
    rcases member with ⟨-, -, is⟩ | ⟨rfl, -⟩
    · exact is
    · exact absurd path (by decide +kernel)
  ignores place mode other member distinct := by
    simp only [bootInstalled, List.mem_cons, Prod.mk.injEq, Node.file.injEq, Content.program.injEq,
      reduceCtorEq, and_false, false_or, List.not_mem_nil, or_false] at member
    rcases member with ⟨rfl, -⟩ | ⟨-, -, rfl⟩
    · exact absurd (by decide +kernel) distinct
    · exact fun start => rfl

theorem differInFlags_mutedStart : DifferInFlags mutedStart.args plainStart.args :=
  .flags .short .absent .long .absent .outer passing

theorem reads_mutedStart :
    CommandLine.parse mutedStart.args = .ok ⟨true, .outer, passing⟩ := by
  decide +kernel

theorem reads_plainStart :
    CommandLine.parse plainStart.args = .ok ⟨false, .outer, passing⟩ := by
  decide +kernel

theorem logsTo_bootInstalled : bootInstalled.LogsTo installed (.store 2) := by
  have isThere : bootInstalled.handles[2]? = some ⟨.store 2, true, true, false, 0⟩ := by
    simp [bootInstalled, bootElsewhere, boot, standardHandles]
  exact ⟨rfl, _, isThere, rfl⟩

theorem isReadable_passing (verbose : Bool) :
    CommandLine.Request.IsReadable ⟨verbose, .outer, passing⟩ := by
  intro other invoked
  have same : CommandLine.Request.invocation ⟨verbose, .outer, passing⟩ =
      .ok ⟨.outer, ⟨Bytes.ofString "/passes", [], by decide, by decide⟩⟩ := by
    cases verbose <;> decide +kernel
  cases same.symm.trans invoked
  exact ⟨⟨false, .inner, passing⟩, by decide +kernel⟩

theorem heedless_wholeRun {start : Start} {verbose : Bool}
    (read : CommandLine.parse start.args = .ok ⟨verbose, .outer, passing⟩)
    (holds : Scene.isHeedlessAlong 2 (Bytes.ofString "/utsbox")
      (Scene.started bootInstalled installed.pid start) wholeRun) :
    (Scene.started bootInstalled installed.pid start).HeedlessAlong (.store 2)
      (wholeRun.map .turn) := by
  have plays := Sandbox.plays_discreet read (isReadable_passing verbose)
  have sound := Scene.sound_started coherent_bootInstalled List.mem_cons_self logsTo_bootInstalled
    plays
  exact Scene.heedlessAlong_of_isHeedlessAlong Manner.lasts_discreet sound offers_bootInstalled holds

end Machine

end HostnameSandbox

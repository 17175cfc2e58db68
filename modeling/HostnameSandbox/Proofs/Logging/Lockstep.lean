import HostnameSandbox.Proofs.Logging.Scene

/-!
# Stages in step with each other

On two hosts that differ only in what is logged, a process plays the same stage, but logs more on
one of them.  Whatever step it makes there it makes on the other one, too, and then the hosts
still differ only in what is logged.
-/

namespace HostnameSandbox

open Process (Twins)

/-! ### Twins -/

/-- Two children are asked for in the same way, but for verbosity. -/
structure Spawning.Paired (one two : Spawning) : Prop where
  alike : one.Alike two
  read : CommandLine.ReadAlike (CommandLine.parse one.args) (CommandLine.parse two.args)
  same : ¬ one.isolation.uts → one = two

theorem CommandLine.ReadAlike.refl (parsed : Except Refusal Request) : ReadAlike parsed parsed := by
  cases parsed with
  | error refusal => exact .refused refusal
  | ok request => exact .read request.verbose request.verbose request.stage request.words

theorem Spawning.Paired.refl (spawning : Spawning) : spawning.Paired spawning :=
  ⟨⟨rfl, rfl, rfl, rfl, rfl⟩, .refl _, fun _ => rfl⟩

theorem Sandbox.paired_relaunching (verbose other : Bool) (path : Bytes) (command : Command) :
    (relaunching verbose path command).Paired (relaunching other path command) where
  alike := by
    have free : OuterStage.verboseWord.contains 0 = false := by decide
    refine ⟨rfl, rfl, rfl, rfl, ?_⟩
    cases verbose <;> cases other <;>
      simp [relaunching, OuterStage.spawning, OuterStage.arguments, OuterStage.withVerbose,
        -List.contains_eq_mem, free]
  read := OuterStage.readAlike_arguments _ _ command
  same shared := absurd rfl shared

namespace Process

variable {α : Type}

/-- The twin of a process that is about to create a child is about to create one, too. -/
theorem Twins.of_spawn {spawning : Spawning} {next : Except Cause Pid → Process α}
    {process : Process α} (twins : Twins (.call (.spawn spawning) next) process) :
    ∃ asked goOn, process = .call (.spawn asked) goOn ∧ spawning.Paired asked ∧
      ∀ reply, Twins (next reply) (goOn reply) := by
  cases twins with
  | call request goesOn => exact ⟨spawning, _, rfl, .refl spawning, goesOn⟩
  | relaunch verbose other path command goesOn =>
      exact ⟨_, _, rfl, Sandbox.paired_relaunching verbose other path command, goesOn⟩

end Process

namespace Kernel

variable {sink : Channel} {stages : List Pid} {one two : Kernel} {task other : Task}
  {manner : Manner}

/-! ### Steps -/

section Steps

variable {kernel between after : Kernel} {request : Call} {next : request.Reply → Process UInt8}

theorem stepOther?_of_answered {reply : request.Reply} (calls : task.process = .call request next)
    (answered : (kernel.atTimeOf task).attempt task request = .answered reply between) :
    kernel.stepOther? task =
      some (between.modify task.pid fun task => { task with process := next reply }) := by
  simp only [stepOther?, calls, step, answered]

theorem stepOther?_of_again (calls : task.process = .call request next)
    (again : (kernel.atTimeOf task).attempt task request = .again after) :
    kernel.stepOther? task = some after := by
  simp only [stepOther?, calls, step, again]

theorem stepOther?_of_blocked (calls : task.process = .call request next)
    (blocked : (kernel.atTimeOf task).attempt task request = .blocked) :
    kernel.stepOther? task = none := by
  simp only [stepOther?, calls, step, blocked]

end Steps

/-- A process is about to do something, if it is there. -/
def Does (kernel : Kernel) (pid : Pid) (process : Process UInt8) : Prop :=
  ∀ task ∈ kernel.tasks, task.pid = pid → task.process = process

theorem does_goOn (kernel : Kernel) (pid : Pid) (process : Process UInt8) :
    (kernel.modify pid fun task => { task with process }).Does pid process :=
  fun _ member is => process_goOn member is

theorem Coherent.does {kernel after : Kernel} (coherent : kernel.Coherent)
    (member : task ∈ kernel.tasks) (steady : ∀ mover, kernel.Steady mover after) :
    after.Does task.pid task.process :=
  fun _ isFound same => coherent.process_eq steady member isFound same

/-- What comes of a step of a process that plays a stage on two hosts: it has to wait on both, or
goes on with the same on both, but for what it logs. -/
inductive Paired (sink : Channel) (stages : List Pid) (task : Task) (before : Kernel) :
    Option Kernel → Option Kernel → Prop
  | blocked : Paired sink stages task before none none
  | goes {after also : Kernel} {first second : Process UInt8}
      (same : after.muted sink (before.stagesAfter stages task after) =
        also.muted sink (before.stagesAfter stages task after))
      (twins : Twins first second) (does : after.Does task.pid first)
      (alsoDoes : also.Does task.pid second) :
      Paired sink stages task before (some after) (some also)

theorem stagesAfter_of_quiet {after : Kernel} (quiet : ¬ task.isRelaunching) :
    one.stagesAfter stages task after = stages := by
  rw [stagesAfter, if_neg fun holds => quiet holds.2.1]

theorem stagesAfter_of_idle {after : Kernel} (idle : after.nextPid = one.nextPid) :
    one.stagesAfter stages task after = stages := by
  rw [stagesAfter, if_neg fun holds => holds.2.2 idle.symm]

theorem stagesAfter_of_foreign {after : Kernel} (foreign : task.pid ∉ stages) :
    one.stagesAfter stages task after = stages := by
  rw [stagesAfter, if_neg fun holds => foreign holds.1]

theorem not_isRelaunching {request : Call} {next : request.Reply → Process UInt8}
    (calls : task.process = .call request next) (single : ∀ spawning, request ≠ .spawn spawning) :
    ¬ task.isRelaunching := by
  rw [Task.isRelaunching, calls]
  cases request with
  | spawn spawning => exact absurd rfl (single spawning)
  | _ => exact Bool.false_ne_true

theorem attempt_spawn {kernel between : Kernel} {spawning : Spawning} {reply : Except Cause Pid}
    (spawned : kernel.spawn task spawning = (reply, between)) :
    kernel.attempt task (.spawn spawning) = .answered reply between := by
  simp only [attempt, spawned]

theorem nextPid_born (kernel : Kernel) (task : Task) (spawning : Spawning) (loaded : Loaded) :
    (kernel.born task spawning loaded).nextPid = kernel.nextPid + 1 :=
  congrArg (· + 1) (nextPid_childFiles kernel task spawning.streams)

/-- Where a stage logs to, nothing can be run. -/
theorem guards_of_logs {kernel : Kernel} (member : task ∈ kernel.tasks) (alive : task.isAlive)
    (logs : kernel.sinkOf task = sink) :
    ((kernel.atTimeOf task).luggage task task.environment).Guards sink := by
  have isThere : { task with clock := max kernel.now task.clock + callTime } ∈
      (kernel.atTimeOf task).tasks := by
    refine List.mem_map.2 ⟨task, member, ?_⟩
    rw [if_pos rfl]
  have guards := guards_of_sinkOf isThere alive task task.environment
  exact logs ▸ guards

/-- A call that is made again is about to be made still. -/
theorem does_of_again {kernel after : Kernel} {request : Call}
    {next : request.Reply → Process UInt8} (coherent : kernel.Coherent)
    (member : task ∈ kernel.tasks) (calls : task.process = .call request next)
    (allowed : (staging manner).allows () request)
    (again : (kernel.atTimeOf task).attempt task request = .again after) :
    after.Does task.pid task.process := by
  rcases again_cases again with
    ⟨descriptor, bytes, rfl⟩ | ⟨path, words, environment, rfl⟩ | ⟨code, rfl⟩
  · have settles {mover : Pid} : (kernel.atTimeOf task).Settles mover (fun _ => False) after :=
      settles_of_write_again again
    exact coherent.does member fun mover => (steady_atTimeOf kernel task).trans settles.steady
  · cases allowed
  · cases allowed

theorem openLog_muted (isStage : task.pid ∈ stages) (kernel : Kernel) (filter : Event.Filter) :
    (kernel.modify task.pid fun task => { task with journal := .lines filter }).muted sink stages =
      kernel.muted sink stages := by
  refine modify_muted_of_same (fun later is => ?_) _
  simp [Task.muted, ← is, isStage]

theorem atTimeOf_alike (same : one.muted sink stages = two.muted sink stages)
    (sameTask : task.muted stages = other.muted stages) :
    (one.atTimeOf task).muted sink stages = (two.atTimeOf other).muted sink stages := by
  rw [atTimeOf_muted, atTimeOf_muted, same, sameTask]

section Stage

variable (same : one.muted sink stages = two.muted sink stages)
  (sameTask : task.muted stages = other.muted stages) (heeds : one.Heedless sink stages task)
  (heedsToo : two.Heedless sink stages other)
include same sameTask heeds heedsToo

/-- Whatever a process writes, it is answered alike on both hosts. -/
theorem alike_of_write {descriptor : Descriptor} {bytes : Bytes}
    {next goOn : Except Errno Unit → Process UInt8}
    (calls : task.process = .call (.write descriptor bytes) next)
    (callsToo : other.process = .call (.write descriptor bytes) goOn) :
    ((one.atTimeOf task).attempt task (.write descriptor bytes)).Alike sink stages
      ((two.atTimeOf other).attempt other (.write descriptor bytes)) := by
  have times := atTimeOf_alike same sameTask
  rcases (one.atTimeOf task).writesAside_or_writesThere task descriptor sink with aside | there
  · have asideToo : (two.atTimeOf other).WritesAside other descriptor sink := by
      rcases (two.atTimeOf other).writesAside_or_writesThere other descriptor sink with
        aside | there
      · exact aside
      · obtain ⟨number, handle, found, writes, leads, collects⟩ :=
          there.alike times.symm sameTask.symm
        exact absurd collects (aside number handle found writes leads)
    exact alike_of_overlooks times sameTask (overlooks_write aside bytes)
      (overlooks_write asideToo bytes)
  · have thereToo : (two.atTimeOf other).WritesThere other descriptor sink :=
      there.alike times sameTask
    obtain ⟨after, taken⟩ := heeds.takes descriptor bytes next calls there
    obtain ⟨afterToo, takenToo⟩ := heedsToo.takes descriptor bytes goOn callsToo thereToo
    rw [taken, takenToo]
    exact .answered _ (alike_of_writesThere times sameTask there taken takenToo)

/-- What plays no stage is answered alike on both hosts when it creates a child. -/
theorem alike_of_spawn (foreign : task.pid ∉ stages) {spawning : Spawning}
    {next goOn : Except Cause Pid → Process UInt8}
    (calls : task.process = .call (.spawn spawning) next)
    (callsToo : other.process = .call (.spawn spawning) goOn) :
    ((one.atTimeOf task).attempt task (.spawn spawning)).Alike sink stages
      ((two.atTimeOf other).attempt other (.spawn spawning)) := by
  have times := atTimeOf_alike same sameTask
  have alike : spawning.Alike spawning := ⟨rfl, rfl, rfl, rfl, rfl⟩
  obtain ⟨textual, withholds, fits, -, ignores⟩ := heeds.starts spawning next calls
  obtain ⟨textualToo, -, fitsToo, -, -⟩ := heedsToo.starts spawning goOn callsToo
  rcases spawn_alike times sameTask alike textual textualToo (withholds foreign)
    Loading.carries_eq rfl fits fitsToo with
      ⟨cause, spawned, spawnedToo⟩ | ⟨loaded, words, loads, related, spawned, spawnedToo⟩
  · rw [attempt_spawn spawned, attempt_spawn spawnedToo]
    exact .answered _ times
  · rw [attempt_spawn spawned, attempt_spawn spawnedToo]
    have ignored := ignores loaded loads fun holds => foreign holds.1
    exact .answered _ (born_alike times sameTask alike (List.Subset.refl _) (.inr ⟨related, ignored⟩))

/-- What plays no stage is answered alike on both hosts when it turns into another program. -/
theorem alike_of_become {path : Bytes} {words : List Bytes} {environment : Environment}
    {next goOn : Errno → Process UInt8}
    (calls : task.process = .call (.become path words environment) next)
    (callsToo : other.process = .call (.become path words environment) goOn) :
    ((one.atTimeOf task).attempt task (.become path words environment)).Alike sink stages
      ((two.atTimeOf other).attempt other (.become path words environment)) := by
  have times := atTimeOf_alike same sameTask
  obtain ⟨textual, withholds⟩ := heeds.turns path words environment next calls
  obtain ⟨textualToo, -⟩ := heedsToo.turns path words environment goOn callsToo
  simp only [attempt]
  rcases become_alike times sameTask textual textualToo withholds with
    ⟨errno, became, becameToo⟩ | ⟨after, also, became, becameToo, came⟩
  · rw [became, becameToo]
    exact .answered _ times
  · rw [became, becameToo]
    exact .again came

/-- What plays no stage makes the same step on both hosts. -/
theorem stepOther?_of_heedless (foreign : task.pid ∉ stages) (fresh : one.nextPid ∉ stages) :
    (one.stepOther? task).map (fun kernel => kernel.muted sink stages) =
      (two.stepOther? other).map fun kernel => kernel.muted sink stages := by
  refine stepOther?_alike foreign fresh same sameTask fun request next calls => ?_
  have samePid : task.pid = other.pid := (congrArg Task.pid sameTask :)
  have foreignToo : other.pid ∉ stages := samePid ▸ foreign
  have callsToo : other.process = .call request next := by
    have process : (task.muted stages).process = (other.muted stages).process :=
      congrArg Task.process sameTask
    simpa [Task.muted, foreign, foreignToo, calls, eq_comm] using process
  have times := atTimeOf_alike same sameTask
  by_cases modest : request.IsModest
  · by_cases regards : (one.atTimeOf task).Regards sink task request
    · exact alike_of_overlooks times sameTask
        (heeds.overlooks foreign request next calls regards)
        (heedsToo.overlooks foreignToo request next callsToo (regards.alike times sameTask))
    · exact alike_of_averted modest times sameTask regards fun regardsToo =>
        regards (regardsToo.alike times.symm sameTask.symm)
  · cases request with
    | write descriptor bytes => exact alike_of_write same sameTask heeds heedsToo calls callsToo
    | spawn spawning => exact alike_of_spawn same sameTask heeds heedsToo foreign calls callsToo
    | become path words environment =>
        exact alike_of_become same sameTask heeds heedsToo calls callsToo
    | _ => exact absurd rfl modest

variable (isStage : task.pid ∈ stages) (logs : one.LogsTo task sink)
  (logsToo : two.LogsTo other sink)
include isStage logs logsToo

/-- What a stage is answered to anything but the call for a child is the same on both hosts. -/
theorem alike_of_stage {request : Call} {next goOn : request.Reply → Process UInt8}
    (allowed : (staging manner).allows () request) (single : ∀ spawning, request ≠ .spawn spawning)
    (calls : task.process = .call request next) (callsToo : other.process = .call request goOn) :
    ((one.atTimeOf task).attempt task request).Alike sink stages
      ((two.atTimeOf other).attempt other request) := by
  have samePid : task.pid = other.pid := (congrArg Task.pid sameTask :)
  have isStageToo : other.pid ∈ stages := samePid ▸ isStage
  have times := atTimeOf_alike same sameTask
  have unheard {kernel : Kernel} {task : Task} (logs : kernel.sinkOf task = sink) (event : Event) :
      ((kernel.atTimeOf task).log task event).muted sink stages =
        (kernel.atTimeOf task).muted sink stages := by
    have goes : (kernel.atTimeOf task).sinkOf task = sink := logs
    rw [← goes]
    exact log_muted _ task event
  cases request with
  | report event =>
      refine .answered _ ?_
      rw [unheard logs.sinkOf, unheard logsToo.sinkOf, times]
  | openLog filter =>
      refine .answered _ ?_
      rw [openLog_muted isStage, openLog_muted isStageToo, times]
  | write descriptor bytes => exact alike_of_write same sameTask heeds heedsToo calls callsToo
  | spawn spawning => exact absurd rfl (single spawning)
  | react _ _ | ownPath | ownPid | parentPid | namespaceOf _ | setHostname _ | select _ _
  | send _ _ =>
      exact alike_of_overlooks times sameTask (overlooks_of_isDeaf rfl _ task)
        (overlooks_of_isDeaf rfl _ other)
  | _ => cases allowed

/-- By any call but that for a child, a stage and its twin go on as twins. -/
theorem paired_of_call {request : Call} {next goOn : request.Reply → Process UInt8}
    (coherent : one.Coherent) (coherentToo : two.Coherent) (member : task ∈ one.tasks)
    (memberToo : other ∈ two.tasks) (allowed : (staging manner).allows () request)
    (single : ∀ spawning, request ≠ .spawn spawning)
    (calls : task.process = .call request next) (callsToo : other.process = .call request goOn)
    (goesOn : ∀ reply, Twins (next reply) (goOn reply)) :
    Paired sink stages task one (one.stepOther? task) (two.stepOther? other) := by
  have samePid : task.pid = other.pid := (congrArg Task.pid sameTask :)
  have quiet := not_isRelaunching calls single
  have alike := alike_of_stage same sameTask heeds heedsToo isStage logs logsToo allowed single
    calls callsToo
  generalize tried : (one.atTimeOf task).attempt task request = attempt at alike
  generalize triedToo : (two.atTimeOf other).attempt other request = attemptToo at alike
  cases alike with
  | blocked =>
      rw [stepOther?_of_blocked calls tried, stepOther?_of_blocked callsToo triedToo]
      exact .blocked
  | again same =>
      rw [stepOther?_of_again calls tried, stepOther?_of_again callsToo triedToo]
      refine .goes ?_ ?_ (does_of_again coherent member calls allowed tried)
        (samePid ▸ does_of_again coherentToo memberToo callsToo allowed triedToo)
      · rw [stagesAfter_of_quiet quiet, same]
      · rw [calls, callsToo]
        exact .call request goesOn
  | answered reply same =>
      rw [stepOther?_of_answered calls tried, stepOther?_of_answered callsToo triedToo]
      refine .goes ?_ (goesOn reply) (does_goOn _ _ _) (samePid ▸ does_goOn _ _ _)
      rw [stagesAfter_of_quiet quiet, goOn_muted_of_mem isStage,
        goOn_muted_of_mem (samePid ▸ isStage), same]

omit logsToo in
/-- A stage and its twin both create a child or both fail to, and go on as twins. -/
theorem paired_of_spawn {spawning asked : Spawning} {next goOn : Except Cause Pid → Process UInt8}
    (member : task ∈ one.tasks) (alive : task.isAlive)
    (calls : task.process = .call (.spawn spawning) next)
    (callsToo : other.process = .call (.spawn asked) goOn) (paired : spawning.Paired asked)
    (goesOn : ∀ reply, Twins (next reply) (goOn reply)) :
    Paired sink stages task one (one.stepOther? task) (two.stepOther? other) := by
  have samePid : task.pid = other.pid := (congrArg Task.pid sameTask :)
  have isStageToo : other.pid ∈ stages := samePid ▸ isStage
  have times := atTimeOf_alike same sameTask
  obtain ⟨textual, -, fits, -, ignored⟩ := heeds.starts spawning next calls
  obtain ⟨textualToo, -, fitsToo, -, -⟩ := heedsToo.starts asked goOn callsToo
  have guards := guards_of_logs member alive logs.sinkOf
  have goes {reply : Except Cause Pid} {between also : Kernel}
      (spawned : (one.atTimeOf task).spawn task spawning = (reply, between))
      (spawnedToo : (two.atTimeOf other).spawn other asked = (reply, also))
      (same : between.muted sink (one.stagesAfter stages task between) =
        also.muted sink (one.stagesAfter stages task between)) :
      Paired sink stages task one (one.stepOther? task) (two.stepOther? other) := by
    rw [stepOther?_of_answered calls (attempt_spawn spawned),
      stepOther?_of_answered callsToo (attempt_spawn spawnedToo)]
    have later := one.subset_stagesAfter stages task between isStage
    refine .goes ?_ (goesOn reply) (does_goOn _ _ _) (samePid ▸ does_goOn _ _ _)
    change Kernel.muted _ sink (one.stagesAfter stages task between) =
      Kernel.muted _ sink (one.stagesAfter stages task between)
    rw [goOn_muted_of_mem later, goOn_muted_of_mem (samePid ▸ later), same]
  have relaunches : task.isRelaunching = spawning.isolation.uts := by
    rw [Task.isRelaunching, calls]
  have fails {cause : Cause}
      (spawned : (one.atTimeOf task).spawn task spawning = (.error cause, one.atTimeOf task))
      (spawnedToo : (two.atTimeOf other).spawn other asked = (.error cause, two.atTimeOf other)) :
      Paired sink stages task one (one.stepOther? task) (two.stepOther? other) := by
    refine goes spawned spawnedToo ?_
    have idle : (one.atTimeOf task).nextPid = one.nextPid := rfl
    rw [stagesAfter_of_idle idle, times]
  by_cases fresh : spawning.isolation.uts
  · have relates : Loading.Given spawning.args asked.args (spawning.path :: spawning.args)
        (asked.path :: asked.args) := ⟨[], spawning.path, rfl, by rw [paired.alike.path]; rfl⟩
    rcases spawn_alike times sameTask paired.alike textual textualToo guards
      (Loading.carries_given _ _) relates fits fitsToo with
        ⟨cause, spawned, spawnedToo⟩ | ⟨loaded, words, loads, -, spawned, spawnedToo⟩
    · exact fails spawned spawnedToo
    · refine goes spawned spawnedToo ?_
      have born := nextPid_born (one.atTimeOf task) task spawning loaded
      have grown : one.nextPid ≠ ((one.atTimeOf task).born task spawning loaded).nextPid := by
        rw [born]
        exact Int.ne_of_lt (Int.lt_succ _)
      rw [stagesAfter, if_pos ⟨isStage, relaunches.trans fresh, grown⟩]
      exact born_alike times sameTask paired.alike (List.subset_append_left _ _)
        (.inl (List.mem_append_right _ List.mem_cons_self))
  · obtain rfl := paired.same fresh
    rcases spawn_alike times sameTask paired.alike textual textualToo guards
      Loading.carries_eq rfl fits fitsToo with
        ⟨cause, spawned, spawnedToo⟩ | ⟨loaded, words, loads, related, spawned, spawnedToo⟩
    · exact fails spawned spawnedToo
    · refine goes spawned spawnedToo ?_
      have quiet : ¬ task.isRelaunching := relaunches ▸ fresh
      have ignores := ignored loaded loads fun holds => fresh holds.2
      rw [stagesAfter_of_quiet quiet]
      exact born_alike times sameTask paired.alike (List.Subset.refl _) (.inr ⟨related, ignores⟩)

/-- A stage and its twin make a step together, and are twins after it. -/
theorem paired_of_twins (coherent : one.Coherent) (coherentToo : two.Coherent)
    (member : task ∈ one.tasks) (memberToo : other ∈ two.tasks) (alive : task.isAlive)
    (plays : task.process.Plays manner) (twins : Twins task.process other.process) :
    Paired sink stages task one (one.stepOther? task) (two.stepOther? other) := by
  have samePid : task.pid = other.pid := (congrArg Task.pid sameTask :)
  have isStageToo : other.pid ∈ stages := samePid ▸ isStage
  have times := atTimeOf_alike same sameTask
  generalize doing : task.process = process at twins plays
  generalize doingToo : other.process = processToo at twins
  cases twins with
  | done code =>
      have quiet : ¬ task.isRelaunching := by
        rw [Task.isRelaunching, doing]
        exact Bool.false_ne_true
      have ended : one.stepOther? task =
          some ((one.atTimeOf task).finish task.pid (.exited code)) := by
        simp only [stepOther?, doing, step]
      have endedToo : two.stepOther? other =
          some ((two.atTimeOf other).finish other.pid (.exited code)) := by
        simp only [stepOther?, doingToo, step]
      rw [ended, endedToo]
      refine .goes ?_ (.done code) ?_ ?_
      · rw [stagesAfter_of_quiet quiet, finish_muted, finish_muted, times, samePid]
      · rw [← doing]
        exact coherent.does member fun mover =>
          (steady_atTimeOf one task).trans (steady_finish _ _ _)
      · rw [← doingToo, samePid]
        exact coherentToo.does memberToo fun mover =>
          (steady_atTimeOf two other).trans (steady_finish _ _ _)
  | call request goesOn =>
      by_cases single : ∀ spawning, request ≠ .spawn spawning
      · exact paired_of_call same sameTask heeds heedsToo isStage logs logsToo coherent
          coherentToo member memberToo plays.1 single doing doingToo goesOn
      · simp only [Classical.not_forall, ne_eq, Classical.not_not] at single
        obtain ⟨spawning, rfl⟩ := single
        exact paired_of_spawn same sameTask heeds heedsToo isStage logs member alive doing
          doingToo
          (.refl spawning) goesOn
  | @openLog filter also next goOn goesOn =>
      have quiet : ¬ task.isRelaunching := by
        rw [Task.isRelaunching, doing]
        exact Bool.false_ne_true
      rw [stepOther?_of_answered doing rfl, stepOther?_of_answered doingToo rfl]
      refine .goes ?_ goesOn (does_goOn _ _ _) (samePid ▸ does_goOn _ _ _)
      rw [stagesAfter_of_quiet quiet, goOn_muted_of_mem isStage, goOn_muted_of_mem isStageToo,
        openLog_muted isStage, openLog_muted isStageToo, times]
  | relaunch verbose also path command goesOn =>
      exact paired_of_spawn same sameTask heeds heedsToo isStage logs member alive doing
          doingToo
        (Sandbox.paired_relaunching verbose also path command) goesOn
  | fork goesOn => exact plays.elim
  | @loop turn next goOn goesOn =>
      have quiet : ¬ task.isRelaunching := by
        rw [Task.isRelaunching, doing]
        exact Bool.false_ne_true
      have turned : one.stepOther? task =
          some (one.modify task.pid fun task => { task with process := .unroll turn next }) := by
        simp only [stepOther?, doing, step]
      have turnedToo : two.stepOther? other =
          some (two.modify other.pid fun task => { task with process := .unroll turn goOn }) := by
        simp only [stepOther?, doingToo, step]
      rw [turned, turnedToo]
      refine .goes ?_ (.unroll goesOn) (does_goOn _ _ _) (samePid ▸ does_goOn _ _ _)
      rw [stagesAfter_of_quiet quiet, goOn_muted_of_mem isStage, goOn_muted_of_mem isStageToo, same]

end Stage

end Kernel

end HostnameSandbox

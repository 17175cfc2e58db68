import HostnameSandbox.Proofs.Logging.Lockstep
import Mathlib.Data.Option.Basic

/-!
# Hosts that mirror each other

Two hosts whose stages differ only in what they log go on alike.  By every impulse either both go
on or neither does, and afterwards their stages still differ only in what they log.
-/

namespace HostnameSandbox

open Process (Twins)

namespace Kernel

variable {sink : Channel} {stages : List Pid} {one two after also : Kernel} {task other : Task}
  {move : Move} {pid : Pid}

/-- Who did not move is about to do what it was. -/
theorem Moves.process_idle (moves : Moves one move after) (known : pid < one.nextPid)
    (idle : move.mover? ≠ some pid) (member : task ∈ after.tasks) (is : task.pid = pid) :
    ∃ earlier ∈ one.tasks, earlier.pid = pid ∧ task.process = earlier.process := by
  rcases moves.tasks task member with
    ⟨earlier, isEarlier, same, -, process⟩ | ⟨mover, -, fresh, -, newborn⟩
  · exact ⟨earlier, isEarlier, same.symm.trans is, process (is ▸ idle)⟩
  · exact absurd is (newborn.pid_ne known)

section

variable (same : one.muted sink stages = two.muted sink stages)
  (sameTask : task.muted stages = other.muted stages)
include same sameTask

theorem opened_newborn {spawning asked : Spawning} (streams : spawning.streams = asked.streams) :
    (one.newborn task spawning).opened = (two.newborn other asked).opened := by
  have files (kernel : Kernel) (task : Task) (spawning : Spawning) :
      (kernel.newborn task spawning).opened =
        ((kernel.muted sink stages).childFiles (task.muted stages) spawning.streams).1 :=
    (congrArg Prod.fst (childFiles_muted kernel task spawning.streams)).symm
  rw [files one, files two, same, sameTask, streams]

/-- On hosts that differ only in what is logged, children can read their libraries alike. -/
theorem twins_runBy {spawning asked : Spawning} (streams : spawning.streams = asked.streams)
    {start begin : Start} (name : start.name = begin.name)
    (twins : Twins (Sandbox.program start) (Sandbox.program begin)) :
    Twins (one.runBy task spawning Sandbox.program start)
      (two.runBy other asked Sandbox.program begin) := by
  have opened := opened_newborn same sameTask streams
  have limits : (one.newborn task spawning).limits = (two.newborn other asked).limits :=
    (congrArg Task.limits sameTask :)
  unfold runBy
  rw [free?_congr _ _ opened limits]
  cases (two.newborn other asked).free? 0 with
  | ok _ => exact twins
  | error _ =>
      change Twins (Process.write Descriptor.error (start.name ++ _) >>= _)
        (Process.write Descriptor.error (begin.name ++ _) >>= _)
      rw [name]
      exact .refl _

end

end Kernel

/-- The twin of a process that is about to start the program again is about to do so, too. -/
theorem Process.Twins.isRelaunching {task other : Task} (twins : Twins task.process other.process) :
    task.isRelaunching = other.isRelaunching := by
  unfold Task.isRelaunching
  generalize task.process = process at twins
  generalize other.process = processToo at twins
  cases twins with
  | call request goesOn => cases request <;> rfl
  | _ => rfl

namespace Scene

/-- Two hosts whose stages differ only in what they log. -/
structure Mirrors (sink : Channel) (one two : Scene) : Prop where
  stages : one.stages = two.stages
  same : one.kernel.muted sink one.stages = two.kernel.muted sink one.stages
  twins : ∀ task ∈ one.kernel.tasks, ∀ other ∈ two.kernel.tasks, task.pid ∈ one.stages →
    other.pid = task.pid → Twins task.process other.process

variable {sink : Channel} {one two after also : Scene} {manner : Manner} {impulse : Impulse}
  {pid : Pid} {task other : Task}

theorem next?_eq {scene : Scene} (found : scene.kernel.task? pid = some task) :
    scene.next? (.turn pid) =
      if task.isAlive then (scene.kernel.stepOther? task).map fun after =>
        ⟨after, scene.kernel.stagesAfter scene.stages task after⟩
      else none := by
  simp only [next?, Kernel.mayAct, Kernel.acted, found, Option.any_some, Option.bind_some]
  cases task.isAlive with
  | false => rfl
  | true => cases scene.kernel.stepOther? task <;> rfl

/-- The same processes play stages on both hosts after a step. -/
theorem Mirrors.stagesAfter_eq {after also : Kernel} {stages : List Pid}
    (mirrors : Mirrors sink one two) (samePid : task.pid = other.pid)
    (relaunches : task.isRelaunching = other.isRelaunching)
    (same : after.muted sink stages = also.muted sink stages) :
    one.kernel.stagesAfter one.stages task after =
      two.kernel.stagesAfter two.stages other also := by
  have next : one.kernel.nextPid = two.kernel.nextPid := (congrArg Kernel.nextPid mirrors.same :)
  have later : after.nextPid = also.nextPid := (congrArg Kernel.nextPid same :)
  unfold Kernel.stagesAfter
  rw [mirrors.stages, samePid, relaunches, next, later]

section Mirroring

variable (mirrors : Mirrors sink one two) (sound : one.Sound sink manner)
  (soundToo : two.Sound sink manner)
include mirrors sound soundToo

/-- Whoever has not moved is still the twin of its twin. -/
theorem Mirrors.twins_idle {move moveToo : Move} {after also : Kernel}
    (moves : Kernel.Moves one.kernel move after) (movesToo : Kernel.Moves two.kernel moveToo also)
    (isStage : pid ∈ one.stages) (idle : move.mover? ≠ some pid)
    (idleToo : moveToo.mover? ≠ some pid) (member : task ∈ after.tasks) (is : task.pid = pid)
    (memberToo : other ∈ also.tasks) (isToo : other.pid = pid) :
    Twins task.process other.process := by
  obtain ⟨earlier, isEarlier, pidOne, process⟩ :=
    moves.process_idle (sound.known pid isStage) idle member is
  obtain ⟨earlierToo, isEarlierToo, pidTwo, processToo⟩ :=
    movesToo.process_idle (soundToo.known pid (mirrors.stages ▸ isStage)) idleToo memberToo isToo
  rw [process, processToo]
  exact mirrors.twins earlier isEarlier earlierToo isEarlierToo (pidOne ▸ isStage)
    (pidTwo.trans pidOne.symm)

/-- Who is created by a stage and by its twin in new namespaces plays a stage as a twin. -/
theorem Mirrors.twins_born {after also : Kernel} {child childToo : Task} {spawning : Spawning}
    {next : Except Cause Pid → Process UInt8} (isTask : task ∈ one.kernel.tasks)
    (isOther : other ∈ two.kernel.tasks) (sameTask : task.muted one.stages = other.muted one.stages)
    (isStage : task.pid ∈ one.stages) (calls : task.process = .call (.spawn spawning) next)
    (fresh : spawning.isolation.uts) (heedless : one.kernel.Heedless sink one.stages task)
    (heedlessToo : two.kernel.Heedless sink two.stages other)
    (acts : one.kernel.Acts task after) (actsToo : two.kernel.Acts other also)
    (isChild : child ∈ after.tasks) (isNew : child.pid = one.kernel.nextPid)
    (isChildToo : childToo ∈ also.tasks) (isNewToo : childToo.pid = two.kernel.nextPid) :
    Twins child.process childToo.process := by
  have samePid : task.pid = other.pid := (congrArg Task.pid sameTask :)
  have isStageToo : other.pid ∈ two.stages := samePid ▸ mirrors.stages ▸ isStage
  have twins := mirrors.twins task isTask other isOther isStage samePid.symm
  rw [calls] at twins
  obtain ⟨asked, goOn, callsToo, paired, -⟩ := twins.of_spawn
  have freshToo : asked.isolation.uts := paired.alike.isolation ▸ fresh
  obtain ⟨loaded, loads, rfl⟩ := acts.eq_childOf sound.coherent isTask calls isChild isNew
  obtain ⟨loadedToo, loadsToo, rfl⟩ :=
    actsToo.eq_childOf soundToo.coherent isOther callsToo isChildToo isNewToo
  obtain ⟨program, words⟩ := (heedless.starts spawning next calls).finds isStage loaded loads fresh
  obtain ⟨programToo, wordsToo⟩ :=
    (heedlessToo.starts asked goOn callsToo).finds isStageToo loadedToo loadsToo freshToo
  have times := Kernel.atTimeOf_alike mirrors.same sameTask
  rw [Kernel.process_childOf, Kernel.process_childOf, program, programToo, Kernel.startOf,
    Kernel.startOf, words, wordsToo]
  exact Kernel.twins_runBy times sameTask paired.alike.streams paired.alike.path
    (Sandbox.twins_program paired.read)

/-- A turn of a stage is a turn of its twin. -/
theorem Mirrors.next_stage (isTask : task ∈ one.kernel.tasks) (isOther : other ∈ two.kernel.tasks)
    (sameTask : task.muted one.stages = other.muted one.stages) (isStage : task.pid ∈ one.stages)
    (alive : task.isAlive) (heedless : one.kernel.Heedless sink one.stages task)
    (heedlessToo : two.kernel.Heedless sink two.stages other) :
    Option.Rel (Mirrors sink)
      ((one.kernel.stepOther? task).map fun after =>
        ⟨after, one.kernel.stagesAfter one.stages task after⟩)
      ((two.kernel.stepOther? other).map fun also =>
        ⟨also, two.kernel.stagesAfter two.stages other also⟩) := by
  have samePid : task.pid = other.pid := (congrArg Task.pid sameTask :)
  have aliveToo : other.isAlive := by
    have ending : task.ending = other.ending := (congrArg Task.ending sameTask :)
    rwa [Task.isAlive, ← ending]
  have heedsToo : two.kernel.Heedless sink one.stages other := mirrors.stages ▸ heedlessToo
  have twins := mirrors.twins task isTask other isOther isStage samePid.symm
  have logs := sound.logs task isTask alive isStage
  have logsToo := soundToo.logs other isOther aliveToo (samePid ▸ mirrors.stages ▸ isStage)
  have paired := Kernel.paired_of_twins mirrors.same sameTask heedless heedsToo isStage logs logsToo
    sound.coherent soundToo.coherent isTask isOther alive
    (sound.plays task.pid isStage task isTask rfl) twins
  generalize stepped : one.kernel.stepOther? task = after at paired
  generalize steppedToo : two.kernel.stepOther? other = also at paired
  cases paired with
  | blocked => exact .none
  | @goes after also first second same goesOn does alsoDoes =>
      have moves := Kernel.Moves.act isTask alive stepped
      have movesToo := Kernel.Moves.act isOther aliveToo steppedToo
      have stages := mirrors.stagesAfter_eq samePid twins.isRelaunching same
      refine .some ⟨stages, same, fun child isChild childToo isChildToo member is => ?_⟩
      rcases Kernel.mem_stagesAfter member with
        isOld | ⟨isNew, -, -, spawning, next, calls, fresh⟩
      · by_cases own : child.pid = task.pid
        · rw [does child isChild own, alsoDoes childToo isChildToo (is.trans own)]
          exact goesOn
        · refine mirrors.twins_idle sound soundToo moves movesToo isOld ?_ ?_ isChild rfl
            isChildToo is
          · exact fun made => own (Option.some.inj made).symm
          · exact fun made => own (samePid.trans (Option.some.inj made)).symm
      · have next : one.kernel.nextPid = two.kernel.nextPid :=
          (congrArg Kernel.nextPid mirrors.same :)
        exact mirrors.twins_born sound soundToo isTask isOther sameTask isStage calls fresh
          heedless heedlessToo (Kernel.acts_of_stepOther? stepped)
          (Kernel.acts_of_stepOther? steppedToo) isChild isNew isChildToo
          ((is.trans isNew).trans next)

/-- A turn of a process that plays no stage is a turn of it on the other host, too. -/
theorem Mirrors.next_foreign (isTask : task ∈ one.kernel.tasks)
    (isOther : other ∈ two.kernel.tasks)
    (sameTask : task.muted one.stages = other.muted one.stages) (foreign : task.pid ∉ one.stages)
    (alive : task.isAlive) (heedless : one.kernel.Heedless sink one.stages task)
    (heedlessToo : two.kernel.Heedless sink two.stages other) :
    Option.Rel (Mirrors sink)
      ((one.kernel.stepOther? task).map fun after =>
        ⟨after, one.kernel.stagesAfter one.stages task after⟩)
      ((two.kernel.stepOther? other).map fun also =>
        ⟨also, two.kernel.stagesAfter two.stages other also⟩) := by
  have samePid : task.pid = other.pid := (congrArg Task.pid sameTask :)
  have foreignToo : other.pid ∉ two.stages := samePid ▸ mirrors.stages ▸ foreign
  have aliveToo : other.isAlive := by
    have ending : task.ending = other.ending := (congrArg Task.ending sameTask :)
    rwa [Task.isAlive, ← ending]
  have heedsToo : two.kernel.Heedless sink one.stages other := mirrors.stages ▸ heedlessToo
  have fresh : one.kernel.nextPid ∉ one.stages := fun member =>
    absurd (sound.known _ member) (Int.lt_irrefl _)
  have alike := Kernel.stepOther?_of_heedless mirrors.same sameTask heedless heedsToo foreign fresh
  cases stepped : one.kernel.stepOther? task with
  | none =>
      rw [stepped, Option.map_none, eq_comm, Option.map_eq_none_iff] at alike
      rw [alike]
      exact .none
  | some after =>
      rw [stepped, Option.map_some, eq_comm, Option.map_eq_some_iff] at alike
      obtain ⟨also, steppedToo, same⟩ := alike
      have moves := Kernel.Moves.act isTask alive stepped
      have movesToo := Kernel.Moves.act isOther aliveToo steppedToo
      simp only [steppedToo, Option.map_some, Kernel.stagesAfter_of_foreign foreign,
        Kernel.stagesAfter_of_foreign foreignToo]
      refine .some ⟨mirrors.stages, same.symm, ?_⟩
      intro child isChild childToo isChildToo isStage is
      refine mirrors.twins_idle sound soundToo moves movesToo isStage ?_ ?_ isChild rfl
        isChildToo is
      · exact fun made => foreign (Option.some.inj made ▸ isStage)
      · exact fun made => foreign (samePid.trans (Option.some.inj made) ▸ isStage)

/-- By an impulse, two hosts go on or stay together. -/
theorem Mirrors.next (heedless : one.Heedless sink impulse)
    (heedlessToo : two.Heedless sink impulse) :
    Option.Rel (Mirrors sink) (one.next? impulse) (two.next? impulse) := by
  cases impulse with
  | signal pid signal =>
      have moves := Kernel.Moves.signal one.kernel pid signal
      have movesToo := Kernel.Moves.signal two.kernel pid signal
      refine .some ⟨mirrors.stages, ?_, fun task member other memberToo isStage is => ?_⟩
      · rw [Kernel.signal_muted, Kernel.signal_muted, mirrors.same]
      · exact mirrors.twins_idle sound soundToo moves movesToo isStage nofun nofun member rfl
          memberToo is
  | turn pid =>
      have tasks : (one.kernel.task? pid).map (fun task => task.muted one.stages) =
          (two.kernel.task? pid).map fun task => task.muted one.stages := by
        rw [← Kernel.task?_muted, mirrors.same, Kernel.task?_muted]
      cases found : one.kernel.task? pid with
      | none =>
          rw [found, Option.map_none, eq_comm, Option.map_eq_none_iff] at tasks
          simp only [next?, Kernel.mayAct, found, tasks]
          exact .none
      | some task =>
          rw [found, Option.map_some, eq_comm, Option.map_eq_some_iff] at tasks
          obtain ⟨other, foundToo, same⟩ := tasks
          have sameTask := same.symm
          have alive : task.isAlive = other.isAlive := by
            have ending : task.ending = other.ending := (congrArg Task.ending sameTask :)
            rw [Task.isAlive, ending, Task.isAlive]
          have isTask := Kernel.mem_of_task? found
          have isOther := Kernel.mem_of_task? foundToo
          rw [next?_eq found, next?_eq foundToo, ← alive]
          by_cases lives : task.isAlive
          · rw [if_pos lives, if_pos lives]
            by_cases isStage : task.pid ∈ one.stages
            · exact mirrors.next_stage sound soundToo isTask isOther sameTask isStage lives
                (heedless task found) (heedlessToo other foundToo)
            · exact mirrors.next_foreign sound soundToo isTask isOther sameTask isStage lives
                (heedless task found) (heedlessToo other foundToo)
          · rw [if_neg lives, if_neg lives]
            exact .none

end Mirroring

/-- By one impulse after the other, two hosts go on or stay together. -/
theorem Mirrors.along (lasts : manner.Lasts) {impulses : List Impulse}
    (mirrors : Mirrors sink one two) (sound : one.Sound sink manner)
    (soundToo : two.Sound sink manner) (heedless : one.HeedlessAlong sink impulses)
    (heedlessToo : two.HeedlessAlong sink impulses) :
    Option.Rel (Mirrors sink) (one.after? impulses) (two.after? impulses) := by
  induction impulses generalizing one two with
  | nil => exact .some mirrors
  | cons impulse later hypothesis =>
      obtain ⟨now, rest⟩ := heedless
      obtain ⟨nowToo, restToo⟩ := heedlessToo
      have goesOn := mirrors.next sound soundToo now nowToo
      rw [after?, after?]
      generalize went : one.next? impulse = next at goesOn
      generalize wentToo : two.next? impulse = nextToo at goesOn
      cases goesOn with
      | none => exact .none
      | some mirrors =>
          exact hypothesis mirrors (sound.next lasts now went) (soundToo.next lasts nowToo wentToo)
            (rest _ went) (restToo _ wentToo)

end Scene

end HostnameSandbox

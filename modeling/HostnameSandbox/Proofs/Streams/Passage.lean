import HostnameSandbox.Proofs.Logging.Indifference
import HostnameSandbox.Proofs.Streams.Relaunching
import HostnameSandbox.Proofs.Supervision.Outcome

/-!
# Streams that reach through both stages

A launcher starts the program again, and that starts a target.  Each standard stream of the target is
the launcher's own or the null device, as the launcher has bound it.  Neither stage takes anything
from an open file or adds anything to one, but by what they tell on their standard error, and how the
launch ends depends on nothing but how the target does.
-/

namespace HostnameSandbox

open Kernel (Moves Connects SameFile ReadsAlike Abides)

namespace Relaunch

variable {first last : Kernel} {trace : List Move}

/-- The child of a launch creates the target in its turn. -/
structure Handover (launch : Relaunch first trace) where
  sooner : List Move
  birth : Move
  later : List Move
  target : Task
  whole : launch.later = sooner ++ birth :: later
  bears : birth.Bears launch.child.pid target

namespace Handover

variable {launch : Relaunch first trace}

/-- How the target has ended. -/
def Ended (handover : launch.Handover) (status : ExitStatus) : Prop :=
  ∃ move ∈ handover.later, ∃ found ∈ move.before.tasks,
    found.pid = handover.target.pid ∧ found.ending = some status

/-- Nobody but the two stages uses an open file before the target is there. -/
def LeavesAlone (handover : launch.Handover) (number : Nat) (handle : Handle) : Prop :=
  ∀ move ∈ launch.earlier ++ launch.birth :: (handover.sooner ++ [handover.birth]),
    ¬ launch.IsMovedBy move → SameFile number handle move.before move.after

/-- What the streams of the target and how it ends have to do with the launcher. -/
structure Reaches (handover : launch.Handover) (last : Kernel) : Prop where
  /-- Each standard stream of the target is the launcher's own or leads to the null device, as it is
  bound. -/
  connects : Connects launch.launcher launch.stage.streams handover.target handover.birth.after
  /-- What is bound to the null device reads as if at an end, and takes and loses everything, for
  whoever has it open, whatever happens on the host from then on. -/
  lost : ∀ descriptor, (descriptor, .null) ∈ launch.stage.streams.bindings → ∀ future kernel,
    Run Moves handover.birth.after future kernel →
      ∀ task : Task, task.find? descriptor = handover.target.find? descriptor →
        kernel.Voids task descriptor
  /-- The stages read nothing, open and close no file, and write to their standard error only. -/
  tells : ∀ move ∈ trace, launch.IsMovedBy move → ∀ task ∈ move.before.tasks,
    move.mover? = some task.pid → ∀ request next, task.process = .call request next →
      request.OnlyTells
  /-- By the moves of a stage every open file stays as it is, unless it leads where the standard
  error of that stage does. -/
  aside : ∀ move ∈ trace, launch.IsMovedBy move → ∀ task ∈ move.before.tasks,
    move.mover? = some task.pid → ∀ number handle, move.before.handles[number]? = some handle →
      ¬ handle.channel.Joins (move.before.sinkOf task) →
        SameFile number handle move.before move.after
  /-- A child whose standard error is bound to the null device tells nobody anything. -/
  silent : launch.stage.streams.error = .null → ∀ move ∈ launch.later,
    move.mover? = some launch.child.pid → ∀ number handle,
      move.before.handles[number]? = some handle → SameFile number handle move.before move.after
  /-- The target is given the launcher's own streams as the launcher has had them, and reads what the
  launcher would have read, where nobody but the two stages uses them meanwhile and nothing is told
  there. -/
  complete : ∀ sink, first.LogsTo launch.launcher sink →
    ∀ descriptor, (descriptor, .inherit) ∈ launch.stage.streams.bindings →
      ∀ entry, launch.launcher.passed? descriptor = some entry →
        ∀ handle, first.handles[entry.handle]? = some handle → ¬ handle.channel.Joins sink →
          handover.LeavesAlone entry.handle handle →
            SameFile entry.handle handle first handover.birth.after ∧
              ∀ caller : Task, caller.find? descriptor = some entry →
                ReadsAlike handle descriptor caller first handover.target handover.birth.after
  /-- The launch comes to what the target has ended with, whatever the streams are bound to, unless
  the child has been killed. -/
  returns : ∀ found ∈ last.tasks, found.pid = launch.launcher.pid → ∀ value,
    found.process = .done value →
      (∃ status, handover.Ended status ∧ value =
        launch.code (.ok (codeOf (concluded launch.inside.program.lossy status)))) ∨
      ∃ signal label, launch.Killed signal ∧
        value = launch.code (.error (.runtime label signal.number))
  /-- Nothing holds up the launch but the target, and that the child cannot be rid of what it
  tells. -/
  goesOn : (last.isAlive launch.launcher.pid → last.mayAct launch.launcher.pid ∨
      (last.task? launch.child.pid).bind Task.ending = none) ∧
    (last.isAlive launch.child.pid → last.mayAct launch.child.pid ∨
      (∃ found ∈ last.tasks, found.pid = launch.child.pid ∧ found.isWriting) ∨
        (last.task? handover.target.pid).bind Task.ending = none)

/-- What the child comes to if it is not killed: what the target has ended with. -/
def Passes (handover : launch.Handover) (status : ExitStatus) : Prop :=
  (∃ ended, handover.Ended ended ∧
    status = .exited (codeOf (concluded launch.inside.program.lossy ended))) ∨
  ∃ signal, status = .killed signal ∧ launch.Killed signal

section Passing

variable (handover : launch.Handover)

theorem split_of_run (run : Run Moves first trace last) :
    Run Moves launch.birth.after handover.sooner handover.birth.before ∧
      Moves handover.birth.before handover.birth handover.birth.after ∧
        Run Moves handover.birth.after handover.later last :=
  have later := (Kernel.split_of_run (launch.whole ▸ run)).2.2
  Kernel.split_of_run (handover.whole ▸ later)

variable (coherent : first.Coherent) (run : Run Moves first trace last)
include coherent run

/-- The target is connected as the launcher has asked for it. -/
theorem target_connects :
    Connects launch.launcher launch.stage.streams handover.target handover.birth.after := by
  obtain ⟨sofar, births, -⟩ := handover.split_of_run run
  have abides := (launch.child_abides coherent run).of_run sofar
  obtain ⟨state, cares⟩ := (launch.child_cares coherent run).of_run sofar
  obtain ⟨task, member, is, spawning, next, spawns, connects⟩ := abides.bears births handover.bears
  have now := cares.keeps task member is
  rw [spawns] at now
  obtain ⟨-, -, -, invocation, verbose, asks, may⟩ := now.1
  obtain ⟨rfl, -⟩ := launch.asks.unique asks
  -- the inner stage shares all its streams, so that these are bound by the launcher alone
  obtain rfl : spawning = InnerStage.standard.runner.spawning launch.inside := may
  have opened := abides.opened task member is
    (births.isAlive_mover abides.coherent member (handover.bears.mover.trans (is ▸ rfl)))
  exact (launch.child_connects coherent run).trans
    (Kernel.keepsHandles_of_run (.next sofar births)) (connects.of_caller opened.symm)

/-! ### How the launch ends -/

/-- From its birth on the child waits for the target, and cares for nothing else. -/
theorem child_tends {soon rest : List Move} {kernel : Kernel}
    (whole : handover.later = soon ++ rest) (toKernel : Run Moves handover.birth.after soon kernel) :
    ∃ state, Tending (Sandbox.MayStart launch.start) (Sandbox.Decides launch.start) handover.Ended
      launch.child.pid handover.target.pid state kernel := by
  obtain ⟨sofar, births, -⟩ := handover.split_of_run run
  obtain ⟨state, cares⟩ := (launch.child_cares coherent run).of_run sofar
  obtain ⟨next, tends⟩ := cares.bears births handover.bears handover.Ended
  exact tends.of_run toKernel fun move isMove task member is status ended =>
    ⟨move, whole ▸ List.mem_append_left rest isMove, task, member, is, ended⟩

/-- Until it has created the target the child lives. -/
theorem child_lives {move : Move}
    (isMove : move ∈ handover.sooner ++ [handover.birth]) :
    move.before.isAlive launch.child.pid := by
  obtain ⟨sofar, births, -⟩ := handover.split_of_run run
  have abides := launch.child_abides coherent run
  have lives : handover.birth.before.isAlive launch.child.pid := by
    obtain ⟨task, isTask, same⟩ := births.exists_mover handover.bears.mover
    exact Kernel.isAlive_iff.2 ⟨task, isTask, same, births.isAlive_mover
      (Kernel.coherent_of_run abides.coherent sofar) isTask
      (handover.bears.mover.trans (same ▸ rfl))⟩
  rcases List.mem_append.1 isMove with isSooner | isBirth
  · obtain ⟨early, late, whole⟩ := List.append_of_mem isSooner
    obtain ⟨toMove, moves, rest⟩ := Kernel.split_of_run (whole ▸ sofar)
    exact Kernel.isAlive_of_run (.cons moves rest) (abides.of_run toMove).known lives
  · rwa [List.mem_singleton.1 isBirth]

/-- A child that has ended has passed on how the target has. -/
theorem passes_of_ended {move : Move} (isMove : move ∈ launch.later) {found : Task}
    (member : found ∈ move.before.tasks) (is : found.pid = launch.child.pid) {status : ExitStatus}
    (ended : found.ending = some status) : handover.Passes status := by
  cases status with
  | killed signal => exact .inr ⟨signal, rfl, move, isMove, found, member, is, ended⟩
  | exited code =>
      -- the child has lived until the target was there, so it has ended in care of it
      have isLater : move ∈ handover.later := by
        have among := handover.whole ▸ isMove
        rw [List.append_cons] at among
        refine (List.mem_append.1 among).resolve_left fun isEarly => ?_
        obtain ⟨other, isOther, same, alive⟩ :=
          Kernel.isAlive_iff.1 (handover.child_lives coherent run isEarly)
        obtain ⟨-, abides, -⟩ := launch.child_at coherent run isMove
        obtain rfl := abides.coherent.eq_of_pid isOther member (same.trans is.symm)
        simp [Task.isAlive, ended] at alive
      obtain ⟨soon, rest, whole⟩ := List.append_of_mem isLater
      obtain ⟨-, -, after⟩ := handover.split_of_run run
      obtain ⟨toMove, -, -⟩ := Kernel.split_of_run (whole ▸ after)
      obtain ⟨state, tending⟩ := handover.child_tends coherent run whole toMove
      have came := tending.decides member is (tending.exits found member is code ended)
      obtain ⟨result, decides, rfl⟩ := came.of_asks launch.asks
      rcases decides with ⟨free, -⟩ | decides
      · have tends := tending.tends
        rw [free] at tends
        exact tends.elim
      · obtain ⟨other, endedToo, rfl⟩ := Duty.Decides.of_tends decides tending.tends
        exact .inl ⟨other, endedToo, rfl⟩

/-- From its birth on the launcher waits for the child, and cares for nothing else. -/
theorem launcher_tends : ∃ state, Tending (launch.stage.MayStart launch.command)
    (launch.stage.Returns launch.code) handover.Passes launch.launcher.pid launch.child.pid state
      last := by
  obtain ⟨sofar, births, later⟩ := Kernel.split_of_run (launch.whole ▸ run)
  obtain ⟨state, cares⟩ := (launch.launcher_cares coherent run).of_run sofar
  obtain ⟨next, tends⟩ := cares.bears births launch.starts.toBears handover.Passes
  exact tends.of_run later fun move isMove task member is status ended =>
    handover.passes_of_ended coherent run isMove member is ended

theorem returns_of_run {found : Task} (member : found ∈ last.tasks)
    (is : found.pid = launch.launcher.pid) {value : UInt8} (came : found.process = .done value) :
    (∃ status, handover.Ended status ∧ value =
        launch.code (.ok (codeOf (concluded launch.inside.program.lossy status)))) ∨
      ∃ signal label, launch.Killed signal ∧
        value = launch.code (.error (.runtime label signal.number)) := by
  obtain ⟨state, tending⟩ := handover.launcher_tends coherent run
  obtain ⟨result, decides, rfl⟩ := tending.decides member is came
  rcases decides with ⟨free, -⟩ | ⟨path, -, decides⟩
  · have tends := tending.tends
    rw [free] at tends
    exact tends.elim
  · obtain ⟨status, passes, rfl⟩ := Duty.Decides.of_tends decides tending.tends
    rcases passes with ⟨ended, how, rfl⟩ | ⟨signal, rfl, killed⟩
    · exact .inl ⟨ended, how, rfl⟩
    · exact .inr ⟨signal, path.lossy, killed, rfl⟩

/-- An open file that leads elsewhere than what is told is as the launcher has had it when the target
is there, where others leave it alone. -/
theorem sameFile_of_run {sink : Channel} (logs : first.LogsTo launch.launcher sink)
    {number : Nat} {handle : Handle} (found : first.handles[number]? = some handle)
    (apart : ¬ handle.channel.Joins sink) (alone : handover.LeavesAlone number handle) :
    SameFile number handle first handover.birth.after := by
  have whole : trace = (launch.earlier ++ launch.birth :: (handover.sooner ++ [handover.birth])) ++
      handover.later :=
    launch.whole.trans (by rw [handover.whole]; simp)
  obtain ⟨sofar, births, -⟩ := Kernel.split_of_run (launch.whole ▸ run)
  obtain ⟨toHandover, hands, -⟩ := handover.split_of_run run
  have sofarToo : Run Moves first
      (launch.earlier ++ launch.birth :: (handover.sooner ++ [handover.birth]))
      handover.birth.after := sofar.trans (.cons births (.next toHandover hands))
  refine SameFile.of_run sofarToo found fun move isMove there => ?_
  by_cases moved : launch.IsMovedBy move
  · have among : move ∈ trace := whole ▸ List.mem_append_left _ isMove
    obtain ⟨pid, mine⟩ : ∃ pid, move.mover? = some pid := by
      rcases moved with mine | ⟨-, mine⟩ <;> exact ⟨_, mine⟩
    obtain ⟨moves, -⟩ := launch.launcher_at coherent run among
    obtain ⟨task, member, rfl⟩ := moves.exists_mover mine
    exact launch.sameFile_of_isMovedBy coherent run among moved member mine there
      (launch.not_joins_of_isMovedBy coherent run logs apart among moved member mine)
  · exact alone move isMove moved

end Passing

end Handover

end Relaunch

/-! ### A launch -/

namespace Machine

open Kernel (play)

/-- The command that passes on what it reads. -/
def passes : Command := ⟨Bytes.ofString "/passes", [], by decide, by decide⟩

/-- Launches the program with the streams of its caller, but for its standard error. -/
def relaunchesMuted : OuterStage :=
  ⟨.path (Bytes.ofString "/utsbox"), .standard, ⟨.inherit, .inherit, .null⟩, false⟩

/-- A process that launches the program in that way. -/
def mutedLauncher : Task :=
  { installed with process := relaunchesMuted.launch passes codeOf }

def bootMuted : Kernel := { bootInstalled with tasks := [mutedLauncher] }

def mutedReady : Kernel := (play (List.replicate 4 100) bootMuted).2

def mutedBorn : Kernel := mutedReady.acted 100

def passingReady : Kernel := (play (List.replicate 16 101) mutedBorn).2

def passingBorn : Kernel := passingReady.acted 101

/-- The command, and then both stages to their ends. -/
def afterPassing : List Pid :=
  List.replicate 4 102 ++ List.replicate 5 101 ++ List.replicate 6 100

def mutedMoves : List Pid :=
  List.replicate 4 100 ++ 100 :: (List.replicate 16 101 ++ 101 :: afterPassing)

theorem coherent_bootMuted : bootMuted.Coherent :=
  ⟨by decide +kernel, by decide +kernel, by decide +kernel⟩

theorem abides_bootMuted : Abides .mute 100 mutedLauncher.opened bootMuted where
  coherent := coherent_bootMuted
  known := by decide +kernel
  plays task member _ := by
    rw [List.mem_singleton.1 member]
    exact relaunchesMuted.plays_launch passes codeOf
  opened task member _ _ := by rw [List.mem_singleton.1 member]

/-- The child that the launcher creates is the program. -/
theorem starts_mutedBorn : ∃ child : Task, child.pid = 101 ∧
    (⟨some 100, mutedReady, mutedBorn⟩ : Move).Starts 100 child child.start ∧
      child.start.args = [Bytes.ofString "inner", Bytes.ofString "/passes"] := by
  have seen : (mutedBorn.task? 101).map (fun task => (task.path, task.words, task.free? 0)) =
      some (Bytes.ofString "/utsbox", [Bytes.ofString "/utsbox", Bytes.ofString "inner",
        Bytes.ofString "/passes"], .ok 3) := by
    decide +kernel
  obtain ⟨child, found, same⟩ := Option.map_eq_some_iff.1 seen
  simp only [Prod.mk.injEq] at same
  obtain ⟨path, words, free⟩ := same
  have ready : Run Moves bootMuted (play (List.replicate 4 100) bootMuted).1 mutedReady :=
    Kernel.run_play (by decide +kernel)
  have coherent := Kernel.coherent_of_run coherent_bootMuted ready
  have births : Moves mutedReady ⟨some 100, mutedReady, mutedBorn⟩ mutedBorn :=
    Kernel.moves_acted (by decide +kernel)
  have bears : (⟨some 100, mutedReady, mutedBorn⟩ : Move).Bears 100 child :=
    ⟨rfl, Kernel.mem_of_task? found, (Kernel.task?_pid found).trans (by decide +kernel)⟩
  have single : ∀ task ∈ mutedReady.tasks, task.pid = 100 → ∀ next, task.process ≠ .fork next := by
    intro task member is next forks
    have plays := (abides_bootMuted.of_run ready).plays task member is
    rw [forks] at plays
    exact plays
  have files : mutedReady.files = bootInstalled.files := by rfl
  have installs : mutedReady.files.Installs child.path Sandbox.program := by
    rw [path, files]
    exact offers_bootInstalled.toInstalls
  exact ⟨child, Kernel.task?_pid found,
    ⟨bears, births.process_of_installs coherent bears single installs free⟩,
    by rw [Task.start, words]; rfl⟩

/-- The launch, and the child that passes its streams on to the command. -/
theorem exists_handover : ∃ (launch : Relaunch bootMuted (play mutedMoves bootMuted).1)
    (handover : launch.Handover), launch.stage = relaunchesMuted ∧
      launch.launcher = mutedLauncher ∧
      ∀ number handle, handover.LeavesAlone number handle := by
  obtain ⟨child, is, starts, args⟩ := starts_mutedBorn
  obtain ⟨target, isTarget⟩ : ∃ target, passingBorn.task? 102 = some target :=
    Option.isSome_iff_exists.1 (by decide +kernel)
  let launch : Relaunch bootMuted (play mutedMoves bootMuted).1 := {
    stage := relaunchesMuted
    command := passes
    code := codeOf
    launcher := mutedLauncher
    member := List.mem_singleton_self _
    launches := rfl
    earlier := (play (List.replicate 4 100) bootMuted).1
    birth := ⟨some 100, mutedReady, mutedBorn⟩
    later := (play (List.replicate 16 101) mutedBorn).1 ++
      ⟨some 101, passingReady, passingBorn⟩ :: (play afterPassing passingBorn).1
    child := child
    start := child.start
    inside := passes
    verbose := false
    whole := by
      rw [mutedMoves, Kernel.play_append, play, Kernel.play_append, play]
      rfl
    starts := starts
    args := args
    asks := ⟨⟨false, .inner, [Bytes.ofString "/passes"]⟩, args ▸ by decide +kernel, rfl,
      by decide +kernel⟩ }
  let handover : launch.Handover := {
    sooner := (play (List.replicate 16 101) mutedBorn).1
    birth := ⟨some 101, passingReady, passingBorn⟩
    later := (play afterPassing passingBorn).1
    target := target
    whole := rfl
    bears := ⟨congrArg some is.symm, Kernel.mem_of_task? isTarget,
      (Kernel.task?_pid isTarget).trans (by decide +kernel)⟩ }
  have sooner : ∀ move ∈ (play (List.replicate 4 100) bootMuted).1, move.mover? = some 100 := by
    decide +kernel
  have later : ∀ move ∈ (play (List.replicate 16 101) mutedBorn).1, move.mover? = some 101 := by
    decide +kernel
  refine ⟨launch, handover, rfl, rfl, fun number handle move isMove foreign => ?_⟩
  refine absurd ?_ foreign
  rcases List.mem_append.1 isMove with isEarlier | isLate
  · exact .inl (sooner move isEarlier)
  · rcases List.mem_cons.1 isLate with rfl | isLater
    · exact .inl rfl
    · rcases List.mem_append.1 isLater with isSooner | isBirth
      · exact .inr ⟨List.mem_append_left _ isSooner,
          (later move isSooner).trans (congrArg some is.symm)⟩
      · rw [List.mem_singleton.1 isBirth]
        exact .inr ⟨List.mem_append_right _ List.mem_cons_self, congrArg some is.symm⟩

end Machine

end HostnameSandbox

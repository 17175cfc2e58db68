import HostnameSandbox.Proofs.Namespaces.Agreement
import HostnameSandbox.Proofs.Streams.Bindings
import HostnameSandbox.Proofs.Supervision.Tending

/-!
# What the stages of a launch leave alone

A launcher starts the program again, for its inner stage.  The streams of the child are those of the
launcher or lead to the null device, as they are bound.  From then on both stages leave every open
file alone, but for what the child tells on its standard error.
-/

namespace HostnameSandbox

open Kernel (Moves Connects SameFile Abides)

/-- A call by which nothing is read and no file is opened or closed, and nothing is written but to
standard error. -/
def Call.OnlyTells : Call → Prop
  | .read _ _ | .openFile _ _ | .close _ | .duplicate _ _ | .connect _ _ | .pipe => False
  | .write descriptor _ => descriptor = Descriptor.error
  | _ => True

theorem Call.onlyTells_of_staging {manner : Manner} {request : Call} (only : manner.OnlyTells)
    (allowed : (staging manner).allows () request) : request.OnlyTells := by
  cases request with
  | write descriptor bytes => exact only descriptor allowed
  | read descriptor limit => cases allowed
  | openFile path mode => cases allowed
  | close descriptor => cases allowed
  | duplicate descriptor least => cases allowed
  | connect source target => cases allowed
  | pipe => cases allowed
  | _ => trivial

/-- A launcher writes nothing. -/
theorem OuterStage.plays_launch (stage : OuterStage) (command : Command)
    (code : Except Failure UInt8 → UInt8) : (stage.launch command code).Plays .mute := by
  have passes : (staging .mute).Passes Call.IsOuter () :=
    (staging_passes .mute).weaken fun request isOuter => by
      cases request <;> first | rfl | cases isOuter
  exact Process.keeps_bind
    (OuterStage.keeps_of_passes passes (fun _ => ⟨trivial, fun _ => rfl⟩) fun _ => trivial)

theorem Task.not_isWriting_of_mute {task : Task} (plays : task.process.Plays .mute) :
    ¬ task.isWriting := by
  intro writes
  unfold Task.isWriting at writes
  split at writes
  · next calls =>
      rw [calls] at plays
      exact plays.1
  · cases writes

/-- How a launcher ends that cares for its child. -/
def OuterStage.Returns (stage : OuterStage) (code : Except Failure UInt8 → UInt8) (value : UInt8)
    (supervisor : Supervisor) : Prop :=
  ∃ result, stage.Decides supervisor result ∧ value = code result

theorem OuterStage.cares_launch (stage : OuterStage) (command : Command)
    (code : Except Failure UInt8 → UInt8) :
    (stage.launch command code).Keeps (supervision (stage.MayStart command)) (stage.Returns code)
      .initial := by
  have able : ¬ Supervisor.initial.Hindered := by
    rintro (failed | ⟨name, same⟩)
    · cases failed
    · cases same
  exact Process.keeps_bind (keeps_run rfl able (fun path own isAt => ⟨path, isAt, rfl⟩)
    fun result after decides => ⟨result, decides, rfl⟩)

namespace Relaunch

variable {first last : Kernel} {trace : List Move}

/-- One of the two stages of a launch makes a move. -/
def IsMovedBy (launch : Relaunch first trace) (move : Move) : Prop :=
  move.mover? = some launch.launcher.pid ∨
    move ∈ launch.later ∧ move.mover? = some launch.child.pid

section Staging

variable (launch : Relaunch first trace)

/-! ### The launcher -/

theorem launcher_abides (coherent : first.Coherent) :
    Abides .mute launch.launcher.pid launch.launcher.opened first where
  coherent := coherent
  known := coherent.known launch.launcher launch.member
  plays task member is := by
    rw [coherent.eq_of_pid member launch.member is, launch.launches]
    exact launch.stage.plays_launch launch.command launch.code
  opened task member is _ := by rw [coherent.eq_of_pid member launch.member is]

section Running

variable (coherent : first.Coherent) (run : Run Moves first trace last)
include coherent run

/-- A launcher that creates a child has lived before. -/
theorem launcher_lives : launch.launcher.isAlive := by
  obtain ⟨sofar, births, -⟩ := Kernel.split_of_run (launch.whole ▸ run)
  obtain ⟨task, member, is⟩ := births.exists_mover launch.starts.mover
  have alive := births.isAlive_mover (Kernel.coherent_of_run coherent sofar) member
    (launch.starts.mover.trans (is ▸ rfl))
  have lives := Kernel.isAlive_of_run sofar (coherent.known launch.launcher launch.member)
    (Kernel.isAlive_iff.2 ⟨task, member, is, alive⟩)
  obtain ⟨earlier, isEarlier, same, alive⟩ := Kernel.isAlive_iff.1 lives
  rwa [← coherent.eq_of_pid isEarlier launch.member same]

theorem launcher_cares :
    Caring (launch.stage.MayStart launch.command) (launch.stage.Returns launch.code)
      launch.launcher.pid .initial first where
  coherent := coherent
  known := coherent.known launch.launcher launch.member
  keeps task member is := by
    rw [coherent.eq_of_pid member launch.member is, launch.launches]
    exact launch.stage.cares_launch launch.command launch.code
  exits task member is code ended := by
    have lives := launch.launcher_lives coherent run
    obtain rfl := coherent.eq_of_pid member launch.member is
    simp [Task.isAlive, ended] at lives

/-- The child of a launcher is connected as the launcher has asked for it. -/
theorem child_connects :
    Connects launch.launcher launch.stage.streams launch.child launch.birth.after := by
  obtain ⟨sofar, births, -⟩ := Kernel.split_of_run (launch.whole ▸ run)
  have abides := (launch.launcher_abides coherent).of_run sofar
  obtain ⟨state, cares⟩ := (launch.launcher_cares coherent run).of_run sofar
  obtain ⟨task, member, is, spawning, next, spawns, connects⟩ :=
    abides.bears births launch.starts.toBears
  have now := cares.keeps task member is
  rw [spawns] at now
  obtain ⟨-, -, -, path, -, rfl⟩ := now.1
  refine connects.of_caller (abides.opened task member is ?_).symm
  exact births.isAlive_mover abides.coherent member (launch.starts.mover.trans (is ▸ rfl))

/-! ### The child -/

theorem child_abides : Abides .telling launch.child.pid launch.child.opened launch.birth.after := by
  obtain ⟨sofar, births, -⟩ := Kernel.split_of_run (launch.whole ▸ run)
  have after := births.coherent (Kernel.coherent_of_run coherent sofar)
  refine ⟨after, after.known launch.child launch.starts.member, fun task member is => ?_,
    fun task member is _ => ?_⟩
  · rw [after.eq_of_pid member launch.starts.member is, launch.starts.process]
    obtain ⟨request, read, -, -⟩ := launch.asks
    exact Sandbox.plays_of_read read rfl (fun _ _ _ => trivial) fun _ _ => trivial
  · rw [after.eq_of_pid member launch.starts.member is]

theorem child_cares : Caring (Sandbox.MayStart launch.start) (Sandbox.Decides launch.start)
    launch.child.pid .initial launch.birth.after := by
  obtain ⟨sofar, births, -⟩ := Kernel.split_of_run (launch.whole ▸ run)
  have before := Kernel.coherent_of_run coherent sofar
  have after := births.coherent before
  obtain ⟨task, member, fresh, is, newborn, -⟩ := births.born before launch.starts.toBears
  refine ⟨after, after.known launch.child launch.starts.member, fun found isFound same => ?_,
    fun found isFound same code ended => ?_⟩
  · rw [after.eq_of_pid isFound launch.starts.member same, launch.starts.process]
    exact Sandbox.keeps_program launch.start
  · have alive := births.isAlive_mover before member (launch.starts.mover.trans (is ▸ rfl))
    rw [after.eq_of_pid isFound launch.starts.member same, newborn.ending] at ended
    simp [Task.isAlive, ended] at alive

/-! ### What the stages leave alone -/

section Moving

variable {move : Move} {task : Task}

theorem launcher_at (isMove : move ∈ trace) : Moves move.before move move.after ∧
    Abides .mute launch.launcher.pid launch.launcher.opened move.before ∧
      first.KeepsHandles (fun _ => True) move.before := by
  obtain ⟨earlier, later, rfl⟩ := List.append_of_mem isMove
  obtain ⟨sofar, moves, -⟩ := Kernel.split_of_run run
  exact ⟨moves, (launch.launcher_abides coherent).of_run sofar, Kernel.keepsHandles_of_run sofar⟩

theorem child_at (isMove : move ∈ launch.later) : Moves move.before move move.after ∧
    Abides .telling launch.child.pid launch.child.opened move.before ∧
      launch.birth.after.KeepsHandles (fun _ => True) move.before := by
  obtain ⟨-, -, later⟩ := Kernel.split_of_run (launch.whole ▸ run)
  obtain ⟨sooner, rest, whole⟩ := List.append_of_mem isMove
  obtain ⟨sofar, moves, -⟩ := Kernel.split_of_run (whole ▸ later)
  exact ⟨moves, (launch.child_abides coherent run).of_run sofar, Kernel.keepsHandles_of_run sofar⟩

/-- Whoever of the two stages makes a move plays its stage, and writes to its standard error only. -/
theorem abides_of_isMovedBy (isMove : move ∈ trace) (moved : launch.IsMovedBy move)
    (mine : move.mover? = some task.pid) : Moves move.before move move.after ∧
      ∃ manner files, manner.OnlyTells ∧ Abides manner task.pid files move.before := by
  rcases moved with isLauncher | ⟨isLater, isChild⟩
  · obtain ⟨moves, abides, -⟩ := launch.launcher_at coherent run isMove
    have is : task.pid = launch.launcher.pid := Option.some.inj (mine.symm.trans isLauncher)
    exact ⟨moves, .mute, _, Manner.onlyTells_mute, is ▸ abides⟩
  · obtain ⟨moves, abides, -⟩ := launch.child_at coherent run isLater
    have is : task.pid = launch.child.pid := Option.some.inj (mine.symm.trans isChild)
    exact ⟨moves, .telling, _, Manner.onlyTells_telling, is ▸ abides⟩

/-- What a child tells goes nowhere if its standard error is bound to the null device. -/
theorem sinkOf_child_null (silent : launch.stage.streams.error = .null)
    (isMove : move ∈ launch.later) (member : task ∈ move.before.tasks)
    (mine : move.mover? = some task.pid) (is : task.pid = launch.child.pid) :
    move.before.sinkOf task = .null := by
  obtain ⟨moves, abides, keeps⟩ := launch.child_at coherent run isMove
  have opened := abides.opened task member is (moves.isAlive_mover abides.coherent member mine)
  have binds : (Descriptor.error, .null) ∈ launch.stage.streams.bindings := by
    simp [Streams.bindings, silent]
  obtain ⟨number, offset, found, leads⟩ :=
    ((launch.child_connects coherent run).lost Descriptor.error binds).of_keeps keeps
      (show task.find? Descriptor.error = launch.child.find? Descriptor.error by
        rw [Task.find?, opened, Task.find?])
  simp [Kernel.sinkOf, Kernel.handle?, found, leads]

/-- A child that shares the launcher's standard error tells things where the launcher would. -/
theorem child_logsTo {sink : Channel} (logs : first.LogsTo launch.launcher sink)
    (shares : launch.stage.streams.error = .inherit) :
    launch.birth.after.LogsTo launch.child sink := by
  obtain ⟨sofar, births, -⟩ := Kernel.split_of_run (launch.whole ▸ run)
  have binds : (Descriptor.error, .inherit) ∈ launch.stage.streams.bindings := by
    simp [Streams.bindings, shares]
  refine logs.of_keeps (Kernel.keepsHandles_of_run (.next sofar births)) ?_
  rw [(launch.child_connects coherent run).own Descriptor.error binds]
  refine Task.passed?_eq_find? fun entry found => ?_
  rw [Kernel.LogsTo, found] at logs
  exact logs.1

/-- What stages tell is met only where it would be met that the launcher tells something. -/
theorem not_joins_of_isMovedBy {sink channel : Channel} (logs : first.LogsTo launch.launcher sink)
    (apart : ¬ channel.Joins sink) (isMove : move ∈ trace) (moved : launch.IsMovedBy move)
    (member : task ∈ move.before.tasks) (mine : move.mover? = some task.pid) :
    ¬ channel.Joins (move.before.sinkOf task) := by
  rcases moved with isLauncher | ⟨isLater, isChild⟩
  · obtain ⟨moves, abides, keeps⟩ := launch.launcher_at coherent run isMove
    have is : task.pid = launch.launcher.pid := Option.some.inj (mine.symm.trans isLauncher)
    have opened := abides.opened task member is (moves.isAlive_mover abides.coherent member mine)
    have now : move.before.LogsTo task sink := logs.of_keeps keeps (by
      rw [Task.find?, opened, Task.find?])
    rwa [now.sinkOf]
  · have is : task.pid = launch.child.pid := Option.some.inj (mine.symm.trans isChild)
    cases binding : launch.stage.streams.error with
    | null =>
        rw [launch.sinkOf_child_null coherent run binding isLater member mine is]
        exact id
    | inherit =>
        obtain ⟨moves, abides, keeps⟩ := launch.child_at coherent run isLater
        have opened := abides.opened task member is (moves.isAlive_mover abides.coherent member mine)
        have now : move.before.LogsTo task sink :=
          (launch.child_logsTo coherent run logs binding).of_keeps keeps (by
            rw [Task.find?, opened, Task.find?])
        rwa [now.sinkOf]

/-- By a move of a stage an open file stays as it is that leads elsewhere than its standard
error. -/
theorem sameFile_of_isMovedBy {number : Nat} {handle : Handle} (isMove : move ∈ trace)
    (moved : launch.IsMovedBy move) (member : task ∈ move.before.tasks)
    (mine : move.mover? = some task.pid) (found : move.before.handles[number]? = some handle)
    (apart : ¬ handle.channel.Joins (move.before.sinkOf task)) :
    SameFile number handle move.before move.after := by
  obtain ⟨moves, manner, files, only, abides⟩ :=
    launch.abides_of_isMovedBy coherent run isMove moved mine
  exact moves.sameFile abides.coherent member mine only (abides.plays task member rfl) found apart

end Moving

end Running

end Staging

end Relaunch

end HostnameSandbox

import HostnameSandbox.Proofs.Process.Mirror
import HostnameSandbox.Proofs.Supervision.Stages

/-!
# Launching without namespaces is executing

Where no namespaces are asked for, the outer stage does what a runner does with the command line
that starts the program again: both listen to the same signals, create the same child or fail to for
the same cause, wait for it alike and take the same over from it.  They differ in what they report
on the way, and in what they call the failure to create the child.
-/

namespace HostnameSandbox

/-- A failure to create a child, as the outer stage tells about it. -/
def Failure.asLaunch : Failure → Failure
  | .spawn label cause => .launch label cause
  | failure => failure

open Process (Mirrors)

variable {Like : Spawning → Spawning → Prop}

/-- Waiting for a child mirrors itself. -/
theorem mirrors_awaitChild {Same : Except Failure UInt8 → Except Failure UInt8 → Prop}
    (child : Pid) (label : String)
    (same : ∀ status, Same (concluded label status) (concluded label status)) :
    Mirrors Like Same (awaitChild child label).run (awaitChild child label).run := by
  refine .call _ fun _ => .loop (Relay.turn child) trivial fun status => ?_
  cases status with
  | exited code => exact .call _ fun _ => .done (same (.exited code))
  | killed signal => exact .call _ fun _ => .done (same (.killed signal))

namespace OuterStage

variable {path : Bytes} {streams : Streams} {verbose : Bool} {command again : Command}

/-- The outer stage that starts a program in the namespaces that it is in itself. -/
def unisolated (path : Bytes) (streams : Streams) (verbose : Bool) : OuterStage :=
  ⟨.path path, .none, streams, verbose⟩

/-- Without namespaces the outer stage mirrors the runner of its command line. -/
theorem mirrors_execute (isPath : again.program = path)
    (areArgs : again.args = (unisolated path streams verbose).arguments command) :
    Mirrors Eq (fun launched executed => launched = executed.mapError Failure.asLaunch)
      ((unisolated path streams verbose).run command).run
      (Runner.execute ⟨streams⟩ again).run := by
  have sameRequest : (unisolated path streams verbose).spawning path command =
      Runner.spawning ⟨streams⟩ again := by
    rw [Runner.spawning, isPath, areArgs]
    rfl
  subst isPath
  refine .report _ (.reportToo _ ?_)
  refine .call _ fun _ => .call _ fun _ => ?_
  refine .spawn sameRequest fun reply => ?_
  cases reply with
  | error cause => exact .done rfl
  | ok child =>
      refine .report _ (mirrors_awaitChild child _ fun status => ?_)
      cases status <;> rfl

theorem eq_of_forall₂_alike (equal : ∀ {spawning other}, Like spawning other → spawning = other)
    {talk other : List Exchange} (alike : List.Forall₂ (Exchange.Alike Like) talk other) :
    talk = other := by
  rw [← List.forall₂_eq_eq_eq]
  refine alike.imp fun exchange another same => ?_
  cases same with
  | same => rfl
  | spawn like reply => rw [equal like]

/-- Every child that an outer stage creates, or fails to create, is asked for in one way. -/
theorem eq_spawning_of_makes {stage : OuterStage} (place : stage.executable = .path path)
    {talk : List Exchange} (makes : (stage.run command).run.Makes talk) {spawning : Spawning}
    {reply : Except Cause Pid} (asked : ⟨.spawn spawning, reply⟩ ∈ talk) :
    spawning = stage.spawning path command := by
  obtain ⟨whole, after, run, rfl⟩ := makes
  have able : ¬ Supervisor.initial.Hindered := by
    rintro (failed | ⟨name, same⟩)
    · cases failed
    · cases same
  have keeps : (stage.run command).run.Keeps
      (supervision fun _ spawning => spawning = stage.spawning path command) (fun _ _ => True)
      .initial := by
    refine keeps_run rfl able (fun other own isAt => ?_) fun _ _ _ => trivial
    rw [place] at isAt
    rw [show other = path from isAt]
  obtain ⟨reached, allowed⟩ := keeps.allows_of_mem run (List.mem_of_mem_filter asked)
  exact allowed.2.2.2

end OuterStage

/-- What launching a program and executing a command have in common, where both ask for the child
`spawning`: the calls that they make, finished or not, and the results that they come to. -/
structure LaunchesAsExecuted (launch execute : Process (Except Failure UInt8))
    (spawning : Spawning) : Prop where
  makes_iff : ∀ talk, launch.Makes talk ↔ execute.Makes talk
  /-- The child of either, which the host may create or refuse, is asked for in the same way. -/
  asks : ∀ {talk other reply}, launch.Makes talk ∨ execute.Makes talk →
    ⟨.spawn other, reply⟩ ∈ talk → other = spawning
  /-- Only a failure to create the child is told in another way, with the same label and cause. -/
  comesTo_iff : ∀ talk launched, launch.ComesTo talk launched ↔
    ∃ executed, execute.ComesTo talk executed ∧ launched = executed.mapError Failure.asLaunch

namespace OuterStage

/-- Launching a program without namespaces is executing its command line, for every path that a
command may have, whatever the host answers. -/
theorem launchesAsExecuted {path : Bytes} (nonempty : path ≠ []) (noNul : (0 : UInt8) ∉ path)
    (streams : Streams) (verbose : Bool) (command : Command) :
    let stage := unisolated path streams verbose
    LaunchesAsExecuted (stage.run command).run
      (Runner.execute ⟨streams⟩ ⟨path, stage.arguments command, nonempty, noNul⟩).run
      ⟨path, stage.arguments command, streams, .none, startingReactions .none⟩ := by
  intro stage
  let again : Command := ⟨path, stage.arguments command, nonempty, noNul⟩
  have mirrors : Mirrors Eq (fun launched executed => launched = executed.mapError Failure.asLaunch)
      (stage.run command).run (Runner.execute ⟨streams⟩ again).run := mirrors_execute rfl rfl
  have makes_iff : ∀ talk, (stage.run command).run.Makes talk ↔
      (Runner.execute ⟨streams⟩ again).run.Makes talk := by
    intro talk
    constructor
    · intro makes
      obtain ⟨made, makesToo, alike⟩ := mirrors.makes makes
      exact eq_of_forall₂_alike id alike ▸ makesToo
    · intro makes
      obtain ⟨made, makesToo, alike⟩ := mirrors.symm.makes makes
      exact eq_of_forall₂_alike Eq.symm alike ▸ makesToo
  refine ⟨makes_iff, ?_, ?_⟩
  · rintro talk other reply (makes | makes) asked
    · exact eq_spawning_of_makes rfl makes asked
    · exact eq_spawning_of_makes rfl ((makes_iff talk).2 makes) asked
  · intro talk launched
    constructor
    · intro comes
      obtain ⟨made, executed, comesToo, same, alike⟩ := mirrors.comesTo comes
      exact ⟨executed, eq_of_forall₂_alike id alike ▸ comesToo, same⟩
    · rintro ⟨executed, comes, rfl⟩
      obtain ⟨made, launched, comesToo, same, alike⟩ := mirrors.symm.comesTo comes
      rw [same] at comesToo
      exact eq_of_forall₂_alike Eq.symm alike ▸ comesToo

/-- A missing program fails to be launched and to be executed, after the same calls. -/
theorem launchesAsExecuted_missing :
    let command : Command := ⟨[0x61], [[0x62]], by decide, by decide⟩
    let stage := unisolated [0x78] .inherited true
    let again : Command := ⟨[0x78], stage.arguments command, by decide, by decide⟩
    let cause : Cause := .numbered .noEntry
    ∃ talk, (stage.run command).run.ComesTo talk (.error (.launch "x" cause)) ∧
      (Runner.inherited.execute again).run.ComesTo talk (.error (.spawn "x" cause)) ∧
      LaunchesAsExecuted (stage.run command).run (Runner.inherited.execute again).run
        ⟨[0x78], stage.arguments command, .inherited, .none, startingReactions .none⟩ := by
  intro command stage again cause
  have label : Bytes.lossy [0x78] = "x" := by decide
  have nonempty : ([0x78] : Bytes) ≠ [] := by decide
  have noNul : (0 : UInt8) ∉ ([0x78] : Bytes) := by decide
  let talk : List Exchange :=
    [⟨.react .terminate .caught, .standard⟩, ⟨.react .hangup .caught, .standard⟩,
      ⟨.spawn (stage.spawning [0x78] command), .error cause⟩]
  refine ⟨talk, ?_, ?_, launchesAsExecuted nonempty noNul .inherited true command⟩
  · rw [← label]
    exact ⟨⟨.report (.launching command), ()⟩ :: talk, .cons (.call _ _ _) <| .cons (.call _ _ _) <|
      .cons (.call _ _ _) <| .cons (.call _ _ _) .start, rfl⟩
  · rw [← label]
    exact ⟨⟨.report (.executing again), ()⟩ :: talk, .cons (.call _ _ _) <| .cons (.call _ _ _) <|
      .cons (.call _ _ _) <| .cons (.call _ _ _) .start, rfl⟩

end OuterStage

end HostnameSandbox

import HostnameSandbox.Proofs.CommandLine.RoundTrip
import HostnameSandbox.Proofs.Family.Quiet

/-!
# How an end reaches the first process

In a quiet family, every stage that is not struck takes the end of its child over, so that the
end of any process reaches the first one, however many generations lie between them.
-/

namespace HostnameSandbox

namespace Family

/-- A process that comes from a first one after so many generations. -/
inductive Generation (family : Family) (root : Pid) : Nat → Pid → Prop
  | root : Generation family root 0 root
  | child {number : Nat} {pid child : Pid} (parent : family.ParentOf pid child)
      (above : Generation family root number pid) : Generation family root (number + 1) child

/-- None of the first so many generations was struck. -/
def Spared (family : Family) (root : Pid) (trace : List Happening) (generations : Nat) : Prop :=
  ∀ number pid signal, number < generations → family.Generation root number pid →
    .struck pid signal ∉ trace

/-- A stage that plays an invocation. -/
def Acts (family : Family) (pid : Pid) (invocation : Invocation) : Prop :=
  ∃ start listener verbose, family.Plays pid start listener ∧ start.Asks invocation verbose

/-- A process that has exited with a status. -/
def ExitedWith (family : Family) (pid : Pid) (status : Int) : Prop :=
  ∃ code, family.EndedAs pid (.exited code) ∧ (code.toNat : Int) = status

variable {itself : Bytes → Bool} {root pid child : Pid} {family : Family}
  {trace : List Happening} {start begun : Start} {listener other : Listener UInt8}
  {status : ExitStatus} {number : Nat} {invocation : Invocation}

theorem Plays.unique (plays : family.Plays pid start listener)
    (playsToo : family.Plays pid begun other) : start = begun ∧ listener = other := by
  obtain ⟨member, present, role⟩ := plays
  obtain ⟨same, presentToo, roleToo⟩ := playsToo
  cases present.symm.trans presentToo
  cases role.symm.trans roleToo
  exact ⟨rfl, rfl⟩

theorem EndedAs.unique {also : ExitStatus} (ended : family.EndedAs pid status)
    (endedToo : family.EndedAs pid also) : status = also := by
  obtain ⟨member, present, ending⟩ := ended
  obtain ⟨same, presentToo, endingToo⟩ := endedToo
  cases present.symm.trans presentToo
  exact Option.some.inj (ending.symm.trans endingToo)

theorem Spared.mono {fewer : Nat} (spared : family.Spared root trace number)
    (le : fewer ≤ number) : family.Spared root trace fewer :=
  fun other pid signal less => spared other pid signal (Nat.lt_of_lt_of_le less le)

theorem Sound.parentOf_of_created (sound : Sound itself root family)
    (plays : family.Plays pid start listener) (created : listener.duty.created? = some child) :
    family.ParentOf pid child := by
  have inTalk : child ∈ createdIn listener.talk := by
    rw [(sound.supervised plays).created]
    exact Option.mem_toList.2 created
  obtain ⟨exchange, made, isCreated⟩ := List.mem_filterMap.1 inTalk
  cases deed : exchange.deed with
  | created spawning number =>
      rw [deed] at isCreated
      cases isCreated
      exact sound.child plays made deed
  | _ =>
      rw [deed] at isCreated
      cases isCreated

/-- A child of a stage was started from what the stage may start it from. -/
theorem Sound.startedFrom (sound : Sound itself root family)
    (plays : family.Plays pid start listener) (parent : family.ParentOf pid child) :
    ∃ exchange spawning member, exchange ∈ listener.talk ∧
      exchange.deed = .created spawning child ∧
      Sandbox.MayStart start listener.supervisor.own spawning ∧ family child = some member ∧
      member.StartedFrom itself start.environment spawning := by
  obtain ⟨member, present, isParent⟩ := parent
  obtain ⟨begun, other, exchange, spawning, playsToo, made, created, started⟩ :=
    sound.parent present isParent
  obtain ⟨rfl, rfl⟩ := plays.unique playsToo
  exact ⟨exchange, spawning, member, made, created,
    (sound.supervised plays).started exchange made spawning child created, present, started⟩

namespace Quiet

theorem decides (quiet : Quiet itself root trace family)
    (plays : family.Plays pid start listener) (ended : family.EndedAs pid status)
    (unstruck : ∀ signal, .struck pid signal ∉ trace) :
    ∃ code, status = .exited code ∧ Sandbox.Decides start code listener.supervisor := by
  obtain ⟨member, present, role⟩ := plays
  obtain ⟨same, presentToo, ending⟩ := ended
  cases present.symm.trans presentToo
  rcases (quiet.ended present ending).stage role with ⟨code, rfl, done⟩ | ⟨signal, -, struck⟩
  · have keeps := (quiet.sound.supervised ⟨member, present, role⟩).keeps
    rw [done] at keeps
    exact ⟨code, rfl, keeps⟩
  · exact absurd struck (unstruck signal)

theorem possible (quiet : Quiet itself root trace family) (ended : family.EndedAs pid status) :
    status.IsPossible := by
  obtain ⟨member, present, ending⟩ := ended
  exact (quiet.ended present ending).possible

/-- A stage that was not struck ends after its child, and takes its status over. -/
theorem takes_over (quiet : Quiet itself root trace family)
    (parent : family.ParentOf pid child) (ended : family.EndedAs pid status)
    (unstruck : ∀ signal, .struck pid signal ∉ trace) :
    ∃ last, family.EndedAs child last ∧
      family.ExitedWith pid (Outcome.ended last).status := by
  obtain ⟨start, listener, plays, created⟩ := quiet.sound.created_of_parentOf parent
  obtain ⟨code, rfl, decides⟩ := quiet.decides plays ended unstruck
  have idle : listener.duty.child? = none := decides.child?_eq_none
  cases duty : listener.duty with
  | settled other last =>
      rw [duty] at created
      cases created
      have endedToo := quiet.sound.told plays duty
      exact ⟨last, endedToo, code, ended, decides.toNat_eq duty (quiet.possible endedToo)⟩
  | tending other =>
      rw [duty] at idle
      cases idle
  | serving other signal =>
      rw [duty] at idle
      cases idle
  | free =>
      rw [duty] at created
      cases created
  | refused cause =>
      rw [duty] at created
      cases created

/-- Once the first process has ended, so has every other one, unless some stage between them was
struck. -/
theorem ended_of_generation (quiet : Quiet itself root trace family)
    (above : family.Generation root number pid) (spared : family.Spared root trace number)
    (ended : family.EndedAs root status) : ∃ last, family.EndedAs pid last := by
  induction above with
  | root => exact ⟨status, ended⟩
  | child parent above hypothesis =>
      obtain ⟨last, endedToo⟩ := hypothesis (spared.mono (Nat.le_succ _))
      obtain ⟨first, endedFirst, -⟩ := quiet.takes_over parent endedToo
        fun signal => spared _ _ signal (Nat.lt_succ_self _) above
      exact ⟨first, endedFirst⟩

/-- The status of the first process is that of any other one that has ended, unless some stage
between them was struck. -/
theorem status_of_generation (quiet : Quiet itself root trace family) {last : ExitStatus}
    (above : family.Generation root number pid) (spared : family.Spared root trace number)
    (ended : family.EndedAs root status) (endedLast : family.EndedAs pid last) :
    (Outcome.ended status).status = (Outcome.ended last).status := by
  induction above generalizing last with
  | root => rw [ended.unique endedLast]
  | child parent above hypothesis =>
      have spared' := spared.mono (Nat.le_succ _)
      obtain ⟨between, endedBetween⟩ := quiet.ended_of_generation above spared' ended
      obtain ⟨first, endedFirst, code, exited, same⟩ := quiet.takes_over parent endedBetween
        fun signal => spared _ _ signal (Nat.lt_succ_self _) above
      rw [endedLast.unique endedFirst, ← same]
      exact hypothesis spared' exited

theorem exitedWith_of_generation (quiet : Quiet itself root trace family) {last : ExitStatus}
    {code : UInt8} (above : family.Generation root number pid)
    (spared : family.Spared root trace number) (exited : family.EndedAs root (.exited code))
    (ended : family.EndedAs pid last) :
    family.ExitedWith root (Outcome.ended last).status :=
  ⟨code, exited, quiet.status_of_generation above spared exited ended⟩

/-- A child of a stage was started from what the stage may start it from. -/
theorem startedFrom (quiet : Quiet itself root trace family)
    (acts : family.Acts pid invocation) (parent : family.ParentOf pid child) :
    ∃ verbose own spawning member environment, invocation.MayStart verbose own spawning ∧
      (∀ path, own = some path → itself path = true) ∧ family child = some member ∧
      member.StartedFrom itself environment spawning := by
  obtain ⟨start, listener, verbose, plays, asks⟩ := acts
  obtain ⟨exchange, spawning, member, -, -, ⟨same, also, asksToo, mayStart⟩, present, started⟩ :=
    quiet.sound.startedFrom plays parent
  obtain ⟨rfl, rfl⟩ := asks.unique asksToo
  exact ⟨verbose, _, spawning, member, start.environment, mayStart,
    fun path told => quiet.own plays told, present, started⟩

/-- The child of an outer stage plays the inner one for the same command, if that is read
back. -/
theorem acts_inner (quiet : Quiet itself root trace family) {command : Command}
    (acts : family.Acts pid ⟨.outer, command⟩) (parent : family.ParentOf pid child)
    (back : ∀ stage : OuterStage, stage.ReadsBack command) :
    family.Acts child ⟨.inner, command⟩ := by
  obtain ⟨verbose, own, spawning, member, environment, ⟨path, told, rfl⟩, found, present,
    started⟩ := quiet.startedFrom acts parent
  have isItself : itself ((OuterStage.ofRunning.withVerbose verbose).spawning path command).path :=
    found path told
  unfold Member.StartedFrom at started
  rw [if_pos isItself] at started
  obtain ⟨listener, role⟩ := started
  obtain ⟨request, read, -, invoked⟩ := back (OuterStage.ofRunning.withVerbose verbose)
  exact ⟨_, listener, request.verbose, ⟨member, present, role⟩, request, read, rfl, invoked⟩

theorem startedFrom_command (quiet : Quiet itself root trace family) {command : Command}
    (acts : family.Acts pid ⟨.inner, command⟩) (parent : family.ParentOf pid child) :
    ∃ member environment, family child = some member ∧ member.StartedFrom itself environment
      (InnerStage.standard.runner.spawning command) := by
  obtain ⟨verbose, own, spawning, member, environment, rfl, -, present, started⟩ :=
    quiet.startedFrom acts parent
  exact ⟨member, environment, present, started⟩

/-- The child of an inner stage plays the outer one, if the command is to start the program so. -/
theorem acts_outer (quiet : Quiet itself root trace family) {command within : Command}
    {verbose : Bool} (acts : family.Acts pid ⟨.inner, command⟩)
    (parent : family.ParentOf pid child) (isItself : itself command.program = true)
    (asks : ∀ environment,
      Start.Asks ⟨command.program, command.args, environment⟩ ⟨.outer, within⟩ verbose) :
    family.Acts child ⟨.outer, within⟩ := by
  obtain ⟨member, environment, present, started⟩ := quiet.startedFrom_command acts parent
  have isItself : itself (InnerStage.standard.runner.spawning command).path := isItself
  unfold Member.StartedFrom at started
  rw [if_pos isItself] at started
  obtain ⟨listener, role⟩ := started
  exact ⟨_, listener, verbose, ⟨member, present, role⟩, asks environment⟩

end Quiet

end Family

end HostnameSandbox

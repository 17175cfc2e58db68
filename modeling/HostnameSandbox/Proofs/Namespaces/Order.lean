import HostnameSandbox.Host.Machine
import HostnameSandbox.Proofs.Namespaces.Knowledge

/-!
# The order of an inner stage

Whatever happens to an inner stage, its effects come about in their order, each only after all
before it have succeeded.  The stage changes no name but that of its own namespace, which is not
its parent's, and starts its command only where the host name is the one that was asked for.
-/

namespace HostnameSandbox

open Moment

namespace Plan.Effects

variable {plan : Plan} {own parent : Pid} {effects : List Exchange}

theorem requests (done : plan.Effects own parent effects) :
    effects.map Exchange.request <+: plan.calls own parent := by
  cases done with
  | none => exact List.nil_prefix
  | _ => simp [calls]

/-- All effects but the last one have succeeded. -/
theorem succeeded (done : plan.Effects own parent effects) :
    ∀ exchange ∈ effects.dropLast, ¬ exchange.Fails := by
  cases done <;> simp [Exchange.Fails]

theorem distinct (done : plan.Effects own parent effects) (many : 2 < effects.length) :
    ∃ link other later, effects =
      ⟨.namespaceOf own, .ok link⟩ :: ⟨.namespaceOf parent, .ok other⟩ :: later ∧ link ≠ other := by
  cases done with
  | none => simp at many
  | own first => simp at many
  | parent link second => simp at many
  | named distinct third => exact ⟨_, _, _, rfl, distinct⟩
  | created distinct last => exact ⟨_, _, _, rfl, distinct⟩

end Plan.Effects

/-- What an inner stage does about namespaces and names, as far as it has come. -/
structure InnerStage.Ordered (stage : InnerStage) (command : Command) (pid : Pid)
    (first : Kernel) (trace : List Moment) (last : Process (Except Failure UInt8) × Kernel) :
    Prop where
  /-- The effects come in their order, and the parent whose link is read is the process's. -/
  requests : ∃ parent,
    (effectsOf trace).map Exchange.request <+: (stage.plan command).calls pid parent ∧
      (1 < (effectsOf trace).length →
        ∃ moment ∈ trace, moment.exchange? = some ⟨.parentPid, parent⟩ ∧
          moment.before.parent? pid = some parent)
  succeeded : ∀ exchange ∈ (effectsOf trace).dropLast, ¬ exchange.Fails
  distinct : 2 < (effectsOf trace).length →
    ∃ parent link other later, effectsOf trace =
      ⟨.namespaceOf pid, .ok link⟩ :: ⟨.namespaceOf parent, .ok other⟩ :: later ∧ link ≠ other
  /-- If the namespace could not be set up, no child was asked for and the stage has changed no
  name, so that all names are as before unless others have changed them. -/
  refused : ∀ fault, last.1 = .done (.error (.namespaceSetup fault)) →
    (∀ spawning reply, ⟨.spawn spawning, reply⟩ ∉ effectsOf trace) ∧
      (∀ moment ∈ trace, moment.exchange?.isSome → moment.after.names = moment.before.names) ∧
      ((∀ moment ∈ trace, moment.exchange?.isSome) → last.2.names = first.names)
  unreadable : ∀ other errno, ⟨.namespaceOf other, .error errno⟩ ∈ effectsOf trace →
    ∃ fault, last.1 = .done (.error (.namespaceSetup fault))
  /-- The stage changes no names but those of its own namespace. -/
  frame : ∀ moment ∈ trace, moment.exchange?.isSome → ∀ number,
    moment.before.space? pid ≠ some number →
      moment.after.names[number]? = moment.before.names[number]?
  /-- The stage changes no names of the namespace that its parent is in. -/
  apart : Undisturbed pid trace → ∀ moment ∈ trace, moment.exchange?.isSome →
    ∀ parent number, moment.before.parent? pid = some parent →
      moment.before.space? parent = some number →
        moment.after.names[number]? = moment.before.names[number]?
  /-- A child is asked for only where the host name is the one that was asked for, and begins in
  the same namespace. -/
  named : Undisturbed pid trace → ∀ moment ∈ trace, ∀ spawning reply,
    moment.exchange? = some ⟨.spawn spawning, reply⟩ →
      moment.before.hostname? pid = some (stage.plan command).name ∧
        ∀ child, reply = .ok child → ∃ target ∈ moment.after.tasks,
          target.pid = child ∧ moment.before.space? pid = some target.uts ∧
            moment.after.nameOf? target.uts = some (stage.plan command).name

/-- How an inner stage comes to an end. -/
def InnerStage.Ends (result : Except Failure UInt8) (state : Preparation) : Prop :=
  ((∃ fault, result = .error (.namespaceSetup fault)) ∧ state.Unnamed) ∨
    (state.Able ∧ ∀ fault, result ≠ .error (.namespaceSetup fault))

section Ordering

variable {stage : InnerStage} {command : Command} {pid : Pid} {first : Kernel}
  {trace : List Moment} {last : Process (Except Failure UInt8) × Kernel}

theorem InnerStage.prepares (stage : InnerStage) (command : Command) :
    (stage.run command).run.Keeps (preparation (stage.plan command) false) Ends .initial :=
  prepares_run (fun fault _ _ unnamed => .inl ⟨⟨fault, rfl⟩, unnamed⟩)
    fun _ _ able other => .inr ⟨able, other⟩

/-- A stage that keeps no log does nothing but prepare its namespace and wait. -/
theorem effects_of_run
    (run : Run (Proceeds pid) ((stage.run command).run, first) trace last) :
    (Preparation.of (talkOf trace)).effects = effectsOf trace := by
  induction run with
  | start => rfl
  | @next trace moment between last run proceeds hypothesis =>
      rw [effectsOf_concat, talkOf_concat]
      cases proceeds with
      | others spares => simpa using hypothesis
      | @own process next kernel after exchange step answers =>
          rw [Option.toList_some, Preparation.of_concat, ← hypothesis]
          obtain ⟨-, -, allowed⟩ := ((keeps_of_run (stage.prepares command) run).step step).1
          obtain ⟨request, reply⟩ := exchange
          cases request with
          | write descriptor bytes => cases allowed
          | openLog filter => cases allowed
          | report event => exact (List.append_nil _).symm
          | ownPid => exact (List.append_nil _).symm
          | parentPid => exact (List.append_nil _).symm
          | react signal reaction => exact (List.append_nil _).symm
          | select child signals => exact (List.append_nil _).symm
          | send child signal => exact (List.append_nil _).symm
          | _ => rfl

/-- The effects come about in their order, for the process and its parent. -/
theorem exists_effects_of_run
    (run : Run (Proceeds pid) ((stage.run command).run, first) trace last) :
    ∃ parent, (stage.plan command).Effects pid parent (effectsOf trace) ∧
      (1 < (effectsOf trace).length → (Preparation.of (talkOf trace)).parent = some parent) := by
  have orderly := orderly_of_run (stage.prepares command) run
  rw [Preparation.Orderly, effects_of_run run] at orderly
  obtain ⟨own, parent, done, knowsOwn, knowsParent⟩ := orderly
  refine ⟨parent, ?_, knowsParent⟩
  cases begun : effectsOf trace with
  | nil => exact .none
  | cons effect effects =>
      rw [begun] at done knowsOwn
      rwa [own_of_run run (knowsOwn (by simp))] at done

/-- At every moment, the stage leaves the names as they are, or gives its namespace the name. -/
theorem names_of_run {moment : Moment} {exchange : Exchange} {earlier later : List Moment}
    (run : Run (Proceeds pid) ((stage.run command).run, first) (earlier ++ moment :: later) last)
    (made : moment.exchange? = some exchange) :
    moment.after.names = moment.before.names ∨
      ∃ task names, moment.before.task? pid = some task ∧
        moment.after.names = moment.before.names.set task.uts names ∧
        exchange = ⟨.setHostname (stage.plan command).name, .ok ()⟩ := by
  obtain ⟨allowed, answers⟩ := allows_of_run (stage.prepares command) run made
  rcases allowed.names_cases rfl answers with
    same | ⟨task, names, found, changed, named | ⟨descriptor, bytes, written, -⟩⟩
  · exact .inl same
  · exact .inr ⟨task, names, found, changed, named⟩
  · obtain ⟨-, -, allowed⟩ := allowed
    rw [written] at allowed
    cases allowed

/-- A stage that could not set its namespace up has changed no name and asked for no child. -/
theorem refused_of_run {fault : SetupFault}
    (run : Run (Proceeds pid) ((stage.run command).run, first) trace last)
    (refused : last.1 = .done (.error (.namespaceSetup fault))) :
    (∀ spawning reply, ⟨.spawn spawning, reply⟩ ∉ effectsOf trace) ∧
      (∀ moment ∈ trace, moment.exchange?.isSome → moment.after.names = moment.before.names) ∧
      ((∀ moment ∈ trace, moment.exchange?.isSome) → last.2.names = first.names) := by
  have keeps := keeps_of_run (stage.prepares command) run
  rw [refused] at keeps
  rcases keeps with ⟨-, unnamed⟩ | ⟨-, other⟩
  · rw [Preparation.Unnamed, effects_of_run run] at unnamed
    have same : ∀ moment ∈ trace, moment.exchange?.isSome →
        moment.after.names = moment.before.names := by
      intro moment member own
      obtain ⟨exchange, made⟩ := Option.isSome_iff_exists.1 own
      obtain ⟨earlier, later, rfl⟩ := List.append_of_mem member
      rcases names_of_run run made with same | ⟨-, -, -, -, rfl⟩
      · exact same
      · exact absurd rfl ((unnamed _ (mem_effectsOf member made rfl)).1 _)
    refine ⟨fun spawning reply member => (unnamed _ member).2 spawning reply rfl, same, ?_⟩
    intro alone
    exact names_eq_of_run run fun moment member => same moment member (alone moment member)
  · exact absurd rfl (other fault)

/-- A stage that could not read a link has come to an end that says so. -/
theorem unreadable_of_run {other : Pid} {errno : Errno}
    (run : Run (Proceeds pid) ((stage.run command).run, first) trace last)
    (failed : ⟨.namespaceOf other, .error errno⟩ ∈ effectsOf trace) :
    ∃ fault, last.1 = .done (.error (.namespaceSetup fault)) := by
  have unreadable : (Preparation.of (talkOf trace)).Unreadable :=
    ⟨other, errno, effects_of_run run ▸ failed⟩
  rcases (keeps_of_run (stage.prepares command) run).progress with
    ⟨result, is, ends⟩ | ⟨request, ⟨-, speaks, allowed⟩, -⟩
  · rcases ends with ⟨⟨fault, rfl⟩, -⟩ | ⟨able, -⟩
    · exact ⟨fault, is⟩
    · exact absurd unreadable able.readable
  · obtain ⟨descriptor, bytes, rfl⟩ := speaks unreadable
    cases allowed

/-- The stage changes no names but those of its own namespace. -/
theorem frame_of_run {moment : Moment} {number : Nat}
    (run : Run (Proceeds pid) ((stage.run command).run, first) trace last)
    (member : moment ∈ trace) (own : moment.exchange?.isSome)
    (elsewhere : moment.before.space? pid ≠ some number) :
    moment.after.names[number]? = moment.before.names[number]? := by
  obtain ⟨exchange, made⟩ := Option.isSome_iff_exists.1 own
  obtain ⟨earlier, later, rfl⟩ := List.append_of_mem member
  rcases names_of_run run made with same | ⟨task, names, found, changed, -⟩
  · rw [same]
  · rw [Kernel.space?_of_task? found] at elsewhere
    rw [changed, List.getElem?_set_ne (fun is => elsewhere (congrArg some is))]

/-- Where the stage gives its namespace the name, its parent is in another one. -/
theorem apart_of_run {moment : Moment} {parent : Pid} {number : Nat}
    (housed : (first.hostname? pid).isSome)
    (run : Run (Proceeds pid) ((stage.run command).run, first) trace last)
    (undisturbed : Undisturbed pid trace) (member : moment ∈ trace) (own : moment.exchange?.isSome)
    (isParent : moment.before.parent? pid = some parent)
    (inside : moment.before.space? parent = some number) :
    moment.after.names[number]? = moment.before.names[number]? := by
  obtain ⟨exchange, made⟩ := Option.isSome_iff_exists.1 own
  obtain ⟨earlier, later, rfl⟩ := List.append_of_mem member
  rcases names_of_run run made with same | ⟨task, names, found, changed, rfl⟩
  · rw [same]
  · obtain ⟨_, _, link, among, distinct⟩ :=
      exists_parent_apart (stage.prepares command) run housed undisturbed made found
    cases link.symm.trans isParent
    cases among.symm.trans inside
    rw [changed, List.getElem?_set_ne distinct.symm]

/-- The stage asks for its child where the host name is the one that was asked for. -/
theorem hostname_of_run {moment : Moment} {spawning : Spawning} {reply : Except Cause Pid}
    (housed : (first.hostname? pid).isSome)
    (run : Run (Proceeds pid) ((stage.run command).run, first) trace last)
    (undisturbed : Undisturbed pid trace) (member : moment ∈ trace)
    (made : moment.exchange? = some ⟨.spawn spawning, reply⟩) :
    moment.before.hostname? pid = some (stage.plan command).name ∧
      ∀ child, reply = .ok child → ∃ target ∈ moment.after.tasks,
        target.pid = child ∧ moment.before.space? pid = some target.uts ∧
          moment.after.nameOf? target.uts = some (stage.plan command).name := by
  obtain ⟨earlier, later, rfl⟩ := List.append_of_mem member
  have keeps := stage.prepares command
  obtain ⟨⟨silent, -, next⟩, answers⟩ := allows_of_run keeps run made
  obtain ⟨early, rfl⟩ : (Preparation.of (talkOf earlier)).Early ∧
      spawning = (stage.plan command).target := by
    rcases Preparation.next?_cases next with ⟨_, is⟩ | ⟨is, -⟩ | ⟨is, three⟩
    · cases is
    · cases is
    · exact ⟨⟨by simp [three], silent⟩, Call.spawn.inj is⟩
  obtain ⟨orderly, knows⟩ := knows_at keeps run housed undisturbed early
  have sees := knows.named (orderly.named_of_next? next)
  refine ⟨sees, ?_⟩
  rintro child rfl
  obtain ⟨before, exchange?, after⟩ := moment
  cases answers with
  | failed fails => exact fails.elim
  | @served task request reply after found answered =>
      cases spawned : before.spawn task (stage.plan command).target with
      | mk result born =>
          simp only [Kernel.attempt, spawned] at answered
          cases answered
          rcases Kernel.bears_spawn spawned with ⟨_, is, -⟩ | ⟨target, loaded, is, -, -, bears⟩
          · cases is
          · cases is
            have shares : target.uts = task.uts := bears.uts
            have inside := Kernel.space?_of_task? found
            have same : after.nameOf? = before.nameOf? := Kernel.nameOf?_congr bears.names
            refine ⟨target, by simp [bears.tasks], rfl, shares ▸ inside, ?_⟩
            rw [Kernel.hostname?, inside, Option.bind_some] at sees
            rw [same, shares]
            exact sees

theorem InnerStage.ordered_of_run (housed : (first.hostname? pid).isSome)
    (run : Run (Proceeds pid) ((stage.run command).run, first) trace last) :
    stage.Ordered command pid first trace last := by
  obtain ⟨parent, done, knowsParent⟩ := exists_effects_of_run run
  exact {
    requests := ⟨parent, done.requests, fun many => parent_of_run run (knowsParent many)⟩
    succeeded := done.succeeded
    distinct := fun many => ⟨parent, done.distinct many⟩
    refused := fun fault => refused_of_run run
    unreadable := fun other errno => unreadable_of_run run
    frame := fun moment member own number => frame_of_run run member own
    apart := fun undisturbed moment member own parent number =>
      apart_of_run housed run undisturbed member own
    named := fun undisturbed moment member spawning reply =>
      hostname_of_run housed run undisturbed member }

/-- A machine whose worker is in another namespace than its parent, and that holds one program. -/
def Machine.bootInside : Kernel :=
  { Machine.boot true [] with
    names := [⟨Machine.hostname, []⟩, ⟨Machine.hostname, []⟩]
    files := ⟨[([], .directory 0o755),
      ([Bytes.ofString "true"], .file Machine.programMode (.program Utility.succeed))]⟩
    tasks := [{ Machine.worker true with uts := 1 }] }

def Machine.insideCommand : Command := ⟨Bytes.ofString "/true", [], by decide, by decide⟩

/-- The run of an inner stage inside, up to the child that runs its command. -/
def Machine.runInside : List Moment × Process (Except Failure UInt8) × Kernel :=
  goAlone workerPid 12 ((InnerStage.standard.run insideCommand).run, bootInside)

/-- All effects of an inner stage come about where nothing fails. -/
theorem InnerStage.ordered_runInside : (Machine.bootInside.hostname? Machine.workerPid).isSome ∧
    ((effectsOf Machine.runInside.1).length = 4 ∧ Machine.runInside.2.2.tasks.length = 2 ∧
      Machine.runInside.2.2.nameOf? 0 = some Machine.hostname ∧
      Machine.runInside.2.2.nameOf? 1 = some (Bytes.ofString "inside-container")) ∧
    standard.Ordered Machine.insideCommand Machine.workerPid Machine.bootInside
      Machine.runInside.1 Machine.runInside.2 := by
  have housed : (Machine.bootInside.hostname? Machine.workerPid).isSome := by decide +kernel
  exact ⟨housed, by decide +kernel, ordered_of_run housed (run_goAlone _ 12 _)⟩

end Ordering

end HostnameSandbox

import HostnameSandbox.Proofs.CommandLine.Verbosity
import HostnameSandbox.Proofs.Namespaces.Programs

/-!
# The manner of stages

What a stage may write to, and what it may start, is said by a manner.  A stage whose command line
is read writes to nothing but its standard error; and if the command line that an outer stage
passes on is not read, no command is ever started.
-/

namespace HostnameSandbox

/-- The calls of a stage that neither write nor create a child. -/
def Call.IsStaging : Call → Bool
  | .report _ | .openLog _ | .react _ _ | .ownPath | .ownPid | .parentPid | .namespaceOf _
  | .setHostname _ | .select _ _ | .send _ _ => true
  | _ => false

/-- What stages may write to, and what they may start. -/
structure Manner where
  mayWrite : Descriptor → Prop
  mayStart : Spawning → Prop

/-- The contract of a process that plays a stage in a manner. -/
def staging (manner : Manner) : Contract Unit where
  allows _ request :=
    match request with
    | .write descriptor _ => manner.mayWrite descriptor
    | .spawn spawning => manner.mayStart spawning
    | request => request.IsStaging
  after state _ := state

/-- A process plays a stage in a manner. -/
def Process.Plays {α : Type} (manner : Manner) (process : Process α) : Prop :=
  process.Keeps (staging manner) (fun _ _ => True) ()

/-- Whatever is started in new namespaces may tell about failures, to where its parent may, and
plays its stage in the same manner. -/
structure Manner.Lasts (manner : Manner) : Prop where
  tells : manner.mayWrite Descriptor.error
  shares : ∀ spawning, manner.mayStart spawning → spawning.isolation.uts →
    spawning.streams.error = .inherit
  starts : ∀ spawning, manner.mayStart spawning → spawning.isolation.uts →
    ∀ start : Start, start.args = spawning.args → (Sandbox.program start).Plays manner

/-- The manner of stages that write to their standard error only, and start only inner stages
whose command lines are read. -/
def Manner.discreet : Manner where
  mayWrite descriptor := descriptor = Descriptor.error
  mayStart spawning := spawning.isolation.uts → spawning.streams.error = .inherit ∧
    ∃ request, CommandLine.parse spawning.args = .ok request ∧ request.stage = .inner

/-- The manner of stages that start nothing but stages whose command lines are not read. -/
def Manner.barren : Manner where
  mayWrite _ := True
  mayStart spawning := spawning.isolation.uts ∧ spawning.streams.error = .inherit ∧
    ∃ refusal, CommandLine.parse spawning.args = .error refusal

theorem staging_passes (manner : Manner) : (staging manner).Passes Call.IsStaging () := by
  intro request isStaging
  cases request with
  | write descriptor bytes => cases isStaging
  | spawn spawning => cases isStaging
  | _ => exact ⟨isStaging, fun _ => rfl⟩

/-! ### The inner stage -/

section Inner

variable {State : Type} {contract : Contract State} {state : State}
  (passes : contract.Passes Call.IsStaging state)
include passes

theorem Membership.keeps_ofPid_of_passes {pid : Pid}
    {ends : Except Failure Membership → State → Prop} (came : ∀ result, ends result state) :
    (ofPid pid).run.Keeps contract ends state := by
  refine keeps_lift_bind (passes.keeps_call rfl fun reply => ?_)
  cases reply with
  | error errno => exact came _
  | ok name => exact came _

theorem keeps_ensureFreshNamespace_of_passes {ends : Except Failure Unit → State → Prop}
    (came : ∀ result, ends result state) :
    ensureFreshNamespace.run.Keeps contract ends state := by
  refine keeps_action_bind (keeps_lift_bind (passes.keeps_call rfl fun _ => ?_))
  refine Membership.keeps_ofPid_of_passes passes fun own => ?_
  cases own with
  | error failure => exact came _
  | ok own =>
      refine keeps_action_bind (keeps_lift_bind (passes.keeps_call rfl fun _ => ?_))
      refine Membership.keeps_ofPid_of_passes passes fun parent => ?_
      cases parent with
      | error failure => exact came _
      | ok parent =>
          dsimp only
          split
          · exact keeps_lift_bind (passes.keeps_call rfl fun _ => came _)
          · exact keeps_action_lift (passes.keeps_call rfl fun _ => came _)

theorem InnerStage.keeps_nameNamespace_of_passes {stage : InnerStage}
    {ends : Except Failure Unit → State → Prop} (came : ∀ result, ends result state) :
    stage.nameNamespace.run.Keeps contract ends state := by
  refine keeps_lift_bind (passes.keeps_call rfl fun _ => ?_)
  refine keeps_lift_bind (passes.keeps_call rfl fun reply => ?_)
  cases reply with
  | ok _ => exact came _
  | error errno => exact keeps_lift_bind (passes.keeps_call rfl fun _ => came _)

theorem Runner.keeps_execute_of_passes {runner : Runner} {command : Command}
    {ends : Except Failure UInt8 → State → Prop}
    (spawns : contract.allows state (.spawn (runner.spawning command)) ∧
      ∀ reply, contract.after state ⟨.spawn (runner.spawning command), reply⟩ = state)
    (came : ∀ result, ends result state) :
    (runner.execute command).run.Keeps contract ends state := by
  have rests : contract.Rests state := passes.weaken fun request waits => by
    cases request <;> first | rfl | cases waits
  obtain ⟨allowed, same⟩ := spawns
  refine keeps_lift_bind (passes.keeps_call rfl fun _ => ?_)
  refine keeps_lift_bind (Process.keeps_bind (passes.keeps_call rfl fun _ =>
    Process.keeps_bind (passes.keeps_call rfl fun _ => ?_)))
  refine keeps_lift_bind (Process.keeps_ask allowed fun reply => ?_)
  have goesOn := same reply
  unfold Runner.spawning at goesOn
  rw [goesOn]
  cases reply with
  | error cause => exact came _
  | ok child => exact rests.keeps_awaitChild fun status => came _

/-- An inner stage keeps every contract that lets it make its calls in a state which does not change
by them. -/
theorem InnerStage.keeps_of_passes {stage : InnerStage} {command : Command}
    {ends : Except Failure UInt8 → State → Prop}
    (spawns : contract.allows state (.spawn (stage.runner.spawning command)) ∧
      ∀ reply, contract.after state ⟨.spawn (stage.runner.spawning command), reply⟩ = state)
    (came : ∀ result, ends result state) : (stage.run command).run.Keeps contract ends state := by
  refine keeps_lift_bind (passes.keeps_call rfl fun _ => ?_)
  refine keeps_action_bind (keeps_ensureFreshNamespace_of_passes passes fun fresh => ?_)
  cases fresh with
  | error failure => exact came _
  | ok _ =>
      refine keeps_action_bind (keeps_nameNamespace_of_passes passes fun named => ?_)
      cases named with
      | error failure => exact came _
      | ok _ => exact Runner.keeps_execute_of_passes passes spawns came

end Inner

/-! ### The program -/

section Program

variable {manner : Manner} {start : Start} {request : CommandLine.Request}

/-- The program prepares for signals, reads its command line, and goes on by that. -/
theorem Sandbox.plays_program {start : Start}
    (goesOn : (match CommandLine.parse start.args with
      | .error refusal => do
          Process.writeText (if refusal.isRequest then Descriptor.output else Descriptor.error)
            (refusal.text .interrupts)
          pure refusal.exitCode
      | .ok request => do
          Process.ask (.openLog (.choose (start.environment.value? logVariable) request.verbose))
          finish (← (serve request).run) : Process UInt8).Plays manner) :
    (program start).Plays manner := by
  have passes := staging_passes manner
  refine Process.keeps_bind (Process.keeps_bind (Process.keeps_bind ?_))
  refine passes.keeps_call rfl fun _ => Process.keeps_bind (Process.keeps_bind ?_)
  refine passes.keeps_call rfl fun _ => Process.keeps_bind (Process.keeps_bind ?_)
  exact passes.keeps_call rfl fun _ => goesOn

/-- The program that is asked for a stage plays it in a manner that lets it write to its standard
error and create its child. -/
theorem Sandbox.plays_of_read (read : CommandLine.parse start.args = .ok request)
    (tells : manner.mayWrite Descriptor.error)
    (outer : ∀ command path, request.invocation = .ok ⟨.outer, command⟩ →
      manner.mayStart ((OuterStage.ofRunning.withVerbose request.verbose).spawning path command))
    (inner : ∀ command, request.invocation = .ok ⟨.inner, command⟩ →
      manner.mayStart (InnerStage.standard.runner.spawning command)) :
    (program start).Plays manner := by
  have passes := staging_passes manner
  have finishes (result : Except Failure UInt8) :
      (finish result).Keeps (staging manner) (fun _ _ => True) () := by
    cases result with
    | ok code => trivial
    | error failure => exact Process.keeps_bind ⟨tells, fun _ => trivial⟩
  refine plays_program ?_
  rw [read]
  refine Process.keeps_bind (passes.keeps_call rfl fun _ => Process.keeps_bind ?_)
  unfold serve
  cases invoked : request.invocation with
  | error failure => exact finishes _
  | ok invocation =>
      obtain ⟨stage, command⟩ := invocation
      refine keeps_lift_bind (passes.keeps_call rfl fun _ => ?_)
      cases stage with
      | outer =>
          have outerPasses : (staging manner).Passes Call.IsOuter () :=
            passes.weaken fun request isOuter => by
              cases request <;> first | rfl | cases isOuter
          exact OuterStage.keeps_of_passes outerPasses
            (fun path => ⟨outer command path invoked, fun _ => rfl⟩) finishes
      | inner =>
          exact InnerStage.keeps_of_passes passes ⟨inner command invoked, fun _ => rfl⟩ finishes

/-- The program that does not read its command line writes about that, and starts nothing. -/
theorem Sandbox.plays_barren_of_refused {refusal : CommandLine.Refusal}
    (refused : CommandLine.parse start.args = .error refusal) :
    (program start).Plays .barren := by
  refine plays_program ?_
  rw [refused]
  exact Process.keeps_bind (Process.keeps_bind ⟨trivial, fun _ => trivial⟩)

theorem CommandLine.Request.stage_of_invocation {invocation : Invocation}
    (invoked : request.invocation = .ok invocation) : invocation.stage = request.stage := by
  unfold CommandLine.Request.invocation at invoked
  split at invoked
  · cases invoked
  · cases invoked
    rfl

/-- A program that is asked for the inner stage is discreet. -/
theorem Sandbox.plays_discreet_of_inner (read : CommandLine.parse start.args = .ok request)
    (inner : request.stage = .inner) : (program start).Plays .discreet := by
  refine plays_of_read read rfl (fun command path invoked => ?_) fun command invoked => nofun
  cases (CommandLine.Request.stage_of_invocation invoked).trans inner

/-- All that outer stages pass on for a command is read in the same way. -/
theorem OuterStage.readAlike_arguments (stage other : OuterStage) (command : Command) :
    CommandLine.ReadAlike (CommandLine.parse (stage.arguments command))
      (CommandLine.parse (other.arguments command)) := by
  rw [parse_arguments, parse_arguments]
  exact CommandLine.readAlike_parseStage .inner _ _ _ command.words

/-- What an outer stage passes on is read. -/
def CommandLine.Request.IsReadable (request : Request) : Prop :=
  ∀ command, request.invocation = .ok ⟨.outer, command⟩ →
    ∃ later, parse (OuterStage.ofRunning.arguments command) = .ok later

theorem Sandbox.plays_discreet (read : CommandLine.parse start.args = .ok request)
    (readable : request.IsReadable) : (program start).Plays .discreet := by
  refine plays_of_read read rfl (fun command path invoked _ => ?_) fun command invoked => nofun
  obtain ⟨later, readLater⟩ := readable command invoked
  have alike := OuterStage.readAlike_arguments .ofRunning
    (OuterStage.ofRunning.withVerbose request.verbose) command
  rw [readLater] at alike
  cases parsed : CommandLine.parse
      ((OuterStage.ofRunning.withVerbose request.verbose).arguments command) with
  | error refusal =>
      rw [parsed] at alike
      cases alike
  | ok again =>
      obtain ⟨after, mark, follows⟩ :=
        CommandLine.exists_follows ((OuterStage.parse_arguments _ command).symm.trans parsed)
      exact ⟨rfl, again, parsed, follows.played⟩

theorem Sandbox.plays_barren (read : CommandLine.parse start.args = .ok request)
    (unreadable : ¬ request.IsReadable) : (program start).Plays .barren := by
  simp only [CommandLine.Request.IsReadable, Classical.not_forall] at unreadable
  obtain ⟨command, isOuter, unread⟩ := unreadable
  refine plays_of_read read trivial (fun other path invoked => ⟨rfl, rfl, ?_⟩) fun other invoked => ?_
  · cases isOuter.symm.trans invoked
    have alike := OuterStage.readAlike_arguments .ofRunning
      (OuterStage.ofRunning.withVerbose request.verbose) command
    cases refused : CommandLine.parse (OuterStage.ofRunning.arguments command) with
    | ok later => exact absurd ⟨later, refused⟩ unread
    | error refusal =>
        rw [refused] at alike
        generalize parsed : CommandLine.parse (OuterStage.arguments _ command) = other at alike
        cases alike with
        | refused refusal => exact ⟨refusal, parsed⟩
  · cases isOuter.symm.trans invoked

theorem Manner.lasts_discreet : Manner.discreet.Lasts where
  tells := rfl
  shares spawning may fresh := (may fresh).1
  starts spawning may fresh start same := by
    obtain ⟨-, request, read, inner⟩ := may fresh
    exact Sandbox.plays_discreet_of_inner (same ▸ read) inner

theorem Manner.lasts_barren : Manner.barren.Lasts where
  tells := trivial
  shares spawning may _ := may.2.1
  starts spawning may _ start same := by
    obtain ⟨-, -, refusal, refused⟩ := may
    exact Sandbox.plays_barren_of_refused (same ▸ refused)

end Program

end HostnameSandbox

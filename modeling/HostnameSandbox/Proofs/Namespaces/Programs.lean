import HostnameSandbox.Proofs.Namespaces.Preparation

/-!
# The program and its namespaces

The program that plays its outer stage changes no name itself, and creates its child in a new
namespace.  The program that plays its inner stage prepares its namespace, and may tell about a
failure at its end.
-/

namespace HostnameSandbox

/-- The calls by which the program opens its log and begins to listen. -/
def Call.IsOpening : Call → Bool
  | .report _ | .openLog _ | .react _ _ => true
  | _ => false

section Opening

variable {State : Type} {contract : Contract State} {state : State}

/-- A contract lets a process begin in a state that does not change by that. -/
def Contract.Opens (contract : Contract State) (state : State) : Prop :=
  contract.Passes Call.IsOpening state

/-- The program plays the stage that it is asked for, and tells about a failure. -/
theorem Sandbox.keeps_program_of_asks {start : Start} {invocation : Invocation} {verbose : Bool}
    {ends : UInt8 → State → Prop} (asks : start.Asks invocation verbose)
    (opens : contract.Opens state)
    (plays : (invocation.run verbose).run.Keeps contract
      (fun result => (finish result).Keeps contract ends) state) :
    (program start).Keeps contract ends state := by
  obtain ⟨request, read, rfl, invoked⟩ := asks
  have reacts {next : PUnit → Process UInt8} (keeps : (next ⟨⟩).Keeps contract ends state) :
      ((reactions.forM fun entry => Process.react entry.1 entry.2) >>= next).Keeps
        contract ends state := by
    refine Process.keeps_bind (Process.keeps_bind (opens.keeps_call rfl fun _ => ?_))
    refine Process.keeps_bind (opens.keeps_call rfl fun _ => ?_)
    exact Process.keeps_bind (opens.keeps_call rfl fun _ => keeps)
  refine reacts ?_
  rw [read]
  refine Process.keeps_bind (opens.keeps_call rfl fun _ => Process.keeps_bind ?_)
  unfold serve
  rw [invoked]
  exact plays

end Opening

/-! ### The outer stage -/

/-- The calls of an outer stage, apart from that by which it creates its child. -/
def Call.IsOuter : Call → Bool
  | .report _ | .react _ _ | .ownPath | .select _ _ | .send _ _ => true
  | _ => false

/-- An outer stage keeps every contract that lets it make its calls in a state which does not change
by them. -/
theorem OuterStage.keeps_of_passes {State : Type} {contract : Contract State} {state : State}
    {stage : OuterStage} {command : Command} {ends : Except Failure UInt8 → State → Prop}
    (passes : contract.Passes Call.IsOuter state)
    (spawns : ∀ path, contract.allows state (.spawn (stage.spawning path command)) ∧
      ∀ reply, contract.after state ⟨.spawn (stage.spawning path command), reply⟩ = state)
    (came : ∀ result, ends result state) : (stage.run command).run.Keeps contract ends state := by
  have rests : contract.Rests state := passes.weaken fun request waits => by
    cases request <;> first | rfl | cases waits
  refine keeps_lift_bind (passes.keeps_call rfl fun _ => ?_)
  have resolves {next : Except Cause Bytes → State → Prop} (came : ∀ found, next found state) :
      stage.executable.resolve.Keeps contract next state := by
    cases stage.executable with
    | running => exact passes.keeps_call rfl came
    | path place => exact came (.ok place)
    | unresolvable cause => exact came (.error cause)
  refine keeps_lift_bind (resolves fun found => ?_)
  cases found with
  | error cause => exact came _
  | ok path =>
      refine keeps_lift_bind (Process.keeps_bind (passes.keeps_call rfl fun _ =>
        Process.keeps_bind (passes.keeps_call rfl fun _ => ?_)))
      have creates : (do
          match ← (Process.ask (.spawn (stage.spawning path command)) : Process _) with
          | .error cause => throw (.launch path.lossy cause)
          | .ok child =>
              Process.report (.relaunched path.lossy child)
              awaitChild child path.lossy : Action UInt8).run.Keeps contract ends state := by
        obtain ⟨allowed, same⟩ := spawns path
        refine keeps_lift_bind (Process.keeps_ask allowed fun reply => ?_)
        rw [same]
        cases reply with
        | error cause => exact came _
        | ok child =>
            refine keeps_lift_bind (passes.keeps_call rfl fun _ => ?_)
            exact rests.keeps_awaitChild fun status => came _
      change Process.Keeps _ _ (ExceptT.run (if _ then _ else _)) _
      split
      · exact keeps_lift_bind (passes.keeps_call rfl fun _ => creates)
      · exact creates

/-- The contract of a process that makes no other calls than an outer stage. -/
def quiet : Contract Unit where
  allows _ request := request.IsOuter ∨ ∃ spawning, request = .spawn spawning
  after state _ := state

theorem OuterStage.keeps_quiet (stage : OuterStage) (command : Command) :
    (stage.run command).run.Keeps quiet (fun _ _ => True) () :=
  keeps_of_passes (fun _ outer => ⟨.inl outer, fun _ => rfl⟩)
    (fun _ => ⟨.inr ⟨_, rfl⟩, fun _ => rfl⟩) fun _ => trivial

/-- The contract of a process that changes no name but by what it writes, and that creates
children in new namespaces only. -/
def isolating : Contract Unit where
  allows _ request :=
    match request with
    | .report _ | .openLog _ | .write _ _ | .react _ _ | .ownPath | .select _ _ | .send _ _ => True
    | .spawn spawning => spawning.isolation.uts = true
    | _ => False
  after state _ := state

theorem isolating_opens : isolating.Opens () := by
  intro request opening
  cases request with
  | report event => exact ⟨trivial, fun _ => rfl⟩
  | openLog filter => exact ⟨trivial, fun _ => rfl⟩
  | react signal reaction => exact ⟨trivial, fun _ => rfl⟩
  | _ => cases opening

theorem isolating_passes : isolating.Passes Call.IsOuter () := by
  intro request outer
  cases request with
  | report event => exact ⟨trivial, fun _ => rfl⟩
  | react signal reaction => exact ⟨trivial, fun _ => rfl⟩
  | ownPath => exact ⟨trivial, fun _ => rfl⟩
  | select child signals => exact ⟨trivial, fun _ => rfl⟩
  | send child signal => exact ⟨trivial, fun _ => rfl⟩
  | _ => cases outer

/-- The program that plays its outer stage changes no name itself, and creates its child in a new
namespace. -/
theorem Sandbox.isolates {start : Start} {command : Command} {verbose : Bool}
    (asks : start.Asks ⟨.outer, command⟩ verbose) :
    (program start).Keeps isolating (fun _ _ => True) () := by
  refine keeps_program_of_asks asks isolating_opens ?_
  refine keeps_lift_bind (isolating_opens.keeps_call rfl fun _ => ?_)
  refine OuterStage.keeps_of_passes isolating_passes (fun _ => ⟨rfl, fun _ => rfl⟩) fun result => ?_
  cases result with
  | ok code => trivial
  | error failure => exact ⟨trivial, fun _ => trivial⟩

/-! ### The inner stage -/

theorem preparation_opens {plan : Plan} : (preparation plan true).Opens .initial := by
  have able : Preparation.initial.Able := Preparation.able_of_effects (by simp)
  have readable (request : Call) (unreadable : Preparation.initial.Unreadable) :
      ∃ descriptor bytes, request = .write descriptor bytes := absurd unreadable able.readable
  intro request opening
  cases request with
  | report event => exact ⟨⟨able.silent, readable _, trivial⟩, fun _ => rfl⟩
  | openLog filter => exact ⟨⟨able.silent, readable _, rfl⟩, fun _ => rfl⟩
  | react signal reaction => exact ⟨⟨able.silent, readable _, trivial⟩, fun _ => rfl⟩
  | _ => cases opening

/-- What an inner stage comes to may be told, since it has not been told yet. -/
theorem Sandbox.prepares_finish {plan : Plan} {state : Preparation}
    {result : Except Failure UInt8} (silent : state.told = false) :
    (finish result).Keeps (preparation plan true) (fun _ _ => True) state := by
  cases result with
  | ok code => trivial
  | error failure => exact ⟨⟨silent, fun _ => ⟨_, _, rfl⟩, rfl⟩, fun _ => trivial⟩

/-- The program that plays its inner stage prepares its namespace. -/
theorem Sandbox.prepares {start : Start} {command : Command} {verbose : Bool}
    (asks : start.Asks ⟨.inner, command⟩ verbose) :
    (program start).Keeps (preparation (InnerStage.standard.plan command) true)
      (fun _ _ => True) .initial := by
  refine keeps_program_of_asks asks preparation_opens ?_
  refine keeps_lift_bind (preparation_opens.keeps_call rfl fun _ => ?_)
  exact InnerStage.prepares_run (fun fault state silent _ => prepares_finish silent)
    fun result state able _ => prepares_finish able.silent

end HostnameSandbox

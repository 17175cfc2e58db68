import HostnameSandbox.Proofs.Supervision.Stages

/-!
# How many calls the program makes

The program makes a bounded number of calls without being told about a signal.  A process that
is told about none therefore comes to its end as soon as it has been answered often enough.
-/

namespace HostnameSandbox

/-- The contract of a process that makes so many calls at most, and as many again whenever it
is told about a signal; its state counts the calls that are left. -/
def brevity (full : Nat) : Contract Nat where
  allows left _ := 0 < left
  after left exchange :=
    match exchange.deed with
    | .took _ _ => full
    | _ => left - 1

namespace Brevity

variable {α β : Type} {full left rest : Nat}

/-- An exchange that does not tell about a signal takes one of the calls that are left. -/
theorem after_eq {exchange : Exchange} (plain : ∀ child signal, exchange.deed ≠ .took child signal) :
    (brevity full).after left exchange = left - 1 := by
  unfold brevity
  dsimp only
  split
  · next child signal took => exact absurd took (plain child signal)
  · rfl

theorem after_le {exchange : Exchange} (within : left ≤ full) :
    (brevity full).after left exchange ≤ full := by
  unfold brevity
  dsimp only
  split
  · exact Nat.le_refl full
  · exact Nat.le_trans (Nat.sub_le left 1) within

theorem keeps_ask {request : Call} {ends : request.Reply → Nat → Prop}
    (plain : ∀ reply child signal, Exchange.deed ⟨request, reply⟩ ≠ .took child signal)
    (enough : rest + 1 ≤ left) (came : ∀ reply after, rest ≤ after → ends reply after) :
    (Process.ask request).Keeps (brevity full) ends left := by
  refine Process.keeps_ask (Nat.lt_of_lt_of_le (Nat.succ_pos rest) enough) fun reply => ?_
  refine came reply _ ?_
  rw [after_eq (plain reply)]
  omega

theorem keeps_report {event : Event} {ends : Unit → Nat → Prop} (enough : rest + 1 ≤ left)
    (came : ∀ after, rest ≤ after → ends () after) :
    (Process.report event).Keeps (brevity full) ends left :=
  keeps_ask (fun _ _ _ => nofun) enough fun _ => came

theorem keeps_react {signal : Signal} {reaction : Reaction} {ends : Unit → Nat → Prop}
    (enough : rest + 1 ≤ left) (came : ∀ after, rest ≤ after → ends () after) :
    (Process.react signal reaction).Keeps (brevity full) ends left :=
  Process.keeps_bind (keeps_ask (fun _ _ _ => nofun) enough fun _ => came)

theorem keeps_listen {ends : Unit → Nat → Prop} (enough : rest + 2 ≤ left)
    (came : ∀ after, rest ≤ after → ends () after) :
    Relay.listen.Keeps (brevity full) ends left := by
  refine Process.keeps_bind (keeps_react enough fun between enough => ?_)
  exact Process.keeps_bind (keeps_react enough came)

/-- A turn of waiting for a child takes one of the calls that are left, unless a signal comes. -/
theorem keeps_turn {child : Pid} (room : rest + 5 ≤ full) (enough : rest + 2 ≤ left) :
    (Relay.turn child).Keeps (brevity full)
      (fun
        | none => fun after => rest + 2 ≤ after
        | some _ => fun after => rest + 1 ≤ after)
      left := by
  refine ⟨Nat.lt_of_lt_of_le (Nat.succ_pos _) enough, fun reply => ?_⟩
  cases reply with
  | ended status =>
      change rest + 1 ≤ left - 1
      omega
  | noted signal =>
      change (Relay.forward child signal >>= fun _ => pure none).Keeps _ _ full
      refine Turn.keeps_bind ⟨?_, fun _ => ⟨?_, fun reply => ?_⟩⟩
      · change 0 < full
        omega
      · change 0 < full - 1
        omega
      · cases reply with
        | ok _ =>
            change rest + 2 ≤ full - 1 - 1
            omega
        | error errno =>
            refine ⟨?_, fun _ => ?_⟩
            · change 0 < full - 1 - 1
              omega
            · change rest + 2 ≤ full - 1 - 1 - 1
              omega

theorem keeps_awaitChild {child : Pid} {label : String}
    {ends : Except Failure UInt8 → Nat → Prop} (room : rest + 5 ≤ full)
    (enough : rest + 3 ≤ left) (came : ∀ result after, rest ≤ after → ends result after) :
    (awaitChild child label).run.Keeps (brevity full) ends left := by
  refine keeps_lift_bind (keeps_report enough fun between enough => ?_)
  refine keeps_lift_bind ⟨trivial, fun after => rest + 2 ≤ after, enough, ?_⟩
  intro between enough
  refine (keeps_turn room enough).mono ?_
  intro outcome after enough
  cases outcome with
  | none => exact enough
  | some status =>
      cases status with
      | exited code => exact keeps_lift_bind (keeps_report enough (came _))
      | killed signal => exact keeps_lift_bind (keeps_report enough (came _))

theorem keeps_execute {runner : Runner} {command : Command}
    {ends : Except Failure UInt8 → Nat → Prop} (room : rest + 5 ≤ full)
    (enough : rest + 7 ≤ left) (came : ∀ result after, rest ≤ after → ends result after) :
    (runner.execute command).run.Keeps (brevity full) ends left := by
  refine keeps_lift_bind (keeps_report enough fun between enough => ?_)
  refine keeps_lift_bind (keeps_listen enough fun between enough => ?_)
  refine keeps_lift_bind (keeps_ask (fun reply _ _ => ?_) enough fun reply between enough => ?_)
  · cases reply <;> nofun
  · cases reply with
    | error cause => exact came _ _ (by omega)
    | ok child => exact keeps_awaitChild room enough came

theorem keeps_outer {stage : OuterStage} {command : Command}
    {ends : Except Failure UInt8 → Nat → Prop} (room : rest + 5 ≤ full)
    (enough : rest + 10 ≤ left) (came : ∀ result after, rest ≤ after → ends result after) :
    (stage.run command).run.Keeps (brevity full) ends left := by
  refine keeps_lift_bind (keeps_report enough fun between enough => ?_)
  have resolves : stage.executable.resolve.Keeps (brevity full) (fun _ after => rest + 8 ≤ after)
      between := by
    cases stage.executable with
    | running => exact keeps_ask (fun reply _ _ => by cases reply <;> nofun) enough fun _ _ => id
    | path place => exact Nat.le_of_succ_le enough
    | unresolvable cause => exact Nat.le_of_succ_le enough
  refine keeps_lift_bind (resolves.mono fun found between enough => ?_)
  cases found with
  | error cause => exact came _ _ (by omega)
  | ok path =>
      refine keeps_lift_bind (keeps_listen enough fun between enough => ?_)
      have spawns : ∀ {left}, rest + 5 ≤ left → (do
          match ← (Process.ask (.spawn (stage.spawning path command)) : Process _) with
          | .error cause => throw (.launch path.lossy cause)
          | .ok child =>
              Process.report (.relaunched path.lossy child)
              awaitChild child path.lossy : Action UInt8).run.Keeps (brevity full) ends left := by
        intro left enough
        refine keeps_lift_bind
          (keeps_ask (fun reply _ _ => ?_) enough fun reply between enough => ?_)
        · cases reply <;> nofun
        · cases reply with
          | error cause => exact came _ _ (by omega)
          | ok child =>
              refine keeps_lift_bind (keeps_report enough fun between enough => ?_)
              exact keeps_awaitChild room enough came
      dsimp only
      split
      · exact keeps_lift_bind (keeps_report enough fun between enough => spawns enough)
      · exact spawns (Nat.le_of_succ_le enough)

theorem keeps_ofPid {pid : Pid} {ends : Except Failure Membership → Nat → Prop}
    (enough : rest + 1 ≤ left) (came : ∀ result after, rest ≤ after → ends result after) :
    (Membership.ofPid pid).run.Keeps (brevity full) ends left := by
  refine keeps_lift_bind (keeps_ask (fun reply _ _ => ?_) enough fun reply between enough => ?_)
  · cases reply <;> nofun
  · cases reply with
    | error errno => exact came _ _ enough
    | ok name => exact came _ _ enough

theorem keeps_inner {stage : InnerStage} {command : Command}
    {ends : Except Failure UInt8 → Nat → Prop} (room : rest + 5 ≤ full)
    (enough : rest + 16 ≤ left) (came : ∀ result after, rest ≤ after → ends result after) :
    (stage.run command).run.Keeps (brevity full) ends left := by
  have named : ∀ {left}, rest + 10 ≤ left →
      (stage.nameNamespace >>= fun _ => stage.runner.execute command).run.Keeps (brevity full)
        ends left := by
    intro left enough
    refine keeps_action_bind (keeps_lift_bind (keeps_report enough fun between enough => ?_))
    refine keeps_lift_bind
      (keeps_ask (fun reply _ _ => ?_) enough fun reply between enough => ?_)
    · cases reply <;> nofun
    · cases reply with
      | ok _ => exact keeps_execute room (Nat.le_of_succ_le enough) came
      | error errno =>
          exact keeps_lift_bind (keeps_report enough fun after enough => came _ _ (by omega))
  refine keeps_lift_bind (keeps_report enough fun between enough => ?_)
  refine keeps_action_bind (keeps_action_bind (keeps_lift_bind
    (keeps_ask (fun _ _ _ => nofun) enough fun pid between enough => ?_)))
  refine keeps_ofPid enough fun own between enough => ?_
  cases own with
  | error failure => exact came _ _ (by omega)
  | ok own =>
      refine keeps_action_bind (keeps_lift_bind
        (keeps_ask (fun _ _ _ => nofun) enough fun pid between enough => ?_))
      refine keeps_ofPid enough fun parent between enough => ?_
      cases parent with
      | error failure => exact came _ _ (by omega)
      | ok parent =>
          dsimp only
          split
          · exact keeps_lift_bind (keeps_report enough fun after enough => came _ _ (by omega))
          · exact keeps_action_lift (keeps_report enough fun after enough => named enough)

theorem keeps_invocation {invocation : Invocation} {verbose : Bool}
    {ends : Except Failure UInt8 → Nat → Prop} (room : rest + 5 ≤ full)
    (enough : rest + 17 ≤ left) (came : ∀ result after, rest ≤ after → ends result after) :
    (invocation.run verbose).run.Keeps (brevity full) ends left := by
  obtain ⟨stage, command⟩ := invocation
  refine keeps_lift_bind (keeps_report enough fun between enough => ?_)
  cases stage with
  | outer => exact keeps_outer room (by omega) came
  | inner => exact keeps_inner room enough came

theorem keeps_finish {result : Except Failure UInt8} (enough : 1 ≤ left) :
    (Sandbox.finish result).Keeps (brevity full) (fun _ _ => True) left := by
  cases result with
  | ok code => trivial
  | error failure => exact Process.keeps_bind ⟨enough, fun _ => trivial⟩

end Brevity

namespace Sandbox

/-- How many calls the program makes at most without being told about a signal. -/
def greatestBrevity : Nat := 22

theorem keeps_reactions_brevity {ends : PUnit → Nat → Prop}
    (came : ∀ after, 19 ≤ after → ends ⟨⟩ after) :
    (reactions.forM fun (signal, reaction) => Process.react signal reaction).Keeps
      (brevity greatestBrevity) ends greatestBrevity := by
  have first : 21 + 1 ≤ greatestBrevity := Nat.le_refl _
  refine Process.keeps_bind (Brevity.keeps_react first fun between second => ?_)
  refine Process.keeps_bind (Brevity.keeps_react second fun between third => ?_)
  exact Process.keeps_bind (Brevity.keeps_react third came)

/-- The program makes a bounded number of calls without being told about a signal. -/
theorem keeps_brevity (start : Start) :
    (program start).Keeps (brevity greatestBrevity) (fun _ _ => True) greatestBrevity := by
  refine Process.keeps_bind (keeps_reactions_brevity fun between enough => ?_)
  cases read : CommandLine.parse start.args with
  | error refusal =>
      refine Process.keeps_bind (Process.keeps_bind ?_)
      exact Brevity.keeps_ask (fun reply _ _ => by cases reply <;> nofun) enough fun _ _ _ =>
        trivial
  | ok request =>
      refine Process.keeps_bind
        (Brevity.keeps_ask (fun _ _ _ => nofun) enough fun _ between enough => ?_)
      refine Process.keeps_bind ?_
      unfold serve
      cases request.invocation with
      | error failure => exact Brevity.keeps_finish (Nat.le_of_add_left_le enough)
      | ok invocation =>
          refine Brevity.keeps_invocation (by decide) enough fun result after enough => ?_
          exact Brevity.keeps_finish enough

end Sandbox

end HostnameSandbox

import HostnameSandbox.Proofs.Supervision.Stages

/-!
# Waiting under any contract

While a process waits for its child, it only reports, asks for the child and for signals, and
passes signals on.  So it keeps every contract that lets it do so in a state which does not
change by that.
-/

namespace HostnameSandbox

variable {State : Type} {contract : Contract State} {state : State}

/-- A contract allows calls of some kind in a state that does not change by them. -/
def Contract.Passes (contract : Contract State) (kind : Call → Bool) (state : State) : Prop :=
  ∀ request : Call, kind request →
    contract.allows state request ∧ ∀ reply, contract.after state ⟨request, reply⟩ = state

namespace Contract.Passes

variable {kind : Call → Bool}

theorem weaken {fewer : Call → Bool} (passes : contract.Passes kind state)
    (among : ∀ request, fewer request → kind request) : contract.Passes fewer state :=
  fun request isOfKind => passes request (among request isOfKind)

theorem keeps_call {α : Type} {ends : α → State → Prop} {request : Call}
    {next : request.Reply → Process α} (passes : contract.Passes kind state)
    (isOfKind : kind request) (keeps : ∀ reply, (next reply).Keeps contract ends state) :
    (Process.call request next).Keeps contract ends state := by
  obtain ⟨allowed, same⟩ := passes request isOfKind
  refine ⟨allowed, fun reply => ?_⟩
  rw [same reply]
  exact keeps reply

theorem turn_keeps_call {α : Type} {ends : α → State → Prop} {request : Call}
    {next : request.Reply → Turn α} (passes : contract.Passes kind state)
    (isOfKind : kind request) (keeps : ∀ reply, (next reply).Keeps contract ends state) :
    (Turn.call request next).Keeps contract ends state := by
  obtain ⟨allowed, same⟩ := passes request isOfKind
  refine ⟨allowed, fun reply => ?_⟩
  rw [same reply]
  exact keeps reply

end Contract.Passes

/-- The calls that a process makes while it waits for its child. -/
def Call.IsWaiting : Call → Bool
  | .report _ | .select _ _ | .send _ _ => true
  | _ => false

/-- A contract lets a process wait in a state that does not change by that. -/
def Contract.Rests (contract : Contract State) (state : State) : Prop :=
  contract.Passes Call.IsWaiting state

namespace Contract.Rests

theorem keeps_turn (rests : contract.Rests state) (child : Pid) :
    (Relay.turn child).Keeps contract (fun _ after => after = state) state := by
  refine rests.turn_keeps_call rfl fun ready => ?_
  cases ready with
  | ended status => rfl
  | noted signal =>
      refine rests.turn_keeps_call rfl fun _ => rests.turn_keeps_call rfl fun reply => ?_
      cases reply with
      | ok _ => rfl
      | error errno => exact rests.turn_keeps_call rfl fun _ => rfl

/-- Waiting comes to what is taken over from the child, in the state that it began in. -/
theorem keeps_awaitChild (rests : contract.Rests state) {child : Pid} {label : String}
    {ends : Except Failure UInt8 → State → Prop}
    (came : ∀ status, ends (concluded label status) state) :
    (awaitChild child label).run.Keeps contract ends state := by
  refine keeps_lift_bind (rests.keeps_call rfl fun _ => ?_)
  refine keeps_lift_bind ⟨trivial, (· = state), rfl, ?_⟩
  rintro _ rfl
  refine (rests.keeps_turn child).mono fun outcome after same => ?_
  cases outcome with
  | none => exact same
  | some status =>
      rw [same]
      cases status with
      | exited code => exact keeps_lift_bind (rests.keeps_call rfl fun _ => came (.exited code))
      | killed signal =>
          exact keeps_lift_bind (rests.keeps_call rfl fun _ => came (.killed signal))

end Contract.Rests

end HostnameSandbox

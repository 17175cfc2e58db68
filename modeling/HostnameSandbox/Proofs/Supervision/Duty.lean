import HostnameSandbox.Proofs.Process.Contract
import HostnameSandbox.Runner

/-!
# Supervision of a child

The contract of a process that cares for one child.  It creates the child only after it has
begun to listen to the signals that are passed on, from then on does nothing but wait for the
child and pass signals on, and comes to an end only after it has been told how the child ended.
A signal that it has taken is passed on before anything else is done.
-/

namespace HostnameSandbox

/-- What an exchange does about children and signals. -/
inductive Deed where
  | other
  /-- A child was created. -/
  | created (spawning : Spawning) (child : Pid)
  /-- A child could not be created. -/
  | refused (spawning : Spawning) (cause : Cause)
  /-- The process was told how its child ended. -/
  | told (child : Pid) (status : ExitStatus)
  /-- A noted signal was taken, to be passed on to the child. -/
  | took (child : Pid) (signal : Signal)
  /-- A signal was passed on. -/
  | passed (child : Pid) (signal : Signal)
deriving DecidableEq

/-- What an exchange does about children and signals. -/
def Exchange.deed : Exchange → Deed
  | ⟨.spawn spawning, .ok child⟩ => .created spawning child
  | ⟨.spawn spawning, .error cause⟩ => .refused spawning cause
  | ⟨.select child _, .ended status⟩ => .told child status
  | ⟨.select child _, .noted signal⟩ => .took child signal
  | ⟨.send child signal, _⟩ => .passed child signal
  | _ => .other

/-- How far a process has come in caring for a child. -/
inductive Duty where
  /-- There has been no child yet. -/
  | free
  /-- The child could not be created. -/
  | refused (cause : Cause)
  /-- There is a child that is to be waited for. -/
  | tending (child : Pid)
  /-- A signal was taken that is to be passed on to the child. -/
  | serving (child : Pid) (signal : Signal)
  /-- The process was told how its child ended. -/
  | settled (child : Pid) (status : ExitStatus)
deriving DecidableEq

namespace Duty

def child? : Duty → Option Pid
  | .tending child | .serving child _ => some child
  | .free | .refused _ | .settled _ _ => none

def signal? : Duty → Option Signal
  | .serving _ signal => some signal
  | .free | .refused _ | .tending _ | .settled _ _ => none

/-- How far a process has come after a deed more. -/
def after (duty : Duty) : Deed → Duty
  | .other => duty
  | .created _ child | .passed child _ => .tending child
  | .refused _ cause => .refused cause
  | .told child status => .settled child status
  | .took child signal => .serving child signal

/-- Which deeds there may be by how far the process has come. -/
def Permits (duty : Duty) : Deed → Prop
  | .other => True
  | .created _ _ | .refused _ _ => duty = .free
  | .told child _ | .took child _ => duty = .tending child
  | .passed child signal => duty = .serving child signal

end Duty

/-- What a process has done about its child: the signals it listens to, the path of its own
program if it was told, the names of the UTS namespaces it has read, whether some preparation
has failed, and how far it has come. -/
structure Supervisor where
  listening : List Signal
  own : Option Bytes
  names : List String
  failed : Bool
  duty : Duty

namespace Supervisor

def initial : Supervisor := ⟨[], none, [], false, .free⟩

def listeningAfter (listening : List Signal) : Exchange → List Signal
  | ⟨.react signal reaction, _⟩ =>
      if reaction = .caught then signal :: listening else listening.filter (· != signal)
  | _ => listening

def ownAfter (own : Option Bytes) : Exchange → Option Bytes
  | ⟨.ownPath, .ok path⟩ => some path
  | _ => own

def namesAfter (names : List String) : Exchange → List String
  | ⟨.namespaceOf _, .ok name⟩ => names ++ [name]
  | _ => names

def failedAfter (failed : Bool) : Exchange → Bool
  | ⟨.ownPath, .error _⟩ | ⟨.namespaceOf _, .error _⟩ | ⟨.setHostname _, .error _⟩ => true
  | _ => failed

/-- What a process has done after an exchange more. -/
def after (supervisor : Supervisor) (exchange : Exchange) : Supervisor where
  listening := listeningAfter supervisor.listening exchange
  own := ownAfter supervisor.own exchange
  names := namesAfter supervisor.names exchange
  failed := failedAfter supervisor.failed exchange
  duty := supervisor.duty.after exchange.deed

/-- A process that is not to create a child: some preparation has failed, or its namespace has
turned out to be its parent's. -/
def Hindered (supervisor : Supervisor) : Prop :=
  supervisor.failed = true ∨ ∃ name, supervisor.names = [name, name]

/-- Which calls a process may make that cares for a child, where `mayStart` says what the child
may be created from. -/
def allows (mayStart : Option Bytes → Spawning → Prop) (supervisor : Supervisor) : Call → Prop
  | .report _ => True
  | .openLog _ | .write _ _ => supervisor.duty.child? = none
  | .ownPath | .ownPid | .parentPid | .namespaceOf _ | .setHostname _ => supervisor.duty = .free
  | .react signal reaction =>
      supervisor.duty = .free ∧ (signal ∈ Relay.signals → reaction = .caught)
  | .spawn spawning =>
      supervisor.duty = .free ∧ Relay.signals ⊆ supervisor.listening ∧ ¬ supervisor.Hindered ∧
        mayStart supervisor.own spawning
  | .select child signals => supervisor.duty = .tending child ∧ signals = Relay.signals
  | .send child signal => supervisor.duty = .serving child signal
  | _ => False

end Supervisor

/-- The contract of a process that cares for a child. -/
def supervision (mayStart : Option Bytes → Spawning → Prop) : Contract Supervisor where
  allows := Supervisor.allows mayStart
  after := Supervisor.after

namespace Supervisor

variable {mayStart : Option Bytes → Spawning → Prop} {supervisor : Supervisor}

/-- The exchanges that a process may make are the deeds that it has come to. -/
theorem permits_of_allows {exchange : Exchange}
    (allowed : supervisor.allows mayStart exchange.request) :
    supervisor.duty.Permits exchange.deed := by
  obtain ⟨request, reply⟩ := exchange
  cases request with
  | spawn spawning => cases reply <;> exact allowed.1
  | select child signals => cases reply <;> exact allowed.1
  | send child signal => exact allowed
  | _ => exact trivial

/-- A process that has taken a signal reports, or passes the signal on. -/
theorem allows_serving {child : Pid} {signal : Signal} {request : Call}
    (serving : supervisor.duty = .serving child signal)
    (allowed : supervisor.allows mayStart request) :
    (∃ event, request = .report event) ∨ request = .send child signal := by
  cases request with
  | report event => exact .inl ⟨event, rfl⟩
  | send pid other =>
      obtain ⟨rfl, rfl⟩ := Duty.serving.inj (serving.symm.trans allowed)
      exact .inr rfl
  | _ => simp [allows, serving, Duty.child?] at allowed

/-- A process that waits for a child reports, or asks for the child and the signals. -/
theorem allows_tending {child : Pid} {request : Call}
    (tending : supervisor.duty = .tending child) (allowed : supervisor.allows mayStart request) :
    (∃ event, request = .report event) ∨ request = .select child Relay.signals := by
  cases request with
  | report event => exact .inl ⟨event, rfl⟩
  | select pid signals =>
      obtain ⟨tendingToo, rfl⟩ := allowed
      obtain rfl := Duty.tending.inj (tending.symm.trans tendingToo)
      exact .inr rfl
  | _ => simp [allows, tending, Duty.child?] at allowed

/-- Once it has begun to create a child, a process listens to the signals that are passed on,
and nothing has hindered it. -/
def Ready (supervisor : Supervisor) : Prop :=
  supervisor.duty ≠ .free → Relay.signals ⊆ supervisor.listening ∧ ¬ supervisor.Hindered

theorem ready_initial : initial.Ready :=
  fun begun => absurd rfl begun

/-- A process that has begun to create a child goes on listening, and is not hindered later. -/
theorem Ready.after (ready : supervisor.Ready) {exchange : Exchange}
    (allowed : supervisor.allows mayStart exchange.request) :
    (supervisor.after exchange).Ready := by
  obtain ⟨request, reply⟩ := exchange
  intro begun
  cases request with
  | spawn spawning => exact ⟨allowed.2.1, allowed.2.2.1⟩
  | select child signals =>
      refine ready ?_
      rw [allowed.1]
      exact Duty.noConfusion
  | send child signal =>
      refine ready ?_
      rw [show supervisor.duty = _ from allowed]
      exact Duty.noConfusion
  | react signal reaction => exact absurd allowed.1 begun
  | ownPath => exact absurd allowed begun
  | namespaceOf pid => exact absurd allowed begun
  | setHostname name => exact absurd allowed begun
  | _ => exact ready begun

end Supervisor

end HostnameSandbox

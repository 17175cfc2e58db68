import HostnameSandbox.Proofs.Supervision.History
import HostnameSandbox.Proofs.Supervision.Stages

/-!
# Listening processes

A process to which signals may come at any moment.  A signal that it listens to is noted, once
however often it comes, until the process asks and is told about it; of the things that have
happened, the process may be told any.
-/

namespace HostnameSandbox

def Deed.taken? : Deed → Option Signal
  | .took _ signal => some signal
  | _ => none

def Deed.passed? : Deed → Option Signal
  | .passed _ signal => some signal
  | _ => none

/-- A process, what it has exchanged since its start, and the signals that it has noted. -/
structure Listener (α : Type) where
  process : Process α
  talk : List Exchange
  noted : List Signal

/-- What happens to a listening process. -/
inductive Occurrence where
  /-- A signal comes. -/
  | arrived (signal : Signal)
  /-- The process makes a call and is answered. -/
  | made (exchange : Exchange)

namespace Listener

variable {α : Type}

def fresh (process : Process α) : Listener α := ⟨process, [], []⟩

def supervisor (listener : Listener α) : Supervisor := .of listener.talk

def duty (listener : Listener α) : Duty := listener.supervisor.duty

def note (listener : Listener α) (signal : Signal) : Listener α :=
  { listener with noted := listener.noted.insert signal }

/-- The process after an exchange; a signal that it was told about is not noted any more. -/
def exchanged (listener : Listener α) (exchange : Exchange) (process : Process α) :
    Listener α where
  process
  talk := listener.talk ++ [exchange]
  noted :=
    match exchange.deed.taken? with
    | some signal => listener.noted.filter (· != signal)
    | none => listener.noted

/-- A process is told about a signal only if it asked for it and has noted it. -/
def Answers (listener : Listener α) : Exchange → Prop
  | ⟨.select _ signals, .noted signal⟩ => signal ∈ signals ∧ signal ∈ listener.noted
  | _ => True

/-- What may happen to a listening process. -/
inductive Step : Listener α → Occurrence → Listener α → Prop
  | arrive {listener : Listener α} {signal : Signal}
      (listens : signal ∈ listener.supervisor.listening) :
      Step listener (.arrived signal) (listener.note signal)
  | make {listener : Listener α} {exchange : Exchange} {process : Process α}
      (step : listener.process.Step exchange process) (answers : listener.Answers exchange) :
      Step listener (.made exchange) (listener.exchanged exchange process)

/-- A signal is pending if it is noted, or was taken to be passed on. -/
def Pending (listener : Listener α) (signal : Signal) : Prop :=
  signal ∈ listener.noted ∨ listener.duty.signal? = some signal

variable {listener after : Listener α} {signal : Signal} {exchange : Exchange}
  {process : Process α}

@[simp]
theorem duty_note : (listener.note signal).duty = listener.duty :=
  rfl

@[simp]
theorem mem_noted_note {other : Signal} :
    other ∈ (listener.note signal).noted ↔ other = signal ∨ other ∈ listener.noted := by
  simp [note]

@[simp]
theorem duty_exchanged :
    (listener.exchanged exchange process).duty = listener.duty.after exchange.deed := by
  simp [duty, supervisor, exchanged, Supervisor.after]

@[simp]
theorem mem_noted_exchanged {other : Signal} :
    other ∈ (listener.exchanged exchange process).noted ↔
      other ∈ listener.noted ∧ exchange.deed.taken? ≠ some other := by
  unfold exchanged
  cases exchange.deed.taken? with
  | none => simp
  | some taken =>
      simp only [List.mem_filter, bne_iff_ne, ne_eq, Option.some.injEq]
      exact and_congr_right fun _ => ne_comm

/-- A process is told only about a signal that it has noted. -/
theorem Answers.mem_noted (answers : listener.Answers exchange)
    (taken : exchange.deed.taken? = some signal) :
    signal ∈ listener.noted := by
  obtain ⟨request, reply⟩ := exchange
  cases request with
  | select child signals =>
      cases reply with
      | ended status => cases taken
      | noted other =>
          cases taken
          exact answers.2
  | spawn spawning => cases reply <;> cases taken
  | send child signal => cases taken
  | _ => cases taken

end Listener

end HostnameSandbox

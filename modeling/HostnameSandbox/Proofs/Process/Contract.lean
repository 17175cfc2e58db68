import HostnameSandbox.Proofs.Process.Exchange

/-!
# Contracts of processes

A contract says which calls a process may make, by a state that follows its exchanges.  A
process keeps a contract if it makes only such calls, whatever it is answered, and has come to a
state as wanted when it comes to its value.  The rules below follow the way in which processes
are put together; a loop needs an invariant of its turns.
-/

namespace HostnameSandbox

/-- Which calls may be made in which state, and how the state follows the exchanges. -/
structure Contract (State : Type) where
  allows : State → Call → Prop
  after : State → Exchange → State

namespace Contract

variable {State : Type}

def afterAll (contract : Contract State) (state : State) (talk : List Exchange) : State :=
  talk.foldl contract.after state

@[simp]
theorem afterAll_nil (contract : Contract State) (state : State) :
    contract.afterAll state [] = state :=
  rfl

@[simp]
theorem afterAll_concat (contract : Contract State) (state : State) (talk : List Exchange)
    (exchange : Exchange) :
    contract.afterAll state (talk ++ [exchange]) =
      contract.after (contract.afterAll state talk) exchange := by
  simp [afterAll]

end Contract

section Keeping

variable {State α β : Type} {contract : Contract State}

/-- A turn makes only calls that the contract allows, and comes to its value in a state as
wanted. -/
def Turn.Keeps (contract : Contract State) (ends : α → State → Prop) : Turn α → State → Prop
  | .done value, state => ends value state
  | .call request next, state =>
      contract.allows state request ∧
        ∀ reply, (next reply).Keeps contract ends (contract.after state ⟨request, reply⟩)

def Turn.Calls : Turn α → Prop
  | .done _ => False
  | .call _ _ => True

/-- A process makes only calls that the contract allows, does not become two, and comes to its
value in a state as wanted. -/
def Process.Keeps (contract : Contract State) (ends : α → State → Prop) :
    Process α → State → Prop
  | .done value, state => ends value state
  | .call request next, state =>
      contract.allows state request ∧
        ∀ reply, (next reply).Keeps contract ends (contract.after state ⟨request, reply⟩)
  | .fork _, _ => False
  | .loop turn next, state =>
      turn.Calls ∧ ∃ invariant : State → Prop, invariant state ∧
        ∀ state, invariant state →
          turn.Keeps contract
            (fun
              | none => invariant
              | some status => (next status).Keeps contract ends)
            state

theorem Turn.Keeps.mono {ends wanted : α → State → Prop}
    (weaker : ∀ value state, ends value state → wanted value state) {turn : Turn α}
    {state : State} (keeps : turn.Keeps contract ends state) :
    turn.Keeps contract wanted state := by
  induction turn generalizing state with
  | done value => exact weaker value state keeps
  | call request next hypothesis =>
      exact ⟨keeps.1, fun reply => hypothesis reply (keeps.2 reply)⟩

theorem Process.Keeps.mono {ends wanted : α → State → Prop}
    (weaker : ∀ value state, ends value state → wanted value state) {process : Process α}
    {state : State} (keeps : process.Keeps contract ends state) :
    process.Keeps contract wanted state := by
  induction process generalizing state with
  | done value => exact weaker value state keeps
  | call request next hypothesis =>
      exact ⟨keeps.1, fun reply => hypothesis reply (keeps.2 reply)⟩
  | fork next hypothesis => exact keeps.elim
  | loop turn next hypothesis =>
      obtain ⟨calls, invariant, first, again⟩ := keeps
      refine ⟨calls, invariant, first, fun state holds => (again state holds).mono ?_⟩
      intro outcome state came
      cases outcome with
      | none => exact came
      | some status => exact hypothesis status came

theorem Turn.Keeps.before {ends : β → State → Prop} {next : α → Process β} {turn : Turn α}
    {state : State}
    (keeps : turn.Keeps contract (fun value => (next value).Keeps contract ends) state) :
    (turn.before next).Keeps contract ends state := by
  induction turn generalizing state with
  | done value => exact keeps
  | call request goOn hypothesis =>
      exact ⟨keeps.1, fun reply => hypothesis reply (keeps.2 reply)⟩

theorem Turn.keeps_bind {ends : β → State → Prop} {first : Turn α} {next : α → Turn β}
    {state : State}
    (keeps : first.Keeps contract (fun value => (next value).Keeps contract ends) state) :
    (first >>= next).Keeps contract ends state := by
  change (first.bind next).Keeps contract ends state
  induction first generalizing state with
  | done value => exact keeps
  | call request goOn hypothesis =>
      exact ⟨keeps.1, fun reply => hypothesis reply (keeps.2 reply)⟩

namespace Process

/-- A process that is followed by another one keeps the contract if both do. -/
theorem keeps_bind {ends : β → State → Prop} {first : Process α} {next : α → Process β}
    {state : State}
    (keeps : first.Keeps contract (fun value => (next value).Keeps contract ends) state) :
    (first >>= next).Keeps contract ends state := by
  change (first.bind next).Keeps contract ends state
  induction first generalizing state with
  | done value => exact keeps
  | call request goOn hypothesis =>
      exact ⟨keeps.1, fun reply => hypothesis reply (keeps.2 reply)⟩
  | fork goOn hypothesis => exact keeps.elim
  | loop turn goOn hypothesis =>
      obtain ⟨calls, invariant, first, again⟩ := keeps
      refine ⟨calls, invariant, first, fun state holds => (again state holds).mono ?_⟩
      intro outcome state came
      cases outcome with
      | none => exact came
      | some status => exact hypothesis status came

theorem keeps_ask {request : Call} {ends : request.Reply → State → Prop} {state : State}
    (allowed : contract.allows state request)
    (came : ∀ reply, ends reply (contract.after state ⟨request, reply⟩)) :
    (ask request).Keeps contract ends state :=
  ⟨allowed, came⟩

/-- A loop that keeps a contract keeps it in its first turn and after. -/
theorem Keeps.unroll {ends : α → State → Prop} {turn : Turn (Option ExitStatus)}
    {next : ExitStatus → Process α} {state : State}
    (keeps : (loop turn next).Keeps contract ends state) :
    (unroll turn next).Keeps contract ends state := by
  obtain ⟨calls, invariant, first, again⟩ := keeps
  refine Turn.Keeps.before ((again state first).mono ?_)
  intro outcome state came
  cases outcome with
  | none => exact ⟨calls, invariant, came, again⟩
  | some status => exact came

/-- A process that keeps a contract makes an allowed call, and keeps the contract after it. -/
theorem Keeps.step {ends : α → State → Prop} {process after : Process α} {exchange : Exchange}
    {state : State} (keeps : process.Keeps contract ends state)
    (step : process.Step exchange after) :
    contract.allows state exchange.request ∧
      after.Keeps contract ends (contract.after state exchange) := by
  induction step with
  | call request next reply => exact ⟨keeps.1, keeps.2 reply⟩
  | loop step hypothesis => exact hypothesis keeps.unroll

theorem Keeps.run {ends : α → State → Prop} {process after : Process α} {talk : List Exchange}
    {state : State} (keeps : process.Keeps contract ends state)
    (run : Run Step process talk after) :
    after.Keeps contract ends (contract.afterAll state talk) := by
  induction run with
  | start => exact keeps
  | next run step hypothesis =>
      rw [contract.afterAll_concat]
      exact (hypothesis.step step).2

/-- Every call that a process has made was allowed when it was made. -/
theorem Keeps.allows_of_mem {ends : α → State → Prop} {process after : Process α}
    {talk : List Exchange} {state : State} (keeps : process.Keeps contract ends state)
    (run : Run Step process talk after) {exchange : Exchange} (made : exchange ∈ talk) :
    ∃ reached, contract.allows reached exchange.request := by
  induction run with
  | start => cases made
  | next run step hypothesis =>
      rcases List.mem_append.1 made with before | now
      · exact hypothesis before
      · obtain rfl := List.mem_singleton.1 now
        exact ⟨_, ((keeps.run run).step step).1⟩

/-- A process that keeps a contract has come to its value or makes an allowed call, and goes on
with every reply to it. -/
theorem Keeps.progress {ends : α → State → Prop} {process : Process α} {state : State}
    (keeps : process.Keeps contract ends state) :
    (∃ value, process = .done value ∧ ends value state) ∨
      ∃ request, contract.allows state request ∧
        ∀ reply, ∃ after, process.Step ⟨request, reply⟩ after := by
  cases process with
  | done value => exact .inl ⟨value, rfl, keeps⟩
  | call request next =>
      exact .inr ⟨request, keeps.1, fun reply => ⟨next reply, .call request next reply⟩⟩
  | fork next => exact keeps.elim
  | loop turn next =>
      cases turn with
      | done outcome => exact keeps.1.elim
      | call request goOn =>
          have unrolled := keeps.unroll
          exact .inr ⟨request, unrolled.1, fun reply => ⟨_, .loop (.call request _ reply)⟩⟩

end Process

end Keeping

/-! ### Two contracts -/

/-- The contract of a process that keeps two contracts. -/
def Contract.both {State Other : Type} (one : Contract State) (other : Contract Other) :
    Contract (State × Other) where
  allows state request := one.allows state.1 request ∧ other.allows state.2 request
  after state exchange := (one.after state.1 exchange, other.after state.2 exchange)

section Both

variable {State Other α : Type} {one : Contract State} {other : Contract Other} {state : State}
  {also : Other}

theorem Turn.Keeps.both {ends : α → State → Prop} {finishes : α → Other → Prop} {turn : Turn α}
    (first : turn.Keeps one ends state) (second : turn.Keeps other finishes also) :
    turn.Keeps (one.both other) (fun value states => ends value states.1 ∧ finishes value states.2)
      (state, also) := by
  induction turn generalizing state also with
  | done value => exact ⟨first, second⟩
  | call request next hypothesis =>
      exact ⟨⟨first.1, second.1⟩, fun reply => hypothesis reply (first.2 reply) (second.2 reply)⟩

/-- A process that keeps each of two contracts keeps both. -/
theorem Process.Keeps.both {ends : α → State → Prop} {finishes : α → Other → Prop}
    {process : Process α} (first : process.Keeps one ends state)
    (second : process.Keeps other finishes also) :
    process.Keeps (one.both other)
      (fun value states => ends value states.1 ∧ finishes value states.2) (state, also) := by
  induction process generalizing state also with
  | done value => exact ⟨first, second⟩
  | call request next hypothesis =>
      exact ⟨⟨first.1, second.1⟩, fun reply => hypothesis reply (first.2 reply) (second.2 reply)⟩
  | fork next hypothesis => exact first.elim
  | loop turn next hypothesis =>
      obtain ⟨calls, invariant, begins, again⟩ := first
      obtain ⟨-, alsoInvariant, alsoBegins, alsoAgain⟩ := second
      refine ⟨calls, fun states => invariant states.1 ∧ alsoInvariant states.2,
        ⟨begins, alsoBegins⟩, fun states holds => ?_⟩
      refine ((again states.1 holds.1).both (alsoAgain states.2 holds.2)).mono ?_
      rintro outcome states ⟨came, alsoCame⟩
      cases outcome with
      | none => exact ⟨came, alsoCame⟩
      | some status => exact hypothesis status came alsoCame

end Both

end HostnameSandbox

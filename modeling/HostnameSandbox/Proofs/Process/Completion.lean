import HostnameSandbox.Proofs.Process.Leading
import HostnameSandbox.Proofs.Process.Sequel
import HostnameSandbox.Runner

/-!
# Runs to the end

A run of a process that comes to a value is taken apart call by call, from its first call on.  A
process that waits for its child passes on as many signals as come, until it is told how the child
has ended; and wherever it has got to, it can still come to that.
-/

namespace HostnameSandbox

theorem Run.eq_of_nil {State Label : Type} {Step : State → Label → State → Prop}
    {first last : State} (run : Run Step first [] last) : last = first := by
  generalize none : ([] : List Label) = labels at run
  cases run with
  | start => rfl
  | next before step => simp at none

/-- A run that has begun makes its first step and goes on. -/
theorem Run.cases_cons {State Label : Type} {Step : State → Label → State → Prop}
    {first last : State} {label : Label} {labels : List Label}
    (run : Run Step first (label :: labels) last) :
    ∃ between, Step first label between ∧ Run Step between labels last := by
  rw [← List.nil_append (label :: labels)] at run
  obtain ⟨before, between, none, step, goesOn⟩ := run.split_at
  obtain rfl := none.eq_of_nil
  exact ⟨between, step, goesOn⟩

namespace Process

variable {α : Type} {request : Call} {next : request.Reply → Process α} {after : Process α}
  {talk : List Exchange} {value : α}

/-- A run of a process that is about to make a call has not begun, or begins with the call. -/
theorem run_call_cases (run : Run Step (.call request next) talk after) :
    (talk = [] ∧ after = .call request next) ∨
      ∃ reply rest, talk = ⟨request, reply⟩ :: rest ∧ Run Step (next reply) rest after := by
  cases talk with
  | nil => exact .inl ⟨rfl, run.eq_of_nil⟩
  | cons exchange rest =>
      obtain ⟨between, step, goesOn⟩ := run.cases_cons
      cases step with
      | call _ _ reply => exact .inr ⟨reply, rest, rfl, goesOn⟩

theorem run_call (request : Call) {next : request.Reply → Process α} (reply : request.Reply)
    (run : Run Step (next reply) talk after) :
    Run Step (.call request next) (⟨request, reply⟩ :: talk) after :=
  .cons (.call request next reply) run

theorem run_call_done (run : Run Step (.call request next) talk (.done value)) :
    ∃ reply rest, talk = ⟨request, reply⟩ :: rest ∧
      Run Step (next reply) rest (.done value) :=
  (run_call_cases run).resolve_left fun never => nomatch never.2

theorem run_call_iff : Run Step (.call request next) talk (.done value) ↔
    ∃ reply rest, talk = ⟨request, reply⟩ :: rest ∧ Run Step (next reply) rest (.done value) :=
  ⟨run_call_done, fun ⟨reply, _, made, run⟩ => made ▸ run_call request reply run⟩

theorem run_report_iff {event : Event} {goOn : Unit → Process α} :
    Run Step (.call (.report event) goOn) talk (.done value) ↔
      ∃ rest, talk = ⟨.report event, ()⟩ :: rest ∧ Run Step (goOn ()) rest (.done value) :=
  run_call_iff.trans ⟨fun ⟨_, rest⟩ => rest, fun ⟨rest, made⟩ => ⟨(), rest, made⟩⟩

theorem run_done_iff {came : α} :
    Run Step (.done value) talk (.done came) ↔ talk = [] ∧ came = value := by
  constructor
  · intro run
    obtain ⟨rfl, same⟩ := eq_nil_of_run_done run
    cases same
    exact ⟨rfl, rfl⟩
  · rintro ⟨rfl, rfl⟩
    exact .start

/-- A run of a loop has not begun, or begins with the first call of a turn. -/
theorem run_loop_cases {turn : Turn (Option ExitStatus)} {goOn : ExitStatus → Process α}
    {again : request.Reply → Process α} (unrolled : unroll turn goOn = .call request again)
    (run : Run Step (.loop turn goOn) talk after) :
    (talk = [] ∧ after = .loop turn goOn) ∨
      ∃ reply rest, talk = ⟨request, reply⟩ :: rest ∧ Run Step (again reply) rest after := by
  cases talk with
  | nil => exact .inl ⟨rfl, run.eq_of_nil⟩
  | cons exchange rest =>
      obtain ⟨between, step, goesOn⟩ := run.cases_cons
      cases step with
      | loop step =>
          have run : Run Step (.call request again) (exchange :: rest) after :=
            .cons (unrolled ▸ step) goesOn
          exact .inr ((run_call_cases run).resolve_left fun empty => nomatch empty.1)

/-! ### Passing signals on -/

/-- The exchange by which it is told that a signal could not be passed on. -/
def complaint : Except Errno Unit → List Exchange
  | .ok () => []
  | .error errno => [⟨.report (.relayFailed errno), ()⟩]

/-- The exchanges by which a signal is passed on. -/
def passing (child : Pid) (passed : Signal × Except Errno Unit) : List Exchange :=
  ⟨.select child Relay.signals, .noted passed.1⟩ :: ⟨.report (.relaying passed.1 child), ()⟩ ::
    ⟨.send child passed.1, passed.2⟩ :: complaint passed.2

/-- The process that waits for its child. -/
def waiting (child : Pid) (goOn : ExitStatus → Process α) : Process α :=
  .loop (Relay.turn child) goOn

/-- The process that has sent its child a signal. -/
def relayed (child : Pid) (goOn : ExitStatus → Process α) : Except Errno Unit → Process α
  | .ok () => waiting child goOn
  | .error errno => .call (.report (.relayFailed errno)) fun _ => waiting child goOn

/-- The process that has been told about a signal while it waits for its child. -/
def relaying (child : Pid) (signal : Signal) (goOn : ExitStatus → Process α) : Process α :=
  .call (.report (.relaying signal child)) fun _ =>
    .call (.send child signal) (relayed child goOn)

theorem unroll_turn (child : Pid) (goOn : ExitStatus → Process α) :
    unroll (Relay.turn child) goOn = .call (.select child Relay.signals) fun
      | .ended status => goOn status
      | .noted signal => relaying child signal goOn := by
  refine congrArg (Process.call _) (funext fun ready => ?_)
  cases ready with
  | ended status => rfl
  | noted signal =>
      refine congrArg (Process.call _) (funext fun _ => ?_)
      refine congrArg (Process.call _) (funext fun reply => ?_)
      cases reply <;> rfl

theorem run_turn_cases {child : Pid} {goOn : ExitStatus → Process α}
    (run : Run Step (waiting child goOn) talk after) :
    (talk = [] ∧ after = waiting child goOn) ∨
      (∃ status rest, talk = ⟨.select child Relay.signals, .ended status⟩ :: rest ∧
        Run Step (goOn status) rest after) ∨
      ∃ signal rest, talk = ⟨.select child Relay.signals, .noted signal⟩ :: rest ∧
        Run Step (relaying child signal goOn) rest after := by
  rcases run_loop_cases (unroll_turn child goOn) run with idle | ⟨ready, rest, rfl, goesOn⟩
  · exact .inl idle
  · cases ready with
    | ended status => exact .inr (.inl ⟨status, rest, rfl, goesOn⟩)
    | noted signal => exact .inr (.inr ⟨signal, rest, rfl, goesOn⟩)

/-- A process that passes a signal on is still about to do so, or waits again afterwards. -/
theorem run_relaying_cases {child : Pid} {signal : Signal} {goOn : ExitStatus → Process α}
    (run : Run Step (relaying child signal goOn) talk after) :
    (∃ further, Run Step after further (waiting child goOn)) ∨
      ∃ reply rest, ⟨.select child Relay.signals, .noted signal⟩ :: talk =
          passing child (signal, reply) ++ rest ∧
        Run Step (waiting child goOn) rest after := by
  have sends : Run Step (.call (.send child signal) (relayed child goOn))
      [⟨.send child signal, .ok ()⟩] (waiting child goOn) :=
    run_call (.send child signal) (.ok ()) .start
  rcases run_call_cases run with ⟨rfl, rfl⟩ | ⟨_, talk, rfl, begun⟩
  · exact .inl ⟨_, run_call (.report _) () sends⟩
  rcases run_call_cases begun with ⟨rfl, rfl⟩ | ⟨reply, talk, rfl, sent⟩
  · exact .inl ⟨_, sends⟩
  cases reply with
  | ok _ => exact .inr ⟨.ok (), talk, rfl, sent⟩
  | error errno =>
      rcases run_call_cases sent with ⟨rfl, rfl⟩ | ⟨_, talk, rfl, told⟩
      · exact .inl ⟨_, run_call (.report _) () .start⟩
      · exact .inr ⟨.error errno, talk, rfl, told⟩

/-- A process that waits for its child has passed some signals on, and is told then how the child
has ended, or comes to wait again. -/
theorem run_waiting_cases {child : Pid} {goOn : ExitStatus → Process α}
    (run : Run Step (waiting child goOn) talk after) :
    (∃ further, Run Step after further (waiting child goOn)) ∨
      ∃ (passings : List _) (status : ExitStatus) (rest : List Exchange),
        talk = passings.flatMap (passing child) ++
          ⟨.select child Relay.signals, .ended status⟩ :: rest ∧
        Run Step (goOn status) rest after := by
  -- every signal that is passed on leaves a shorter run of the same loop
  induction count : talk.length using Nat.strongRecOn generalizing talk with
  | ind length hypothesis =>
      rcases run_turn_cases run with
        ⟨-, rfl⟩ | ⟨status, rest, rfl, goesOn⟩ | ⟨signal, rest, rfl, passes⟩
      · exact .inl ⟨_, .start⟩
      · exact .inr ⟨[], status, rest, rfl, goesOn⟩
      · rcases run_relaying_cases passes with still | ⟨reply, later, parts, again⟩
        · exact .inl still
        · have shorter : later.length < length := by
            have sizes := congrArg List.length parts
            simp [passing] at sizes count
            omega
          rcases hypothesis _ shorter again rfl with
            still | ⟨passings, status, rest, rfl, goesOn⟩
          · exact .inl still
          · exact .inr ⟨(signal, reply) :: passings, status, rest, by simp [parts], goesOn⟩

theorem run_passing {child : Pid} {signal : Signal} {reply : Except Errno Unit}
    {goOn : ExitStatus → Process α} (run : Run Step (waiting child goOn) talk after) :
    Run Step (waiting child goOn) (passing child (signal, reply) ++ talk) after := by
  have told : (waiting child goOn).Step ⟨.select child Relay.signals, .noted signal⟩
      (relaying child signal goOn) := by
    refine .loop ?_
    rw [unroll_turn]
    exact .call (.select child Relay.signals) _ (.noted signal)
  have sent : Run Step (relayed child goOn reply) (complaint reply ++ talk) after := by
    cases reply with
    | ok _ => exact run
    | error errno => exact run_call (.report (.relayFailed errno)) () run
  exact .cons told (run_call (.report _) () (run_call (.send _ _) reply sent))

/-- However many signals a waiting process has to pass on, it goes on as it is told that its child
has ended. -/
theorem run_waiting {child : Pid} {goOn : ExitStatus → Process α} {status : ExitStatus}
    (passings : List (Signal × Except Errno Unit))
    (run : Run Step (goOn status) talk after) :
    Run Step (waiting child goOn) (passings.flatMap (passing child) ++
      ⟨.select child Relay.signals, .ended status⟩ :: talk) after := by
  induction passings with
  | nil =>
      have told : (waiting child goOn).Step ⟨.select child Relay.signals, .ended status⟩
          (goOn status) := by
        refine .loop ?_
        rw [unroll_turn]
        exact .call (.select child Relay.signals) _ (.ended status)
      exact .cons told run
  | cons passed passings hypothesis =>
      rw [List.flatMap_cons, List.append_assoc]
      exact run_passing hypothesis

/-! ### Coming to an end -/

/-- Wherever a process has got to, it can still come to a value. -/
def Completable (process : Process α) : Prop :=
  ∀ talk after, Run Step process talk after → ∃ further value, Run Step after further (.done value)

theorem completable_done : (.done value : Process α).Completable := by
  intro talk after run
  obtain ⟨-, rfl⟩ := eq_nil_of_run_done run
  exact ⟨[], value, .start⟩

theorem completable_call (reply : request.Reply) (completable : ∀ reply, (next reply).Completable) :
    (Process.call request next).Completable := by
  intro talk after run
  rcases run_call_cases run with ⟨-, rfl⟩ | ⟨reply, rest, -, goesOn⟩
  · obtain ⟨further, value, ends⟩ := completable reply [] _ .start
    exact ⟨_, value, run_call request reply ends⟩
  · exact completable reply rest after goesOn

theorem completable_waiting {child : Pid} {goOn : ExitStatus → Process α}
    (completable : ∀ status, (goOn status).Completable) :
    (waiting child goOn).Completable := by
  intro talk after run
  rcases run_waiting_cases run with ⟨further, back⟩ | ⟨passings, status, rest, -, goesOn⟩
  · obtain ⟨later, value, ends⟩ := completable (.exited 0) [] _ .start
    exact ⟨_, value, back.trans (run_waiting [] ends)⟩
  · exact completable status rest after goesOn

section Sequences

variable {State β : Type} {contract : Contract State} {ends : α → State → Prop} {state : State}
  {first : Process α} {goOn : α → Process β}

theorem Keeps.completable_bind (keeps : first.Keeps contract ends state)
    (completable : first.Completable) (completableToo : ∀ value, (goOn value).Completable) :
    (first >>= goOn).Completable := by
  intro talk after run
  rcases keeps.run_bind_cases run with ⟨between, begun, rfl⟩ | ⟨opening, rest, value, -, -, later⟩
  · obtain ⟨further, value, ends⟩ := completable _ _ begun
    obtain ⟨rest, result, endsToo⟩ := completableToo value [] _ .start
    exact ⟨further ++ rest, result, (run_bind ends goOn).trans endsToo⟩
  · exact completableToo value rest after later

/-- A process that is followed by another one comes to a value if the first does and the second one
after it. -/
theorem Keeps.run_bind_iff {value : β} (keeps : first.Keeps contract ends state) :
    Run Step (first >>= goOn) talk (.done value) ↔
      ∃ opening rest between, talk = opening ++ rest ∧ Run Step first opening (.done between) ∧
        Run Step (goOn between) rest (.done value) := by
  constructor
  · intro run
    rcases keeps.run_bind_cases run with ⟨reached, begun, ended⟩ | finished
    · cases reached with
      | done between =>
          have is : goOn between = .done value := ended.symm
          exact ⟨talk, [], between, (List.append_nil _).symm, begun, is ▸ .start⟩
      | call asked further => cases ended
      | fork further => cases ended
      | loop turn further => cases ended
    · exact finished
  · rintro ⟨opening, rest, between, rfl, begun, finished⟩
    exact (run_bind begun goOn).trans finished

end Sequences

end Process

end HostnameSandbox

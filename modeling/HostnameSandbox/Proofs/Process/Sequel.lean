import HostnameSandbox.Proofs.Process.Contract

/-!
# Processes that follow each other

A process goes on in one way only by a reply.  A process that is followed by another one makes the
calls of the first until that has come to its value, and then those of the second.
-/

namespace HostnameSandbox

namespace Process

variable {State α β : Type} {contract : Contract State} {ends : α → State → Prop} {state : State}
  {first between : Process α} {next : α → Process β} {after : Process β} {exchange : Exchange}
  {talk : List Exchange}

theorem bind_before {γ : Type} (turn : Turn γ) (goOn : γ → Process α) (next : α → Process β) :
    (turn.before goOn).bind next = turn.before fun value => (goOn value).bind next := by
  induction turn with
  | done value => rfl
  | call request again hypothesis => simp [Turn.before, Process.bind, hypothesis]

theorem bind_unroll (turn : Turn (Option ExitStatus)) (goOn : ExitStatus → Process α)
    (next : α → Process β) :
    (unroll turn goOn).bind next = unroll turn fun status => (goOn status).bind next := by
  rw [unroll, bind_before, unroll]
  congr 1
  funext outcome
  cases outcome <;> rfl

/-- A step of a process that is followed by another one is a step of the first, or of the second
one if the first has come to its value. -/
theorem Keeps.step_bind_cases (keeps : first.Keeps contract ends state)
    (step : (first >>= next).Step exchange after) :
    (∃ between, first.Step exchange between ∧ after = between >>= next) ∨
      ∃ value, first = .done value ∧ (next value).Step exchange after := by
  change (first.bind next).Step exchange after at step
  generalize whole : first.bind next = process at step
  induction step generalizing first with
  | call request goOn reply =>
      cases first with
      | done value =>
          have is : next value = .call request goOn := whole
          exact .inr ⟨value, rfl, is ▸ .call request goOn reply⟩
      | call asked goesOn =>
          cases whole
          exact .inl ⟨goesOn reply, .call request goesOn reply, rfl⟩
      | fork goesOn => cases whole
      | loop turn goesOn => cases whole
  | @loop turn again exchange after step hypothesis =>
      cases first with
      | done value =>
          have is : next value = .loop turn again := whole
          exact .inr ⟨value, rfl, is ▸ .loop step⟩
      | call asked goesOn => cases whole
      | fork goesOn => cases whole
      | loop turn goesOn =>
          cases whole
          rcases hypothesis keeps.unroll (bind_unroll turn goesOn next) with
            ⟨between, stepped, rfl⟩ | ⟨value, unrolled, -⟩
          · exact .inl ⟨between, .loop stepped, rfl⟩
          -- a turn of a loop makes a call before it comes to anything
          · cases turn with
            | done outcome => exact keeps.1.elim
            | call request goOn => cases unrolled

/-- A run of a process that is followed by another one is a run of the first, or one of the first
to its value and one of the second. -/
theorem Keeps.run_bind_cases (keeps : first.Keeps contract ends state)
    (run : Run Step (first >>= next) talk after) :
    (∃ between, Run Step first talk between ∧ after = between >>= next) ∨
      ∃ opening rest value, talk = opening ++ rest ∧ Run Step first opening (.done value) ∧
        Run Step (next value) rest after := by
  induction run with
  | start => exact .inl ⟨first, .start, rfl⟩
  | @next talk exchange between last run step hypothesis =>
      rcases hypothesis with ⟨reached, before, rfl⟩ | ⟨opening, rest, value, rfl, before, goesOn⟩
      · rcases (keeps.run before).step_bind_cases step with
          ⟨further, stepped, rfl⟩ | ⟨value, rfl, stepped⟩
        · exact .inl ⟨further, .next before stepped, rfl⟩
        · exact .inr ⟨talk, [exchange], value, rfl, before, .next .start stepped⟩
      · exact .inr ⟨opening, rest ++ [exchange], value, by simp, before, .next goesOn step⟩

/-- A process goes on in one way only by a reply. -/
theorem Step.unique {process reached other : Process α} (step : process.Step exchange reached)
    (stepToo : process.Step exchange other) : reached = other := by
  induction step with
  | call request goOn reply =>
      cases stepToo with
      | call => rfl
  | loop step hypothesis =>
      cases stepToo with
      | loop stepToo => exact hypothesis stepToo

/-- What a process has exchanged tells how far it has come. -/
theorem run_unique {process reached other : Process α} (run : Run Step process talk reached)
    (runToo : Run Step process talk other) : reached = other := by
  induction run generalizing other with
  | start =>
      generalize none : ([] : List Exchange) = talk at runToo
      cases runToo with
      | start => rfl
      | next before step => simp at none
  | next run step hypothesis =>
      obtain ⟨between, before, stepToo⟩ := runToo.last_step
      obtain rfl := hypothesis before
      exact step.unique stepToo

theorem Step.bind {reached : Process α} (step : first.Step exchange reached)
    (next : α → Process β) : (first >>= next).Step exchange (reached >>= next) := by
  change (first.bind next).Step exchange (reached.bind next)
  induction step with
  | call request goOn reply => exact .call request (fun reply => (goOn reply).bind next) reply
  | @loop turn goOn exchange reached step hypothesis =>
      rw [bind_unroll] at hypothesis
      exact .loop hypothesis

theorem run_bind (run : Run Step first talk between) (next : α → Process β) :
    Run Step (first >>= next) talk (between >>= next) := by
  induction run with
  | start => exact .start
  | next run step hypothesis => exact .next hypothesis (step.bind next)

end Process

end HostnameSandbox

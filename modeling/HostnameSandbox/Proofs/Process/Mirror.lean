import HostnameSandbox.Proofs.Process.Contract
import Mathlib.Data.List.Forall2

/-!
# Processes that do the same apart from their reports

Two processes mirror each other if they make the same calls and do the same by the same replies,
where their reports do not count and the children that they create may differ in a certain way.
Whatever one of them exchanges in a run, the other one exchanges in some run of its own; so what
comes of the one is what comes of the other, on every host that answers them alike.
-/

namespace HostnameSandbox

variable {α β γ δ : Type}

/-- Two processes make the same calls and do the same by the same replies, up to reports.  `Like`
says how the children that they create correspond, and `Same` how their values do. -/
inductive Process.Mirrors (Like : Spawning → Spawning → Prop) (Same : α → β → Prop) :
    Process α → Process β → Prop
  | done {value : α} {other : β} (same : Same value other) :
      Mirrors Like Same (.done value) (.done other)
  | call (request : Call) {next : request.Reply → Process α} {goOn : request.Reply → Process β}
      (goesOn : ∀ reply, Mirrors Like Same (next reply) (goOn reply)) :
      Mirrors Like Same (.call request next) (.call request goOn)
  | spawn {spawning other : Spawning} (like : Like spawning other)
      {next : Except Cause Pid → Process α} {goOn : Except Cause Pid → Process β}
      (goesOn : ∀ reply, Mirrors Like Same (next reply) (goOn reply)) :
      Mirrors Like Same (.call (.spawn spawning) next) (.call (.spawn other) goOn)
  | report (event : Event) {next : Unit → Process α} {process : Process β}
      (goesOn : Mirrors Like Same (next ()) process) :
      Mirrors Like Same (.call (.report event) next) process
  | reportToo (event : Event) {process : Process α} {goOn : Unit → Process β}
      (goesOn : Mirrors Like Same process (goOn ())) :
      Mirrors Like Same process (.call (.report event) goOn)
  | loop (turn : Turn (Option ExitStatus)) (calls : turn.Calls) {next : ExitStatus → Process α}
      {goOn : ExitStatus → Process β}
      (goesOn : ∀ status, Mirrors Like Same (next status) (goOn status)) :
      Mirrors Like Same (.loop turn next) (.loop turn goOn)

/-- Two exchanges are alike if they are the same, or create children that correspond and are
answered alike. -/
inductive Exchange.Alike (Like : Spawning → Spawning → Prop) : Exchange → Exchange → Prop
  | same (exchange : Exchange) : Alike Like exchange exchange
  | spawn {spawning other : Spawning} (like : Like spawning other) (reply : Except Cause Pid) :
      Alike Like ⟨.spawn spawning, reply⟩ ⟨.spawn other, reply⟩

theorem Exchange.Alike.symm {Like : Spawning → Spawning → Prop} {exchange other : Exchange}
    (alike : Alike (fun one another => Like another one) exchange other) :
    Alike Like other exchange := by
  cases alike with
  | same => exact .same exchange
  | spawn like reply => exact .spawn like reply

def Exchange.isReport : Exchange → Bool
  | ⟨.report _, _⟩ => true
  | _ => false

/-- The exchanges that are not reports. -/
def unreported (talk : List Exchange) : List Exchange :=
  talk.filter fun exchange => !exchange.isReport

@[simp]
theorem unreported_append (first second : List Exchange) :
    unreported (first ++ second) = unreported first ++ unreported second :=
  List.filter_append first second

namespace Process

/-- Whether a process may make some exchanges, up to reports, at its beginning. -/
def Makes (process : Process α) (talk : List Exchange) : Prop :=
  ∃ whole after, Run Step process whole after ∧ unreported whole = talk

/-- Whether a process may come to a value after some exchanges, up to reports. -/
def ComesTo (process : Process α) (talk : List Exchange) (value : α) : Prop :=
  ∃ whole, Run Step process whole (.done value) ∧ unreported whole = talk

variable {Like : Spawning → Spawning → Prop} {Same : α → β → Prop} {process after : Process α}
  {other : Process β} {talk : List Exchange} {exchange : Exchange}

namespace Mirrors

theorem symm (mirrors : Mirrors Like Same process other) :
    Mirrors (fun one another => Like another one) (fun one another => Same another one) other
      process := by
  induction mirrors with
  | done same => exact .done same
  | call request _ hypothesis => exact .call request hypothesis
  | spawn like _ hypothesis =>
      refine .spawn ?_ hypothesis
      exact like
  | report event _ hypothesis => exact .reportToo event hypothesis
  | reportToo event _ hypothesis => exact .report event hypothesis
  | loop turn calls _ hypothesis => exact .loop turn calls hypothesis

/-- Processes that mirror each other do so together with what follows them. -/
theorem bind {Also : γ → δ → Prop} {next : α → Process γ} {goOn : β → Process δ}
    (mirrors : Mirrors Like Same process other)
    (goesOn : ∀ value another, Same value another → Mirrors Like Also (next value) (goOn another)) :
    Mirrors Like Also (process >>= next) (other >>= goOn) := by
  change Mirrors Like Also (process.bind next) (other.bind goOn)
  induction mirrors with
  | done same => exact goesOn _ _ same
  | call request _ hypothesis => exact .call request hypothesis
  | spawn like _ hypothesis => exact .spawn like hypothesis
  | report event _ hypothesis => exact .report event hypothesis
  | reportToo event _ hypothesis => exact .reportToo event hypothesis
  | loop turn calls _ hypothesis => exact .loop turn calls hypothesis

theorem before {turn : Turn γ} {next : γ → Process α} {goOn : γ → Process β}
    (goesOn : ∀ value, Mirrors Like Same (next value) (goOn value)) :
    Mirrors Like Same (turn.before next) (turn.before goOn) := by
  induction turn with
  | done value => exact goesOn value
  | call request again hypothesis => exact .call request hypothesis

/-- What one of two processes exchanges in a step, the other one does in a few steps. -/
theorem step (mirrors : Mirrors Like Same process other) (step : process.Step exchange after) :
    ∃ made reached, Run Step other made reached ∧ Mirrors Like Same after reached ∧
      List.Forall₂ (Exchange.Alike Like) (unreported [exchange]) (unreported made) := by
  -- A step of a process that has no further one on its side is answered by one step.
  have answered {another : Process β} {made : Exchange} {reached : Process β}
      (goes : another.Step made reached) (mirrored : Mirrors Like Same after reached)
      (alike : exchange.Alike Like made) :
      ∃ made reached, Run Step another made reached ∧ Mirrors Like Same after reached ∧
        List.Forall₂ (Exchange.Alike Like) (unreported [exchange]) (unreported made) := by
    refine ⟨[made], reached, .cons goes .start, mirrored, ?_⟩
    cases alike with
    | same =>
        cases kind : exchange.isReport with
        | true => simp [unreported, kind]
        | false => simpa [unreported, kind] using Exchange.Alike.same exchange
    | spawn like reply => exact .cons (.spawn like reply) .nil
  induction mirrors with
  | done same => cases step
  | call request goesOn hypothesis =>
      cases step with
      | call _ _ reply => exact answered (.call request _ reply) (goesOn reply) (.same _)
  | @spawn spawning created like next goOn goesOn hypothesis =>
      cases step with
      | call _ _ reply =>
          have goes : (Process.call (.spawn created) goOn).Step ⟨.spawn created, reply⟩
              (goOn reply) := .call (.spawn created) goOn reply
          exact answered goes (goesOn reply) (.spawn like reply)
  | report event goesOn hypothesis =>
      cases step with
      | call _ _ reply => exact ⟨[], _, .start, goesOn, .nil⟩
  | reportToo event goesOn hypothesis =>
      obtain ⟨made, reached, run, mirrored, alike⟩ := hypothesis step
      exact ⟨_, reached, .cons (.call _ _ ()) run, mirrored, alike⟩
  | loop turn calls goesOn hypothesis =>
      cases turn with
      | done outcome => exact calls.elim
      | call request again =>
          cases step with
          | loop step =>
              cases step with
              | call _ _ reply =>
                  refine answered (.loop (.call request _ reply)) (before fun outcome => ?_)
                    (.same _)
                  cases outcome with
                  | none => exact .loop _ calls goesOn
                  | some status => exact goesOn status

/-- What one of two processes exchanges in a run, the other one does in some run. -/
theorem run (mirrors : Mirrors Like Same process other) (run : Run Step process talk after) :
    ∃ made reached, Run Step other made reached ∧ Mirrors Like Same after reached ∧
      List.Forall₂ (Exchange.Alike Like) (unreported talk) (unreported made) := by
  induction run with
  | start => exact ⟨[], other, .start, mirrors, .nil⟩
  | next run step hypothesis =>
      obtain ⟨made, between, goes, mirrored, alike⟩ := hypothesis
      obtain ⟨more, reached, further, mirroredToo, alikeToo⟩ := mirrored.step step
      refine ⟨made ++ more, reached, goes.trans further, mirroredToo, ?_⟩
      rw [unreported_append, unreported_append]
      exact List.rel_append alike alikeToo

/-- Where one of two processes has come to its value, the other one comes to its value with
reports only. -/
theorem finish {value : α} (mirrors : Mirrors Like Same (.done value) other) :
    ∃ made reached, Run Step other made (.done reached) ∧ unreported made = [] ∧
      Same value reached := by
  generalize whole : (Process.done value : Process α) = process at mirrors
  induction mirrors with
  | done same =>
      cases whole
      exact ⟨[], _, .start, rfl, same⟩
  | reportToo event goesOn hypothesis =>
      obtain ⟨made, reached, run, silent, same⟩ := hypothesis whole
      exact ⟨_, reached, .cons (.call _ _ ()) run, silent, same⟩
  | call => cases whole
  | spawn => cases whole
  | report => cases whole
  | loop => cases whole

theorem makes (mirrors : Mirrors Like Same process other) (makes : process.Makes talk) :
    ∃ made, other.Makes made ∧ List.Forall₂ (Exchange.Alike Like) talk made := by
  obtain ⟨whole, after, run, rfl⟩ := makes
  obtain ⟨made, reached, goes, -, alike⟩ := mirrors.run run
  exact ⟨_, ⟨made, reached, goes, rfl⟩, alike⟩

/-- What one of two processes comes to, the other one comes to after exchanges alike. -/
theorem comesTo {value : α} (mirrors : Mirrors Like Same process other)
    (comes : process.ComesTo talk value) :
    ∃ made reached, other.ComesTo made reached ∧ Same value reached ∧
      List.Forall₂ (Exchange.Alike Like) talk made := by
  obtain ⟨whole, run, rfl⟩ := comes
  obtain ⟨made, between, goes, mirrored, alike⟩ := mirrors.run run
  obtain ⟨more, reached, further, silent, same⟩ := mirrored.finish
  refine ⟨unreported made, reached, ⟨made ++ more, goes.trans further, ?_⟩, same, alike⟩
  rw [unreported_append, silent, List.append_nil]

end Mirrors

/-- Actions that mirror each other do so together with what follows them. -/
theorem mirrors_action_bind {Also : Except Failure δ → Except Failure δ → Prop}
    {first second : Action γ} {next goOn : γ → Action δ}
    (mirrors : Mirrors Like Eq first.run second.run)
    (fails : ∀ failure, Also (.error failure) (.error failure))
    (goesOn : ∀ value, Mirrors Like Also (next value).run (goOn value).run) :
    Mirrors Like Also (first >>= next).run (second >>= goOn).run := by
  refine mirrors.bind fun result another same => ?_
  subst same
  cases result with
  | ok value => exact goesOn value
  | error failure => exact .done (fails failure)

end Process

end HostnameSandbox

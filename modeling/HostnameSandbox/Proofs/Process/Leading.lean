import HostnameSandbox.Proofs.Process.Exchange

/-!
# Processes that make certain calls first

Some processes make the same calls first whatever they are answered, and go on as the same
process then.  What such a process exchanges in a run begins with these calls, and the rest of
the run is one of the process that it goes on as.
-/

namespace HostnameSandbox

namespace Process

/-- Whatever it is answered, a process makes certain calls and then goes on as `last`. -/
inductive Leads {α : Type} (last : Process α) : List Call → Process α → Prop
  | here : Leads last [] last
  | call {request : Call} {next : request.Reply → Process α} {calls : List Call}
      (leads : ∀ reply, Leads last calls (next reply)) :
      Leads last (request :: calls) (.call request next)

/-- A process that has come to its value makes no calls. -/
theorem eq_nil_of_run_done {α : Type} {value : α} {talk : List Exchange} {after : Process α}
    (run : Run Step (.done value) talk after) : talk = [] ∧ after = .done value := by
  induction run with
  | start => exact ⟨rfl, rfl⟩
  | next run step hypothesis =>
      obtain ⟨-, rfl⟩ := hypothesis
      cases step

namespace Leads

variable {α β : Type} {process between last after : Process α} {calls later : List Call}
  {talk : List Exchange} {exchange : Exchange} {request : Call}

theorem trans (first : Leads between calls process) (second : Leads last later between) :
    Leads last (calls ++ later) process := by
  induction first with
  | here => exact second
  | call leads hypothesis => exact .call hypothesis

/-- A process that comes to a value after certain calls goes on with what depends on the value. -/
theorem bind {first : Process β} {value : β} (leads : Leads (.done value) calls first)
    (next : β → Process α) : Leads (next value) calls (first >>= next) := by
  induction leads with
  | here => exact .here
  | call leads hypothesis => exact .call hypothesis

theorem step (leads : Leads last (request :: calls) process)
    (step : process.Step exchange after) :
    exchange.request = request ∧ Leads last calls after := by
  cases leads with
  | call leads =>
      cases step with
      | call _ _ reply => exact ⟨rfl, leads reply⟩

/-- A run makes some of the calls, or all of them and goes on from there. -/
theorem run_cases (leads : Leads last calls process) (run : Run Step process talk after) :
    (∃ rest, calls = talk.map Exchange.request ++ rest ∧ Leads last rest after) ∨
      ∃ opening rest, talk = opening ++ rest ∧ opening.map Exchange.request = calls ∧
        Run Step last rest after := by
  induction run with
  | start => exact .inl ⟨calls, rfl, leads⟩
  | @next talk exchange between after run step hypothesis =>
      rcases hypothesis with ⟨rest, rfl, ahead⟩ | ⟨opening, rest, rfl, made, run⟩
      · cases rest with
        | nil =>
            refine .inr ⟨talk, [exchange], rfl, (List.append_nil _).symm, ?_⟩
            cases ahead
            exact .next .start step
        | cons request rest =>
            obtain ⟨rfl, further⟩ := ahead.step step
            exact .inl ⟨rest, by simp, further⟩
      · exact .inr ⟨opening, rest ++ [exchange], by simp, made, .next run step⟩

/-- Whatever the replies to the calls are, a process makes them and goes on as the last one. -/
theorem run_of_all (leads : Leads last calls process)
    (all : talk.map Exchange.request = calls) : Run Step process talk last := by
  induction leads generalizing talk with
  | here =>
      obtain rfl := List.map_eq_nil_iff.1 all
      exact .start
  | @call request next calls leads hypothesis =>
      obtain ⟨⟨asked, reply⟩, rest, rfl, same, others⟩ := List.map_eq_cons_iff.1 all
      obtain rfl : asked = request := same
      exact .cons (.call asked next reply) (hypothesis reply others)

/-- A run to the end makes all the calls. -/
theorem prefix_of_done {value : α} (leads : Leads last calls process)
    (run : Run Step process talk (.done value)) : calls <+: talk.map Exchange.request := by
  rcases leads.run_cases run with ⟨rest, rfl, ahead⟩ | ⟨opening, rest, rfl, rfl, -⟩
  · cases ahead
    simp
  · simp

/-- A process that comes to a value after certain calls makes no other ones. -/
theorem request_mem {value : α} (leads : Leads (.done value) calls process)
    (run : Run Step process talk after) (made : exchange ∈ talk) : exchange.request ∈ calls := by
  have within : talk.map Exchange.request <+: calls := by
    rcases leads.run_cases run with ⟨rest, rfl, -⟩ | ⟨opening, rest, rfl, rfl, run⟩
    · exact List.prefix_append _ _
    · obtain ⟨rfl, -⟩ := eq_nil_of_run_done run
      simp
  exact within.subset (List.mem_map_of_mem made)

end Leads

end Process

end HostnameSandbox

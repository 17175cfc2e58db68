import HostnameSandbox.Proofs.Family.Signals
import HostnameSandbox.Proofs.Supervision.Brevity

/-!
# Families to which no signal is sent

As long as nobody outside sends a signal to a family, there is no signal in it.  Its stages make
a bounded number of calls, and end by themselves unless they are struck.
-/

namespace HostnameSandbox

/-- How a process may have ended to which no signal was sent: a stage by itself, or struck. -/
structure Member.EndedQuietly (member : Member) (pid : Pid) (status : ExitStatus)
    (trace : List Happening) : Prop where
  possible : status.IsPossible
  stage : ∀ {start listener}, member.role = .stage start listener →
    (∃ code, status = .exited code ∧ listener.process = .done code) ∨
      ∃ signal, status = .killed signal ∧ .struck pid signal ∈ trace

namespace Family

variable {itself : Bytes → Bool} {root pid : Pid} {family after : Family}
  {happening : Happening} {trace : List Happening} {start : Start} {listener : Listener UInt8}
  {exchange : Exchange}

/-- What is known of a family to which no signal was sent. -/
structure Quiet (itself : Bytes → Bool) (root : Pid) (trace : List Happening) (family : Family) :
    Prop where
  sound : Sound itself root family
  silent : Carries (fun _ => False) family
  /-- A stage that was told the path of its program was told the truth. -/
  own : ∀ {pid start listener path}, family.Plays pid start listener →
    listener.supervisor.own = some path → itself path = true
  /-- A stage makes no more calls than the program does without being told about a signal. -/
  brief : ∀ {pid start listener}, family.Plays pid start listener →
    listener.process.Keeps (brevity Sandbox.greatestBrevity) (fun _ _ => True)
      (Sandbox.greatestBrevity - listener.talk.length)
  ended : ∀ {pid member status}, family pid = some member → member.ending = some status →
    member.EndedQuietly pid status trace

theorem Answers.own (answers : family.Answers itself pid exchange) {own : Option Bytes}
    {path : Bytes} (told : Supervisor.ownAfter own exchange = some path) :
    own = some path ∨ itself path = true := by
  obtain ⟨request, reply⟩ := exchange
  cases request with
  | ownPath =>
      cases reply with
      | ok found =>
          cases told
          exact .inr answers
      | error cause => exact .inl told
  | _ => exact .inl told

/-- A stage that was told the path of its program was told the truth, if it was so before. -/
theorem Step.itself_of_own (step : Step itself family happening after)
    (truthful : ∀ {pid start listener path}, family.Plays pid start listener →
      listener.supervisor.own = some path → itself path = true)
    {path : Bytes} (plays : after.Plays pid start listener)
    (told : listener.supervisor.own = some path) : itself path = true := by
  rcases step.plays plays with ⟨rfl, -⟩ | ⟨member, own, present, role, goes⟩
  · cases told
  · have earlier (told : own.supervisor.own = some path) : itself path = true :=
      truthful ⟨member, present, role⟩ told
    cases goes with
    | stay idle => exact earlier told
    | come coming step =>
        cases step with
        | arrive listens => exact earlier told
    | make running step answers =>
        cases step with
        | make step _ =>
            simp only [Listener.supervisor, Listener.exchanged, Supervisor.of_concat] at told
            rcases answers.own told with before | found
            · exact earlier before
            · exact found

/-- In a quiet family, no stage is told about a signal. -/
theorem Carries.ne_took (silent : Carries (fun _ => False) family)
    (plays : family.Plays pid start listener) (answers : listener.Answers exchange)
    {child : Pid} {signal : Signal} : exchange.deed ≠ .took child signal := by
  intro took
  obtain ⟨member, present, role⟩ := plays
  have noted : signal ∈ listener.noted := answers.mem_noted (by rw [took]; rfl)
  exact (silent pid member present).2 start listener role signal (.inl noted)

theorem brevity_after {full left : Nat}
    (plain : ∀ child signal, exchange.deed ≠ .took child signal) :
    (brevity full).after left exchange = left - 1 := by
  unfold brevity
  dsimp only
  split
  · next child signal took => exact absurd took (plain child signal)
  · rfl

theorem Quiet.ofStart (itself : Bytes → Bool) (root : Pid) (start : Start) :
    Quiet itself root [] (.start root start) where
  sound := .ofStart itself root start
  silent := .ofStart _ root start
  own := by
    rintro pid begun listener path ⟨member, present, role⟩ told
    obtain ⟨-, rfl⟩ := eq_of_start present
    cases role
    cases told
  brief := by
    rintro pid begun listener ⟨member, present, role⟩
    obtain ⟨-, rfl⟩ := eq_of_start present
    cases role
    exact Sandbox.keeps_brevity start
  ended := by
    intro pid member status present ended
    obtain ⟨-, rfl⟩ := eq_of_start present
    cases ended

theorem Quiet.next (quiet : Quiet itself root trace family)
    (step : Step itself family happening after)
    (unsent : ∀ pid signal, happening ≠ .sent pid signal) :
    Quiet itself root (trace ++ [happening]) after where
  sound := quiet.sound.next step
  silent := quiet.silent.next quiet.sound step fun pid signal sent => unsent pid signal sent
  own plays told := step.itself_of_own quiet.own plays told
  brief := by
    intro pid start listener plays
    rcases step.plays plays with ⟨rfl, -⟩ | ⟨member, own, present, role, goes⟩
    · exact Sandbox.keeps_brevity start
    · have played : family.Plays pid start own := ⟨member, present, role⟩
      have before := quiet.brief played
      cases goes with
      | stay idle => exact before
      | come coming step =>
          cases step with
          | arrive listens => exact before
      | make running step answers =>
          cases step with
          | make step replies =>
              have keeps := (before.step step).2
              rw [brevity_after fun _ _ => quiet.silent.ne_took played replies] at keeps
              rw [Nat.sub_sub] at keeps
              simpa [Listener.exchanged] using keeps
  ended := by
    intro pid later status reached ended
    cases present : family pid with
    | none =>
        obtain ⟨parent, member, _, _, _, _, -, -, -, -, rfl⟩ := step.news present reached
        cases ended
    | some member =>
        rcases step.ends present reached ended with before | ⟨-, sameRole, ends⟩
        · obtain ⟨next, reachedToo, evolves⟩ := step.evolves present
          cases reached.symm.trans reachedToo
          have was := quiet.ended present before
          refine ⟨was.possible, fun role => ?_⟩
          rw [(evolves.ended status before).2] at role
          rcases was.stage role with done | ⟨signal, same, struck⟩
          · exact .inl done
          · exact .inr ⟨signal, same, List.mem_append_left _ struck⟩
        · have now : happening ∈ trace ++ [happening] :=
            List.mem_append_right _ (List.mem_singleton.2 rfl)
          cases ends with
          | finish stage done =>
              refine ⟨trivial, fun role => .inl ⟨_, rfl, ?_⟩⟩
              cases (sameRole.symm.trans role).symm.trans stage
              exact done
          | die stage coming deaf => exact ((quiet.silent pid member present).1 _ coming).elim
          | depart other possible =>
              refine ⟨possible, fun role => ?_⟩
              cases (sameRole.symm.trans role).symm.trans other
          | strike stage possible => exact ⟨possible, fun role => .inr ⟨_, rfl, now⟩⟩

/-- A family that comes from one process is quiet if no signal was sent to it. -/
theorem Quiet.of_run {first : Start} (run : Run (Step itself) (.start root first) trace family)
    (unsent : ∀ pid signal, .sent pid signal ∉ trace) : Quiet itself root trace family := by
  induction run with
  | start => exact .ofStart itself root first
  | @next trace happening between last run step hypothesis =>
      refine (hypothesis fun pid signal sent => ?_).next step fun pid signal same => ?_
      · exact unsent pid signal (List.mem_append_left _ sent)
      · exact unsent pid signal (List.mem_append_right _ (List.mem_singleton.2 same.symm))

end Family

end HostnameSandbox

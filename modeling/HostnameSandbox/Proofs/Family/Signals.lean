import HostnameSandbox.Proofs.Family.Bonds

/-!
# Signals in a family

A signal that is on its way in a family, noted by a stage or about to be passed on by one, was
sent by somebody outside: the stages only pass on what has come to them.
-/

namespace HostnameSandbox

namespace Family

variable {itself : Bytes → Bool} {root pid : Pid} {family after : Family}
  {happening : Happening} {signal : Signal}

/-- All signals that are on their way, noted or about to be passed on are of a certain kind. -/
def Carries (known : Signal → Prop) (family : Family) : Prop :=
  ∀ pid member, family pid = some member →
    (∀ signal ∈ member.coming, known signal) ∧
      ∀ start listener, member.role = .stage start listener →
        ∀ signal, listener.Pending signal → known signal

theorem mem_coming_affected {environment : Environment} {deed : Deed} {later : Member}
    {parent : Pid} (reached : family.affected itself parent environment deed pid = some later)
    (coming : signal ∈ later.coming) :
    (∃ member, family pid = some member ∧ signal ∈ member.coming) ∨
      deed = .passed pid signal := by
  cases deed with
  | created spawning child =>
      by_cases same : pid = child
      · subst same
        cases set_self.symm.trans reached
        cases coming
      · exact .inl ⟨later, (set_of_ne same).symm.trans reached, coming⟩
  | passed child sent =>
      change family.post child sent pid = some later at reached
      unfold post at reached
      cases there : family child with
      | none =>
          rw [there] at reached
          exact .inl ⟨later, reached, coming⟩
      | some member =>
          rw [there] at reached
          by_cases same : pid = child
          · subst same
            cases set_self.symm.trans reached
            rcases List.mem_insert_iff.1 coming with rfl | coming
            · exact .inr rfl
            · exact .inl ⟨member, there, coming⟩
          · exact .inl ⟨later, (set_of_ne same).symm.trans reached, coming⟩
  | _ => exact .inl ⟨later, reached, coming⟩

/-- A signal that is on its way was so before, was just sent by somebody outside, or was passed
on by the parent. -/
theorem Step.mem_coming {later : Member} (step : Step itself family happening after)
    (reached : after pid = some later) (coming : signal ∈ later.coming) :
    (∃ member, family pid = some member ∧ signal ∈ member.coming) ∨
      happening = .sent pid signal ∨
      ∃ parent exchange, happening = .made parent exchange ∧
        exchange.deed = .passed pid signal := by
  have kept : ∀ {other : Pid} {member next found : Member}, family other = some member →
      family.set other next pid = some found → next.coming ⊆ member.coming →
        signal ∈ found.coming → ∃ member, family pid = some member ∧ signal ∈ member.coming := by
    intro other member next found there set fewer isComing
    by_cases same : pid = other
    · subst same
      cases set_self.symm.trans set
      exact ⟨member, there, fewer isComing⟩
    · exact ⟨found, (set_of_ne same).symm.trans set, isComing⟩
  cases step with
  | @send other member start listener sent there stage running relayed =>
      by_cases same : pid = other
      · subst same
        cases set_self.symm.trans reached
        rcases List.mem_insert_iff.1 coming with rfl | coming
        · exact .inr (.inl rfl)
        · exact .inl ⟨member, there, coming⟩
      · exact .inl ⟨later, (set_of_ne same).symm.trans reached, coming⟩
  | come there stage running isComing step =>
      exact .inl (kept there reached (List.filter_sublist.subset) coming)
  | die there stage running isComing deaf =>
      exact .inl (kept there reached (List.Subset.refl _) coming)
  | @make other member start listener next exchange there stage running step answers =>
      rcases mem_coming_affected reached coming with ⟨found, present, coming⟩ | passed
      · exact .inl (kept there present (List.Subset.refl _) coming)
      · exact .inr (.inr ⟨other, exchange, rfl, passed⟩)
  | finish there stage running done =>
      exact .inl (kept there reached (List.Subset.refl _) coming)
  | depart there isOther running possible =>
      exact .inl (kept there reached (List.Subset.refl _) coming)
  | strike there stage running possible =>
      exact .inl (kept there reached (List.Subset.refl _) coming)

/-- Signals of other kinds do not come up by themselves. -/
theorem Carries.next {known : Signal → Prop} (carries : Carries known family)
    (sound : Sound itself root family) (step : Step itself family happening after)
    (sent : ∀ pid signal, happening = .sent pid signal → known signal) :
    Carries known after := by
  have ofPending : ∀ {pid start listener signal}, family.Plays pid start listener →
      listener.Pending signal → known signal := by
    rintro pid start listener signal ⟨member, present, role⟩ pending
    exact (carries pid member present).2 start listener role signal pending
  intro pid later reached
  constructor
  · intro signal coming
    rcases step.mem_coming reached coming with
      ⟨member, present, coming⟩ | isSent | ⟨parent, exchange, rfl, passed⟩
    · exact (carries pid member present).1 signal coming
    · exact sent pid signal isSent
    · obtain ⟨member, start, own, next, there, role, -, made, -, -⟩ := step.made
      have plays : family.Plays parent start own := ⟨member, there, role⟩
      refine ofPending plays (.inr ?_)
      exact (Listener.signal?_of_forward (sound.supervised plays) made
        (by rw [Occurrence.forward?, passed]; rfl)).1
  · intro start listener role signal pending
    rcases step.plays ⟨later, reached, role⟩ with ⟨rfl, -⟩ | ⟨member, own, present, role, goes⟩
    · rcases pending with noted | serving
      · cases noted
      · cases serving
    · have plays : family.Plays pid start own := ⟨member, present, role⟩
      cases goes with
      | stay idle => exact ofPending plays pending
      | come coming goes =>
          rcases Listener.pending_of_step (sound.supervised plays) goes pending with
            pending | arrival
          · exact ofPending plays pending
          · cases arrival
            exact (carries pid member present).1 _ coming
      | make running goes answers =>
          rcases Listener.pending_of_step (sound.supervised plays) goes pending with
            pending | arrival
          · exact ofPending plays pending
          · cases arrival

theorem Carries.ofStart (known : Signal → Prop) (root : Pid) (start : Start) :
    Carries known (.start root start) := by
  intro pid member present
  obtain ⟨-, rfl⟩ := eq_of_start present
  refine ⟨fun signal coming => absurd coming List.not_mem_nil, ?_⟩
  intro begun listener role signal pending
  cases role
  rcases pending with noted | serving
  · cases noted
  · cases serving

theorem Step.mem_signals_of_sent (step : Step itself family happening after) (pid : Pid)
    (signal : Signal) (sent : happening = .sent pid signal) : signal ∈ Relay.signals := by
  cases step with
  | send there stage running relayed =>
      cases sent
      exact relayed
  | _ => cases sent

end Family

end HostnameSandbox

import HostnameSandbox.Proofs.Relaying.Listener

/-!
# No signal is lost, doubled or made up

Signals may come to a stage at any moment from when it begins to listen.  Every forward is owed
to an arrival, every arrival leads to a forward unless the signal is still pending, and every
forward goes to the one child that the stage has created and waits for.
-/

namespace HostnameSandbox

namespace Occurrence

def exchange? : Occurrence → Option Exchange
  | .arrived _ => none
  | .made exchange => some exchange

def arrival? : Occurrence → Option Signal
  | .arrived signal => some signal
  | .made _ => none

def taken? : Occurrence → Option Signal
  | .arrived _ => none
  | .made exchange => exchange.deed.taken?

def forward? : Occurrence → Option Signal
  | .arrived _ => none
  | .made exchange => exchange.deed.passed?

end Occurrence

/-- The exchanges among some occurrences. -/
def talkIn (trace : List Occurrence) : List Exchange := trace.filterMap Occurrence.exchange?

def arrivalsIn (trace : List Occurrence) : List Signal := trace.filterMap Occurrence.arrival?

def forwardsIn (trace : List Occurrence) : List Signal := trace.filterMap Occurrence.forward?

@[simp]
theorem arrivalsIn_append (first second : List Occurrence) :
    arrivalsIn (first ++ second) = arrivalsIn first ++ arrivalsIn second :=
  List.filterMap_append

@[simp]
theorem forwardsIn_append (first second : List Occurrence) :
    forwardsIn (first ++ second) = forwardsIn first ++ forwardsIn second :=
  List.filterMap_append

@[simp]
theorem talkIn_append (first second : List Occurrence) :
    talkIn (first ++ second) = talkIn first ++ talkIn second :=
  List.filterMap_append

namespace Duty

variable {duty : Duty} {deed : Deed} {signal : Signal}

theorem signal?_of_passed (permitted : duty.Permits deed) (passed : deed.passed? = some signal) :
    duty.signal? = some signal ∧ (duty.after deed).signal? = none := by
  cases deed with
  | passed child other =>
      obtain rfl : duty = .serving child other := permitted
      exact ⟨passed, rfl⟩
  | _ => cases passed

theorem signal?_of_taken (permitted : duty.Permits deed) (taken : deed.taken? = some signal) :
    duty.signal? = none ∧ (duty.after deed).signal? = some signal := by
  cases deed with
  | took child other =>
      obtain rfl : duty = .tending child := permitted
      exact ⟨rfl, taken⟩
  | _ => cases taken

theorem signal?_of_neither (permitted : duty.Permits deed) (notTaken : deed.taken? = none)
    (notPassed : deed.passed? = none) : (duty.after deed).signal? = duty.signal? := by
  cases deed with
  | other => rfl
  | took child other => cases notTaken
  | passed child other => cases notPassed
  | _ =>
      cases permitted
      rfl

end Duty

namespace Listener

variable {α : Type} {mayStart : Option Bytes → Spawning → Prop} {ends : α → Supervisor → Prop}
  {first listener after : Listener α} {occurrence : Occurrence} {exchange : Exchange}
  {signal : Signal} {trace : List Occurrence}

/-- A listening process that cares for a child. -/
def Supervised (mayStart : Option Bytes → Spawning → Prop) (ends : α → Supervisor → Prop)
    (listener : Listener α) : Prop :=
  HostnameSandbox.Supervised mayStart ends listener.process listener.talk

theorem Supervised.next (supervised : listener.Supervised mayStart ends)
    (step : listener.Step occurrence after) : after.Supervised mayStart ends := by
  cases step with
  | arrive listens => exact supervised
  | make step answers => exact HostnameSandbox.Supervised.next supervised step

theorem Supervised.run (supervised : first.Supervised mayStart ends)
    (run : Run Step first trace listener) : listener.Supervised mayStart ends :=
  run.invariant supervised fun _ _ _ supervised step => supervised.next step

theorem Supervised.permits (supervised : listener.Supervised mayStart ends)
    (step : listener.Step (.made exchange) after) : listener.duty.Permits exchange.deed := by
  cases step with
  | make step answers => exact HostnameSandbox.Supervised.permits supervised step

/-! ### Single steps -/

/-- A signal is passed on only if it was taken for that. -/
theorem signal?_of_forward (supervised : listener.Supervised mayStart ends)
    (step : listener.Step occurrence after) (forward : occurrence.forward? = some signal) :
    listener.duty.signal? = some signal ∧ after.duty.signal? = none ∧
      after.noted = listener.noted := by
  cases step with
  | arrive listens => cases forward
  | @make exchange process step answers =>
      have permitted := supervised.permits (.make step answers)
      obtain ⟨serving, served⟩ := Duty.signal?_of_passed permitted forward
      refine ⟨serving, by rw [duty_exchanged, served], ?_⟩
      cases deed : exchange.deed with
      | passed child other => simp [exchanged, deed, Deed.taken?]
      | _ => simp [Occurrence.forward?, deed, Deed.passed?] at forward

theorem mem_noted_of_step (step : listener.Step occurrence after)
    (noted : signal ∈ after.noted) :
    signal ∈ listener.noted ∨ occurrence.arrival? = some signal := by
  cases step with
  | arrive listens =>
      rcases mem_noted_note.1 noted with rfl | noted
      · exact .inr rfl
      · exact .inl noted
  | make step answers => exact .inl (mem_noted_exchanged.1 noted).1

/-- A signal that is pending was pending before, or has just come. -/
theorem pending_of_step (supervised : listener.Supervised mayStart ends)
    (step : listener.Step occurrence after) (pending : after.Pending signal) :
    listener.Pending signal ∨ occurrence.arrival? = some signal := by
  rcases pending with noted | serving
  · exact (mem_noted_of_step step noted).imp_left .inl
  · refine .inl ?_
    cases step with
    | arrive listens => exact .inr serving
    | @make exchange process step answers =>
        have permitted := supervised.permits (.make step answers)
        rw [duty_exchanged] at serving
        cases taken : exchange.deed.taken? with
        | some other =>
            have served := (Duty.signal?_of_taken permitted taken).2
            obtain rfl : other = signal := Option.some.inj (served.symm.trans serving)
            exact .inl (answers.mem_noted taken)
        | none =>
            cases passed : exchange.deed.passed? with
            | some other =>
                have served := (Duty.signal?_of_passed permitted passed).2
                rw [served] at serving
                cases serving
            | none =>
                rw [Duty.signal?_of_neither permitted taken passed] at serving
                exact .inr serving

theorem Pending.step (supervised : listener.Supervised mayStart ends)
    (step : listener.Step occurrence after) (pending : listener.Pending signal) :
    after.Pending signal ∨ occurrence.forward? = some signal := by
  cases step with
  | arrive listens =>
      exact .inl (pending.imp_left fun noted => mem_noted_note.2 (.inr noted))
  | @make exchange process step answers =>
      have permitted := supervised.permits (.make step answers)
      cases taken : exchange.deed.taken? with
      | some other =>
          obtain ⟨free, served⟩ := Duty.signal?_of_taken permitted taken
          refine .inl ?_
          by_cases same : other = signal
          · exact .inr (by rw [duty_exchanged, served, same])
          · rcases pending with noted | serving
            · refine .inl (mem_noted_exchanged.2 ⟨noted, ?_⟩)
              rw [taken]
              exact fun isSame => same (Option.some.inj isSame)
            · rw [free] at serving
              cases serving
      | none =>
          rcases pending with noted | serving
          · exact .inl (.inl (mem_noted_exchanged.2 ⟨noted, by rw [taken]; exact nofun⟩))
          · cases passed : exchange.deed.passed? with
            | some other =>
                have servedToo := (Duty.signal?_of_passed permitted passed).1
                obtain rfl : other = signal := Option.some.inj (servedToo.symm.trans serving)
                exact .inr passed
            | none =>
                refine .inl (.inr ?_)
                rw [duty_exchanged, Duty.signal?_of_neither permitted taken passed]
                exact serving

/-! ### Runs -/

theorem mem_noted_of_run (run : Run Step first trace listener)
    (noted : signal ∈ listener.noted) : signal ∈ first.noted ∨ signal ∈ arrivalsIn trace := by
  induction run with
  | start => exact .inl noted
  | @next trace occurrence between last run step hypothesis =>
      rw [arrivalsIn_append]
      rcases mem_noted_of_step step noted with noted | arrival
      · exact (hypothesis noted).imp_right (List.mem_append_left _)
      · exact .inr (List.mem_append_right _ (by simp [arrivalsIn, arrival]))

theorem pending_of_run (supervised : first.Supervised mayStart ends)
    (run : Run Step first trace listener) (pending : listener.Pending signal) :
    first.Pending signal ∨ signal ∈ arrivalsIn trace := by
  induction run with
  | start => exact .inl pending
  | @next trace occurrence between last run step hypothesis =>
      rw [arrivalsIn_append]
      rcases pending_of_step (supervised.run run) step pending with pending | arrival
      · exact (hypothesis pending).imp_right (List.mem_append_left _)
      · exact .inr (List.mem_append_right _ (by simp [arrivalsIn, arrival]))

theorem Pending.run (supervised : first.Supervised mayStart ends)
    (run : Run Step first trace listener) (pending : first.Pending signal) :
    listener.Pending signal ∨ signal ∈ forwardsIn trace := by
  induction run with
  | start => exact .inl pending
  | @next trace occurrence between last run step hypothesis =>
      rw [forwardsIn_append]
      rcases hypothesis with pending | forwarded
      · rcases pending.step (supervised.run run) step with pending | forward
        · exact .inl pending
        · exact .inr (List.mem_append_right _ (by simp [forwardsIn, forward]))
      · exact .inr (List.mem_append_left _ forwarded)

/-- A signal that is to be passed on was taken, and none was passed on since. -/
theorem taken_of_serving (supervised : first.Supervised mayStart ends)
    (idle : first.duty.signal? = none) (run : Run Step first trace listener)
    (serving : listener.duty.signal? = some signal) :
    ∃ earlier taking turn begun, trace = earlier ++ taking :: turn ∧
      taking.taken? = some signal ∧ forwardsIn turn = [] ∧ signal ∉ begun.noted ∧
      Run Step begun turn listener := by
  induction run with
  | start =>
      rw [idle] at serving
      cases serving
  | @next trace occurrence between last run step hypothesis =>
      have extend (before : between.duty.signal? = some signal)
          (notForward : occurrence.forward? = none) :
          ∃ earlier taking turn begun, trace ++ [occurrence] = earlier ++ taking :: turn ∧
            taking.taken? = some signal ∧ forwardsIn turn = [] ∧ signal ∉ begun.noted ∧
            Run Step begun turn last := by
        obtain ⟨earlier, taking, turn, begun, rfl, taken, none, notNoted, rest⟩ :=
          hypothesis before
        refine ⟨earlier, taking, turn ++ [occurrence], begun, by simp, taken, ?_, notNoted,
          .next rest step⟩
        rw [forwardsIn_append, none]
        simp [forwardsIn, notForward]
      have kept := supervised.run run
      cases step with
      | arrive listens => exact extend serving rfl
      | @make exchange process step answers =>
          have permitted := kept.permits (.make step answers)
          rw [duty_exchanged] at serving
          cases taken : exchange.deed.taken? with
          | some other =>
              have served := (Duty.signal?_of_taken permitted taken).2
              obtain rfl : other = signal := Option.some.inj (served.symm.trans serving)
              refine ⟨trace, .made exchange, [], _, rfl, taken, rfl, ?_, .start⟩
              simp [taken]
          | none =>
              cases passed : exchange.deed.passed? with
              | some other =>
                  have served := (Duty.signal?_of_passed permitted passed).2
                  rw [served] at serving
                  cases serving
              | none =>
                  rw [Duty.signal?_of_neither permitted taken passed] at serving
                  exact extend serving passed

/-! ### Counts -/

/-- How often a signal is pending: as one that is noted, and as one that was taken. -/
def owed (listener : Listener α) (signal : Signal) : Nat :=
  (if signal ∈ listener.noted then 1 else 0) + listener.duty.signal?.toList.count signal

/-- In a step, what is passed on and what is pending was pending or has just come. -/
theorem owed_of_step (supervised : listener.Supervised mayStart ends)
    (step : listener.Step occurrence after) (signal : Signal) :
    (forwardsIn [occurrence]).count signal + after.owed signal ≤
      (arrivalsIn [occurrence]).count signal + listener.owed signal := by
  cases step with
  | @arrive other listens =>
      simp only [owed, mem_noted_note, duty_note, forwardsIn, arrivalsIn, List.filterMap_cons,
        List.filterMap_nil, Occurrence.forward?, Occurrence.arrival?, List.count_nil]
      by_cases same : signal = other
      · subst same
        simp only [true_or, if_true, List.count_singleton_self]
        omega
      · simp only [same, false_or]
        omega
  | @make exchange process step answers =>
      have permitted := supervised.permits (.make step answers)
      simp only [owed, mem_noted_exchanged, duty_exchanged, forwardsIn, arrivalsIn,
        List.filterMap_cons, List.filterMap_nil, Occurrence.forward?, Occurrence.arrival?,
        List.count_nil, Nat.zero_add]
      cases taken : exchange.deed.taken? with
      | some other =>
          obtain ⟨free, served⟩ := Duty.signal?_of_taken permitted taken
          have notPassed : exchange.deed.passed? = none := by
            cases deed : exchange.deed with
            | passed child other => simp [deed, Deed.taken?] at taken
            | _ => rfl
          have noted := answers.mem_noted taken
          simp only [free, served, notPassed]
          by_cases same : other = signal
          · subst same
            simp [noted]
          · simp [same]
      | none =>
          cases passed : exchange.deed.passed? with
          | some other =>
              obtain ⟨serving, served⟩ := Duty.signal?_of_passed permitted passed
              simp only [serving, served]
              by_cases same : other = signal
              · subst same
                simp
                omega
              · simp [same]
          | none =>
              rw [Duty.signal?_of_neither permitted taken passed]
              simp

/-- In a run, what is passed on and what is pending was pending at first or has come. -/
theorem owed_of_run (supervised : first.Supervised mayStart ends)
    (run : Run Step first trace listener) (signal : Signal) :
    (forwardsIn trace).count signal + listener.owed signal ≤
      (arrivalsIn trace).count signal + first.owed signal := by
  induction run with
  | start => exact Nat.le_refl _
  | @next trace occurrence between last run step hypothesis =>
      have stepped := owed_of_step (supervised.run run) step signal
      simp only [forwardsIn_append, arrivalsIn_append, List.count_append]
      omega

/-! ### Children -/

theorem talk_of_run (run : Run Step first trace listener) :
    listener.talk = first.talk ++ talkIn trace := by
  induction run with
  | start => simp [talkIn]
  | @next trace occurrence between last run step hypothesis =>
      rw [talkIn_append, ← List.append_assoc, ← hypothesis]
      cases step with
      | arrive listens => simp [note, talkIn, Occurrence.exchange?]
      | make step answers => simp [exchanged, talkIn, Occurrence.exchange?]

theorem Answers.mem_signals (answers : listener.Answers exchange)
    (allowed : listener.supervisor.allows mayStart exchange.request)
    (taken : exchange.deed.taken? = some signal) : signal ∈ Relay.signals := by
  obtain ⟨request, reply⟩ := exchange
  cases request with
  | select child signals =>
      cases reply with
      | ended status => cases taken
      | noted other =>
          cases taken
          have asked : signals = Relay.signals := allowed.2
          exact asked ▸ answers.1
  | spawn spawning => cases reply <;> cases taken
  | send child signal => cases taken
  | _ => cases taken

/-- A signal that is to be passed on is one of those that are. -/
theorem mem_signals_of_run (supervised : first.Supervised mayStart ends)
    (idle : first.duty.signal? = none) (run : Run Step first trace listener)
    (serving : listener.duty.signal? = some signal) : signal ∈ Relay.signals := by
  induction run with
  | start =>
      rw [idle] at serving
      cases serving
  | @next trace occurrence between last run step hypothesis =>
      have kept := supervised.run run
      cases step with
      | arrive listens => exact hypothesis serving
      | @make exchange process step answers =>
          have permitted := kept.permits (.make step answers)
          rw [duty_exchanged] at serving
          cases taken : exchange.deed.taken? with
          | some other =>
              have served := (Duty.signal?_of_taken permitted taken).2
              obtain rfl : other = signal := Option.some.inj (served.symm.trans serving)
              exact answers.mem_signals
                (HostnameSandbox.Supervised.allows kept step) taken
          | none =>
              cases passed : exchange.deed.passed? with
              | some other =>
                  have served := (Duty.signal?_of_passed permitted passed).2
                  rw [served] at serving
                  cases serving
              | none =>
                  rw [Duty.signal?_of_neither permitted taken passed] at serving
                  exact hypothesis serving

/-- The child that a process cares for is the only one that it ever creates. -/
theorem createdIn_of_run (supervised : first.Supervised mayStart ends)
    (run : Run Step first trace listener) {child : Pid}
    (cared : first.duty.created? = some child) :
    createdIn first.talk = [child] ∧ createdIn listener.talk = [child] := by
  have before : createdIn first.talk = [child] := by
    rw [supervised.created]
    change first.duty.created?.toList = [child]
    rw [cared]
    rfl
  refine ⟨before, ?_⟩
  have whole := (supervised.run run).created
  rw [talk_of_run run, createdIn_append, before] at whole ⊢
  cases last : (Supervisor.of (first.talk ++ talkIn trace)).duty.created? with
  | none => simp [last] at whole
  | some other =>
      have none : createdIn (talkIn trace) = [] := by
        simp only [last, List.cons_append, List.nil_append, Option.toList_some,
          List.cons.injEq] at whole
        exact whole.2
      rw [none, List.append_nil]

end Listener

end HostnameSandbox

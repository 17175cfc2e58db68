import HostnameSandbox.Proofs.Relaying.Forwarding

/-!
# What waits for a child passes signals on faithfully

Whatever creates a child and waits for it, be it a runner, a stage or the whole program, passes
the signals on that come to it from when it begins to listen: before the child is created, while
it is being created, and while it is waited for.  Whichever of the things that have happened the
process is told first, no signal is lost, doubled, made up or sent to another process.
-/

namespace HostnameSandbox

/-- What creates a child, waits for it and passes signals on. -/
inductive Waiting where
  | ofRunner (runner : Runner) (command : Command)
  | ofInner (stage : InnerStage) (command : Command)
  | ofOuter (stage : OuterStage) (command : Command)
  | ofProgram (start : Start)

namespace Waiting

def process : Waiting → Process UInt8
  | .ofRunner runner command => do Sandbox.finish (← (runner.execute command).run)
  | .ofInner stage command => do Sandbox.finish (← (stage.run command).run)
  | .ofOuter stage command => do Sandbox.finish (← (stage.run command).run)
  | .ofProgram start => Sandbox.program start

theorem keeps (waiting : Waiting) :
    ∃ mayStart, waiting.process.Keeps (supervision mayStart)
      (fun _ supervisor => supervisor.duty.child? = none) .initial := by
  have able : ¬ Supervisor.initial.Hindered := by
    rintro (failed | ⟨name, same⟩)
    · cases failed
    · cases same
  cases waiting with
  | ofRunner runner command =>
      refine ⟨fun _ _ => True, Process.keeps_bind (keeps_execute rfl able trivial ?_)⟩
      intro result after decides
      have idle := Duty.Decides.child?_eq_none decides
      exact Sandbox.keeps_finish idle idle
  | ofInner stage command =>
      refine ⟨fun _ _ => True,
        Process.keeps_bind (InnerStage.keeps_run rfl rfl rfl (fun _ => trivial) ?_)⟩
      intro result after decides
      exact Sandbox.keeps_finish decides.child?_eq_none decides.child?_eq_none
  | ofOuter stage command =>
      refine ⟨fun _ _ => True,
        Process.keeps_bind (OuterStage.keeps_run rfl able (fun _ _ _ => trivial) ?_)⟩
      intro result after decides
      exact Sandbox.keeps_finish decides.child?_eq_none decides.child?_eq_none
  | ofProgram start =>
      exact ⟨_, (Sandbox.keeps_program start).mono fun _ _ decides => decides.child?_eq_none⟩

end Waiting

/-- A signal comes in the middle of a turn: another one of its kind was taken, and none has been
passed on since. -/
def ComesInTurn (signal : Signal) (trace : List Occurrence) : Prop :=
  ∃ earlier taking turn, trace = earlier ++ taking :: turn ∧ taking.taken? = some signal ∧
    forwardsIn turn = [] ∧ signal ∈ arrivalsIn turn

/-- No signal comes in the middle of a turn. -/
def ComesBetweenTurns (trace : List Occurrence) : Prop :=
  ∀ signal before after, trace = before ++ after → ¬ ComesInTurn signal before

/-- Signals are passed on faithfully in a trace after which a process is left. -/
structure Relays {α : Type} (trace : List Occurrence) (listener : Listener α) : Prop where
  /-- A signal is not passed on more often than it has come. -/
  count_le : ∀ signal, (forwardsIn trace).count signal ≤ (arrivalsIn trace).count signal
  /-- A signal that is passed on has come before. -/
  preceded : ∀ {before occurrence after signal}, trace = before ++ occurrence :: after →
    occurrence.forward? = some signal → signal ∈ arrivalsIn before
  /-- Between two forwards of a signal it comes again, or it did so in the turn of the first. -/
  separated : ∀ {before one between other after signal},
    trace = before ++ one :: between ++ other :: after → one.forward? = some signal →
      other.forward? = some signal → signal ∈ arrivalsIn between ∨ ComesInTurn signal before
  /-- Where no signal comes in the middle of a turn, it comes between two forwards of it. -/
  separated_between : ComesBetweenTurns trace → ∀ {before one between other after signal},
    trace = before ++ one :: between ++ other :: after → one.forward? = some signal →
      other.forward? = some signal → signal ∈ arrivalsIn between
  /-- A signal that has come is passed on later, or is still pending. -/
  kept : ∀ {before after signal}, trace = before ++ .arrived signal :: after →
    signal ∈ forwardsIn after ∨ listener.Pending signal
  /-- A signal that was taken is passed on before anything else is done. -/
  served : ∀ {child signal}, listener.duty = .serving child signal →
    ∀ {exchange after}, listener.process.Step exchange after →
      (∃ event, exchange.request = .report event) ∨ exchange.request = .send child signal
  /-- As long as a child is waited for, all signals that are passed on are asked for with it. -/
  asked : ∀ {child}, listener.duty = .tending child →
    ∀ {exchange after}, listener.process.Step exchange after →
      (∃ event, exchange.request = .report event) ∨
        exchange.request = .select child Relay.signals
  /-- As long as there is a child, the process goes on. -/
  goesOn : ∀ {child}, listener.duty.child? = some child →
    ∃ request, ∀ reply, ∃ after, listener.process.Step ⟨request, reply⟩ after
  /-- Signals are sent to no process but the only child, and only before it is told that the
  child has ended. -/
  sent : ∀ {before child signal reply after},
    trace = before ++ .made ⟨.send child signal, reply⟩ :: after →
      signal ∈ Relay.signals ∧ createdIn (talkIn before) = [child] ∧
        toldIn (talkIn before) = [] ∧ createdIn (talkIn trace) = [child]
  /-- The child that is waited for is the only one. -/
  awaited : ∀ {before child signals reply after},
    trace = before ++ .made ⟨.select child signals, reply⟩ :: after →
      createdIn (talkIn trace) = [child]

section

variable {α : Type} {mayStart : Option Bytes → Spawning → Prop} {ends : α → Supervisor → Prop}
  {process : Process α} {trace before between : List Occurrence} {listener : Listener α}
  {signal : Signal} {child : Pid}

theorem Listener.supervised_fresh
    (keeps : process.Keeps (supervision mayStart) ends .initial) :
    (Listener.fresh process).Supervised mayStart ends :=
  .start keeps

/-- A signal that is passed on has come before. -/
theorem mem_arrivalsIn_of_forward
    (keeps : process.Keeps (supervision mayStart) ends .initial)
    {one : Occurrence} {after : List Occurrence}
    (run : Run Listener.Step (.fresh process) (before ++ one :: after) listener)
    (forward : one.forward? = some signal) : signal ∈ arrivalsIn before := by
  have supervised := Listener.supervised_fresh keeps
  obtain ⟨reached, _, run, step, _⟩ := run.split_at
  have serving := (Listener.signal?_of_forward (supervised.run run) step forward).1
  have owed := Listener.owed_of_run supervised run signal
  have none : (Listener.fresh process).owed signal = 0 := rfl
  rw [Listener.owed, serving, none] at owed
  simp only [Option.toList_some, List.count_singleton_self] at owed
  exact List.count_pos_iff.1 (by omega)

/-- Between two forwards of a signal it comes again, or it did so in the turn of the first. -/
theorem mem_arrivalsIn_between (keeps : process.Keeps (supervision mayStart) ends .initial)
    {one other : Occurrence} {after : List Occurrence}
    (run : Run Listener.Step (.fresh process) (before ++ one :: between ++ other :: after) listener)
    (forward : one.forward? = some signal) (forwardToo : other.forward? = some signal) :
    signal ∈ arrivalsIn between ∨ ComesInTurn signal before := by
  have supervised := Listener.supervised_fresh keeps
  rw [List.append_assoc, List.cons_append] at run
  obtain ⟨early, reached, runBefore, step, run⟩ := run.split_at
  obtain ⟨late, _, runBetween, stepToo, _⟩ := run.split_at
  have keptEarly := supervised.run runBefore
  have keptReached := keptEarly.next step
  obtain ⟨serving, served, sameNoted⟩ := Listener.signal?_of_forward keptEarly step forward
  have servingToo :=
    (Listener.signal?_of_forward (keptReached.run runBetween) stepToo forwardToo).1
  rcases Listener.pending_of_run keptReached runBetween (.inr servingToo) with
    (noted | serves) | came
  · refine .inr ?_
    obtain ⟨earlier, taking, turn, begun, rfl, taken, none, notNoted, rest⟩ :=
      Listener.taken_of_serving supervised rfl runBefore serving
    rw [sameNoted] at noted
    exact ⟨earlier, taking, turn, rfl, taken, none,
      (Listener.mem_noted_of_run rest noted).resolve_left notNoted⟩
  · rw [served] at serves
    cases serves
  · exact .inl came

/-- Signals are sent to no process but the only child, before it is known to have ended. -/
theorem sent_to_child (keeps : process.Keeps (supervision mayStart) ends .initial)
    {reply : Except Errno Unit} {after : List Occurrence}
    (run : Run Listener.Step (.fresh process)
      (before ++ .made ⟨.send child signal, reply⟩ :: after) listener) :
    signal ∈ Relay.signals ∧ createdIn (talkIn before) = [child] ∧
      toldIn (talkIn before) = [] ∧ createdIn listener.talk = [child] := by
  have supervised := Listener.supervised_fresh keeps
  obtain ⟨early, reached, runBefore, step, runAfter⟩ := run.split_at
  have kept := supervised.run runBefore
  have serving : early.duty = .serving child signal := kept.permits step
  have talk : early.talk = talkIn before := Listener.talk_of_run runBefore
  have cared : early.duty.created? = some child := by rw [serving]; rfl
  refine ⟨?_, ?_, ?_, ?_⟩
  · exact Listener.mem_signals_of_run supervised rfl runBefore (by rw [serving]; rfl)
  · rw [← talk]
    exact (Listener.createdIn_of_run kept .start cared).1
  · rw [← talk, kept.told]
    change early.duty.told?.toList = []
    rw [serving]
    rfl
  · exact (Listener.createdIn_of_run kept (.trans (.next .start step) runAfter) cared).2

theorem createdIn_of_select (keeps : process.Keeps (supervision mayStart) ends .initial)
    {signals : List Signal} {reply : Ready} {after : List Occurrence}
    (run : Run Listener.Step (.fresh process)
      (before ++ .made ⟨.select child signals, reply⟩ :: after) listener) :
    createdIn listener.talk = [child] := by
  have supervised := Listener.supervised_fresh keeps
  obtain ⟨early, reached, runBefore, step, runAfter⟩ := run.split_at
  have kept := supervised.run runBefore
  have tending : early.duty = .tending child := by
    cases reply <;> exact kept.permits step
  exact (Listener.createdIn_of_run kept (.trans (.next .start step) runAfter)
    (by rw [tending]; rfl)).2

end

/-- What happens to a runner to which a termination comes before its child exists and a hangup
while it waits, and which is told about the hangup first. -/
def bothTrace (command : Command) : List Occurrence :=
  [.made ⟨.report (.executing command), ()⟩, .made ⟨.react .terminate .caught, .standard⟩,
    .arrived .terminate, .made ⟨.react .hangup .caught, .standard⟩,
    .made ⟨.spawn (Runner.inherited.spawning command), .ok 7⟩,
    .made ⟨.report (.waiting command.program.lossy 7), ()⟩, .arrived .hangup,
    .made ⟨.select 7 Relay.signals, .noted .hangup⟩,
    .made ⟨.report (.relaying .hangup 7), ()⟩, .made ⟨.send 7 .hangup, .ok ()⟩,
    .made ⟨.select 7 Relay.signals, .noted .terminate⟩,
    .made ⟨.report (.relaying .terminate 7), ()⟩, .made ⟨.send 7 .terminate, .ok ()⟩]

end HostnameSandbox

import HostnameSandbox.Proofs.Family.Signals

/-!
# No process is left behind

Signals may come to the stages of a family at any moment, and end those that do not listen yet.
The parent of a process that is running is running nevertheless, so that nothing is left once
the first stage has ended.  No signal is passed on whose kind was not sent to some stage.
-/

namespace HostnameSandbox

namespace Family

variable {itself : Bytes → Bool} {root pid child : Pid} {family after : Family}
  {happening : Happening} {trace : List Happening} {signal : Signal}

/-- A stage that has ended does not care for a child any more. -/
def Settled (family : Family) : Prop :=
  ∀ pid member start listener, family pid = some member →
    member.role = .stage start listener → member.ending ≠ none → listener.duty.child? = none

/-- Unless a stage is struck by another signal, it ends only when it does not care for a child
any more. -/
theorem Settled.next (settled : family.Settled) (sound : Sound itself root family)
    (carries : Carries (· ∈ Relay.signals) family)
    (step : Step itself family happening after)
    (calm : ∀ pid signal, happening ≠ .struck pid signal) : after.Settled := by
  intro pid later start listener reached role ended
  obtain ⟨status, isEnded⟩ := Option.ne_none_iff_exists'.1 ended
  rcases step.plays ⟨later, reached, role⟩ with ⟨rfl, -⟩ | ⟨member, own, present, roleBefore, -⟩
  · rfl
  · have plays : family.Plays pid start own := ⟨member, present, roleBefore⟩
    rcases step.ends present reached isEnded with endedBefore | ⟨-, sameRole, ends⟩
    · obtain ⟨next, reachedToo, evolves⟩ := step.evolves present
      cases reached.symm.trans reachedToo
      have sameRole := (evolves.ended status endedBefore).2
      cases role.symm.trans (sameRole.trans roleBefore)
      exact settled _ _ _ _ present roleBefore (by rw [endedBefore]; nofun)
    · cases role.symm.trans (sameRole.trans roleBefore)
      cases ends with
      | finish stage done =>
          cases roleBefore.symm.trans stage
          have keeps := (sound.supervised plays).keeps
          rw [done] at keeps
          exact Sandbox.Decides.child?_eq_none keeps
      | die stage coming deaf =>
          cases roleBefore.symm.trans stage
          by_contra busy
          refine deaf (((sound.supervised plays).ready ?_).1
            ((carries pid member present).1 _ coming))
          intro free
          apply busy
          change (Supervisor.of listener.talk).duty.child? = none
          rw [free]
          rfl
      | depart other possible => cases roleBefore.symm.trans other
      | strike stage possible => exact absurd rfl (calm _ _)

/-- The parent of a process that is running is running, and no stage ends before what comes from
it.  A signal is passed on only if one of its kind was sent to some stage. -/
structure NoOrphans (root : Pid) (trace : List Happening) (family : Family) : Prop where
  parent_runs : ∀ {pid child}, family.ParentOf pid child → family.Runs child → family.Runs pid
  root_runs : ∀ {pid}, family.Runs pid → family.Runs root
  relayed : ∀ {pid child signal reply}, .made pid ⟨.send child signal, reply⟩ ∈ trace →
    ∃ stage, .sent stage signal ∈ trace

/-- What is known of a family after some happenings of which none is the strike of a stage. -/
structure Calm (itself : Bytes → Bool) (root : Pid) (trace : List Happening) (family : Family) :
    Prop where
  sound : Sound itself root family
  carries : Carries (· ∈ Relay.signals) family
  sent : Carries (fun signal => ∃ stage, .sent stage signal ∈ trace) family
  settled : family.Settled
  relayed : ∀ {pid child signal reply}, .made pid ⟨.send child signal, reply⟩ ∈ trace →
    ∃ stage, .sent stage signal ∈ trace

theorem Calm.next (calm : Calm itself root trace family)
    (step : Step itself family happening after)
    (unstruck : ∀ pid signal, happening ≠ .struck pid signal) :
    Calm itself root (trace ++ [happening]) after where
  sound := calm.sound.next step
  carries := calm.carries.next calm.sound step step.mem_signals_of_sent
  settled := calm.settled.next calm.sound calm.carries step unstruck
  sent := by
    have earlier : Carries (fun signal => ∃ stage, .sent stage signal ∈ trace ++ [happening])
        family := by
      intro pid member present
      obtain ⟨coming, pending⟩ := calm.sent pid member present
      refine ⟨fun signal isComing => ?_, fun start listener role signal isPending => ?_⟩
      · obtain ⟨stage, sent⟩ := coming signal isComing
        exact ⟨stage, List.mem_append_left _ sent⟩
      · obtain ⟨stage, sent⟩ := pending start listener role signal isPending
        exact ⟨stage, List.mem_append_left _ sent⟩
    refine earlier.next calm.sound step ?_
    rintro pid signal rfl
    exact ⟨pid, List.mem_append_right _ (List.mem_singleton.2 rfl)⟩
  relayed := by
    intro pid child signal reply made
    rcases List.mem_append.1 made with made | made
    · obtain ⟨stage, sent⟩ := calm.relayed made
      exact ⟨stage, List.mem_append_left _ sent⟩
    · obtain rfl := List.mem_singleton.1 made
      obtain ⟨member, start, own, next, there, role, -, goes, -, -⟩ := step.made
      have supervised := calm.sound.supervised ⟨member, there, role⟩
      obtain ⟨stage, sent⟩ := (calm.sent pid member there).2 start own role signal
        (.inr (Listener.signal?_of_forward supervised goes rfl).1)
      exact ⟨stage, List.mem_append_left _ sent⟩

theorem Calm.of_run {first : Start} (run : Run (Step itself) (.start root first) trace family)
    (unstruck : ∀ pid signal, .struck pid signal ∉ trace) : Calm itself root trace family := by
  induction run with
  | start =>
      refine ⟨.ofStart itself root first, .ofStart _ root first, .ofStart _ root first, ?_, ?_⟩
      · intro pid member start listener present role ended
        obtain ⟨-, rfl⟩ := eq_of_start present
        exact absurd rfl ended
      · intro pid child signal reply made
        cases made
  | @next trace happening between last run step hypothesis =>
      refine (hypothesis fun pid signal struck => ?_).next step fun pid signal same => ?_
      · exact unstruck pid signal (List.mem_append_left _ struck)
      · exact unstruck pid signal (List.mem_append_right _ (List.mem_singleton.2 same.symm))

/-- The parent of a process that is running is running. -/
theorem Calm.parent_runs (calm : Calm itself root trace family)
    (parent : family.ParentOf pid child) (runs : family.Runs child) : family.Runs pid := by
  obtain ⟨start, listener, ⟨member, present, role⟩, created⟩ :=
    calm.sound.created_of_parentOf parent
  refine ⟨member, present, ?_⟩
  by_contra ended
  have idle := calm.settled _ _ _ _ present role ended
  cases duty : listener.duty with
  | settled other status =>
      rw [duty] at created
      cases created
      obtain ⟨found, there, isEnded⟩ := calm.sound.told ⟨member, present, role⟩ duty
      obtain ⟨same, thereToo, running⟩ := runs
      cases there.symm.trans thereToo
      cases isEnded.symm.trans running
  | free =>
      rw [duty] at created
      cases created
  | refused cause =>
      rw [duty] at created
      cases created
  | tending other =>
      rw [duty] at idle
      cases idle
  | serving other signal =>
      rw [duty] at idle
      cases idle

theorem Calm.root_runs (calm : Calm itself root trace family) (runs : family.Runs pid) :
    family.Runs root := by
  have descends : family.Descends root pid := by
    obtain ⟨member, present, -⟩ := runs
    exact calm.sound.descends present
  induction descends with
  | root => exact runs
  | child parent descends hypothesis => exact hypothesis (calm.parent_runs parent runs)

/-- In every run of a family of which no stage is struck by other signals than those that are
passed on, no process is left behind. -/
theorem noOrphans_of_run {first : Start}
    (run : Run (Step itself) (.start root first) trace family)
    (unstruck : ∀ pid signal, .struck pid signal ∉ trace) : NoOrphans root trace family :=
  have calm := Calm.of_run run unstruck
  ⟨calm.parent_runs, calm.root_runs, calm.relayed⟩

/-- What happens when a termination comes to an outer stage whose inner one has not begun to
listen yet, where the program lies at `path`. -/
def earlyTrace (path : Bytes) (command : Command) : List Happening :=
  let stage := OuterStage.ofRunning
  [.made 1 ⟨.react .brokenPipe .ignored, .standard⟩,
    .made 1 ⟨.react .busError .ignoredOnce, .standard⟩,
    .made 1 ⟨.react .segmentFault .ignoredOnce, .standard⟩,
    .made 1 ⟨.openLog (.choose none false), ()⟩,
    .made 1 ⟨.report (.dispatching .outer command), ()⟩,
    .made 1 ⟨.report (.launching command), ()⟩,
    .made 1 ⟨.ownPath, .ok path⟩,
    .made 1 ⟨.react .terminate .caught, .standard⟩,
    .made 1 ⟨.react .hangup .caught, .standard⟩,
    .made 1 ⟨.report (.requesting .standard), ()⟩,
    .sent 1 .terminate,
    .made 1 ⟨.spawn (stage.spawning path command), .ok 2⟩,
    .came 1 .terminate,
    .made 1 ⟨.report (.relaunched path.lossy 2), ()⟩,
    .made 1 ⟨.report (.waiting path.lossy 2), ()⟩,
    .made 1 ⟨.select 2 Relay.signals, .noted .terminate⟩,
    .made 1 ⟨.report (.relaying .terminate 2), ()⟩,
    .made 1 ⟨.send 2 .terminate, .ok ()⟩,
    .ended 2 (.killed .terminate)]

/-- The inner stage ends by the termination, and the outer one is still there. -/
theorem noOrphans_earlyTrace : ∃ command family,
    Run (Step fun path => path = [0x75])
      (.start 1 ⟨[0x75], [Bytes.ofString "outer", [0x78]], []⟩)
      (earlyTrace [0x75] command) family ∧
    (∀ pid signal, .struck pid signal ∉ earlyTrace [0x75] command) ∧
    family.ParentOf 1 2 ∧ family.EndedAs 2 (.killed .terminate) ∧
    NoOrphans 1 (earlyTrace [0x75] command) family := by
  let command : Command := ⟨[0x78], [], by decide, by decide⟩
  have unstruck : ∀ pid signal, .struck pid signal ∉ earlyTrace [0x75] command := by
    simp [earlyTrace]
  have run : ∃ family, Run (Step fun path => path = [0x75])
      (.start 1 ⟨[0x75], [Bytes.ofString "outer", [0x78]], []⟩)
      (earlyTrace [0x75] command) family ∧
      family.ParentOf 1 2 ∧ family.EndedAs 2 (.killed .terminate) := by
    refine ⟨?last, ?steps, ?parent, ?ended⟩
    case steps =>
      repeat first
        | exact .start
        | refine .cons (.make rfl rfl rfl (.make (.call _ _ _) trivial) trivial) ?_
        | refine .cons (.make rfl rfl rfl (.make (.call _ _ _) trivial) rfl) ?_
        | refine .cons (.make rfl rfl rfl
            (.make (.loop (.call _ _ _)) ⟨by decide, by decide⟩) trivial) ?_
        | refine .cons (.send rfl rfl rfl (by decide)) ?_
        | refine .cons (.come rfl rfl rfl (by decide) (.arrive (by decide))) ?_
        | refine .cons (.die rfl rfl rfl (by decide) (by decide)) ?_
    case parent => exact ⟨_, rfl, rfl⟩
    case ended => exact ⟨_, rfl, rfl⟩
  obtain ⟨family, run, parent, ended⟩ := run
  exact ⟨command, family, run, unstruck, parent, ended, noOrphans_of_run run unstruck⟩

end Family

end HostnameSandbox

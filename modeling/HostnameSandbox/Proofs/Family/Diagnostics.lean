import HostnameSandbox.Proofs.Family.Line
import HostnameSandbox.Proofs.Supervision.Telling

/-!
# One failure, one line

The stages of a run may be signalled while the command is running, by the command or by anyone.
Whatever the command does and however the run ends, the stages tell together about at most one
failure, which is the one that a stage has come to.  A failure of the inner stage becomes an exit
code that the outer one takes over without a word, and only that the inner stage is killed is told
by the outer one.
-/

namespace HostnameSandbox

/-- A line about a failure, and the process that has written it. -/
structure Diagnostic where
  teller : Pid
  text : Bytes
deriving DecidableEq

def Happening.diagnosticBy? (pids : List Pid) : Happening → Option Diagnostic
  | .made pid exchange =>
      if pid ∈ pids then exchange.diagnostic?.map (Diagnostic.mk pid) else none
  | _ => none

/-- The lines that some processes write about failures, in the order in which they do. -/
def diagnosticsBy (pids : List Pid) (trace : List Happening) : List Diagnostic :=
  trace.filterMap (Happening.diagnosticBy? pids)

section Lines

variable {pids : List Pid} {pid : Pid} {trace : List Happening} {text : Bytes}

theorem mem_diagnosticsBy_iff : ⟨pid, text⟩ ∈ diagnosticsBy pids trace ↔
    pid ∈ pids ∧ text ∈ diagnosticsIn (talkBy pid trace) := by
  simp only [diagnosticsBy, diagnosticsIn, List.mem_filterMap, mem_talkBy_iff]
  constructor
  · rintro ⟨happening, member, told⟩
    cases happening with
    | made other exchange =>
        simp only [Happening.diagnosticBy?, Option.ite_none_right_eq_some,
          Option.map_eq_some_iff, Diagnostic.mk.injEq] at told
        obtain ⟨among, text, told, rfl, rfl⟩ := told
        exact ⟨among, exchange, member, told⟩
    | _ => cases told
  · rintro ⟨among, exchange, member, told⟩
    exact ⟨.made pid exchange, member, by simp [Happening.diagnosticBy?, among, told]⟩

theorem diagnosticsBy_eq_nil (silent : ∀ other ∈ pids, diagnosticsIn (talkBy other trace) = []) :
    diagnosticsBy pids trace = [] := by
  refine List.eq_nil_iff_forall_not_mem.2 fun diagnostic member => ?_
  obtain ⟨among, told⟩ := mem_diagnosticsBy_iff.1 member
  rw [silent _ among] at told
  cases told

/-- Some processes tell what one of them does, if the others tell nothing. -/
theorem diagnosticsBy_eq_of_silent (among : pid ∈ pids)
    (silent : ∀ other ∈ pids, other ≠ pid → diagnosticsIn (talkBy other trace) = []) :
    diagnosticsBy pids trace = (diagnosticsIn (talkBy pid trace)).map (Diagnostic.mk pid) := by
  rw [diagnosticsBy, diagnosticsIn, talkBy, List.filterMap_filterMap, List.map_filterMap]
  refine List.filterMap_congr fun happening member => ?_
  cases happening with
  | made other exchange =>
      by_cases same : other = pid
      · subst same
        simp [Happening.diagnosticBy?, Happening.exchangeBy?, among]
      · by_cases isAmong : other ∈ pids
        · have untold : exchange.diagnostic? = none :=
            List.filterMap_eq_nil_iff.1 (silent other isAmong same) exchange
              (mem_talkBy_iff.2 member)
          simp [Happening.diagnosticBy?, Happening.exchangeBy?, same, untold]
        · simp [Happening.diagnosticBy?, Happening.exchangeBy?, same, isAmong]
  | _ => rfl

end Lines

/-! ### Signals while the command is running -/

namespace Family

/-- The command of a run is running, where the program is started again so many times before. -/
def CommandRuns (family : Family) (root : Pid) (relaunches : Nat) : Prop :=
  ∃ target, family.Generation root (relaunches + 1) target ∧ family.Runs target

/-- What may happen in a family where the stages of a run are signalled only while the command of
the run is running. -/
structure TimelyStep (itself : Bytes → Bool) (root : Pid) (relaunches : Nat) (family : Family)
    (happening : Happening) (after : Family) : Prop where
  step : Step itself family happening after
  timely : ∀ number stage signal,
    happening = .sent stage signal ∨ happening = .struck stage signal →
      number ≤ relaunches → family.Generation root number stage →
        family.CommandRuns root relaunches

theorem TimelyStep.made {itself : Bytes → Bool} {root pid : Pid} {relaunches : Nat}
    {exchange : Exchange} {family after : Family}
    (step : Step itself family (.made pid exchange) after) :
    TimelyStep itself root relaunches family (.made pid exchange) after where
  step := step
  timely := by
    rintro number stage signal (sent | struck)
    · cases sent
    · cases struck

theorem TimelyStep.ended {itself : Bytes → Bool} {root pid : Pid} {relaunches : Nat}
    {status : ExitStatus} {family after : Family}
    (step : Step itself family (.ended pid status) after) :
    TimelyStep itself root relaunches family (.ended pid status) after where
  step := step
  timely := by
    rintro number stage signal (sent | struck)
    · cases sent
    · cases struck

/-- The request of a stage has come to a result. -/
def Returned (family : Family) (pid : Pid) (result : Except Failure UInt8) : Prop :=
  ∃ start listener, family.Plays pid start listener ∧
    Sandbox.Returned start listener.talk result

/-- What the stages of a run tell about failures. -/
structure TellsOnce (root : Pid) (first : Start) (relaunches : Nat) (trace : List Happening)
    (family : Family) : Prop where
  once : (diagnosticsBy (crew first root trace) trace).length ≤ 1
  /-- What a stage tells is the failure that its request has come to. -/
  truthful : ∀ {stage text}, ⟨stage, text⟩ ∈ diagnosticsBy (crew first root trace) trace →
    ∃ failure, family.Returned stage (.error failure) ∧ text = Sandbox.line failure
  /-- A stage whose request has come to a failure has told about it, and no stage has told anything
  else; or it is about to tell, which is the next thing that it does. -/
  tells : ∀ {stage failure}, stage ∈ crew first root trace →
    family.Returned stage (.error failure) →
      diagnosticsBy (crew first root trace) trace = [⟨stage, Sandbox.line failure⟩] ∨
        diagnosticsBy (crew first root trace) trace = [] ∧ ∃ start listener,
          family.Plays stage start listener ∧ listener.process = Sandbox.finish (.error failure)
  /-- If the stage has ended by itself, it has told. -/
  told : ∀ {stage failure code}, stage ∈ crew first root trace →
    family.Returned stage (.error failure) → family.EndedAs stage (.exited code) →
      diagnosticsBy (crew first root trace) trace = [⟨stage, Sandbox.line failure⟩]
  /-- If it has been killed, it is the first stage, and the one that it has started was struck
  too. -/
  killed : ∀ {stage failure signal}, stage ∈ crew first root trace →
    family.Returned stage (.error failure) → family.EndedAs stage (.killed signal) →
      stage = root ∧ ∃ inner other, family.ParentOf root inner ∧ .struck inner other ∈ trace
  /-- Nothing is told if no request has come to a failure. -/
  silent : (∀ stage ∈ crew first root trace, ∀ failure,
    ¬ family.Returned stage (.error failure)) → diagnosticsBy (crew first root trace) trace = []
  /-- Nothing is told if the command exits, with whatever code, and the stage that has started it
  was not struck. -/
  exits : ∀ {inner target code}, family.Generation root relaunches inner →
    family.ParentOf inner target → family.EndedAs target (.exited code) →
      (∀ signal, .struck inner signal ∉ trace) →
        diagnosticsBy (crew first root trace) trace = []

variable {itself : Bytes → Bool} {root pid child stage : Pid} {family after : Family}
  {happening : Happening} {trace : List Happening} {first start : Start}
  {listener : Listener UInt8} {number relaunches : Nat} {invocation : Invocation}
  {verbose : Bool} {result : Except Failure UInt8} {failure : Failure} {status : ExitStatus}
  {signal : Signal}

theorem run_of_timely
    (run : Run (TimelyStep itself root relaunches) (.start root first) trace family) :
    Run (Step itself) (.start root first) trace family := by
  induction run with
  | start => exact .start
  | next run step hypothesis => exact .next hypothesis step.step

theorem Carries.mono {known wider : Signal → Prop} (carries : Carries known family)
    (weaker : ∀ signal, known signal → wider signal) : Carries wider family := by
  intro pid member present
  obtain ⟨coming, pending⟩ := carries pid member present
  exact ⟨fun signal isComing => weaker signal (coming signal isComing),
    fun start listener role signal isPending =>
      weaker signal (pending start listener role signal isPending)⟩

/-- What is known of a family whose stages are signalled only while the command is running. -/
structure Attended (itself : Bytes → Bool) (root : Pid) (relaunches : Nat)
    (trace : List Happening) (family : Family) : Prop where
  sound : Sound itself root family
  /-- There are no signals before there is a command. -/
  carries : Carries (fun signal => signal ∈ Relay.signals ∧
    ∃ target, family.Generation root (relaunches + 1) target) family
  /-- A stage that was killed was struck after the command had been started. -/
  struck : ∀ {number pid signal}, number ≤ relaunches → family.Generation root number pid →
    family.EndedAs pid (.killed signal) → .struck pid signal ∈ trace ∧
      ∃ target, family.Generation root (relaunches + 1) target
  /-- The last stage was killed only while it cared for the command. -/
  busy : ∀ {pid start listener signal}, family.Generation root relaunches pid →
    family.Plays pid start listener → family.EndedAs pid (.killed signal) →
      listener.duty.child? ≠ none

namespace Attended

theorem ofStart (itself : Bytes → Bool) (root : Pid) (relaunches : Nat) (first : Start) :
    Attended itself root relaunches [] (.start root first) where
  sound := .ofStart itself root first
  carries := .ofStart _ root first
  struck := by
    rintro number pid signal - - ⟨member, present, ended⟩
    obtain ⟨-, rfl⟩ := eq_of_start present
    cases ended
  busy := by
    rintro pid start listener signal - - ⟨member, present, ended⟩
    obtain ⟨-, rfl⟩ := eq_of_start present
    cases ended

/-- A stage listens to the signals that come to it. -/
theorem mem_listening (attended : Attended itself root relaunches trace family)
    (le : number ≤ relaunches) (above : family.Generation root number pid) {member : Member}
    (present : family pid = some member) (role : member.role = .stage start listener)
    (coming : signal ∈ member.coming) : signal ∈ listener.supervisor.listening := by
  obtain ⟨relayed, target, below⟩ := (attended.carries pid member present).1 signal coming
  obtain ⟨parent, child, generation, isParent⟩ := below.exists_child (Nat.lt_succ_of_le le)
  obtain rfl := attended.sound.generation_unique above generation
  have plays : family.Plays pid start listener := ⟨member, present, role⟩
  refine ((attended.sound.supervised plays).ready fun free => ?_).1 relayed
  have created : listener.supervisor.duty.created? = some child :=
    attended.sound.created_of_plays plays isParent
  rw [show listener.supervisor.duty = .free from free] at created
  cases created

/-- A process to which a signal is sent is not there before the command, or the command is
running. -/
theorem exists_target (attended : Attended itself root relaunches trace family)
    (step : TimelyStep itself root relaunches family happening after)
    (sent : happening = .sent pid signal) :
    ∃ target, family.Generation root (relaunches + 1) target := by
  have present : ∃ member, family pid = some member := by
    obtain ⟨step, -⟩ := step
    subst sent
    cases step with
    | send there stage running relayed => exact ⟨_, there⟩
  obtain ⟨member, present⟩ := present
  obtain ⟨number, above⟩ := (attended.sound.descends present).exists_generation
  rcases Nat.lt_or_ge relaunches number with beyond | le
  · exact above.exists_of_le beyond
  · obtain ⟨target, below, -⟩ := step.timely number pid signal (.inl sent) le above
    exact ⟨target, below⟩

/-- A stage that comes to be killed is struck, while the command is running. -/
theorem eq_struck (attended : Attended itself root relaunches trace family)
    (step : TimelyStep itself root relaunches family happening after) (le : number ≤ relaunches)
    (above : family.Generation root number pid) {member : Member}
    (present : family pid = some member) (role : member.role = .stage start listener)
    (ends : Ends pid member happening (.killed signal)) :
    happening = .struck pid signal ∧ family.CommandRuns root relaunches := by
  cases ends with
  | die stage coming deaf =>
      cases role.symm.trans stage
      exact absurd (attended.mem_listening le above present role coming) deaf
  | depart other possible => cases role.symm.trans other
  | strike stage possible =>
      exact ⟨rfl, step.timely number pid signal (.inr rfl) le above⟩

theorem next (attended : Attended itself root relaunches trace family)
    (step : TimelyStep itself root relaunches family happening after)
    (staged : ∀ {number pid}, number ≤ relaunches → family.Generation root number pid →
      ∃ start listener, family.Plays pid start listener) :
    Attended itself root relaunches (trace ++ [happening]) after where
  sound := attended.sound.next step.step
  carries := by
    refine Carries.next (attended.carries.mono fun signal known => ?_) attended.sound step.step ?_
    · obtain ⟨relayed, target, below⟩ := known
      exact ⟨relayed, target, step.step.generation below⟩
    · intro pid signal sent
      obtain ⟨target, below⟩ := attended.exists_target step sent
      exact ⟨step.step.mem_signals_of_sent pid signal sent, target, step.step.generation below⟩
  struck := by
    rintro number pid signal le above ⟨later, reached, ended⟩
    cases present : family pid with
    | none =>
        obtain ⟨_, _, _, _, _, _, -, -, -, -, rfl⟩ := step.step.news present reached
        cases ended
    | some member =>
        have before := attended.sound.generation_before step.step above present
        rcases step.step.ends present reached ended with already | ⟨-, -, ends⟩
        · obtain ⟨struck, target, below⟩ := attended.struck le before ⟨member, present, already⟩
          exact ⟨List.mem_append_left _ struck, target, step.step.generation below⟩
        · obtain ⟨start, listener, same, presentToo, role⟩ := staged le before
          cases present.symm.trans presentToo
          obtain ⟨rfl, target, below, -⟩ :=
            attended.eq_struck step le before present role ends
          exact ⟨List.mem_append_right _ (List.mem_singleton.2 rfl), target,
            step.step.generation below⟩
  busy := by
    rintro pid start listener signal above ⟨later, reached, role⟩ ⟨same, reachedToo, ended⟩
    cases reached.symm.trans reachedToo
    cases present : family pid with
    | none =>
        obtain ⟨_, _, _, _, _, _, -, -, -, -, rfl⟩ := step.step.news present reached
        cases ended
    | some member =>
        have before := attended.sound.generation_before step.step above present
        rcases step.step.ends present reached ended with already | ⟨-, sameRole, ends⟩
        · obtain ⟨next, reachedToo, evolves⟩ := step.step.evolves present
          cases reached.symm.trans reachedToo
          rw [(evolves.ended _ already).2] at role
          exact attended.busy before ⟨member, present, role⟩ ⟨member, present, already⟩
        · rw [sameRole] at role
          obtain ⟨-, target, below, runs⟩ :=
            attended.eq_struck step (Nat.le_refl _) before present role ends
          rw [attended.sound.child?_of_runs ⟨member, present, role⟩
            (attended.sound.parentOf_of_generation before below) runs]
          exact Option.some_ne_none target

theorem of_run (asks : first.Asks invocation verbose)
    (run : Run (TimelyStep itself root invocation.relaunches) (.start root first) trace family) :
    Attended itself root invocation.relaunches trace family := by
  induction run with
  | start => exact .ofStart itself root _ first
  | next run step hypothesis =>
      exact hypothesis.next step fun le above =>
        plays_of_generation asks (run_of_timely run) le above

end Attended

/-! ### Failures of the stages -/

/-- A stage that has exited has come to the end of its program. -/
theorem done_of_exited {code : UInt8} (run : Run (Step itself) (.start root first) trace family)
    (plays : family.Plays pid start listener) (ended : family.EndedAs pid (.exited code)) :
    listener.process = .done code := by
  obtain ⟨later, reached, role⟩ := plays
  obtain ⟨same, reachedToo, ended⟩ := ended
  cases reached.symm.trans reachedToo
  induction run generalizing later with
  | start =>
      obtain ⟨-, rfl⟩ := eq_of_start reached
      cases ended
  | @next trace happening between last run step hypothesis =>
      cases present : between pid with
      | none =>
          obtain ⟨_, _, _, _, _, _, -, -, -, -, rfl⟩ := step.news present reached
          cases ended
      | some member =>
          rcases step.ends present reached ended with already | ⟨-, sameRole, ends⟩
          · obtain ⟨next, reachedToo, evolves⟩ := step.evolves present
            cases reached.symm.trans reachedToo
            rw [(evolves.ended _ already).2] at role
            exact hypothesis member present role present already
          · rw [sameRole] at role
            cases ends with
            | finish stage done =>
                cases role.symm.trans stage
                exact done
            | depart other possible => cases role.symm.trans other

/-- What a stage has told, and what it is doing once its request has come to a result. -/
theorem Returned.cases (run : Run (Step itself) (.start root first) trace family)
    (returned : family.Returned stage result) : ∃ start listener,
      family.Plays stage start listener ∧ listener.duty.Ends result ∧
        ((diagnosticsIn (talkBy stage trace) = [] ∧
            listener.process = Sandbox.finish result) ∨
          ∃ failure, result = .error failure ∧
            diagnosticsIn (talkBy stage trace) = [Sandbox.line failure] ∧
            listener.process = .done (exitCodeOf failure.exitCode)) := by
  obtain ⟨start, listener, plays, returned⟩ := returned
  obtain ⟨same, made⟩ := talk_of_plays run plays
  rw [same]
  exact ⟨start, listener, plays, returned.cases made⟩

/-- A stage has told about no failure, or once about the one that its request has come to. -/
theorem diagnosticsIn_talkBy_cases (run : Run (Step itself) (.start root first) trace family)
    (plays : family.Plays stage start listener) :
    diagnosticsIn (talkBy stage trace) = [] ∨ ∃ failure,
      family.Returned stage (.error failure) ∧
        diagnosticsIn (talkBy stage trace) = [Sandbox.line failure] := by
  obtain ⟨same, made⟩ := talk_of_plays run plays
  rw [same]
  rcases Sandbox.diagnosticsIn_cases made with silent | ⟨failure, returned, told⟩
  · exact .inl silent
  · exact .inr ⟨failure, ⟨start, listener, plays, returned⟩, told⟩

/-- If the request of a stage has come to a failure and it has a child, then the child was
killed. -/
theorem Returned.killed (run : Run (Step itself) (.start root first) trace family)
    (returned : family.Returned stage (.error failure)) (parent : family.ParentOf stage child) :
    ∃ signal, family.EndedAs child (.killed signal) := by
  have sound := Sound.of_run run
  obtain ⟨start, listener, plays, ⟨idle, concludes⟩, -⟩ := returned.cases run
  have created := sound.created_of_plays plays parent
  cases duty : listener.duty with
  | settled other status =>
      rw [duty] at created
      cases created
      obtain ⟨label, same⟩ := concludes child status duty
      cases status with
      | exited code => cases same
      | killed signal => exact ⟨signal, sound.told plays duty⟩
  | free =>
      rw [duty] at created
      cases created
  | refused cause =>
      rw [duty] at created
      cases created
  | tending other =>
      rw [duty] at idle
      cases idle
  | serving other signal =>
      rw [duty] at idle
      cases idle

namespace Attended

variable {other : Pid} {also : Failure} {later : Nat}

/-- The last stage is not killed once its request has come to a result. -/
theorem not_killed (attended : Attended itself root relaunches trace family)
    (run : Run (Step itself) (.start root first) trace family)
    (above : family.Generation root relaunches stage) (returned : family.Returned stage result) :
    ¬ family.EndedAs stage (.killed signal) := by
  intro ended
  obtain ⟨start, listener, plays, ⟨idle, -⟩, -⟩ := returned.cases run
  exact attended.busy above plays ended idle

/-- There are no failures of a stage and of its child. -/
theorem not_both (attended : Attended itself root relaunches trace family)
    (run : Run (Step itself) (.start root first) trace family)
    (above : family.Generation root relaunches child) (parent : family.ParentOf stage child)
    (returned : family.Returned stage (.error failure)) :
    ¬ family.Returned child (.error also) := by
  intro returnedToo
  obtain ⟨signal, ended⟩ := returned.killed run parent
  exact attended.not_killed run above returnedToo ended

/-- The requests of at most one stage come to a failure. -/
theorem sole (attended : Attended itself root relaunches trace family)
    (run : Run (Step itself) (.start root first) trace family) (once : relaunches ≤ 1)
    (le : number ≤ relaunches) (leToo : later ≤ relaunches)
    (above : family.Generation root number stage) (aboveToo : family.Generation root later other)
    (returned : family.Returned stage (.error failure))
    (returnedToo : family.Returned other (.error also)) : stage = other := by
  rcases Nat.lt_trichotomy number later with less | rfl | less
  · obtain ⟨rfl, rfl, rfl⟩ : number = 0 ∧ later = 1 ∧ relaunches = 1 := by omega
    have parent := attended.sound.parentOf_of_generation above aboveToo
    exact absurd returnedToo (attended.not_both run aboveToo parent returned)
  · exact attended.sound.generation_unique above aboveToo
  · obtain ⟨rfl, rfl, rfl⟩ : later = 0 ∧ number = 1 ∧ relaunches = 1 := by omega
    have parent := attended.sound.parentOf_of_generation aboveToo above
    exact absurd returned (attended.not_both run above parent returnedToo)

end Attended

section Crew

variable (asks : first.Asks invocation verbose)
  (run : Run (Step itself) (.start root first) trace family)
include asks run

theorem diagnosticsIn_cases_of_mem_crew (among : stage ∈ crew first root trace) :
    diagnosticsIn (talkBy stage trace) = [] ∨ ∃ failure,
      family.Returned stage (.error failure) ∧
        diagnosticsIn (talkBy stage trace) = [Sandbox.line failure] := by
  obtain ⟨number, le, above⟩ := (mem_crew_iff asks run).1 among
  obtain ⟨start, listener, plays⟩ := plays_of_generation asks run le above
  exact diagnosticsIn_talkBy_cases run plays

/-- Nothing is told if no request has come to a failure. -/
theorem diagnosticsBy_of_no_failure (never : ∀ stage ∈ crew first root trace, ∀ failure,
    ¬ family.Returned stage (.error failure)) : diagnosticsBy (crew first root trace) trace = [] := by
  refine diagnosticsBy_eq_nil fun stage among => ?_
  rcases diagnosticsIn_cases_of_mem_crew asks run among with silent | ⟨failure, returned, -⟩
  · exact silent
  · exact absurd returned (never stage among failure)

namespace Attended

variable (attended : Attended itself root invocation.relaunches trace family)
include attended

/-- What a stage tells whose request has come to a failure is all that is told. -/
theorem diagnosticsBy_eq (among : stage ∈ crew first root trace)
    (returned : family.Returned stage (.error failure)) :
    diagnosticsBy (crew first root trace) trace =
      (diagnosticsIn (talkBy stage trace)).map (Diagnostic.mk stage) := by
  refine diagnosticsBy_eq_of_silent among fun other amongToo distinct => ?_
  rcases diagnosticsIn_cases_of_mem_crew asks run amongToo with silent | ⟨also, returnedToo, -⟩
  · exact silent
  · obtain ⟨number, le, above⟩ := (mem_crew_iff asks run).1 among
    obtain ⟨later, leToo, aboveToo⟩ := (mem_crew_iff asks run).1 amongToo
    exact absurd (attended.sole run invocation.relaunches_le leToo le aboveToo above
      returnedToo returned) distinct

/-- A stage whose request has come to a failure has told about it, or is about to. -/
theorem tells (among : stage ∈ crew first root trace)
    (returned : family.Returned stage (.error failure)) :
    diagnosticsBy (crew first root trace) trace = [⟨stage, Sandbox.line failure⟩] ∨
      diagnosticsBy (crew first root trace) trace = [] ∧ ∃ start listener,
        family.Plays stage start listener ∧
          listener.process = Sandbox.finish (.error failure) := by
  rw [attended.diagnosticsBy_eq asks run among returned]
  obtain ⟨start, listener, plays, -, ⟨silent, waits⟩ | ⟨also, same, told, -⟩⟩ := returned.cases run
  · rw [silent]
    exact .inr ⟨rfl, start, listener, plays, waits⟩
  · cases same
    rw [told]
    exact .inl rfl

/-- A stage that is killed before it can tell is the first one, and its child was struck. -/
theorem struck_of_killed (among : stage ∈ crew first root trace)
    (returned : family.Returned stage (.error failure))
    (ended : family.EndedAs stage (.killed signal)) :
    stage = root ∧ ∃ inner other, family.ParentOf root inner ∧ .struck inner other ∈ trace := by
  obtain ⟨number, le, above⟩ := (mem_crew_iff asks run).1 among
  obtain ⟨-, target, below⟩ := attended.struck le above ended
  rcases Nat.lt_or_eq_of_le le with less | rfl
  · have once := invocation.relaunches_le
    obtain rfl : number = 0 := by omega
    cases above
    obtain ⟨inner, innermost⟩ := below.exists_of_le (Nat.le_succ_of_le (Nat.succ_le_of_lt less))
    have parent := attended.sound.parentOf_of_generation .root innermost
    obtain ⟨other, endedToo⟩ := returned.killed run parent
    obtain ⟨struck, -⟩ := attended.struck (Nat.succ_le_of_lt less) innermost endedToo
    exact ⟨rfl, inner, other, parent, struck⟩
  · exact absurd ended (attended.not_killed run above returned)

/-- No request comes to a failure if the command exits and its parent is not struck. -/
theorem not_returned_of_exited {inner target : Pid} {code : UInt8}
    (innermost : family.Generation root invocation.relaunches inner)
    (parent : family.ParentOf inner target) (exited : family.EndedAs target (.exited code))
    (unstruck : ∀ signal, .struck inner signal ∉ trace) (among : stage ∈ crew first root trace) :
    ¬ family.Returned stage (.error failure) := by
  intro returned
  obtain ⟨number, le, above⟩ := (mem_crew_iff asks run).1 among
  rcases Nat.lt_or_eq_of_le le with less | rfl
  · have once := invocation.relaunches_le
    obtain next : number + 1 = invocation.relaunches := by omega
    have isParent := attended.sound.parentOf_of_generation above (next ▸ innermost)
    obtain ⟨signal, ended⟩ := returned.killed run isParent
    exact unstruck signal (attended.struck (Nat.le_refl _) innermost ended).1
  · obtain rfl := attended.sound.generation_unique above innermost
    obtain ⟨signal, ended⟩ := returned.killed run parent
    cases ended.unique exited

end Attended

end Crew

/-- What happens when an inner stage is struck while its command is running, where the program lies
at `path`. -/
def struckTrace (path : Bytes) (command : Command) : List Happening :=
  launching 1 2 path command ++ initializing 1 2 3 command ++
  [.struck 2 .kill,
    .made 1 ⟨.select 2 Relay.signals, .ended (.killed .kill)⟩,
    .made 1 ⟨.report (.killed path.lossy .kill), ()⟩,
    .made 1 ⟨.write Descriptor.error
      (Sandbox.line (.runtime path.lossy Signal.kill.number)), .ok ()⟩,
    .ended 1 (.exited 137)]

end Family

end HostnameSandbox

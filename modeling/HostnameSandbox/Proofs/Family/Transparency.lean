import HostnameSandbox.Proofs.Family.Progress
import Mathlib.Algebra.Ring.Parity

/-!
# The status of a command comes through

A command is started through an outer stage, perhaps behind further command lines that start
the program as its outer stage.  Whatever the outcome of the command, the first process exits
with the status of the outcome, as a runner of the command alone does; the stages between do not
change it, however many there are.
-/

namespace HostnameSandbox

/-- A command that starts the program as its outer stage for another command. -/
structure Command.Wraps (itself : Bytes → Bool) (outer within : Command) : Prop where
  itself : itself outer.program = true
  asks : ∃ verbose, ∀ environment,
    Start.Asks ⟨outer.program, outer.args, environment⟩ ⟨.outer, within⟩ verbose
  back : OuterStage.ofRunning.ReadsBack outer

/-- A command behind so many others that start the program as its outer stage. -/
inductive Command.Wrapped (itself : Bytes → Bool) (command : Command) : Nat → Command → Prop
  | bare (back : OuterStage.ofRunning.ReadsBack command) : Wrapped itself command 0 command
  | again {depth : Nat} {outer within : Command} (wrapped : Wrapped itself command depth within)
      (wraps : outer.Wraps itself within) : Wrapped itself command (depth + 1) outer

theorem CommandLine.IsOwnWord.of_stage {stage : Stage} {word : Bytes}
    (own : IsOwnWord stage word) (other : Stage) : IsOwnWord other word := by
  cases own with
  | escape => exact .escape
  | long name value plain taken => exact .long name value plain taken
  | short letters nonempty taken => exact .short letters nonempty taken

theorem Command.Wrapped.back {itself : Bytes → Bool} {command outer : Command} {depth : Nat}
    (wrapped : command.Wrapped itself depth outer) : OuterStage.ofRunning.ReadsBack outer := by
  cases wrapped with
  | bare back => exact back
  | again wrapped wraps => exact wraps.back

/-- A command line that begins so many times with the name of the program and the word for the
outer stage wraps the command that it ends with as many times. -/
theorem Command.exists_wrapped {itself : Bytes → Bool} {name : Bytes} {command : Command}
    (nonempty : name ≠ []) (noNul : (0 : UInt8) ∉ name) (isItself : itself name = true)
    (foreign : ¬ CommandLine.IsOwnWord .inner name)
    (back : OuterStage.ofRunning.ReadsBack command) (depth : Nat) :
    ∃ outer, command.Wrapped itself depth outer ∧ outer.words =
      (List.replicate depth [name, Bytes.ofString Stage.outer.word]).flatten ++ command.words := by
  induction depth with
  | zero => exact ⟨command, .bare back, rfl⟩
  | succ depth hypothesis =>
      obtain ⟨within, wrapped, words⟩ := hypothesis
      have isForeign : ¬ CommandLine.IsOwnWord .outer within.program := fun own =>
        OuterStage.not_isOwnWord_of_readsBack wrapped.back (own.of_stage .inner)
      have read := CommandLine.parseStage_of_not_isOwnWord isForeign false false within.args
      refine ⟨⟨name, Bytes.ofString Stage.outer.word :: within.words, nonempty, noNul⟩,
        .again wrapped ⟨isItself, ⟨false, fun environment => ?_⟩, ?_⟩, ?_⟩
      · exact ⟨_, read, rfl, CommandLine.invocation_eq_ok_iff.2 ⟨rfl, rfl⟩⟩
      · exact OuterStage.readsBack_of_not_isOwnWord _ foreign
      · rw [List.replicate_succ, List.flatten_cons, List.append_assoc, ← words]
        rfl

namespace Family

variable {itself : Bytes → Bool} {root pid child : Pid} {family : Family}
  {trace : List Happening} {start : Start} {listener : Listener UInt8} {status : ExitStatus}
  {command within : Command} {depth number : Nat} {outcome : Outcome}

/-- The outcome that the command of a stage has met. -/
def Meets (family : Family) (pid : Pid) : Outcome → Prop
  | .refused cause => ∃ start listener, family.Plays pid start listener ∧
      listener.duty = .refused cause
  | .ended status => ∃ child, family.ParentOf pid child ∧ family.EndedAs child status

/-- Nothing keeps the first so many generations from creating their children. -/
def Favoured (family : Family) (root : Pid) (generations : Nat) : Prop :=
  ∀ number pid start listener, number < generations → family.Generation root number pid →
    family.Plays pid start listener →
      ¬ listener.supervisor.Hindered ∧ ∀ cause, listener.duty ≠ .refused cause

/-- The status of a command comes through to a first process that was started as the outer stage
for it, behind so many others. -/
structure Transparent (itself : Bytes → Bool) (root : Pid) (first : Start) (command : Command)
    (depth : Nat) (trace : List Happening) (family : Family) : Prop where
  /-- There is an end to what may happen. -/
  length_le : trace.length ≤ first.patience
  /-- As long as the first process is running, something can happen. -/
  goes_on : family.Runs root →
    ∃ happening after, Step itself family happening after ∧ happening.IsOwn
  /-- The innermost stage runs the command. -/
  innermost : ∀ {inner}, family.Generation root (2 * depth + 1) inner →
    family.Acts inner ⟨.inner, command⟩ ∧ ∀ {child}, family.ParentOf inner child →
      ∃ member environment, family child = some member ∧ member.StartedFrom itself environment
        (InnerStage.standard.runner.spawning command)
  /-- Unless something hinders the stages, the command meets with an outcome. -/
  meets : ∀ {status}, family.EndedAs root status →
    family.Spared root trace (2 * depth + 2) → family.Favoured root (2 * depth + 1) →
      (∀ inner start listener, family.Generation root (2 * depth + 1) inner →
        family.Plays inner start listener → ¬ listener.supervisor.Hindered) →
      ∃ inner outcome, family.Generation root (2 * depth + 1) inner ∧ family.Meets inner outcome
  /-- The first process exits with the status of the outcome, as a runner of the command does. -/
  outcome : ∀ {inner outcome status}, family.Generation root (2 * depth + 1) inner →
    family.Meets inner outcome → family.Spared root trace (2 * depth + 2) →
      family.EndedAs root status → family.ExitedWith root outcome.status ∧
        ∀ runner : Runner, ∀ code,
          runner.Yields command outcome code ↔ family.EndedAs root (.exited code)
  /-- The first process exits with 125 if some stage could not prepare itself. -/
  hindered : ∀ {number pid start listener status}, number ≤ 2 * depth + 1 →
    family.Generation root number pid → family.Plays pid start listener →
      listener.supervisor.Hindered → family.Spared root trace (number + 1) →
        family.EndedAs root status → family.ExitedWith root 125
  /-- The first process exits with the status of a signal by which another stage was struck. -/
  struck : ∀ {number pid signal status}, family.Generation root (number + 1) pid →
    .struck pid signal ∈ trace → family.Spared root trace (number + 1) →
      family.EndedAs root status → family.ExitedWith root (128 + signal.number)
  /-- The status that a stage asks for is the one that it exits with. -/
  fits : ∀ {pid invocation code}, family.Acts pid invocation → family.EndedAs pid (.exited code) →
    ∃ start listener result, family.Plays pid start listener ∧
      invocation.Decides listener.supervisor result ∧ 0 ≤ statusOf result ∧
        statusOf result ≤ 255 ∧ (code.toNat : Int) = statusOf result

namespace Quiet

/-- The stages of the generations, two by two, are an outer and an inner one for the same
command, which is wrapped less and less. -/
theorem acts_of_generation (quiet : Quiet itself root trace family)
    (acts : family.Acts root ⟨.outer, within⟩) (wrapped : command.Wrapped itself depth within)
    (le : number ≤ depth) :
    (∀ pid, family.Generation root (2 * number) pid →
      ∃ inward, command.Wrapped itself (depth - number) inward ∧
        family.Acts pid ⟨.outer, inward⟩) ∧
    ∀ pid, family.Generation root (2 * number + 1) pid →
      ∃ inward, command.Wrapped itself (depth - number) inward ∧
        family.Acts pid ⟨.inner, inward⟩ := by
  have innerOf : ∀ {number}, (∀ pid, family.Generation root (2 * number) pid →
      ∃ inward, command.Wrapped itself (depth - number) inward ∧
        family.Acts pid ⟨.outer, inward⟩) →
      ∀ pid, family.Generation root (2 * number + 1) pid →
        ∃ inward, command.Wrapped itself (depth - number) inward ∧
          family.Acts pid ⟨.inner, inward⟩ := by
    intro number outer pid generation
    cases generation with
    | child parent above =>
        obtain ⟨inward, wrapped, acts⟩ := outer _ above
        exact ⟨inward, wrapped, quiet.acts_inner acts parent (wrapped.back.of_stage ·)⟩
  induction number with
  | zero =>
      refine ⟨fun pid generation => ?_, innerOf fun pid generation => ?_⟩
      all_goals
        cases generation
        exact ⟨within, wrapped, acts⟩
  | succ number hypothesis =>
      have outer : ∀ pid, family.Generation root (2 * (number + 1)) pid →
          ∃ inward, command.Wrapped itself (depth - (number + 1)) inward ∧
            family.Acts pid ⟨.outer, inward⟩ := by
        intro pid generation
        cases generation with
        | child parent above =>
            obtain ⟨outward, wrapped, acts⟩ := (hypothesis (Nat.le_of_succ_le le)).2 _ above
            have deeper : depth - number = depth - (number + 1) + 1 := by omega
            rw [deeper] at wrapped
            cases wrapped with
            | again wrapped wraps =>
                obtain ⟨verbose, asks⟩ := wraps.asks
                exact ⟨_, wrapped, quiet.acts_outer acts parent wraps.itself asks⟩
      exact ⟨outer, innerOf outer⟩

theorem acts_of_le (quiet : Quiet itself root trace family)
    (acts : family.Acts root ⟨.outer, within⟩) (wrapped : command.Wrapped itself depth within)
    (le : number ≤ 2 * depth + 1) (above : family.Generation root number pid) :
    ∃ invocation, family.Acts pid invocation := by
  obtain ⟨half, rfl | rfl⟩ := Nat.even_or_odd' number
  · obtain ⟨inward, -, acts⟩ := (quiet.acts_of_generation acts wrapped (by omega)).1 pid above
    exact ⟨_, acts⟩
  · obtain ⟨inward, -, acts⟩ := (quiet.acts_of_generation acts wrapped (by omega)).2 pid above
    exact ⟨_, acts⟩

theorem acts_innermost (quiet : Quiet itself root trace family)
    (acts : family.Acts root ⟨.outer, within⟩) (wrapped : command.Wrapped itself depth within)
    (above : family.Generation root (2 * depth + 1) pid) :
    family.Acts pid ⟨.inner, command⟩ := by
  obtain ⟨inward, bare, acts⟩ :=
    (quiet.acts_of_generation acts wrapped (Nat.le_refl depth)).2 pid above
  rw [Nat.sub_self] at bare
  cases bare with
  | bare back => exact acts

/-- The status that a stage has asked for is the one that it has exited with. -/
theorem decides_of_exited (quiet : Quiet itself root trace family) {invocation : Invocation}
    {code : UInt8} (acts : family.Acts pid invocation)
    (exited : family.EndedAs pid (.exited code)) :
    ∃ start listener result, family.Plays pid start listener ∧
      invocation.Decides listener.supervisor result ∧ 0 ≤ statusOf result ∧
        statusOf result ≤ 255 ∧ (code.toNat : Int) = statusOf result := by
  obtain ⟨start, listener, verbose, ⟨member, present, role⟩, asks⟩ := acts
  obtain ⟨same, presentToo, ending⟩ := exited
  cases present.symm.trans presentToo
  have plays : family.Plays pid start listener := ⟨member, present, role⟩
  rcases (quiet.ended present ending).stage role with ⟨other, same, done⟩ | ⟨signal, same, -⟩
  · cases same
    have keeps := (quiet.sound.supervised plays).keeps
    rw [done] at keeps
    obtain ⟨result, decides, rfl⟩ := Sandbox.Decides.of_asks keeps asks
    obtain ⟨least, greatest⟩ := decides.statusOf_bounds fun child status settled =>
      quiet.possible (quiet.sound.told plays settled)
    exact ⟨start, listener, result, plays, decides, least, by omega,
      toNat_codeOf least greatest⟩
  · cases same

theorem exited_of_acts (quiet : Quiet itself root trace family) {invocation : Invocation}
    (acts : family.Acts pid invocation) (ended : family.EndedAs pid status)
    (unstruck : ∀ signal, .struck pid signal ∉ trace) :
    ∃ code, family.EndedAs pid (.exited code) := by
  obtain ⟨start, listener, verbose, plays, asks⟩ := acts
  obtain ⟨code, rfl, -⟩ := quiet.decides plays ended unstruck
  exact ⟨code, ended⟩

/-- The stages of the generations that are spared have all exited once the first one has ended. -/
theorem exited_of_generation (quiet : Quiet itself root trace family)
    (acts : family.Acts root ⟨.outer, within⟩) (wrapped : command.Wrapped itself depth within)
    (le : number ≤ 2 * depth + 1) (above : family.Generation root number pid)
    (spared : family.Spared root trace (number + 1)) (ended : family.EndedAs root status) :
    ∃ invocation code, family.Acts pid invocation ∧ family.EndedAs pid (.exited code) := by
  obtain ⟨invocation, actsToo⟩ := quiet.acts_of_le acts wrapped le above
  obtain ⟨last, endedToo⟩ := quiet.ended_of_generation above (spared.mono (by omega)) ended
  obtain ⟨code, exited⟩ := quiet.exited_of_acts actsToo endedToo
    fun signal => spared number pid signal (by omega) above
  exact ⟨invocation, code, actsToo, exited⟩

/-- A stage that has exited was hindered, or was refused its command, or has seen the end of its
child. -/
theorem duty_of_exited (quiet : Quiet itself root trace family) {invocation : Invocation}
    {code : UInt8} (acts : family.Acts pid invocation)
    (exited : family.EndedAs pid (.exited code)) :
    ∃ start listener, family.Plays pid start listener ∧
      (listener.supervisor.Hindered ∨ (∃ cause, listener.duty = .refused cause) ∨
        ∃ child last, family.ParentOf pid child ∧ family.EndedAs child last) := by
  obtain ⟨start, listener, result, plays, decides, -⟩ := quiet.decides_of_exited acts exited
  refine ⟨start, listener, plays, ?_⟩
  rcases decides.duty_cases with ⟨-, hindered⟩ | ⟨cause, refused⟩ | ⟨child, last, settled⟩
  · exact .inl hindered
  · exact .inr (.inl ⟨cause, refused⟩)
  · have created : listener.duty.created? = some child := by
      change listener.supervisor.duty.created? = some child
      rw [settled]
      rfl
    exact .inr (.inr ⟨child, last, quiet.sound.parentOf_of_created plays created,
      quiet.sound.told plays settled⟩)

/-- If no stage is hindered, there is a process of every generation once the first one has
ended. -/
theorem exists_generation (quiet : Quiet itself root trace family)
    (acts : family.Acts root ⟨.outer, within⟩) (wrapped : command.Wrapped itself depth within)
    (ended : family.EndedAs root status) (spared : family.Spared root trace (2 * depth + 2))
    (favoured : family.Favoured root (2 * depth + 1)) (le : number ≤ 2 * depth + 1) :
    ∃ pid, family.Generation root number pid := by
  induction number with
  | zero => exact ⟨root, .root⟩
  | succ number hypothesis =>
      obtain ⟨pid, above⟩ := hypothesis (Nat.le_of_succ_le le)
      obtain ⟨invocation, code, actsToo, exited⟩ := quiet.exited_of_generation acts wrapped
        (Nat.le_of_succ_le le) above (spared.mono (by omega)) ended
      obtain ⟨start, listener, plays, fate⟩ := quiet.duty_of_exited actsToo exited
      obtain ⟨able, accepted⟩ := favoured number pid start listener (by omega) above plays
      rcases fate with hindered | ⟨cause, refused⟩ | ⟨child, last, parent, -⟩
      · exact absurd hindered able
      · exact absurd refused (accepted cause)
      · exact ⟨child, .child parent above⟩

/-- The command of an innermost stage that is not hindered has met with an outcome once the stage
has exited. -/
theorem exists_meets (quiet : Quiet itself root trace family) {invocation : Invocation}
    {code : UInt8} (acts : family.Acts pid invocation)
    (exited : family.EndedAs pid (.exited code))
    (able : ∀ start listener, family.Plays pid start listener → ¬ listener.supervisor.Hindered) :
    ∃ outcome, family.Meets pid outcome := by
  obtain ⟨start, listener, plays, fate⟩ := quiet.duty_of_exited acts exited
  rcases fate with hindered | ⟨cause, refused⟩ | ⟨child, last, parent, ended⟩
  · exact absurd hindered (able start listener plays)
  · exact ⟨.refused cause, start, listener, plays, refused⟩
  · exact ⟨.ended last, child, parent, ended⟩

/-- A stage that was hindered exits with the status of a failed preparation. -/
theorem toNat_eq_of_hindered (quiet : Quiet itself root trace family)
    {invocation : Invocation} {code : UInt8} (acts : family.Acts pid invocation)
    (plays : family.Plays pid start listener) (hindered : listener.supervisor.Hindered)
    (exited : family.EndedAs pid (.exited code)) : (code.toNat : Int) = 125 := by
  obtain ⟨_, _, result, playsToo, decides, -, -, same⟩ := quiet.decides_of_exited acts exited
  obtain ⟨rfl, rfl⟩ := plays.unique playsToo
  have free : listener.supervisor.duty = .free := by
    by_contra begun
    exact ((quiet.sound.supervised plays).ready begun).2 hindered
  rw [decides.statusOf_eq_setup free] at same
  exact same

/-- The innermost stage comes to the status of the outcome of its command. -/
theorem exitedWith_of_meets (quiet : Quiet itself root trace family)
    (acts : family.Acts pid ⟨.inner, command⟩) (meets : family.Meets pid outcome)
    (ended : family.EndedAs pid status) (unstruck : ∀ signal, .struck pid signal ∉ trace) :
    outcome.IsPossible ∧ family.ExitedWith pid outcome.status := by
  cases outcome with
  | ended last =>
      obtain ⟨child, parent, endedChild⟩ := meets
      obtain ⟨first, endedToo, exited⟩ := quiet.takes_over parent ended unstruck
      rw [endedChild.unique endedToo]
      exact ⟨quiet.possible endedToo, exited⟩
  | refused cause =>
      obtain ⟨start, listener, plays, refused⟩ := meets
      obtain ⟨code, exited⟩ := quiet.exited_of_acts acts ended unstruck
      obtain ⟨_, _, result, playsToo, decides, -, -, same⟩ := quiet.decides_of_exited acts exited
      obtain ⟨rfl, rfl⟩ := plays.unique playsToo
      have met : listener.supervisor.duty.outcome? = some (.refused cause) := by
        change listener.duty.outcome? = _
        rw [refused]
        rfl
      rw [InnerStage.Decides.statusOf_eq decides met] at same
      exact ⟨trivial, code, exited, same⟩

end Quiet

/-- Runners yield the code with which a process has exited that has taken over an outcome. -/
theorem ExitedWith.yields_iff (exited : family.ExitedWith pid outcome.status)
    (possible : outcome.IsPossible) (runner : Runner) (code : UInt8) :
    runner.Yields command outcome code ↔ family.EndedAs pid (.exited code) := by
  rw [Runner.yields_iff possible]
  obtain ⟨found, ended, isStatus⟩ := exited
  constructor
  · intro isStatusToo
    have equal : found = code := by
      apply UInt8.toNat_inj.1
      omega
    exact equal ▸ ended
  · intro endedToo
    cases ended.unique endedToo
    exact isStatus

theorem endedAs_of_struck {first : Start} {signal : Signal}
    (run : Run (Step itself) (.start root first) trace family)
    (struck : .struck pid signal ∈ trace) : family.EndedAs pid (.killed signal) := by
  induction run with
  | start => cases struck
  | next run step hypothesis =>
      rcases List.mem_append.1 struck with before | now
      · exact step.endedAs (hypothesis before)
      · cases List.mem_singleton.1 now
        cases step with
        | strike there stage running possible => exact ⟨_, set_self, rfl⟩

theorem acts_of_run {first : Start} {invocation : Invocation} {verbose : Bool}
    (asks : first.Asks invocation verbose)
    (run : Run (Step itself) (.start root first) trace family) :
    family.Acts root invocation := by
  obtain ⟨listener, plays⟩ := plays_of_run run
  exact ⟨first, listener, verbose, plays, asks⟩

def preparing (pid : Pid) (invocation : Invocation) : List Happening :=
  [.made pid ⟨.react .brokenPipe .ignored, .standard⟩,
    .made pid ⟨.react .busError .ignoredOnce, .standard⟩,
    .made pid ⟨.react .segmentFault .ignoredOnce, .standard⟩,
    .made pid ⟨.openLog (.choose none false), ()⟩,
    .made pid ⟨.report (.dispatching invocation.stage invocation.command), ()⟩]

/-- What an outer stage does up to waiting for its child, where the program lies at `path`. -/
def launching (pid child : Pid) (path : Bytes) (command : Command) : List Happening :=
  preparing pid ⟨.outer, command⟩ ++
  [.made pid ⟨.report (.launching command), ()⟩,
    .made pid ⟨.ownPath, .ok path⟩,
    .made pid ⟨.react .terminate .caught, .standard⟩,
    .made pid ⟨.react .hangup .caught, .standard⟩,
    .made pid ⟨.report (.requesting .standard), ()⟩,
    .made pid ⟨.spawn (OuterStage.ofRunning.spawning path command), .ok child⟩,
    .made pid ⟨.report (.relaunched path.lossy child), ()⟩,
    .made pid ⟨.report (.waiting path.lossy child), ()⟩]

/-- What an inner stage does up to waiting for its child. -/
def initializing (parent pid child : Pid) (command : Command) : List Happening :=
  preparing pid ⟨.inner, command⟩ ++
  [.made pid ⟨.report (.initializing command), ()⟩,
    .made pid ⟨.ownPid, pid⟩,
    .made pid ⟨.namespaceOf pid, .ok "own"⟩,
    .made pid ⟨.parentPid, parent⟩,
    .made pid ⟨.namespaceOf parent, .ok "parent"⟩,
    .made pid ⟨.report (.fresh "own" "parent"), ()⟩,
    .made pid ⟨.report (.naming .marker), ()⟩,
    .made pid ⟨.setHostname (Bytes.ofString Hostname.marker.text), .ok ()⟩,
    .made pid ⟨.report (.executing command), ()⟩,
    .made pid ⟨.react .terminate .caught, .standard⟩,
    .made pid ⟨.react .hangup .caught, .standard⟩,
    .made pid ⟨.spawn (InnerStage.standard.runner.spawning command), .ok child⟩,
    .made pid ⟨.report (.waiting command.program.lossy child), ()⟩]

def concluding (pid child : Pid) (label : String) (code : UInt8) : List Happening :=
  [.made pid ⟨.select child Relay.signals, .ended (.exited code)⟩,
    .made pid ⟨.report (.exited label code), ()⟩,
    .ended pid (.exited code)]

/-- What happens when a command is killed that is wrapped once, where the program lies at
`path`. -/
def killedTrace (path : Bytes) (outer command : Command) : List Happening :=
  let label := command.program.lossy
  launching 1 2 path outer ++ initializing 1 2 3 outer ++ launching 3 4 path command ++
  initializing 3 4 5 command ++
  [.ended 5 (.killed .kill),
    .made 4 ⟨.select 5 Relay.signals, .ended (.killed .kill)⟩,
    .made 4 ⟨.report (.killed label .kill), ()⟩,
    .made 4 ⟨.write Descriptor.error
      (Bytes.ofString (Sandbox.diagnostic (.runtime label Signal.kill.number))), .ok ()⟩,
    .ended 4 (.exited 137)] ++
  concluding 3 4 path.lossy 137 ++ concluding 2 3 outer.program.lossy 137 ++
  concluding 1 2 path.lossy 137

end Family

end HostnameSandbox

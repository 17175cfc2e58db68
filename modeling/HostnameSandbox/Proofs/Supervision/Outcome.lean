import HostnameSandbox.Proofs.Supervision.History
import HostnameSandbox.Proofs.Supervision.Stages

/-!
# What becomes of a command

A command cannot be started, exits or is killed, and there is a status for each of these by
which a caller is told about it.  Whoever runs a command comes to the status of its outcome,
and a stage that waits for another one comes to the status of that one.
-/

namespace HostnameSandbox

/-- Whether a process can end so: there are no greater signals. -/
def ExitStatus.IsPossible : ExitStatus → Prop
  | .exited _ => True
  | .killed signal => signal.number ≤ Signal.greatest

/-- What becomes of a command. -/
inductive Outcome where
  /-- It cannot be started. -/
  | refused (cause : Cause)
  /-- It ends. -/
  | ended (status : ExitStatus)
deriving DecidableEq

namespace Outcome

/-- The status by which a caller is told about an outcome. -/
def status : Outcome → Int
  | .refused cause => if cause.isNotFound then 127 else 126
  | .ended (.exited code) => code.toNat
  | .ended (.killed signal) => 128 + signal.number

def IsPossible : Outcome → Prop
  | .refused _ => True
  | .ended status => status.IsPossible

/-- The status of an outcome is one that a process can exit with. -/
theorem status_bounds (outcome : Outcome) (possible : outcome.IsPossible) :
    0 ≤ outcome.status ∧ outcome.status < 256 := by
  cases outcome with
  | refused cause =>
      simp only [Outcome.status]
      split <;> omega
  | ended status =>
      cases status with
      | exited code =>
          have bound : code.toNat < 256 := code.toNat_lt
          change (0 : Int) ≤ code.toNat ∧ (code.toNat : Int) < 256
          omega
      | killed signal =>
          have bound : signal.number ≤ 64 := possible
          change (0 : Int) ≤ 128 + signal.number ∧ 128 + (signal.number : Int) < 256
          omega

end Outcome

/-- A status that a process can exit with is not changed by that. -/
theorem toNat_exitCodeOf {status : Int} (least : 0 ≤ status) (greatest : status < 256) :
    ((exitCodeOf status).toNat : Int) = status := by
  have small : (status % 256).toNat < 256 := by omega
  rw [exitCodeOf, UInt8.toNat_ofNat_of_lt' small]
  omega

/-- The outcome that a process has met with, once it does not wait for its child any more. -/
def Duty.outcome? : Duty → Option Outcome
  | .refused cause => some (.refused cause)
  | .settled _ status => some (.ended status)
  | .free | .tending _ | .serving _ _ => none

/-- The status that a run comes to, before the process exits with it. -/
def statusOf : Except Failure UInt8 → Int
  | .ok code => code.toNat
  | .error failure => failure.exitCode

theorem toNat_codeOf {result : Except Failure UInt8} (least : 0 ≤ statusOf result)
    (greatest : statusOf result < 256) : ((codeOf result).toNat : Int) = statusOf result := by
  cases result with
  | ok code => rfl
  | error failure => exact toNat_exitCodeOf least greatest

theorem statusOf_concluded (label : String) (status : ExitStatus) :
    statusOf (concluded label status) = (Outcome.ended status).status := by
  cases status with
  | exited code => rfl
  | killed signal => rfl

section Stages

variable {supervisor : Supervisor} {result : Except Failure UInt8} {outcome : Outcome}

/-- A runner comes to the status of the outcome of its command. -/
theorem Runner.Decides.statusOf_eq {command : Command}
    (decides : Runner.Decides command supervisor result)
    (met : supervisor.duty.outcome? = some outcome) : statusOf result = outcome.status := by
  unfold Runner.Decides at decides
  cases duty : supervisor.duty with
  | refused cause =>
      rw [duty] at decides met
      cases met
      obtain rfl : result = _ := decides
      rfl
  | settled child status =>
      rw [duty] at decides met
      cases met
      obtain rfl : result = _ := decides
      exact statusOf_concluded _ _
  | _ =>
      rw [duty] at met
      cases met

theorem InnerStage.Decides.statusOf_eq {command : Command}
    (decides : InnerStage.Decides command supervisor result)
    (met : supervisor.duty.outcome? = some outcome) : statusOf result = outcome.status := by
  rcases decides with ⟨free, -⟩ | decides
  · rw [free] at met
    cases met
  · exact decides.statusOf_eq met

theorem InnerStage.Decides.statusOf_eq_setup {command : Command}
    (decides : InnerStage.Decides command supervisor result)
    (free : supervisor.duty = .free) : statusOf result = 125 := by
  rcases decides with ⟨-, -, fault, rfl⟩ | decides
  · rfl
  · unfold Runner.Decides at decides
    rw [free] at decides
    exact decides.elim

/-- An outer stage comes to the status of the inner one. -/
theorem OuterStage.Decides.statusOf_eq {stage : OuterStage} {child : Pid} {status : ExitStatus}
    (decides : stage.Decides supervisor result) (settled : supervisor.duty = .settled child status) :
    statusOf result = (Outcome.ended status).status := by
  rcases decides with ⟨free, -⟩ | ⟨path, -, decides⟩
  · rw [settled] at free
    cases free
  · rw [settled] at decides
    obtain rfl : result = _ := decides
    exact statusOf_concluded _ _

theorem OuterStage.Decides.statusOf_eq_setup {stage : OuterStage}
    (decides : stage.Decides supervisor result) (alone : supervisor.duty.created? = none) :
    statusOf result = 125 := by
  rcases decides with ⟨-, -, cause, rfl⟩ | ⟨path, -, decides⟩
  · rfl
  · cases duty : supervisor.duty with
    | refused cause =>
        rw [duty] at decides
        obtain rfl : result = _ := decides
        rfl
    | settled child status =>
        rw [duty] at alone
        cases alone
    | _ =>
        rw [duty] at decides
        exact decides.elim

theorem Invocation.Decides.statusOf_eq {invocation : Invocation} {child : Pid}
    {status : ExitStatus} (decides : invocation.Decides supervisor result)
    (settled : supervisor.duty = .settled child status) :
    statusOf result = (Outcome.ended status).status := by
  obtain ⟨stage, command⟩ := invocation
  cases stage with
  | outer => exact OuterStage.Decides.statusOf_eq decides settled
  | inner => exact InnerStage.Decides.statusOf_eq decides (by rw [settled]; rfl)

/-- A stage that has come to its end was hindered from creating a child, was refused one, or has
been told how it ended. -/
theorem Invocation.Decides.duty_cases {invocation : Invocation}
    (decides : invocation.Decides supervisor result) :
    (supervisor.duty = .free ∧ supervisor.Hindered) ∨
      (∃ cause, supervisor.duty = .refused cause) ∨
        ∃ child status, supervisor.duty = .settled child status := by
  have decided : ∀ {label failed}, supervisor.duty.Decides label failed result →
      (∃ cause, supervisor.duty = .refused cause) ∨
        ∃ child status, supervisor.duty = .settled child status := by
    intro label failed decides
    cases duty : supervisor.duty with
    | refused cause => exact .inl ⟨cause, rfl⟩
    | settled child status => exact .inr ⟨child, status, rfl⟩
    | _ =>
        rw [duty] at decides
        exact decides.elim
  obtain ⟨stage, command⟩ := invocation
  cases stage with
  | outer =>
      rcases decides with ⟨free, hindered, -⟩ | ⟨path, -, decides⟩
      · exact .inl ⟨free, hindered rfl⟩
      · exact .inr (decided decides)
  | inner =>
      rcases decides with ⟨free, hindered, -⟩ | decides
      · exact .inl ⟨free, hindered⟩
      · exact .inr (decided decides)

theorem Invocation.Decides.statusOf_eq_setup {invocation : Invocation}
    (decides : invocation.Decides supervisor result) (free : supervisor.duty = .free) :
    statusOf result = 125 := by
  obtain ⟨stage, command⟩ := invocation
  cases stage with
  | outer => exact OuterStage.Decides.statusOf_eq_setup decides (by rw [free]; rfl)
  | inner => exact InnerStage.Decides.statusOf_eq_setup decides free

theorem Invocation.Decides.statusOf_bounds {invocation : Invocation}
    (decides : invocation.Decides supervisor result)
    (possible : ∀ child status, supervisor.duty = .settled child status → status.IsPossible) :
    0 ≤ statusOf result ∧ statusOf result < 256 := by
  rcases decides.duty_cases with ⟨free, -⟩ | ⟨cause, refused⟩ | ⟨child, status, settled⟩
  · rw [decides.statusOf_eq_setup free]
    omega
  · obtain ⟨stage, command⟩ := invocation
    cases stage with
    | outer =>
        rw [OuterStage.Decides.statusOf_eq_setup decides (by rw [refused]; rfl)]
        omega
    | inner =>
        have met : supervisor.duty.outcome? = some (.refused cause) := by rw [refused]; rfl
        rw [InnerStage.Decides.statusOf_eq decides met]
        exact Outcome.status_bounds _ trivial
  · rw [decides.statusOf_eq settled]
    exact Outcome.status_bounds (.ended status) (possible child status settled)

theorem Start.Asks.unique {start : Start} {invocation other : Invocation} {verbose also : Bool}
    (asks : start.Asks invocation verbose) (asksToo : start.Asks other also) :
    invocation = other ∧ verbose = also := by
  obtain ⟨request, read, rfl, invoked⟩ := asks
  obtain ⟨same, readToo, rfl, invokedToo⟩ := asksToo
  cases read.symm.trans readToo
  cases invoked.symm.trans invokedToo
  exact ⟨rfl, rfl⟩

theorem Sandbox.Decides.of_asks {start : Start} {code : UInt8} {invocation : Invocation}
    {verbose : Bool} (decides : Decides start code supervisor)
    (asks : start.Asks invocation verbose) :
    ∃ result, invocation.Decides supervisor result ∧ code = codeOf result := by
  rcases decides with ⟨-, never⟩ | ⟨other, also, result, asksToo, decides, same⟩
  · exact absurd asks (never invocation verbose)
  · obtain ⟨rfl, -⟩ := asks.unique asksToo
    exact ⟨result, decides, same⟩

/-- The program exits with the status of its child, if there can be such a one. -/
theorem Sandbox.Decides.toNat_eq {start : Start} {code : UInt8} {child : Pid}
    {status : ExitStatus} (decides : Decides start code supervisor)
    (settled : supervisor.duty = .settled child status) (possible : status.IsPossible) :
    (code.toNat : Int) = (Outcome.ended status).status := by
  rcases decides with ⟨free, -⟩ | ⟨invocation, verbose, result, -, decides, rfl⟩
  · rw [settled] at free
    cases free
  · have same : statusOf result = _ := decides.statusOf_eq settled
    obtain ⟨least, greatest⟩ := Outcome.status_bounds (.ended status) possible
    rw [← same] at least greatest ⊢
    exact toNat_codeOf least greatest

end Stages

/-! ### A command on its own -/

namespace Runner

/-- Runs a command on its own and exits with what comes of it. -/
def alone (runner : Runner) (command : Command) : Process UInt8 :=
  (runner.execute command).run >>= Sandbox.finish

/-- Whether a command that is run on its own may meet an outcome and make the runner exit with
a code. -/
def Yields (runner : Runner) (command : Command) (outcome : Outcome) (code : UInt8) : Prop :=
  ∃ talk, Run Process.Step (runner.alone command) talk (.done code) ∧
    (Supervisor.of talk).duty.outcome? = some outcome

variable {runner : Runner} {command : Command} {outcome : Outcome} {code : UInt8}

theorem keeps_alone (runner : Runner) (command : Command) :
    (runner.alone command).Keeps (supervision fun _ _ => True)
      (fun code after => ∃ result, Runner.Decides command after result ∧ code = codeOf result)
      .initial := by
  have able : ¬ Supervisor.initial.Hindered := by
    rintro (failed | ⟨name, same⟩)
    · cases failed
    · cases same
  refine Process.keeps_bind (keeps_execute rfl able trivial fun result after decides => ?_)
  exact Sandbox.keeps_finish (Duty.Decides.child?_eq_none decides) ⟨result, decides, rfl⟩

theorem toNat_eq_status_of_yields (possible : outcome.IsPossible)
    (yields : runner.Yields command outcome code) : (code.toNat : Int) = outcome.status := by
  obtain ⟨talk, run, met⟩ := yields
  have decided := (keeps_alone runner command).run run
  obtain ⟨result, decides, rfl⟩ := decided
  have same : statusOf result = outcome.status := Runner.Decides.statusOf_eq decides met
  obtain ⟨least, greatest⟩ := outcome.status_bounds possible
  rw [← same] at least greatest ⊢
  exact toNat_codeOf least greatest

/-- A command that is run on its own may meet any outcome. -/
theorem exists_yields (runner : Runner) (command : Command) (outcome : Outcome) :
    ∃ code, runner.Yields command outcome code := by
  let label := command.program.lossy
  cases outcome with
  | refused cause =>
      let diagnostic := Sandbox.diagnostic (.spawn label cause)
      exact ⟨_, [⟨.report (.executing command), ()⟩, ⟨.react .terminate .caught, .standard⟩,
          ⟨.react .hangup .caught, .standard⟩, ⟨.spawn (runner.spawning command), .error cause⟩,
          ⟨.write Descriptor.error (Bytes.ofString diagnostic), .ok ()⟩],
        .cons (.call _ _ _) <| .cons (.call _ _ _) <| .cons (.call _ _ _) <|
          .cons (.call _ _ _) <| .cons (.call _ _ _) .start, rfl⟩
  | ended status =>
      cases status with
      | exited code =>
          exact ⟨_, [⟨.report (.executing command), ()⟩, ⟨.react .terminate .caught, .standard⟩,
              ⟨.react .hangup .caught, .standard⟩, ⟨.spawn (runner.spawning command), .ok 1⟩,
              ⟨.report (.waiting label 1), ()⟩,
              ⟨.select 1 Relay.signals, .ended (.exited code)⟩,
              ⟨.report (.exited label code), ()⟩],
            .cons (.call _ _ _) <| .cons (.call _ _ _) <| .cons (.call _ _ _) <|
              .cons (.call _ _ _) <| .cons (.call _ _ _) <| .cons (.loop (.call _ _ _)) <|
              .cons (.call _ _ _) .start, rfl⟩
      | killed signal =>
          let diagnostic := Sandbox.diagnostic (.runtime label signal.number)
          exact ⟨_, [⟨.report (.executing command), ()⟩, ⟨.react .terminate .caught, .standard⟩,
              ⟨.react .hangup .caught, .standard⟩, ⟨.spawn (runner.spawning command), .ok 1⟩,
              ⟨.report (.waiting label 1), ()⟩,
              ⟨.select 1 Relay.signals, .ended (.killed signal)⟩,
              ⟨.report (.killed label signal), ()⟩,
              ⟨.write Descriptor.error (Bytes.ofString diagnostic), .ok ()⟩],
            .cons (.call _ _ _) <| .cons (.call _ _ _) <| .cons (.call _ _ _) <|
              .cons (.call _ _ _) <| .cons (.call _ _ _) <| .cons (.loop (.call _ _ _)) <|
              .cons (.call _ _ _) <| .cons (.call _ _ _) .start, rfl⟩

/-- A runner on its own exits with a code for an outcome exactly if the code is the status of
the outcome. -/
theorem yields_iff (possible : outcome.IsPossible) :
    runner.Yields command outcome code ↔ (code.toNat : Int) = outcome.status := by
  refine ⟨toNat_eq_status_of_yields possible, fun same => ?_⟩
  obtain ⟨other, yields⟩ := exists_yields runner command outcome
  have sameToo := toNat_eq_status_of_yields possible yields
  have equal : other = code := by
    apply UInt8.toNat_inj.1
    omega
  exact equal ▸ yields

end Runner

end HostnameSandbox

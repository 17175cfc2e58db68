import HostnameSandbox.Proofs.CommandLine.Verbosity
import HostnameSandbox.Proofs.Supervision.Stages

/-!
# Processes that differ in what they log

Two processes are twins if they make the same calls and do the same by the same replies, but for the
log filters that they choose and for the verbosity of the inner stage that they ask for.  The
program is its own twin on command lines that are read alike, whatever log setting it finds.
-/

namespace HostnameSandbox

/-- What the program creates its inner stage from. -/
def Sandbox.relaunching (verbose : Bool) (path : Bytes) (command : Command) : Spawning :=
  (OuterStage.ofRunning.withVerbose verbose).spawning path command

/-- Two processes make the same calls and do the same by the same replies, but for log filters and
for the verbosity of inner stages. -/
inductive Process.Twins {α : Type} : Process α → Process α → Prop
  | done (value : α) : Twins (.done value) (.done value)
  | call (request : Call) {next goOn : request.Reply → Process α}
      (goesOn : ∀ reply, Twins (next reply) (goOn reply)) :
      Twins (.call request next) (.call request goOn)
  | openLog (filter other : Event.Filter) {next goOn : Unit → Process α}
      (goesOn : Twins (next ()) (goOn ())) :
      Twins (.call (.openLog filter) next) (.call (.openLog other) goOn)
  | relaunch (verbose other : Bool) (path : Bytes) (command : Command)
      {next goOn : Except Cause Pid → Process α}
      (goesOn : ∀ reply, Twins (next reply) (goOn reply)) :
      Twins (.call (.spawn (Sandbox.relaunching verbose path command)) next)
        (.call (.spawn (Sandbox.relaunching other path command)) goOn)
  | fork {next goOn : Option Pid → Process α} (goesOn : ∀ child, Twins (next child) (goOn child)) :
      Twins (.fork next) (.fork goOn)
  | loop (turn : Turn (Option ExitStatus)) {next goOn : ExitStatus → Process α}
      (goesOn : ∀ status, Twins (next status) (goOn status)) :
      Twins (.loop turn next) (.loop turn goOn)

namespace Process

variable {α β : Type}

theorem Twins.refl (process : Process α) : Twins process process := by
  induction process with
  | done value => exact .done value
  | call request next hypothesis => exact .call request hypothesis
  | fork next hypothesis => exact .fork hypothesis
  | loop turn next hypothesis => exact .loop turn hypothesis

/-- Twins that are followed by twins are twins. -/
theorem Twins.bind {first other : Process β} {next goOn : β → Process α} (twins : Twins first other)
    (goesOn : ∀ value, Twins (next value) (goOn value)) :
    Twins (first >>= next) (other >>= goOn) := by
  change Twins (first.bind next) (other.bind goOn)
  induction twins with
  | done value => exact goesOn value
  | call request _ hypothesis => exact .call request hypothesis
  | openLog filter other _ hypothesis => exact .openLog filter other hypothesis
  | relaunch verbose other path command _ hypothesis =>
      exact .relaunch verbose other path command hypothesis
  | fork _ hypothesis => exact .fork hypothesis
  | loop turn _ hypothesis => exact .loop turn hypothesis

theorem twins_before (turn : Turn β) {next goOn : β → Process α}
    (goesOn : ∀ value, Twins (next value) (goOn value)) :
    Twins (turn.before next) (turn.before goOn) := by
  induction turn with
  | done value => exact goesOn value
  | call request goOn hypothesis => exact .call request hypothesis

/-- Twins that take turns are twins in their first turn and after. -/
theorem Twins.unroll {turn : Turn (Option ExitStatus)} {next goOn : ExitStatus → Process α}
    (goesOn : ∀ status, Twins (next status) (goOn status)) :
    Twins (Process.unroll turn next) (Process.unroll turn goOn) := by
  refine twins_before turn fun outcome => ?_
  cases outcome with
  | none => exact .loop turn goesOn
  | some status => exact goesOn status

end Process

open Process (Twins)

/-! ### The program -/

theorem twins_action_bind {α β : Type} {first other : Action α} {next goOn : α → Action β}
    (twins : Twins first.run other.run) (goesOn : ∀ value, Twins (next value).run (goOn value).run) :
    Twins (first >>= next).run (other >>= goOn).run := by
  refine twins.bind fun result => ?_
  cases result with
  | ok value => exact goesOn value
  | error failure => exact .refl _

theorem OuterStage.twins_run (verbose other : Bool) (command : Command) :
    Twins ((ofRunning.withVerbose verbose).run command).run
      ((ofRunning.withVerbose other).run command).run := by
  refine twins_action_bind (.refl _) fun _ => ?_
  refine twins_action_bind (.refl _) fun found => ?_
  cases found with
  | error cause => exact .refl _
  | ok path =>
      refine twins_action_bind (.refl _) fun _ => ?_
      refine twins_action_bind (.refl _) fun _ => ?_
      refine twins_action_bind ?_ fun reply => ?_
      · exact .relaunch verbose other path command fun reply => .refl _
      · cases reply with
        | error cause => exact .refl _
        | ok child => exact .refl _

theorem Invocation.twins_run (invocation : Invocation) (verbose other : Bool) :
    Twins (invocation.run verbose).run (invocation.run other).run := by
  obtain ⟨stage, command⟩ := invocation
  refine twins_action_bind (.refl _) fun _ => ?_
  cases stage with
  | outer => exact OuterStage.twins_run verbose other command
  | inner => exact .refl _

/-- The program does the same on command lines that are read alike, whatever log setting it
finds. -/
theorem Sandbox.twins_program {start other : Start}
    (alike : CommandLine.ReadAlike (CommandLine.parse start.args) (CommandLine.parse other.args)) :
    Twins (program start) (program other) := by
  refine Twins.bind (.refl _) fun _ => ?_
  generalize CommandLine.parse start.args = one at alike
  generalize CommandLine.parse other.args = two at alike
  cases alike with
  | refused refusal => exact .refl _
  | read verbose also stage words =>
      refine .openLog _ _ ?_
      change Twins ((serve ⟨verbose, stage, words⟩).run >>= finish)
        ((serve ⟨also, stage, words⟩).run >>= finish)
      refine Twins.bind ?_ fun result => .refl _
      unfold serve
      have same : CommandLine.Request.invocation ⟨also, stage, words⟩ =
          CommandLine.Request.invocation ⟨verbose, stage, words⟩ := rfl
      rw [same]
      split
      · exact .refl _
      · exact Invocation.twins_run _ verbose also

end HostnameSandbox

import HostnameSandbox.Proofs.Family.Generations
import Mathlib.Algebra.Order.BigOperators.Group.Finset

/-!
# Quiet families come to an end

As long as the first process of a quiet family is running, something can happen in the family.
Yet not much can happen altogether: a stage makes a bounded number of calls, and the command of
a stage is shorter than that of the stage that it comes from.
-/

namespace HostnameSandbox

/-- How many generations of stages may come from the program at most. -/
def Start.reach (start : Start) : Nat :=
  match CommandLine.parse start.args with
  | .ok ⟨_, .outer, words⟩ => 2 * words.length + 1
  | .ok ⟨_, .inner, words⟩ => 2 * words.length
  | .error _ => 0

/-- How much a stage may do: its calls, and its end. -/
def Sandbox.share : Nat := Sandbox.greatestBrevity + 1

/-- How much may happen after a start at most. -/
def Start.patience (start : Start) : Nat := (start.reach + 1) * Sandbox.share

theorem Start.reach_eq {start : Start} {request : CommandLine.Request}
    (read : CommandLine.parse start.args = .ok request) :
    start.reach = 2 * request.words.length + if request.stage = .outer then 1 else 0 := by
  obtain ⟨verbose, stage, words⟩ := request
  cases stage <;> simp [reach, read]

theorem Start.reach_eq_zero {start : Start} {refusal : CommandLine.Refusal}
    (read : CommandLine.parse start.args = .error refusal) : start.reach = 0 := by
  simp [reach, read]

/-- Fewer generations come from the child of the program than from the program. -/
theorem Start.reach_lt {start : Start} {own : Option Bytes} {spawning : Spawning}
    (mayStart : Sandbox.MayStart start own spawning) (environment : Environment) :
    (Start.mk spawning.path spawning.args environment).reach < start.reach := by
  obtain ⟨⟨stage, command⟩, verbose, ⟨request, read, -, invoked⟩, mayStart⟩ := mayStart
  obtain ⟨sameStage, sameWords⟩ := CommandLine.invocation_eq_ok_iff.1 invoked
  simp only at sameStage sameWords
  have nonempty : command.words.length = command.args.length + 1 := rfl
  rw [Start.reach_eq read, sameStage, ← sameWords]
  cases parsed : CommandLine.parse spawning.args with
  | error refusal =>
      rw [Start.reach_eq_zero parsed]
      omega
  | ok next =>
      rw [Start.reach_eq parsed]
      cases stage with
      | outer =>
          obtain ⟨path, -, rfl⟩ := mayStart
          have readToo := (OuterStage.parse_arguments _ command).symm.trans parsed
          obtain ⟨isInner, suffix⟩ := CommandLine.suffix_of_parseStage readToo
          have shorter := suffix.length_le
          simp only [isInner, reduceCtorEq, if_false, if_true]
          omega
      | inner =>
          obtain rfl : spawning = _ := mayStart
          have shorter : next.words.length < command.args.length :=
            CommandLine.length_words_lt_of_parseFrom parsed
          simp only [reduceCtorEq, if_false]
          split <;> omega

/-! ### What may still happen -/

/-- How much a stage may still do, with what its child may do until it has created that. -/
def Listener.budget (start : Start) (listener : Listener UInt8) : Nat :=
  (Sandbox.greatestBrevity - listener.talk.length) + 1 +
    if listener.duty = .free then start.reach * Sandbox.share else 0

def Role.budget : Role → Nat
  | .stage start listener => listener.budget start
  | .other => 1

def Member.budget (member : Member) : Nat :=
  match member.ending with
  | some _ => 0
  | none => member.role.budget

def Family.budget (family : Family) (pid : Pid) : Nat :=
  (family pid).elim 0 Member.budget

theorem Listener.budget_fresh (start : Start) :
    (fresh (Sandbox.program start)).budget start = start.patience := by
  change Sandbox.share + start.reach * Sandbox.share = (start.reach + 1) * Sandbox.share
  rw [Nat.add_mul, Nat.one_mul, Nat.add_comm]

/-- A process that was just created takes what its parent has kept for it. -/
theorem Member.budget_born_le (itself : Bytes → Bool) (parent : Pid) {start : Start}
    {own : Option Bytes} {spawning : Spawning}
    (mayStart : Sandbox.MayStart start own spawning) :
    (born itself parent start.environment spawning).budget ≤ start.reach * Sandbox.share := by
  have less := Start.reach_lt mayStart start.environment
  change Role.budget (born itself parent start.environment spawning).role ≤ _
  unfold born
  dsimp only
  split
  · change Listener.budget _ (.fresh (Sandbox.program _)) ≤ _
    rw [Listener.budget_fresh]
    exact Nat.mul_le_mul_right Sandbox.share less
  · exact Nat.mul_pos (Nat.zero_lt_of_lt less) (Nat.succ_pos _)

section Spending

variable {itself : Bytes → Bool} {root pid : Pid} {family after : Family}
  {happening : Happening} {trace : List Happening} {start : Start} {listener next : Listener UInt8}
  {exchange : Exchange}

theorem Listener.length_talk_exchanged {process : Process UInt8} :
    (listener.exchanged exchange process).talk.length = listener.talk.length + 1 := by
  simp [exchanged]

theorem Listener.budget_lt_of_made
    (brief : listener.process.Keeps (brevity Sandbox.greatestBrevity) (fun _ _ => True)
      (Sandbox.greatestBrevity - listener.talk.length))
    (step : listener.Step (.made exchange) next) :
    next.budget start < listener.budget start := by
  cases step with
  | @make _ process step answers =>
      have left : 0 < Sandbox.greatestBrevity - listener.talk.length := (brief.step step).1
      have stillFree : listener.duty.after exchange.deed = .free → listener.duty = .free := by
        cases exchange.deed with
        | other => exact id
        | _ => nofun
      simp only [budget, duty_exchanged, length_talk_exchanged]
      split
      · next free =>
          rw [if_pos (stillFree free)]
          omega
      · omega

/-- A stage that has created a child does not keep anything for it any more. -/
theorem Listener.budget_lt_of_created
    (brief : listener.process.Keeps (brevity Sandbox.greatestBrevity) (fun _ _ => True)
      (Sandbox.greatestBrevity - listener.talk.length))
    (permitted : listener.duty.Permits exchange.deed)
    (step : listener.Step (.made exchange) next) {spawning : Spawning} {child : Pid}
    (created : exchange.deed = .created spawning child) :
    next.budget start + start.reach * Sandbox.share < listener.budget start := by
  cases step with
  | @make _ process step answers =>
      have left : 0 < Sandbox.greatestBrevity - listener.talk.length := (brief.step step).1
      rw [created] at permitted
      have free : listener.duty = .free := permitted
      simp only [budget, duty_exchanged, length_talk_exchanged, created, Duty.after, if_pos free,
        reduceCtorEq, if_false]
      omega

namespace Family

/-- A step of a process that spends some of what it may do, in part on processes that it has
created. -/
structure Spends (family after : Family) (pid : Pid) (newborns : Finset Pid) : Prop where
  there : family pid ≠ none
  fresh : ∀ child ∈ newborns, family child = none
  present : ∀ other, after other ≠ none ↔ family other ≠ none ∨ other ∈ newborns
  others : ∀ other, other ≠ pid → family other ≠ none → after.budget other ≤ family.budget other
  less : after.budget pid + ∑ child ∈ newborns, after.budget child < family.budget pid

/-- What all processes may still do gets less when one of them spends some of it. -/
theorem Spends.sum_lt {newborns members : Finset Pid} (spends : Spends family after pid newborns)
    (counts : ∀ other, other ∈ members ↔ family other ≠ none) :
    ∑ other ∈ members ∪ newborns, after.budget other < ∑ other ∈ members, family.budget other := by
  have disjoint : Disjoint members newborns := by
    refine Finset.disjoint_left.2 fun other isMember isNew => ?_
    exact (counts other).1 isMember (spends.fresh other isNew)
  have isMember : pid ∈ members := (counts pid).2 spends.there
  have kept : ∑ other ∈ members.erase pid, after.budget other ≤
      ∑ other ∈ members.erase pid, family.budget other := by
    refine Finset.sum_le_sum fun other erased => ?_
    obtain ⟨ne, isMember⟩ := Finset.mem_erase.1 erased
    exact spends.others other ne ((counts other).1 isMember)
  have less := spends.less
  rw [Finset.sum_union disjoint, ← Finset.add_sum_erase members after.budget isMember,
    ← Finset.add_sum_erase members family.budget isMember]
  omega

theorem budget_set_self {member : Member} : (family.set pid member).budget pid = member.budget := by
  unfold budget
  rw [set_self]
  rfl

theorem spends_end {member : Member} {status : ExitStatus} (there : family pid = some member)
    (running : member.ending = none) :
    Spends family (family.set pid { member with ending := some status }) pid ∅ := by
  have positive : 0 < member.budget := by
    unfold Member.budget
    rw [running]
    cases member.role with
    | stage start listener => exact Nat.lt_of_lt_of_le (Nat.succ_pos _) (Nat.le_add_right _ _)
    | other => exact Nat.one_pos
  constructor
  case there => simp [there]
  case fresh => simp
  case present =>
    intro other
    by_cases same : other = pid
    · subst same
      simp [there]
    · simp [set_of_ne same]
  case others =>
    intro other ne _
    unfold budget
    rw [set_of_ne ne]
  case less =>
    have before : family.budget pid = member.budget := by
      unfold budget
      rw [there]
      rfl
    rw [budget_set_self, before]
    exact positive

theorem budget_affected {environment : Environment} {deed : Deed} {other : Pid} {found : Member}
    (fresh : ∀ spawning child, deed = .created spawning child → family child = none)
    (present : family other = some found) :
    (family.affected itself pid environment deed).budget other = found.budget := by
  obtain ⟨coming, reached⟩ := present_affected fresh present
  unfold budget
  rw [reached]
  rfl

/-- The processes after a step are those before it, and the child that a stage has just
created. -/
theorem Step.present_iff (step : Step itself family happening after) {other : Pid} :
    after other ≠ none ↔ family other ≠ none ∨
      ∃ pid exchange spawning, happening = .made pid exchange ∧
        exchange.deed = .created spawning other := by
  constructor
  · intro present
    obtain ⟨found, reached⟩ := Option.ne_none_iff_exists'.1 present
    cases absent : family other with
    | some member => exact .inl nofun
    | none =>
        obtain ⟨pid, _, _, _, exchange, spawning, -, -, made, created, -⟩ :=
          step.news absent reached
        exact .inr ⟨pid, exchange, spawning, made, created⟩
  · rintro (present | ⟨pid, exchange, spawning, rfl, created⟩)
    · obtain ⟨found, there⟩ := Option.ne_none_iff_exists'.1 present
      obtain ⟨next, reached, -⟩ := step.evolves there
      simp [reached]
    · obtain ⟨_, _, _, _, -, -, -, -, -, rfl⟩ := step.made
      rw [created]
      simp [affected]

theorem Quiet.spends_made (quiet : Quiet itself root trace family)
    (step : Step itself family (.made pid exchange) after) :
    ∃ newborns, Spends family after pid newborns := by
  obtain ⟨member, start, listener, next, there, role, running, goes, answers, rfl⟩ := step.made
  have plays : family.Plays pid start listener := ⟨member, there, role⟩
  have brief := quiet.brief plays
  have fresh := answers.fresh_set there { member with role := .stage start next }
  have before : family.budget pid = listener.budget start := by
    unfold budget Member.budget
    rw [there, Option.elim_some, running, role]
    rfl
  have reached : (family.set pid { member with role := .stage start next }) pid =
      some { member with role := .stage start next } := set_self
  have now : Member.budget { member with role := .stage start next } = next.budget start := by
    unfold Member.budget
    rw [running]
    rfl
  have kept : ∀ other, other ≠ pid → family other ≠ none →
      ((family.set pid { member with role := .stage start next }).affected itself pid
        start.environment exchange.deed).budget other ≤ family.budget other := by
    intro other ne isThere
    obtain ⟨found, present⟩ := Option.ne_none_iff_exists'.1 isThere
    rw [budget_affected fresh ((set_of_ne ne).trans present)]
    unfold budget
    rw [present]
    exact Nat.le_refl _
  by_cases creates : ∃ spawning child, exchange.deed = .created spawning child
  · obtain ⟨spawning, child, created⟩ := creates
    have started : Sandbox.MayStart start (listener.supervisor.after exchange).own spawning := by
      cases goes with
      | make goes _ =>
          exact Supervisor.mayStart_of_created ((quiet.sound.supervised plays).allows goes) created
    refine ⟨{child}, by simp [there], ?_, fun other => ?_, kept, ?_⟩
    · simpa using answers.fresh created
    · rw [step.present_iff]
      constructor
      · rintro (present | ⟨_, _, _, made, createdToo⟩)
        · exact .inl present
        · cases made
          cases created.symm.trans createdToo
          exact .inr (Finset.mem_singleton.2 rfl)
      · rintro (present | same)
        · exact .inl present
        · obtain rfl := Finset.mem_singleton.1 same
          exact .inr ⟨pid, exchange, spawning, rfl, created⟩
    · have spent : next.budget start + start.reach * Sandbox.share < listener.budget start :=
        Listener.budget_lt_of_created brief ((quiet.sound.supervised plays).permits goes) goes
          created
      have born := Member.budget_born_le itself pid started
      rw [budget_affected fresh reached, now, before, Finset.sum_singleton, created]
      have takes : ((family.set pid { member with role := .stage start next }).affected itself pid
          start.environment (.created spawning child)).budget child =
            (Member.born itself pid start.environment spawning).budget := budget_set_self
      omega
  · refine ⟨∅, by simp [there], by simp, fun other => ?_, kept, ?_⟩
    · rw [step.present_iff]
      simp only [Finset.notMem_empty, or_false, or_iff_left_iff_imp]
      rintro ⟨_, _, spawning, made, created⟩
      cases made
      exact absurd ⟨spawning, other, created⟩ creates
    · rw [budget_affected fresh reached, now, before]
      simpa using Listener.budget_lt_of_made brief goes

/-- In a quiet family, every step but the sending of a signal spends some of what may be done. -/
theorem Quiet.spends (quiet : Quiet itself root trace family)
    (step : Step itself family happening after)
    (unsent : ∀ pid signal, happening ≠ .sent pid signal) :
    ∃ pid newborns, Spends family after pid newborns := by
  cases step with
  | send there stage running relayed => exact absurd rfl (unsent _ _)
  | come there stage running coming step =>
      exact ((quiet.silent _ _ there).1 _ coming).elim
  | die there stage running coming deaf =>
      exact ((quiet.silent _ _ there).1 _ coming).elim
  | make there stage running step answers =>
      exact ⟨_, quiet.spends_made (.make there stage running step answers)⟩
  | finish there stage running done => exact ⟨_, ∅, spends_end there running⟩
  | depart there other running possible => exact ⟨_, ∅, spends_end there running⟩
  | strike there stage running possible => exact ⟨_, ∅, spends_end there running⟩

/-- What has happened in a quiet family, and what may still happen, is no more than the first
process had patience for. -/
theorem length_add_budget_le {first : Start}
    (run : Run (Step itself) (.start root first) trace family)
    (unsent : ∀ pid signal, .sent pid signal ∉ trace) :
    ∃ members : Finset Pid, (∀ pid, pid ∈ members ↔ family pid ≠ none) ∧
      trace.length + ∑ pid ∈ members, family.budget pid ≤ first.patience := by
  induction run with
  | start =>
      refine ⟨{root}, fun pid => ?_, ?_⟩
      · unfold Family.start
        split <;> simp [*]
      · have whole : (Family.start root first).budget root = first.patience := by
          unfold budget Family.start
          rw [if_pos rfl]
          exact Listener.budget_fresh first
        simp [whole]
  | @next trace happening between last run step hypothesis =>
      have unsentBefore : ∀ pid signal, .sent pid signal ∉ trace :=
        fun pid signal sent => unsent pid signal (List.mem_append_left _ sent)
      have unsentNow : ∀ pid signal, happening ≠ .sent pid signal := fun pid signal same =>
        unsent pid signal (List.mem_append_right _ (List.mem_singleton.2 same.symm))
      obtain ⟨members, counts, enough⟩ := hypothesis unsentBefore
      obtain ⟨pid, newborns, spends⟩ := (Quiet.of_run run unsentBefore).spends step unsentNow
      have less := spends.sum_lt counts
      refine ⟨members ∪ newborns, fun other => ?_, ?_⟩
      · rw [Finset.mem_union, counts, spends.present]
      · rw [List.length_append, List.length_singleton]
        omega

end Family

end Spending

end HostnameSandbox

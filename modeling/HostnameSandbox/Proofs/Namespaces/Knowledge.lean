import HostnameSandbox.Proofs.Namespaces.Places
import HostnameSandbox.Proofs.Namespaces.Preparation

/-!
# What a preparing process knows

A process that prepares its namespace runs on a kernel in any state.  Every call of it may be
served or fail, and in between others may do what they like, as long as they leave the process
where it is.  What the process has learnt about namespaces is so, unless others have disturbed
it.
-/

namespace HostnameSandbox

namespace Kernel

/-- How a call of a process may be answered, and what the kernel is then. -/
inductive Answers (pid : Pid) (kernel : Kernel) : Exchange → Kernel → Prop
  | served {task : Task} {request : Call} {reply : request.Reply} {after : Kernel}
      (found : kernel.task? pid = some task)
      (answered : kernel.attempt task request = .answered reply after) :
      Answers pid kernel ⟨request, reply⟩ after
  | failed {exchange : Exchange} (fails : exchange.Fails) : Answers pid kernel exchange kernel

/-- Others have left a process in its namespace. -/
structure Spares (pid : Pid) (before after : Kernel) : Prop where
  space : after.space? pid = before.space? pid
  names : before.names.length ≤ after.names.length

/-- Others have left the host name that a process sees, the process's parent, and the namespace
that the parent is in. -/
structure Undisturbed (pid : Pid) (before after : Kernel) : Prop where
  hostname : after.hostname? pid = before.hostname? pid
  parent : after.parent? pid = before.parent? pid
  company : ∀ parent, before.parent? pid = some parent →
    after.space? parent = before.space? parent

end Kernel

/-- What happens at a moment: a process makes an exchange, or others change the kernel. -/
structure Moment where
  before : Kernel
  exchange? : Option Exchange
  after : Kernel

namespace Moment

def talkOf (trace : List Moment) : List Exchange :=
  trace.filterMap exchange?

def effectsOf (trace : List Moment) : List Exchange :=
  (talkOf trace).filter fun exchange => exchange.request.IsEffect

@[simp]
theorem talkOf_concat (trace : List Moment) (moment : Moment) :
    talkOf (trace ++ [moment]) = talkOf trace ++ moment.exchange?.toList := by
  cases shown : moment.exchange? <;> simp [talkOf, shown]

@[simp]
theorem effectsOf_concat (trace : List Moment) (moment : Moment) :
    effectsOf (trace ++ [moment]) =
      effectsOf trace ++
        moment.exchange?.toList.filter fun exchange => exchange.request.IsEffect := by
  simp [effectsOf]

theorem mem_effectsOf {trace : List Moment} {moment : Moment} {exchange : Exchange}
    (member : moment ∈ trace) (made : moment.exchange? = some exchange)
    (effect : exchange.request.IsEffect) : exchange ∈ effectsOf trace :=
  List.mem_filter.2 ⟨List.mem_filterMap.2 ⟨moment, member, made⟩, effect⟩

/-- Others have disturbed a process at no moment. -/
def Undisturbed (pid : Pid) (trace : List Moment) : Prop :=
  ∀ moment ∈ trace, moment.exchange? = none → moment.before.Undisturbed pid moment.after

end Moment

open Moment

/-- How a process and its kernel go on. -/
inductive Proceeds {α : Type} (pid : Pid) :
    Process α × Kernel → Moment → Process α × Kernel → Prop
  | own {process next : Process α} {kernel after : Kernel} {exchange : Exchange}
      (step : process.Step exchange next) (answers : kernel.Answers pid exchange after) :
      Proceeds pid (process, kernel) ⟨kernel, some exchange, after⟩ (next, after)
  | others {process : Process α} {kernel after : Kernel} (spares : kernel.Spares pid after) :
      Proceeds pid (process, kernel) ⟨kernel, none, after⟩ (process, after)

section Runs

variable {α : Type} {pid : Pid} {first last : Process α × Kernel} {trace : List Moment}
  {moment : Moment}

theorem Proceeds.step (proceeds : Proceeds pid first moment last) :
    Run Process.Step first.1 moment.exchange?.toList last.1 := by
  cases proceeds with
  | own step answers => exact .next .start step
  | others spares => exact .start

/-- A run on a kernel is a run of the process. -/
theorem run_talkOf (run : Run (Proceeds pid) first trace last) :
    Run Process.Step first.1 (talkOf trace) last.1 := by
  induction run with
  | start => exact .start
  | next run proceeds hypothesis =>
      rw [talkOf_concat]
      exact hypothesis.trans proceeds.step

end Runs

/-- Names that nothing changes at any moment are the same after a run. -/
theorem names_eq_of_run {α : Type} {pid : Pid} {first last : Process α × Kernel}
    {trace : List Moment} (run : Run (Proceeds pid) first trace last)
    (same : ∀ moment ∈ trace, moment.after.names = moment.before.names) :
    last.2.names = first.2.names := by
  induction run with
  | start => rfl
  | @next trace moment between last run proceeds hypothesis =>
      have before := hypothesis fun moment member => same moment (List.mem_append_left _ member)
      have now := same moment (List.mem_append_right _ (List.mem_singleton_self _))
      cases proceeds <;> exact now.trans before

/-- Lets a process on a kernel make a call that is served at once, and tells what happened. -/
def serve? {α : Type} (pid : Pid) : Process α × Kernel → Option (Moment × Process α × Kernel)
  | (.call request next, kernel) =>
      match kernel.task? pid with
      | none => none
      | some task =>
          match kernel.attempt task request with
          | .answered reply after =>
              some (⟨kernel, some ⟨request, reply⟩, after⟩, next reply, after)
          | _ => none
  | _ => none

/-- Lets a process on a kernel go on alone for so many calls, as long as they are served. -/
def goAlone {α : Type} (pid : Pid) : Nat → Process α × Kernel → List Moment × Process α × Kernel
  | 0, state => ([], state)
  | calls + 1, state =>
      match serve? pid state with
      | none => ([], state)
      | some (moment, after) =>
          let (trace, last) := goAlone pid calls after
          (moment :: trace, last)

theorem proceeds_of_serve? {α : Type} {pid : Pid} {state after : Process α × Kernel}
    {moment : Moment} (served : serve? pid state = some (moment, after)) :
    Proceeds pid state moment after := by
  obtain ⟨process, kernel⟩ := state
  cases process with
  | call request next =>
      simp only [serve?] at served
      split at served
      · cases served
      · next task found =>
          split at served
          · next reply later answered =>
              cases served
              exact .own (.call request next reply) (.served found answered)
          · cases served
  | _ => cases served

theorem run_goAlone {α : Type} (pid : Pid) (calls : Nat) (state : Process α × Kernel) :
    Run (Proceeds pid) state (goAlone pid calls state).1 (goAlone pid calls state).2 := by
  induction calls generalizing state with
  | zero => exact .start
  | succ calls hypothesis =>
      unfold goAlone
      split
      · exact .start
      · next moment after served => exact .cons (proceeds_of_serve? served) (hypothesis after)

/-! ### What a preparing process knows -/

namespace Preparation

/-- How far a process has come by what it has exchanged. -/
def of (talk : List Exchange) : Preparation := talk.foldl after initial

@[simp]
theorem of_concat (talk : List Exchange) (exchange : Exchange) :
    of (talk ++ [exchange]) = (of talk).after exchange := by
  simp [of]

variable {plan : Plan} {speaks : Bool} {state : Preparation} {exchange : Exchange} {pid : Pid}
  {kernel later : Kernel}

/-- The effect that is to come next is one of those that are planned. -/
theorem next?_cases {request : Call} (next : state.next? plan = some request) :
    (∃ other, request = .namespaceOf other) ∨
      (request = .setHostname plan.name ∧ ∃ own parent link other,
        state.effects = [⟨.namespaceOf own, .ok link⟩, ⟨.namespaceOf parent, .ok other⟩]) ∨
      request = .spawn plan.target ∧ state.effects.length = 3 := by
  unfold next? at next
  split at next
  · obtain ⟨other, -, rfl⟩ := Option.map_eq_some_iff.1 next
    exact .inl ⟨other, rfl⟩
  · obtain ⟨other, -, rfl⟩ := Option.map_eq_some_iff.1 next
    exact .inl ⟨other, rfl⟩
  · next effects =>
      split at next
      · cases next
      · exact .inr (.inl ⟨(Option.some.inj next).symm, _, _, _, _, effects⟩)
  · next effects =>
      refine .inr (.inr ⟨(Option.some.inj next).symm, ?_⟩)
      rw [effects]
      rfl
  · cases next

/-- An answered call that a preparing process may make leaves the names as they are, gives its
namespace the planned name, or is written to a file that leads to the names. -/
theorem Allows.names_cases (allowed : state.Allows plan speaks exchange.request)
    (shares : plan.target.isolation.uts = false) (answers : kernel.Answers pid exchange later) :
    later.names = kernel.names ∨
      ∃ task names, kernel.task? pid = some task ∧
        later.names = kernel.names.set task.uts names ∧
        (exchange = ⟨.setHostname plan.name, .ok ()⟩ ∨
          ∃ descriptor bytes, exchange.request = .write descriptor bytes ∧
            exchange.request.Renames kernel task) := by
  cases answers with
  | failed fails => exact .inl rfl
  | @served task request reply later found answered =>
      have present : kernel.Houses task := Kernel.houses_of_mem (Kernel.mem_of_task? found)
      have change := (Kernel.leaves_attempt present).of_answered answered
      rcases change.names_cases with same | ⟨renames, names, changed⟩ | ⟨spawning, rfl, fresh, -⟩
      · exact .inl same
      · cases request with
        | write descriptor bytes =>
            exact .inr ⟨task, names, found, changed, .inr ⟨descriptor, bytes, rfl, renames⟩⟩
        | setHostname name =>
            cases reply with
            | error errno =>
                exact .inl (congrArg Kernel.names (Kernel.attempt_setHostname_error answered))
            | ok _ =>
                rcases next?_cases allowed.2.2 with ⟨other, is⟩ | ⟨is, -⟩ | ⟨is, -⟩ <;> cases is
                exact .inr ⟨task, names, found, changed, .inl rfl⟩
        | setDomain name =>
            rcases next?_cases allowed.2.2 with ⟨other, is⟩ | ⟨is, -⟩ | ⟨is, -⟩ <;> cases is
        | _ => exact renames.elim
      · rcases next?_cases allowed.2.2 with ⟨other, is⟩ | ⟨is, -⟩ | ⟨is, -⟩ <;> cases is
        rw [shares] at fresh
        cases fresh

/-- The process has neither asked for its child nor told about a failure. -/
structure Early (state : Preparation) : Prop where
  unasked : state.effects.length < 4
  silent : state.told = false

theorem Early.of_after (early : (state.after exchange).Early) : state.Early := by
  obtain ⟨request, reply⟩ := exchange
  obtain ⟨unasked, silent⟩ := early
  cases request with
  | write descriptor bytes => cases silent
  | ownPid => exact ⟨unasked, silent⟩
  | parentPid => exact ⟨unasked, silent⟩
  | report event => exact ⟨unasked, silent⟩
  | react signal reaction => exact ⟨unasked, silent⟩
  | select child signals => exact ⟨unasked, silent⟩
  | send child signal => exact ⟨unasked, silent⟩
  | openLog filter => exact ⟨unasked, silent⟩
  | _ =>
      simp only [after, List.length_append, List.length_singleton] at unasked
      exact ⟨by omega, silent⟩

/-- The calls that a process makes before it asks for its child or tells about a failure. -/
theorem Allows.request_cases (allowed : state.Allows plan speaks exchange.request)
    (early : (state.after exchange).Early) :
    exchange.request.IsPreliminary ∨ exchange.request = .setHostname plan.name := by
  obtain ⟨request, reply⟩ := exchange
  have unasked := Nat.ne_of_lt early.of_after.unasked
  cases request with
  | report event => exact .inl rfl
  | openLog filter => exact .inl rfl
  | ownPid => exact .inl rfl
  | parentPid => exact .inl rfl
  | react signal reaction => exact .inl rfl
  | namespaceOf other => exact .inl rfl
  | write descriptor bytes => cases early.silent
  | select child signals => exact absurd allowed.2.2 unasked
  | send child signal => exact absurd allowed.2.2 unasked
  | setHostname name =>
      rcases next?_cases allowed.2.2 with ⟨other, is⟩ | ⟨is, -⟩ | ⟨is, -⟩
      · cases is
      · exact .inr is
      · cases is
  | spawn spawning =>
      rcases next?_cases allowed.2.2 with ⟨other, is⟩ | ⟨is, -⟩ | ⟨-, three⟩
      · cases is
      · cases is
      · have late := early.unasked
        simp [after, three] at late
  | _ => rcases next?_cases allowed.2.2 with ⟨other, is⟩ | ⟨is, -⟩ | ⟨is, -⟩ <;> cases is

/-- What a process does before it asks for its child leaves everybody where they are. -/
theorem Allows.sameSeats (allowed : state.Allows plan speaks exchange.request)
    (early : (state.after exchange).Early) (answers : kernel.Answers pid exchange later) :
    kernel.SameSeats later := by
  cases answers with
  | failed fails => exact (Kernel.SameCompany.refl kernel).sameSeats
  | @served task request reply later found answered =>
      rcases allowed.request_cases early with preliminary | is
      · exact (Kernel.attempt_preliminary preliminary answered).1
      · cases is
        cases reply with
        | ok _ => exact (Kernel.attempt_setHostname answered).1
        | error errno =>
            rw [Kernel.attempt_setHostname_error answered]
            exact (Kernel.SameCompany.refl kernel).sameSeats

/-- What a process knows that nobody has disturbed is so. -/
structure Knows (state : Preparation) (pid : Pid) (kernel : Kernel) : Prop where
  housed : (kernel.hostname? pid).isSome
  own : ∀ {other}, state.own = some other → other = pid
  parent : ∀ {other}, state.parent = some other → kernel.parent? pid = some other
  read : ∀ {other link}, ⟨.namespaceOf other, .ok link⟩ ∈ state.effects →
    ∃ number, kernel.space? other = some number ∧ link = Kernel.namespaceName number
  named : ∀ {name}, ⟨.setHostname name, .ok ()⟩ ∈ state.effects →
    kernel.hostname? pid = some name

/-- What a process knows does not depend on more than where everybody is and on the names. -/
theorem Knows.of_same (knows : state.Knows pid kernel) (seats : kernel.SameSeats later)
    (names : later.names = kernel.names) : state.Knows pid later where
  housed := seats.hostname?_eq names pid ▸ knows.housed
  own := knows.own
  parent known := (seats.parent?_eq pid).trans (knows.parent known)
  read known := seats.space?_eq _ ▸ knows.read known
  named known := (seats.hostname?_eq names pid).trans (knows.named known)

/-- A call that has failed tells a process nothing. -/
theorem Knows.fail (knows : state.Knows pid kernel) (fails : exchange.Fails) :
    (state.after exchange).Knows pid kernel := by
  have add (exchange : Exchange)
      (isNoName : ∀ other link, exchange ≠ ⟨.namespaceOf other, .ok link⟩)
      (isUnnamed : ∀ name, exchange ≠ ⟨.setHostname name, .ok ()⟩) :
      Knows { state with effects := state.effects ++ [exchange] } pid kernel := by
    refine ⟨knows.housed, knows.own, knows.parent, fun read => ?_, fun named => ?_⟩
    · rcases List.mem_append.1 read with before | now
      · exact knows.read before
      · exact absurd (List.mem_singleton.1 now).symm (isNoName _ _)
    · rcases List.mem_append.1 named with before | now
      · exact knows.named before
      · exact absurd (List.mem_singleton.1 now).symm (isUnnamed _)
  obtain ⟨request, reply⟩ := exchange
  cases request with
  | write descriptor bytes =>
      exact ⟨knows.housed, knows.own, knows.parent, knows.read, knows.named⟩
  | send child signal => exact knows
  | ownPath => exact add _ nofun nofun
  | spawn spawning => exact add _ nofun nofun
  | namespaceOf other =>
      cases reply with
      | ok link => exact fails.elim
      | error errno => exact add _ nofun nofun
  | setHostname name =>
      cases reply with
      | ok _ => exact fails.elim
      | error errno => exact add _ nofun nofun
  | _ => exact fails.elim

/-- What a process learns by a call that nobody's place or name depends on is so. -/
theorem Knows.learn (knows : state.Knows pid kernel) {task : Task} {request : Call}
    {reply : request.Reply} (preliminary : request.IsPreliminary)
    (found : kernel.task? pid = some task)
    (answered : kernel.attempt task request = .answered reply later) :
    (state.after ⟨request, reply⟩).Knows pid later := by
  obtain ⟨seats, names⟩ := Kernel.attempt_preliminary preliminary answered
  have still := knows.of_same seats names
  cases request with
  | report event => exact still
  | openLog filter => exact still
  | react signal reaction => exact still
  | ownPid =>
      cases answered
      refine ⟨still.housed, fun known => ?_, still.parent, still.read, still.named⟩
      cases known
      exact Kernel.task?_pid found
  | parentPid =>
      cases answered
      refine ⟨still.housed, still.own, fun known => ?_, still.read, still.named⟩
      cases known
      exact Kernel.parent?_of_task? found
  | namespaceOf other =>
      cases answered
      refine ⟨still.housed, still.own, still.parent, fun read => ?_, fun named => ?_⟩
      · rcases List.mem_append.1 read with before | now
        · exact still.read before
        · obtain ⟨is, told⟩ := Exchange.mk.inj (List.mem_singleton.1 now)
          cases is
          exact Kernel.space?_of_namespaceOf (eq_of_heq told).symm
      · rcases List.mem_append.1 named with before | now
        · exact still.named before
        · cases (Exchange.mk.inj (List.mem_singleton.1 now)).1
  | _ => cases preliminary

/-- As long as nobody disturbs it, what a process knows stays true. -/
theorem Knows.after (knows : state.Knows pid kernel)
    (allowed : state.Allows plan speaks exchange.request) (early : (state.after exchange).Early)
    (answers : kernel.Answers pid exchange later) : (state.after exchange).Knows pid later := by
  have seats := allowed.sameSeats early answers
  cases answers with
  | failed fails => exact knows.fail fails
  | @served task request reply later found answered =>
      rcases allowed.request_cases early with preliminary | is
      · exact knows.learn preliminary found answered
      · cases is
        cases reply with
        | error errno =>
            rw [Kernel.attempt_setHostname_error answered]
            exact knows.fail trivial
        | ok _ =>
            have sees := Kernel.hostname?_of_setHostname found knows.housed answered
            refine ⟨sees ▸ rfl, knows.own,
              fun known => (seats.parent?_eq pid).trans (knows.parent known),
              fun read => ?_, fun named => ?_⟩
            · rcases List.mem_append.1 read with before | now
              · exact seats.space?_eq _ ▸ knows.read before
              · cases (Exchange.mk.inj (List.mem_singleton.1 now)).1
            · rcases List.mem_append.1 named with before | now
              -- only links have been read before the namespace is named
              · rcases next?_cases allowed.2.2 with ⟨_, is⟩ | ⟨-, _, _, _, _, effects⟩ | ⟨is, -⟩
                · cases is
                · simp [effects] at before
                · cases is
              · cases (Exchange.mk.inj (List.mem_singleton.1 now)).1
                exact sees

/-- Only the process's own link and its parent's are read. -/
theorem Orderly.read_cases (orderly : state.Orderly plan) {other : Pid}
    {reply : Except Errno String} (read : ⟨.namespaceOf other, reply⟩ ∈ state.effects) :
    state.own = some other ∨ state.parent = some other := by
  obtain ⟨own, parent, done, knowsOwn, knowsParent⟩ := orderly
  rcases done.read_cases read with ⟨rfl, begun⟩ | ⟨rfl, begun⟩
  · exact .inl (knowsOwn begun)
  · exact .inr (knowsParent begun)

/-- A process gives its namespace the name after it has read two different links, its own and its
parent's. -/
theorem Orderly.read_of_next? (orderly : state.Orderly plan) {name : Bytes}
    (next : state.next? plan = some (.setHostname name)) :
    ∃ own parent link other, link ≠ other ∧ state.own = some own ∧ state.parent = some parent ∧
      ⟨.namespaceOf own, .ok link⟩ ∈ state.effects ∧
      ⟨.namespaceOf parent, .ok other⟩ ∈ state.effects := by
  obtain ⟨pid, parentPid, effects, told⟩ := state
  obtain ⟨own, parent, done, knowsOwn, knowsParent⟩ := orderly
  cases done with
  | none => cases pid <;> cases next
  | own first => cases first <;> cases parentPid <;> cases next
  | parent link second =>
      cases second with
      | error errno => cases next
      | ok other =>
          simp only [next?] at next
          split at next
          · cases next
          · next distinct =>
              exact ⟨own, parent, link, other, distinct, knowsOwn (by simp), knowsParent (by simp),
                by simp, by simp⟩
  | named distinct third => cases third <;> cases next
  | created distinct last => cases next

/-- A process asks for its child after it has given its namespace the name. -/
theorem Orderly.named_of_next? (orderly : state.Orderly plan) {spawning : Spawning}
    (next : state.next? plan = some (.spawn spawning)) :
    ⟨.setHostname plan.name, .ok ()⟩ ∈ state.effects := by
  obtain ⟨pid, parentPid, effects, told⟩ := state
  obtain ⟨own, parent, done, -, -⟩ := orderly
  cases done with
  | none => cases pid <;> cases next
  | own first => cases first <;> cases parentPid <;> cases next
  | parent link second =>
      cases second with
      | error errno => cases next
      | ok other =>
          simp only [next?] at next
          split at next <;> cases next
  | named distinct third =>
      cases third with
      | error errno => cases next
      | ok _ => simp
  | created distinct last => cases next

theorem Knows.undisturbed (knows : state.Knows pid kernel) (orderly : state.Orderly plan)
    (spares : kernel.Spares pid later) (undisturbed : kernel.Undisturbed pid later) :
    state.Knows pid later where
  housed := undisturbed.hostname ▸ knows.housed
  own := knows.own
  parent known := undisturbed.parent.trans (knows.parent known)
  named known := undisturbed.hostname.trans (knows.named known)
  read known := by
    rcases orderly.read_cases known with isOwn | isParent
    · have same := spares.space
      rw [← knows.own isOwn] at same
      exact same ▸ knows.read known
    · exact undisturbed.company _ (knows.parent isParent) ▸ knows.read known

end Preparation

/-! ### Runs of a preparing process -/

section Preparing

variable {α : Type} {pid : Pid} {first last : Process α × Kernel} {trace : List Moment}
  {moment : Moment} {plan : Plan} {speaks : Bool} {ends : α → Preparation → Prop}

theorem keeps_of_run (keeps : first.1.Keeps (preparation plan speaks) ends .initial)
    (run : Run (Proceeds pid) first trace last) :
    last.1.Keeps (preparation plan speaks) ends (.of (talkOf trace)) :=
  keeps.run (run_talkOf run)

/-- At every moment, the process makes a call that it may make by what it has done before. -/
theorem allows_of_run (keeps : first.1.Keeps (preparation plan speaks) ends .initial)
    {earlier later : List Moment} (run : Run (Proceeds pid) first (earlier ++ moment :: later) last)
    {exchange : Exchange} (made : moment.exchange? = some exchange) :
    (Preparation.of (talkOf earlier)).Allows plan speaks exchange.request ∧
      moment.before.Answers pid exchange moment.after := by
  obtain ⟨before, after, sofar, proceeds, -⟩ := run.split_at
  cases proceeds with
  | others spares => cases made
  | own step answers =>
      cases made
      exact ⟨((keeps_of_run keeps sofar).step step).1, answers⟩

theorem orderly_of_run (keeps : first.1.Keeps (preparation plan speaks) ends .initial)
    (run : Run (Proceeds pid) first trace last) :
    (Preparation.of (talkOf trace)).Orderly plan := by
  induction run with
  | start => exact Preparation.orderly_initial plan
  | @next trace moment between last run proceeds hypothesis =>
      rw [talkOf_concat]
      cases proceeds with
      | others spares => simpa using hypothesis
      | own step answers =>
          rw [Option.toList_some, Preparation.of_concat]
          exact hypothesis.after ((keeps_of_run keeps run).step step).1

/-- What a process has learnt before it asks for its child is so, if nobody has disturbed it. -/
theorem knows_of_run (keeps : first.1.Keeps (preparation plan speaks) ends .initial)
    (run : Run (Proceeds pid) first trace last) (housed : (first.2.hostname? pid).isSome)
    (undisturbed : Undisturbed pid trace) (early : (Preparation.of (talkOf trace)).Early) :
    (Preparation.of (talkOf trace)).Knows pid last.2 := by
  induction run with
  | start => exact ⟨housed, nofun, nofun, nofun, nofun⟩
  | @next trace moment between last run proceeds hypothesis =>
      have before : Undisturbed pid trace := fun moment member =>
        undisturbed moment (List.mem_append_left _ member)
      rw [talkOf_concat] at early ⊢
      cases proceeds with
      | others spares =>
          simp only [Option.toList_none, List.append_nil] at early ⊢
          exact (hypothesis before early).undisturbed (orderly_of_run keeps run) spares
            (undisturbed _ (List.mem_append_right _ (List.mem_singleton_self _)) rfl)
      | own step answers =>
          rw [Option.toList_some, Preparation.of_concat] at early ⊢
          exact (hypothesis before early.of_after).after
            ((keeps_of_run keeps run).step step).1 early answers

/-- At a moment before it asks for its child, what a process has learnt is so. -/
theorem knows_at (keeps : first.1.Keeps (preparation plan speaks) ends .initial)
    {earlier later : List Moment} (run : Run (Proceeds pid) first (earlier ++ moment :: later) last)
    (housed : (first.2.hostname? pid).isSome)
    (undisturbed : Undisturbed pid (earlier ++ moment :: later))
    (early : (Preparation.of (talkOf earlier)).Early) :
    (Preparation.of (talkOf earlier)).Orderly plan ∧
      (Preparation.of (talkOf earlier)).Knows pid moment.before := by
  obtain ⟨before, after, sofar, proceeds, -⟩ := run.split_at
  have spared : Undisturbed pid earlier := fun other member =>
    undisturbed other (List.mem_append_left _ member)
  have knows := knows_of_run keeps sofar housed spared early
  have orderly := orderly_of_run keeps sofar
  cases proceeds with
  | others spares => exact ⟨orderly, knows⟩
  | own step answers => exact ⟨orderly, knows⟩

/-- Where the process gives its namespace the name, its parent is in another one. -/
theorem exists_parent_apart (keeps : first.1.Keeps (preparation plan speaks) ends .initial)
    {earlier later : List Moment} {name : Bytes} {reply : Except Errno Unit} {task : Task}
    (run : Run (Proceeds pid) first (earlier ++ moment :: later) last)
    (housed : (first.2.hostname? pid).isSome)
    (undisturbed : Undisturbed pid (earlier ++ moment :: later))
    (made : moment.exchange? = some ⟨.setHostname name, reply⟩)
    (found : moment.before.task? pid = some task) :
    ∃ parent number, moment.before.parent? pid = some parent ∧
      moment.before.space? parent = some number ∧ number ≠ task.uts := by
  obtain ⟨⟨silent, -, next⟩, -⟩ := allows_of_run keeps run made
  have early : (Preparation.of (talkOf earlier)).Early := by
    rcases Preparation.next?_cases next with ⟨_, is⟩ | ⟨-, _, _, _, _, effects⟩ | ⟨is, -⟩
    · cases is
    · exact ⟨by simp [effects], silent⟩
    · cases is
  obtain ⟨orderly, knows⟩ := knows_at keeps run housed undisturbed early
  obtain ⟨own, parent, link, other, distinct, isOwn, isParent, readOwn, readParent⟩ :=
    orderly.read_of_next? next
  obtain ⟨ownNumber, ownInside, rfl⟩ := knows.read readOwn
  obtain ⟨number, inside, rfl⟩ := knows.read readParent
  rw [knows.own isOwn, Kernel.space?_of_task? found] at ownInside
  cases ownInside
  exact ⟨parent, number, knows.parent isParent, inside,
    fun is => distinct (congrArg Kernel.namespaceName is.symm)⟩

/-- A process is told the truth about itself. -/
theorem own_of_run (run : Run (Proceeds pid) first trace last) {other : Pid}
    (knows : (Preparation.of (talkOf trace)).own = some other) : other = pid := by
  induction run with
  | start => cases knows
  | @next trace moment between last run proceeds hypothesis =>
      rw [talkOf_concat] at knows
      cases proceeds with
      | others spares => exact hypothesis (by simpa using knows)
      | @own process next kernel after exchange step answers =>
          rw [Option.toList_some, Preparation.of_concat] at knows
          obtain ⟨request, reply⟩ := exchange
          cases request with
          | ownPid =>
              cases answers with
              | failed fails => exact fails.elim
              | served found answered =>
                  cases answered
                  cases knows
                  exact Kernel.task?_pid found
          | _ => exact hypothesis knows

/-- A process is told the truth about its parent. -/
theorem parent_of_run (run : Run (Proceeds pid) first trace last) {other : Pid}
    (knows : (Preparation.of (talkOf trace)).parent = some other) :
    ∃ moment ∈ trace, moment.exchange? = some ⟨.parentPid, other⟩ ∧
      moment.before.parent? pid = some other := by
  induction run with
  | start => cases knows
  | @next trace moment between last run proceeds hypothesis =>
      have before (knows : (Preparation.of (talkOf trace)).parent = some other) :
          ∃ found ∈ trace ++ [moment], found.exchange? = some ⟨.parentPid, other⟩ ∧
            found.before.parent? pid = some other := by
        obtain ⟨found, member, told⟩ := hypothesis knows
        exact ⟨found, List.mem_append_left _ member, told⟩
      rw [talkOf_concat] at knows
      cases proceeds with
      | others spares => exact before (by simpa using knows)
      | @own process next kernel after exchange step answers =>
          rw [Option.toList_some, Preparation.of_concat] at knows
          obtain ⟨request, reply⟩ := exchange
          cases request with
          | parentPid =>
              cases answers with
              | failed fails => exact fails.elim
              | served found answered =>
                  cases answered
                  cases knows
                  exact ⟨_, List.mem_append_right _ (List.mem_singleton_self _), rfl,
                    Kernel.parent?_of_task? found⟩
          | _ => exact before knows

end Preparing

end HostnameSandbox

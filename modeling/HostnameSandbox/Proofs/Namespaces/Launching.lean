import HostnameSandbox.Proofs.Namespaces.Guard
import HostnameSandbox.Proofs.Namespaces.Lineage
import HostnameSandbox.Proofs.Namespaces.Loaded
import HostnameSandbox.Proofs.Namespaces.Programs
import HostnameSandbox.Proofs.Supervision.Brevity

/-!
# Launches among moves

A process that launches the program again creates a child once, and then waits for it whatever else
happens on the host.  It comes to what the child ended with, and once the child has ended it makes
only so many moves more.
-/

namespace HostnameSandbox

namespace OuterStage

variable {stage : OuterStage} {command : Command}

/-- What an outer stage creates its child from. -/
def MayStart (stage : OuterStage) (command : Command) (own : Option Bytes) (spawning : Spawning) :
    Prop :=
  ∃ path, stage.executable.IsAt own path ∧ spawning = stage.spawning path command

/-- How many calls an outer stage makes at most without being told about a signal. -/
def greatestBrevity : Nat := 10

/-- The contract of an outer stage: it cares for one child, makes only so many calls, and none but
its own kinds of calls. -/
def launching (stage : OuterStage) (command : Command) : Contract ((Supervisor × Nat) × Unit) :=
  ((supervision (stage.MayStart command)).both (brevity greatestBrevity)).both quiet

/-- How an outer stage ends whose result becomes an exit code. -/
def Ends (stage : OuterStage) (code : Except Failure UInt8 → UInt8) (value : UInt8)
    (state : (Supervisor × Nat) × Unit) : Prop :=
  ∃ result, stage.Decides state.1.1 result ∧ value = code result

/-- A process that launches the program again; `code` says what becomes of the result. -/
def launch (stage : OuterStage) (command : Command) (code : Except Failure UInt8 → UInt8) :
    Process UInt8 :=
  (stage.run command).run >>= fun result => pure (code result)

theorem keeps_launch (stage : OuterStage) (command : Command)
    (code : Except Failure UInt8 → UInt8) :
    (stage.launch command code).Keeps (stage.launching command) (stage.Ends code)
      ((.initial, greatestBrevity), ()) := by
  have able : ¬ Supervisor.initial.Hindered := by
    rintro (failed | ⟨name, same⟩)
    · cases failed
    · cases same
  have cares : (stage.run command).run.Keeps (supervision (stage.MayStart command))
      (fun result after => stage.Decides after result) .initial :=
    keeps_run rfl able (fun path own isAt => ⟨path, isAt, rfl⟩) fun result after => id
  have short : (stage.run command).run.Keeps (brevity greatestBrevity) (fun _ after => 0 ≤ after)
      greatestBrevity :=
    Brevity.keeps_outer (by decide) (by decide) fun result after => id
  have calls : (stage.run command).run.Keeps quiet (fun _ _ => True) () := stage.keeps_quiet command
  refine Process.keeps_bind (((cares.both short).both calls).mono ?_)
  rintro result state ⟨⟨decides, -⟩, -⟩
  exact ⟨result, decides, rfl⟩

theorem launching_after_le (stage : OuterStage) (command : Command)
    {state : (Supervisor × Nat) × Unit} (brief : state.1.2 ≤ greatestBrevity)
    (exchange : Exchange) : ((stage.launching command).after state exchange).1.2 ≤ greatestBrevity :=
  Brevity.after_le brief

theorem launching_steadfast (stage : OuterStage) (command : Command) :
    (stage.launching command).Steadfast :=
  fun _ => ⟨fun _ _ _ allowed => allowed.1.1, fun _ allowed => allowed.1.1⟩

end OuterStage

namespace OuterStage

variable {stage : OuterStage} {command : Command} {ends : UInt8 → (Supervisor × Nat) × Unit → Prop}
  {state : (Supervisor × Nat) × Unit} {task : Task}

/-- A launcher creates its child in a new namespace only if its stage asks for one. -/
theorem mayBear_eq {fresh : Bool}
    (keeps : task.process.Keeps (stage.launching command) ends state) (may : task.MayBear fresh) :
    fresh = stage.isolation.uts := by
  rcases may with ⟨spawning, next, spawns, rfl⟩ | ⟨-, next, forks⟩
  · rw [spawns] at keeps
    obtain ⟨-, -, -, path, -, rfl⟩ := keeps.1.1.1
    rfl
  · rw [forks] at keeps
    exact keeps.elim

/-- A launcher makes no call by which it might change a name. -/
theorem not_mayRename {kernel : Kernel}
    (keeps : task.process.Keeps (stage.launching command) ends state) : ¬ task.MayRename kernel := by
  rintro ⟨request, next, calls, renames⟩
  rw [calls] at keeps
  rcases keeps.1.2 with outer | ⟨spawning, rfl⟩
  · cases request <;> first | exact renames | cases outer
  · exact renames

end OuterStage

/-! ### A launcher and its child -/

/-- How far a process has come with a child that it cares for; `told` says how that may have
ended. -/
def Duty.Tends (child : Pid) (told : ExitStatus → Prop) : Duty → Prop
  | .tending pid | .serving pid _ => pid = child
  | .settled pid status => pid = child ∧ told status
  | .free | .refused _ => False

/-- Which calls a launcher makes that has a child. -/
theorem OuterStage.launching_cases {stage : OuterStage} {command : Command}
    {state : (Supervisor × Nat) × Unit} {request : Call} {child : Pid} {told : ExitStatus → Prop}
    (allowed : (stage.launching command).allows state request)
    (tends : state.1.1.duty.Tends child told) :
    (∃ event, request = .report event) ∨
      (request = .select child Relay.signals ∧ state.1.1.duty = .tending child) ∨
      ∃ signal, request = .send child signal ∧ state.1.1.duty = .serving child signal := by
  obtain ⟨⟨cares, -⟩, calls⟩ := allowed
  have begun : state.1.1.duty ≠ .free := fun free => by simp [free, Duty.Tends] at tends
  cases request with
  | report event => exact .inl ⟨event, rfl⟩
  | select pid signals =>
      obtain ⟨tending, rfl⟩ : state.1.1.duty = .tending pid ∧ signals = Relay.signals := cares
      rw [tending] at tends
      obtain rfl : pid = child := tends
      exact .inr (.inl ⟨rfl, tending⟩)
  | send pid signal =>
      have serving : state.1.1.duty = .serving pid signal := cares
      rw [serving] at tends
      obtain rfl : pid = child := tends
      exact .inr (.inr ⟨signal, rfl, serving⟩)
  | react signal reaction => exact absurd cares.1 begun
  | ownPath => exact absurd cares begun
  | spawn spawning => exact absurd cares.1 begun
  | _ => rcases calls with outer | ⟨spawning, is⟩ <;> contradiction

namespace Kernel

variable {kernel before after : Kernel} {task child : Task} {pid : Pid} {move : Move}

theorem task?_modify {change : Task → Task} (same : ∀ task, (change task).pid = task.pid)
    (kernel : Kernel) (pid other : Pid) : (kernel.modify pid change).task? other =
      (kernel.task? other).map fun task => if task.pid = pid then change task else task := by
  simp only [task?, modify, List.find?_map]
  congr 1
  refine congrArg (List.find? · kernel.tasks) (funext fun task => ?_)
  simp only [Function.comp]
  split <;> simp [same]

/-- How a process has ended does not depend on whose turn it is. -/
theorem ending?_atTimeOf (kernel : Kernel) (task : Task) (pid : Pid) :
    ((kernel.atTimeOf task).task? pid).bind Task.ending = (kernel.task? pid).bind Task.ending := by
  rw [atTimeOf, task?_modify]
  · change ((kernel.task? pid).map _).bind Task.ending = _
    cases kernel.task? pid with
    | none => rfl
    | some other =>
        rw [Option.map_some, Option.bind_some, Option.bind_some]
        split <;> rfl
  · exact fun _ => rfl

/-- What a process is told that waits for a child: how that has ended, or that a signal has come
while it has not. -/
theorem select_cases {child : Pid} {signals : List Signal} {reply : Ready}
    (answered : kernel.select task child signals = .answered reply after) :
    (∃ status, reply = .ended status ∧ (kernel.task? child).bind Task.ending = some status) ∨
      ∃ signal, reply = .noted signal ∧ (kernel.task? child).bind Task.ending = none ∧
        kernel.Resumes task.pid after := by
  unfold select at answered
  split at answered
  · next status ended =>
      cases answered
      exact .inl ⟨status, rfl, ended⟩
  · next unended =>
      split at answered
      · next signal _ =>
          cases answered
          refine .inr ⟨signal, rfl, unended, resumes_own ?_ kernel task.pid⟩
          exact fun _ => rfl
      · cases answered

end Kernel

/-- One while a process is about to begin a turn of a loop. -/
def Process.loops {α : Type} : Process α → Nat
  | .loop _ _ => 1
  | _ => 0

theorem Process.loops_le {α : Type} (process : Process α) : process.loops ≤ 1 := by
  cases process with
  | loop turn next => exact Nat.le_refl _
  | _ => exact Nat.zero_le _

/-- A launcher waits for its child, or has been told how that ended. -/
structure Waits (stage : OuterStage) (command : Command) (code : Except Failure UInt8 → UInt8)
    (launcher child : Pid) (told : ExitStatus → Prop) (state : (Supervisor × Nat) × Unit)
    (kernel : Kernel) : Prop extends kernel.Parents launcher child where
  keeps : kernel.Keeps (stage.launching command) (stage.Ends code) launcher state
  tends : state.1.1.duty.Tends child told
  there : state.1.1.duty.child? ≠ none → ∃ task ∈ kernel.tasks, task.pid = child
  brief : state.1.2 ≤ OuterStage.greatestBrevity

namespace Waits

variable {stage : OuterStage} {command : Command} {code : Except Failure UInt8 → UInt8}
  {launcher child : Pid} {told : ExitStatus → Prop} {state : (Supervisor × Nat) × Unit}
  {before after : Kernel} {move : Move}

/-- What others do leaves a launcher waiting. -/
theorem other (waits : Waits stage command code launcher child told state before)
    (moves : Kernel.Moves before move after) (lives : after.isAlive launcher)
    (others : move.mover? ≠ some launcher) (kept : ¬ move.MayLose (.forgotten child)) :
    Waits stage command code launcher child told state after where
  toParents := waits.toParents.next moves lives
  keeps := moves.idle (·.Keeps (stage.launching command) (stage.Ends code) state) waits.known
    others waits.keeps
  tends := waits.tends
  there begun := waits.toParents.stays moves lives kept (waits.there begun)
  brief := waits.brief

/-- How many moves a launcher makes at most once its child has ended. -/
def bound (state : (Supervisor × Nat) × Unit) (task : Task) : Nat :=
  2 * state.1.2 + task.process.loops

/-- A launcher goes on as it has to: it waits still, and has come closer to its end if its child has
ended. -/
def GoesOn (stage : OuterStage) (command : Command) (code : Except Failure UInt8 → UInt8)
    (child : Pid) (told : ExitStatus → Prop) (state : (Supervisor × Nat) × Unit) (task : Task)
    (before after : Kernel) : Prop :=
  ∃ later, Waits stage command code task.pid child told later after ∧
    (¬ before.isAlive child →
      ∀ found ∈ after.tasks, found.pid = task.pid → bound later found < bound state task)

variable {task : Task} {exchange : Exchange} {goesOn : Process UInt8}

/-- An exchange that takes one of the calls that are left brings a launcher closer to its end. -/
theorem bound_lt {found : Task} (left : 0 < state.1.2)
    (plain : ∀ child signal, exchange.deed ≠ .took child signal) :
    bound ((stage.launching command).after state exchange) found < bound state task := by
  have taken : ((stage.launching command).after state exchange).1.2 = state.1.2 - 1 :=
    Brevity.after_eq plain
  have once : found.process.loops ≤ 1 := found.process.loops_le
  rw [bound, bound, taken]
  omega

/-- A launcher that makes an exchange goes on as it has to. -/
theorem goesOn_of_step (waits : Waits stage command code task.pid child told state before)
    (moves : Kernel.Moves before move after) (lives : after.isAlive task.pid)
    (member : task ∈ before.tasks) (mine : move.mover? = some task.pid)
    (tells : ∀ task ∈ before.tasks, task.pid = child → ∀ status, task.ending = some status →
      told status)
    (step : task.process.Step exchange goesOn) {between : Kernel}
    (made : (before.atTimeOf task).attempt task exchange.request =
        .answered exchange.reply between ∨ between = before ∧ exchange.Fails)
    (is : after = between.modify task.pid fun task => { task with process := goesOn }) :
    GoesOn stage command code child told state task before after := by
  have parents := waits.toParents.next moves lives
  obtain ⟨allowed, continues⟩ := (waits.keeps task member rfl).step step
  have keeps : after.Keeps (stage.launching command) (stage.Ends code) task.pid
      ((stage.launching command).after state exchange) :=
    is ▸ Kernel.keeps_modify continues between task.pid
  have brief := OuterStage.launching_after_le stage command waits.brief exchange
  have closer (plain : ∀ child signal, exchange.deed ≠ .took child signal) :
      ¬ before.isAlive child → ∀ found ∈ after.tasks, found.pid = task.pid →
        bound ((stage.launching command).after state exchange) found < bound state task :=
    fun _ _ _ _ => bound_lt allowed.1.2 plain
  have stays (kept : ¬ exchange.request.Loses before task (.forgotten child))
      (begun : state.1.1.duty.child? ≠ none) : ∃ task ∈ after.tasks, task.pid = child := by
    refine waits.toParents.stays moves lives ?_ (waits.there begun)
    refine moves.kept waits.coherent member mine fun request goOn calls => ?_
    rw [calls] at step
    cases step
    exact kept
  obtain ⟨request, reply⟩ := exchange
  rcases OuterStage.launching_cases allowed waits.tends with
    ⟨event, rfl⟩ | ⟨rfl, tending⟩ | ⟨signal, rfl, serving⟩
  · exact ⟨_, ⟨parents, keeps, waits.tends, stays id, brief⟩, closer fun _ _ took => by cases took⟩
  · have begun : ∃ task ∈ before.tasks, task.pid = child :=
      waits.there (by rw [tending]; exact Option.some_ne_none child)
    have selected : (before.atTimeOf task).select task child Relay.signals =
        .answered reply between := made.resolve_right fun fails => fails.2
    rcases Kernel.select_cases selected with
      ⟨status, rfl, ended⟩ | ⟨signal, rfl, unended, resumes⟩
    · rw [Kernel.ending?_atTimeOf] at ended
      obtain ⟨other, found, ended⟩ := Option.bind_eq_some_iff.1 ended
      have ends := tells other (Kernel.mem_of_task? found) (Kernel.task?_pid found) status ended
      exact ⟨_, ⟨parents, keeps, ⟨rfl, ends⟩, fun still => absurd rfl still, brief⟩,
        closer fun _ _ took => by cases took⟩
    · obtain ⟨other, isOther, rfl⟩ := begun
      have whole : before.Resumes task.pid after :=
        is ▸ ((Kernel.resumes_atTimeOf before task).trans resumes).trans
          (Kernel.resumes_goOn _ between task.pid)
      refine ⟨_, ⟨parents, keeps, rfl, fun _ => whole.stays isOther, brief⟩,
        fun gone => absurd ?_ gone⟩
      -- a signal is told only while the child lives
      rw [Kernel.ending?_atTimeOf, waits.coherent.task?_eq isOther] at unended
      refine Kernel.isAlive_iff.2 ⟨other, isOther, rfl, ?_⟩
      rw [Task.isAlive, show other.ending = none from unended]
      rfl
  · refine ⟨_, ⟨parents, keeps, rfl, fun _ => stays id ?_, brief⟩, closer fun _ _ took => by cases took⟩
    rw [serving]
    exact Option.some_ne_none child

/-- By a move of its own a launcher goes on as it has to. -/
theorem own (waits : Waits stage command code task.pid child told state before)
    (moves : Kernel.Moves before move after) (lives : after.isAlive task.pid)
    (member : task ∈ before.tasks) (mine : move.mover? = some task.pid)
    (tells : ∀ task ∈ before.tasks, task.pid = child → ∀ status, task.ending = some status →
      told status) :
    GoesOn stage command code child told state task before after := by
  have now := waits.keeps task member rfl
  rcases moves.acts_or_fails waits.coherent member mine with
    acts | ⟨exchange, next, step, fails, is⟩
  · cases acts with
    | ends came => exact absurd lives (Kernel.not_isAlive_finish _ _ _)
    | @turns turn next loops =>
        rw [loops] at now
        refine ⟨state, ⟨waits.toParents.next moves lives,
          Kernel.keeps_modify now.unroll before task.pid, waits.tends, fun begun => ?_,
          waits.brief⟩, fun _ found isFound same => ?_⟩
        · refine waits.toParents.stays moves lives ?_ (waits.there begun)
          refine moves.kept waits.coherent member mine fun request goOn calls => ?_
          cases loops.symm.trans calls
        · -- a turn begins with a call
          have calls : (Process.unroll turn next).loops = 0 := by
            obtain ⟨calls, -⟩ := now
            cases turn with
            | done outcome => exact calls.elim
            | call request goOn => rfl
          rw [bound, bound, Kernel.process_goOn isFound same, calls, loops]
          exact Nat.lt_succ_self _
    | forks splits change seat =>
        rw [splits] at now
        exact now.elim
    | tries calls again =>
        rw [calls] at now
        rcases Kernel.again_cases again with
          ⟨descriptor, bytes, rfl⟩ | ⟨path, words, environment, rfl⟩ | ⟨code, rfl⟩
        · rcases now.1.2 with outer | ⟨spawning, is⟩ <;> contradiction
        · exact now.1.1.1.elim
        · exact now.1.1.1.elim
    | @makes request goOn reply between calls answered =>
        have step : task.process.Step ⟨request, reply⟩ (goOn reply) :=
          calls ▸ .call request goOn reply
        exact waits.goesOn_of_step moves lives member mine tells step (.inl answered) rfl
  · exact waits.goesOn_of_step moves lives member mine tells step (.inr ⟨rfl, fails⟩) is

/-- Whatever move is made, a launcher waits still, and comes closer to its end by its own moves if
its child has ended. -/
theorem next {launcher : Pid} (waits : Waits stage command code launcher child told state before)
    (moves : Kernel.Moves before move after) (lives : after.isAlive launcher)
    (kept : move.mover? ≠ some launcher → ¬ move.MayLose (.forgotten child))
    (tells : ∀ task ∈ before.tasks, task.pid = child → ∀ status, task.ending = some status →
      told status) :
    ∃ later, Waits stage command code launcher child told later after ∧
      (¬ before.isAlive child → ∀ earlier ∈ before.tasks, earlier.pid = launcher →
        ∀ found ∈ after.tasks, found.pid = launcher →
          (if move.mover? = some launcher then 1 else 0) + bound later found ≤
            bound state earlier) := by
  by_cases mine : move.mover? = some launcher
  · obtain ⟨task, member, rfl⟩ := moves.exists_mover mine
    obtain ⟨later, waitsToo, closer⟩ := waits.own moves lives member mine tells
    refine ⟨later, waitsToo, fun gone earlier isEarlier same found isFound is => ?_⟩
    rw [waits.coherent.eq_of_pid isEarlier member same, if_pos mine, Nat.add_comm]
    exact closer gone found isFound is
  · refine ⟨state, waits.other moves lives mine (kept mine),
      fun _ earlier isEarlier same found isFound is => ?_⟩
    have idle : found.process = earlier.process :=
      moves.idle (· = earlier.process) waits.known mine (fun other isOther isSame => by
        rw [waits.coherent.eq_of_pid isOther isEarlier (isSame.trans same.symm)]) found isFound is
    rw [if_neg mine, Nat.zero_add, bound, bound, idle]

/-- Throughout a run a launcher waits, and once its child has ended it makes only so many moves. -/
theorem of_run {launcher : Pid} {first last : Kernel} {trace : List Move}
    (waits : Waits stage command code launcher child told state first)
    (run : Run Kernel.Moves first trace last) (lives : last.isAlive launcher)
    (kept : ∀ move ∈ trace, move.mover? ≠ some launcher → ¬ move.MayLose (.forgotten child))
    (tells : ∀ move ∈ trace, ∀ task ∈ move.before.tasks, task.pid = child →
      ∀ status, task.ending = some status → told status) :
    ∃ later, Waits stage command code launcher child told later last ∧
      (¬ first.isAlive child → ∀ earlier ∈ first.tasks, earlier.pid = launcher →
        ∀ found ∈ last.tasks, found.pid = launcher →
          movesOf launcher trace + bound later found ≤ bound state earlier) := by
  induction run with
  | start =>
      refine ⟨state, waits, fun _ earlier isEarlier same found isFound is => ?_⟩
      rw [waits.coherent.eq_of_pid isFound isEarlier (is.trans same.symm), movesOf_nil,
        Nat.zero_add]
  | @next trace move between last run moves hypothesis =>
      have grown := (Kernel.grows_of_run run).2
      have living := moves.alive (Int.lt_of_lt_of_le waits.known grown) lives
      obtain ⟨middle, waitsStill, sofar⟩ := hypothesis living
        (fun other member => kept other (List.mem_append_left _ member))
        fun other member => tells other (List.mem_append_left _ member)
      have isLast : move ∈ trace ++ [move] := List.mem_append_right _ (List.mem_singleton_self _)
      obtain ⟨later, waitsToo, closer⟩ := waitsStill.next moves lives (kept move isLast)
        (moves.before_eq ▸ tells move isLast)
      refine ⟨later, waitsToo, fun gone earlier isEarlier same found isFound is => ?_⟩
      obtain ⟨waiting, isWaiting, sameToo, -⟩ := Kernel.isAlive_iff.1 living
      have goneStill : ¬ between.isAlive child :=
        fun still => gone (Kernel.isAlive_of_run run waits.childKnown still)
      have sooner := sofar gone earlier isEarlier same waiting isWaiting sameToo
      have further := closer goneStill waiting isWaiting sameToo found isFound is
      rw [movesOf_concat]
      omega

theorem bound_le (waits : Waits stage command code launcher child told state before) (task : Task) :
    bound state task ≤ 2 * OuterStage.greatestBrevity + 1 := by
  have brief := waits.brief
  have once : task.process.loops ≤ 1 := task.process.loops_le
  rw [bound]
  omega

/-- A launcher that waits may act, unless its child is there and has not ended. -/
theorem mayAct_or {launcher : Pid}
    (waits : Waits stage command code launcher child told state before)
    (lives : before.isAlive launcher) :
    before.mayAct launcher ∨ before.isAlive child := by
  obtain ⟨task, member, rfl, alive⟩ := Kernel.isAlive_iff.1 lives
  have now := waits.keeps task member rfl
  have acts (steps : before.stepOther? task ≠ none) : before.mayAct task.pid :=
    Kernel.mayAct_of_stepOther? waits.coherent member alive steps
  cases process : task.process with
  | done value => exact .inl (acts (by rw [Kernel.stepOther?, process]; exact Option.some_ne_none _))
  | loop turn next =>
      exact .inl (acts (by rw [Kernel.stepOther?, process]; exact Option.some_ne_none _))
  | fork next =>
      rw [process] at now
      exact now.elim
  | call request next =>
      rw [process] at now
      have calls (free : (before.atTimeOf task).attempt task request ≠ .blocked) :
          before.mayAct task.pid :=
        Kernel.mayAct_of_call waits.coherent member alive process free
      rcases OuterStage.launching_cases now.1 waits.tends with
        ⟨event, rfl⟩ | ⟨rfl, tending⟩ | ⟨signal, rfl, serving⟩
      · exact .inl (calls fun blocked => by cases blocked)
      · obtain ⟨other, isOther, rfl⟩ :=
          waits.there (by rw [tending]; exact Option.some_ne_none child)
        cases ended : other.ending with
        | none => exact .inr (Kernel.isAlive_iff.2 ⟨other, isOther, rfl, by rw [Task.isAlive, ended]; rfl⟩)
        | some status =>
            refine .inl (calls ?_)
            have found : ((before.atTimeOf task).task? other.pid).bind Task.ending = some status := by
              rw [Kernel.ending?_atTimeOf, waits.coherent.task?_eq isOther, Option.bind_some, ended]
            rw [Kernel.attempt, Kernel.select, found]
            exact fun blocked => by cases blocked
      · exact .inl (calls fun blocked => by cases blocked)

/-- A launcher comes to what its child ended with. -/
theorem result {launcher : Pid}
    (waits : Waits stage command code launcher child told state before)
    (member : task ∈ before.tasks) (is : task.pid = launcher) {value : UInt8}
    (came : task.process = .done value) :
    ∃ label status, told status ∧ value = code (concluded label status) := by
  have now := waits.keeps task member is
  rw [came] at now
  obtain ⟨result, decides, rfl⟩ : stage.Ends code value state := now
  have tends := waits.tends
  rcases decides with ⟨free, -⟩ | ⟨path, -, decides⟩
  · simp [free, Duty.Tends] at tends
  · cases duty : state.1.1.duty with
    | settled pid status =>
        rw [duty] at decides tends
        exact ⟨path.lossy, status, tends.2, congrArg code decides⟩
    | tending pid =>
        rw [duty] at decides
        exact decides.elim
    | serving pid signal =>
        rw [duty] at decides
        exact decides.elim
    | free => simp [duty, Duty.Tends] at tends
    | refused cause => simp [duty, Duty.Tends] at tends

/-- A launcher that has just created its child waits for it. -/
theorem of_bears {launcher : Pid} {child : Task} {told : ExitStatus → Prop}
    (coherent : before.Coherent) (known : launcher < before.nextPid)
    (keeps : before.Keeps (stage.launching command) (stage.Ends code) launcher state)
    (brief : state.1.2 ≤ OuterStage.greatestBrevity) (moves : Kernel.Moves before move after)
    (bears : move.Bears launcher child) :
    (∃ task ∈ before.tasks, task.pid = launcher ∧
      Kernel.Newborn stage.isolation.uts task before after child) ∧
      ∃ later, Waits stage command code launcher child.pid told later after := by
  obtain ⟨task, member, fresh, rfl, newborn, -⟩ := moves.born coherent bears
  have now := keeps task member rfl
  rcases newborn.may with ⟨spawning, next, spawns, rfl⟩ | ⟨-, next, forks⟩
  · rw [spawns] at now
    obtain ⟨allowed, goesOn⟩ := now
    obtain ⟨-, -, -, path, -, rfl⟩ := allowed.1.1
    refine ⟨⟨task, member, rfl, newborn⟩, ?_⟩
    have isChild : child ∈ after.tasks := moves.after_eq ▸ bears.member
    have grown : after.nextPid ≠ before.nextPid := by
      rw [newborn.nextPid]
      exact Int.ne_of_gt (Int.lt_succ _)
    rcases moves.acts_or_fails coherent member bears.mover with acts | ⟨_, _, -, -, is⟩
    · obtain ⟨reply, between, spawned, is⟩ := acts.of_spawn spawns
      rcases Kernel.bears_spawn spawned with ⟨cause, -, rfl⟩ | ⟨born, loaded, rfl, -, -, births⟩
      · exact absurd (congrArg Kernel.nextPid is) grown
      · have same : born.pid = child.pid := births.pid.trans newborn.pid.symm
        have coherentToo := moves.coherent coherent
        refine ⟨(stage.launching command).after state
          ⟨.spawn (stage.spawning path command), .ok born.pid⟩,
          ⟨⟨coherentToo, Int.lt_of_lt_of_le known moves.grows.2,
            coherentToo.known child isChild, fun other isOther is => ?_⟩,
          is ▸ Kernel.keeps_modify (goesOn _) between task.pid, same,
          fun _ => ⟨child, isChild, rfl⟩, OuterStage.launching_after_le stage command brief _⟩⟩
        rw [coherentToo.eq_of_pid isOther isChild is]
        exact newborn.parent
    · exact absurd (congrArg Kernel.nextPid is) grown
  · rw [forks] at now
    exact now.elim

end Waits

end HostnameSandbox

import HostnameSandbox.Proofs.Namespaces.Launching

/-!
# Supervision among moves

A process of a host that cares for its child waits for it until it is told how the child has ended,
whatever else happens on the host, and what it comes to is decided by that.  Nothing holds it up but
its child and what it writes.
-/

namespace HostnameSandbox

variable {mayStart : Option Bytes → Spawning → Prop} {told : ExitStatus → Prop} {pid child : Pid}

/-- A process that has a child reports, asks for the child or passes a signal on; once it has been
told how the child ended, it may open its log and write too. -/
theorem Supervisor.allows_cases {supervisor : Supervisor} {request : Call}
    (allowed : supervisor.allows mayStart request) (tends : supervisor.duty.Tends child told) :
    (∃ event, request = .report event) ∨
      (request = .select child Relay.signals ∧ supervisor.duty = .tending child) ∨
      (∃ signal, request = .send child signal ∧ supervisor.duty = .serving child signal) ∨
      (∃ filter, request = .openLog filter) ∨
      ∃ descriptor bytes, request = .write descriptor bytes := by
  cases duty : supervisor.duty with
  | free =>
      rw [duty] at tends
      exact tends.elim
  | refused cause =>
      rw [duty] at tends
      exact tends.elim
  | tending other =>
      rw [duty] at tends
      obtain rfl : other = child := tends
      rcases allows_tending duty allowed with reports | asks
      · exact .inl reports
      · exact .inr (.inl ⟨asks, rfl⟩)
  | serving other signal =>
      rw [duty] at tends
      obtain rfl : other = child := tends
      rcases allows_serving duty allowed with reports | sends
      · exact .inl reports
      · exact .inr (.inr (.inl ⟨signal, sends, rfl⟩))
  | settled other status =>
      cases request with
      | report event => exact .inl ⟨event, rfl⟩
      | openLog filter => exact .inr (.inr (.inr (.inl ⟨filter, rfl⟩)))
      | write descriptor bytes => exact .inr (.inr (.inr (.inr ⟨descriptor, bytes, rfl⟩)))
      | _ => simp [allows, duty] at allowed

/-- A process that cares for a child and has come to its end takes over how that has ended. -/
theorem Duty.Decides.of_tends {duty : Duty} {label : String} {failed : Cause → Failure}
    {result : Except Failure UInt8} (decides : duty.Decides label failed result)
    (tends : duty.Tends child told) : ∃ status, told status ∧ result = concluded label status := by
  cases duty with
  | settled pid status => exact ⟨status, tends.2, decides⟩
  | free => exact tends.elim
  | refused cause => exact tends.elim
  | tending pid => exact decides.elim
  | serving pid signal => exact decides.elim

theorem supervision_steadfast (mayStart : Option Bytes → Spawning → Prop) :
    (supervision mayStart).Steadfast :=
  fun _ => ⟨fun _ _ _ => id, fun _ => id⟩

namespace Kernel

variable {State : Type} {contract : Contract State} {ends : UInt8 → State → Prop} {state : State}
  {before after : Kernel} {move : Move}

/-- If a process has exited, then with the code that it has come to. -/
def ExitsByValue (pid : Pid) (kernel : Kernel) : Prop :=
  ∀ task ∈ kernel.tasks, task.pid = pid → ∀ code, task.ending = some (.exited code) →
    task.process = .done code

/-- A process that keeps a contract exits with no other code than it has come to. -/
theorem ExitsByValue.next (exits : before.ExitsByValue pid) (steadfast : contract.Steadfast)
    (coherent : before.Coherent) (known : pid < before.nextPid)
    (keeps : before.Keeps contract ends pid state) (moves : Moves before move after) :
    after.ExitsByValue pid := by
  intro task member is code ended
  subst is
  obtain ⟨earlier, isEarlier, remains⟩ := moves.remains member known
  have own : move.mover? = some earlier.pid → earlier.ending = none := fun mine => by
    simpa [Task.isAlive] using moves.isAlive_mover coherent isEarlier mine
  rcases remains.ending with same | ⟨signal, killed⟩ | ⟨other, ⟨mover, isMover, mine, loses⟩, is⟩
  · -- who has ended already makes no move
    have others : move.mover? ≠ some task.pid := fun mine => by
      rw [own (remains.pid ▸ mine)] at same
      cases same.symm.trans ended
    refine moves.idle (· = .done code) known others (fun found isFound isSame => ?_) task member rfl
    obtain rfl := coherent.eq_of_pid isFound isEarlier (isSame.trans remains.pid)
    exact exits found isFound isSame code (same ▸ ended)
  · cases killed.symm.trans ended
  · obtain rfl : other = code := ExitStatus.exited.inj (Option.some.inj (is.symm.trans ended))
    rw [moves.before_eq] at isMover loses
    rcases loses with ⟨value, came, exited⟩ | ⟨request, next, calls, exited⟩
    · obtain ⟨same, rfl⟩ := Loss.exited.inj exited
      rcases moves.acts_or_fails coherent isMover mine with acts | ⟨exchange, next, step, -, -⟩
      · cases acts with
        | ends cameToo =>
            rw [coherent.process_eq (fun _ => ?_) isMover member same, came]
            exact (steady_atTimeOf before mover).trans (steady_finish _ mover.pid _)
        | turns loops => cases came.symm.trans loops
        | forks splits => cases came.symm.trans splits
        | tries calls => cases came.symm.trans calls
        | makes calls => cases came.symm.trans calls
      · rw [came] at step
        cases step
    · cases request with
      | exit value =>
          -- nobody who keeps the contract ends by a call
          have now := keeps mover isMover exited.1.symm
          rw [calls] at now
          exact absurd now.1 ((steadfast state).2 value)
      | _ => exact exited.elim

end Kernel

/-- A process cares for one child, and exits with what it comes to. -/
structure Caring (mayStart : Option Bytes → Spawning → Prop) (ends : UInt8 → Supervisor → Prop)
    (pid : Pid) (state : Supervisor) (kernel : Kernel) : Prop where
  coherent : kernel.Coherent
  known : pid < kernel.nextPid
  keeps : kernel.Keeps (supervision mayStart) ends pid state
  exits : kernel.ExitsByValue pid

/-- A process waits for its child, or has been told how that ended. -/
structure Tending (mayStart : Option Bytes → Spawning → Prop) (ends : UInt8 → Supervisor → Prop)
    (told : ExitStatus → Prop) (pid child : Pid) (state : Supervisor) (kernel : Kernel) : Prop
    extends Caring mayStart ends pid state kernel where
  tends : state.duty.Tends child told

section Caring

variable {ends : UInt8 → Supervisor → Prop} {state : Supervisor}
  {kernel before after first last : Kernel} {task : Task} {move : Move} {trace : List Move}

namespace Caring

theorem next (caring : Caring mayStart ends pid state before)
    (moves : Kernel.Moves before move after) : ∃ later, Caring mayStart ends pid later after := by
  obtain ⟨coherent, known, keeps, exits⟩ := caring
  have steadfast := supervision_steadfast mayStart
  have exitsToo := exits.next steadfast coherent known keeps moves
  have goesOn {later : Supervisor} (still : after.Keeps (supervision mayStart) ends pid later) :
      ∃ later, Caring mayStart ends pid later after :=
    ⟨later, moves.coherent coherent, Int.lt_of_lt_of_le known moves.grows.2, still, exitsToo⟩
  rcases moves.follows steadfast known keeps with ⟨-, still⟩ | ⟨-, follows⟩
  · exact goesOn still
  · cases follows with
    | rests steady still => exact goesOn still
    | fails allowed fails steady further => exact goesOn further
    | makes member is allowed begins answered rest further => exact goesOn further

theorem of_run (caring : Caring mayStart ends pid state first)
    (run : Run Kernel.Moves first trace last) : ∃ later, Caring mayStart ends pid later last := by
  induction run with
  | start => exact ⟨state, caring⟩
  | next run moves hypothesis =>
      obtain ⟨between, caring⟩ := hypothesis
      exact caring.next moves

/-- A process that has just created its child waits for it. -/
theorem bears {born : Task} (caring : Caring mayStart ends pid state before)
    (moves : Kernel.Moves before move after) (bears : move.Bears pid born)
    (told : ExitStatus → Prop) : ∃ later, Tending mayStart ends told pid born.pid later after := by
  obtain ⟨coherent, known, keeps, exits⟩ := caring
  obtain ⟨task, member, fresh, rfl, newborn, -⟩ := moves.born coherent bears
  have now := keeps task member rfl
  have grown : after.nextPid ≠ before.nextPid := by
    rw [newborn.nextPid]
    exact Int.ne_of_gt (Int.lt_succ _)
  rcases newborn.may with ⟨spawning, next, spawns, rfl⟩ | ⟨-, next, forks⟩
  · rw [spawns] at now
    rcases moves.acts_or_fails coherent member bears.mover with acts | ⟨_, _, -, -, is⟩
    · obtain ⟨reply, between, spawned, is⟩ := acts.of_spawn spawns
      rcases Kernel.bears_spawn spawned with ⟨cause, -, rfl⟩ | ⟨other, loaded, rfl, -, -, births⟩
      · exact absurd (congrArg Kernel.nextPid is) grown
      · have same : other.pid = born.pid := births.pid.trans newborn.pid.symm
        exact ⟨state.after ⟨.spawn spawning, .ok other.pid⟩,
          ⟨moves.coherent coherent, Int.lt_of_lt_of_le known moves.grows.2,
          is ▸ Kernel.keeps_modify (now.2 _) between task.pid,
          exits.next (supervision_steadfast mayStart) coherent known keeps moves⟩, same⟩
    · exact absurd (congrArg Kernel.nextPid is) grown
  · rw [forks] at now
    exact now.elim

end Caring

namespace Tending

/-- An exchange by which a process goes on caring for its child. -/
theorem tends_after {request : Call} {reply : request.Reply}
    (tends : state.duty.Tends child told) (allowed : state.allows mayStart request)
    (made : (∃ task between, (before.atTimeOf task).attempt task request = .answered reply between) ∨
      Exchange.Fails ⟨request, reply⟩)
    (tells : ∀ task ∈ before.tasks, task.pid = child → ∀ status, task.ending = some status →
      told status) :
    (state.after ⟨request, reply⟩).duty.Tends child told := by
  rcases Supervisor.allows_cases allowed tends with
    ⟨event, rfl⟩ | ⟨rfl, tending⟩ | ⟨signal, rfl, serving⟩ | ⟨filter, rfl⟩ | ⟨descriptor, bytes, rfl⟩
  · exact tends
  · obtain ⟨task, between, selected⟩ := made.resolve_right id
    rcases Kernel.select_cases selected with ⟨status, rfl, ended⟩ | ⟨signal, rfl, -, -⟩
    · rw [Kernel.ending?_atTimeOf] at ended
      obtain ⟨other, found, ended⟩ := Option.bind_eq_some_iff.1 ended
      exact ⟨rfl, tells other (Kernel.mem_of_task? found) (Kernel.task?_pid found) status ended⟩
    · exact rfl
  · exact rfl
  · exact tends
  · exact tends

/-- Whatever move is made, a process goes on caring for its child. -/
theorem next (tending : Tending mayStart ends told pid child state before)
    (moves : Kernel.Moves before move after)
    (tells : ∀ task ∈ before.tasks, task.pid = child → ∀ status, task.ending = some status →
      told status) :
    ∃ later, Tending mayStart ends told pid child later after := by
  obtain ⟨⟨coherent, known, keeps, exits⟩, tends⟩ := tending
  have coherentToo := moves.coherent coherent
  have knownToo := Int.lt_of_lt_of_le known moves.grows.2
  have exitsToo := exits.next (supervision_steadfast mayStart) coherent known keeps moves
  by_cases mine : move.mover? = some pid
  · obtain ⟨task, member, rfl⟩ := moves.exists_mover mine
    have now := keeps task member rfl
    have still {mover : Pid} (other : mover ≠ task.pid) (steady : before.Steady mover after) :
        ∃ later, Tending mayStart ends told task.pid child later after :=
      ⟨state, ⟨coherentToo, knownToo, keeps.of_steady other steady, exitsToo⟩, tends⟩
    have other : task.pid - 1 ≠ task.pid := Int.ne_of_lt (Int.sub_one_lt_of_le (Int.le_refl _))
    rcases moves.acts_or_fails coherent member mine with
      acts | ⟨⟨request, reply⟩, next, step, fails, rfl⟩
    · cases acts with
      | ends came =>
          exact still other
            ((Kernel.steady_atTimeOf before task).trans (Kernel.steady_finish _ task.pid _))
      | turns loops =>
          rw [loops] at now
          exact ⟨state, ⟨coherentToo, knownToo, Kernel.keeps_modify now.unroll before task.pid,
            exitsToo⟩, tends⟩
      | forks splits change seat =>
          rw [splits] at now
          exact now.elim
      | tries calls again =>
          rw [calls] at now
          -- of what may be tried again a supervisor only writes
          rcases Kernel.again_cases again with
            ⟨descriptor, bytes, rfl⟩ | ⟨path, words, environment, rfl⟩ | ⟨code, rfl⟩
          · have settles : (before.atTimeOf task).Settles (task.pid - 1) (fun _ => False) after :=
              Kernel.settles_of_write_again again
            exact still other ((Kernel.steady_atTimeOf before task).trans settles.steady)
          · exact now.1.elim
          · exact now.1.elim
      | @makes request next reply between calls answered =>
          rw [calls] at now
          exact ⟨_, ⟨coherentToo, knownToo, Kernel.keeps_modify (now.2 reply) between task.pid,
            exitsToo⟩, tends_after tends now.1 (.inl ⟨task, between, answered⟩) tells⟩
    · obtain ⟨allowed, goesOn⟩ := now.step step
      exact ⟨_, ⟨coherentToo, knownToo, Kernel.keeps_modify goesOn before task.pid, exitsToo⟩,
        tends_after tends allowed (.inr fails) tells⟩
  · exact ⟨state, ⟨coherentToo, knownToo,
      moves.idle (·.Keeps (supervision mayStart) ends state) known mine keeps, exitsToo⟩, tends⟩

theorem of_run (tending : Tending mayStart ends told pid child state first)
    (run : Run Kernel.Moves first trace last)
    (tells : ∀ move ∈ trace, ∀ task ∈ move.before.tasks, task.pid = child →
      ∀ status, task.ending = some status → told status) :
    ∃ later, Tending mayStart ends told pid child later last := by
  induction run with
  | start => exact ⟨state, tending⟩
  | @next trace move between last run moves hypothesis =>
      obtain ⟨middle, tendingStill⟩ := hypothesis fun other member =>
        tells other (List.mem_append_left _ member)
      have isLast : move ∈ trace ++ [move] := List.mem_append_right _ (List.mem_singleton_self _)
      exact tendingStill.next moves (moves.before_eq ▸ tells move isLast)

/-- What a process comes to is decided by how its child has ended. -/
theorem decides (tending : Tending mayStart ends told pid child state kernel)
    (member : task ∈ kernel.tasks) (is : task.pid = pid) {value : UInt8}
    (came : task.process = .done value) : ends value state := by
  have now := tending.keeps task member is
  rwa [came] at now

/-- A process with a child may act, unless it writes or waits for its child to end. -/
theorem mayAct_or (tending : Tending mayStart ends told pid child state kernel)
    (lives : kernel.isAlive pid) :
    kernel.mayAct pid ∨ (∃ task ∈ kernel.tasks, task.pid = pid ∧ task.isWriting) ∨
      (kernel.task? child).bind Task.ending = none := by
  obtain ⟨task, member, rfl, alive⟩ := Kernel.isAlive_iff.1 lives
  have now := tending.keeps task member rfl
  have acts (steps : kernel.stepOther? task ≠ none) : kernel.mayAct task.pid :=
    Kernel.mayAct_of_stepOther? tending.coherent member alive steps
  cases process : task.process with
  | done value => exact .inl (acts (by rw [Kernel.stepOther?, process]; exact Option.some_ne_none _))
  | loop turn next =>
      exact .inl (acts (by rw [Kernel.stepOther?, process]; exact Option.some_ne_none _))
  | fork next =>
      rw [process] at now
      exact now.elim
  | call request next =>
      rw [process] at now
      have calls (free : (kernel.atTimeOf task).attempt task request ≠ .blocked) :
          kernel.mayAct task.pid :=
        Kernel.mayAct_of_call tending.coherent member alive process free
      rcases Supervisor.allows_cases now.1 tending.tends with
        ⟨event, rfl⟩ | ⟨rfl, -⟩ | ⟨signal, rfl, -⟩ | ⟨filter, rfl⟩ | ⟨descriptor, bytes, rfl⟩
      · exact .inl (calls fun blocked => by cases blocked)
      · cases ended : (kernel.task? child).bind Task.ending with
        | none => exact .inr (.inr rfl)
        | some status =>
            refine .inl (calls ?_)
            rw [Kernel.attempt, Kernel.select, Kernel.ending?_atTimeOf, ended]
            exact fun blocked => by cases blocked
      · exact .inl (calls fun blocked => by cases blocked)
      · exact .inl (calls fun blocked => by cases blocked)
      · exact .inr (.inl ⟨task, member, rfl, by rw [Task.isWriting, process]⟩)

end Tending

end Caring

end HostnameSandbox

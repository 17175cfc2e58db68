import HostnameSandbox.Proofs.Namespaces.Admission
import HostnameSandbox.Proofs.Namespaces.Launching
import HostnameSandbox.Proofs.Namespaces.Outings
import HostnameSandbox.Proofs.Namespaces.Refusal

/-!
# Launchers and guards agree

A launcher asks for a namespace of its own for its child, or for none, and the guard of the child
finds out by itself whether there is one.  Both come to the same, in whatever namespace the
launcher is and whatever else happens on the host meanwhile.
-/

namespace HostnameSandbox

open Kernel (Moves)

/-- A launch among the moves of a host: a process launches the program again, and that is to play
its inner stage. -/
structure Relaunch (first : Kernel) (trace : List Move) where
  stage : OuterStage
  command : Command
  /-- What becomes of the result of the launch. -/
  code : Except Failure UInt8 → UInt8
  launcher : Task
  member : launcher ∈ first.tasks
  launches : launcher.process = stage.launch command code
  earlier : List Move
  birth : Move
  later : List Move
  child : Task
  start : Start
  inside : Command
  verbose : Bool
  whole : trace = earlier ++ birth :: later
  starts : birth.Starts launcher.pid child start
  args : start.args = stage.arguments command
  asks : start.Asks ⟨.inner, inside⟩ verbose

namespace Relaunch

variable {first last : Kernel} {trace : List Move}

/-- The guard of the child lets it go on, and the child comes to that by itself. -/
structure Passes (launch : Relaunch first trace) (last : Kernel) : Prop where
  begins : movesOf launch.child.pid launch.later = Guard.opening →
    ∀ found ∈ last.tasks, found.pid = launch.child.pid →
      found.process = ensureFreshNamespace.run >>= InnerStage.standard.afterGuard launch.inside
  passes : movesOf launch.child.pid launch.later = Guard.closing →
    ∀ found ∈ last.tasks, found.pid = launch.child.pid →
      found.process = InnerStage.standard.afterGuard launch.inside (.ok ())
  mayAct : movesOf launch.child.pid launch.later < Guard.closing →
    last.isAlive launch.child.pid → last.mayAct launch.child.pid

/-- The launcher lives, and nobody else asks how its child has ended. -/
structure Attended (launch : Relaunch first trace) (last : Kernel) : Prop where
  lives : last.isAlive launch.launcher.pid
  kept : ∀ move ∈ launch.later, move.mover? ≠ some launch.launcher.pid →
    ¬ move.MayLose (.forgotten launch.child.pid)

/-- The child has been killed by a signal. -/
def Killed (launch : Relaunch first trace) (signal : Signal) : Prop :=
  ∃ move ∈ launch.later, ∃ found ∈ move.before.tasks,
    found.pid = launch.child.pid ∧ found.ending = some (.killed signal)

/-- The guard of the child does not let it go on, and the launch comes to 125 by that. -/
structure Fails (launch : Relaunch first trace) (last : Kernel) : Prop where
  begins : movesOf launch.child.pid launch.later = Guard.opening →
    ∀ found ∈ last.tasks, found.pid = launch.child.pid →
      found.process = ensureFreshNamespace.run >>= InnerStage.standard.afterGuard launch.inside
  fails : movesOf launch.child.pid launch.later = Guard.closing →
    ∀ found ∈ last.tasks, found.pid = launch.child.pid →
      found.process = InnerStage.standard.afterGuard launch.inside
        (.error (.namespaceSetup
          (.shared (Kernel.namespaceName launch.launcher.uts) launch.launcher.pid)))
  ending : ∀ found ∈ last.tasks, found.pid = launch.child.pid → ∀ status,
    found.ending = some status → status = .exited 125 ∨ ∃ signal, status = .killed signal
  childless : ∀ move ∈ launch.later, ∀ other, ¬ move.Bears launch.child.pid other
  /-- Neither the launcher nor the child changes a name, unless by what the child writes to an open
  file that leads to names, as it may find one for its standard error. -/
  names : ∀ move ∈ trace, move.mover? = some launch.launcher.pid ∨
    move ∈ launch.later ∧ move.mover? = some launch.child.pid ∧
      ¬ move.WritesNames launch.child.pid → move.after.names = move.before.names
  returns : ∀ found ∈ last.tasks, found.pid = launch.launcher.pid → ∀ value,
    found.process = .done value → value = launch.code (.ok 125) ∨
      ∃ signal label, launch.Killed signal ∧
        value = launch.code (.error (.runtime label signal.number))
  /-- Nothing holds up both, but that the child cannot be rid of what it tells. -/
  goesOn : last.mayAct launch.launcher.pid ∨ last.mayAct launch.child.pid ∨
    ∃ found ∈ last.tasks, found.pid = launch.child.pid ∧ found.isWriting
  /-- The child makes so many moves, apart from those by which it tells. -/
  brief : callsOf launch.child.pid launch.later ≤ Guard.closing + 1
  /-- The launcher makes so many moves once the child has ended. -/
  soon : ∀ sooner move rest, launch.later = sooner ++ move :: rest →
    ¬ move.before.isAlive launch.child.pid →
      movesOf launch.launcher.pid (move :: rest) ≤ 2 * OuterStage.greatestBrevity + 1

/-- A launcher launches the program throughout a run. -/
theorem keeps_of_run (launch : Relaunch first trace) (coherent : first.Coherent) {between : Kernel}
    {sooner : List Move} (run : Run Moves first sooner between) :
    ∃ state : (Supervisor × Nat) × Unit, state.1.2 ≤ OuterStage.greatestBrevity ∧
      between.Keeps (launch.stage.launching launch.command) (launch.stage.Ends launch.code)
        launch.launcher.pid state := by
  have keeps : first.Keeps (launch.stage.launching launch.command) (launch.stage.Ends launch.code)
      launch.launcher.pid ((.initial, OuterStage.greatestBrevity), ()) := by
    intro task member is
    rw [coherent.eq_of_pid member launch.member is, launch.launches]
    exact OuterStage.keeps_launch launch.stage launch.command launch.code
  exact keeps.of_run (OuterStage.launching_steadfast launch.stage launch.command)
    (coherent.known launch.launcher launch.member) run (Nat.le_refl _) fun state exchange least =>
      OuterStage.launching_after_le launch.stage launch.command least exchange

/-! ### After the birth of the child -/

section Born

/-- What there is once a launcher has created its child: the launcher waits, and the child is about
to play its inner stage, in a namespace of its own or in that of the launcher. -/
theorem born (launch : Relaunch first trace) (told : ExitStatus → Prop)
    (coherent : first.Coherent)
    (sofar : Run Moves first launch.earlier launch.birth.before)
    (births : Moves launch.birth.before launch.birth launch.birth.after) :
    (∃ task ∈ launch.birth.before.tasks, task.pid = launch.launcher.pid ∧
      Kernel.Newborn launch.stage.isolation.uts task launch.birth.before launch.birth.after
        launch.child) ∧
      ∃ state, Waits launch.stage launch.command launch.code launch.launcher.pid launch.child.pid
        told state launch.birth.after := by
  obtain ⟨state, brief, keeps⟩ := launch.keeps_of_run coherent sofar
  have known : launch.launcher.pid < launch.birth.before.nextPid :=
    Int.lt_of_lt_of_le (coherent.known launch.launcher launch.member) (Kernel.grows_of_run sofar).2
  exact Waits.of_bears (Kernel.coherent_of_run coherent sofar) known keeps brief births
    launch.starts.toBears

/-- The child of a launch stands at the beginning of the program. -/
theorem stands_of_born (launch : Relaunch first trace) {outlook : Guard.Outlook}
    (coherent : launch.birth.after.Coherent) :
    ∀ task ∈ launch.birth.after.tasks, task.pid = launch.child.pid →
      Guard.Stands (InnerStage.standard.afterGuard launch.inside) outlook launch.child.pid 0
        task.process := by
  intro task member is
  rw [coherent.eq_of_pid member launch.starts.member is, launch.starts.process]
  exact .of_asks launch.asks

/-- A child that has a namespace of its own is about to be let go on. -/
theorem admitted_of_born (launch : Relaunch first trace) (coherent : first.Coherent)
    (sofar : Run Moves first launch.earlier launch.birth.before)
    (births : Moves launch.birth.before launch.birth launch.birth.after)
    (fresh : launch.stage.isolation.uts = true) :
    Guard.Admitted (InnerStage.standard.afterGuard launch.inside) launch.child.pid
      launch.birth.before.names.length 0 launch.birth.after := by
  obtain ⟨⟨task, member, -, newborn⟩, -⟩ :=
    launch.born (fun _ => True) coherent sofar births
  rw [fresh] at newborn
  have before := Kernel.coherent_of_run coherent sofar
  exact ⟨.of_newborn before births member launch.starts.member newborn,
    launch.stands_of_born (births.coherent before)⟩

/-- A child that has none is about to be ended by its guard. -/
theorem refuses_of_born (launch : Relaunch first trace) (coherent : first.Coherent)
    (sofar : Run Moves first launch.earlier launch.birth.before)
    (births : Moves launch.birth.before launch.birth launch.birth.after)
    (shared : launch.stage.isolation = .none)
    (lives : launch.birth.after.isAlive launch.launcher.pid) :
    Guard.Refuses launch.inside launch.launcher.pid launch.child.pid launch.launcher.uts 0 0
      launch.birth.after := by
  obtain ⟨⟨task, member, is, newborn⟩, state, waits⟩ :=
    launch.born (fun _ => True) coherent sofar births
  rw [shared] at newborn
  have before := Kernel.coherent_of_run coherent sofar
  have isChild {other : Task} (isOther : other ∈ launch.birth.after.tasks)
      (same : other.pid = launch.child.pid) : other = launch.child :=
    waits.coherent.eq_of_pid isOther launch.starts.member same
  have unended : launch.child.ending = none := by
    have alive := births.isAlive_mover before member (launch.starts.mover.trans (is ▸ rfl))
    rw [newborn.ending]
    simpa [Task.isAlive] using alive
  refine ⟨⟨waits.toParents, fun other isOther same => ?_, fun other isOther same => ?_, lives⟩,
    fun other isOther same => .guards (by decide) ?_, fun other isOther same status ended => ?_,
    Nat.zero_le _⟩
  · rw [isChild isOther same]
    exact newborn.uts.trans (Kernel.stays_of_run coherent sofar launch.member member is)
  · exact Kernel.stays_of_run coherent (.next sofar births) launch.member isOther same
  · exact launch.stands_of_born waits.coherent other isOther same
  · rw [isChild isOther same, unended] at ended
    cases ended

end Born

/-! ### Both kinds of launches -/

section Agreeing

variable (launch : Relaunch first trace)

theorem passes_of_run (coherent : first.Coherent) (booted : 1 < first.nextPid)
    (run : Run Moves first trace last)
    (readable : ∀ move ∈ launch.later, move.Reads launch.child.pid)
    (fresh : launch.stage.isolation.uts = true) : launch.Passes last := by
  obtain ⟨sofar, births, later⟩ := Kernel.split_of_run (launch.whole ▸ run)
  have admitted := launch.admitted_of_born coherent sofar births fresh
  have foreign : launch.child.pid ≠ 1 := by
    rw [launch.starts.pid]
    exact (Int.ne_of_lt (Int.lt_of_lt_of_le booted (Kernel.grows_of_run sofar).2)).symm
  have now (early : movesOf launch.child.pid launch.later ≤ Guard.closing) :=
    admitted.of_run later foreign readable early
  refine ⟨fun count found isFound is => ?_, fun count found isFound is => ?_,
    fun early => (now (Nat.le_of_lt early)).mayAct early⟩
  · have stands := (now (by rw [count]; decide)).stands found isFound is
    rw [count] at stands
    exact stands.begins_of_opening
  · have passed := now (Nat.le_of_eq count)
    rw [count] at passed
    exact passed.passes isFound is

/-- A launcher that asks for no namespace changes no name. -/
theorem launcher_names (coherent : first.Coherent) (run : Run Moves first trace last)
    (shared : launch.stage.isolation = .none) {move : Move} (isMove : move ∈ trace)
    (mine : move.mover? = some launch.launcher.pid) : move.after.names = move.before.names := by
  obtain ⟨sooner, rest, rfl⟩ := List.append_of_mem isMove
  obtain ⟨sofar, moves, -⟩ := Kernel.split_of_run run
  obtain ⟨state, -, keeps⟩ := launch.keeps_of_run coherent sofar
  obtain ⟨task, member, is⟩ := moves.exists_mover mine
  have now := keeps task member is
  refine moves.names_eq (Kernel.coherent_of_run coherent sofar) member (mine.trans (is ▸ rfl))
    (OuterStage.not_mayRename now) fun may => ?_
  have fresh := OuterStage.mayBear_eq now may
  rw [shared] at fresh
  cases fresh

/-- A child that its guard is about to end changes a name only by what it writes. -/
theorem child_names {made quiet : Nat} {before after : Kernel} {move : Move}
    (refuses : Guard.Refuses launch.inside launch.launcher.pid launch.child.pid
      launch.launcher.uts made quiet before) (moves : Moves before move after)
    (mine : move.mover? = some launch.child.pid) (unwritten : ¬ move.WritesNames launch.child.pid) :
    move.after.names = move.before.names := by
  obtain ⟨task, member, is⟩ := moves.exists_mover mine
  rw [moves.before_eq, moves.after_eq]
  have stands := refuses.stands task member is
  rw [← is] at stands
  refine moves.names_eq refuses.coherent member (mine.trans (is ▸ rfl)) (fun may => unwritten ?_)
    stands.not_mayBear
  obtain ⟨descriptor, bytes, next, calls, renames⟩ := stands.of_mayRename may
  rw [Move.WritesNames, moves.before_eq]
  exact ⟨task, member, is, descriptor, bytes, next, calls, renames⟩

section Attended

variable (coherent : first.Coherent) (run : Run Moves first trace last)
  (readable : ∀ move ∈ launch.later, move.Reads launch.child.pid)
  (shared : launch.stage.isolation = .none) (attended : launch.Attended last)
include coherent run readable shared attended

/-- Throughout a launch the child is ended by its guard. -/
theorem refuses_of_run {sooner rest : List Move} {between : Kernel}
    (whole : launch.later = sooner ++ rest) (toBetween : Run Moves launch.birth.after sooner between)
    (toLast : Run Moves between rest last) :
    Guard.Refuses launch.inside launch.launcher.pid launch.child.pid launch.launcher.uts
      (movesOf launch.child.pid sooner) (callsOf launch.child.pid sooner) between := by
  obtain ⟨sofar, births, later⟩ := Kernel.split_of_run (launch.whole ▸ run)
  have known : launch.launcher.pid < launch.birth.after.nextPid :=
    Int.lt_of_lt_of_le (coherent.known launch.launcher launch.member)
      (Int.le_trans (Kernel.grows_of_run sofar).2 births.grows.2)
  have lives : between.isAlive launch.launcher.pid :=
    Kernel.isAlive_of_run toLast (Int.lt_of_lt_of_le known (Kernel.grows_of_run toBetween).2)
      attended.lives
  have born := launch.refuses_of_born coherent sofar births shared
    (Kernel.isAlive_of_run toBetween known lives)
  exact born.of_run toBetween lives fun move isMove =>
    readable move (whole ▸ List.mem_append_left rest isMove)

theorem refuses_before {move : Move} (isMove : move ∈ launch.later) : ∃ made quiet,
    Guard.Refuses launch.inside launch.launcher.pid launch.child.pid launch.launcher.uts made quiet
      move.before ∧ Moves move.before move move.after := by
  obtain ⟨-, -, later⟩ := Kernel.split_of_run (launch.whole ▸ run)
  obtain ⟨sooner, rest, whole⟩ := List.append_of_mem isMove
  obtain ⟨toBetween, moves, toLast⟩ := Kernel.split_of_run (whole ▸ later)
  exact ⟨_, _, launch.refuses_of_run coherent run readable shared attended whole toBetween
    (.cons moves toLast), moves⟩

/-- Throughout a launch the launcher waits for what the child comes to, and does not wait for long
once the child has ended. -/
theorem waits_of_run {sooner rest : List Move} {between : Kernel}
    (whole : launch.later = sooner ++ rest) (toBetween : Run Moves launch.birth.after sooner between)
    (toLast : Run Moves between rest last) :
    ∃ state, Waits launch.stage launch.command launch.code launch.launcher.pid launch.child.pid
        (fun status => status = .exited 125 ∨
          ∃ signal, status = .killed signal ∧ launch.Killed signal) state last ∧
      (¬ between.isAlive launch.child.pid →
        movesOf launch.launcher.pid rest ≤ 2 * OuterStage.greatestBrevity + 1) := by
  obtain ⟨sofar, births, later⟩ := Kernel.split_of_run (launch.whole ▸ run)
  have tells : ∀ move ∈ launch.later, ∀ task ∈ move.before.tasks, task.pid = launch.child.pid →
      ∀ status, task.ending = some status →
        status = .exited 125 ∨ ∃ signal, status = .killed signal ∧ launch.Killed signal := by
    intro move isMove task member is status ended
    obtain ⟨made, quiet, refuses, -⟩ :=
      launch.refuses_before coherent run readable shared attended isMove
    rcases refuses.ending task member is status ended with exited | ⟨signal, rfl⟩
    · exact .inl exited
    · exact .inr ⟨signal, rfl, move, isMove, task, member, is, ended⟩
  have lives := (launch.refuses_of_run coherent run readable shared attended whole toBetween
    toLast).lives
  obtain ⟨-, begun, waits⟩ := launch.born _ coherent sofar births
  obtain ⟨state, waitsStill, -⟩ := waits.of_run toBetween lives
    (fun move isMove => attended.kept move (whole ▸ List.mem_append_left rest isMove))
    fun move isMove => tells move (whole ▸ List.mem_append_left rest isMove)
  obtain ⟨later, waitsToo, closer⟩ := waitsStill.of_run toLast attended.lives
    (fun move isMove => attended.kept move (whole ▸ List.mem_append_right sooner isMove))
    fun move isMove => tells move (whole ▸ List.mem_append_right sooner isMove)
  refine ⟨later, waitsToo, fun gone => ?_⟩
  obtain ⟨earlier, isEarlier, same, -⟩ := Kernel.isAlive_iff.1 lives
  obtain ⟨found, isFound, is, -⟩ := Kernel.isAlive_iff.1 attended.lives
  exact Nat.le_trans (Nat.le_of_add_right_le (closer gone earlier isEarlier same found isFound is))
    (waitsStill.bound_le earlier)

theorem fails_of_run : launch.Fails last := by
  obtain ⟨-, -, later⟩ := Kernel.split_of_run (launch.whole ▸ run)
  have refuses := launch.refuses_of_run coherent run readable shared attended
    (List.append_nil _).symm later .start
  obtain ⟨state, waits, -⟩ := launch.waits_of_run coherent run readable shared attended
    (List.append_nil _).symm later .start
  exact {
    begins := fun count found isFound is =>
      (count ▸ refuses.stands found isFound is).begins_of_opening
    fails := fun count found isFound is => (count ▸ refuses.stands found isFound is).eq_of_closing
    ending := refuses.ending
    childless := fun move isMove other bears => by
      obtain ⟨made, quiet, refuses, moves⟩ :=
        launch.refuses_before coherent run readable shared attended isMove
      obtain ⟨task, member, fresh, is, newborn, -⟩ := moves.born refuses.coherent bears
      have stands := refuses.stands task member is
      rw [← is] at stands
      exact stands.not_mayBear newborn.may
    names := fun move isMove made => by
      rcases made with mine | ⟨isLater, mine, unwritten⟩
      · exact launch.launcher_names coherent run shared isMove mine
      · obtain ⟨made, quiet, refuses, moves⟩ :=
          launch.refuses_before coherent run readable shared attended isLater
        exact launch.child_names refuses moves mine unwritten
    returns := fun found isFound is value came => by
      obtain ⟨label, status, ended, rfl⟩ := waits.result isFound is came
      rcases ended with rfl | ⟨signal, rfl, killed⟩
      · exact .inl rfl
      · exact .inr ⟨signal, label, killed, rfl⟩
    goesOn := by
      rcases waits.mayAct_or attended.lives with acts | lives
      · exact .inl acts
      · obtain ⟨task, member, is, alive⟩ := Kernel.isAlive_iff.1 lives
        cases writing : task.isWriting with
        | true => exact .inr (.inr ⟨task, member, is, writing⟩)
        | false =>
            have stands := refuses.stands task member is
            rw [← is] at stands
            exact .inr (.inl (is ▸ stands.mayAct refuses.coherent member alive writing))
    brief := refuses.brief
    soon := fun sooner move rest whole gone => by
      obtain ⟨toBetween, moves, toLast⟩ := Kernel.split_of_run (whole ▸ later)
      obtain ⟨-, -, few⟩ := launch.waits_of_run coherent run readable shared attended whole toBetween
        (.cons moves toLast)
      exact few gone }

end Attended

end Agreeing

end Relaunch

/-! ### Two launches -/

namespace Machine

/-- Launches the program for a command that it is to play its inner stage for. -/
def relaunches (isolation : Isolation) : OuterStage :=
  ⟨.path (Bytes.ofString "/utsbox"), isolation, .inherited, false⟩

/-- An exit code that tells a failure from all that a program may come to. -/
def codeOf : Except Failure UInt8 → UInt8
  | .ok code => code
  | .error _ => 1

/-- The worker is about to launch the program in the second of two namespaces. -/
def bootLaunch (isolation : Isolation) : Kernel :=
  { bootElsewhere with
    tasks := [{ Machine.worker true with
      uts := 1
      opened := []
      process := (relaunches isolation).launch command codeOf }] }

theorem coherent_bootLaunch (isolation : Isolation) : (bootLaunch isolation).Coherent where
  distinct := List.nodup_singleton _
  known task member := by
    rw [List.mem_singleton.1 member]
    exact Int.lt_succ _
  housed := by simp [bootLaunch, bootElsewhere, boot, worker, Kernel.members]

end Machine

/-- Whether a process can read the link that it is about to read, and asks for the end of nobody. -/
def Task.readsAlone (kernel : Kernel) (task : Task) : Bool :=
  match task.process with
  | .call (.namespaceOf other) _ => (kernel.namespaceOf other).isOk
  | .call (.await _) _ | .call (.awaitAny _) _ | .call (.select _ _) _ => false
  | _ => true

namespace Kernel

variable {kernel before : Kernel} {pid : Pid} {pids : List Pid}

theorem reads_acted (coherent : before.Coherent) {mover : Pid}
    (alone : mover = pid → (before.task? mover).any (·.readsAlone before)) :
    (⟨some mover, before, before.acted mover⟩ : Move).Reads pid := by
  rintro mine task member rfl other next calls
  obtain rfl : mover = task.pid := Option.some.inj mine
  have readable : (before.namespaceOf other).isOk := by
    have now := alone rfl
    rwa [coherent.task?_eq member, Option.any_some, Task.readsAlone, calls] at now
  cases told : before.namespaceOf other with
  | error errno =>
      rw [told] at readable
      cases readable
  | ok link =>
      refine ⟨link, rfl, fun found isFound is => ?_⟩
      have steps : before.acted task.pid = (before.atTimeOf task).modify task.pid
          fun task => { task with process := next (.ok link) } := by
        rw [acted, coherent.task?_eq member, Option.bind_some, stepOther?, calls, ← told,
          ← namespaceOf_atTimeOf before task other]
        rfl
      rw [steps] at isFound
      exact process_goOn isFound is

/-- What a process does that asks for the end of nobody makes nobody forgotten. -/
theorem not_mayLose_acted (coherent : before.Coherent) {mover : Pid}
    (alone : (before.task? mover).any (·.readsAlone before)) :
    ¬ (⟨some mover, before, before.acted mover⟩ : Move).MayLose (.forgotten pid) := by
  rintro ⟨task, member, mine, ⟨code, -, is⟩ | ⟨request, next, calls, loses⟩⟩
  · cases is
  · obtain rfl : mover = task.pid := Option.some.inj mine
    rw [coherent.task?_eq member, Option.any_some, Task.readsAlone, calls] at alone
    cases request with
    | await child => cases alone
    | awaitAny patience => cases alone
    | select child signals => cases alone
    | _ => exact loses

/-- Where processes act that can read what they read, and only the launcher asks for the end of
anybody, a launch goes on undisturbed. -/
theorem undisturbed_play {launcher child : Pid} (coherent : kernel.Coherent)
    (other : child ≠ launcher) (may : mayPlay pids kernel)
    (alone : ∀ move ∈ (play pids kernel).1, move.mover? = some launcher ∨
      (move.mover?.bind move.before.task?).any (·.readsAlone move.before)) :
    ∀ move ∈ (play pids kernel).1, move.Reads child ∧
      (move.mover? ≠ some launcher → ¬ move.MayLose (.forgotten child)) := by
  induction pids generalizing kernel with
  | nil => exact fun move isMove => nomatch isMove
  | cons pid pids hypothesis =>
      rw [mayPlay, Bool.and_eq_true] at may
      intro move isMove
      rcases List.mem_cons.1 isMove with rfl | later
      · have now := alone _ List.mem_cons_self
        refine ⟨reads_acted coherent fun isChild => now.resolve_left fun isLauncher => ?_,
          fun others => not_mayLose_acted coherent (now.resolve_left others)⟩
        exact other (isChild.symm.trans (Option.some.inj isLauncher))
      · exact hypothesis ((moves_acted may.1).coherent coherent) may.2
          (fun move isMove => alone move (List.mem_cons_of_mem _ isMove)) move later

end Kernel

namespace Machine

/-- The launcher up to its child. -/
def untilBirth (isolation : Isolation) : List Pid :=
  List.replicate (if isolation.uts then 4 else 3) 100

/-- A child up to its guard's verdict. -/
def untilVerdict : List Pid := List.replicate Guard.closing 101

/-- A child from its guard's verdict on, and then the launcher. -/
def untilReturn : List Pid := List.replicate 2 101 ++ List.replicate 5 100

def launchReady (isolation : Isolation) : Kernel :=
  (Kernel.play (untilBirth isolation) (bootLaunch isolation)).2

def launchBorn (isolation : Isolation) : Kernel :=
  (launchReady isolation).acted 100

end Machine

/-- A launch by the worker. -/
structure Relaunch.ByWorker {isolation : Isolation} {trace : List Move}
    (launch : Relaunch (Machine.bootLaunch isolation) trace) (later : List Move) : Prop where
  stage : launch.stage = Machine.relaunches isolation
  launcher : launch.launcher.pid = 100
  child : launch.child.pid = 101
  later : launch.later = later

namespace Machine

/-- The worker launches the program if it can, whatever happens then. -/
theorem exists_launch (isolation : Isolation) (pids : List Pid)
    (ready : Kernel.mayPlay (untilBirth isolation) (bootLaunch isolation))
    (quiet : ∀ move ∈ (Kernel.play (untilBirth isolation) (bootLaunch isolation)).1,
      (move.mover?.bind move.before.task?).any Task.PreparesQuietly)
    (births : (launchReady isolation).mayAct 100)
    (spawns : ((launchReady isolation).task? 100).any Task.PreparesQuietly)
    (isNext : (launchReady isolation).nextPid = 101)
    (seen : ((launchBorn isolation).task? 101).map
      (fun task => (task.path, task.words, task.free? 0)) =
        some (Bytes.ofString "/utsbox", [Bytes.ofString "/utsbox", Bytes.ofString "inner",
          Bytes.ofString "/renames"], .ok 0)) :
    ∃ launch : Relaunch (bootLaunch isolation)
        (Kernel.play (untilBirth isolation ++ 100 :: pids) (bootLaunch isolation)).1,
      launch.ByWorker (Kernel.play pids (launchBorn isolation)).1 := by
  obtain ⟨child, arrived⟩ := Kernel.exists_arrived seen
  have coherent : (launchReady isolation).Coherent :=
    Kernel.coherent_of_run (coherent_bootLaunch isolation) (Kernel.run_play ready)
  have single : ∀ task ∈ (launchReady isolation).tasks, task.pid = 100 →
      ∀ next, task.process ≠ .fork next := by
    rintro task member is next forks
    rw [← is, coherent.task?_eq member, Option.any_some, Task.PreparesQuietly, forks,
      Bool.and_false] at spawns
    cases spawns
  have files : (launchReady isolation).files = bootElsewhere.files := Kernel.files_play quiet
  exact ⟨{
    stage := relaunches isolation
    command := command
    code := codeOf
    launcher := _
    member := List.mem_singleton_self _
    launches := rfl
    earlier := (Kernel.play (untilBirth isolation) (bootLaunch isolation)).1
    birth := ⟨some 100, launchReady isolation, launchBorn isolation⟩
    later := (Kernel.play pids (launchBorn isolation)).1
    child := child
    start := child.start
    inside := command
    verbose := false
    whole := by
      rw [Kernel.play_append, Kernel.play]
      rfl
    starts := starts_of_arrived coherent (Kernel.moves_acted births) single files isNext arrived
    args := by
      rw [Task.start, arrived.words]
      rfl
    asks := asks_of_arrived arrived (by decide +kernel) }, rfl, rfl, Kernel.task?_pid arrived.found,
    rfl⟩

/-- The host after a launch by the worker. -/
def launchLast (isolation : Isolation) (pids : List Pid) : Kernel :=
  (Kernel.play (untilBirth isolation ++ 100 :: pids) (bootLaunch isolation)).2

theorem run_launch {isolation : Isolation} {pids : List Pid}
    (may : Kernel.mayPlay (untilBirth isolation ++ 100 :: pids) (bootLaunch isolation)) :
    Run Moves (bootLaunch isolation)
      (Kernel.play (untilBirth isolation ++ 100 :: pids) (bootLaunch isolation)).1
      (launchLast isolation pids) :=
  Kernel.run_play may

end Machine

/-- The worker launches undisturbed where only it asks for the end of anybody. -/
theorem Relaunch.ByWorker.undisturbed {isolation : Isolation} {trace : List Move} {pids : List Pid}
    {launch : Relaunch (Machine.bootLaunch isolation) trace}
    (byWorker : launch.ByWorker (Kernel.play pids (Machine.launchBorn isolation)).1)
    (coherent : (Machine.launchBorn isolation).Coherent)
    (may : Kernel.mayPlay pids (Machine.launchBorn isolation))
    (alone : ∀ move ∈ (Kernel.play pids (Machine.launchBorn isolation)).1,
      move.mover? = some 100 ∨
        (move.mover?.bind move.before.task?).any (·.readsAlone move.before)) :
    ∀ move ∈ launch.later, move.Reads launch.child.pid ∧
      (move.mover? ≠ some launch.launcher.pid → ¬ move.MayLose (.forgotten launch.child.pid)) := by
  rw [byWorker.later, byWorker.child, byWorker.launcher]
  exact Kernel.undisturbed_play coherent (by decide) may alone

end HostnameSandbox

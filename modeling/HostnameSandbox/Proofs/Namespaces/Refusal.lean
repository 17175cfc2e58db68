import HostnameSandbox.Proofs.Namespaces.Guard

/-!
# Guards that end the program

A process that has been created without a namespace of its own stays in that of its parent, as long
as the parent lives.  So its guard reads the same link twice, and the program tells about that and
exits.
-/

namespace HostnameSandbox

namespace Guard

/-- For a process that is in the same namespace as its parent. -/
def Outlook.beside (parent : Pid) (number : Nat) : Outlook where
  own := Kernel.namespaceName number
  parents other := other = parent
  others link := link = Kernel.namespaceName number

/-- How the program that plays its inner stage tells about a failure and comes to its end. -/
def tells (text : Bytes) : Process UInt8 :=
  .call (.write Descriptor.error text) fun _ => .done 125

/-- A process is the child of another one, in the same namespace. -/
structure Beside (launcher child : Pid) (number : Nat) (kernel : Kernel) : Prop
    extends kernel.Parents launcher child where
  seat : ∀ task ∈ kernel.tasks, task.pid = child → task.uts = number
  parentSeat : ∀ task ∈ kernel.tasks, task.pid = launcher → task.uts = number
  lives : kernel.isAlive launcher

section Beside

variable {launcher child : Pid} {number made quiet : Nat} {before after first last : Kernel}
  {task found : Task} {move : Move} {trace : List Move}

theorem Beside.next (beside : Beside launcher child number before)
    (moves : Kernel.Moves before move after) (lives : after.isAlive launcher) :
    Beside launcher child number after where
  toParents := beside.toParents.next moves lives
  seat := moves.seat beside.childKnown beside.seat
  parentSeat := moves.seat beside.known beside.parentSeat
  lives := lives

theorem Beside.shows (beside : Beside launcher child number before) (member : task ∈ before.tasks)
    (is : task.pid = child) : (Outlook.beside launcher number).Shows task before where
  own {link} told := by
    obtain ⟨seat, inside, rfl⟩ := Kernel.space?_of_namespaceOf told
    rw [beside.coherent.space?_eq member] at inside
    rw [← Option.some.inj inside, beside.seat task member is]
    rfl
  parent := beside.parent task member is
  other {parent link} isParent told := by
    obtain ⟨seat, inside, rfl⟩ := Kernel.space?_of_namespaceOf told
    obtain ⟨other, isOther, same, -⟩ := Kernel.isAlive_iff.1 beside.lives
    rw [show parent = launcher from isParent, ← same, beside.coherent.space?_eq isOther] at inside
    rw [← Option.some.inj inside, beside.parentSeat other isOther same]
    rfl

/-- How the program goes on after its guard has read the same link twice. -/
def refusal (command : Command) (launcher : Pid) (number : Nat) : Process UInt8 :=
  InnerStage.standard.afterGuard command
    (.error (.namespaceSetup (.shared (Kernel.namespaceName number) launcher)))

/-- How a process stands whose guard ends it, after so many moves, and so many of them that were no
writes. -/
inductive Refused (command : Command) (launcher child : Pid) (number : Nat) (kernel : Kernel) :
    Nat → Nat → Process UInt8 → Prop
  | guards {made : Nat} {process : Process UInt8} (early : made < closing)
      (stands : Stands (InnerStage.standard.afterGuard command) (.beside launcher number) child made
        process) : Refused command launcher child number kernel made made process
  | tells {made : Nat} (late : closing ≤ made) :
      Refused command launcher child number kernel made closing (refusal command launcher number)
  | exits {made : Nat} (late : closing < made) :
      Refused command launcher child number kernel made closing (.done 125)
  | ended {made : Nat} (late : closing < made) (gone : ¬ kernel.isAlive child) :
      Refused command launcher child number kernel made (closing + 1) (.done 125)

namespace Refused

variable {command : Command} {process : Process UInt8}

/-- What others do leaves a process where it stands. -/
theorem other (refused : Refused command launcher child number before made quiet process)
    (moves : Kernel.Moves before move after) (known : child < before.nextPid) :
    Refused command launcher child number after made quiet process := by
  cases refused with
  | guards early stands => exact .guards early stands
  | tells late => exact .tells late
  | exits late => exact .exits late
  | ended late gone => exact .ended late fun lives => gone (moves.alive known lives)

/-- A process that has told about the failure and exits is gone. -/
theorem exited (coherent : before.Coherent) (member : task ∈ before.tasks)
    (moves : Kernel.Moves before move after) (mine : move.mover? = some task.pid)
    (came : task.process = .done 125) : ¬ after.isAlive task.pid ∧
      ∀ found ∈ after.tasks, found.pid = task.pid → found.process = .done 125 := by
  rcases moves.acts_or_fails coherent member mine with acts | ⟨exchange, next, step, -, -⟩
  · cases acts with
    | ends =>
        refine ⟨Kernel.not_isAlive_finish _ _ _, fun found isFound same => ?_⟩
        rw [coherent.process_eq (fun _ => ?_) member isFound same, came]
        exact (Kernel.steady_atTimeOf before task).trans (Kernel.steady_finish _ task.pid _)
    | turns loops => cases came.symm.trans loops
    | forks splits => cases came.symm.trans splits
    | tries calls => cases came.symm.trans calls
    | makes calls => cases came.symm.trans calls
  · rw [came] at step
    cases step

/-- A process that tells about the failure has told it, or is still about to. -/
theorem told {text : Bytes} (coherent : before.Coherent) (member : task ∈ before.tasks)
    (moves : Kernel.Moves before move after) (mine : move.mover? = some task.pid)
    (calls : task.process = Guard.tells text) (isFound : found ∈ after.tasks)
    (same : found.pid = task.pid) :
    found.process = Guard.tells text ∨ found.process = .done 125 := by
  cases moves.calls coherent member mine calls with
  | answered answered is =>
      subst is
      exact .inr (Kernel.process_goOn isFound same)
  | again again =>
      refine .inl ?_
      rw [coherent.process_eq (fun _ => ?_) member isFound same, calls]
      have settles {mover : Pid} :
          (before.atTimeOf task).Settles mover (fun _ => False) after :=
        Kernel.settles_of_write_again again
      exact (Kernel.steady_atTimeOf before task).trans settles.steady
  | fails fails is =>
      subst is
      exact .inr (Kernel.process_goOn isFound same)

/-- By a move of its own, a process comes closer to its end. -/
theorem own (beside : Beside launcher task.pid number before)
    (refused : Refused command launcher task.pid number before made quiet task.process)
    (member : task ∈ before.tasks) (moves : Kernel.Moves before move after)
    (mine : move.mover? = some task.pid) (readable : move.Reads task.pid)
    (isFound : found ∈ after.tasks) (same : found.pid = task.pid) :
    Refused command launcher task.pid number after (made + 1)
      (if task.isWriting then quiet else quiet + 1) found.process := by
  have coherent := beside.coherent
  generalize calls : task.process = process at refused
  cases refused with
  | guards early stands =>
      obtain ⟨request, next, asks, preliminary⟩ := stands.exists_call early
      have unwritten : task.isWriting = false := by
        rw [Task.isWriting, calls, asks]
        cases request <;> first | rfl | cases preliminary
      rw [unwritten, if_neg nofun]
      subst calls
      have further := stands.next early coherent member (beside.shows member rfl) moves mine
        readable isFound same
      rcases Nat.lt_or_eq_of_le early with before | last
      · exact .guards before further
      · rw [show made + 1 = closing from last] at further ⊢
        obtain ⟨parent, other, rfl, rfl, goesOn⟩ := further.of_closing
        have same : verdict (Outlook.beside parent number).own parent (Kernel.namespaceName number) =
            .error (.namespaceSetup (.shared (Kernel.namespaceName number) parent)) := if_pos rfl
        rw [goesOn, same]
        exact .tells (Nat.le_refl _)
  | tells late =>
      have writes : task.isWriting = true := by
        rw [Task.isWriting, calls]
        rfl
      rw [if_pos writes]
      rcases told coherent member moves mine calls isFound same with still | done
      · exact still ▸ .tells (Nat.le_succ_of_le late)
      · exact done ▸ .exits (Nat.lt_succ_of_le late)
  | exits late =>
      obtain ⟨gone, done⟩ := exited coherent member moves mine calls
      have unwritten : task.isWriting = false := by
        rw [Task.isWriting, calls]
      rw [unwritten, if_neg nofun, done found isFound same]
      exact .ended (Nat.lt_succ_of_lt late) gone
  | ended late gone =>
      have alive := moves.isAlive_mover coherent member mine
      exact absurd (Kernel.isAlive_iff.2 ⟨task, member, rfl, alive⟩) gone

/-- After its first calls, a process begins its guard. -/
theorem begins_of_opening
    (refused : Refused command launcher child number before opening quiet process) :
    process = ensureFreshNamespace.run >>= InnerStage.standard.afterGuard command := by
  cases refused with
  | guards early stands => exact stands.begins_of_opening
  | tells late => exact absurd late (by decide)
  | exits late => exact absurd late (by decide)
  | ended late gone => exact absurd late (by decide)

/-- After its last call, a guard has come to its verdict. -/
theorem eq_of_closing
    (refused : Refused command launcher child number before closing quiet process) :
    process = refusal command launcher number := by
  cases refused with
  | guards early stands => exact absurd early (Nat.lt_irrefl _)
  | tells late => rfl
  | exits late => exact absurd late (Nat.lt_irrefl _)
  | ended late gone => exact absurd late (Nat.lt_irrefl _)

/-- What a process does whose guard ends it: it learns and prepares, tells about the failure, and
exits. -/
theorem kinds (refused : Refused command launcher child number before made quiet process) :
    process = .done 125 ∨ ∃ request next, process = .call request next ∧
      (request.IsPreliminary ∨ ∃ text, request = .write Descriptor.error text) := by
  cases refused with
  | guards early stands =>
      obtain ⟨request, next, asks, preliminary⟩ := stands.exists_call early
      exact .inr ⟨request, next, asks, .inl preliminary⟩
  | tells late => exact .inr ⟨_, _, rfl, .inr ⟨_, rfl⟩⟩
  | exits late => exact .inl rfl
  | ended late gone => exact .inl rfl

/-- A process whose guard ends it exits with 125. -/
theorem code_eq {code : UInt8}
    (refused : Refused command launcher task.pid number before made quiet task.process)
    (may : task.MayLose before (.exited task.pid code)) : code = 125 := by
  rcases may with ⟨value, came, same⟩ | ⟨request, next, asks, loses⟩
  · rcases refused.kinds with is | ⟨_, _, calls, -⟩
    · cases is.symm.trans came
      cases same
      rfl
    · cases calls.symm.trans came
  · rcases refused.kinds with is | ⟨_, _, calls, preliminary | ⟨text, rfl⟩⟩
    · cases is.symm.trans asks
    · cases calls.symm.trans asks
      cases request with
      | exit value => cases preliminary
      | _ => exact loses.elim
    · cases calls.symm.trans asks
      exact loses.elim

theorem not_mayBear {fresh : Bool}
    (refused : Refused command launcher task.pid number before made quiet task.process) :
    ¬ task.MayBear fresh := by
  rcases refused.kinds with is | ⟨request, next, calls, preliminary | ⟨text, rfl⟩⟩
  · rintro (⟨spawning, next, spawns, -⟩ | ⟨-, next, forks⟩)
    · cases is.symm.trans spawns
    · cases is.symm.trans forks
  · exact Task.not_mayBear_of_call calls fun spawning same => by
      subst same
      cases preliminary
  · exact Task.not_mayBear_of_call calls fun spawning => nofun

/-- A process whose guard ends it changes a name only by what it writes. -/
theorem of_mayRename
    (refused : Refused command launcher task.pid number before made quiet task.process)
    (may : task.MayRename before) : ∃ descriptor bytes next,
      task.process = .call (.write descriptor bytes) next ∧
        (Call.write descriptor bytes).Renames before task := by
  obtain ⟨request, next, asks, renames⟩ := may
  rcases refused.kinds with is | ⟨_, _, calls, preliminary | ⟨text, rfl⟩⟩
  · cases is.symm.trans asks
  · cases calls.symm.trans asks
    cases request <;> first | exact renames.elim | cases preliminary
  · cases calls.symm.trans asks
    exact ⟨_, _, _, asks, renames⟩

/-- A process whose guard ends it may act for as long as it lives, unless it is about to write. -/
theorem mayAct (refused : Refused command launcher task.pid number before made quiet task.process)
    (coherent : before.Coherent) (member : task ∈ before.tasks) (alive : task.isAlive)
    (unwritten : task.isWriting = false) : before.mayAct task.pid := by
  rcases refused.kinds with is | ⟨request, next, calls, preliminary | ⟨text, rfl⟩⟩
  · refine Kernel.mayAct_of_stepOther? coherent member alive ?_
    rw [Kernel.stepOther?, is]
    exact Option.some_ne_none _
  · exact Kernel.mayAct_of_call coherent member alive calls (Kernel.attempt_ne_blocked preliminary)
  · rw [Task.isWriting, calls] at unwritten
    cases unwritten

theorem quiet_le (refused : Refused command launcher child number before made quiet process)
    (lives : before.isAlive child) : quiet ≤ closing := by
  cases refused with
  | guards early stands => exact Nat.le_of_lt early
  | tells late => exact Nat.le_refl _
  | exits late => exact Nat.le_refl _
  | ended late gone => exact absurd lives gone

end Refused

/-- A process that shares the namespace of its parent: how far its guard has come to end it, and how
it may have ended. -/
structure Refuses (command : Command) (launcher child : Pid) (number made quiet : Nat)
    (kernel : Kernel) : Prop extends Beside launcher child number kernel where
  stands : ∀ task ∈ kernel.tasks, task.pid = child →
    Refused command launcher child number kernel made quiet task.process
  ending : ∀ task ∈ kernel.tasks, task.pid = child → ∀ status, task.ending = some status →
    status = .exited 125 ∨ ∃ signal, status = .killed signal
  brief : quiet ≤ closing + 1

namespace Refuses

variable {command : Command}

theorem next (refuses : Refuses command launcher child number made quiet before)
    (moves : Kernel.Moves before move after) (lives : after.isAlive launcher)
    (readable : move.Reads child) :
    Refuses command launcher child number (made + if move.mover? = some child then 1 else 0)
      (quiet + if move.isCallOf child then 1 else 0) after where
  toBeside := refuses.toBeside.next moves lives
  stands := by
    by_cases mine : move.mover? = some child
    · obtain ⟨task, member, rfl⟩ := moves.exists_mover mine
      intro found isFound same
      have own := (refuses.stands task member rfl).own refuses.toBeside member moves mine readable
        isFound same
      rw [if_pos mine, moves.isCallOf_own refuses.coherent member mine]
      cases writing : task.isWriting with
      | false => simpa [writing] using own
      | true => simpa [writing] using own
    · have resting : move.isCallOf child = false := by simp [Move.isCallOf, mine]
      rw [if_neg mine, resting]
      intro found isFound same
      exact (moves.idle (Refused command launcher child number before made quiet) refuses.childKnown
        mine refuses.stands found isFound same).other moves refuses.childKnown
  ending task member is status ended := by
    subst is
    obtain ⟨earlier, isEarlier, remains⟩ := moves.remains member refuses.childKnown
    have same : earlier.pid = task.pid := remains.pid.symm
    rcases remains.ending with unchanged | ⟨signal, killed⟩ | ⟨code, may, exited⟩
    · exact refuses.ending earlier isEarlier same status (unchanged.symm.trans ended)
    · exact .inr ⟨signal, Option.some.inj (ended.symm.trans killed)⟩
    · refine .inl ((Option.some.inj (ended.symm.trans exited)).trans ?_)
      obtain ⟨other, isOther, -, loses⟩ := may
      rw [moves.before_eq] at isOther loses
      have own : other.pid = task.pid := by
        rcases loses with ⟨value, -, is⟩ | ⟨request, next, -, loses⟩
        · exact (Loss.exited.inj is).1.symm
        · cases request with
          | exit value => exact loses.1.symm
          | _ => exact loses.elim
      rw [← own] at loses refuses
      rw [(refuses.stands other isOther rfl).code_eq loses]
  brief := by
    by_cases mine : move.mover? = some child
    · obtain ⟨task, member, rfl⟩ := moves.exists_mover mine
      have alive := moves.isAlive_mover refuses.coherent member mine
      have early := (refuses.stands task member rfl).quiet_le
        (Kernel.isAlive_iff.2 ⟨task, member, rfl, alive⟩)
      split <;> omega
    · have resting : move.isCallOf child = false := by simp [Move.isCallOf, mine]
      rw [resting]
      exact refuses.brief

theorem of_run (refuses : Refuses command launcher child number 0 0 first)
    (run : Run Kernel.Moves first trace last) (lives : last.isAlive launcher)
    (readable : ∀ move ∈ trace, move.Reads child) :
    Refuses command launcher child number (movesOf child trace) (callsOf child trace) last := by
  induction run with
  | start => exact refuses
  | @next trace move between last run moves hypothesis =>
      have known := Int.lt_of_lt_of_le refuses.known (Kernel.grows_of_run run).2
      have before := hypothesis (moves.alive known lives)
        fun other member => readable other (List.mem_append_left _ member)
      rw [movesOf_concat, callsOf_concat]
      exact before.next moves lives
        (readable move (List.mem_append_right _ (List.mem_singleton_self _)))

end Refuses

end Beside

end Guard

end HostnameSandbox

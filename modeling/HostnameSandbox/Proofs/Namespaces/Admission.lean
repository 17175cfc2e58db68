import HostnameSandbox.Proofs.Namespaces.Guard

/-!
# Guards that let the program go on

A process that has just been created in a namespace of its own is alone there until it creates a
child, and whoever its parent is, that is another process.  So its guard reads two different links.
-/

namespace HostnameSandbox

namespace Guard

/-- For a process that is alone in a namespace, and not its own parent. -/
def Outlook.apart (pid : Pid) (number : Nat) : Outlook where
  own := Kernel.namespaceName number
  parents parent := parent ≠ pid
  others link := link ≠ Kernel.namespaceName number

/-- A process is alone in a namespace, and not its own parent. -/
structure Apart (pid : Pid) (number : Nat) (kernel : Kernel) : Prop where
  coherent : kernel.Coherent
  known : pid < kernel.nextPid
  room : number < kernel.names.length
  seat : ∀ task ∈ kernel.tasks, task.pid = pid → task.uts = number
  alone : ∀ member ∈ kernel.members, member.2 = number → member.1 = pid
  parent : ∀ task ∈ kernel.tasks, task.pid = pid → task.parent ≠ pid

section Apart

variable {pid : Pid} {number made : Nat} {before after first last : Kernel} {task child : Task}
  {move : Move} {trace : List Move}

theorem Apart.shows (apart : Apart pid number before) (member : task ∈ before.tasks)
    (is : task.pid = pid) : (Outlook.apart pid number).Shows task before where
  own {link} told := by
    obtain ⟨seat, inside, rfl⟩ := Kernel.space?_of_namespaceOf told
    rw [apart.coherent.space?_eq member] at inside
    rw [← Option.some.inj inside, apart.seat task member is]
    rfl
  parent := apart.parent task member is
  other {parent link} other told same := by
    obtain ⟨seat, inside, rfl⟩ := Kernel.space?_of_namespaceOf told
    obtain ⟨member, found, rfl⟩ := Option.map_eq_some_iff.1 inside
    have isParent : member.1 = parent := by simpa using List.find?_some found
    exact other (isParent.symm.trans (apart.alone member (List.mem_of_find?_eq_some found)
      (Kernel.namespaceName_injective same)))

theorem Apart.next (apart : Apart pid number before) (foreign : pid ≠ 1)
    (moves : Kernel.Moves before move after)
    (childless : move.mover? = some pid → ∀ task ∈ before.tasks, task.pid = pid →
      ¬ task.MayBear false) : Apart pid number after where
  coherent := moves.coherent apart.coherent
  known := Int.lt_of_lt_of_le apart.known moves.grows.2
  room := Nat.lt_of_lt_of_le apart.room moves.grows.1
  seat := moves.seat apart.known apart.seat
  alone := moves.alone apart.room apart.alone childless
  parent task member is := by
    obtain ⟨earlier, isEarlier, remains⟩ := moves.remains member (is ▸ apart.known)
    have was := apart.parent earlier isEarlier (remains.pid.symm.trans is)
    rcases remains.parent with same | ⟨-, adopted⟩
    · exact same ▸ was
    · exact adopted ▸ foreign.symm

/-- A process that has just been created in a namespace of its own is apart. -/
theorem Apart.of_newborn (coherent : before.Coherent) (moves : Kernel.Moves before move after)
    (member : task ∈ before.tasks) (isChild : child ∈ after.tasks)
    (newborn : Kernel.Newborn true task before after child) :
    Apart child.pid before.names.length after where
  coherent := moves.coherent coherent
  known := (moves.coherent coherent).known child isChild
  room := newborn.names rfl
  seat other isOther is := (moves.coherent coherent).eq_of_pid isOther isChild is ▸ newborn.uts
  alone other isOther is := by
    rcases moves.members other isOther with
      isOld | ⟨_, -, fresh, found, -, -, alsoNewborn, rfl⟩
    · exact absurd is (Nat.ne_of_lt (coherent.housed other isOld))
    · exact alsoNewborn.pid.trans newborn.pid.symm
  parent other isOther is := by
    rw [(moves.coherent coherent).eq_of_pid isOther isChild is, newborn.parent]
    exact (newborn.pid_ne (coherent.known task member)).symm

/-- How far a guard has come in a namespace of its own after so many moves. -/
structure Admitted (rest : Except Failure Unit → Process UInt8) (pid : Pid) (number made : Nat)
    (kernel : Kernel) : Prop extends Apart pid number kernel where
  stands : ∀ task ∈ kernel.tasks, task.pid = pid →
    Stands rest (.apart pid number) pid made task.process

namespace Admitted

variable {rest : Except Failure Unit → Process UInt8}

theorem next (admitted : Admitted rest pid number made before) (foreign : pid ≠ 1)
    (moves : Kernel.Moves before move after)
    (early : move.mover? = some pid → made < closing) (readable : move.Reads pid) :
    Admitted rest pid number (made + if move.mover? = some pid then 1 else 0) after := by
  by_cases own : move.mover? = some pid
  · obtain ⟨task, member, rfl⟩ := moves.exists_mover own
    have stands := admitted.stands task member rfl
    refine ⟨admitted.toApart.next foreign moves fun _ other isOther is may => ?_,
      fun found isFound same => ?_⟩
    · -- who is about to make such a call creates no child
      obtain ⟨request, next, calls, preliminary⟩ := stands.exists_call (early own)
      rw [admitted.coherent.eq_of_pid isOther member is] at may
      refine Task.not_mayBear_of_call calls (fun spawning same => ?_) may
      subst same
      cases preliminary
    · rw [if_pos own]
      exact stands.next (early own) admitted.coherent member (admitted.shows member rfl) moves own
        readable isFound same
  · rw [if_neg own]
    exact ⟨admitted.toApart.next foreign moves fun made => absurd made own,
      moves.idle (Stands rest (.apart pid number) pid made) admitted.known own admitted.stands⟩

theorem of_run (run : Run Kernel.Moves first trace last) (foreign : pid ≠ 1)
    (admitted : Admitted rest pid number 0 first) (readable : ∀ move ∈ trace, move.Reads pid)
    (early : movesOf pid trace ≤ closing) : Admitted rest pid number (movesOf pid trace) last := by
  induction run with
  | start => exact admitted
  | @next trace move between last run moves hypothesis =>
      rw [movesOf_concat] at early ⊢
      have before := hypothesis (fun other member => readable other (List.mem_append_left _ member))
        (Nat.le_of_add_right_le early)
      refine before.next foreign moves (fun made => ?_)
        (readable move (List.mem_append_right _ (List.mem_singleton_self _)))
      rw [if_pos made] at early
      exact early

/-- Until the verdict, a process that lives may act. -/
theorem mayAct (admitted : Admitted rest pid number made before) (early : made < closing)
    (lives : before.isAlive pid) : before.mayAct pid := by
  obtain ⟨task, member, rfl, alive⟩ := Kernel.isAlive_iff.1 lives
  obtain ⟨request, next, calls, preliminary⟩ := (admitted.stands task member rfl).exists_call early
  exact Kernel.mayAct_of_call admitted.coherent member alive calls
    (Kernel.attempt_ne_blocked preliminary)

/-- The guard of a process that is apart lets it go on. -/
theorem passes (admitted : Admitted rest pid number closing before) (member : task ∈ before.tasks)
    (is : task.pid = pid) : task.process = rest (.ok ()) := by
  obtain ⟨parent, other, -, distinct, goesOn⟩ := (admitted.stands task member is).of_closing
  rw [goesOn, verdict, if_neg fun same => distinct same.symm]

end Admitted

end Apart

end Guard

end HostnameSandbox

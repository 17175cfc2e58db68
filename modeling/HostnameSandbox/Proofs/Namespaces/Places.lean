import HostnameSandbox.Proofs.Namespaces.Change

/-!
# Where processes are

The namespace that a process is in, the host name that it sees there, and its parent.  What a
process asks about itself and how it prepares for signals leaves all of that as it is.
-/

namespace HostnameSandbox

namespace Kernel

variable {kernel before after : Kernel} {task : Task} {pid : Pid} {request : Call}

/-- The namespace that a process is in. -/
def space? (kernel : Kernel) (pid : Pid) : Option Nat :=
  (kernel.members.find? fun member => member.1 = pid).map Prod.snd

/-- The host name of a namespace. -/
def nameOf? (kernel : Kernel) (number : Nat) : Option Bytes :=
  (kernel.names[number]?).map Names.host

/-- The host name that a process sees. -/
def hostname? (kernel : Kernel) (pid : Pid) : Option Bytes :=
  (kernel.space? pid).bind kernel.nameOf?

def parent? (kernel : Kernel) (pid : Pid) : Option Pid :=
  (kernel.task? pid).map Task.parent

theorem mem_members (member : task ∈ kernel.tasks) : (task.pid, task.uts) ∈ kernel.members :=
  List.mem_append_left _ (List.mem_map_of_mem (f := fun task : Task => (task.pid, task.uts)) member)

theorem space?_of_task? (found : kernel.task? pid = some task) :
    kernel.space? pid = some task.uts := by
  have member : (kernel.tasks.map fun task => (task.pid, task.uts)).find?
      (fun member => decide (member.1 = pid)) = some (task.pid, task.uts) := by
    rw [List.find?_map]
    exact congrArg (Option.map fun task : Task => (task.pid, task.uts)) found
  simp [space?, members, List.find?_append, member]

theorem parent?_of_task? (found : kernel.task? pid = some task) :
    kernel.parent? pid = some task.parent := by
  simp [parent?, found]

/-- The name of a namespace that is told is that of the namespace that the process is in. -/
theorem space?_of_namespaceOf {name : String} (told : kernel.namespaceOf pid = .ok name) :
    ∃ number, kernel.space? pid = some number ∧ name = namespaceName number := by
  unfold namespaceOf at told
  split at told
  · cases told
  · next member found =>
      split at told
      · cases told
      · exact ⟨member.2, by simp [space?, found], (Except.ok.inj told).symm⟩

/-- Different namespaces have different names. -/
theorem namespaceName_injective : Function.Injective namespaceName := by
  intro one other same
  have read (number : Nat) : Nat.ofDigitChars 10 (toString number).toList 0 = number := by
    rw [Nat.toString_eq_ofList_toDigits, String.toList_ofList, Nat.ofDigitChars_ten_toDigits]
  have texts := (String.append_right_inj _).1 ((String.append_left_inj _).1 same)
  have sums := (read (4026531838 + one)).symm.trans (texts ▸ read (4026531838 + other))
  exact Nat.add_left_cancel sums

/-- Every process is there as before, with the same parent and in the same namespace. -/
structure SameSeats (before after : Kernel) : Prop where
  tasks : after.tasks.map (fun task => (task.pid, task.parent, task.uts)) =
    before.tasks.map fun task => (task.pid, task.parent, task.uts)
  bystanders : after.bystanders = before.bystanders

theorem SameCompany.sameSeats (same : before.SameCompany after) : before.SameSeats after :=
  ⟨by rw [same.tasks], same.bystanders⟩

theorem SameSeats.members_eq (same : before.SameSeats after) : after.members = before.members := by
  have pairs := congrArg (List.map fun seat : Pid × Pid × Nat => (seat.1, seat.2.2)) same.tasks
  simp only [List.map_map] at pairs
  rw [Kernel.members, Kernel.members, same.bystanders]
  exact congrArg (· ++ before.bystanders) pairs

theorem SameSeats.space?_eq (same : before.SameSeats after) (pid : Pid) :
    after.space? pid = before.space? pid := by
  rw [space?, space?, same.members_eq]

theorem SameSeats.parent?_eq (same : before.SameSeats after) (pid : Pid) :
    after.parent? pid = before.parent? pid := by
  have found (kernel : Kernel) : kernel.parent? pid =
      ((kernel.tasks.map fun task => (task.pid, task.parent, task.uts)).find?
        fun seat => decide (seat.1 = pid)).map fun seat => seat.2.1 := by
    rw [List.find?_map, Option.map_map]
    rfl
  rw [found, found, same.tasks]

theorem nameOf?_congr (names : after.names = before.names) : after.nameOf? = before.nameOf? := by
  funext number
  rw [nameOf?, nameOf?, names]

/-- The host name that a process sees depends on where it is and on the names. -/
theorem SameSeats.hostname?_eq (same : before.SameSeats after) (names : after.names = before.names)
    (pid : Pid) : after.hostname? pid = before.hostname? pid := by
  rw [hostname?, hostname?, same.space?_eq, nameOf?_congr names]

theorem sameSeats_modify {change : Task → Task} (pid : Pid)
    (same : ∀ task, ((change task).pid, (change task).parent, (change task).uts) =
      (task.pid, task.parent, task.uts))
    (kernel : Kernel) : kernel.SameSeats (kernel.modify pid change) := by
  refine ⟨?_, rfl⟩
  simp only [modify, List.map_map]
  refine List.map_congr_left fun task _ => ?_
  simp only [Function.comp]
  split
  · exact same task
  · rfl

end Kernel

/-- A call by which a process tells what it does, learns where it is, or prepares for signals. -/
def Call.IsPreliminary : Call → Bool
  | .report _ | .openLog _ | .ownPid | .parentPid | .namespaceOf _ | .react _ _ => true
  | _ => false

namespace Kernel

variable {kernel before after : Kernel} {task : Task} {pid : Pid} {request : Call}

theorem attempt_preliminary {reply : request.Reply} (preliminary : request.IsPreliminary)
    (answered : kernel.attempt task request = .answered reply after) :
    kernel.SameSeats after ∧ after.names = kernel.names := by
  have refl : kernel.SameSeats kernel ∧ kernel.names = kernel.names :=
    ⟨(SameCompany.refl kernel).sameSeats, rfl⟩
  cases request with
  | report event =>
      cases answered
      have same := sameCompany_log kernel task event
      exact ⟨same.sameSeats, same.names⟩
  | openLog filter =>
      cases answered
      refine ⟨sameSeats_modify task.pid ?_ kernel, rfl⟩
      exact fun _ => rfl
  | ownPid =>
      cases answered
      exact refl
  | parentPid =>
      cases answered
      exact refl
  | namespaceOf pid =>
      cases answered
      exact refl
  | react signal reaction =>
      cases answered
      refine ⟨sameSeats_modify task.pid (fun other => ?_) kernel, rfl⟩
      simp only [Task.react]
      split <;> rfl
  | _ => cases preliminary

/-- A process that gives its namespace a name sees that name, as do all who are there. -/
theorem attempt_setHostname {name : Bytes}
    (named : kernel.attempt task (.setHostname name) = .answered (.ok ()) after) :
    kernel.SameSeats after ∧
      after.names = kernel.names.set task.uts { kernel.namesFor task with host := name } := by
  simp only [attempt] at named
  split at named
  · next renamed =>
      cases named
      rw [rename_eq_ok renamed]
      exact ⟨⟨rfl, rfl⟩, rfl⟩
  · cases named

/-- After a process has given its namespace a name, it sees that name. -/
theorem hostname?_of_setHostname {name : Bytes} (found : kernel.task? pid = some task)
    (housed : (kernel.hostname? pid).isSome)
    (named : kernel.attempt task (.setHostname name) = .answered (.ok ()) after) :
    after.hostname? pid = some name := by
  obtain ⟨seats, names⟩ := attempt_setHostname named
  have inside : task.uts < kernel.names.length := by
    rw [hostname?, space?_of_task? found, Option.bind_some, nameOf?, Option.isSome_map] at housed
    exact (List.getElem?_eq_some_iff.1 (Option.eq_some_of_isSome housed)).1
  rw [hostname?, seats.space?_eq, space?_of_task? found, Option.bind_some, nameOf?, names,
    List.getElem?_set_self inside]
  rfl

theorem attempt_setHostname_error {name : Bytes} {errno : Errno}
    (refused : kernel.attempt task (.setHostname name) = .answered (.error errno) after) :
    after = kernel := by
  simp only [attempt] at refused
  split at refused
  · cases refused
  · cases refused
    rfl

end Kernel

end HostnameSandbox

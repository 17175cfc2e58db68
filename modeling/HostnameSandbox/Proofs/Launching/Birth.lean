import HostnameSandbox.Proofs.Namespaces.Change

/-!
# The birth of a child

What a host makes of the request for a child once it has loaded the program: the child, and the
kernel that has it.
-/

namespace HostnameSandbox

namespace Kernel

/-- The number of the namespace of a child, and the namespaces that there are then. -/
def spaceFor (kernel : Kernel) (task : Task) (spawning : Spawning) : Nat × List Names :=
  if spawning.isolation.uts then
    (kernel.names.length, kernel.names ++ [kernel.namesFor task])
  else (task.uts, kernel.names)

/-- A child before it runs anything. -/
def newborn (kernel : Kernel) (task : Task) (spawning : Spawning) : Task :=
  let files := kernel.childFiles task spawning.streams
  { task with
    pid := files.2.nextPid
    parent := task.pid
    uts := (files.2.spaceFor task spawning).1
    opened := files.1
    reactions := spawning.reactions ++ task.survivingReactions.filter fun entry =>
      !spawning.reactions.any fun other => other.1 = entry.1
    waiting := [] }

/-- A child that runs what was loaded. -/
def childOf (kernel : Kernel) (task : Task) (spawning : Spawning) (loaded : Loaded) : Task :=
  (kernel.childFiles task spawning.streams).2.starting (kernel.newborn task spawning)
    task.environment loaded

/-- The kernel after a process has created a child that runs what was loaded. -/
def born (kernel : Kernel) (task : Task) (spawning : Spawning) (loaded : Loaded) : Kernel :=
  let files := kernel.childFiles task spawning.streams
  { files.2 with
    names := (files.2.spaceFor task spawning).2
    nextPid := files.2.nextPid + 1
    tasks := files.2.tasks ++ [kernel.childOf task spawning loaded] }

theorem nextPid_childFiles (kernel : Kernel) (task : Task) (streams : Streams) :
    (kernel.childFiles task streams).2.nextPid = kernel.nextPid :=
  (sameCompany_childFiles kernel task streams).nextPid

theorem spawn_eq (kernel : Kernel) (task : Task) (spawning : Spawning) :
    kernel.spawn task spawning =
      if (spawning.path :: spawning.args).any fun word => word.contains 0 then
        (.error .nulByte, kernel)
      else
        match kernel.loadChild task spawning with
        | .error errno => (.error (.numbered errno), kernel)
        | .ok loaded => (.ok kernel.nextPid, kernel.born task spawning loaded) := by
  unfold spawn
  split
  · rfl
  · cases kernel.loadChild task spawning with
    | error errno => rfl
    | ok loaded =>
        rw [← nextPid_childFiles kernel task spawning.streams]
        unfold born childOf newborn spaceFor
        dsimp only
        split <;> rfl

end Kernel

end HostnameSandbox

import HostnameSandbox.Proofs.Namespaces.Following
import HostnameSandbox.Proofs.Namespaces.Knowledge

/-!
# A sheltered namespace

A process that prepares a namespace which was created for it is alone there until it asks for its
child.  So whatever others do, the host name that it has given the namespace is still there when
the child begins.
-/

namespace HostnameSandbox

namespace Preparation

variable {plan : Plan} {speaks : Bool} {state : Preparation} {exchange : Exchange} {name : Bytes}

/-- A host name is only given by the call to do so. -/
theorem named_after (named : ⟨.setHostname name, .ok ()⟩ ∈ (state.after exchange).effects) :
    ⟨.setHostname name, .ok ()⟩ ∈ state.effects ∨ exchange = ⟨.setHostname name, .ok ()⟩ := by
  obtain ⟨request, reply⟩ := exchange
  have add (exchange : Exchange)
      (named : ⟨.setHostname name, .ok ()⟩ ∈ state.effects ++ [exchange]) :
      ⟨.setHostname name, .ok ()⟩ ∈ state.effects ∨ exchange = ⟨.setHostname name, .ok ()⟩ := by
    rcases List.mem_append.1 named with before | now
    · exact .inl before
    · exact .inr (List.mem_singleton.1 now).symm
  cases request with
  | ownPid => exact .inl named
  | parentPid => exact .inl named
  | write descriptor bytes => exact .inl named
  | report event => exact .inl named
  | react signal reaction => exact .inl named
  | select child signals => exact .inl named
  | send child signal => exact .inl named
  | openLog filter => exact .inl named
  | _ => exact add _ named

theorem steadfast (plan : Plan) (speaks : Bool) : (preparation plan speaks).Steadfast := by
  refine fun state => ⟨fun path words environment allowed => ?_, fun code allowed => ?_⟩
  · rcases next?_cases allowed.2.2 with ⟨other, is⟩ | ⟨is, -⟩ | ⟨is, -⟩ <;> cases is
  · rcases next?_cases allowed.2.2 with ⟨other, is⟩ | ⟨is, -⟩ | ⟨is, -⟩ <;> cases is

/-- A process asks for its child after it has given its namespace the name, and before it has told
about a failure. -/
theorem Allows.of_spawn {spawning : Spawning} (allowed : state.Allows plan speaks (.spawn spawning))
    (orderly : state.Orderly plan) : spawning = plan.target ∧ state.Early ∧
      ⟨.setHostname plan.name, .ok ()⟩ ∈ state.effects := by
  obtain ⟨silent, -, next⟩ := allowed
  rcases next?_cases next with ⟨_, is⟩ | ⟨is, -⟩ | ⟨is, three⟩
  · cases is
  · cases is
  · exact ⟨Call.spawn.inj is, ⟨by simp [three], silent⟩, orderly.named_of_next? next⟩

end Preparation

namespace Kernel

variable {before after : Kernel} {mover pid : Pid} {number : Nat} {plan : Plan}
  {state : Preparation} {move : Move}

theorem Steady.members (steady : before.Steady mover after) :
    ∀ member ∈ after.members, member ∈ before.members := by
  intro member isMember
  rw [Kernel.members, List.mem_append, steady.bystanders] at isMember
  rw [Kernel.members, List.mem_append]
  refine isMember.imp_left fun isTask => ?_
  obtain ⟨task, member, rfl⟩ := List.mem_map.1 isTask
  obtain ⟨earlier, isEarlier, continues⟩ := steady.tasks task member
  rw [continues.pid, continues.uts]
  exact List.mem_map_of_mem isEarlier

/-- A process prepares a namespace in which it is alone until it asks for its child. -/
structure Sheltered (plan : Plan) (pid : Pid) (number : Nat) (state : Preparation)
    (kernel : Kernel) : Prop where
  coherent : kernel.Coherent
  known : pid < kernel.nextPid
  room : number < kernel.names.length
  keeps : kernel.Keeps (preparation plan true) (fun _ _ => True) pid state
  orderly : state.Orderly plan
  seat : ∀ task ∈ kernel.tasks, task.pid = pid → task.uts = number
  alone : state.Early → ∀ member ∈ kernel.members, member.2 = number → member.1 = pid
  named : state.Early → ⟨.setHostname plan.name, .ok ()⟩ ∈ state.effects →
    kernel.nameOf? number = some plan.name

namespace Sheltered

/-- What another process does leaves the shelter as it is. -/
theorem other (sheltered : Sheltered plan pid number state before)
    (moves : Moves before move after) (other : move.mover? ≠ some pid)
    (keeps : after.Keeps (preparation plan true) (fun _ _ => True) pid state) :
    Sheltered plan pid number state after where
  coherent := moves.coherent sheltered.coherent
  known := Int.lt_of_lt_of_le sheltered.known moves.grows.2
  room := Nat.lt_of_lt_of_le sheltered.room moves.grows.1
  keeps := keeps
  orderly := sheltered.orderly
  seat := moves.seat sheltered.known sheltered.seat
  alone early := moves.alone sheltered.room (sheltered.alone early) fun made => absurd made other
  named early named := by
    rw [← sheltered.named early named, nameOf?, nameOf?]
    rcases moves.names sheltered.room with same | ⟨mover, isMover, made, is, -⟩
    · rw [same]
    · have is := sheltered.alone early _ (mem_members isMover) is.symm
      exact absurd (made.trans (congrArg some is)) other

/-- What the process does that keeps the host steady leaves the shelter as it is. -/
theorem steady {later : Preparation} (sheltered : Sheltered plan pid number state before)
    (moves : Moves before move after) (steady : before.Steady pid after)
    (keeps : after.Keeps (preparation plan true) (fun _ _ => True) pid later)
    (orderly : later.Orderly plan) (early : later.Early → state.Early)
    (named : ⟨.setHostname plan.name, .ok ()⟩ ∈ later.effects →
      ⟨.setHostname plan.name, .ok ()⟩ ∈ state.effects) :
    Sheltered plan pid number later after where
  coherent := moves.coherent sheltered.coherent
  known := Int.lt_of_lt_of_le sheltered.known moves.grows.2
  room := Nat.lt_of_lt_of_le sheltered.room moves.grows.1
  keeps := keeps
  orderly := orderly
  seat := moves.seat sheltered.known sheltered.seat
  alone isEarly member isMember :=
    sheltered.alone (early isEarly) member (steady.members member isMember)
  named isEarly isNamed := by
    rw [nameOf?_congr steady.names]
    exact sheltered.named (early isEarly) (named isNamed)

/-- A call that the process makes leaves it alone, or it has asked for its child or told about a
failure. -/
theorem makes {task : Task} {request : Call} {reply : request.Reply} {ready between : Kernel}
    (sheltered : Sheltered plan pid number state before) (moves : Moves before move after)
    (member : task ∈ before.tasks) (is : task.pid = pid)
    (allowed : state.Allows plan true request) (begins : before.Steady pid ready)
    (answered : ready.attempt task request = .answered reply between)
    (rest : between.Steady pid after)
    (keeps : after.Keeps (preparation plan true) (fun _ _ => True) pid
      (state.after ⟨request, reply⟩)) :
    Sheltered plan pid number (state.after ⟨request, reply⟩) after where
  coherent := moves.coherent sheltered.coherent
  known := Int.lt_of_lt_of_le sheltered.known moves.grows.2
  room := Nat.lt_of_lt_of_le sheltered.room moves.grows.1
  keeps := keeps
  orderly := sheltered.orderly.after allowed
  seat := moves.seat sheltered.known sheltered.seat
  alone early := by
    have seats : ready.SameSeats between := by
      rcases allowed.request_cases early with preliminary | named
      · exact (attempt_preliminary preliminary answered).1
      · cases named
        cases reply with
        | ok _ => exact (attempt_setHostname answered).1
        | error errno =>
            rw [attempt_setHostname_error answered]
            exact (SameCompany.refl ready).sameSeats
    intro member isMember
    have isReady : member ∈ ready.members := seats.members_eq ▸ rest.members member isMember
    exact sheltered.alone early.of_after member (begins.members member isReady)
  named early named := by
    rw [nameOf?_congr rest.names]
    have kept (before : ⟨.setHostname plan.name, .ok ()⟩ ∈ state.effects) :
        ready.nameOf? number = some plan.name := by
      rw [nameOf?_congr begins.names]
      exact sheltered.named early.of_after before
    rcases allowed.request_cases early with preliminary | isNaming
    · rw [nameOf?_congr (attempt_preliminary preliminary answered).2]
      rcases Preparation.named_after named with before | now
      · exact kept before
      · cases now
        cases preliminary
    · cases isNaming
      cases reply with
      | ok _ =>
          have room : task.uts < ready.names.length := by
            rw [begins.names, sheltered.seat task member is]
            exact sheltered.room
          rw [← sheltered.seat task member is, nameOf?, (attempt_setHostname answered).2,
            List.getElem?_set_self room]
          rfl
      | error errno =>
          rw [attempt_setHostname_error answered]
          rcases Preparation.named_after named with before | now
          · exact kept before
          · cases now

/-- Whatever move is made, the shelter stays. -/
theorem next (sheltered : Sheltered plan pid number state before)
    (moves : Moves before move after) :
    ∃ later, Sheltered plan pid number later after ∧ (later.Early → state.Early) := by
  rcases moves.follows (Preparation.steadfast plan true) sheltered.known sheltered.keeps with
    ⟨other, keeps⟩ | ⟨-, follows⟩
  · exact ⟨state, sheltered.other moves other keeps, id⟩
  · cases follows with
    | rests steady keeps =>
        exact ⟨state, sheltered.steady moves steady keeps sheltered.orderly id id, id⟩
    | @fails exchange allowed fails steady keeps =>
        refine ⟨state.after exchange, sheltered.steady moves steady keeps
          (sheltered.orderly.after allowed) Preparation.Early.of_after fun named => ?_,
          Preparation.Early.of_after⟩
        rcases Preparation.named_after named with before | rfl
        · exact before
        · exact fails.elim
    | makes member is allowed begins answered rest keeps =>
        exact ⟨_, sheltered.makes moves member is allowed begins answered rest keeps,
          Preparation.Early.of_after⟩

/-- As long as the process may ask for its child, it has been alone all the time. -/
theorem of_run {trace : List Move} (sheltered : Sheltered plan pid number state before)
    (run : Run Moves before trace after) :
    ∃ later, Sheltered plan pid number later after ∧ (later.Early →
      ∀ move ∈ trace, ∀ member ∈ move.before.members, member.2 = number → member.1 = pid) := by
  induction run with
  | start => exact ⟨state, sheltered, fun _ _ isMove => by cases isMove⟩
  | @next trace move between after run moves hypothesis =>
      obtain ⟨state, sheltered, sofar⟩ := hypothesis
      obtain ⟨later, still, early⟩ := sheltered.next moves
      refine ⟨later, still, fun isEarly other isOther => ?_⟩
      rcases List.mem_append.1 isOther with isOld | isNew
      · exact sofar (early isEarly) other isOld
      · rw [List.mem_singleton.1 isNew, moves.before_eq]
        exact sheltered.alone (early isEarly)

/-- A process that has just been created in a namespace of its own is alone there. -/
theorem of_newborn {task child : Task} (coherent : before.Coherent)
    (moves : Moves before move after) (isChild : child ∈ after.tasks)
    (newborn : Newborn true task before after child)
    (keeps : child.process.Keeps (preparation plan true) (fun _ _ => True) .initial) :
    Sheltered plan child.pid before.names.length .initial after where
  coherent := moves.coherent coherent
  known := (moves.coherent coherent).known child isChild
  room := newborn.names rfl
  keeps task member is := (moves.coherent coherent).eq_of_pid member isChild is ▸ keeps
  orderly := Preparation.orderly_initial plan
  seat task member is :=
    (moves.coherent coherent).eq_of_pid member isChild is ▸ newborn.uts
  alone _ member isMember is := by
    rcases moves.members member isMember with
      isOld | ⟨_, -, fresh, other, -, -, alsoNewborn, rfl⟩
    · exact absurd is (Nat.ne_of_lt (coherent.housed member isOld))
    · exact alsoNewborn.pid.trans newborn.pid.symm
  named _ := nofun

/-- The process has been alone as long as it may ask for its child, and the child begins in the
same namespace, under the planned name. -/
theorem bears {child : Task} (sheltered : Sheltered plan pid number state before)
    (moves : Moves before move after) (bears : move.Bears pid child)
    (shares : plan.target.isolation.uts = false) :
    state.Early ∧ child.uts = number ∧ after.hostname? child.pid = some plan.name := by
  obtain ⟨task, member, fresh, is, newborn, names⟩ := moves.born sheltered.coherent bears
  have keeps := sheltered.keeps task member is
  rcases newborn.may with ⟨spawning, next, spawns, rfl⟩ | ⟨-, next, forks⟩
  · rw [spawns] at keeps
    have allowed : state.Allows plan true (.spawn spawning) := keeps.1
    obtain ⟨rfl, early, named⟩ := allowed.of_spawn sheltered.orderly
    have uts := newborn.uts
    rw [shares, if_neg nofun, sheltered.seat task member is] at uts
    refine ⟨early, uts, ?_⟩
    rw [hostname?, (moves.coherent sheltered.coherent).space?_eq (moves.after_eq ▸ bears.member),
      Option.bind_some, uts, nameOf?, names number sheltered.room]
    exact sheltered.named early named
  · rw [forks] at keeps
    exact keeps.elim

end Sheltered

end Kernel

end HostnameSandbox

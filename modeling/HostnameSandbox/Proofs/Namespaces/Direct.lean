import HostnameSandbox.Host.Machine
import HostnameSandbox.Proofs.Namespaces.Knowledge
import HostnameSandbox.Proofs.Supervision.Telling

/-!
# The inner stage, started directly

The program may be started for its inner stage by anybody, anywhere.  It compares its namespace
with that of its parent only.  So it leaves the name of the host alone unless it is itself in the
host's namespace and its parent is in another one, and there it renames the host.  Or else its
standard error leads to the name of the host, and it tells about a failure there.
-/

namespace HostnameSandbox

open Moment

namespace Kernel

/-- A process is in the namespace of the host, and its parent in another one. -/
def Exposed (kernel : Kernel) (pid : Pid) : Prop :=
  kernel.space? pid = some 0 ∧ ∃ parent number, kernel.parent? pid = some parent ∧
    kernel.space? parent = some number ∧ number ≠ 0

/-- An open file of a process leads to the host name in a namespace, that of the process. -/
def LeadsToName (kernel : Kernel) (pid : Pid) (descriptor : Descriptor) (number : Nat) : Prop :=
  ∃ task index handle, kernel.task? pid = some task ∧ task.uts = number ∧
    kernel.handle? task descriptor = some (index, handle) ∧ handle.channel = .fact .hostname

variable {kernel after : Kernel} {task : Task} {pid : Pid} {descriptor : Descriptor}
  {bytes : Bytes} {number : Nat}

theorem nameOf?_setNames (change : Names → Names)
    (same : (change (kernel.namesFor task)).host = (kernel.namesFor task).host) (number : Nat) :
    (kernel.setNames task change).nameOf? number = kernel.nameOf? number := by
  rw [nameOf?, nameOf?, setNames, List.getElem?_set]
  split
  · next own =>
      subst own
      split
      · next present =>
          rw [namesFor, List.getElem?_eq_getElem present] at same
          rw [List.getElem?_eq_getElem present, Option.map_some, Option.map_some, namesFor,
            List.getElem?_eq_getElem present]
          exact congrArg some same
      · next absent => rw [List.getElem?_eq_none (Nat.le_of_not_lt absent)]
  · rfl

/-- Where the names of one namespace are set, no other host name changes. -/
theorem eq_of_set_names {uts : Nat} {names : Names}
    (changed : after.names = kernel.names.set uts names)
    (renames : after.nameOf? number ≠ kernel.nameOf? number) : uts = number := by
  by_contra other
  rw [nameOf?, nameOf?, changed, List.getElem?_set_ne other] at renames
  exact renames rfl

/-- What is written changes a host name only where the open file leads to that. -/
theorem channel_of_write {reply : Except Errno Unit}
    (answered : kernel.write task descriptor bytes = .answered reply after)
    (renames : after.nameOf? number ≠ kernel.nameOf? number) :
    task.uts = number ∧ ∃ index handle, kernel.handle? task descriptor = some (index, handle) ∧
      handle.channel = .fact .hostname := by
  have left := leaves_write task.pid kernel task descriptor bytes
  rw [answered] at left
  rcases left with settles | ⟨index, handle, found, leads, change, settles⟩
  · exact absurd (congrFun (nameOf?_congr settles.steady.names) number) renames
  · refine ⟨eq_of_set_names settles.steady.names renames, index, handle, found, ?_⟩
    -- the other file that leads to the names keeps the host name in them
    refine leads.resolve_right fun domain => renames ?_
    unfold write at answered
    simp only [found, domain] at answered
    split at answered
    · cases answered
      rfl
    · cases answered
      exact nameOf?_setNames (fun names =>
        { names with domain := writeName names.domain handle.offset bytes }) rfl number

theorem Answers.leadsToName {exchange : Exchange} (answers : kernel.Answers pid exchange after)
    (writes : exchange.request = .write descriptor bytes)
    (renames : after.nameOf? number ≠ kernel.nameOf? number) :
    kernel.LeadsToName pid descriptor number := by
  cases answers with
  | failed fails => exact absurd rfl renames
  | @served task request reply after found answered =>
      cases writes
      obtain ⟨own, index, handle, leads⟩ := channel_of_write answered renames
      exact ⟨task, index, handle, found, own, leads⟩

end Kernel

section Direct

variable {start : Start} {command : Command} {verbose : Bool} {pid : Pid} {first : Kernel}
  {trace : List Moment} {moment : Moment} {last : Process UInt8 × Kernel}

namespace Kernel

/-- Nothing keeps an exposed process from reading links and from giving names. -/
structure Unguarded (kernel : Kernel) (pid parent : Pid) (number : Nat) : Prop where
  own : kernel.space? pid = some 0
  child : kernel.parent? pid = some parent
  apart : kernel.space? parent = some number
  elsewhere : number ≠ 0
  privileged : ∀ task ∈ kernel.tasks, task.pid = pid → task.privileged = true
  visible : pid ∉ kernel.hidden
  parentVisible : parent ∉ kernel.hidden
  present : 0 < kernel.names.length

/-- What an exposed process learns by a call. -/
def Learns (pid parent : Pid) (number : Nat) : Exchange → Prop
  | ⟨.ownPid, reply⟩ => reply = pid
  | ⟨.parentPid, reply⟩ => reply = parent
  | ⟨.namespaceOf other, reply⟩ =>
      (other = pid → reply = .ok (namespaceName 0)) ∧
        (other = parent → reply = .ok (namespaceName number))
  | _ => True

variable {kernel after : Kernel} {task : Task} {parent : Pid} {number : Nat} {request : Call}

theorem namespaceOf_eq_ok {other : Pid} (inside : kernel.space? other = some number)
    (visible : other ∉ kernel.hidden) :
    kernel.namespaceOf other = .ok (namespaceName number) := by
  obtain ⟨member, found, rfl⟩ := Option.map_eq_some_iff.1 inside
  simp [namespaceOf, found, visible]

/-- A change of a process that leaves alone who it is and what it may do. -/
theorem privileged_of_modify {change : Task → Task} {mover : Pid}
    (same : ∀ task, (change task).pid = task.pid ∧ (change task).privileged = task.privileged)
    (privileged : ∀ task ∈ kernel.tasks, task.pid = pid → task.privileged = true) :
    ∀ task ∈ (kernel.modify mover change).tasks, task.pid = pid → task.privileged = true := by
  intro task member is
  obtain ⟨earlier, isEarlier, rfl⟩ := List.mem_map.1 member
  split at is
  · rw [if_pos ‹_›, (same earlier).2]
    exact privileged earlier isEarlier ((same earlier).1.symm.trans is)
  · rw [if_neg ‹_›]
    exact privileged earlier isEarlier is

/-- What a process does before it gives a name hides nobody, and leaves everybody's privilege. -/
theorem attempt_preliminary_able {reply : request.Reply} (preliminary : request.IsPreliminary)
    (answered : kernel.attempt task request = .answered reply after) :
    after.hidden = kernel.hidden ∧
      ∀ pid, (∀ task ∈ kernel.tasks, task.pid = pid → task.privileged = true) →
        ∀ task ∈ after.tasks, task.pid = pid → task.privileged = true := by
  cases request with
  | report event =>
      cases answered
      have same := sameCompany_log kernel task event
      exact ⟨same.hidden, fun pid privileged => same.tasks ▸ privileged⟩
  | openLog filter =>
      cases answered
      refine ⟨rfl, fun pid privileged => privileged_of_modify ?_ privileged⟩
      exact fun _ => ⟨rfl, rfl⟩
  | react signal reaction =>
      cases answered
      refine ⟨rfl, fun pid privileged => privileged_of_modify (fun other => ?_) privileged⟩
      simp only [Task.react]
      split <;> exact ⟨rfl, rfl⟩
  | ownPid =>
      cases answered
      exact ⟨rfl, fun _ privileged => privileged⟩
  | parentPid =>
      cases answered
      exact ⟨rfl, fun _ privileged => privileged⟩
  | namespaceOf other =>
      cases answered
      exact ⟨rfl, fun _ privileged => privileged⟩
  | _ => cases preliminary

/-- What a process does before it gives a name leaves it as able as before. -/
theorem Unguarded.still {reply : request.Reply} (unguarded : kernel.Unguarded pid parent number)
    (preliminary : request.IsPreliminary)
    (answered : kernel.attempt task request = .answered reply after) :
    after.Unguarded pid parent number := by
  obtain ⟨seats, names⟩ := attempt_preliminary preliminary answered
  obtain ⟨hidden, able⟩ := attempt_preliminary_able preliminary answered
  exact {
    own := (seats.space?_eq pid).trans unguarded.own
    child := (seats.parent?_eq pid).trans unguarded.child
    apart := (seats.space?_eq parent).trans unguarded.apart
    elsewhere := unguarded.elsewhere
    privileged := able pid unguarded.privileged
    visible := hidden ▸ unguarded.visible
    parentVisible := hidden ▸ unguarded.parentVisible
    present := names ▸ unguarded.present }

/-- What a process asks before it gives a name is answered. -/
theorem Unguarded.served (unguarded : kernel.Unguarded pid parent number)
    (preliminary : request.IsPreliminary) :
    ∃ reply after, kernel.Answers pid ⟨request, reply⟩ after ∧
      Learns pid parent number ⟨request, reply⟩ ∧ after.Unguarded pid parent number := by
  obtain ⟨task, found, isParent⟩ := Option.map_eq_some_iff.1 unguarded.child
  have serve {reply : request.Reply} {after : Kernel}
      (answered : kernel.attempt task request = .answered reply after)
      (learns : Learns pid parent number ⟨request, reply⟩) :
      ∃ reply after, kernel.Answers pid ⟨request, reply⟩ after ∧
        Learns pid parent number ⟨request, reply⟩ ∧ after.Unguarded pid parent number :=
    ⟨reply, after, .served found answered, learns, unguarded.still preliminary answered⟩
  cases request with
  | report event => exact serve rfl trivial
  | openLog filter => exact serve rfl trivial
  | react signal reaction => exact serve rfl trivial
  | ownPid => exact serve rfl (task?_pid found)
  | parentPid => exact serve rfl isParent
  | namespaceOf other =>
      refine serve rfl ⟨?_, ?_⟩
      · rintro rfl
        exact namespaceOf_eq_ok unguarded.own unguarded.visible
      · rintro rfl
        exact namespaceOf_eq_ok unguarded.apart unguarded.parentVisible
  | _ => cases preliminary

/-- The process gives the host a name. -/
theorem Unguarded.named (unguarded : kernel.Unguarded pid parent number) {name : Bytes}
    (short : name.length ≤ longestHostname) :
    ∃ after, kernel.Answers pid ⟨.setHostname name, .ok ()⟩ after ∧
      after.nameOf? 0 = some name := by
  obtain ⟨task, found, -⟩ := Option.map_eq_some_iff.1 unguarded.child
  have own : task.uts = 0 :=
    Option.some.inj ((space?_of_task? found).symm.trans unguarded.own)
  have may := unguarded.privileged task (mem_of_task? found) (task?_pid found)
  have renamed : kernel.rename task name (fun names => { names with host := name }) =
      .ok (kernel.setNames task fun names => { names with host := name }) := by
    rw [rename, may, if_neg (by decide), if_neg (Nat.not_lt.2 short)]
  refine ⟨kernel.setNames task fun names => { names with host := name },
    .served found (by simp only [attempt, renamed]), ?_⟩
  rw [nameOf?, setNames, own, List.getElem?_set_self unguarded.present]
  rfl

end Kernel

/-- A process can come, alone and without a child, to where the host has a name. -/
def CanName {α : Type} (pid : Pid) (name : Bytes) (process : Process α) (kernel : Kernel) : Prop :=
  ∃ trace last, Run (Proceeds pid) (process, kernel) trace last ∧
    (∀ moment ∈ trace, ∃ exchange, moment.exchange? = some exchange ∧
      ∀ spawning, exchange.request ≠ .spawn spawning) ∧
    last.2.nameOf? 0 = some name

section Naming

variable {α : Type} {kernel after : Kernel} {name : Bytes} {parent : Pid} {number : Nat}
  {request : Call} {next : request.Reply → Process α}

theorem CanName.call {reply : request.Reply} (answers : kernel.Answers pid ⟨request, reply⟩ after)
    (childless : ∀ spawning, request ≠ .spawn spawning)
    (can : CanName pid name (next reply) after) :
    CanName pid name (.call request next) kernel := by
  obtain ⟨trace, last, run, others, named⟩ := can
  refine ⟨_, last, .cons (.own (.call request next reply) answers) run, ?_, named⟩
  intro moment member
  rcases List.mem_cons.1 member with rfl | later
  · exact ⟨_, rfl, childless⟩
  · exact others moment later

/-- A preliminary call does not keep an exposed process from giving the host a name. -/
theorem Kernel.Unguarded.canName (unguarded : kernel.Unguarded pid parent number)
    (preliminary : request.IsPreliminary)
    (can : ∀ reply after, Learns pid parent number ⟨request, reply⟩ →
      after.Unguarded pid parent number → CanName pid name (next reply) after) :
    CanName pid name (.call request next) kernel := by
  obtain ⟨reply, after, answers, learns, able⟩ := unguarded.served preliminary
  refine .call answers ?_ (can reply after learns able)
  rintro spawning rfl
  cases preliminary

end Naming

theorem Hostname.marker_short : (Bytes.ofString marker.text).length ≤ Kernel.longestHostname := by
  decide +kernel

/-- The program, started for its inner stage, gives the host the marker name wherever it is exposed
and nothing keeps it from that. -/
theorem Sandbox.canName_of_unguarded {parent : Pid} {number : Nat}
    (asks : start.Asks ⟨.inner, command⟩ verbose) (unguarded : first.Unguarded pid parent number) :
    CanName pid (Bytes.ofString Hostname.marker.text) (program start) first := by
  obtain ⟨request, read, rfl, invoked⟩ := asks
  -- the program prepares for three signals and opens its log, then tells what it is about to do
  refine unguarded.canName rfl fun _ _ _ unguarded => ?_
  refine unguarded.canName rfl fun _ _ _ unguarded => ?_
  refine unguarded.canName rfl fun _ _ _ unguarded => ?_
  rw [read]
  refine unguarded.canName rfl fun _ _ _ unguarded => ?_
  simp only [serve, invoked]
  refine unguarded.canName rfl fun _ _ _ unguarded => ?_
  refine unguarded.canName rfl fun _ _ _ unguarded => ?_
  -- it reads its own link and that of its parent
  refine unguarded.canName rfl fun own _ isOwn unguarded => ?_
  cases (isOwn : own = pid)
  refine unguarded.canName rfl fun link _ told unguarded => ?_
  cases told.1 rfl
  refine unguarded.canName rfl fun company _ isParent unguarded => ?_
  cases (isParent : company = parent)
  refine unguarded.canName rfl fun other _ told unguarded => ?_
  cases told.2 rfl
  have apart : (Membership.mk pid (Kernel.namespaceName 0)).sharesWith
      ⟨parent, Kernel.namespaceName number⟩ = false :=
    beq_false_of_ne fun same => unguarded.elsewhere (Kernel.namespaceName_injective same).symm
  -- the two links differ, so that the stage goes on
  simp only [Process.bind, ExceptT.bindCont, Function.comp, pure, ExceptT.pure, ExceptT.mk, apart,
    Bool.false_eq_true, if_false]
  refine unguarded.canName rfl fun _ _ _ unguarded => ?_
  refine unguarded.canName rfl fun _ _ _ unguarded => ?_
  obtain ⟨after, answers, named⟩ := unguarded.named Hostname.marker_short
  refine .call answers (fun _ is => Call.noConfusion is) ?_
  exact ⟨[], _, .start, fun _ member => absurd member List.not_mem_nil, named⟩

end Direct

/-! ### The host, renamed -/

/-- A call by which a process writes to an open file. -/
def Call.IsWrite : Call → Bool
  | .write _ _ => true
  | _ => false

/-- Started for its inner stage, the program leaves the name of the host alone before its command
begins. -/
def Sandbox.SparesHost (start : Start) (pid : Pid) (first : Kernel) : Prop :=
  ∀ trace last, Run (Proceeds pid) (program start, first) trace last →
    (∀ moment ∈ trace, ∃ exchange, moment.exchange? = some exchange ∧
      ∀ spawning, exchange.request ≠ .spawn spawning) →
    last.2.nameOf? 0 = first.nameOf? 0

namespace Machine

/-- A machine whose worker is in the namespace of the host, and the worker's parent in another. -/
def bootExposed : Kernel :=
  { Machine.boot true [] with
    names := [⟨hostname, []⟩, ⟨hostname, []⟩]
    bystanders := [(99, 1), (1, 0)]
    files := ⟨[([], .directory 0o755)]⟩ }

def trueCommand : Command := ⟨Bytes.ofString "true", [], by decide, by decide⟩

/-- What the worker begins with as it is asked for an inner stage that runs `true`. -/
def innerTrue : Start :=
  ⟨Bytes.ofString "utsbox", [Bytes.ofString "inner", Bytes.ofString "true"], []⟩

theorem innerTrue_asks : innerTrue.Asks ⟨.inner, trueCommand⟩ false := by
  have read : CommandLine.parse innerTrue.args = .ok ⟨false, .inner, [Bytes.ofString "true"]⟩ := by
    decide +kernel
  exact ⟨_, read, rfl, by decide +kernel⟩

theorem unguarded_bootExposed : bootExposed.Unguarded workerPid 99 1 where
  own := by decide +kernel
  child := by decide +kernel
  apart := by decide +kernel
  elsewhere := by decide
  privileged := by decide +kernel
  visible := by decide +kernel
  parentVisible := by decide +kernel
  present := by decide +kernel

/-- A machine whose worker has the name of the host for its standard error. -/
def bootMisled : Kernel :=
  { Machine.boot false [] with
    handles := standardHandles 0 |>.setIfInBounds 2 ⟨.fact .hostname, false, true, false, 0⟩
    files := ⟨[([], .directory 0o755)]⟩ }

/-- The run of the program up to the name. -/
def runExposed : List Moment × Process UInt8 × Kernel :=
  goAlone workerPid 13 (Sandbox.program innerTrue, bootExposed)

end Machine

/-- The line about the failure becomes the name of the host, up to where a name has to end. -/
example : (goAlone Machine.workerPid 20
    (Sandbox.program Machine.innerTrue, Machine.bootMisled)).2.2.nameOf? 0 =
      some ((Sandbox.line (.namespaceSetup (.shared (Kernel.namespaceName 0) 99))).take
        Kernel.longestHostname) := by
  decide +kernel

end HostnameSandbox

import HostnameSandbox.Proofs.CommandLine.Malformed
import HostnameSandbox.Proofs.Namespaces.Lineage
import HostnameSandbox.Proofs.Namespaces.Programs

/-!
# The guard of the inner stage

The program that plays its inner stage makes six calls to prepare itself, and five more until its
guard has come to a verdict: by four of them it learns which process it is, which its parent is, and
in which namespaces both are, and by the last it reports what it has found.  Here the guard is
written out call by call, and followed on a host on which anything else may happen meanwhile.
-/

namespace HostnameSandbox

namespace Guard

/-- What the guard reports about the two links that it has read. -/
def event (own : String) (parent : Pid) (other : String) : Event :=
  if own = other then .sharing own parent else .fresh own other

/-- What the guard comes to. -/
def verdict (own : String) (parent : Pid) (other : String) : Except Failure Unit :=
  if own = other then .error (.namespaceSetup (.shared own parent)) else .ok ()

section Calls

variable (rest : Except Failure Unit → Process UInt8)

/-- The guard has read both links. -/
def compares (own : String) (parent : Pid) (other : String) : Process UInt8 :=
  .call (.report (event own parent other)) fun _ => rest (verdict own parent other)

/-- The guard goes on with the link of a namespace, and fails if that could not be read. -/
def reads (pid : Pid) (next : String → Process UInt8) : Process UInt8 :=
  .call (.namespaceOf pid) fun
    | .error errno => rest (.error (.namespaceSetup (.unreadable pid (.numbered errno))))
    | .ok link => next link

/-- The guard is about to read the link of the parent's namespace. -/
def readsParent (own : String) (parent : Pid) : Process UInt8 :=
  reads rest parent (compares rest own parent)

/-- The guard is about to ask for the parent. -/
def asksParent (own : String) : Process UInt8 :=
  .call .parentPid (readsParent rest own)

/-- The guard is about to read the link of its own namespace. -/
def readsOwn (pid : Pid) : Process UInt8 :=
  reads rest pid (asksParent rest)

/-- The guard from its beginning on. -/
def begins : Process UInt8 :=
  .call .ownPid (readsOwn rest)

theorem begins_eq : ensureFreshNamespace.run >>= rest = begins rest := by
  refine congrArg (Process.call .ownPid) (funext fun pid => ?_)
  refine congrArg (Process.call (.namespaceOf pid)) (funext fun reply => ?_)
  cases reply with
  | error errno => rfl
  | ok own =>
      refine congrArg (Process.call .parentPid) (funext fun parent => ?_)
      refine congrArg (Process.call (.namespaceOf parent)) (funext fun reply => ?_)
      cases reply with
      | error errno => rfl
      | ok other =>
          by_cases same : own = other
          · have shared : (Membership.mk pid own).sharesWith ⟨parent, other⟩ = true := by
              simp [Membership.sharesWith, same]
            change Process.bind (ExceptT.run (if _ then _ else _)) rest =
              compares rest own parent other
            rw [if_pos shared, compares, event, verdict, if_pos same, if_pos same]
            rfl
          · have apart : ¬ (Membership.mk pid own).sharesWith ⟨parent, other⟩ = true := by
              simp [Membership.sharesWith, same]
            change Process.bind (ExceptT.run (if _ then _ else _)) rest =
              compares rest own parent other
            rw [if_neg apart, compares, event, verdict, if_neg same, if_neg same]
            rfl

end Calls

end Guard

/-- How the program goes on after its guard as it plays its inner stage. -/
def InnerStage.afterGuard (stage : InnerStage) (command : Command) :
    Except Failure Unit → Process UInt8
  | .ok () =>
      (stage.nameNamespace >>= fun _ => stage.runner.execute command).run >>= Sandbox.finish
  | .error failure => Sandbox.finish (.error failure)

theorem InnerStage.run_eq (stage : InnerStage) (command : Command) :
    (stage.run command).run >>= Sandbox.finish =
      .call (.report (.initializing command)) fun _ =>
        ensureFreshNamespace.run >>= stage.afterGuard command := by
  refine congrArg (Process.call _) (funext fun _ => ?_)
  change Process.bind (Process.bind ensureFreshNamespace.run _) _ = _
  refine (Process.bind_assoc _ _ _).trans (congrArg (Process.bind _) (funext fun result => ?_))
  cases result <;> rfl

/-- How many calls the program makes to prepare itself before its guard. -/
def Guard.opening : Nat := 6

/-- After so many calls, the guard of the program has come to its verdict. -/
def Guard.closing : Nat := 11

/-- Whatever it is answered, the program that plays its inner stage comes to its guard. -/
theorem Sandbox.leads_guard {start : Start} {command : Command} {verbose : Bool}
    (asks : start.Asks ⟨.inner, command⟩ verbose) :
    ∃ calls, calls.length = Guard.opening ∧ (∀ request ∈ calls, request.IsOpening) ∧
      Process.Leads (ensureFreshNamespace.run >>= InnerStage.standard.afterGuard command) calls
        (program start) := by
  obtain ⟨request, read, rfl, invoked⟩ := asks
  have serves : (serve request).run >>= finish =
      .call (.report (.dispatching .inner command)) fun _ =>
        (InnerStage.standard.run command).run >>= finish := by
    simp only [serve, invoked]
    rfl
  have plays : Process.Leads (ensureFreshNamespace.run >>= InnerStage.standard.afterGuard command)
      [.report (.dispatching .inner command), .report (.initializing command)]
      ((serve request).run >>= finish) := by
    rw [serves, InnerStage.run_eq]
    exact .call fun _ => .call fun _ => .here
  let filter := Event.Filter.choose (start.environment.value? logVariable) request.verbose
  refine ⟨(reactions.map fun entry => .react entry.1 entry.2) ++
    [.openLog filter, .report (.dispatching .inner command), .report (.initializing command)],
    rfl, ?_, leads_reactions.trans ?_⟩
  · simp [reactions, Call.IsOpening]
  · rw [read]
    exact .call fun _ => plays

/-- How many moves a process has made. -/
def movesOf (pid : Pid) (trace : List Move) : Nat :=
  trace.countP fun move => move.mover? = some pid

@[simp]
theorem movesOf_nil (pid : Pid) : movesOf pid [] = 0 :=
  rfl

@[simp]
theorem movesOf_concat (pid : Pid) (trace : List Move) (move : Move) :
    movesOf pid (trace ++ [move]) =
      movesOf pid trace + if move.mover? = some pid then 1 else 0 := by
  simp [movesOf, List.countP_append, List.countP_singleton]

/-- Whether a process is about to write. -/
def Task.isWriting (task : Task) : Bool :=
  match task.process with
  | .call (.write _ _) _ => true
  | _ => false

/-- Who is about to make another call creates no child. -/
theorem Task.not_mayBear_of_call {task : Task} {request : Call}
    {next : request.Reply → Process UInt8} {fresh : Bool} (calls : task.process = .call request next)
    (other : ∀ spawning, request ≠ .spawn spawning) : ¬ task.MayBear fresh := by
  rintro (⟨spawning, goOn, spawns, -⟩ | ⟨-, goOn, forks⟩)
  · cases calls.symm.trans spawns
    exact other spawning rfl
  · cases calls.symm.trans forks

/-- A process makes a move that does not write. -/
def Move.isCallOf (move : Move) (pid : Pid) : Bool :=
  move.mover? = some pid && !(move.before.task? pid).any Task.isWriting

/-- How many moves a process has made by which it does not write. -/
def callsOf (pid : Pid) (trace : List Move) : Nat :=
  trace.countP fun move => move.isCallOf pid

@[simp]
theorem callsOf_nil (pid : Pid) : callsOf pid [] = 0 :=
  rfl

@[simp]
theorem callsOf_concat (pid : Pid) (trace : List Move) (move : Move) :
    callsOf pid (trace ++ [move]) = callsOf pid trace + if move.isCallOf pid then 1 else 0 := by
  simp [callsOf, List.countP_append, List.countP_singleton]

/-- A process that reads the link of a namespace by its move is told that link. -/
def Move.Reads (move : Move) (pid : Pid) : Prop :=
  move.mover? = some pid → ∀ task ∈ move.before.tasks, task.pid = pid →
    ∀ other next, task.process = .call (.namespaceOf other) next →
      ∃ link, move.before.namespaceOf other = .ok link ∧
        ∀ found ∈ move.after.tasks, found.pid = pid → found.process = next (.ok link)

namespace Kernel

variable {kernel before after : Kernel} {task found : Task} {move : Move} {request : Call}
  {next : request.Reply → Process UInt8}

theorem Moves.isCallOf_own (moves : Moves before move after) (coherent : before.Coherent)
    (member : task ∈ before.tasks) (mine : move.mover? = some task.pid) :
    move.isCallOf task.pid = !task.isWriting := by
  rw [Move.isCallOf, moves.before_eq, coherent.task?_eq member]
  simp [mine]

/-- What a process only learns or prepares never has to wait. -/
theorem attempt_ne_blocked (preliminary : request.IsPreliminary) :
    kernel.attempt task request ≠ .blocked := by
  cases request with
  | report event => exact nofun
  | openLog filter => exact nofun
  | ownPid => exact nofun
  | parentPid => exact nofun
  | namespaceOf pid => exact nofun
  | react signal reaction => exact nofun
  | _ => cases preliminary

/-- A process that learns or prepares something goes on with a reply, which it gets from the host
unless the call fails. -/
theorem Moves.replies (moves : Moves before move after) (coherent : before.Coherent)
    (member : task ∈ before.tasks) (made : move.mover? = some task.pid)
    (calls : task.process = .call request next) (preliminary : request.IsPreliminary)
    (isFound : found ∈ after.tasks) (same : found.pid = task.pid) :
    ∃ reply, found.process = next reply ∧
      ((∃ between, (before.atTimeOf task).attempt task request = .answered reply between) ∨
        Exchange.Fails ⟨request, reply⟩) := by
  cases moves.calls coherent member made calls with
  | answered answered is =>
      subst is
      exact ⟨_, process_goOn isFound same, .inl ⟨_, answered⟩⟩
  | again again =>
      rcases again_cases again with
        ⟨descriptor, bytes, rfl⟩ | ⟨path, words, environment, rfl⟩ | ⟨code, rfl⟩ <;>
      cases preliminary
  | fails fails is =>
      subst is
      exact ⟨_, process_goOn isFound same, .inr fails⟩

theorem namespaceOf_atTimeOf (kernel : Kernel) (task : Task) (pid : Pid) :
    (kernel.atTimeOf task).namespaceOf pid = kernel.namespaceOf pid := by
  have same : (kernel.atTimeOf task).members = kernel.members := by
    simp only [members, atTimeOf, modify, List.map_map]
    congr 1
    refine List.map_congr_left fun other _ => ?_
    simp only [Function.comp]
    split <;> rfl
  rw [namespaceOf, namespaceOf, same]
  rfl

end Kernel

namespace Guard

/-- What a guard can find out: the link of its own namespace, who its parent may be, and which links
the parent's namespace may have. -/
structure Outlook where
  own : String
  parents : Pid → Prop
  others : String → Prop

/-- What a process finds out on a host is as expected. -/
structure Outlook.Shows (outlook : Outlook) (task : Task) (kernel : Kernel) : Prop where
  own : ∀ {link}, kernel.namespaceOf task.pid = .ok link → link = outlook.own
  parent : outlook.parents task.parent
  other : ∀ {parent link}, outlook.parents parent → kernel.namespaceOf parent = .ok link →
    outlook.others link

/-- How a process stands that has made so many calls of those up to its guard's verdict. -/
inductive Stands (rest : Except Failure Unit → Process UInt8) (outlook : Outlook) (pid : Pid) :
    Nat → Process UInt8 → Prop
  | opens {made : Nat} {calls : List Call} {process : Process UInt8}
      (count : made + calls.length = opening) (plain : ∀ request ∈ calls, request.IsOpening)
      (leads : Process.Leads (begins rest) calls process) : Stands rest outlook pid made process
  | readsOwn : Stands rest outlook pid 7 (readsOwn rest pid)
  | asksParent : Stands rest outlook pid 8 (asksParent rest outlook.own)
  | readsParent {parent : Pid} (is : outlook.parents parent) :
      Stands rest outlook pid 9 (readsParent rest outlook.own parent)
  | compares {parent : Pid} {other : String} (is : outlook.parents parent)
      (read : outlook.others other) :
      Stands rest outlook pid 10 (compares rest outlook.own parent other)
  | decided {parent : Pid} {other : String} (is : outlook.parents parent)
      (read : outlook.others other) :
      Stands rest outlook pid closing (rest (verdict outlook.own parent other))

namespace Stands

variable {rest : Except Failure Unit → Process UInt8} {outlook : Outlook} {made : Nat}
  {process : Process UInt8} {pid : Pid}

/-- The program that plays its inner stage stands at its beginning. -/
theorem of_asks {start : Start} {command : Command} {verbose : Bool}
    (asks : start.Asks ⟨.inner, command⟩ verbose) :
    Stands (InnerStage.standard.afterGuard command) outlook pid 0 (Sandbox.program start) := by
  obtain ⟨calls, count, plain, leads⟩ := Sandbox.leads_guard asks
  rw [begins_eq] at leads
  exact .opens (by rw [count, Nat.zero_add]) plain leads

/-- After its first calls, a process begins its guard. -/
theorem begins_of_opening (stands : Stands rest outlook pid opening process) :
    process = ensureFreshNamespace.run >>= rest := by
  cases stands with
  | @opens made calls process count plain leads =>
      obtain rfl : calls = [] := List.eq_nil_of_length_eq_zero (by omega)
      cases leads
      exact (begins_eq rest).symm

theorem of_closing (stands : Stands rest outlook pid closing process) :
    ∃ parent other, outlook.parents parent ∧ outlook.others other ∧
      process = rest (verdict outlook.own parent other) := by
  cases stands with
  | opens count plain leads =>
      simp only [closing, opening] at count
      omega
  | decided is read => exact ⟨_, _, is, read, rfl⟩

/-- Until its guard has come to a verdict, a process makes calls that never have to wait. -/
theorem exists_call (stands : Stands rest outlook pid made process) (early : made < closing) :
    ∃ request next, process = .call request next ∧ request.IsPreliminary := by
  cases stands with
  | @opens made calls process count plain leads =>
      cases leads with
      | here => exact ⟨_, _, rfl, rfl⟩
      | @call request next calls leads =>
          refine ⟨request, next, rfl, ?_⟩
          have opens := plain request List.mem_cons_self
          cases request with
          | report event => rfl
          | openLog filter => rfl
          | react signal reaction => rfl
          | _ => cases opens
  | readsOwn => exact ⟨_, _, rfl, rfl⟩
  | asksParent => exact ⟨_, _, rfl, rfl⟩
  | readsParent is => exact ⟨_, _, rfl, rfl⟩
  | compares is read => exact ⟨_, _, rfl, rfl⟩
  | decided is read => exact absurd early (Nat.lt_irrefl _)

end Stands

section Moving

variable {rest : Except Failure Unit → Process UInt8} {outlook : Outlook} {made : Nat}
  {before after : Kernel} {task found : Task} {move : Move}

/-- A process that is told a link goes on with that. -/
theorem reads_next {other : Pid} {next : String → Process UInt8} (readable : move.Reads task.pid)
    (member : task ∈ before.tasks) (moves : Kernel.Moves before move after)
    (mine : move.mover? = some task.pid) (calls : task.process = reads rest other next)
    (isFound : found ∈ after.tasks) (same : found.pid = task.pid) :
    ∃ link, before.namespaceOf other = .ok link ∧ found.process = next link := by
  obtain ⟨link, told, goesOn⟩ := readable mine task (moves.before_eq ▸ member) rfl other _ calls
  exact ⟨link, moves.before_eq ▸ told, goesOn found (moves.after_eq ▸ isFound) same⟩

/-- By each of its moves a process comes closer to its guard's verdict. -/
theorem Stands.next (stands : Stands rest outlook task.pid made task.process)
    (early : made < closing) (coherent : before.Coherent) (member : task ∈ before.tasks)
    (shows : outlook.Shows task before) (moves : Kernel.Moves before move after)
    (mine : move.mover? = some task.pid) (readable : move.Reads task.pid)
    (isFound : found ∈ after.tasks) (same : found.pid = task.pid) :
    Stands rest outlook task.pid (made + 1) found.process := by
  generalize calls : task.process = process at stands
  cases stands with
  | @opens made requests process count plain leads =>
      cases leads with
      | here =>
          obtain ⟨reply, goesOn, ⟨between, answered⟩ | fails⟩ :=
            moves.replies coherent member mine calls rfl isFound same
          · obtain rfl : task.pid = reply := (Attempt.answered.inj answered).1
            obtain rfl : made = opening := count
            exact goesOn ▸ .readsOwn
          · exact fails.elim
      | @call request next requests leads =>
          have opens : request.IsPreliminary := by
            have isOpening := plain request List.mem_cons_self
            cases request <;> first | rfl | cases isOpening
          obtain ⟨reply, goesOn, -⟩ := moves.replies coherent member mine calls opens isFound same
          refine .opens ?_ (fun other isOther => plain other (.tail _ isOther))
            (goesOn ▸ leads reply)
          simp only [List.length_cons] at count
          omega
  | readsOwn =>
      obtain ⟨link, told, goesOn⟩ := reads_next readable member moves mine calls isFound same
      rw [goesOn, shows.own told]
      exact .asksParent
  | asksParent =>
      obtain ⟨reply, goesOn, ⟨between, answered⟩ | fails⟩ :=
        moves.replies coherent member mine calls rfl isFound same
      · obtain rfl : task.parent = reply := (Attempt.answered.inj answered).1
        exact goesOn ▸ .readsParent shows.parent
      · exact fails.elim
  | readsParent is =>
      obtain ⟨link, told, goesOn⟩ := reads_next readable member moves mine calls isFound same
      rw [goesOn]
      exact .compares is (shows.other is told)
  | compares is read =>
      obtain ⟨reply, goesOn, -⟩ := moves.replies coherent member mine calls rfl isFound same
      rw [goesOn]
      exact .decided is read
  | decided is read => exact absurd early (Nat.lt_irrefl _)

end Moving

end Guard

end HostnameSandbox

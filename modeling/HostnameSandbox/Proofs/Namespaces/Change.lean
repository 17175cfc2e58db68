import HostnameSandbox.Host.Run
import HostnameSandbox.Proofs.Namespaces.Steady

/-!
# What a process may change

A call of a process changes no more than the names in the namespace that the process is in, or
creates one child, in that namespace or in a new one that begins with a copy of its names.
-/

namespace HostnameSandbox

/-- Whatever comes of an attempt, it leaves a kernel as wanted. -/
def Attempt.Leaves {request : Call} (holds : Kernel → Prop) : Attempt request → Prop
  | .blocked => True
  | .again kernel => holds kernel
  | .answered _ kernel => holds kernel

theorem Attempt.Leaves.mono {request : Call} {holds wanted : Kernel → Prop}
    (weaker : ∀ kernel, holds kernel → wanted kernel) {attempt : Attempt request}
    (leaves : attempt.Leaves holds) : attempt.Leaves wanted := by
  cases attempt with
  | blocked => exact leaves
  | again kernel => exact weaker kernel leaves
  | answered reply kernel => exact weaker kernel leaves

theorem Attempt.Leaves.of_answered {request : Call} {holds : Kernel → Prop}
    {attempt : Attempt request} {reply : request.Reply} {kernel : Kernel}
    (leaves : attempt.Leaves holds) (answered : attempt = .answered reply kernel) :
    holds kernel := by
  rw [answered] at leaves
  exact leaves

theorem Attempt.Leaves.of_again {request : Call} {holds : Kernel → Prop}
    {attempt : Attempt request} {kernel : Kernel} (leaves : attempt.Leaves holds)
    (again : attempt = .again kernel) : holds kernel := by
  rw [again] at leaves
  exact leaves

/-- A call that cannot change a name and does not create a process. -/
def Call.IsPlain : Call → Bool
  | .write _ _ | .setHostname _ | .setDomain _ | .spawn _ => false
  | _ => true

/-- Whether an open file leads to the names of the namespace that its user is in. -/
def Channel.LeadsToNames (channel : Channel) : Prop :=
  channel = .fact .hostname ∨ channel = .fact .domain

namespace Kernel

variable {mover pid : Pid} {losses : Loss → Prop} {kernel before between after : Kernel}
  {task child : Task} {request : Call}

/-- A process is there, whatever it is about to do. -/
def Houses (kernel : Kernel) (task : Task) : Prop :=
  ∃ earlier ∈ kernel.tasks, earlier.Resumes task.pid task

theorem houses_of_mem (member : task ∈ kernel.tasks) : kernel.Houses task :=
  ⟨task, member, .refl task⟩

theorem settles_install (present : kernel.Houses task) {changed : Task}
    (resumes : task.Resumes task.pid changed) :
    kernel.Settles task.pid losses (kernel.modify task.pid fun _ => changed) := by
  obtain ⟨earlier, member, same⟩ := present
  exact settles_replace member same.pid.symm (same.trans resumes)

theorem leaves_select (may : losses (.forgotten pid)) (kernel : Kernel) (task : Task)
    (signals : List Signal) :
    (kernel.select task pid signals).Leaves (kernel.Settles mover losses) := by
  unfold select
  split
  · exact .forgotten may kernel
  · split
    · refine settles_modify ?_ kernel task.pid
      exact fun _ => rfl
    · trivial

theorem leaves_await (may : losses (.forgotten pid)) (kernel : Kernel) :
    (kernel.await pid).Leaves (kernel.Settles mover losses) := by
  unfold await
  split
  · exact .forgotten may kernel
  · trivial

/-- What is chosen by looking at one item after the other is one of them. -/
theorem mem_of_foldl {α : Type} {choose : Option α → α → Option α}
    (chooses : ∀ first item other, choose first item = some other → other = item ∨ first = some other)
    {items : List α} {first : Option α} {chosen : α} (found : items.foldl choose first = some chosen) :
    chosen ∈ items ∨ first = some chosen := by
  induction items generalizing first with
  | nil => exact .inr found
  | cons item items hypothesis =>
      rcases hypothesis found with later | now
      · exact .inl (List.mem_cons_of_mem _ later)
      · rcases chooses first item chosen now with rfl | before
        · exact .inl List.mem_cons_self
        · exact .inr before

/-- Of any children, one is answered for that the process has. -/
theorem exists_of_endedChild? {parent : Pid} {status : ExitStatus}
    (ended : kernel.endedChild? parent = some (pid, status)) :
    ∃ child ∈ kernel.tasks, child.pid = pid ∧ child.parent = parent := by
  obtain ⟨child, found, told⟩ := Option.bind_eq_some_iff.1 ended
  obtain ⟨status, -, same⟩ := Option.map_eq_some_iff.1 told
  cases same
  have among : child ∈ (kernel.tasks.filter fun task => task.parent = parent && !task.isAlive) ∨
      none = some child := by
    refine mem_of_foldl (fun first task other chosen => ?_) found
    cases first with
    | none => exact .inl (Option.some.inj chosen).symm
    | some earlier =>
        dsimp only at chosen
        split at chosen
        · exact .inl (Option.some.inj chosen).symm
        · exact .inr chosen
  obtain ⟨member, isChild⟩ := List.mem_filter.1 (among.resolve_right nofun)
  exact ⟨child, member, rfl, by simp_all⟩

theorem leaves_awaitAny
    (may : ∀ child ∈ kernel.tasks, child.parent = task.pid → losses (.forgotten child.pid))
    (patience : Patience) :
    (kernel.awaitAny task patience).Leaves (kernel.Settles mover losses) := by
  unfold awaitAny
  split
  · next child status ended =>
      obtain ⟨task, member, rfl, isChild⟩ := exists_of_endedChild? ended
      split
      · split
        · exact .refl kernel
        · exact .forgotten (may task member isChild) kernel
      · exact .forgotten (may task member isChild) kernel
  · split
    · exact .refl kernel
    · split
      · exact .refl kernel
      · trivial
      · split
        · trivial
        · exact .refl kernel

theorem leaves_read (kernel : Kernel) (task : Task) (descriptor : Descriptor) (limit : Nat) :
    (kernel.read task descriptor limit).Leaves (kernel.Settles mover losses) := by
  unfold read
  split
  · exact .refl kernel
  · dsimp only
    split
    · exact .refl kernel
    · split
      · exact .refl kernel
      · exact .refl kernel
      · exact .refl kernel
      · exact .refl kernel
      · split
        · trivial
        · exact (sameCompany_setPipe kernel _ _).settles
      · exact (sameCompany_readAt kernel _ _ _ _).settles
      · exact (sameCompany_readAt kernel _ _ _ _).settles
      · split
        · exact (sameCompany_readAt kernel _ _ _ _).settles
        · exact .refl kernel
      · exact (sameCompany_readAt kernel _ _ _ _).settles
      · exact .refl kernel
      · exact .refl kernel
      · exact .refl kernel

theorem settles_installed (kernel : Kernel) (pid : Pid) (entry : Opened) :
    kernel.Settles pid losses (kernel.modify pid fun task => task.install entry) := by
  refine .resumes (resumes_own ?_ kernel pid)
  exact fun _ => rfl

/-- A new open file changes what a process has open, after the file itself may have changed. -/
theorem settles_opened (same : kernel.SameCompany between) (pid : Pid) (entry : Opened)
    (handles : Array Handle) :
    kernel.Settles pid losses
      { between.modify pid fun task => task.install entry with handles := handles } := by
  have opened : between.Settles pid losses (between.modify pid fun task => task.install entry) :=
    settles_installed between pid entry
  exact (same.settles.trans opened).trans (SameCompany.settles ⟨rfl, rfl, rfl, rfl, rfl⟩)

theorem settles_openFile (kernel : Kernel) (task : Task) (path : Bytes) (how : OpenMode) :
    kernel.Settles task.pid losses (kernel.openFile task path how).2 := by
  unfold openFile
  dsimp only
  split
  · exact .refl kernel
  · refine settles_opened ?_ _ _ _
    split
    · split
      · split
        · exact ⟨rfl, rfl, rfl, rfl, rfl⟩
        · exact ⟨rfl, rfl, rfl, rfl, rfl⟩
      · exact .refl kernel
    · split
      · exact sameCompany_setContents kernel _ _
      · exact .refl kernel
    · exact .refl kernel

theorem settles_openPipe (present : kernel.Houses task) :
    kernel.Settles task.pid losses (kernel.openPipe task).2 := by
  unfold openPipe
  cases task.free? 0 with
  | error errno => exact .refl kernel
  | ok outlet =>
      dsimp only [bind, Except.bind]
      cases (task.install ⟨outlet, kernel.handles.size, true⟩).free? 0 with
      | error errno => exact .refl kernel
      | ok inlet =>
          have opened : kernel.Settles task.pid losses (kernel.modify task.pid fun _ =>
              (task.install ⟨outlet, kernel.handles.size, true⟩).install
                ⟨inlet, kernel.handles.size + 1, true⟩) :=
            settles_install present (.of_seat rfl (fun _ => rfl) fun other => absurd rfl other)
          exact opened.trans (SameCompany.settles ⟨rfl, rfl, rfl, rfl, rfl⟩)

theorem settles_become {path : Bytes} {words : List Bytes} {environment : Environment}
    (became : kernel.become task path words environment = .ok after) :
    kernel.Settles task.pid losses after := by
  unfold become at became
  cases loaded : Loading.load (kernel.view task) (kernel.luggage task environment)
      task.directory path words with
  | error errno => simp [loaded, bind, Except.bind] at became
  | ok program =>
      simp only [loaded, bind, Except.bind, Except.ok.injEq] at became
      subst became
      exact .resumes (resumes_modify fun earlier member is =>
        ⟨earlier, member, is, .of_seat rfl (fun other => absurd is other) fun other =>
          absurd is other⟩)

theorem settles_duplicate {descriptor free : Descriptor} {least : Nat}
    (duplicated : kernel.duplicate task descriptor least = .ok (free, after)) :
    kernel.Settles task.pid losses after := by
  unfold duplicate at duplicated
  split at duplicated
  · cases duplicated
  · next entry _ =>
      split at duplicated
      · cases duplicated
      · cases found : task.free? least with
        | error errno => simp [found, bind, Except.bind] at duplicated
        | ok number =>
            simp only [found, bind, Except.bind, Except.ok.injEq, Prod.mk.injEq] at duplicated
            obtain ⟨rfl, rfl⟩ := duplicated
            exact settles_installed kernel task.pid _

theorem settles_connect {source target : Descriptor}
    (connected : kernel.connect task source target = .ok after) :
    kernel.Settles task.pid losses after := by
  unfold connect at connected
  split at connected
  · cases connected
  · split at connected
    · cases connected
      exact settles_installed kernel task.pid _
    · cases connected

end Kernel

/-- What a host may lose by a call: whoever exits, and who was waited for. -/
def Call.Loses (kernel : Kernel) (task : Task) : Call → Loss → Prop
  | .await child, .forgotten pid | .select child _, .forgotten pid => child = pid
  | .awaitAny _, .forgotten pid => ∃ child ∈ kernel.tasks, child.pid = pid ∧ child.parent = task.pid
  | .exit code, .exited pid other => pid = task.pid ∧ other = code
  | _, _ => False

namespace Kernel

variable {mover pid : Pid} {losses : Loss → Prop} {kernel before between after : Kernel}
  {task child : Task} {request : Call}

/-- By a call that cannot change a name and does not create a process, a host goes on. -/
theorem leaves_plain (present : kernel.Houses task) (plain : request.IsPlain) :
    (kernel.attempt task request).Leaves
      (kernel.Settles task.pid (request.Loses kernel task)) := by
  have refl : kernel.Settles task.pid (request.Loses kernel task) kernel := .refl kernel
  cases request with
  | write descriptor bytes => cases plain
  | setHostname name => cases plain
  | setDomain name => cases plain
  | spawn spawning => cases plain
  | report event => exact (sameCompany_log kernel task event).settles
  | read descriptor limit => exact leaves_read kernel task descriptor limit
  | await child =>
      have lost : (Call.await child).Loses kernel task (.forgotten child) := rfl
      exact leaves_await lost kernel
  | select child signals =>
      have lost : (Call.select child signals).Loses kernel task (.forgotten child) := rfl
      exact leaves_select lost kernel task signals
  | awaitAny patience =>
      exact leaves_awaitAny (fun child member isChild => ⟨child, member, rfl, isChild⟩) patience
  | openFile path how => exact settles_openFile kernel task path how
  | pipe => exact settles_openPipe present
  | send pid signal => exact settles_send kernel task.pid pid signal
  | exit code => exact .exited ⟨rfl, rfl⟩ kernel
  | react signal reaction => exact settles_modify (harmless_react signal reaction) kernel task.pid
  | hold signals =>
      refine settles_change ?_ kernel task.pid
      exact fun _ => rfl
  | duplicate descriptor least =>
      simp only [attempt]
      split
      · next duplicated => exact settles_duplicate duplicated
      · exact refl
  | connect source target =>
      simp only [attempt]
      split
      · next connected => exact settles_connect connected
      · exact refl
  | become path words environment =>
      simp only [attempt]
      split
      · next became => exact settles_become became
      · exact refl
  | close descriptor =>
      simp only [attempt]
      split
      · refine .resumes (resumes_own ?_ kernel task.pid)
        exact fun _ => rfl
      · exact refl
  | enterDirectory path =>
      simp only [attempt]
      split
      · exact refl
      · refine settles_modify ?_ kernel task.pid
        exact fun _ => rfl
      · exact refl
  | setLimit resource wanted =>
      simp only [attempt]
      split
      · exact refl
      · refine settles_modify ?_ kernel task.pid
        exact fun _ => rfl
  | inspect descriptor =>
      simp only [attempt]
      split <;> exact refl
  | openLog | setMask | takeCaught | pause =>
      refine settles_modify ?_ kernel task.pid
      exact fun _ => rfl
  | never => trivial
  | _ => exact refl

/-! ### Names -/

theorem settles_writePipe (kernel : Kernel) (task : Task) (descriptor : Descriptor) (number : Nat)
    (bytes : Bytes) :
    (kernel.writePipe task descriptor number bytes).Leaves (kernel.Settles mover losses) := by
  have left {between : Kernel} (same : kernel.SameCompany between) (unwritten : Bytes) :
      kernel.Settles mover losses (between.modify task.pid fun task => { task with unwritten }) := by
    refine same.settles.trans (settles_modify ?_ between task.pid)
    exact fun _ => rfl
  unfold writePipe
  dsimp only
  split
  · exact (left (.refl kernel) []).trans (settles_signal _ task.pid .brokenPipe)
  · split
    · trivial
    · split <;> split <;> exact left (sameCompany_setPipe kernel _ _) _

theorem settles_writeStored (kernel : Kernel) (task : Task) (descriptor : Descriptor)
    (number : Nat) (handle : Handle) (bytes : Bytes) :
    (kernel.writeStored task descriptor number handle bytes).Leaves (kernel.Settles mover losses) := by
  have written (bytes : Bytes) : kernel.Settles mover losses (kernel.writeThrough number handle bytes) :=
    (sameCompany_writeThrough kernel number handle bytes).settles
  unfold writeStored
  dsimp only
  split
  · split
    · exact (written _).trans (settles_signal _ task.pid .fileTooLarge)
    · exact written bytes
  · exact written bytes

/-- What is written changes names only by way of the files that lead to them. -/
theorem leaves_write (mover : Pid) (kernel : Kernel) (task : Task) (descriptor : Descriptor)
    (bytes : Bytes) :
    (kernel.write task descriptor bytes).Leaves fun after =>
      kernel.Settles mover ((Call.write descriptor bytes).Loses kernel task) after ∨
        ∃ number handle, kernel.handle? task descriptor = some (number, handle) ∧
          handle.channel.LeadsToNames ∧
          ∃ change, (kernel.setNames task change).Settles mover
            ((Call.write descriptor bytes).Loses kernel task) after := by
  have refl : kernel.Settles mover ((Call.write descriptor bytes).Loses kernel task) kernel :=
    .refl kernel
  unfold write
  split
  · exact .inl refl
  · next number handle found =>
      split
      · exact .inl refl
      · split
        · exact .inl refl
        · exact (settles_writePipe kernel task descriptor _ bytes).mono fun _ => .inl
        · exact (settles_writeStored kernel task descriptor number handle bytes).mono fun _ => .inl
        · exact (settles_writeStored kernel task descriptor number handle bytes).mono fun _ => .inl
        · refine .inl (settles_modify ?_ kernel _)
          exact fun _ => rfl
        · next leads =>
            exact .inr ⟨number, handle, found, .inl leads, _, (sameCompany_advance _ _ _ _).settles⟩
        · next leads =>
            exact .inr ⟨number, handle, found, .inr leads, _, (sameCompany_advance _ _ _ _).settles⟩
        · exact .inl refl

theorem rename_eq_ok {name : Bytes} {change : Names → Names}
    (renamed : kernel.rename task name change = .ok after) :
    after = kernel.setNames task change := by
  unfold rename at renamed
  split at renamed
  · cases renamed
  · split at renamed
    · cases renamed
    · exact (Except.ok.inj renamed).symm

/-! ### Children -/

/-- A process has created a child, in its own namespace or in a new one that begins with a copy
of the names. -/
structure Bears (fresh : Bool) (task child : Task) (before after : Kernel) : Prop where
  pid : child.pid = before.nextPid
  parent : child.parent = task.pid
  nextPid : after.nextPid = before.nextPid + 1
  bystanders : after.bystanders = before.bystanders
  tasks : after.tasks = before.tasks ++ [child]
  uts : child.uts = if fresh then before.names.length else task.uts
  ending : child.ending = task.ending
  names : after.names = if fresh then before.names ++ [before.namesFor task] else before.names

theorem bears_fork (kernel : Kernel) (task : Task) (process : Process UInt8) :
    ∃ child, Bears false task child kernel (kernel.fork task process).2 ∧
      child.pid = (kernel.fork task process).1 :=
  ⟨_, ⟨rfl, rfl, rfl, rfl, rfl, rfl, rfl, rfl⟩, rfl⟩

/-- What a process is that runs a loaded program, unless it cannot read its libraries. -/
structure Runs (child : Task) (environment : Environment) (loaded : Loaded) : Prop where
  path : child.path = loaded.path
  words : child.words = loaded.words
  given : child.environment = environment
  process : ∀ {free}, child.free? 0 = .ok free →
    child.process = loaded.program (startOf environment loaded)

theorem free?_congr (one other : Task) (opened : one.opened = other.opened)
    (limits : one.limits = other.limits) (least : Descriptor) :
    one.free? least = other.free? least := by
  have unused (tries : Nat) (least : Descriptor) :
      one.unusedFrom tries least = other.unusedFrom tries least := by
    induction tries generalizing least with
    | zero => rfl
    | succ tries hypothesis =>
        simp [Task.unusedFrom, Task.find?, opened, hypothesis]
  unfold Task.free? Task.mayUse
  rw [opened, limits, unused]

theorem runs_starting (kernel : Kernel) (task : Task) (environment : Environment)
    (loaded : Loaded) : Runs (kernel.starting task environment loaded) environment loaded where
  path := rfl
  words := rfl
  given := rfl
  process {free} isFree := by
    have same : (kernel.starting task environment loaded).free? 0 = task.free? 0 :=
      free?_congr (kernel.starting task environment loaded) task rfl rfl 0
    simp only [starting, same.symm.trans isFree]

theorem sameCompany_childFiles (kernel : Kernel) (task : Task) (streams : Streams) :
    kernel.SameCompany (kernel.childFiles task streams).2 := by
  unfold childFiles
  dsimp only
  split <;> exact ⟨rfl, rfl, rfl, rfl, rfl⟩

theorem bears_spawn {spawning : Spawning} {reply : Except Cause Pid}
    (spawned : kernel.spawn task spawning = (reply, after)) :
    (∃ cause, reply = .error cause ∧ after = kernel) ∨
      ∃ child loaded, reply = .ok child.pid ∧ kernel.loadChild task spawning = .ok loaded ∧
        Runs child task.environment loaded ∧
        Bears spawning.isolation.uts task child kernel after := by
  unfold spawn at spawned
  split at spawned
  · cases spawned
    exact .inl ⟨_, rfl, rfl⟩
  · cases found : kernel.loadChild task spawning with
    | error errno =>
        simp only [found] at spawned
        cases spawned
        exact .inl ⟨_, rfl, rfl⟩
    | ok loaded =>
        simp only [found] at spawned
        cases spawned
        have same := sameCompany_childFiles kernel task spawning.streams
        refine .inr ⟨_, loaded, rfl, rfl, runs_starting _ _ _ _, ?_⟩
        refine ⟨same.nextPid, rfl, congrArg (· + 1) same.nextPid, same.bystanders, ?_, ?_, rfl, ?_⟩
        · exact congrArg (· ++ _) same.tasks
        · cases spawning.isolation.uts with
          | false => rfl
          | true => exact congrArg List.length same.names
        · cases spawning.isolation.uts with
          | false => exact same.names
          | true =>
              have copied : (kernel.childFiles task spawning.streams).2.namesFor task =
                  kernel.namesFor task := by
                unfold namesFor
                rw [same.names]
              rw [if_pos rfl, ← same.names, ← copied]
              rfl

/-! ### Calls -/

end Kernel

/-- Whether a call may change the names in the namespace of the process that makes it. -/
def Call.Renames (kernel : Kernel) (task : Task) : Call → Prop
  | .setHostname _ | .setDomain _ => True
  | .write descriptor _ =>
      ∃ number handle, kernel.handle? task descriptor = some (number, handle) ∧
        handle.channel.LeadsToNames
  | _ => False

namespace Kernel

variable {mover pid : Pid} {kernel before between after : Kernel} {task child : Task}
  {request : Call}

/-- What a call may change: nothing but what lets the host go on, the names in the namespace of
the process that makes it, or that there is a child more. -/
inductive Change (request : Call) (task : Task) (before : Kernel) : Kernel → Prop
  | settles {after : Kernel} (settles : before.Settles task.pid (request.Loses before task) after) :
      Change request task before after
  | renamed {after : Kernel} (change : Names → Names) (may : request.Renames before task)
      (rest : (before.setNames task change).Settles task.pid (request.Loses before task) after) :
      Change request task before after
  | bore {after : Kernel} {child : Task} {spawning : Spawning} (asked : request = .spawn spawning)
      (bears : Bears spawning.isolation.uts task child before after) :
      Change request task before after

/-- Every call changes no more than a call may. -/
theorem leaves_attempt (present : kernel.Houses task) :
    (kernel.attempt task request).Leaves (Change request task kernel) := by
  by_cases plain : request.IsPlain
  · exact (leaves_plain present plain).mono fun _ => .settles
  · cases request with
    | write descriptor bytes =>
        refine (leaves_write task.pid kernel task descriptor bytes).mono fun after changed => ?_
        rcases changed with settles | ⟨number, handle, found, leads, change, settles⟩
        · exact .settles settles
        · exact .renamed change ⟨number, handle, found, leads⟩ settles
    | setHostname name =>
        simp only [attempt]
        split
        · next renamed =>
            rw [rename_eq_ok renamed]
            exact .renamed _ trivial (.refl _)
        · exact .settles (.refl kernel)
    | setDomain name =>
        simp only [attempt]
        split
        · next renamed =>
            rw [rename_eq_ok renamed]
            exact .renamed _ trivial (.refl _)
        · exact .settles (.refl kernel)
    | spawn spawning =>
        simp only [attempt]
        cases spawned : kernel.spawn task spawning with
        | mk reply after =>
            rcases bears_spawn spawned with
              ⟨cause, -, rfl⟩ | ⟨child, loaded, -, -, -, bears⟩
            · exact .settles (.refl after)
            · exact .bore rfl bears
    | _ => exact absurd rfl plain

/-- What becomes of the names: they stay as they are, those of the process's own namespace change,
or there is a copy of these for a new namespace. -/
theorem Change.names_cases (change : Change request task before after) :
    after.names = before.names ∨
      (request.Renames before task ∧
        ∃ names, after.names = before.names.set task.uts names) ∨
      ∃ spawning, request = .spawn spawning ∧ spawning.isolation.uts = true ∧
        after.names = before.names ++ [before.namesFor task] := by
  cases change with
  | settles settles => exact .inl settles.steady.names
  | renamed change may rest => exact .inr (.inl ⟨may, _, rest.steady.names⟩)
  | @bore child spawning asked bears =>
      have names := bears.names
      split at names
      · next fresh => exact .inr (.inr ⟨spawning, asked, fresh, names⟩)
      · exact .inl names

end Kernel

end HostnameSandbox

import HostnameSandbox.Proofs.Launching.Birth
import HostnameSandbox.Proofs.Namespaces.Following

/-!
# What children run

A child runs a program that stands in the file tree, at the path that it was started from.
-/

namespace HostnameSandbox

namespace FileTree

variable {tree : FileTree} {origin place : Place} {path : Bytes} {node : Node}

theorem find?_of_resolve (found : tree.resolve origin path = .ok (place, node)) :
    tree.find? place = some node := by
  unfold resolve lookUp at found
  split at found
  · cases found
  · split at found
    · cases found
    · cases walked : walk tree true linkLimit (if isAbsolute path then [] else origin)
          (names path) with
      | error errno => simp [walked, bind, Except.bind] at found
      | ok other =>
          simp only [walked, bind, Except.bind] at found
          split at found
          · cases found
          · next isThere =>
              cases found
              exact isThere

end FileTree

namespace Loading

variable {files : FileTree} {luggage : Luggage} {origin : Place} {path : Bytes}
  {words : List Bytes} {loaded : Loaded}

/-- A program stands at the path of what is loaded. -/
def Stands (files : FileTree) (loaded : Loaded) : Prop :=
  ∃ place mode, files.find? place = some (.file mode (.program loaded.program)) ∧
    loaded.path = FileTree.pathOf place

/-- No text stands in a file tree, so that nothing is handed to an interpreter. -/
def Textless (files : FileTree) : Prop :=
  ∀ place mode data, files.find? place ≠ some (.file mode (.text data))

theorem loadNested_program {nesting : Nat} {place : Place} {mode : Nat} {program : Program}
    (resolved : files.resolve origin path = .ok (place, .file mode (.program program)))
    (admitted : luggage.admit place mode = .ok ()) :
    loadNested files luggage origin nesting path words =
      .ok ⟨lastName path, FileTree.pathOf place, program, words⟩ := by
  -- the cases differ only in what becomes of texts
  delta loadNested
  cases nesting
  all_goals
    change (files.resolve origin path >>= _) = _
    rw [resolved]
    change ( luggage.admit place mode >>= _) = _
    rw [admitted]
    rfl

theorem stands_of_load (textless : Textless files)
    (found : load files luggage origin path words = .ok loaded) : Stands files loaded := by
  unfold load at found
  cases resolved : files.resolve origin path with
  | error errno => simp [resolved, bind, Except.bind] at found
  | ok entry =>
      obtain ⟨place, node⟩ := entry
      have stands := FileTree.find?_of_resolve resolved
      cases node with
      | directory mode => simp [resolved, bind, Except.bind] at found
      | link target => simp [resolved, bind, Except.bind] at found
      | device channel => simp [resolved, bind, Except.bind] at found
      | file mode content =>
          cases content with
          | text data => exact absurd stands (textless place mode data)
          | program program =>
              cases admitted : luggage.admit place mode with
              | error errno => simp [resolved, admitted, bind, Except.bind] at found
              | ok _ =>
                  simp only [resolved, admitted, loadNested_program resolved admitted, bind,
                    Except.bind] at found
                  split at found
                  · cases found
                  · cases found
                    exact ⟨place, mode, stands, rfl⟩

theorem stands_of_loadOrInterpret (textless : Textless files)
    (found : loadOrInterpret files luggage origin path words = .ok loaded) :
    Stands files loaded := by
  unfold loadOrInterpret at found
  split at found
  · next loads =>
      cases found
      exact stands_of_load textless loads
  · split at found
    · exact stands_of_load textless found
    · cases found

theorem exists_of_search {attempt : Bytes → Except Errno Loaded} {directories : List Bytes}
    {name : Bytes} {denied : Bool} {latest : Errno}
    (found : search attempt name denied latest directories = .ok loaded) :
    ∃ path, attempt path = .ok loaded := by
  induction directories generalizing denied latest with
  | nil => cases found
  | cons directory rest hypothesis =>
      simp only [search] at found
      split at found
      · next loads =>
          cases found
          exact ⟨_, loads⟩
      · split at found
        · exact hypothesis found
        · cases found

/-- What is found is found at some path. -/
theorem exists_of_locate {attempt : Bytes → Except Errno Loaded} {directories : List Bytes}
    {name : Bytes} (found : locate attempt directories name = .ok loaded) :
    ∃ path, attempt path = .ok loaded := by
  unfold locate at found
  split at found
  · cases found
  · split at found
    · exact ⟨name, found⟩
    · split at found
      · cases found
      · exact exists_of_search found

end Loading

namespace Kernel

variable {kernel before after : Kernel} {task child : Task} {move : Move} {pid : Pid}

theorem stands_of_loadChild {spawning : Spawning} {loaded : Loaded}
    (textless : Loading.Textless (kernel.view task))
    (found : kernel.loadChild task spawning = .ok loaded) :
    Loading.Stands (kernel.view task) loaded := by
  unfold loadChild at found
  dsimp only at found
  split at found
  · split at found
    · obtain ⟨path, loads⟩ := Loading.exists_of_locate found
      exact Loading.stands_of_loadOrInterpret textless loads
    · cases found
  · obtain ⟨path, loads⟩ := Loading.exists_of_locate found
    exact Loading.stands_of_load textless loads

/-- What tells about processes is no file that could be run. -/
theorem mem_files_of_find? {place : Place} {mode : Nat} {content : Content}
    (found : (kernel.view task).find? place = some (.file mode content)) :
    (place, .file mode content) ∈ kernel.files.entries := by
  unfold FileTree.find? at found
  split at found
  · cases found
  · obtain ⟨entry, isEntry, same⟩ := Option.map_eq_some_iff.1 found
    have member := List.mem_of_find?_eq_some isEntry
    have holds := List.find?_some isEntry
    obtain ⟨other, node⟩ := entry
    cases same
    obtain rfl : other = place := by simpa using holds
    rcases List.mem_append.1 member with isFile | isReport
    · exact isFile
    · simp [reportEntries, processEntries] at isReport

theorem Acts.of_spawn {spawning : Spawning} {next : Except Cause Pid → Process UInt8}
    (calls : task.process = .call (.spawn spawning) next) (acts : kernel.Acts task after) :
    ∃ reply between, (kernel.atTimeOf task).spawn task spawning = (reply, between) ∧
      after = between.modify task.pid fun task => { task with process := next reply } := by
  cases acts with
  | ends came => cases calls.symm.trans came
  | turns loops => cases calls.symm.trans loops
  | forks splits => cases calls.symm.trans splits
  | tries asks again =>
      cases calls.symm.trans asks
      cases again
  | makes asks answered =>
      cases calls.symm.trans asks
      cases answered
      exact ⟨_, _, rfl, rfl⟩

/-- Whoever is new after a process has made the call for a child is that child. -/
theorem Acts.eq_childOf {spawning : Spawning} {next : Except Cause Pid → Process UInt8}
    (coherent : kernel.Coherent) (member : task ∈ kernel.tasks)
    (calls : task.process = .call (.spawn spawning) next) (acts : kernel.Acts task after)
    (isChild : child ∈ after.tasks) (isNew : child.pid = kernel.nextPid) :
    ∃ loaded, (kernel.atTimeOf task).loadChild task spawning = .ok loaded ∧
      child = (kernel.atTimeOf task).childOf task spawning loaded := by
  obtain ⟨reply, between, spawned, rfl⟩ := acts.of_spawn calls
  obtain ⟨born, isBorn, rfl⟩ := List.mem_map.1 isChild
  have begins : kernel.Steady task.pid (kernel.atTimeOf task) := steady_atTimeOf kernel task
  have isOther : born.pid ≠ task.pid := fun is => by
    rw [if_pos is] at isNew
    exact coherent.ne_nextPid member (is.symm.trans isNew)
  rw [if_neg isOther] at isNew ⊢
  have isYoung : born ∉ (kernel.atTimeOf task).tasks := fun isOld => by
    obtain ⟨earlier, isEarlier, continues⟩ := begins.tasks born isOld
    exact coherent.ne_nextPid isEarlier (continues.pid.symm.trans isNew)
  rw [spawn_eq] at spawned
  split at spawned
  · cases spawned
    exact absurd isBorn isYoung
  · cases loads : (kernel.atTimeOf task).loadChild task spawning with
    | error errno =>
        rw [loads] at spawned
        cases spawned
        exact absurd isBorn isYoung
    | ok loaded =>
        rw [loads] at spawned
        cases spawned
        have same := (sameCompany_childFiles (kernel.atTimeOf task) task spawning.streams).tasks
        rw [Kernel.born, List.mem_append, same, List.mem_singleton] at isBorn
        exact ⟨loaded, rfl, isBorn.resolve_left isYoung⟩

/-- A child that has been created runs what was loaded for it. -/
theorem Acts.runs {spawning : Spawning} {next : Except Cause Pid → Process UInt8}
    (coherent : kernel.Coherent) (member : task ∈ kernel.tasks)
    (calls : task.process = .call (.spawn spawning) next) (acts : kernel.Acts task after)
    (isChild : child ∈ after.tasks) (isNew : child.pid = kernel.nextPid) :
    ∃ loaded, (kernel.atTimeOf task).loadChild task spawning = .ok loaded ∧
      Runs child task.environment loaded := by
  obtain ⟨loaded, loads, rfl⟩ := acts.eq_childOf coherent member calls isChild isNew
  exact ⟨loaded, loads, runs_starting _ _ _ _⟩

end Kernel

/-- What a process begins with that was started by its words. -/
def Task.start (task : Task) : Start :=
  ⟨task.words.head?.getD [], task.words.tail, task.environment⟩

/-- A file tree has programs only, and at a path only a certain one. -/
structure FileTree.Installs (tree : FileTree) (path : Bytes) (program : Program) : Prop where
  textless : ∀ place mode data, (place, .file mode (.text data)) ∉ tree.entries
  sole : ∀ place mode other, (place, .file mode (.program other)) ∈ tree.entries →
    FileTree.pathOf place = path → other = program

/-- What is loaded for a child is one of the files, where these are programs only. -/
theorem Kernel.mem_of_loadChild {kernel : Kernel} {task : Task} {spawning : Spawning}
    {loaded : Loaded}
    (textless : ∀ place mode data, (place, .file mode (.text data)) ∉ kernel.files.entries)
    (loads : kernel.loadChild task spawning = .ok loaded) :
    ∃ place mode, (place, .file mode (.program loaded.program)) ∈ kernel.files.entries ∧
      loaded.path = FileTree.pathOf place := by
  obtain ⟨place, mode, found, path⟩ := stands_of_loadChild
    (fun place mode data found => textless place mode data (mem_files_of_find? found)) loads
  exact ⟨place, mode, mem_files_of_find? found, path⟩

/-- A child runs the program that is installed at the path that it was started from. -/
theorem Kernel.Acts.process_of_installs {kernel after : Kernel} {task child : Task}
    {spawning : Spawning} {next : Except Cause Pid → Process UInt8} {program : Program}
    {free : Descriptor} (coherent : kernel.Coherent) (member : task ∈ kernel.tasks)
    (calls : task.process = .call (.spawn spawning) next) (acts : kernel.Acts task after)
    (isChild : child ∈ after.tasks) (isNew : child.pid = kernel.nextPid)
    (installs : kernel.files.Installs child.path program) (isFree : child.free? 0 = .ok free) :
    child.process = program child.start := by
  obtain ⟨loaded, loads, runs⟩ := acts.runs coherent member calls isChild isNew
  obtain ⟨place, mode, isFile, path⟩ := mem_of_loadChild (by exact installs.textless) loads
  have same : loaded.program = program :=
    installs.sole place mode loaded.program isFile (path.symm.trans runs.path.symm)
  rw [runs.process isFree, same, Task.start, runs.words, runs.given]
  rfl

/-- Whoever has been created, and not by a process that became two, runs what is installed. -/
theorem Kernel.Moves.process_of_installs {before after : Kernel} {move : Move} {pid : Pid}
    {child : Task} {program : Program} {free : Descriptor} (coherent : before.Coherent)
    (moves : Moves before move after) (bears : move.Bears pid child)
    (single : ∀ task ∈ before.tasks, task.pid = pid → ∀ next, task.process ≠ .fork next)
    (installs : before.files.Installs child.path program) (isFree : child.free? 0 = .ok free) :
    child.process = program child.start := by
  obtain ⟨task, member, fresh, is, newborn, -⟩ := moves.born coherent bears
  rcases newborn.may with ⟨spawning, next, spawns, -⟩ | ⟨-, next, forks⟩
  · have isChild : child ∈ after.tasks := moves.after_eq ▸ bears.member
    cases moves with
    | act isMover alive stepped =>
        obtain rfl := coherent.eq_of_pid isMover member
          ((Option.some.inj bears.mover).trans is.symm)
        exact (acts_of_stepOther? stepped).process_of_installs coherent member spawns isChild
          newborn.pid installs isFree
    | fail isMover alive step fails =>
        exact absurd newborn.nextPid (Int.ne_of_lt (Int.lt_succ _))
    | signal other signal => cases bears.mover
    | grant privilege => cases bears.mover
  · exact absurd forks (single task member is next)

/-! ### Files -/

/-- A process without open files is about to prepare for what it will do, or to create a child. -/
def Task.PreparesQuietly (task : Task) : Bool :=
  task.opened.isEmpty &&
    match task.process with
    | .call (.report _) _ | .call (.openLog _) _ | .call (.react _ _) _ | .call .ownPath _
    | .call (.spawn _) _ => true
    | _ => false

namespace Kernel

variable {kernel first last before after : Kernel} {task : Task} {move : Move} {trace : List Move}

theorem files_log (closed : task.opened = []) (event : Event) :
    (kernel.log task event).files = kernel.files := by
  have none : kernel.handle? task Descriptor.error = none := by
    simp [handle?, Task.find?, closed]
  unfold log
  split
  · rfl
  · rfl
  · split
    · simp [none]
    · rfl

theorem files_spawn (kernel : Kernel) (task : Task) (spawning : Spawning) :
    (kernel.spawn task spawning).2.files = kernel.files := by
  unfold spawn
  split
  · rfl
  · split
    · rfl
    · unfold childFiles
      dsimp only
      split <;> rfl

theorem files_of_stepOther? (quiet : task.PreparesQuietly)
    (stepped : kernel.stepOther? task = some after) : after.files = kernel.files := by
  rw [Task.PreparesQuietly, Bool.and_eq_true, List.isEmpty_iff] at quiet
  obtain ⟨closed, quiet⟩ := quiet
  cases acts_of_stepOther? stepped with
  | ends came => simp [came] at quiet
  | turns loops => simp [loops] at quiet
  | forks splits => simp [splits] at quiet
  | tries calls again =>
      rw [calls] at quiet
      rcases again_cases again with
        ⟨descriptor, bytes, rfl⟩ | ⟨path, words, environment, rfl⟩ | ⟨code, rfl⟩ <;> cases quiet
  | @makes request next reply between calls answered =>
      rw [calls] at quiet
      change between.files = kernel.files
      cases request with
      | report event =>
          cases answered
          exact files_log closed event
      | openLog filter =>
          cases answered
          rfl
      | react signal reaction =>
          cases answered
          rfl
      | ownPath =>
          cases answered
          rfl
      | spawn spawning =>
          cases answered
          exact files_spawn (kernel.atTimeOf task) task spawning
      | _ => cases quiet

/-- Files stay as they are while processes only prepare for what they will do. -/
theorem files_play {pids : List Pid} {kernel : Kernel}
    (quiet : ∀ move ∈ (play pids kernel).1,
      (move.mover?.bind move.before.task?).any Task.PreparesQuietly) :
    (play pids kernel).2.files = kernel.files := by
  induction pids generalizing kernel with
  | nil => rfl
  | cons pid pids hypothesis =>
      have rest := hypothesis fun move member => quiet move (List.mem_cons_of_mem _ member)
      refine Eq.trans rest ?_
      have now := quiet _ List.mem_cons_self
      simp only [Option.bind_some] at now
      unfold acted
      cases found : kernel.task? pid with
      | none => rfl
      | some task =>
          cases stepped : kernel.stepOther? task with
          | none => simp [stepped]
          | some after =>
              have prepares : task.PreparesQuietly := by simpa [found] using now
              simpa [stepped] using files_of_stepOther? prepares stepped

end Kernel

end HostnameSandbox

import HostnameSandbox.Proofs.Launching.Birth
import HostnameSandbox.Proofs.Logging.Access
import HostnameSandbox.Proofs.Logging.Loading
import HostnameSandbox.Proofs.Namespaces.Change

/-!
# Children on hosts that differ in what is logged

Processes on two hosts that differ only in what is logged create the same child, even if one of
them gives it a flag more, as long as the words fit on both hosts.
-/

namespace HostnameSandbox

/-- Two children are asked for in the same way, but for their arguments. -/
structure Spawning.Alike (one two : Spawning) : Prop where
  path : one.path = two.path
  streams : one.streams = two.streams
  isolation : one.isolation = two.isolation
  reactions : one.reactions = two.reactions
  nul : (one.args.any fun word => word.contains 0) = two.args.any fun word => word.contains 0

/-- A program that does the same whether a variable is set or not. -/
def Program.Ignores (program : Program) (name : String) : Prop :=
  ∀ start : Start, program { start with environment := start.environment.unset name } =
    program start

theorem Environment.unset_unset (environment : Environment) (name : String) :
    (environment.unset name).unset name = environment.unset name := by
  simp [unset]

theorem Task.muted_muted {stages later : List Pid} (more : stages ⊆ later) (task : Task) :
    (task.muted stages).muted later = task.muted later := by
  simp only [muted, Environment.unset_unset]
  by_cases now : task.pid ∈ later
  · simp [now]
  · have before : task.pid ∉ stages := fun member => now (more member)
    simp [now, before]

theorem Task.muted_congr {stages : List Pid} {task other : Task}
    (rest : { task with words := [], environment := [], process := .done 0 } =
      { other with words := [], environment := [], process := .done 0 })
    (environment : task.environment.unset Sandbox.logVariable =
      other.environment.unset Sandbox.logVariable)
    (shown : task.pid ∉ stages → task.words = other.words ∧ task.process = other.process) :
    task.muted stages = other.muted stages := by
  have pid : task.pid = other.pid := (congrArg Task.pid rest :)
  have muted (task : Task) : task.muted stages =
      { ({ task with words := [], environment := [], process := .done 0 } : Task).muted stages with
        environment := task.environment.unset Sandbox.logVariable
        words := if task.pid ∈ stages then [] else task.words
        process := if task.pid ∈ stages then .done 0 else task.process } := rfl
  rw [muted task, muted other, rest, environment, pid]
  by_cases stage : other.pid ∈ stages
  · simp only [if_pos stage]
  · obtain ⟨words, process⟩ := shown (pid ▸ stage)
    rw [words, process]

theorem Handle.muted_muted (handle : Handle) (sink : Channel) :
    (handle.muted sink).muted sink = handle.muted sink := by
  by_cases leads : handle.channel = sink
  · cases sink <;> simp [muted, leads]
  · rw [muted_of_ne leads, muted_of_ne leads]

theorem FileTree.muted_muted (tree : FileTree) (sink : Channel) :
    (tree.muted sink).muted sink = tree.muted sink := by
  have blind : Blind sink id := blind_of_file fun place tree mode content found => by
    rw [id, id, muted_of_find? (find?_muted_self found), muted_of_find? found]
    simp [List.filter_filter]
  exact (blind tree).symm

namespace Kernel

variable {sink : Channel} {stages later : List Pid}

/-- A host stays without what is logged when more processes are known to play stages. -/
theorem muted_muted (more : stages ⊆ later) (kernel : Kernel) :
    (kernel.muted sink stages).muted sink later = kernel.muted sink later := by
  have stores : sink.muteStores (sink.muteStores kernel.stores) = sink.muteStores kernel.stores := by
    cases sink <;> simp [Channel.muteStores]
  have pipes : sink.mutePipes (sink.mutePipes kernel.pipes) = sink.mutePipes kernel.pipes := by
    cases sink <;> simp [Channel.mutePipes]
  simp [muted, stores, pipes, FileTree.muted_muted, Handle.muted_muted, Task.muted_muted more]

/-! ### What is seen of other processes -/

theorem writtenPlaces_muted (kernel : Kernel) :
    (kernel.muted sink stages).writtenPlaces = kernel.writtenPlaces := by
  unfold writtenPlaces
  change (kernel.tasks.map fun task => task.muted stages).flatMap _ = _
  rw [List.flatMap_map]
  refine congrArg (List.flatMap · kernel.tasks) (funext fun task => ?_)
  change (if task.isAlive then _ else _) = _
  split
  · refine congrArg (List.filterMap · task.opened) (funext fun entry => ?_)
    simp only [handles_muted]
    cases kernel.handles[entry.handle]? with
    | none => rfl
    | some handle => simp only [Option.map_some, bind, Option.bind_some, Handle.channel_muted,
        Handle.writes_muted]
  · rfl

theorem alike_view {one two : Kernel} {task other : Task}
    (same : one.muted sink stages = two.muted sink stages)
    (sameTask : task.muted stages = other.muted stages)
    (textual : one.files.Textual sink) (textualToo : two.files.Textual sink) :
    FileTree.Alike sink (one.view task) (two.view other) where
  places := samePlaces_view same sameTask
  programs data := by
    have files : one.files.programOf? data = two.files.programOf? data := by
      have muted : one.files.muted sink = two.files.muted sink := congrArg Kernel.files same
      rw [← FileTree.programOf?_muted textual, muted, FileTree.programOf?_muted textualToo]
    rw [view, view, ← reportEntries_alike same sameTask, FileTree.programOf?_append,
      FileTree.programOf?_append, files]

/-! ### Loading the program of a child -/

/-- Somebody may write where things are logged to. -/
theorem guards_of_sinkOf {kernel : Kernel} {task : Task} (member : task ∈ kernel.tasks)
    (alive : task.isAlive) (other : Task) (environment : Environment) :
    (kernel.luggage other environment).Guards (kernel.sinkOf task) := by
  intro place leads
  rw [List.contains_iff_mem]
  refine List.mem_flatMap.2 ⟨task, member, ?_⟩
  rw [if_pos alive, List.mem_filterMap]
  unfold sinkOf at leads
  split at leads
  · next number handle found =>
      split at leads
      · next writes =>
          unfold handle? at found
          obtain ⟨entry, isEntry, found⟩ := Option.bind_eq_some_iff.1 found
          obtain ⟨there, isThere, found⟩ := Option.bind_eq_some_iff.1 found
          cases found
          refine ⟨entry, List.mem_of_find?_eq_some isEntry, ?_⟩
          simp [isThere, ← leads, writes]
      · cases leads
  · cases leads

section

variable {one two : Kernel} {task other : Task} (same : one.muted sink stages = two.muted sink stages)
  (sameTask : task.muted stages = other.muted stages)
include same sameTask

theorem loadChild_matches {related : List Bytes → List Bytes → Prop}
    (textual : one.files.Textual sink) (textualToo : two.files.Textual sink)
    (guards : (one.luggage task task.environment).Guards sink) (carries : Loading.Carries related)
    {spawning asked : Spawning} (alike : spawning.Alike asked)
    (relates : related (spawning.path :: spawning.args) (asked.path :: asked.args))
    (fits : one.loadChild task spawning ≠ .error .argumentsTooLong)
    (fitsToo : two.loadChild other asked ≠ .error .argumentsTooLong) :
    Loading.Matches related (one.loadChild task spawning) (two.loadChild other asked) := by
  have views := alike_view same sameTask textual textualToo
  have written : (one.luggage task task.environment).written =
      (two.luggage other other.environment).written := by
    change one.writtenPlaces = two.writtenPlaces
    rw [← writtenPlaces_muted, same, writtenPlaces_muted]
  have directory : task.directory = other.directory := (congrArg Task.directory sameTask :)
  have privileged : task.privileged = other.privileged :=
    (congrArg Task.privileged sameTask :)
  have searchPath : task.searchPath = other.searchPath := by
    have apart : Bytes.ofString "PATH" ≠ Bytes.ofString Sandbox.logVariable := by decide
    have environment : task.environment.unset _ = other.environment.unset _ :=
      congrArg Task.environment sameTask
    unfold Task.searchPath
    rw [← Environment.value?_unset apart, environment, Environment.value?_unset apart]
  unfold loadChild at fits fitsToo ⊢
  rw [← alike.path, ← alike.isolation, ← directory, ← privileged, ← searchPath] at fitsToo ⊢
  rw [← alike.path] at relates
  dsimp only at fits fitsToo ⊢
  split
  · next asks =>
      rw [if_pos asks] at fits fitsToo
      split
      · next may =>
          rw [if_pos may] at fits fitsToo
          exact Loading.locate_matches (fun path fits fitsToo =>
            Loading.loadOrInterpret_matches views written guards carries _ path relates fits fitsToo)
            _ _ fits fitsToo
      · exact .error .notPermitted
  · next asks =>
      rw [if_neg asks] at fits fitsToo
      exact Loading.locate_matches (fun path fits fitsToo =>
        Loading.load_matches views written guards carries _ path relates (.inl ⟨fits, fitsToo⟩))
        _ _ fits fitsToo

end

/-! ### The birth of a child -/

theorem childFiles_muted (kernel : Kernel) (task : Task) (streams : Streams) :
    (kernel.muted sink stages).childFiles (task.muted stages) streams =
      ((kernel.childFiles task streams).1, (kernel.childFiles task streams).2.muted sink stages) := by
  have null : (⟨.null, true, true, false, 0⟩ : Handle).muted sink = ⟨.null, true, true, false, 0⟩ := by
    cases sink <;> simp [Handle.muted]
  unfold childFiles
  dsimp only
  have size : (kernel.muted sink stages).handles.size = kernel.handles.size := by simp [muted]
  rw [size]
  split
  · rfl
  · simp only [muted, Array.map_push, null]
    rfl

theorem process_starting_congr {kernel between : Kernel} {task other : Task} {loaded : Loaded}
    (opened : task.opened = other.opened) (limits : task.limits = other.limits)
    (environment : Environment) :
    (kernel.starting task environment loaded).process =
      (between.starting other environment loaded).process := by
  unfold starting
  dsimp only
  rw [free?_congr task other opened limits]

/-- What a process does that begins to run a program which does the same without a variable. -/
theorem process_starting_unset {kernel between : Kernel} {task other : Task} {loaded : Loaded}
    {name : String} (opened : task.opened = other.opened) (limits : task.limits = other.limits)
    (ignores : loaded.program.Ignores name) (environment : Environment) :
    (kernel.starting task environment loaded).process =
      (between.starting other (environment.unset name) loaded).process := by
  have same : (kernel.starting task environment loaded).process =
      (between.starting other environment loaded).process :=
    process_starting_congr opened limits environment
  rw [same]
  unfold starting
  dsimp only
  split
  · exact (ignores _).symm
  · rfl

theorem childOf_muted (kernel : Kernel) (task : Task) (spawning : Spawning)
    {loaded : Loaded}
    (spares : kernel.nextPid ∈ later ∨ loaded.program.Ignores Sandbox.logVariable) :
    (kernel.childOf task spawning loaded).muted later =
      ((kernel.muted sink stages).childOf (task.muted stages) spawning loaded).muted later := by
  have next := nextPid_childFiles kernel task spawning.streams
  unfold childOf newborn
  rw [childFiles_muted]
  generalize kernel.childFiles task spawning.streams = files at next
  obtain ⟨opened, between⟩ := files
  refine Task.muted_congr rfl (Environment.unset_unset _ _).symm fun foreign => ⟨rfl, ?_⟩
  refine process_starting_unset ?_ ?_ (spares.resolve_left (next ▸ foreign)) task.environment
  · rfl
  · rfl

theorem born_muted (more : stages ⊆ later) (kernel : Kernel) (task : Task) (spawning : Spawning)
    {loaded : Loaded}
    (spares : kernel.nextPid ∈ later ∨ loaded.program.Ignores Sandbox.logVariable) :
    (kernel.born task spawning loaded).muted sink later =
      ((kernel.muted sink stages).born (task.muted stages) spawning loaded).muted sink later := by
  have joins (kernel : Kernel) (names : List Names) (nextPid : Pid) (child : Task) :
      ({ kernel with names, nextPid, tasks := kernel.tasks ++ [child] } : Kernel).muted sink later =
        { kernel.muted sink later with
          names, nextPid, tasks := (kernel.muted sink later).tasks ++ [child.muted later] } := by
    simp [muted]
  unfold born
  rw [childFiles_muted]
  dsimp only
  rw [joins, joins, muted_muted more, ← childOf_muted kernel task spawning spares]
  rfl

/-- It makes no difference what words a child is created with that plays a stage. -/
theorem born_words {kernel : Kernel} (member : kernel.nextPid ∈ later) (task : Task)
    (spawning : Spawning) (loaded : Loaded) (words : List Bytes) :
    (kernel.born task spawning { loaded with words }).muted sink later =
      (kernel.born task spawning loaded).muted sink later := by
  have child : (kernel.childOf task spawning { loaded with words }).muted later =
      (kernel.childOf task spawning loaded).muted later := by
    refine Task.muted_congr rfl rfl fun foreign => absurd ?_ foreign
    change (kernel.childFiles task spawning.streams).2.nextPid ∈ later
    rwa [nextPid_childFiles]
  unfold born
  simp only [muted, List.map_append, List.map_cons, child]

section

variable {one two : Kernel} {task other : Task} (same : one.muted sink stages = two.muted sink stages)
  (sameTask : task.muted stages = other.muted stages) {spawning asked : Spawning}
  (alike : spawning.Alike asked)
include same sameTask alike

theorem born_alike (more : stages ⊆ later) {loaded : Loaded} {words : List Bytes}
    (shown : one.nextPid ∈ later ∨
      loaded.words = words ∧ loaded.program.Ignores Sandbox.logVariable) :
    (one.born task spawning loaded).muted sink later =
      (two.born other asked { loaded with words }).muted sink later := by
  have next : one.nextPid = two.nextPid := (congrArg Kernel.nextPid same :)
  have asks : spawning = { asked with path := spawning.path, args := spawning.args } := by
    obtain ⟨path, args, streams, isolation, reactions⟩ := spawning
    simp only [Spawning.mk.injEq, true_and]
    exact ⟨alike.streams, alike.isolation, alike.reactions⟩
  rw [born_muted more two other asked (next ▸ shown.imp id And.right),
    born_muted more one task spawning (shown.imp id And.right), same, sameTask, asks]
  rcases shown with member | ⟨rfl, -⟩
  · refine (born_words ?_ _ _ loaded words).symm
    exact next ▸ member
  · rfl

/-- Both processes fail to create a child in the same way, or both create one. -/
theorem spawn_alike {related : List Bytes → List Bytes → Prop}
    (textual : one.files.Textual sink) (textualToo : two.files.Textual sink)
    (guards : (one.luggage task task.environment).Guards sink) (carries : Loading.Carries related)
    (relates : related (spawning.path :: spawning.args) (asked.path :: asked.args))
    (fits : one.loadChild task spawning ≠ .error .argumentsTooLong)
    (fitsToo : two.loadChild other asked ≠ .error .argumentsTooLong) :
    (∃ cause, one.spawn task spawning = (.error cause, one) ∧
      two.spawn other asked = (.error cause, two)) ∨
    ∃ loaded words, one.loadChild task spawning = .ok loaded ∧ related loaded.words words ∧
      one.spawn task spawning = (.ok one.nextPid, one.born task spawning loaded) ∧
      two.spawn other asked = (.ok one.nextPid, two.born other asked { loaded with words }) := by
  have next : one.nextPid = two.nextPid := (congrArg Kernel.nextPid same :)
  have loads := loadChild_matches same sameTask textual textualToo guards carries alike relates fits
    fitsToo
  have nul : ((spawning.path :: spawning.args).any fun word => word.contains 0) =
      (asked.path :: asked.args).any fun word => word.contains 0 := by
    rw [List.any_cons, List.any_cons, alike.path, alike.nul]
  rw [spawn_eq, spawn_eq, ← nul, ← next]
  split
  · exact .inl ⟨_, rfl, rfl⟩
  · generalize one.loadChild task spawning = found at loads
    generalize two.loadChild other asked = foundToo at loads
    cases loads with
    | error errno => exact .inl ⟨_, rfl, rfl⟩
    | ok name path program relates => exact .inr ⟨_, _, rfl, relates, rfl, rfl⟩

end

/-! ### Turning into another program -/

theorem modify_muted_twice {change later : Task → Task}
    (same : ∀ task, (change task).muted stages = (later (task.muted stages)).muted stages)
    (kernel : Kernel) (pid : Pid) :
    (kernel.modify pid change).muted sink stages =
      ((kernel.muted sink stages).modify pid later).muted sink stages := by
  have rest (kernel : Kernel) (tasks : List Task) :
      ({ kernel with tasks } : Kernel).muted sink stages =
        { kernel.muted sink stages with tasks := tasks.map fun task => task.muted stages } := rfl
  rw [modify, modify, rest kernel, rest (kernel.muted sink stages),
    muted_muted (List.Subset.refl stages)]
  refine congrArg (fun tasks => { kernel.muted sink stages with tasks }) ?_
  simp only [muted, List.map_map]
  refine List.map_congr_left fun task _ => ?_
  simp only [Function.comp_apply]
  change (if task.pid = pid then change task else task : Task).muted stages =
    (if task.pid = pid then later (task.muted stages) else task.muted stages : Task).muted stages
  split
  · exact same task
  · exact (Task.muted_muted (List.Subset.refl stages) task).symm

section

variable {one two : Kernel} {task other : Task} (same : one.muted sink stages = two.muted sink stages)
  (sameTask : task.muted stages = other.muted stages)
include same sameTask

/-- Both processes fail to turn into another program in the same way, or both turn into one. -/
theorem become_alike (textual : one.files.Textual sink) (textualToo : two.files.Textual sink)
    {path : Bytes} {words : List Bytes} {environment : Environment}
    (guards : (one.luggage task environment).Guards sink) :
    (∃ errno, one.become task path words environment = .error errno ∧
      two.become other path words environment = .error errno) ∨
    ∃ after also, one.become task path words environment = .ok after ∧
      two.become other path words environment = .ok also ∧
        after.muted sink stages = also.muted sink stages := by
  have pid : task.pid = other.pid := (congrArg Task.pid sameTask :)
  have directory : task.directory = other.directory := (congrArg Task.directory sameTask :)
  have luggage : one.luggage task environment = two.luggage other environment := by
    have limits : task.limits = other.limits := (congrArg Task.limits sameTask :)
    have written : one.writtenPlaces = two.writtenPlaces := by
      rw [← writtenPlaces_muted, same, writtenPlaces_muted]
    rw [Kernel.luggage, Kernel.luggage, Task.roomForWords, Task.roomForWords, limits, written]
  have turned (kernel : Kernel) (loaded : Loaded) :
      (kernel.modify task.pid fun task => kernel.starting
          { task with opened := task.lastingFiles, reactions := task.survivingReactions }
          environment loaded).muted sink stages =
        ((kernel.muted sink stages).modify task.pid fun task => (kernel.muted sink stages).starting
          { task with opened := task.lastingFiles, reactions := task.survivingReactions }
          environment loaded).muted sink stages := by
    refine modify_muted_twice (fun later => ?_) kernel task.pid
    refine Task.muted_congr rfl rfl fun _ => ⟨rfl, process_starting_congr ?_ ?_ environment⟩
    · rfl
    · rfl
  have loads := Loading.load_matches (alike_view same sameTask textual textualToo)
    (congrArg Loading.Luggage.written luggage) guards Loading.carries_eq task.directory path
    (rfl : words = words) (.inr (by rw [luggage]))
  unfold become
  rw [← directory]
  generalize Loading.load (one.view task) (one.luggage task environment) task.directory path words =
    loaded at loads
  generalize Loading.load (two.view other) (two.luggage other environment) task.directory path words =
    loadedToo at loads
  cases loads with
  | error errno => exact .inl ⟨errno, rfl, rfl⟩
  | ok name path program is =>
      refine .inr ⟨_, _, rfl, rfl, ?_⟩
      rw [← pid, turned one, turned two, same, is]

end

end Kernel

end HostnameSandbox

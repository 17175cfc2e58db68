import HostnameSandbox.Proofs.Logging.OpenFiles
import HostnameSandbox.Proofs.Logging.Paths

/-!
# Files on hosts that differ in what is logged

On two hosts that differ only in what is logged, a process is told the same of files that it looks
at, unless it is the one that things are logged to, and by every path it opens the same file.
-/

namespace HostnameSandbox

/-- Whether what can be told of the file that a channel leads to depends on what is logged. -/
def Channel.Reveals (channel sink : Channel) : Prop :=
  match channel with
  | .store _ => channel = sink
  | .file place | .directory place => Channel.file place = sink
  | _ => False

/-- Whether what can be told of what stands at a place depends on what is logged. -/
def Node.Reveals (node : Node) (place : Place) (sink : Channel) : Prop :=
  Channel.file place = sink ∨
    match node with
    | .device channel => channel.Reveals sink
    | _ => False

theorem Handle.muted_of_not_reveals {handle : Handle} {sink : Channel}
    (hides : ¬ handle.channel.Reveals sink) : handle.muted sink = handle := by
  refine muted_of_stored fun stored leads => hides ?_
  rw [leads]
  cases sink <;> first | exact rfl | cases stored

namespace Kernel

variable {sink : Channel} {stages : List Pid}

/-! ### What is seen of other processes -/

theorem processEntries_muted (kernel : Kernel) (task : Task) :
    (kernel.muted sink stages).processEntries (task.muted stages) = kernel.processEntries task := by
  unfold processEntries
  simp only [handles_muted, Option.map_map, Function.comp_def, Handle.channel_muted]
  rfl

theorem reportEntries_muted (kernel : Kernel) (task : Task) :
    (kernel.muted sink stages).reportEntries (task.muted stages) = kernel.reportEntries task := by
  have entries : (kernel.muted sink stages).tasks.flatMap
      (kernel.muted sink stages).processEntries = kernel.tasks.flatMap kernel.processEntries := by
    change (kernel.tasks.map fun task => task.muted stages).flatMap _ = _
    rw [List.flatMap_map]
    simp only [processEntries_muted]
  unfold reportEntries
  rw [entries]
  rfl

/-! ### What is told of files -/

theorem changeTime_muted {place : Place} (apart : Channel.file place ≠ sink) (kernel : Kernel) :
    (kernel.muted sink stages).changeTime place = kernel.changeTime place := by
  have told : (kernel.muted sink stages).tasks.any (fun task =>
        (processPlace task.pid).isPrefixOf place) =
      kernel.tasks.any fun task => (processPlace task.pid).isPrefixOf place := by
    rw [muted, List.any_map]
    rfl
  have changes : (kernel.muted sink stages).changes.find? (fun entry => entry.1 = place) =
      kernel.changes.find? fun entry => entry.1 = place := by
    rw [muted, List.find?_filter]
    congr 1
    funext entry
    by_cases is : entry.1 = place <;> simp [is, apart]
  unfold changeTime
  rw [told, changes]
  rfl

theorem placeFacts_muted {place : Place} (apart : Channel.file place ≠ sink) (kernel : Kernel)
    (node : Node) : (kernel.muted sink stages).placeFacts place node = kernel.placeFacts place node := by
  rw [placeFacts, placeFacts, changeTime_muted apart]

theorem channelFacts_muted {channel : Channel} (hides : ¬ channel.Reveals sink) (kernel : Kernel) :
    (kernel.muted sink stages).channelFacts channel = kernel.channelFacts channel := by
  have stands {place : Place} (apart : Channel.file place ≠ sink) :
      (kernel.muted sink stages).files.find? place = kernel.files.find? place := by
    change (kernel.files.muted sink).find? place = _
    rw [FileTree.find?_muted]
    simp only [Node.muted_of_ne apart, Option.map_id']
  cases channel with
  | file place | directory place =>
      have apart : Channel.file place ≠ sink := hides
      unfold channelFacts
      dsimp only
      rw [stands apart]
      cases kernel.files.find? place with
      | none => rfl
      | some node => exact placeFacts_muted apart kernel node
  | store number =>
      have apart : Channel.store number ≠ sink := hides
      unfold channelFacts
      dsimp only
      rw [contents_muted apart]
      rfl
  | _ => rfl

/-! ### Changed files -/

theorem changed_eq (kernel : Kernel) (tree : FileTree) :
    kernel.changed tree = tree.among fun place =>
      !(["self", "thread-self"].map fun name =>
          [Bytes.ofString "proc", Bytes.ofString name]).contains place &&
        !(kernel.members.map fun member => processPlace member.1).any fun shown =>
          shown.isPrefixOf place := by
  unfold changed FileTree.among
  dsimp only

/-- The kernel after a file has been emptied or created at a place. -/
def emptied (kernel : Kernel) (place : Place) (tree : FileTree) (truncates : Bool) : Kernel :=
  let isNew := (kernel.files.find? place).isNone
  if isNew || truncates then
    let kernel := { kernel with files := kernel.changed tree }.touch place
    if isNew then kernel.touch place.dropLast else kernel
  else kernel

/-! ### Opening files -/

/-- The kernel with an open file more, which a process has by a number. -/
def given (kernel : Kernel) (task : Task) (descriptor : Descriptor) (handle : Handle) : Kernel :=
  { kernel.modify task.pid fun task => task.install ⟨descriptor, kernel.handles.size, true⟩ with
    handles := kernel.handles.push handle }

theorem given_muted (kernel : Kernel) (task : Task) (descriptor : Descriptor) (handle : Handle) :
    (kernel.given task descriptor handle).muted sink stages =
      (kernel.muted sink stages).given task descriptor (handle.muted sink) := by
  have size : (kernel.muted sink stages).handles.size = kernel.handles.size := by simp [muted]
  have adds (kernel : Kernel) (handles : Array Handle) :
      ({ kernel with handles } : Kernel).muted sink stages =
        { kernel.muted sink stages with handles := handles.map fun handle => handle.muted sink } :=
    rfl
  rw [given, given, adds, install_muted, size, Array.map_push]
  rfl

section

variable {one two : Kernel} (same : one.muted sink stages = two.muted sink stages)
include same

theorem changed_alike {tree also : FileTree} (trees : tree.muted sink = also.muted sink) :
    (one.changed tree).muted sink = (two.changed also).muted sink := by
  have members : one.members = two.members := by
    rw [← members_muted one, same, members_muted]
  have shown : one.changed also = two.changed also := by
    rw [changed, changed, members]
  rw [← shown, changed_eq, changed_eq]
  exact (FileTree.blind_among _).muted_eq trees

theorem isRunning_alike (channel : Channel) : one.isRunning channel = two.isRunning channel := by
  have runs (kernel : Kernel) : (kernel.muted sink stages).isRunning channel =
      kernel.isRunning channel := by
    cases channel with
    | file place => exact List.any_map
    | _ => rfl
  rw [← runs one, same, runs]

theorem touch_alike (place : Place) :
    (one.touch place).muted sink stages = (two.touch place).muted sink stages := by
  by_cases is : Channel.file place = sink
  · subst is
    rw [touch_muted_self, touch_muted_self, same]
  · rw [touch_muted is, touch_muted is, same]

theorem setContents_alike (channel : Channel) (data : Data) :
    (one.setContents channel data).muted sink stages =
      (two.setContents channel data).muted sink stages := by
  by_cases is : channel = sink
  · subst is
    rw [setContents_muted_self, setContents_muted_self, same]
  · rw [setContents_muted is, setContents_muted is, same]

theorem emptied_alike (place : Place) {tree also : FileTree} (truncates : Bool)
    (trees : tree.muted sink = also.muted sink) :
    (one.emptied place tree truncates).muted sink stages =
      (two.emptied place also truncates).muted sink stages := by
  have isNew : (one.files.find? place).isNone = (two.files.find? place).isNone := by
    have there (kernel : Kernel) : ((kernel.files.muted sink).find? place).isNone =
        (kernel.files.find? place).isNone := by
      rw [FileTree.find?_muted, Option.isNone_map]
    have files : one.files.muted sink = two.files.muted sink := congrArg Kernel.files same
    rw [← there one, files, there]
  have stored : ({ one with files := one.changed tree } : Kernel).muted sink stages =
      ({ two with files := two.changed also } : Kernel).muted sink stages := by
    have files := changed_alike same trees
    have rest (kernel : Kernel) (files : FileTree) :
        ({ kernel with files } : Kernel).muted sink stages =
          { kernel.muted sink stages with files := files.muted sink } := rfl
    rw [rest one, rest two, same, files]
  unfold emptied
  dsimp only
  rw [isNew]
  split
  · have touched := touch_alike stored place
    split
    · exact touch_alike touched place.dropLast
    · exact touched
  · exact same

end

/-! ### Two hosts -/

section

variable {one two : Kernel} {task other : Task} (same : one.muted sink stages = two.muted sink stages)
  (sameTask : task.muted stages = other.muted stages)
include same sameTask

theorem exists_handle?_alike {descriptor : Descriptor} {number : Nat} {handle : Handle}
    (found : one.handle? task descriptor = some (number, handle)) :
    ∃ also, two.handle? other descriptor = some (number, also) ∧
      also.muted sink = handle.muted sink := by
  have found : (two.handle? other descriptor).map (fun entry => (entry.1, entry.2.muted sink)) =
      some (number, handle.muted sink) := by
    rw [← handle?_muted, ← same, ← sameTask, handle?_muted, found]
    rfl
  obtain ⟨⟨also, handleToo⟩, foundToo, is⟩ := Option.map_eq_some_iff.1 found
  obtain ⟨number, is⟩ := Prod.mk.inj is
  exact ⟨handleToo, number ▸ foundToo, is⟩

theorem reportEntries_alike : one.reportEntries task = two.reportEntries other := by
  rw [← reportEntries_muted, same, sameTask, reportEntries_muted]

theorem view_alike : (one.view task).muted sink = (two.view other).muted sink := by
  have files : one.files.muted sink = two.files.muted sink := congrArg Kernel.files same
  rw [view, view, ← reportEntries_alike same sameTask]
  exact (FileTree.blind_append _).muted_eq files

theorem samePlaces_view : FileTree.SamePlaces sink (one.view task) (two.view other) :=
  FileTree.samePlaces_of_muted (view_alike same sameTask)

/-- By a number a process is told the same on both hosts of anything but what things are logged to. -/
theorem inspect_alike {descriptor : Descriptor}
    (hides : ∀ number handle, one.handle? task descriptor = some (number, handle) →
      ¬ handle.channel.Reveals sink) :
    (one.handle? task descriptor).map (fun entry =>
        (⟨one.channelFacts entry.2.channel, entry.2.offset, entry.2.appends⟩ : OpenFacts)) =
      (two.handle? other descriptor).map fun entry =>
        ⟨two.channelFacts entry.2.channel, entry.2.offset, entry.2.appends⟩ := by
  cases found : one.handle? task descriptor with
  | none =>
      cases foundToo : two.handle? other descriptor with
      | none => rfl
      | some entry =>
          obtain ⟨also, isThere, -⟩ := exists_handle?_alike same.symm sameTask.symm foundToo
          rw [found] at isThere
          cases isThere
  | some entry =>
      obtain ⟨number, handle⟩ := entry
      have hides := hides number handle found
      obtain ⟨also, foundToo, is⟩ := exists_handle?_alike same sameTask found
      rw [Handle.muted_of_not_reveals hides] at is
      have channel : also.channel = handle.channel := by
        rw [← is, Handle.channel_muted]
      rw [Handle.muted_of_not_reveals (channel ▸ hides)] at is
      rw [foundToo, is, Option.map_some, Option.map_some, ← channelFacts_muted hides one, same,
        channelFacts_muted hides]

/-- By a path a process is told the same on both hosts of anything but what things are logged to. -/
theorem examine_alike {path : Bytes} {follows : Bool}
    (hides : ∀ place node, (one.view task).lookUp task.directory path follows = .ok (place, node) →
      ¬ node.Reveals place sink) :
    one.examine task path follows = two.examine other path follows := by
  have directory : task.directory = other.directory := (congrArg Task.directory sameTask :)
  have now : one.now = two.now := (congrArg Kernel.now same :)
  unfold examine
  rw [← directory]
  rcases (samePlaces_view same sameTask).lookUp task.directory path follows with
    found | ⟨place, mode, content, _, is, first, -⟩
  · rw [← found]
    cases looked : (one.view task).lookUp task.directory path follows with
    | error errno => rfl
    | ok entry =>
        obtain ⟨place, node⟩ := entry
        have hides := hides place node looked
        have placed : one.placeFacts place node = two.placeFacts place node := by
          have apart : Channel.file place ≠ sink := fun is => hides (.inl is)
          rw [← placeFacts_muted apart one, same, placeFacts_muted apart]
        cases node with
        | device channel =>
            have hides : ¬ channel.Reveals sink := fun reveals => hides (.inr reveals)
            dsimp only
            rw [now, ← channelFacts_muted hides one, same, channelFacts_muted hides]
        | _ => exact congrArg Except.ok placed
  · exact absurd (.inl is) (hides place _ first)

theorem list_alike {path : Bytes}
    (hides : ∀ place mode, (one.view task).resolve task.directory path =
      .ok (place, .directory mode) → ∀ name, sink ≠ .file (place ++ [name])) :
    (task.free? 0 >>= fun _ => (one.view task).list task.directory path) =
      other.free? 0 >>= fun _ => (two.view other).list other.directory path := by
  have directory : task.directory = other.directory := (congrArg Task.directory sameTask :)
  have frees : task.free? 0 = other.free? 0 := by
    rw [← free?_muted task, sameTask, free?_muted]
  rw [frees, ← directory, FileTree.list_alike (view_alike same sameTask) hides]

/-- By a path a process opens the same file on both hosts, or fails to for the same reason. -/
theorem openFile_alike (path : Bytes) (how : OpenMode) :
    (one.openFile task path how).1 = (two.openFile other path how).1 ∧
      (one.openFile task path how).2.muted sink stages =
        (two.openFile other path how).2.muted sink stages := by
  have directory : task.directory = other.directory := (congrArg Task.directory sameTask :)
  have mask : task.mask = other.mask := (congrArg Task.mask sameTask :)
  have pid : task.pid = other.pid := (congrArg Task.pid sameTask :)
  have number : numberFor task path = numberFor other path := by
    unfold numberFor
    rw [← free?_muted task, sameTask, free?_muted]
  have opens := (samePlaces_view same sameTask).openFile task.directory path how
    (0o666 &&& (0o777 ^^^ task.mask))
  have views := view_alike same sameTask
  have gives {after also : Kernel} (came : after.muted sink stages = also.muted sink stages)
      (descriptor : Descriptor) (handle : Handle) :
      (after.given task descriptor handle).muted sink stages =
        (also.given other descriptor handle).muted sink stages := by
    rw [given_muted, given_muted, came, given, given, pid]
  unfold openFile
  rw [number, ← directory, ← mask]
  cases numberFor other path with
  | error errno => exact ⟨rfl, same⟩
  | ok descriptor =>
      simp only [bind, Except.bind]
      generalize (one.view task).openFile task.directory path how
        (0o666 &&& (0o777 ^^^ task.mask)) = opened at opens
      generalize (two.view other).openFile task.directory path how
        (0o666 &&& (0o777 ^^^ task.mask)) = openedToo at opens
      cases opens with
      | error errno => exact ⟨rfl, same⟩
      | emptied place mode =>
          dsimp only
          rw [isRunning_alike same]
          generalize (how.writes && two.isRunning (.file place)) = busy
          cases busy with
          | true => exact ⟨rfl, same⟩
          | false =>
              refine ⟨rfl, ?_⟩
              exact gives (emptied_alike same place how.truncates
                ((FileTree.blind_insert place mode _).muted_eq views)) descriptor _
      | found channel =>
          dsimp only
          rw [isRunning_alike same]
          generalize (how.writes && two.isRunning channel) = busy
          cases busy with
          | true => exact ⟨rfl, same⟩
          | false =>
              refine ⟨rfl, ?_⟩
              cases channel with
              | file place =>
                  exact gives (emptied_alike same place how.truncates views) descriptor _
              | store number =>
                  cases truncates : how.truncates with
                  | true => exact gives (setContents_alike same (.store number) .none) descriptor _
                  | false => exact gives same descriptor _
              | outlet pipe => cases writes : how.writes <;> exact gives same descriptor _
              | inlet pipe => cases writes : how.writes <;> exact gives same descriptor _
              | _ => exact gives same descriptor _

end

end Kernel

end HostnameSandbox

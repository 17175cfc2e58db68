import HostnameSandbox.Proofs.Logging.Muting

/-!
# Where things are logged to

What a process logs goes to its standard error, and to nothing else on the host.  What is written
to any other channel is written in the same way on a host without what is logged.
-/

namespace HostnameSandbox

/-- What stands at a place, without what is logged to it. -/
def Node.muted (node : Node) (sink : Channel) (place : Place) : Node :=
  match node with
  | .file mode content => .file mode (if Channel.file place = sink then .text .none else content)
  | node => node

theorem Node.muted_of_ne {sink : Channel} {place : Place} (distinct : Channel.file place ≠ sink)
    (node : Node) : node.muted sink place = node := by
  cases node <;> simp [muted, distinct]

namespace FileTree

variable {sink : Channel} {place other : Place}

theorem muted_of_unfiled {tree : FileTree}
    (unfiled : ∀ place mode content, sink = .file place →
      tree.find? place ≠ some (.file mode content)) : tree.muted sink = tree := by
  unfold muted
  split
  · split
    · next found => exact absurd found (unfiled _ _ _ rfl)
    · rfl
  · rfl

theorem ne_nil_of_find? {tree : FileTree} {mode : Nat} {content : Content}
    (found : tree.find? place = some (.file mode content)) : place ≠ [] := by
  rintro rfl
  cases found

theorem entries_muted {tree : FileTree} {mode : Nat} {content : Content}
    (found : tree.find? place = some (.file mode content)) :
    (tree.muted (.file place)).entries =
      (tree.entries.filter fun entry => entry.1 != place) ++
        [(place, .file mode (.text .none))] := by
  simp only [muted, found]

/-- Nothing is found at a place where nothing stands. -/
theorem find?_filter_self (entries : List (Place × Node)) (place : Place) :
    (entries.filter fun entry => entry.1 != place).find? (fun entry => entry.1 = place) =
      none := by
  simp [List.find?_eq_none]

theorem find?_filter_of_ne (distinct : other ≠ place) (entries : List (Place × Node)) :
    (entries.filter fun entry => entry.1 != place).find? (fun entry => entry.1 = other) =
      entries.find? fun entry => entry.1 = other := by
  rw [List.find?_filter]
  congr 1
  funext entry
  by_cases is : entry.1 = other <;> simp [is, distinct]

theorem find?_muted (tree : FileTree) (sink : Channel) (place : Place) :
    (tree.muted sink).find? place = (tree.find? place).map fun node => node.muted sink place := by
  by_cases unfiled : ∀ other mode content, sink = .file other →
      tree.find? other ≠ some (.file mode content)
  · rw [muted_of_unfiled unfiled]
    cases found : tree.find? place with
    | none => rfl
    | some node =>
        cases node with
        | file mode content =>
            have distinct : Channel.file place ≠ sink := fun is =>
              unfiled place mode content is.symm found
            rw [Option.map_some, Node.muted_of_ne distinct]
        | _ => rfl
  · simp only [Classical.not_forall, ne_eq, Classical.not_not] at unfiled
    obtain ⟨sunk, mode, content, rfl, found⟩ := unfiled
    by_cases is : place = sunk
    · subst is
      have nonempty := ne_nil_of_find? found
      rw [found, Option.map_some, find?, entries_muted found, List.find?_append,
        find?_filter_self]
      simp [nonempty, Node.muted]
    · have distinct : Channel.file place ≠ .file sunk := fun same => is (Channel.file.inj same)
      simp only [Node.muted_of_ne distinct, Option.map_id']
      rw [find?, find?, entries_muted found, List.find?_append, find?_filter_of_ne is]
      simp [Ne.symm is]

theorem contents_muted (distinct : Channel.file place ≠ sink) (tree : FileTree) :
    (tree.muted sink).contents place = tree.contents place := by
  rw [contents, contents, find?_muted]
  simp only [Node.muted_of_ne distinct, Option.map_id']

theorem find?_insert_self (nonempty : place ≠ []) (tree : FileTree) (node : Node) :
    (tree.insert place node).find? place = some node := by
  simp [find?, insert, nonempty]

theorem find?_insert_of_ne (distinct : other ≠ place) (tree : FileTree) (node : Node) :
    (tree.insert place node).find? other = tree.find? other := by
  rw [find?, find?, insert, List.find?_cons_of_neg (by simpa using Ne.symm distinct),
    find?_filter_of_ne distinct]

/-- What is stored in the file that things are logged to makes no difference. -/
theorem store_muted_self (tree : FileTree) (place : Place) (data : Data) :
    (tree.store place data).muted (.file place) = tree.muted (.file place) := by
  unfold store
  split
  · next mode content found =>
      have nonempty := ne_nil_of_find? found
      have stored := find?_insert_self nonempty tree (.file mode (.text data))
      simp only [muted, found, stored]
      simp [insert, List.filter_filter]
  · rfl

theorem store_muted (distinct : Channel.file place ≠ sink) (tree : FileTree) (data : Data) :
    (tree.store place data).muted sink = (tree.muted sink).store place data := by
  have found := find?_muted tree sink place
  simp only [Node.muted_of_ne distinct, Option.map_id'] at found
  unfold store
  rw [found]
  split
  · next mode content isFile =>
      cases sink with
      | file sunk =>
          have apart : sunk ≠ place := fun is => distinct (by rw [is])
          have still := find?_insert_of_ne apart tree (.file mode (.text data))
          simp only [muted, still]
          split
          · simp [insert, List.filter_filter, Ne.symm apart, apart, Bool.and_comm]
          · rfl
      | _ => rfl
  · rfl

/-- No program stands where things are logged to. -/
def Textual (tree : FileTree) (sink : Channel) : Prop :=
  ∀ place mode program, sink = .file place →
    (place, .file mode (.program program)) ∉ tree.entries

theorem findSome?_muted {α : Type} {tree : FileTree} (textual : tree.Textual sink)
    {choose : Place × Node → Option α}
    (chooses : ∀ entry result, choose entry = some result →
      ∃ mode program, entry.2 = .file mode (.program program)) :
    (tree.muted sink).entries.findSome? choose = tree.entries.findSome? choose := by
  by_cases unfiled : ∀ other mode content, sink = .file other →
      tree.find? other ≠ some (.file mode content)
  · rw [muted_of_unfiled unfiled]
  · simp only [Classical.not_forall, ne_eq, Classical.not_not] at unfiled
    obtain ⟨sunk, mode, content, rfl, found⟩ := unfiled
    have last : choose (sunk, .file mode (.text .none)) = none := by
      rw [Option.eq_none_iff_forall_ne_some]
      intro result chosen
      obtain ⟨_, _, is⟩ := chooses _ _ chosen
      cases is
    have passed {entry : Place × Node} (member : entry ∈ tree.entries)
        (there : entry.1 = sunk) : choose entry = none := by
      rw [Option.eq_none_iff_forall_ne_some]
      intro result chosen
      obtain ⟨mode, program, is⟩ := chooses _ _ chosen
      obtain ⟨_, _⟩ := entry
      cases there
      cases is
      exact textual _ mode program rfl member
    rw [entries_muted found, List.findSome?_append, List.findSome?_singleton, last, Option.or_none]
    generalize tree.entries = entries at passed
    clear found textual
    induction entries with
    | nil => rfl
    | cons entry entries hypothesis =>
        have rest := hypothesis fun member => passed (List.mem_cons_of_mem _ member)
        by_cases there : entry.1 = sunk
        · rw [List.filter_cons_of_neg (by simpa using there), List.findSome?_cons,
            passed List.mem_cons_self there, rest]
        · rw [List.filter_cons_of_pos (by simpa using there), List.findSome?_cons,
            List.findSome?_cons, rest]

end FileTree

/-- Whether an open file with an offset leads to a channel. -/
def Channel.isStored : Channel → Bool
  | .store _ | .file _ => true
  | _ => false

/-- Whether something that is logged to a channel can be found there. -/
def Channel.collects : Channel → Bool
  | .store _ | .file _ | .inlet _ => true
  | _ => false

theorem Handle.muted_of_stored {handle : Handle} {sink : Channel}
    (apart : sink.isStored → handle.channel ≠ sink) : handle.muted sink = handle := by
  unfold muted
  split
  · rw [if_neg (apart rfl)]
  · rw [if_neg (apart rfl)]
  · rfl

theorem Handle.muted_of_ne {handle : Handle} {sink : Channel} (distinct : handle.channel ≠ sink) :
    handle.muted sink = handle :=
  muted_of_stored fun _ => distinct

theorem Handle.muted_of_not_collects {sink : Channel} (lost : ¬ sink.collects) (handle : Handle) :
    handle.muted sink = handle := by
  refine muted_of_stored fun stored => absurd ?_ lost
  cases sink <;> first | rfl | cases stored

theorem Handle.channel_muted (handle : Handle) (sink : Channel) :
    (handle.muted sink).channel = handle.channel := by
  unfold muted
  split
  · split <;> rfl
  · split <;> rfl
  · rfl

theorem Handle.writes_muted (handle : Handle) (sink : Channel) :
    (handle.muted sink).writes = handle.writes := by
  unfold muted
  split
  · split <;> rfl
  · split <;> rfl
  · rfl

/-- What comes of an attempt, with a change of the kernel after it. -/
def Attempt.map {request : Call} (change : Kernel → Kernel) : Attempt request → Attempt request
  | .blocked => .blocked
  | .again kernel => .again (change kernel)
  | .answered reply kernel => .answered reply (change kernel)

namespace Kernel

variable {sink channel : Channel} {stages : List Pid}

theorem handles_muted (kernel : Kernel) (number : Nat) :
    (kernel.muted sink stages).handles[number]? =
      (kernel.handles[number]?).map fun handle => handle.muted sink := by
  simp [muted]

theorem handle?_muted (kernel : Kernel) (task : Task) (descriptor : Descriptor) :
    (kernel.muted sink stages).handle? (task.muted stages) descriptor =
      (kernel.handle? task descriptor).map fun entry => (entry.1, entry.2.muted sink) := by
  unfold handle?
  change ((task.find? descriptor).bind fun entry => _) = _
  cases task.find? descriptor with
  | none => rfl
  | some entry =>
      simp only [Option.bind_some, handles_muted, bind]
      cases kernel.handles[entry.handle]? <;> rfl

theorem hasOpen_muted (kernel : Kernel) (channel : Channel) :
    (kernel.muted sink stages).hasOpen channel = kernel.hasOpen channel := by
  unfold hasOpen
  simp only [handles_muted, Option.any_map, Handle.channel_muted]
  rw [muted, List.any_map]
  rfl

theorem contents_muted (distinct : channel ≠ sink) (kernel : Kernel) :
    (kernel.muted sink stages).contents channel = kernel.contents channel := by
  cases channel with
  | store number =>
      cases sink with
      | store other =>
          have apart : other ≠ number := fun is => distinct (by rw [is])
          simp [contents, muted, Channel.muteStores, Array.getElem?_setIfInBounds_ne apart]
      | _ => rfl
  | file place => exact FileTree.contents_muted distinct kernel.files
  | _ => rfl

theorem pipe_muted {number : Nat} (distinct : Channel.inlet number ≠ sink) (kernel : Kernel) :
    (kernel.muted sink stages).pipe number = kernel.pipe number := by
  cases sink with
  | inlet other =>
      have apart : other ≠ number := fun is => distinct (by rw [is])
      simp [pipe, muted, Channel.mutePipes, Array.getElem?_setIfInBounds_ne apart]
  | _ => rfl

theorem setPipe_muted {number : Nat} (distinct : Channel.inlet number ≠ sink) (kernel : Kernel)
    (pipe : Pipe) :
    (kernel.setPipe number pipe).muted sink stages =
      (kernel.muted sink stages).setPipe number pipe := by
  cases sink with
  | inlet other =>
      have apart : other ≠ number := fun is => distinct (by rw [is])
      simp only [muted, setPipe, Channel.mutePipes]
      rw [Array.setIfInBounds_comm _ _ apart.symm]
  | _ => rfl

theorem setPipe_muted_self (kernel : Kernel) (number : Nat) (pipe : Pipe) :
    (kernel.setPipe number pipe).muted (.inlet number) stages =
      kernel.muted (.inlet number) stages := by
  simp [muted, setPipe, Channel.mutePipes]

theorem touch_muted {place : Place} (distinct : Channel.file place ≠ sink) (kernel : Kernel) :
    (kernel.touch place).muted sink stages = (kernel.muted sink stages).touch place := by
  simp [muted, touch, distinct, List.filter_filter, Bool.and_comm]

theorem touch_muted_self (kernel : Kernel) (place : Place) :
    (kernel.touch place).muted (.file place) stages = kernel.muted (.file place) stages := by
  have kept (entry : Place × Nat) :
      (Channel.file entry.1 != .file place && entry.1 != place) =
        (Channel.file entry.1 != .file place) := by
    by_cases is : entry.1 = place <;> simp [is]
  simp [muted, touch, List.filter_filter, kept]

theorem setContents_muted (distinct : channel ≠ sink) (kernel : Kernel) (data : Data) :
    (kernel.setContents channel data).muted sink stages =
      (kernel.muted sink stages).setContents channel data := by
  cases channel with
  | store number =>
      cases sink with
      | store other =>
          have apart : other ≠ number := fun is => distinct (by rw [is])
          simp only [setContents, muted, Channel.muteStores]
          rw [Array.setIfInBounds_comm _ _ apart.symm]
      | _ => rfl
  | file place =>
      have stored : ({ kernel with files := kernel.files.store place data } : Kernel).muted sink
          stages = { kernel.muted sink stages with
            files := (kernel.files.muted sink).store place data } := by
        simp only [muted, FileTree.store_muted distinct]
      rw [setContents, touch_muted distinct, stored]
      rfl
  | _ => rfl

/-- What is put where things are logged to makes no difference. -/
theorem setContents_muted_self (kernel : Kernel) (channel : Channel) (data : Data) :
    (kernel.setContents channel data).muted channel stages = kernel.muted channel stages := by
  cases channel with
  | store number => simp [setContents, muted, Channel.muteStores]
  | file place =>
      rw [setContents, touch_muted_self]
      simp only [muted, FileTree.store_muted_self]
  | _ => rfl

/-- The kernel with another open file of a number. -/
def setHandle (kernel : Kernel) (number : Nat) (handle : Handle) : Kernel :=
  { kernel with handles := kernel.handles.setIfInBounds number handle }

theorem setHandle_muted (kernel : Kernel) (number : Nat) (handle : Handle) :
    (kernel.setHandle number handle).muted sink stages =
      (kernel.muted sink stages).setHandle number (handle.muted sink) := by
  simp [muted, setHandle, Array.map_setIfInBounds]

theorem setHandle_of_getElem? {kernel : Kernel} {number : Nat} {handle : Handle}
    (found : kernel.handles[number]? = some handle) : kernel.setHandle number handle = kernel := by
  have same : kernel.handles.setIfInBounds number handle = kernel.handles := by
    refine Array.ext_getElem? fun index => ?_
    rw [Array.getElem?_setIfInBounds]
    split
    · next is =>
        subst is
        rw [found, if_pos (Array.getElem?_eq_some_iff.1 found).1]
    · rfl
  rw [setHandle, same]

theorem writingOffset_muted {handle : Handle} (distinct : handle.channel ≠ sink) (kernel : Kernel) :
    (kernel.muted sink stages).writingOffset handle = kernel.writingOffset handle := by
  rw [writingOffset, writingOffset, contents_muted distinct]

theorem writeThrough_muted {handle : Handle} (distinct : handle.channel ≠ sink) (kernel : Kernel)
    (number : Nat) (bytes : Bytes) :
    (kernel.writeThrough number handle bytes).muted sink stages =
      (kernel.muted sink stages).writeThrough number handle bytes := by
  change ((if bytes.isEmpty then kernel else _).setHandle number _).muted sink stages =
    (if bytes.isEmpty then kernel.muted sink stages else _).setHandle number _
  rw [setHandle_muted, writingOffset_muted distinct, contents_muted distinct,
    Handle.muted_of_ne (by exact distinct)]
  split
  · rfl
  · rw [setContents_muted distinct]

/-- What is written through an open file that leads to where things are logged makes no
difference. -/
theorem writeThrough_muted_self {number : Nat} {handle : Handle} {kernel : Kernel}
    (found : kernel.handles[number]? = some handle) (leads : handle.channel = sink)
    (stored : sink.isStored) (bytes : Bytes) :
    (kernel.writeThrough number handle bytes).muted sink stages = kernel.muted sink stages := by
  subst leads
  change ((if bytes.isEmpty then kernel else _).setHandle number _).muted handle.channel stages = _
  have moved (offset : Nat) :
      ({ handle with offset } : Handle).muted handle.channel = handle.muted handle.channel := by
    cases leads : handle.channel with
    | store number => simp [Handle.muted, leads]
    | file place => simp [Handle.muted, leads]
    | _ => simp [Channel.isStored, leads] at stored
  have written : (if bytes.isEmpty then kernel else kernel.setContents handle.channel
      ((kernel.contents handle.channel).overwrite (kernel.writingOffset handle) bytes)).muted
        handle.channel stages = kernel.muted handle.channel stages := by
    split
    · rfl
    · exact setContents_muted_self kernel handle.channel _
  rw [setHandle_muted, moved, written, setHandle_of_getElem?]
  rw [handles_muted, found]
  rfl

/-- The channel that what a process logs goes to. -/
def sinkOf (kernel : Kernel) (task : Task) : Channel :=
  match kernel.handle? task Descriptor.error with
  | some (_, handle) => if handle.writes then handle.channel else .null
  | none => .null

theorem getElem?_of_handle? {kernel : Kernel} {task : Task} {descriptor : Descriptor}
    {number : Nat} {handle : Handle}
    (found : kernel.handle? task descriptor = some (number, handle)) :
    kernel.handles[number]? = some handle := by
  unfold handle? at found
  obtain ⟨entry, -, found⟩ := Option.bind_eq_some_iff.1 found
  obtain ⟨other, isThere, found⟩ := Option.bind_eq_some_iff.1 found
  cases found
  exact isThere

/-- What a process logs makes no difference on a host without what is logged. -/
theorem log_muted (kernel : Kernel) (task : Task) (event : Event) :
    (kernel.log task event).muted (kernel.sinkOf task) stages =
      kernel.muted (kernel.sinkOf task) stages := by
  unfold log
  split
  · rfl
  · rfl
  · split
    · dsimp only
      cases found : kernel.handle? task Descriptor.error with
      | none => rfl
      | some entry =>
          obtain ⟨number, handle⟩ := entry
          cases writes : handle.writes with
          | false => simp [writes]
          | true =>
              have sink : kernel.sinkOf task = handle.channel := by simp [sinkOf, found, writes]
              rw [sink]
              have there := getElem?_of_handle? found
              simp only [writes]
              cases leads : handle.channel with
              | store number => exact writeThrough_muted_self there leads rfl _
              | file place => exact writeThrough_muted_self there leads rfl _
              | inlet number => exact setPipe_muted_self kernel number _
              | _ => rfl
    · rfl

/-! ### Writing -/

/-- What a process writes by a number does not go where things are logged to. -/
def WritesAside (kernel : Kernel) (task : Task) (descriptor : Descriptor) (sink : Channel) : Prop :=
  ∀ number handle, kernel.handle? task descriptor = some (number, handle) → handle.writes →
    handle.channel = sink → ¬ sink.collects

theorem writePipe_muted {number : Nat} (distinct : Channel.inlet number ≠ sink) (kernel : Kernel)
    (task : Task) (descriptor : Descriptor) (bytes : Bytes) :
    (kernel.writePipe task descriptor number bytes).map (fun kernel => kernel.muted sink stages) =
      (kernel.muted sink stages).writePipe (task.muted stages) descriptor number bytes := by
  have leaves (kernel : Kernel) (unwritten : Bytes) :
      (kernel.modify task.pid fun task => { task with unwritten }).muted sink stages =
        (kernel.muted sink stages).modify task.pid fun task => { task with unwritten } :=
    modify_muted (fun _ => rfl) kernel task.pid
  have unwritten : (task.muted stages).unwritten = task.unwritten := rfl
  have pid : (task.muted stages).pid = task.pid := rfl
  unfold writePipe
  rw [hasOpen_muted, pipe_muted distinct, unwritten, pid]
  dsimp only
  split
  · rw [Attempt.map, signal_muted, leaves]
  · split
    · rfl
    · rw [← setPipe_muted distinct, ← leaves]
      split
      · split <;> rfl
      · split <;> rfl

theorem writeStored_muted {handle : Handle} (distinct : handle.channel ≠ sink) (kernel : Kernel)
    (task : Task) (descriptor : Descriptor) (number : Nat) (bytes : Bytes) :
    (kernel.writeStored task descriptor number handle bytes).map
        (fun kernel => kernel.muted sink stages) =
      (kernel.muted sink stages).writeStored (task.muted stages) descriptor number handle bytes := by
  have allowed : allowedSize? (task.muted stages) = allowedSize? task := rfl
  unfold writeStored
  rw [writingOffset_muted distinct, allowed]
  dsimp only
  split
  · split
    · rw [Attempt.map, signal_muted, writeThrough_muted distinct]
      rfl
    · rw [Attempt.map, writeThrough_muted distinct]
  · rw [Attempt.map, writeThrough_muted distinct]

theorem write_muted {kernel : Kernel} {task : Task} {descriptor : Descriptor}
    (aside : kernel.WritesAside task descriptor sink) (bytes : Bytes) :
    (kernel.write task descriptor bytes).map (fun kernel => kernel.muted sink stages) =
      (kernel.muted sink stages).write (task.muted stages) descriptor bytes := by
  unfold write
  rw [handle?_muted]
  cases found : kernel.handle? task descriptor with
  | none => rfl
  | some entry =>
      obtain ⟨number, handle⟩ := entry
      simp only [Option.map_some, Handle.writes_muted, Handle.channel_muted]
      cases writes : handle.writes with
      | false => rfl
      | true =>
          have unmuted (offset : Nat) :
              ({ handle with offset } : Handle).muted sink = { handle with offset } := by
            by_cases leads : handle.channel = sink
            · exact Handle.muted_of_not_collects (aside number handle found writes leads) _
            · exact Handle.muted_of_ne leads
          have apart (collects : handle.channel.collects) : handle.channel ≠ sink := fun leads =>
            aside number handle found writes leads (leads ▸ collects)
          have advances (kernel : Kernel) :
              (kernel.advance number handle bytes).muted sink stages =
                (kernel.muted sink stages).advance number handle bytes :=
            (setHandle_muted kernel number _).trans (by rw [unmuted]; rfl)
          rw [show handle.muted sink = handle from unmuted handle.offset]
          simp only [Bool.not_true, Bool.false_eq_true, if_false]
          cases leads : handle.channel with
          | inlet pipe => exact writePipe_muted (leads ▸ apart (by rw [leads]; rfl)) _ _ _ _
          | store other => exact writeStored_muted (apart (by rw [leads]; rfl)) _ _ _ _ _
          | file place => exact writeStored_muted (apart (by rw [leads]; rfl)) _ _ _ _ _
          | report pid topic =>
              cases topic with
              | name =>
                  have named : (kernel.modify pid fun task =>
                        { task with name := bytes.take nameLimit }).muted sink stages =
                      (kernel.muted sink stages).modify pid fun task =>
                        { task with name := bytes.take nameLimit } :=
                    modify_muted (fun _ => rfl) kernel pid
                  simp only [Attempt.map, named]
              | _ => rfl
          | fact fact =>
              cases fact with
              | hostname =>
                  simp only [Attempt.map, advances]
                  rfl
              | domain =>
                  simp only [Attempt.map, advances]
                  rfl
              | _ => rfl
          | _ => rfl

/-- What is left of it that a process has written where things are logged to, by the reply. -/
def told (kernel : Kernel) (pid : Pid) (sink : Channel) (reply : Except Errno Unit) : Kernel :=
  match sink, reply with
  | .inlet _, .ok _ => kernel.modify pid fun task => { task with unwritten := [] }
  | .inlet _, .error _ =>
      (kernel.modify pid fun task => { task with unwritten := [] }).signal pid .brokenPipe
  | _, .ok _ => kernel
  | _, .error _ => kernel.signal pid .fileTooLarge

theorem writePipe_muted_self {number : Nat} {kernel after : Kernel} {task : Task}
    {descriptor : Descriptor} {bytes : Bytes} {reply : Except Errno Unit}
    (written : kernel.writePipe task descriptor number bytes = .answered reply after) :
    after.muted (.inlet number) stages =
      (kernel.muted (.inlet number) stages).told task.pid (.inlet number) reply := by
  have leaves (kernel : Kernel) (unwritten : Bytes) :
      (kernel.modify task.pid fun task => { task with unwritten }).muted (.inlet number) stages =
        (kernel.muted (.inlet number) stages).modify task.pid fun task => { task with unwritten } :=
    modify_muted (fun _ => rfl) kernel task.pid
  unfold writePipe at written
  dsimp only at written
  split at written
  · cases written
    rw [signal_muted, leaves]
    rfl
  · split at written
    · cases written
    · generalize (if task.unwritten.isEmpty then (kernel.pipe number).join bytes
        else (kernel.pipe number, task.unwritten)) = start at written
      split at written
      · next whole =>
          cases written
          rw [leaves, setPipe_muted_self, List.isEmpty_iff.1 whole]
          rfl
      · cases written

theorem writeStored_muted_self {number : Nat} {handle : Handle} {kernel after : Kernel}
    {task : Task} {descriptor : Descriptor} {bytes : Bytes} {reply : Except Errno Unit}
    (found : kernel.handles[number]? = some handle) (leads : handle.channel = sink)
    (stored : sink.isStored)
    (written : kernel.writeStored task descriptor number handle bytes = .answered reply after) :
    after.muted sink stages = (kernel.muted sink stages).told task.pid sink reply := by
  have unmoved (bytes : Bytes) :
      (kernel.writeThrough number handle bytes).muted sink stages = kernel.muted sink stages :=
    writeThrough_muted_self found leads stored bytes
  have tells (reply : Except Errno Unit) : (kernel.muted sink stages).told task.pid sink reply =
      match reply with
      | .ok _ => kernel.muted sink stages
      | .error _ => (kernel.muted sink stages).signal task.pid .fileTooLarge := by
    cases sink with
    | store other => cases reply <;> rfl
    | file place => cases reply <;> rfl
    | _ => cases stored
  rw [tells]
  unfold writeStored at written
  dsimp only at written
  split at written
  · split at written
    · cases written
      rw [signal_muted, unmoved]
    · cases written
      exact unmoved bytes
  · cases written
    exact unmoved bytes

/-- What a process writes where things are logged to makes no difference but by the reply. -/
theorem write_muted_self {number : Nat} {handle : Handle} {kernel after : Kernel}
    {task : Task} {descriptor : Descriptor} {bytes : Bytes} {reply : Except Errno Unit}
    (found : kernel.handle? task descriptor = some (number, handle)) (writes : handle.writes)
    (leads : handle.channel = sink) (collects : sink.collects)
    (written : kernel.write task descriptor bytes = .answered reply after) :
    after.muted sink stages = (kernel.muted sink stages).told task.pid sink reply := by
  have there := getElem?_of_handle? found
  unfold write at written
  simp only [found, writes, Bool.not_true, Bool.false_eq_true, if_false, leads] at written
  cases sink with
  | inlet other => exact writePipe_muted_self written
  | store other => exact writeStored_muted_self there leads rfl written
  | file place => exact writeStored_muted_self there leads rfl written
  | _ => cases collects

end Kernel

end HostnameSandbox

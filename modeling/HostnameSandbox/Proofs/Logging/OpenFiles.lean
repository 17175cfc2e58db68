import HostnameSandbox.Proofs.Logging.Sink
import HostnameSandbox.Proofs.Namespaces.Change

/-!
# Open files beside what is logged

A process on a host without what is logged reads the same from its open files, unless they lead to
where things are logged to or tell how a stage was started, and is given the same ones by the same
numbers.
-/

namespace HostnameSandbox

/-- Whether what is read from a channel can tell what has been logged to another one, or how a stage
was started. -/
def Channel.Shows (channel sink : Channel) : Prop :=
  match channel with
  | .store _ | .file _ => channel = sink
  | .outlet pipe => sink = .inlet pipe
  | .report _ topic => topic = .words ∨ topic = .environment
  | _ => False

theorem Handle.reads_muted (handle : Handle) (sink : Channel) :
    (handle.muted sink).reads = handle.reads := by
  unfold muted
  split
  · split <;> rfl
  · split <;> rfl
  · rfl

theorem Handle.muted_of_not_shows {handle : Handle} {sink : Channel}
    (hides : ¬ handle.channel.Shows sink) : handle.muted sink = handle := by
  refine muted_of_stored fun stored leads => hides ?_
  rw [leads]
  cases sink <;> first | exact rfl | cases stored

theorem Kernel.report_muted {topic : Topic} (plain : topic ≠ .words) (quiet : topic ≠ .environment)
    (task : Task) (stages : List Pid) (isReader : Bool) :
    report (task.muted stages) isReader topic = report task isReader topic := by
  cases topic with
  | words => exact absurd rfl plain
  | environment => exact absurd rfl quiet
  | _ => rfl

namespace Kernel

variable {sink : Channel} {stages : List Pid}

/-! ### Reading -/

/-- What a process reads by a number tells nothing about what is logged. -/
def ReadsAside (kernel : Kernel) (task : Task) (descriptor : Descriptor) (sink : Channel) : Prop :=
  ∀ number handle, kernel.handle? task descriptor = some (number, handle) → handle.reads →
    ¬ handle.channel.Shows sink

theorem readAt_muted {handle : Handle} (hides : ¬ handle.channel.Shows sink) (kernel : Kernel)
    (number : Nat) (data : Data) (limit : Nat) :
    (kernel.muted sink stages).readAt number handle data limit =
      ((kernel.readAt number handle data limit).1,
        (kernel.readAt number handle data limit).2.muted sink stages) := by
  have moved (offset : Nat) : (kernel.setHandle number { handle with offset }).muted sink stages =
      (kernel.muted sink stages).setHandle number { handle with offset } := by
    rw [setHandle_muted, Handle.muted_of_not_shows (by exact hides)]
  exact Prod.ext rfl (moved _).symm

theorem read_muted {kernel : Kernel} {task : Task} {descriptor : Descriptor}
    (aside : kernel.ReadsAside task descriptor sink) (limit : Nat) :
    (kernel.read task descriptor limit).map (fun kernel => kernel.muted sink stages) =
      (kernel.muted sink stages).read (task.muted stages) descriptor limit := by
  unfold read
  rw [handle?_muted]
  cases found : kernel.handle? task descriptor with
  | none => rfl
  | some entry =>
      obtain ⟨number, handle⟩ := entry
      simp only [Option.map_some, Handle.reads_muted, Handle.channel_muted]
      cases reads : handle.reads with
      | false => rfl
      | true =>
          have hides := aside number handle found reads
          rw [Handle.muted_of_not_shows hides]
          simp only [Bool.not_true, Bool.false_eq_true, if_false]
          have answers (data : Data) :
              ((.answered (.ok (kernel.readAt number handle data limit).1)
                (kernel.readAt number handle data limit).2 : Attempt (.read descriptor limit))).map
                  (fun kernel => kernel.muted sink stages) =
                .answered (.ok ((kernel.muted sink stages).readAt number handle data limit).1)
                  ((kernel.muted sink stages).readAt number handle data limit).2 := by
            rw [readAt_muted hides]
            rfl
          cases leads : handle.channel with
          | outlet pipe =>
              have apart : Channel.inlet pipe ≠ sink := fun is => hides (by rw [leads]; exact is.symm)
              simp only [hasOpen_muted, pipe_muted apart]
              split
              · rfl
              · simp only [Attempt.map, setPipe_muted apart]
          | store other =>
              have apart : Channel.store other ≠ sink := fun is => hides (by rw [leads]; exact is)
              dsimp only
              rw [contents_muted apart]
              exact answers _
          | file place =>
              have apart : Channel.file place ≠ sink := fun is => hides (by rw [leads]; exact is)
              dsimp only
              rw [contents_muted apart]
              exact answers _
          | report pid topic =>
              have plain : topic ≠ .words := fun is => hides (by rw [leads]; exact .inl is)
              have quiet : topic ≠ .environment := fun is => hides (by rw [leads]; exact .inr is)
              dsimp only
              rw [task?_muted]
              cases kernel.task? pid with
              | none => rfl
              | some other =>
                  simp only [Option.map_some, report_muted plain quiet]
                  exact answers _
          | fact fact =>
              dsimp only
              have same : (kernel.muted sink stages).systemFact (task.muted stages) fact =
                  kernel.systemFact task fact := by
                cases fact <;> rfl
              rw [same]
              exact answers _
          | _ => rfl

/-! ### Other numbers and other files -/

theorem install_muted (kernel : Kernel) (pid : Pid) (entry : Opened) :
    (kernel.modify pid fun task => task.install entry).muted sink stages =
      (kernel.muted sink stages).modify pid fun task => task.install entry :=
  modify_muted (fun _ => rfl) kernel pid

theorem free?_muted (task : Task) (least : Descriptor) :
    (task.muted stages).free? least = task.free? least :=
  free?_congr (task.muted stages) task rfl rfl least

theorem duplicate_muted (kernel : Kernel) (task : Task) (descriptor least : Descriptor) :
    (kernel.muted sink stages).duplicate (task.muted stages) descriptor least =
      (kernel.duplicate task descriptor least).map fun entry =>
        (entry.1, entry.2.muted sink stages) := by
  have found : (task.muted stages).find? descriptor = task.find? descriptor := rfl
  have mayUse : (task.muted stages).mayUse least = task.mayUse least := rfl
  unfold duplicate
  rw [found]
  cases task.find? descriptor with
  | none => rfl
  | some entry =>
      dsimp only
      rw [mayUse, free?_muted]
      split
      · rfl
      · cases task.free? least with
        | error errno => rfl
        | ok free =>
            exact congrArg (fun kernel => Except.ok (free, kernel)) (install_muted _ _ _).symm

theorem connect_muted (kernel : Kernel) (task : Task) (source target : Descriptor) :
    (kernel.muted sink stages).connect (task.muted stages) source target =
      (kernel.connect task source target).map fun kernel => kernel.muted sink stages := by
  have found : (task.muted stages).find? source = task.find? source := rfl
  have mayUse : (task.muted stages).mayUse target = task.mayUse target := rfl
  unfold connect
  rw [found]
  cases task.find? source with
  | none => rfl
  | some entry =>
      dsimp only
      rw [mayUse]
      split
      · exact congrArg Except.ok (install_muted _ _ _).symm
      · rfl

/-- The kernel with a pipe more and its two ends. -/
def addPipe (kernel : Kernel) (outlet inlet : Handle) : Kernel :=
  { kernel with
    pipes := kernel.pipes.push .empty, handles := (kernel.handles.push outlet).push inlet }

theorem addPipe_muted (kernel : Kernel) (outlet inlet : Handle) :
    (kernel.addPipe outlet inlet).muted sink stages =
      (kernel.muted sink stages).addPipe (outlet.muted sink) (inlet.muted sink) := by
  have pipes : sink.mutePipes (kernel.pipes.push .empty) =
      (sink.mutePipes kernel.pipes).push .empty := by
    cases sink with
    | inlet number =>
        refine Array.ext_getElem? fun index => ?_
        simp only [Channel.mutePipes, Array.getElem?_setIfInBounds, Array.getElem?_push,
          Array.size_push, Array.size_setIfInBounds]
        grind
    | _ => rfl
  simp only [muted, addPipe, Array.map_push, pipes]

theorem openPipe_muted (kernel : Kernel) (task : Task) :
    (kernel.muted sink stages).openPipe (task.muted stages) =
      ((kernel.openPipe task).1, (kernel.openPipe task).2.muted sink stages) := by
  have size : (kernel.muted sink stages).handles.size = kernel.handles.size := by simp [muted]
  have number : (kernel.muted sink stages).pipes.size = kernel.pipes.size := by
    change (sink.mutePipes kernel.pipes).size = _
    cases sink <;> simp [Channel.mutePipes]
  have unread (channel : Channel) (reads writes : Bool) :
      (⟨channel, reads, writes, false, 0⟩ : Handle).muted sink =
        ⟨channel, reads, writes, false, 0⟩ := by
    unfold Handle.muted
    split
    · exact ite_self _
    · exact ite_self _
    · rfl
  unfold openPipe
  rw [size, number, free?_muted]
  cases task.free? 0 with
  | error errno => rfl
  | ok outlet =>
      dsimp only [bind, Except.bind]
      rw [free?_congr ((task.muted stages).install ⟨outlet, kernel.handles.size, true⟩)
        (task.install ⟨outlet, kernel.handles.size, true⟩) rfl rfl 0]
      cases (task.install ⟨outlet, kernel.handles.size, true⟩).free? 0 with
      | error errno => rfl
      | ok inlet =>
          refine Prod.ext rfl ?_
          change addPipe _ _ _ = (addPipe (kernel.modify task.pid fun _ => _) _ _).muted sink stages
          rw [addPipe_muted, replace_muted, unread, unread]
          rfl

end Kernel

end HostnameSandbox

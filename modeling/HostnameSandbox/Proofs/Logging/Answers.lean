import HostnameSandbox.Proofs.Logging.Access

/-!
# What processes are answered

A process overlooks what is logged if the call that it makes comes to the same on a host without
that.  On two hosts that differ only in what is logged, a call that is overlooked on both is answered
alike, and so is every call by which a process does not look where something is logged, or at how a
stage was started.
-/

namespace HostnameSandbox

/-- Calls that have to do with no other process's words or environment, nor with what is in files. -/
def Call.IsDeaf : Call → Bool
  | .directory | .setMask _ | .limit _ | .setLimit _ _ | .ownPid | .parentPid | .namespaceOf _
  | .hostname | .setHostname _ | .domain | .setDomain _ | .ownPath | .react _ _ | .reactionTo _
  | .hold _ | .held | .takeCaught | .send _ _ | .await _ | .select _ _ | .awaitAny _ | .pause _
  | .exit _ | .never | .close _ | .duplicate _ _ | .connect _ _ | .pipe => true
  | _ => false

/-- Calls by which a process neither writes anything nor runs another program. -/
def Call.IsModest : Call → Bool
  | .write _ _ | .spawn _ | .become _ _ _ => false
  | _ => true

namespace Kernel

variable {sink : Channel} {stages : List Pid}

/-- A call of a process comes to the same on a host without what is logged. -/
def Overlooks (sink : Channel) (stages : List Pid) (kernel : Kernel) (task : Task)
    (request : Call) : Prop :=
  (kernel.attempt task request).map (fun kernel => kernel.muted sink stages) =
    (kernel.muted sink stages).attempt (task.muted stages) request

theorem namespaceOf_muted (kernel : Kernel) (pid : Pid) :
    (kernel.muted sink stages).namespaceOf pid = kernel.namespaceOf pid := by
  rw [namespaceOf, namespaceOf, members_muted]
  rfl

theorem ending?_muted (kernel : Kernel) (pid : Pid) :
    ((kernel.muted sink stages).task? pid).bind Task.ending =
      (kernel.task? pid).bind Task.ending := by
  rw [task?_muted]
  cases kernel.task? pid <;> rfl

theorem rename_muted (kernel : Kernel) (task : Task) (name : Bytes) (change : Names → Names) :
    (kernel.muted sink stages).rename (task.muted stages) name change =
      (kernel.rename task name change).map fun kernel => kernel.muted sink stages := by
  change (if !task.privileged then _ else if longestHostname < name.length then _ else _) = _
  unfold rename
  split
  · rfl
  · split <;> rfl

theorem overlooks_await (kernel : Kernel) (task : Task) (child : Pid) :
    kernel.Overlooks sink stages task (.await child) := by
  change (kernel.await child).map _ = (kernel.muted sink stages).await child
  rw [await, await, ending?_muted]
  cases (kernel.task? child).bind Task.ending with
  | none => rfl
  | some status =>
      simp only [Attempt.map]
      rw [forget_muted]

theorem overlooks_select (kernel : Kernel) (task : Task) (child : Pid) (signals : List Signal) :
    kernel.Overlooks sink stages task (.select child signals) := by
  change (kernel.select task child signals).map _ =
    (kernel.muted sink stages).select (task.muted stages) child signals
  have noted : (task.muted stages).noted = task.noted := rfl
  unfold select
  rw [ending?_muted, noted]
  cases (kernel.task? child).bind Task.ending with
  | some status =>
      simp only [Attempt.map]
      rw [forget_muted]
  | none =>
      dsimp only
      cases task.noted.find? fun signal => signals.contains signal with
      | none => rfl
      | some signal =>
          have forgets : (kernel.modify task.pid fun task =>
                { task with noted := task.noted.filter (· != signal) }).muted sink stages =
              (kernel.muted sink stages).modify task.pid fun task =>
                { task with noted := task.noted.filter (· != signal) } :=
            modify_muted (fun _ => rfl) kernel task.pid
          simp only [Attempt.map, forgets]
          rfl

theorem endedChild?_muted (kernel : Kernel) (parent : Pid) :
    (kernel.muted sink stages).endedChild? parent = kernel.endedChild? parent := by
  have children : (kernel.muted sink stages).tasks.filter (fun task =>
        task.parent = parent && !task.isAlive) =
      (kernel.tasks.filter fun task => task.parent = parent && !task.isAlive).map fun task =>
        task.muted stages := List.filter_map
  unfold endedChild?
  dsimp only
  rw [children, List.foldl_map]
  generalize kernel.tasks.filter (fun task => task.parent = parent && !task.isAlive) = tasks
  have told (first : Option Task) :
      (first.bind fun task => task.ending.map fun status => (task.pid, status)) =
        (first.map fun task => task.muted stages).bind fun task =>
          task.ending.map fun status => (task.pid, status) := by
    cases first <;> rfl
  refine Eq.trans ?_ (told _).symm
  refine congrArg (Option.bind · _)
    (@List.foldl_hom _ _ _ (Option.map fun task : Task => task.muted stages) _ _ tasks none ?_)
  intro first task
  cases first with
  | none => rfl
  | some other =>
      change (if task.clock < other.clock then _ else _) = Option.map _ (if _ then _ else _)
      split <;> rfl

theorem overlooks_awaitAny (kernel : Kernel) (task : Task) (patience : Patience) :
    kernel.Overlooks sink stages task (.awaitAny patience) := by
  change (kernel.awaitAny task patience).map _ =
    (kernel.muted sink stages).awaitAny (task.muted stages) patience
  have ended : (kernel.muted sink stages).endedChild? (task.muted stages).pid = _ :=
    endedChild?_muted kernel task.pid
  have woken (child : Pid) : (kernel.muted sink stages).isWokenBefore (task.muted stages) child =
      kernel.isWokenBefore task child := by
    unfold isWokenBefore
    rw [task?_muted, Option.any_map]
    rfl
  have parents : ((kernel.muted sink stages).tasks.any fun other =>
      other.parent = (task.muted stages).pid) = kernel.tasks.any fun other =>
        other.parent = task.pid := by
    rw [muted, List.any_map]
    rfl
  have noted : (task.muted stages).noted = task.noted := rfl
  unfold awaitAny
  rw [ended, parents, noted]
  cases kernel.endedChild? task.pid with
  | some entry =>
      obtain ⟨child, status⟩ := entry
      dsimp only
      rw [woken]
      cases patience with
      | untilSignal =>
          dsimp only
          split
          · rfl
          · exact congrArg (Attempt.answered _) (forget_muted kernel child)
      | _ => exact congrArg (Attempt.answered _) (forget_muted kernel child)
  | none =>
      dsimp only
      split
      · rfl
      · cases patience with
        | untilSignal =>
            dsimp only
            split <;> rfl
        | _ => rfl

/-- What has nothing to do with words, environments or what is in files is overlooked. -/
theorem overlooks_of_isDeaf {request : Call} (deaf : request.IsDeaf) (kernel : Kernel)
    (task : Task) : kernel.Overlooks sink stages task request := by
  -- a change of the process itself that is the same without what is logged
  have own {request : Call} (reply : request.Reply) {change : Task → Task}
      (same : Task.Deaf stages change) :
      (Attempt.answered reply (kernel.modify task.pid change)).map
          (fun kernel => kernel.muted sink stages) =
        (.answered reply ((kernel.muted sink stages).modify task.pid change) : Attempt request) := by
    simp only [Attempt.map]
    rw [modify_muted same]
  cases request with
  | directory | limit | ownPid | parentPid | hostname | domain | ownPath | reactionTo | held
  | never => rfl
  | setMask mask => exact own _ fun _ => rfl
  | pause time => exact own _ fun _ => rfl
  | takeCaught => exact own _ fun _ => rfl
  | react signal reaction => exact own _ (Task.deaf_react stages signal reaction)
  | setLimit resource wanted =>
      have same : (task.muted stages).limits.find resource = task.limits.find resource := rfl
      simp only [Overlooks, attempt]
      rw [same]
      cases (task.limits.find resource).change wanted with
      | error errno => rfl
      | ok limit => exact own _ fun _ => rfl
  | namespaceOf pid =>
      exact congrArg (Attempt.answered · _) (namespaceOf_muted kernel pid).symm
  | setHostname name =>
      have renamed : (kernel.muted sink stages).rename (task.muted stages) name _ = _ :=
        rename_muted kernel task name fun names => { names with host := name }
      simp only [Overlooks, attempt, renamed]
      cases kernel.rename task name fun names => { names with host := name } <;> rfl
  | setDomain name =>
      have renamed : (kernel.muted sink stages).rename (task.muted stages) name _ = _ :=
        rename_muted kernel task name fun names => { names with domain := name }
      simp only [Overlooks, attempt, renamed]
      cases kernel.rename task name fun names => { names with domain := name } <;> rfl
  | hold signals =>
      have holds : (kernel.change task.pid fun task => { task with held := signals }).muted sink
            stages = (kernel.muted sink stages).change task.pid fun task =>
              { task with held := signals } :=
        change_muted (fun _ => rfl) kernel task.pid
      simp only [Overlooks, attempt, Attempt.map, holds]
      rfl
  | send pid signal =>
      have sent : (kernel.muted sink stages).send task.pid pid signal = _ :=
        send_muted kernel task.pid pid signal
      have answers (reply : Except Errno Unit × Kernel) (is : reply =
          ((kernel.send task.pid pid signal).1,
            (kernel.send task.pid pid signal).2.muted sink stages)) :
          (Attempt.answered (kernel.send task.pid pid signal).1
            ((kernel.send task.pid pid signal).2.muted sink stages) : Attempt (.send pid signal)) =
              .answered reply.1 reply.2 := by
        rw [is]
      exact answers _ sent
  | close descriptor =>
      have open? : (task.muted stages).find? descriptor = task.find? descriptor := rfl
      simp only [Overlooks, attempt]
      rw [open?]
      split
      · exact own _ fun _ => rfl
      · rfl
  | duplicate descriptor least =>
      simp only [Overlooks, attempt, duplicate_muted]
      cases kernel.duplicate task descriptor least <;> rfl
  | connect source target =>
      simp only [Overlooks, attempt, connect_muted]
      cases kernel.connect task source target <;> rfl
  | pipe => simp only [Overlooks, attempt, openPipe_muted, Attempt.map]
  | awaitAny patience => exact overlooks_awaitAny kernel task patience
  | await child => exact overlooks_await kernel task child
  | select child signals => exact overlooks_select kernel task child signals
  | exit code =>
      have finished : (kernel.finish task.pid (.exited code)).muted sink stages = _ :=
        finish_muted kernel task.pid (.exited code)
      change Attempt.again _ = Attempt.again _
      exact congrArg Attempt.again finished
  | _ => cases deaf

/-- What does not go where things are logged to is written in the same way. -/
theorem overlooks_write {kernel : Kernel} {task : Task} {descriptor : Descriptor}
    (aside : kernel.WritesAside task descriptor sink) (bytes : Bytes) :
    kernel.Overlooks sink stages task (.write descriptor bytes) :=
  write_muted aside bytes

/-- What does not come from where things are logged to is read in the same way. -/
theorem overlooks_read {kernel : Kernel} {task : Task} {descriptor : Descriptor}
    (aside : kernel.ReadsAside task descriptor sink) (limit : Nat) :
    kernel.Overlooks sink stages task (.read descriptor limit) :=
  read_muted aside limit

/-- By a call a process may look at what is logged, or at how a stage was started. -/
def Regards (kernel : Kernel) (sink : Channel) (task : Task) : Call → Prop
  | .write _ _ | .spawn _ | .become _ _ _ | .openFile _ _ | .enterDirectory _ => False
  | .read descriptor _ => ¬ kernel.ReadsAside task descriptor sink
  | .inspect descriptor => ∃ number handle,
      kernel.handle? task descriptor = some (number, handle) ∧ handle.channel.Reveals sink
  | .examine path follows => ∃ place node,
      (kernel.view task).lookUp task.directory path follows = .ok (place, node) ∧
        node.Reveals place sink
  | .list path => ∃ place mode name,
      (kernel.view task).resolve task.directory path = .ok (place, .directory mode) ∧
        sink = .file (place ++ [name])
  | request => ¬ request.IsDeaf

end Kernel

/-- Two attempts at a call come to the same but for what is logged. -/
inductive Attempt.Alike {request : Call} (sink : Channel) (stages : List Pid) :
    Attempt request → Attempt request → Prop
  | blocked : Alike sink stages .blocked .blocked
  | again {one two : Kernel} (same : one.muted sink stages = two.muted sink stages) :
      Alike sink stages (.again one) (.again two)
  | answered (reply : request.Reply) {one two : Kernel}
      (same : one.muted sink stages = two.muted sink stages) :
      Alike sink stages (.answered reply one) (.answered reply two)

namespace Kernel

variable {sink : Channel} {stages : List Pid} {one two : Kernel} {task other : Task}

theorem alike_of_map_eq {request : Call} {attempt also : Attempt request}
    (same : attempt.map (fun kernel => kernel.muted sink stages) =
      also.map fun kernel => kernel.muted sink stages) : attempt.Alike sink stages also := by
  cases attempt with
  | blocked =>
      cases also with
      | blocked => exact .blocked
      | _ => cases same
  | again one =>
      cases also with
      | again two => exact .again (Attempt.again.inj same)
      | _ => cases same
  | answered reply one =>
      cases also with
      | answered other two =>
          simp only [Attempt.map, Attempt.answered.injEq] at same
          obtain ⟨rfl, same⟩ := same
          exact .answered _ same
      | _ => cases same

/-- A call that is overlooked on both hosts is answered alike. -/
theorem alike_of_overlooks {request : Call} (same : one.muted sink stages = two.muted sink stages)
    (sameTask : task.muted stages = other.muted stages)
    (overlooks : one.Overlooks sink stages task request)
    (overlooksToo : two.Overlooks sink stages other request) :
    (one.attempt task request).Alike sink stages (two.attempt other request) :=
  alike_of_map_eq (overlooks.trans (by rw [same, sameTask, overlooksToo]))

/-- What comes of a call that has nothing to do with what is logged. -/
theorem alike_of_averted {request : Call} (modest : request.IsModest)
    (same : one.muted sink stages = two.muted sink stages)
    (sameTask : task.muted stages = other.muted stages)
    (averted : ¬ one.Regards sink task request) (avertedToo : ¬ two.Regards sink other request) :
    (one.attempt task request).Alike sink stages (two.attempt other request) := by
  have pid : task.pid = other.pid := (congrArg Task.pid sameTask :)
  have directory : task.directory = other.directory := (congrArg Task.directory sameTask :)
  cases request with
  | write _ _ | spawn _ | become _ _ _ => cases modest
  | read descriptor limit =>
      exact alike_of_overlooks same sameTask (overlooks_read (Classical.not_not.1 averted) limit)
        (overlooks_read (Classical.not_not.1 avertedToo) limit)
  | inspect descriptor =>
      have told := inspect_alike same sameTask fun number handle found reveals =>
        averted ⟨number, handle, found, reveals⟩
      simp only [attempt]
      cases found : one.handle? task descriptor with
      | none =>
          rw [found, Option.map_none, eq_comm, Option.map_eq_none_iff] at told
          rw [told]
          exact .answered _ same
      | some entry =>
          rw [found, Option.map_some, eq_comm, Option.map_eq_some_iff] at told
          obtain ⟨entryToo, foundToo, told⟩ := told
          rw [foundToo]
          dsimp only
          rw [told]
          exact .answered _ same
  | examine path follows =>
      have told := examine_alike same sameTask fun place node looked reveals =>
        averted ⟨place, node, looked, reveals⟩
      simp only [attempt, told]
      exact .answered _ same
  | list path =>
      have told := list_alike same sameTask fun place mode looked name is =>
        averted ⟨place, mode, name, looked, is⟩
      simp only [attempt, told]
      exact .answered _ same
  | enterDirectory path =>
      have moved (place : Place) :
          (one.modify task.pid fun task => { task with directory := place }).muted sink stages =
            (two.modify other.pid fun task => { task with directory := place }).muted sink stages := by
        rw [modify_muted (fun _ => rfl), modify_muted (fun _ => rfl), same, pid]
      simp only [attempt, ← directory]
      rcases (samePlaces_view same sameTask).resolve task.directory path with
        found | ⟨place, mode, content, _, -, first, second⟩
      · rw [← found]
        cases (one.view task).resolve task.directory path with
        | error errno => exact .answered _ same
        | ok entry =>
            obtain ⟨place, node⟩ := entry
            cases node with
            | directory mode => exact .answered _ (moved place)
            | _ => exact .answered _ same
      · rw [first, second]
        exact .answered _ same
  | openFile path how =>
      have opened := openFile_alike same sameTask path how
      simp only [attempt]
      rw [opened.1]
      exact .answered _ opened.2
  | _ =>
      exact alike_of_overlooks same sameTask
        (overlooks_of_isDeaf (Classical.not_not.1 averted) one task)
        (overlooks_of_isDeaf (Classical.not_not.1 avertedToo) two other)

theorem Regards.alike {request : Call} (regards : one.Regards sink task request)
    (same : one.muted sink stages = two.muted sink stages)
    (sameTask : task.muted stages = other.muted stages) : two.Regards sink other request := by
  have directory : task.directory = other.directory := (congrArg Task.directory sameTask :)
  cases request with
  | read descriptor limit =>
      intro aside
      refine regards fun number handle found reads shows => ?_
      obtain ⟨also, foundToo, is⟩ := exists_handle?_alike same sameTask found
      refine aside number also foundToo ?_ ?_
      · rw [← Handle.reads_muted also sink, is, Handle.reads_muted, reads]
      · rwa [← Handle.channel_muted also sink, is, Handle.channel_muted]
  | inspect descriptor =>
      obtain ⟨number, handle, found, reveals⟩ := regards
      obtain ⟨also, foundToo, is⟩ := exists_handle?_alike same sameTask found
      refine ⟨number, also, foundToo, ?_⟩
      rwa [← Handle.channel_muted also sink, is, Handle.channel_muted]
  | examine path follows =>
      obtain ⟨place, node, looked, reveals⟩ := regards
      rcases (samePlaces_view same sameTask).lookUp task.directory path follows with
        found | ⟨sunk, mode, content, also, is, -, second⟩
      · exact ⟨place, node, directory ▸ found ▸ looked, reveals⟩
      · exact ⟨sunk, _, directory ▸ second, .inl is⟩
  | list path =>
      obtain ⟨place, mode, name, looked, is⟩ := regards
      rcases (samePlaces_view same sameTask).resolve task.directory path with
        found | ⟨_, _, _, _, -, first, -⟩
      · exact ⟨place, mode, name, directory ▸ found ▸ looked, is⟩
      · cases looked.symm.trans first
  | _ => exact regards

/-- What a process writes by a number goes where things are logged to. -/
def WritesThere (kernel : Kernel) (task : Task) (descriptor : Descriptor) (sink : Channel) : Prop :=
  ∃ number handle, kernel.handle? task descriptor = some (number, handle) ∧ handle.writes ∧
    handle.channel = sink ∧ sink.collects

theorem writesAside_or_writesThere (kernel : Kernel) (task : Task) (descriptor : Descriptor)
    (sink : Channel) :
    kernel.WritesAside task descriptor sink ∨ kernel.WritesThere task descriptor sink := by
  by_cases aside : kernel.WritesAside task descriptor sink
  · exact .inl aside
  · simp only [WritesAside, Classical.not_forall, Classical.not_not] at aside
    obtain ⟨number, handle, found, writes, leads, collects⟩ := aside
    exact .inr ⟨number, handle, found, writes, leads, collects⟩

theorem WritesThere.alike {descriptor : Descriptor}
    (there : one.WritesThere task descriptor sink)
    (same : one.muted sink stages = two.muted sink stages)
    (sameTask : task.muted stages = other.muted stages) :
    two.WritesThere other descriptor sink := by
  obtain ⟨number, handle, found, writes, leads, collects⟩ := there
  obtain ⟨also, foundToo, is⟩ := exists_handle?_alike same sameTask found
  refine ⟨number, also, foundToo, ?_, ?_, collects⟩
  · rw [← Handle.writes_muted also sink, is, Handle.writes_muted, writes]
  · rw [← Handle.channel_muted also sink, is, Handle.channel_muted, leads]

/-- What is written where things are logged to comes to the same if it is answered alike. -/
theorem alike_of_writesThere {descriptor : Descriptor} {bytes : Bytes} {reply : Except Errno Unit}
    {after afterToo : Kernel} (same : one.muted sink stages = two.muted sink stages)
    (sameTask : task.muted stages = other.muted stages)
    (there : one.WritesThere task descriptor sink)
    (written : one.attempt task (.write descriptor bytes) = .answered reply after)
    (writtenToo : two.attempt other (.write descriptor bytes) = .answered reply afterToo) :
    after.muted sink stages = afterToo.muted sink stages := by
  obtain ⟨number, handle, found, writes, leads, collects⟩ := there
  obtain ⟨also, handleToo, foundToo, writesToo, leadsToo, -⟩ :=
    WritesThere.alike ⟨number, handle, found, writes, leads, collects⟩ same sameTask
  have pid : task.pid = other.pid := (congrArg Task.pid sameTask :)
  rw [write_muted_self found writes leads collects written,
    write_muted_self foundToo writesToo leadsToo collects writtenToo, same, pid]

end Kernel

end HostnameSandbox

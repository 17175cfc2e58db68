import HostnameSandbox.Proofs.Launching.Birth
import HostnameSandbox.Proofs.Logging.Sink

/-!
# What is stored

Few calls change what is in files, stores and pipes, or which files are open.  The others only
change what processes are there and what they do.
-/

namespace HostnameSandbox

/-- The calls by which what is stored may change. -/
def Call.IsStoring : Call → Bool
  | .report _ | .write _ _ | .read _ _ | .openFile _ _ | .pipe | .spawn _ => true
  | _ => false

namespace Kernel

variable {kernel before between after : Kernel} {task : Task} {pid : Pid}

/-- What is stored is the same, and so are the open files. -/
structure SameStorage (before after : Kernel) : Prop where
  files : after.files = before.files
  stores : after.stores = before.stores
  pipes : after.pipes = before.pipes
  handles : after.handles = before.handles

namespace SameStorage

theorem refl (kernel : Kernel) : kernel.SameStorage kernel :=
  ⟨rfl, rfl, rfl, rfl⟩

theorem trans (first : before.SameStorage between) (second : between.SameStorage after) :
    before.SameStorage after where
  files := second.files.trans first.files
  stores := second.stores.trans first.stores
  pipes := second.pipes.trans first.pipes
  handles := second.handles.trans first.handles

theorem modify (kernel : Kernel) (pid : Pid) (change : Task → Task) :
    kernel.SameStorage (kernel.modify pid change) :=
  ⟨rfl, rfl, rfl, rfl⟩

theorem forget (kernel : Kernel) (pid : Pid) : kernel.SameStorage (kernel.forget pid) :=
  ⟨rfl, rfl, rfl, rfl⟩

theorem setNames (kernel : Kernel) (task : Task) (change : Names → Names) :
    kernel.SameStorage (kernel.setNames task change) :=
  ⟨rfl, rfl, rfl, rfl⟩

theorem atTimeOf (kernel : Kernel) (task : Task) : kernel.SameStorage (kernel.atTimeOf task) :=
  ⟨rfl, rfl, rfl, rfl⟩

theorem finish (kernel : Kernel) (pid : Pid) (status : ExitStatus) :
    kernel.SameStorage (kernel.finish pid status) := by
  unfold Kernel.finish
  cases kernel.task? pid with
  | none => exact .refl kernel
  | some ended => exact ⟨rfl, rfl, rfl, rfl⟩

theorem foldl {α : Type} {step : Kernel → α → Kernel}
    (same : ∀ (kernel : Kernel) item, kernel.SameStorage (step kernel item)) (items : List α)
    (kernel : Kernel) : kernel.SameStorage (items.foldl step kernel) := by
  induction items generalizing kernel with
  | nil => exact .refl kernel
  | cons item items hypothesis => exact (same kernel item).trans (hypothesis _)

theorem act (pid : Pid) (kernel : Kernel) (signal : Signal) :
    kernel.SameStorage (act pid kernel signal) := by
  unfold Kernel.act
  cases kernel.task? pid with
  | none => exact .refl kernel
  | some task =>
      dsimp only
      split
      · exact .refl kernel
      · have begins : kernel.SameStorage (kernel.modify pid fun task =>
            { task with waiting := task.waiting.filter (· != signal) }) := .modify kernel pid _
        refine begins.trans ?_
        cases task.reactionTo signal with
        | ignored => exact .refl _
        | ignoredOnce => exact .modify _ pid _
        | caught => exact .modify _ pid _
        | standard =>
            dsimp only
            split
            · exact .modify _ pid _
            · split
              · exact .finish _ pid _
              · exact .refl _

theorem change (kernel : Kernel) (pid : Pid) (change : Task → Task) :
    kernel.SameStorage (kernel.change pid change) := by
  unfold Kernel.change
  cases kernel.task? pid with
  | none => exact .refl kernel
  | some task =>
      dsimp only
      split
      · exact .refl kernel
      · have begins : kernel.SameStorage (kernel.modify pid fun _ => change task) :=
          .modify kernel pid _
        exact begins.trans (.foldl (.act pid) _ _)

theorem signal (kernel : Kernel) (pid : Pid) (signal : Signal) :
    kernel.SameStorage (kernel.signal pid signal) :=
  .change kernel pid _

theorem send (kernel : Kernel) (sender pid : Pid) (signal : Signal) :
    kernel.SameStorage (kernel.send sender pid signal).2 := by
  unfold Kernel.send
  split
  · exact .refl kernel
  · dsimp only
    split
    · split
      · exact .refl kernel
      · exact .foldl (fun kernel target => .signal kernel target signal) _ kernel
    · split <;> exact .refl kernel

theorem rename {name : Bytes} {change : Names → Names}
    (renamed : kernel.rename task name change = .ok after) : kernel.SameStorage after := by
  unfold Kernel.rename at renamed
  split at renamed
  · cases renamed
  · split at renamed
    · cases renamed
    · cases renamed
      exact .setNames kernel task change

theorem duplicate {descriptor free : Descriptor} {least : Nat}
    (duplicated : kernel.duplicate task descriptor least = .ok (free, after)) :
    kernel.SameStorage after := by
  unfold Kernel.duplicate at duplicated
  split at duplicated
  · cases duplicated
  · split at duplicated
    · cases duplicated
    · cases found : task.free? least with
      | error errno => simp [found, bind, Except.bind] at duplicated
      | ok number =>
          simp only [found, bind, Except.bind, Except.ok.injEq, Prod.mk.injEq] at duplicated
          exact duplicated.2 ▸ .modify kernel task.pid _

theorem connect {source target : Descriptor}
    (connected : kernel.connect task source target = .ok after) : kernel.SameStorage after := by
  unfold Kernel.connect at connected
  split at connected
  · cases connected
  · split at connected
    · cases connected
      exact .modify kernel task.pid _
    · cases connected

theorem become {path : Bytes} {words : List Bytes} {environment : Environment}
    (became : kernel.become task path words environment = .ok after) :
    kernel.SameStorage after := by
  unfold Kernel.become at became
  cases loaded : Loading.load (kernel.view task) (kernel.luggage task environment)
      task.directory path words with
  | error errno => simp [loaded, bind, Except.bind] at became
  | ok program =>
      simp only [loaded, bind, Except.bind, Except.ok.injEq] at became
      exact became ▸ .modify kernel task.pid _

/-- By most calls, what is stored stays as it is. -/
theorem of_attempt {request : Call} (plain : ¬ request.IsStoring) (kernel : Kernel) (task : Task) :
    (kernel.attempt task request).Leaves kernel.SameStorage := by
  cases request with
  | report event => cases plain rfl
  | write descriptor bytes => cases plain rfl
  | read descriptor limit => cases plain rfl
  | openFile path how => cases plain rfl
  | pipe => cases plain rfl
  | spawn spawning => cases plain rfl
  | openLog filter => exact .modify kernel task.pid _
  | setMask mask => exact .modify kernel task.pid _
  | react signal reaction => exact .modify kernel task.pid _
  | takeCaught => exact .modify kernel task.pid _
  | pause time => exact .modify kernel task.pid _
  | hold signals => exact .change kernel task.pid _
  | send pid signal => exact .send kernel task.pid pid signal
  | exit code => exact .finish kernel task.pid _
  | never => trivial
  | close descriptor =>
      simp only [attempt]
      split
      · exact .modify kernel task.pid _
      · exact .refl kernel
  | duplicate descriptor least =>
      simp only [attempt]
      split
      · next duplicated => exact .duplicate duplicated
      · exact .refl kernel
  | connect source target =>
      simp only [attempt]
      split
      · next connected => exact .connect connected
      · exact .refl kernel
  | enterDirectory path =>
      simp only [attempt]
      split
      · exact .refl kernel
      · exact .modify kernel task.pid _
      · exact .refl kernel
  | setLimit resource wanted =>
      simp only [attempt]
      split
      · exact .refl kernel
      · exact .modify kernel task.pid _
  | setHostname name =>
      simp only [attempt]
      split
      · next renamed => exact .rename renamed
      · exact .refl kernel
  | setDomain name =>
      simp only [attempt]
      split
      · next renamed => exact .rename renamed
      · exact .refl kernel
  | await child =>
      simp only [attempt, Kernel.await]
      split
      · exact .forget kernel child
      · trivial
  | select child signals =>
      simp only [attempt, Kernel.select]
      split
      · exact .forget kernel child
      · split
        · exact .modify kernel task.pid _
        · trivial
  | awaitAny patience =>
      simp only [attempt, Kernel.awaitAny]
      repeat' split
      all_goals first | exact .refl kernel | exact .forget kernel _ | trivial
  | become path words environment =>
      simp only [attempt]
      split
      · next became => exact .become became
      · exact .refl kernel
  | inspect descriptor =>
      simp only [attempt]
      split <;> exact .refl kernel
  | _ => exact .refl kernel

end SameStorage

/-! ### Open files -/

/-- Files that were open are so still, and may be read and written to as they might; nobody has come
further but in such as lead to certain channels. -/
def KeepsHandles (moving : Channel → Prop) (before after : Kernel) : Prop :=
  ∀ (number : Nat) (handle : Handle), before.handles[number]? = some handle →
    ∃ offset, after.handles[number]? = some { handle with offset } ∧
      (offset = handle.offset ∨ moving handle.channel)

/-- Where a process writes to by a number, it may come further. -/
def WritesAlong (moving : Channel → Prop) (kernel : Kernel) (task : Task)
    (descriptor : Descriptor) : Prop :=
  ∀ number handle, kernel.handle? task descriptor = some (number, handle) → handle.writes →
    handle.channel ≠ .null → moving handle.channel

namespace KeepsHandles

variable {moving : Channel → Prop}

theorem of_eq (same : after.handles = before.handles) : before.KeepsHandles moving after :=
  fun _ handle found => ⟨handle.offset, same ▸ found, .inl rfl⟩

theorem refl (kernel : Kernel) : kernel.KeepsHandles moving kernel := .of_eq rfl

theorem trans (first : before.KeepsHandles moving between)
    (second : between.KeepsHandles moving after) : before.KeepsHandles moving after := by
  intro number handle found
  obtain ⟨middle, isMiddle, moved⟩ := first number handle found
  obtain ⟨later, isLater, movedToo⟩ := second number { handle with offset := middle } isMiddle
  refine ⟨later, isLater, ?_⟩
  rcases movedToo with rfl | may
  · exact moved
  · exact .inr may

theorem mono {more : Channel → Prop} (weaker : ∀ channel, moving channel → more channel)
    (keeps : before.KeepsHandles moving after) : before.KeepsHandles more after := by
  intro number handle found
  obtain ⟨offset, isThere, moved⟩ := keeps number handle found
  exact ⟨offset, isThere, moved.imp_right (weaker handle.channel)⟩

/-- One can come further in an open file. -/
theorem moves {number offset : Nat} {handle : Handle}
    (found : before.handles[number]? = some handle) (may : moving handle.channel)
    (is : after.handles = before.handles.setIfInBounds number { handle with offset }) :
    before.KeepsHandles moving after := by
  intro other earlier isEarlier
  rw [is, Array.getElem?_setIfInBounds]
  by_cases same : number = other
  · subst same
    obtain ⟨inside, -⟩ := Array.getElem?_eq_some_iff.1 found
    obtain rfl : handle = earlier := Option.some.inj (found.symm.trans isEarlier)
    rw [if_pos rfl, if_pos inside]
    exact ⟨offset, rfl, .inr may⟩
  · rw [if_neg same]
    exact ⟨earlier.offset, isEarlier, .inl rfl⟩

/-- Files can be opened. -/
theorem push {handle : Handle} (is : after.handles = before.handles.push handle) :
    before.KeepsHandles moving after := by
  intro other earlier isEarlier
  obtain ⟨inside, -⟩ := Array.getElem?_eq_some_iff.1 isEarlier
  rw [is, Array.getElem?_push, if_neg (Nat.ne_of_lt inside)]
  exact ⟨earlier.offset, isEarlier, .inl rfl⟩

theorem handles_setContents (kernel : Kernel) (channel : Channel) (data : Data) :
    (kernel.setContents channel data).handles = kernel.handles := by
  cases channel <;> rfl

theorem writeThrough {number : Nat} {handle : Handle} (found : kernel.handles[number]? = some handle)
    (may : moving handle.channel) (bytes : Bytes) :
    kernel.KeepsHandles moving (kernel.writeThrough number handle bytes) := by
  have is : (kernel.writeThrough number handle bytes).handles =
      kernel.handles.setIfInBounds number
        { handle with offset := kernel.writingOffset handle + bytes.length } := by
    unfold Kernel.writeThrough
    dsimp only
    split
    · rfl
    · rw [handles_setContents]
  exact .moves found may is

theorem log (along : kernel.WritesAlong moving task Descriptor.error) (event : Event) :
    kernel.KeepsHandles moving (kernel.log task event) := by
  unfold Kernel.log
  split
  · exact .refl kernel
  · exact .of_eq rfl
  · split
    · dsimp only
      split
      · next number handle found =>
          have isThere := getElem?_of_handle? found
          split
          · exact .refl kernel
          · next writes =>
              have may := along number handle found (by simpa using writes)
              split
              · next leads => exact .writeThrough isThere (may (by rw [leads]; exact nofun)) _
              · next leads => exact .writeThrough isThere (may (by rw [leads]; exact nofun)) _
              · exact .of_eq rfl
              · exact .refl kernel
      · exact .refl kernel
    · exact .refl kernel

theorem writePipe (kernel : Kernel) (task : Task) (descriptor : Descriptor) (number : Nat)
    (bytes : Bytes) :
    (kernel.writePipe task descriptor number bytes).Leaves (kernel.KeepsHandles moving) := by
  unfold Kernel.writePipe
  dsimp only
  split
  · exact .of_eq (SameStorage.signal _ _ _).handles
  · split
    · trivial
    · split
      · split <;> exact .of_eq rfl
      · split <;> exact .of_eq rfl

theorem writeStored {number : Nat} {handle : Handle} (found : kernel.handles[number]? = some handle)
    (may : moving handle.channel) (task : Task) (descriptor : Descriptor) (bytes : Bytes) :
    (kernel.writeStored task descriptor number handle bytes).Leaves
      (kernel.KeepsHandles moving) := by
  unfold Kernel.writeStored
  dsimp only
  split
  · split
    · exact .trans (.writeThrough found may _) (.of_eq (SameStorage.signal _ _ _).handles)
    · exact .writeThrough found may _
  · exact .writeThrough found may _

theorem advance {number : Nat} {handle : Handle} (found : kernel.handles[number]? = some handle)
    (may : moving handle.channel) (same : between.handles = kernel.handles) (bytes : Bytes) :
    kernel.KeepsHandles moving (between.advance number handle bytes) := by
  have is : (between.advance number handle bytes).handles = kernel.handles.setIfInBounds number
      { handle with offset := handle.offset + bytes.length } := same ▸ rfl
  exact .moves found may is

theorem write {descriptor : Descriptor} (along : kernel.WritesAlong moving task descriptor)
    (bytes : Bytes) :
    (kernel.write task descriptor bytes).Leaves (kernel.KeepsHandles moving) := by
  unfold Kernel.write
  split
  · exact .refl kernel
  · next number handle found =>
      have isThere := getElem?_of_handle? found
      split
      · exact .refl kernel
      · next writes =>
          have may := along number handle found (by simpa using writes)
          have leadsOn {channel : Channel} (leads : handle.channel = channel)
              (other : channel ≠ .null) : moving handle.channel := may (leads ▸ other)
          split
          · exact .refl kernel
          · exact KeepsHandles.writePipe kernel task descriptor _ bytes
          · next leads => exact writeStored isThere (leadsOn leads nofun) task descriptor bytes
          · next leads => exact writeStored isThere (leadsOn leads nofun) task descriptor bytes
          · exact .of_eq rfl
          · next leads => exact .advance isThere (leadsOn leads nofun) rfl bytes
          · next leads => exact .advance isThere (leadsOn leads nofun) rfl bytes
          · exact .refl kernel

theorem readAt {number : Nat} {handle : Handle} (found : kernel.handles[number]? = some handle)
    (may : moving handle.channel) (data : Data) (limit : Nat) :
    kernel.KeepsHandles moving (kernel.readAt number handle data limit).2 :=
  .moves found may rfl

theorem read {descriptor : Descriptor} (may : ∀ number handle,
      kernel.handle? task descriptor = some (number, handle) → moving handle.channel) (limit : Nat) :
    (kernel.read task descriptor limit).Leaves (kernel.KeepsHandles moving) := by
  unfold Kernel.read
  split
  · exact .refl kernel
  · next number handle found =>
      have isThere := getElem?_of_handle? found
      have here := may number handle found
      dsimp only
      split
      · exact .refl kernel
      · split
        · exact .refl kernel
        · exact .refl kernel
        · exact .refl kernel
        · exact .refl kernel
        · split
          · trivial
          · exact .of_eq rfl
        · exact .readAt isThere here _ _
        · exact .readAt isThere here _ _
        · split
          · exact .readAt isThere here _ _
          · exact .refl kernel
        · exact .readAt isThere here _ _
        · exact .refl kernel
        · exact .refl kernel
        · exact .refl kernel

theorem openFile (kernel : Kernel) (task : Task) (path : Bytes) (how : OpenMode) :
    kernel.KeepsHandles moving (kernel.openFile task path how).2 := by
  unfold Kernel.openFile
  dsimp only
  split
  · exact .refl kernel
  · next descriptor channel tree opened =>
      have pushes {between : Kernel} (same : between.handles = kernel.handles)
          (change : Task → Task) (handle : Handle) : kernel.KeepsHandles moving
            { between.modify task.pid change with handles := between.handles.push handle } :=
        .push (congrArg (·.push handle) same)
      refine pushes ?_ _ _
      split
      · split
        · split <;> rfl
        · rfl
      · split
        · exact handles_setContents kernel _ _
        · rfl
      · rfl

theorem openPipe (kernel : Kernel) (task : Task) :
    kernel.KeepsHandles moving (kernel.openPipe task).2 := by
  unfold Kernel.openPipe
  dsimp only
  split
  · exact .refl kernel
  · have first : kernel.KeepsHandles moving { kernel with
        handles := kernel.handles.push ⟨.outlet kernel.pipes.size, true, false, false, 0⟩ } :=
      .push rfl
    exact first.trans (.push rfl)

theorem childFiles (kernel : Kernel) (task : Task) (streams : Streams) :
    kernel.KeepsHandles moving (kernel.childFiles task streams).2 := by
  unfold Kernel.childFiles
  dsimp only
  split
  · exact .refl kernel
  · exact .push rfl

theorem spawn (kernel : Kernel) (task : Task) (spawning : Spawning) :
    kernel.KeepsHandles moving (kernel.spawn task spawning).2 := by
  rw [spawn_eq]
  split
  · exact .refl kernel
  · cases kernel.loadChild task spawning with
    | error errno => exact .refl kernel
    | ok loaded => exact .childFiles kernel task spawning.streams

/-- By no call does a file that was open lead elsewhere. -/
theorem of_attempt (may : ∀ channel, moving channel) (kernel : Kernel) (task : Task)
    (request : Call) : (kernel.attempt task request).Leaves (kernel.KeepsHandles moving) := by
  by_cases storing : request.IsStoring
  · cases request with
    | report event => exact .log (fun _ _ _ _ _ => may _) event
    | write descriptor bytes => exact write (fun _ _ _ _ _ => may _) bytes
    | read descriptor limit => exact read (fun _ _ _ => may _) limit
    | openFile path how => exact .openFile kernel task path how
    | pipe => exact .openPipe kernel task
    | spawn spawning => exact .spawn kernel task spawning
    | _ => cases storing
  · exact (SameStorage.of_attempt storing kernel task).mono fun _ same => .of_eq same.handles

end KeepsHandles

end Kernel

end HostnameSandbox

import HostnameSandbox.Proofs.Logging.Discretion

/-!
# What stages leave alone

A stage reads nothing, and writes to nothing but its standard error.  So every open file that leads
elsewhere stays where it is by the moves of a stage, and what it leads to holds the same.
-/

namespace HostnameSandbox

/-- Whether what goes to the second channel is met in the first one.  The two ends of a pipe belong
together, and what goes to the null device is met nowhere. -/
def Channel.Joins (channel : Channel) : Channel → Prop
  | .null => False
  | .inlet pipe => channel = .inlet pipe ∨ channel = .outlet pipe
  | sink => channel = sink

theorem Channel.joins_self {channel : Channel} (kept : channel ≠ .null) : channel.Joins channel := by
  cases channel with
  | null => exact absurd rfl kept
  | inlet pipe => exact .inl rfl
  | _ => rfl

/-- The manner of processes that write to their standard error only, whatever they start. -/
def Manner.telling : Manner where
  mayWrite descriptor := descriptor = Descriptor.error
  mayStart _ := True

/-- The manner of processes that write nothing, whatever they start. -/
def Manner.mute : Manner where
  mayWrite _ := False
  mayStart _ := True

theorem Manner.onlyTells_telling : Manner.telling.OnlyTells := fun _ => id

theorem Manner.onlyTells_mute : Manner.mute.OnlyTells := fun _ => False.elim

namespace Kernel

variable {kernel before between after : Kernel} {task : Task} {move : Move} {manner : Manner}
  {number : Nat} {handle : Handle} {sink : Channel} {request : Call}

/-- An open file is as it was before: nobody has come further in it, and what it leads to holds the
same. -/
structure SameFile (number : Nat) (handle : Handle) (before after : Kernel) : Prop where
  there : after.handles[number]? = some handle
  contents : after.contents handle.channel = before.contents handle.channel
  pipe : ∀ pipe, handle.channel = .inlet pipe ∨ handle.channel = .outlet pipe →
    after.pipe pipe = before.pipe pipe

/-- Whatever one process reads by a number through an open file, from a file or a store or as the
next bytes of a pipe, another one does. -/
def ReadsAlike (handle : Handle) (descriptor : Descriptor) (one : Task) (before : Kernel)
    (other : Task) (after : Kernel) : Prop :=
  ∀ limit bytes moved,
    (handle.channel.isStored ∨ bytes ≠ [] ∧ ∃ pipe, handle.channel = .outlet pipe) →
    before.attempt one (.read descriptor limit) = .answered (.ok bytes) moved →
      ∃ moved, after.attempt other (.read descriptor limit) = .answered (.ok bytes) moved

namespace SameFile

theorem refl (found : kernel.handles[number]? = some handle) :
    SameFile number handle kernel kernel :=
  ⟨found, rfl, fun _ _ => rfl⟩

theorem trans (first : SameFile number handle before between)
    (second : SameFile number handle between after) : SameFile number handle before after where
  there := second.there
  contents := second.contents.trans first.contents
  pipe pipe leads := (second.pipe pipe leads).trans (first.pipe pipe leads)

/-- Where only what goes to one channel has changed, an open file is as it was unless that is met
there. -/
theorem of_beside (beside : SameBeside sink before after)
    (keeps : before.KeepsHandles (·.Joins sink) after)
    (found : before.handles[number]? = some handle) (apart : ¬ handle.channel.Joins sink) :
    SameFile number handle before after where
  there := by
    obtain ⟨offset, isThere, rfl | may⟩ := keeps number handle found
    · exact isThere
    · exact absurd may apart
  contents := by
    -- only the null device is met nowhere, not even in itself, and it holds nothing
    by_cases is : handle.channel = sink
    · have lost : handle.channel = .null := by
        by_contra kept
        exact apart (is ▸ Channel.joins_self kept)
      rw [lost]
      rfl
    · exact (beside.contents handle.channel is).symm
  pipe pipe leads := (beside.pipe pipe fun is => apart (is ▸ leads)).symm

/-- Through an open file that is as it was, whoever has it reads the same. -/
theorem readsAlike {one other : Task} {descriptor : Descriptor} {entry : Opened}
    (same : SameFile entry.handle handle before after)
    (found : before.handles[entry.handle]? = some handle)
    (isOne : one.find? descriptor = some entry) (isOther : other.find? descriptor = some entry) :
    ReadsAlike handle descriptor one before other after := by
  intro limit bytes moved holds read
  have first : before.handle? one descriptor = some (entry.handle, handle) := by
    simp [handle?, isOne, found]
  have second : after.handle? other descriptor = some (entry.handle, handle) := by
    simp [handle?, isOther, same.there]
  simp only [attempt, Kernel.read, first] at read
  simp only [attempt, Kernel.read, second]
  cases reads : handle.reads with
  | false => simp [reads] at read
  | true =>
      simp only [reads, Bool.not_true, Bool.false_eq_true, if_false] at read ⊢
      have contents := same.contents
      -- an end of a pipe is left out, since it depends on who has the other end open
      rcases holds with stored | ⟨some, pipe, leads⟩
      · cases leads : handle.channel with
        | store number =>
            rw [leads] at read contents
            obtain ⟨piece, -⟩ := Attempt.answered.inj read
            exact ⟨_, by simp only [readAt, contents]; rw [← piece]; rfl⟩
        | file place =>
            rw [leads] at read contents
            obtain ⟨piece, -⟩ := Attempt.answered.inj read
            exact ⟨_, by simp only [readAt, contents]; rw [← piece]; rfl⟩
        | _ =>
            rw [leads] at stored
            cases stored
      · rw [leads] at read
        simp only [leads, same.pipe pipe (.inr leads)] at read ⊢
        split at read
        · cases read
        · obtain ⟨piece, -⟩ := Attempt.answered.inj read
          have taken : ((before.pipe pipe).take limit).1 = bytes := Except.ok.inj piece
          rw [taken, if_neg (by simp [some])]
          exact ⟨_, rfl⟩

end SameFile

namespace KeepsHandles

/-- A process that writes to its standard error comes further only in what that leads to. -/
theorem writesAlong_error (kernel : Kernel) (task : Task) :
    kernel.WritesAlong (·.Joins (kernel.sinkOf task)) task Descriptor.error := by
  intro number handle found writes kept
  have sink : kernel.sinkOf task = handle.channel := by
    rw [sinkOf, found]
    exact if_pos writes
  rw [sink]
  exact Channel.joins_self kept

/-- By the calls of stages nobody comes further but in what their standard error leads to. -/
theorem of_staging (only : manner.OnlyTells) (allowed : (staging manner).allows () request)
    (kernel : Kernel) (task : Task) :
    (kernel.attempt task request).Leaves (kernel.KeepsHandles (·.Joins (kernel.sinkOf task))) := by
  have along := writesAlong_error kernel task
  by_cases storing : request.IsStoring
  · cases request with
    | report event => exact .log along event
    | write descriptor bytes =>
        obtain rfl := only descriptor allowed
        exact write along bytes
    | spawn spawning =>
        have keeps : kernel.KeepsHandles (·.Joins (kernel.sinkOf task))
            (kernel.spawn task spawning).2 := .spawn kernel task spawning
        exact keeps
    | read descriptor limit => cases allowed
    | openFile path how => cases allowed
    | pipe => cases allowed
    | _ => cases storing
  · exact (SameStorage.of_attempt storing kernel task).mono fun _ same => .of_eq same.handles

/-- By the steps of stages nobody comes further but in what their standard error leads to. -/
theorem of_acts (only : manner.OnlyTells) (plays : task.process.Plays manner)
    (acts : kernel.Acts task after) :
    kernel.KeepsHandles (·.Joins (kernel.sinkOf task)) after := by
  cases acts with
  | ends came => exact .of_eq (SameStorage.finish _ _ _).handles
  | turns loops => exact .of_eq rfl
  | forks splits =>
      rw [splits] at plays
      exact plays.elim
  | tries calls again =>
      rw [calls] at plays
      exact (of_staging only plays.1 (kernel.atTimeOf task) task).of_again again
  | makes calls answered =>
      rw [calls] at plays
      have keeps := (of_staging only plays.1 (kernel.atTimeOf task) task).of_answered answered
      exact keeps

end KeepsHandles

/-- A move of a stage leaves an open file as it was, unless what its standard error takes is met
there. -/
theorem Moves.sameFile (moves : Moves before move after) (coherent : before.Coherent)
    (member : task ∈ before.tasks) (mine : move.mover? = some task.pid) (only : manner.OnlyTells)
    (plays : task.process.Plays manner) (found : before.handles[number]? = some handle)
    (apart : ¬ handle.channel.Joins (before.sinkOf task)) : SameFile number handle before after := by
  rcases moves.acts_or_fails coherent member mine with acts | ⟨exchange, next, -, -, rfl⟩
  · exact .of_beside (.of_acts only plays acts) (.of_acts only plays acts) found apart
  · exact .of_beside (.modify before _ _) (.of_eq rfl) found apart

/-- An open file is as it was if every move has left it so. -/
theorem SameFile.of_run {first last : Kernel} {trace : List Move} (run : Run Moves first trace last)
    (found : first.handles[number]? = some handle)
    (stays : ∀ move ∈ trace, move.before.handles[number]? = some handle →
      SameFile number handle move.before move.after) : SameFile number handle first last := by
  induction run with
  | start => exact .refl found
  | @next trace move between last run moves hypothesis =>
      have sofar := hypothesis fun move isMove => stays move (List.mem_append_left _ isMove)
      have now := stays move (List.mem_append_right _ (List.mem_singleton_self _))
      rw [moves.before_eq, moves.after_eq] at now
      exact sofar.trans (now sofar.there)

end Kernel

end HostnameSandbox

import HostnameSandbox.Proofs.Family.Evolution

/-!
# Parents and children in a family

In every family that comes from one process, the stages care for their children: what a stage
has exchanged tells which child it created, how the child was started, and how it has ended.
-/

namespace HostnameSandbox

/-- Whether a process was started from a spawning. -/
def Member.StartedFrom (itself : Bytes → Bool) (environment : Environment) (spawning : Spawning)
    (member : Member) : Prop :=
  if itself spawning.path then
    ∃ listener, member.role = .stage ⟨spawning.path, spawning.args, environment⟩ listener
  else member.role = .other

theorem Member.startedFrom_born (itself : Bytes → Bool) (parent : Pid)
    (environment : Environment) (spawning : Spawning) :
    (born itself parent environment spawning).StartedFrom itself environment spawning := by
  unfold StartedFrom born
  split
  · exact ⟨_, rfl⟩
  · rfl

theorem Member.Evolves.startedFrom {itself : Bytes → Bool} {environment : Environment}
    {spawning : Spawning} {earlier later : Member} (evolves : earlier.Evolves later)
    (started : earlier.StartedFrom itself environment spawning) :
    later.StartedFrom itself environment spawning := by
  unfold StartedFrom at started ⊢
  split at started
  · next is =>
      rw [if_pos is]
      obtain ⟨listener, role⟩ := started
      rcases evolves.stage _ _ role with same | ⟨-, occurrence, after, role, -⟩
      · exact ⟨listener, same⟩
      · exact ⟨after, role⟩
  · next is =>
      rw [if_neg is]
      exact evolves.other started

namespace Family

/-- A stage of a family: what it was started with, and what it is doing. -/
def Plays (family : Family) (pid : Pid) (start : Start) (listener : Listener UInt8) : Prop :=
  ∃ member, family pid = some member ∧ member.role = .stage start listener

def Runs (family : Family) (pid : Pid) : Prop :=
  ∃ member, family pid = some member ∧ member.ending = none

def EndedAs (family : Family) (pid : Pid) (status : ExitStatus) : Prop :=
  ∃ member, family pid = some member ∧ member.ending = some status

/-- The process that has created another one. -/
def ParentOf (family : Family) (pid child : Pid) : Prop :=
  ∃ member, family child = some member ∧ member.parent = some pid

/-- The processes that come from a first one. -/
inductive Descends (family : Family) (root : Pid) : Pid → Prop
  | root : Descends family root root
  | child {pid child : Pid} (parent : family.ParentOf pid child)
      (descends : Descends family root pid) : Descends family root child

/-- The stages of a family care for their children. -/
structure Sound (itself : Bytes → Bool) (root : Pid) (family : Family) : Prop where
  supervised : ∀ {pid start listener}, family.Plays pid start listener →
    listener.Supervised (Sandbox.MayStart start) (Sandbox.Decides start)
  /-- A process that is not the first one was created by a stage. -/
  parent : ∀ {pid child member}, family child = some member → member.parent = some pid →
    ∃ start listener exchange spawning, family.Plays pid start listener ∧
      exchange ∈ listener.talk ∧ exchange.deed = .created spawning child ∧
      member.StartedFrom itself start.environment spawning
  /-- What a stage has created is its child. -/
  child : ∀ {pid start listener exchange spawning child}, family.Plays pid start listener →
    exchange ∈ listener.talk → exchange.deed = .created spawning child →
      family.ParentOf pid child
  /-- What a stage was told about the end of its child is true. -/
  told : ∀ {pid start listener child status}, family.Plays pid start listener →
    listener.duty = .settled child status → family.EndedAs child status
  descends : ∀ {pid member}, family pid = some member → family.Descends root pid

variable {itself : Bytes → Bool} {root pid other child : Pid} {family after : Family}
  {happening : Happening} {start : Start} {listener : Listener UInt8} {status : ExitStatus}

theorem Step.parentOf (step : Step itself family happening after)
    (parent : family.ParentOf pid child) : after.ParentOf pid child := by
  obtain ⟨member, present, isParent⟩ := parent
  obtain ⟨later, reached, evolves⟩ := step.evolves present
  exact ⟨later, reached, evolves.parent.trans isParent⟩

theorem Step.endedAs (step : Step itself family happening after)
    (ended : family.EndedAs pid status) : after.EndedAs pid status := by
  obtain ⟨member, present, isEnded⟩ := ended
  obtain ⟨later, reached, evolves⟩ := step.evolves present
  exact ⟨later, reached, (evolves.ended status isEnded).1⟩

theorem Step.descends (step : Step itself family happening after)
    (descends : family.Descends root pid) : after.Descends root pid := by
  induction descends with
  | root => exact .root
  | child parent descends hypothesis => exact .child (step.parentOf parent) hypothesis

/-- A stage after a step was one before, or was just created. -/
theorem Step.plays (step : Step itself family happening after)
    (plays : after.Plays pid start listener) :
    (listener = .fresh (Sandbox.program start) ∧ family pid = none) ∨
      ∃ member own, family pid = some member ∧ member.role = .stage start own ∧
        Goes family itself pid member own happening listener := by
  obtain ⟨later, reached, role⟩ := plays
  cases present : family pid with
  | none =>
      refine .inl ⟨?_, rfl⟩
      obtain ⟨parent, member, begun, own, exchange, spawning, -, -, -, -, rfl⟩ :=
        step.news present reached
      unfold Member.born at role
      simp only at role
      split at role
      · cases role
        rfl
      · cases role
  | some member =>
      refine .inr ?_
      cases earlier : member.role with
      | other =>
          obtain ⟨next, reachedToo, evolves⟩ := step.evolves present
          cases reached.symm.trans reachedToo
          cases (evolves.other earlier).symm.trans role
      | stage begun own =>
          obtain ⟨next, found, reachedToo, roleToo, goes⟩ := step.goes present earlier
          cases reached.symm.trans reachedToo
          cases role.symm.trans roleToo
          exact ⟨member, own, rfl, earlier, goes⟩

theorem Goes.mem_talk {member : Member} {own : Listener UInt8}
    (goes : Goes family itself pid member own happening listener) {exchange : Exchange}
    (made : exchange ∈ own.talk) : exchange ∈ listener.talk := by
  cases goes with
  | stay idle => exact made
  | come coming step =>
      cases step with
      | arrive listens => exact made
  | make running step answers =>
      cases step with
      | make step answers => exact List.mem_append_left _ made

theorem Goes.of_mem_talk {member : Member} {own : Listener UInt8}
    (goes : Goes family itself pid member own happening listener) {exchange : Exchange}
    (made : exchange ∈ listener.talk) :
    exchange ∈ own.talk ∨ happening = .made pid exchange := by
  cases goes with
  | stay idle => exact .inl made
  | come coming step =>
      cases step with
      | arrive listens => exact .inl made
  | make running step answers =>
      cases step with
      | make step answers =>
          rcases List.mem_append.1 made with made | made
          · exact .inl made
          · obtain rfl := List.mem_singleton.1 made
            exact .inr rfl

theorem Goes.supervised {member : Member} {own : Listener UInt8}
    {mayStart : Option Bytes → Spawning → Prop} {ends : UInt8 → Supervisor → Prop}
    (goes : Goes family itself pid member own happening listener)
    (supervised : own.Supervised mayStart ends) : listener.Supervised mayStart ends := by
  cases goes with
  | stay idle => exact supervised
  | come coming step => exact supervised.next step
  | make running step answers => exact supervised.next step

theorem eq_of_start {member : Member} (present : Family.start root start pid = some member) :
    pid = root ∧ member = ⟨none, .stage start (.fresh (Sandbox.program start)), [], none⟩ := by
  unfold Family.start at present
  split at present
  · next same => exact ⟨same, (Option.some.inj present).symm⟩
  · cases present

namespace Sound

theorem ofStart (itself : Bytes → Bool) (root : Pid) (start : Start) :
    Sound itself root (.start root start) := by
  constructor
  case supervised =>
    rintro pid begun listener ⟨member, present, role⟩
    obtain ⟨-, rfl⟩ := eq_of_start present
    cases role
    exact Supervised.start (Sandbox.keeps_program start)
  case parent =>
    intro pid child member present isParent
    obtain ⟨-, rfl⟩ := eq_of_start present
    cases isParent
  case child =>
    rintro pid begun listener exchange spawning child ⟨member, present, role⟩ made created
    obtain ⟨-, rfl⟩ := eq_of_start present
    cases role
    cases made
  case told =>
    rintro pid begun listener child status ⟨member, present, role⟩ settled
    obtain ⟨-, rfl⟩ := eq_of_start present
    cases role
    cases settled
  case descends =>
    intro pid member present
    obtain ⟨rfl, -⟩ := eq_of_start present
    exact .root

theorem next (sound : Sound itself root family) (step : Step itself family happening after) :
    Sound itself root after := by
  constructor
  case supervised =>
    intro pid start listener plays
    rcases step.plays plays with ⟨rfl, -⟩ | ⟨member, own, present, role, goes⟩
    · exact Supervised.start (Sandbox.keeps_program start)
    · exact goes.supervised (sound.supervised ⟨member, present, role⟩)
  case parent =>
    intro pid child later reached isParent
    cases present : family child with
    | none =>
        obtain ⟨parent, member, start, own, exchange, spawning, there, role, rfl, created, rfl⟩ :=
          step.news present reached
        cases isParent
        obtain ⟨next, found, reachedToo, roleToo, goes⟩ := step.goes there role
        refine ⟨start, next, exchange, spawning, ⟨found, reachedToo, roleToo⟩, ?_, created,
          Member.startedFrom_born _ _ _ _⟩
        cases goes with
        | stay idle => exact absurd rfl (idle exchange)
        | make running step answers =>
            cases step with
            | make step answers => simp [Listener.exchanged]
    | some member =>
        obtain ⟨next, reachedToo, evolves⟩ := step.evolves present
        cases reached.symm.trans reachedToo
        obtain ⟨start, own, exchange, spawning, ⟨parent, there, role⟩, made, created, started⟩ :=
          sound.parent present (evolves.parent.symm.trans isParent)
        obtain ⟨next, found, reachedToo, roleToo, goes⟩ := step.goes there role
        exact ⟨start, next, exchange, spawning, ⟨found, reachedToo, roleToo⟩,
          goes.mem_talk made, created, evolves.startedFrom started⟩
  case child =>
    intro pid start listener exchange spawning child plays made created
    rcases step.plays plays with ⟨rfl, -⟩ | ⟨member, own, present, role, goes⟩
    · cases made
    · rcases goes.of_mem_talk made with made | rfl
      · exact step.parentOf (sound.child ⟨member, present, role⟩ made created)
      · obtain ⟨_, _, _, _, -, -, -, -, -, rfl⟩ := step.made
        rw [created]
        exact ⟨_, set_self, rfl⟩
  case told =>
    intro pid start listener child status plays settled
    rcases step.plays plays with ⟨rfl, -⟩ | ⟨member, own, present, role, goes⟩
    · cases settled
    · have earlier (before : own.duty = .settled child status) : after.EndedAs child status :=
        step.endedAs (sound.told ⟨member, present, role⟩ before)
      cases goes with
      | stay idle => exact earlier settled
      | come coming step =>
          cases step with
          | arrive listens => exact earlier settled
      | @make exchange _ running goes answers =>
          cases goes with
          | make goes _ =>
              rw [Listener.duty_exchanged] at settled
              cases deed : exchange.deed with
              | other =>
                  rw [deed] at settled
                  exact earlier settled
              | told other end' =>
                  rw [deed] at settled
                  cases settled
                  obtain ⟨found, there, -, ended⟩ := answers.told deed
                  exact step.endedAs ⟨found, there, ended⟩
              | _ =>
                  rw [deed] at settled
                  cases settled
  case descends =>
    intro pid later reached
    cases present : family pid with
    | none =>
        obtain ⟨parent, member, _, _, _, _, there, -, -, -, rfl⟩ := step.news present reached
        exact .child ⟨_, reached, rfl⟩ (step.descends (sound.descends there))
    | some member => exact step.descends (sound.descends present)

/-- Every family that comes from one process is sound. -/
theorem of_run {first : Start} {trace : List Happening}
    (run : Run (Step itself) (.start root first) trace family) : Sound itself root family :=
  run.invariant (.ofStart itself root first) fun _ _ _ sound step => sound.next step

/-- The child that a stage has created is the one that it cares for, or has cared for. -/
theorem created_of_parentOf (sound : Sound itself root family)
    (parent : family.ParentOf pid child) : ∃ start listener,
      family.Plays pid start listener ∧ listener.duty.created? = some child := by
  obtain ⟨member, present, isParent⟩ := parent
  obtain ⟨start, listener, exchange, spawning, plays, made, created, -⟩ :=
    sound.parent present isParent
  refine ⟨start, listener, plays, ?_⟩
  have inTalk : child ∈ createdIn listener.talk :=
    List.mem_filterMap.2 ⟨exchange, made, by rw [created]; rfl⟩
  rw [(sound.supervised plays).created] at inTalk
  exact Option.mem_toList.1 inTalk

end Sound

/-- The first process goes on playing the program as it was started. -/
theorem plays_of_run {first : Start} {trace : List Happening}
    (run : Run (Step itself) (.start root first) trace family) :
    ∃ listener, family.Plays root first listener := by
  induction run with
  | start => exact ⟨_, _, if_pos rfl, rfl⟩
  | next run step hypothesis =>
      obtain ⟨listener, member, present, role⟩ := hypothesis
      obtain ⟨next, later, reached, roleToo, -⟩ := step.goes present role
      exact ⟨next, later, reached, roleToo⟩

end Family

end HostnameSandbox

import HostnameSandbox.Proofs.Family.Succession

/-!
# The line of a family

A stage has at most one child and other processes have none, so that there is at most one process
in every generation of a family.  The first generations of a run of the program are its stages, and
the next one is its command.
-/

namespace HostnameSandbox

/-- How many times the program is started again for an invocation before the command is. -/
def Invocation.relaunches : Invocation → Nat
  | ⟨.outer, _⟩ => 1
  | ⟨.inner, _⟩ => 0

theorem Invocation.relaunches_le (invocation : Invocation) : invocation.relaunches ≤ 1 := by
  obtain ⟨stage, command⟩ := invocation
  cases stage
  · exact Nat.le_refl 1
  · exact Nat.zero_le 1

namespace Family

variable {itself : Bytes → Bool} {root pid child other : Pid} {family after : Family}
  {happening : Happening} {trace : List Happening} {first start : Start}
  {listener : Listener UInt8} {number later : Nat} {invocation : Invocation} {verbose : Bool}

theorem Generation.exists_child (below : family.Generation root later pid)
    (less : number < later) :
    ∃ parent child, family.Generation root number parent ∧ family.ParentOf parent child := by
  induction below with
  | root => exact absurd less (Nat.not_lt_zero _)
  | @child above parent child isParent generation hypothesis =>
      rcases Nat.lt_or_eq_of_le (Nat.le_of_lt_succ less) with further | rfl
      · exact hypothesis further
      · exact ⟨parent, child, generation, isParent⟩

theorem Generation.exists_of_le (below : family.Generation root later pid)
    (le : number ≤ later) : ∃ above, family.Generation root number above := by
  rcases Nat.lt_or_eq_of_le le with less | rfl
  · obtain ⟨parent, -, above, -⟩ := below.exists_child less
    exact ⟨parent, above⟩
  · exact ⟨pid, below⟩

theorem Descends.exists_generation (descends : family.Descends root pid) :
    ∃ number, family.Generation root number pid := by
  induction descends with
  | root => exact ⟨0, .root⟩
  | child parent descends hypothesis =>
      obtain ⟨number, above⟩ := hypothesis
      exact ⟨number + 1, .child parent above⟩

theorem Step.generation (step : Step itself family happening after)
    (above : family.Generation root number pid) : after.Generation root number pid := by
  induction above with
  | root => exact .root
  | child parent above hypothesis => exact .child (step.parentOf parent) hypothesis

namespace Sound

theorem created_of_plays (sound : Sound itself root family)
    (plays : family.Plays pid start listener) (parent : family.ParentOf pid child) :
    listener.duty.created? = some child := by
  obtain ⟨begun, own, playsToo, created⟩ := sound.created_of_parentOf parent
  obtain ⟨-, rfl⟩ := plays.unique playsToo
  exact created

theorem child_unique (sound : Sound itself root family) (parent : family.ParentOf pid child)
    (parentToo : family.ParentOf pid other) : child = other := by
  obtain ⟨start, listener, plays, created⟩ := sound.created_of_parentOf parent
  exact Option.some.inj (created.symm.trans (sound.created_of_plays plays parentToo))

/-- There is at most one process in a generation. -/
theorem generation_unique (sound : Sound itself root family)
    (generation : family.Generation root number pid)
    (generationToo : family.Generation root number other) : pid = other := by
  induction generation generalizing other with
  | root =>
      cases generationToo
      rfl
  | child parent above hypothesis =>
      cases generationToo with
      | child parentToo aboveToo =>
          obtain rfl := hypothesis aboveToo
          exact sound.child_unique parent parentToo

/-- The process of a generation that is not the last one is the parent of the next one. -/
theorem parentOf_of_generation (sound : Sound itself root family)
    (above : family.Generation root number pid)
    (below : family.Generation root (number + 1) child) : family.ParentOf pid child := by
  cases below with
  | child parent aboveToo =>
      obtain rfl := sound.generation_unique above aboveToo
      exact parent

/-- A process that has been there before a step belonged to its generation then. -/
theorem generation_before (sound : Sound itself root family)
    (step : Step itself family happening after) (above : after.Generation root number pid)
    {member : Member} (present : family pid = some member) :
    family.Generation root number pid := by
  induction above generalizing member with
  | root => exact .root
  | child parent above hypothesis =>
      obtain ⟨found, reached, isParent⟩ := parent
      obtain ⟨same, reachedToo, evolves⟩ := step.evolves present
      cases reached.symm.trans reachedToo
      have parentBefore := evolves.parent.symm.trans isParent
      obtain ⟨-, -, -, -, ⟨parentMember, there, -⟩, -⟩ := sound.parent present parentBefore
      exact .child ⟨member, present, parentBefore⟩ (hypothesis there)

/-- A stage cares for its child as long as that is running. -/
theorem child?_of_runs (sound : Sound itself root family)
    (plays : family.Plays pid start listener) (parent : family.ParentOf pid child)
    (runs : family.Runs child) : listener.duty.child? = some child := by
  have created := sound.created_of_plays plays parent
  cases duty : listener.duty with
  | settled known status =>
      rw [duty] at created
      cases created
      obtain ⟨member, present, ended⟩ := sound.told plays duty
      obtain ⟨same, presentToo, running⟩ := runs
      cases present.symm.trans presentToo
      cases ended.symm.trans running
  | _ =>
      rw [duty] at created
      cases created <;> rfl

end Sound

/-! ### The stages of a run -/

theorem mem_launches_iff (run : Run (Step itself) (.start root first) trace family)
    (plays : family.Plays pid start listener) :
    child ∈ (launchesBy [pid] trace).map Launch.child ↔ family.ParentOf pid child := by
  have sound := Sound.of_run run
  rw [launchesBy_of_plays run plays, List.mem_map]
  constructor
  · rintro ⟨launch, member, rfl⟩
    obtain ⟨exchange, made, launched⟩ := List.mem_filterMap.1 member
    exact sound.child plays made (exchange.deed_of_launch? launched).2
  · rintro ⟨member, present, isParent⟩
    obtain ⟨begun, own, exchange, spawning, playsToo, made, created, -⟩ :=
      sound.parent present isParent
    obtain ⟨-, rfl⟩ := plays.unique playsToo
    refine ⟨⟨pid, spawning, child⟩, List.mem_filterMap.2 ⟨exchange, made, ?_⟩, rfl⟩
    rw [Exchange.launch?, created]

/-- The processes of a run are those of its first generations. -/
theorem mem_crew_iff (asks : first.Asks invocation verbose)
    (run : Run (Step itself) (.start root first) trace family) :
    pid ∈ crew first root trace ↔
      ∃ number ≤ invocation.relaunches, family.Generation root number pid := by
  obtain ⟨listener, plays⟩ := plays_of_run run
  obtain ⟨stage, command⟩ := invocation
  obtain ⟨⟨also, named, words⟩, read, -, invoked⟩ := asks
  obtain rfl : named = stage := (CommandLine.invocation_eq_ok_iff.1 invoked).1
  cases named with
  | inner =>
      have alone : crew first root trace = [root] := by simp [crew, read]
      rw [alone, List.mem_singleton]
      constructor
      · rintro rfl
        exact ⟨0, Nat.le_refl 0, .root⟩
      · rintro ⟨number, le, above⟩
        obtain rfl := Nat.le_zero.1 le
        cases above
        rfl
  | outer =>
      have pair : crew first root trace = root :: (launchesBy [root] trace).map Launch.child := by
        simp [crew, read]
      rw [pair, List.mem_cons, mem_launches_iff run plays]
      constructor
      · rintro (rfl | parent)
        · exact ⟨0, Nat.zero_le 1, .root⟩
        · exact ⟨1, Nat.le_refl 1, .child parent .root⟩
      · rintro ⟨number, le, above⟩
        cases above with
        | root => exact .inl rfl
        | child parent above =>
            cases above with
            | root => exact .inr parent
            | child => exact absurd le (by simp [Invocation.relaunches])

/-- The first generations of a run are stages. -/
theorem plays_of_generation (asks : first.Asks invocation verbose)
    (run : Run (Step itself) (.start root first) trace family)
    (le : number ≤ invocation.relaunches) (above : family.Generation root number pid) :
    ∃ start listener, family.Plays pid start listener := by
  obtain ⟨listener, plays⟩ := plays_of_run run
  cases above with
  | root => exact ⟨first, listener, plays⟩
  | child parent above =>
      obtain ⟨stage, command⟩ := invocation
      cases stage with
      | inner => exact absurd le (by simp [Invocation.relaunches])
      | outer =>
          cases above with
          | child => exact absurd le (by simp [Invocation.relaunches])
          | root =>
              obtain ⟨exchange, spawning, member, -, -, ⟨played, also, asksToo, may⟩, present,
                started⟩ := (Sound.of_run run).startedFrom plays parent
              obtain ⟨rfl, rfl⟩ := asks.unique asksToo
              obtain ⟨path, told, rfl⟩ := may
              obtain ⟨own, role⟩ := Member.role_of_relaunched (itself_of_own run plays told) started
              exact ⟨_, own, member, present, role⟩

end Family

end HostnameSandbox

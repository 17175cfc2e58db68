import HostnameSandbox.Proofs.Family.Ending

/-!
# Quiet families go on

A stage that is running in a quiet family makes its next call, or waits for its child.  The
child has ended, so that the stage may be told, or is running and goes on in turn.  Something
can therefore happen as long as any stage is running.
-/

namespace HostnameSandbox

/-- Whether something happens without anybody outside having a hand in it. -/
def Happening.IsOwn : Happening → Prop
  | .sent _ _ | .struck _ _ => False
  | .came _ _ | .made _ _ | .ended _ _ => True

namespace Family

variable {itself : Bytes → Bool} {root pid child : Pid} {family : Family}
  {trace : List Happening} {start : Start} {listener : Listener UInt8}

/-- A call of a stage that does not wait for its child may be answered at any time. -/
theorem exists_answer {mayStart : Option Bytes → Spawning → Prop} {supervisor : Supervisor}
    {request : Call} (allowed : supervisor.allows mayStart request)
    (busy : ∀ child signals, request ≠ .select child signals) :
    ∃ reply, family.Answers itself pid ⟨request, reply⟩ ∧ listener.Answers ⟨request, reply⟩ := by
  cases request with
  | select child signals => exact absurd rfl (busy child signals)
  | report event => exact ⟨(), trivial, trivial⟩
  | openLog filter => exact ⟨(), trivial, trivial⟩
  | write descriptor bytes => exact ⟨.ok (), trivial, trivial⟩
  | ownPath => exact ⟨.error (.bare .notFound), trivial, trivial⟩
  | ownPid => exact ⟨pid, trivial, trivial⟩
  | parentPid => exact ⟨pid, trivial, trivial⟩
  | namespaceOf other => exact ⟨.error .noEntry, trivial, trivial⟩
  | setHostname name => exact ⟨.ok (), trivial, trivial⟩
  | react signal reaction => exact ⟨.standard, trivial, trivial⟩
  | spawn spawning => exact ⟨.error (.bare .notFound), trivial, trivial⟩
  | send other signal => exact ⟨.ok (), trivial, trivial⟩
  | _ => exact allowed.elim

theorem Sound.reach_lt {begun : Start} {other : Listener UInt8} (sound : Sound itself root family)
    (plays : family.Plays pid start listener) (parent : family.ParentOf pid child)
    (playsToo : family.Plays child begun other) : begun.reach < start.reach := by
  obtain ⟨member, present, isParent⟩ := parent
  obtain ⟨same, presentToo, role⟩ := playsToo
  cases present.symm.trans presentToo
  obtain ⟨_, _, exchange, spawning, playsSame, made, created, started⟩ :=
    sound.parent present isParent
  obtain ⟨rfl, rfl⟩ := plays.unique playsSame
  have mayStart := (sound.supervised plays).started exchange made spawning child created
  unfold Member.StartedFrom at started
  split at started
  · obtain ⟨next, roleToo⟩ := started
    cases role.symm.trans roleToo
    exact Start.reach_lt mayStart start.environment
  · cases role.symm.trans started

/-- Something can happen in a quiet family in which some stage is running. -/
theorem Quiet.exists_step (quiet : Quiet itself root trace family)
    (plays : family.Plays pid start listener) (runs : family.Runs pid) :
    ∃ happening after, Step itself family happening after ∧ happening.IsOwn := by
  -- The induction follows the children, from which fewer and fewer stages may come.
  induction reach : start.reach using Nat.strong_induction_on generalizing pid start listener with
  | _ reach hypothesis =>
  obtain ⟨member, there, role⟩ := plays
  obtain ⟨same, thereToo, running⟩ := runs
  cases there.symm.trans thereToo
  have plays : family.Plays pid start listener := ⟨member, there, role⟩
  have supervised := quiet.sound.supervised plays
  rcases supervised.keeps.progress with ⟨code, done, -⟩ | ⟨request, allowed, goesOn⟩
  · exact ⟨_, _, .finish there role running done, trivial⟩
  by_cases waits : ∃ child signals, request = .select child signals
  · obtain ⟨child, signals, rfl⟩ := waits
    have tending : listener.duty = .tending child := allowed.1
    have parent : family.ParentOf pid child :=
      quiet.sound.parentOf_of_created plays (by rw [tending]; rfl)
    obtain ⟨found, present, isParent⟩ := parent
    cases ending : found.ending with
    | some status =>
        obtain ⟨after, step⟩ := goesOn (.ended status)
        exact ⟨_, _, .make there role running (.make step trivial)
          ⟨found, present, isParent, ending⟩, trivial⟩
    | none =>
        cases childRole : found.role with
        | other =>
            have possible : (ExitStatus.exited 0).IsPossible := trivial
            exact ⟨_, _, .depart present childRole ending possible, trivial⟩
        | stage begun other =>
            have playsToo : family.Plays child begun other := ⟨found, present, childRole⟩
            have less := quiet.sound.reach_lt plays ⟨found, present, isParent⟩ playsToo
            exact hypothesis _ (reach ▸ less) playsToo ⟨found, present, ending⟩ rfl
  · have busy : ∀ child signals, request ≠ .select child signals :=
      fun child signals same => waits ⟨child, signals, same⟩
    obtain ⟨reply, answers, replies⟩ : ∃ reply, family.Answers itself pid ⟨request, reply⟩ ∧
        listener.Answers ⟨request, reply⟩ := exists_answer allowed busy
    obtain ⟨after, step⟩ := goesOn reply
    exact ⟨_, _, .make there role running (.make step replies) answers, trivial⟩

end Family

end HostnameSandbox

import HostnameSandbox.Proofs.Family.Basic

/-!
# What a step does to the members of a family

No process vanishes, changes its parent or goes on after its end.  A stage makes its own steps
only, and a process that appears is a child that a stage has just created.
-/

namespace HostnameSandbox

/-- How a process of a family may be found later. -/
structure Member.Evolves (earlier later : Member) : Prop where
  parent : later.parent = earlier.parent
  other : earlier.role = .other → later.role = .other
  stage : ∀ start listener, earlier.role = .stage start listener →
    later.role = .stage start listener ∨
      earlier.ending = none ∧
        ∃ occurrence after, later.role = .stage start after ∧ listener.Step occurrence after
  ended : ∀ status, earlier.ending = some status →
    later.ending = some status ∧ later.role = earlier.role

namespace Member

variable {member : Member} {signal : Signal} {start : Start}
  {listener after : Listener UInt8} {status : ExitStatus}

theorem Evolves.refl (member : Member) : member.Evolves member where
  parent := rfl
  other := id
  stage _ _ same := .inl same
  ended _ same := ⟨same, rfl⟩

theorem Evolves.withComing {later : Member} (evolves : member.Evolves later)
    (coming : List Signal) : member.Evolves { later with coming } where
  parent := evolves.parent
  other := evolves.other
  stage := evolves.stage
  ended := evolves.ended

theorem evolves_end (running : member.ending = none) :
    member.Evolves { member with ending := some status } where
  parent := rfl
  other := id
  stage _ _ same := .inl same
  ended other same := by
    rw [running] at same
    cases same

theorem evolves_step {occurrence : Occurrence} (stage : member.role = .stage start listener)
    (running : member.ending = none) (step : listener.Step occurrence after) :
    member.Evolves { member with role := .stage start after } where
  parent := rfl
  other same := by
    rw [stage] at same
    cases same
  stage _ _ same := by
    cases stage.symm.trans same
    exact .inr ⟨running, occurrence, after, rfl, step⟩
  ended status same := by
    rw [running] at same
    cases same

end Member

namespace Family

variable {itself : Bytes → Bool} {family after : Family} {happening : Happening}
  {pid other : Pid} {member found : Member} {environment : Environment} {deed : Deed}

@[simp]
theorem set_self : family.set pid member pid = some member :=
  if_pos rfl

theorem set_of_ne (ne : other ≠ pid) : family.set pid member other = family other :=
  if_neg ne

theorem evolves_set {later : Member} (there : family pid = some member)
    (evolves : member.Evolves later) (present : family other = some found) :
    ∃ next, family.set pid later other = some next ∧ found.Evolves next := by
  by_cases same : other = pid
  · subst same
    cases there.symm.trans present
    exact ⟨later, set_self, evolves⟩
  · exact ⟨found, (set_of_ne same).trans present, .refl found⟩

/-- An exchange leaves the other processes as they are, up to the signals that are on their way,
if a child that it creates was not there before. -/
theorem present_affected
    (fresh : ∀ spawning child, deed = .created spawning child → family child = none)
    (present : family other = some found) :
    ∃ coming, family.affected itself pid environment deed other =
      some { found with coming } := by
  cases deed with
  | created spawning child =>
      have ne : other ≠ child := by
        rintro rfl
        rw [fresh spawning other rfl] at present
        cases present
      exact ⟨found.coming, (set_of_ne ne).trans present⟩
  | passed child signal =>
      change ∃ coming, family.post child signal other = some { found with coming }
      unfold post
      cases there : family child with
      | none => exact ⟨found.coming, present⟩
      | some member =>
          by_cases same : other = child
          · subst same
            cases there.symm.trans present
            exact ⟨_, set_self⟩
          · exact ⟨found.coming, (set_of_ne same).trans present⟩
  | _ => exact ⟨found.coming, present⟩

theorem Answers.fresh {exchange : Exchange} (answers : family.Answers itself pid exchange)
    {spawning : Spawning} {child : Pid} (created : exchange.deed = .created spawning child) :
    family child = none := by
  obtain ⟨request, reply⟩ := exchange
  cases request with
  | spawn other =>
      cases reply with
      | ok number =>
          cases created
          exact answers
      | error cause => cases created
  | select child signals => cases reply <;> cases created
  | send child signal => cases created
  | _ => cases created

theorem Answers.fresh_set {exchange : Exchange} (answers : family.Answers itself pid exchange)
    (there : family pid = some member) (later : Member) (spawning : Spawning) (child : Pid)
    (created : exchange.deed = .created spawning child) :
    family.set pid later child = none := by
  refine (set_of_ne ?_).trans (answers.fresh created)
  rintro rfl
  cases there.symm.trans (answers.fresh created)

theorem Answers.told {exchange : Exchange} (answers : family.Answers itself pid exchange)
    {child : Pid} {status : ExitStatus} (told : exchange.deed = .told child status) :
    ∃ member, family child = some member ∧ member.parent = some pid ∧
      member.ending = some status := by
  obtain ⟨request, reply⟩ := exchange
  cases request with
  | select other signals =>
      cases reply with
      | ended other =>
          cases told
          exact answers
      | noted signal => cases told
  | spawn spawning => cases reply <;> cases told
  | send child signal => cases told
  | _ => cases told

/-- In a step, every process evolves. -/
theorem Step.evolves (step : Step itself family happening after)
    (present : family other = some found) :
    ∃ next, after other = some next ∧ found.Evolves next := by
  cases step with
  | send there stage running relayed =>
      exact evolves_set there ((Member.Evolves.refl _).withComing _) present
  | come there stage running coming step =>
      exact evolves_set there ((Member.evolves_step stage running step).withComing _) present
  | die there stage running coming deaf =>
      exact evolves_set there (Member.evolves_end running) present
  | make there stage running step answers =>
      obtain ⟨next, reached, evolves⟩ :=
        evolves_set there (Member.evolves_step stage running step) present
      obtain ⟨coming, reached⟩ := present_affected (answers.fresh_set there _) reached
      exact ⟨_, reached, evolves.withComing coming⟩
  | finish there stage running done =>
      exact evolves_set there (Member.evolves_end running) present
  | depart there isOther running possible =>
      exact evolves_set there (Member.evolves_end running) present
  | strike there stage running possible =>
      exact evolves_set there (Member.evolves_end running) present

theorem absent_affected (absent : family other = none)
    (present : family.affected itself pid environment deed other = some found) :
    ∃ spawning, deed = .created spawning other ∧
      found = .born itself pid environment spawning := by
  cases deed with
  | created spawning child =>
      by_cases same : other = child
      · subst same
        cases set_self.symm.trans present
        exact ⟨spawning, rfl, rfl⟩
      · cases absent.symm.trans ((set_of_ne same).symm.trans present)
  | passed child signal =>
      change family.post child signal other = some found at present
      unfold post at present
      cases there : family child with
      | none =>
          rw [there] at present
          cases absent.symm.trans present
      | some member =>
          rw [there] at present
          have ne : other ≠ child := by
            rintro rfl
            cases absent.symm.trans there
          cases absent.symm.trans ((set_of_ne ne).symm.trans present)
  | _ => cases absent.symm.trans present

/-- A process that was not there before is a child that a stage has just created. -/
theorem Step.news (step : Step itself family happening after) (absent : family other = none)
    (present : after other = some found) :
    ∃ pid member start listener exchange spawning, family pid = some member ∧
      member.role = .stage start listener ∧ happening = .made pid exchange ∧
      exchange.deed = .created spawning other ∧
      found = .born itself pid start.environment spawning := by
  have unset : ∀ {pid : Pid} {member later : Member}, family pid = some member →
      family.set pid later other = none := by
    intro pid member later there
    refine (set_of_ne ?_).trans absent
    rintro rfl
    cases absent.symm.trans there
  cases step with
  | send there stage running relayed => cases (unset there).symm.trans present
  | come there stage running coming step => cases (unset there).symm.trans present
  | die there stage running coming deaf => cases (unset there).symm.trans present
  | @make pid member start listener next exchange there stage running step answers =>
      obtain ⟨spawning, created, born⟩ := absent_affected (unset there) present
      exact ⟨pid, member, start, listener, exchange, spawning, there, stage, rfl, created, born⟩
  | finish there stage running done => cases (unset there).symm.trans present
  | depart there isOther running possible => cases (unset there).symm.trans present
  | strike there stage running possible => cases (unset there).symm.trans present

/-- How a process comes to its end. -/
inductive Ends (pid : Pid) (member : Member) : Happening → ExitStatus → Prop
  | finish {start : Start} {listener : Listener UInt8} {code : UInt8}
      (stage : member.role = .stage start listener) (done : listener.process = .done code) :
      Ends pid member (.ended pid (.exited code)) (.exited code)
  | die {start : Start} {listener : Listener UInt8} {signal : Signal}
      (stage : member.role = .stage start listener) (coming : signal ∈ member.coming)
      (deaf : signal ∉ listener.supervisor.listening) :
      Ends pid member (.ended pid (.killed signal)) (.killed signal)
  | depart {status : ExitStatus} (other : member.role = .other)
      (possible : status.IsPossible) : Ends pid member (.ended pid status) status
  | strike {start : Start} {listener : Listener UInt8} {signal : Signal}
      (stage : member.role = .stage start listener)
      (possible : signal.number ≤ Signal.greatest) :
      Ends pid member (.struck pid signal) (.killed signal)

/-- A process that has ended did so before, or has just come to its end. -/
theorem Step.ends {later : Member} {status : ExitStatus}
    (step : Step itself family happening after) (present : family other = some found)
    (reached : after other = some later) (ended : later.ending = some status) :
    found.ending = some status ∨
      found.ending = none ∧ later.role = found.role ∧ Ends other found happening status := by
  have unchanged : ∀ {pid : Pid} {member next reached : Member}, family pid = some member →
      family.set pid next other = some reached → next.ending = member.ending →
        reached.ending = some status → found.ending = some status := by
    intro pid member next reached there set same ended
    by_cases isSame : other = pid
    · subst isSame
      cases set_self.symm.trans set
      cases there.symm.trans present
      exact same ▸ ended
    · cases present.symm.trans ((set_of_ne isSame).symm.trans set)
      exact ended
  have changed : ∀ {pid : Pid} {member : Member} {end' : ExitStatus},
      family pid = some member → member.ending = none →
      Ends pid member happening end' →
      family.set pid { member with ending := some end' } other = some later →
        found.ending = some status ∨
          found.ending = none ∧ later.role = found.role ∧ Ends other found happening status := by
    intro pid member end' there running ends set
    by_cases isSame : other = pid
    · subst isSame
      cases set_self.symm.trans set
      cases there.symm.trans present
      cases ended
      exact .inr ⟨running, rfl, ends⟩
    · cases present.symm.trans ((set_of_ne isSame).symm.trans set)
      exact .inl ended
  cases step with
  | send there stage running relayed => exact .inl (unchanged there reached rfl ended)
  | come there stage running coming step => exact .inl (unchanged there reached rfl ended)
  | die there stage running coming deaf =>
      exact changed there running (.die stage coming deaf) reached
  | make there stage running step answers =>
      obtain ⟨next, between, -⟩ :=
        evolves_set there (Member.evolves_step stage running step) present
      obtain ⟨coming, same⟩ := present_affected (answers.fresh_set there _) between
      cases same.symm.trans reached
      exact .inl (unchanged there between rfl ended)
  | finish there stage running done => exact changed there running (.finish stage done) reached
  | depart there isOther running possible =>
      exact changed there running (.depart isOther possible) reached
  | strike there stage running possible =>
      exact changed there running (.strike stage possible) reached

/-- How a stage goes on. -/
inductive Goes (family : Family) (itself : Bytes → Bool) (pid : Pid) (member : Member)
    (listener : Listener UInt8) : Happening → Listener UInt8 → Prop
  | stay {happening : Happening} (idle : ∀ exchange, happening ≠ .made pid exchange) :
      Goes family itself pid member listener happening listener
  | come {signal : Signal} {after : Listener UInt8} (coming : signal ∈ member.coming)
      (step : listener.Step (.arrived signal) after) :
      Goes family itself pid member listener (.came pid signal) after
  | make {exchange : Exchange} {after : Listener UInt8} (running : member.ending = none)
      (step : listener.Step (.made exchange) after)
      (answers : family.Answers itself pid exchange) :
      Goes family itself pid member listener (.made pid exchange) after

/-- In a step, every stage goes on. -/
theorem Step.goes {start : Start} {listener : Listener UInt8}
    (step : Step itself family happening after) (present : family other = some found)
    (stage : found.role = .stage start listener) :
    ∃ next later, after other = some later ∧ later.role = .stage start next ∧
      Goes family itself other found listener happening next := by
  have stays : ∀ {pid : Pid} {member next : Member}, family pid = some member →
      next.role = member.role → (∀ exchange, happening ≠ .made other exchange) →
        ∃ goneOn later, family.set pid next other = some later ∧
          later.role = .stage start goneOn ∧
            Goes family itself other found listener happening goneOn := by
    intro pid member next there same idle
    by_cases isSame : other = pid
    · subst isSame
      cases there.symm.trans present
      exact ⟨listener, next, set_self, same.trans stage, .stay idle⟩
    · exact ⟨listener, found, (set_of_ne isSame).trans present, stage, .stay idle⟩
  cases step with
  | send there isStage running relayed => exact stays there rfl (fun _ => nofun)
  | @come pid member begun own next signal there isStage running coming step =>
      by_cases isSame : other = pid
      · subst isSame
        cases there.symm.trans present
        cases isStage.symm.trans stage
        exact ⟨next, _, set_self, rfl, .come coming step⟩
      · exact ⟨listener, found, (set_of_ne isSame).trans present, stage, .stay fun _ => nofun⟩
  | die there isStage running coming deaf => exact stays there rfl (fun _ => nofun)
  | @make pid member begun own next exchange there isStage running step answers =>
      have fresh := answers.fresh_set there { member with role := .stage begun next }
      by_cases isSame : other = pid
      · subst isSame
        cases there.symm.trans present
        cases isStage.symm.trans stage
        obtain ⟨coming, reached⟩ := present_affected fresh set_self
        exact ⟨next, _, reached, rfl, .make running step answers⟩
      · obtain ⟨coming, reached⟩ :=
          present_affected fresh ((set_of_ne isSame).trans present)
        refine ⟨listener, _, reached, stage, .stay fun other same => ?_⟩
        cases same
        exact isSame rfl
  | finish there isStage running done => exact stays there rfl (fun _ => nofun)
  | depart there isOther running possible => exact stays there rfl (fun _ => nofun)
  | strike there isStage running possible => exact stays there rfl (fun _ => nofun)

theorem Step.made {exchange : Exchange}
    (step : Step itself family (.made pid exchange) after) :
    ∃ member start listener next, family pid = some member ∧
      member.role = .stage start listener ∧ member.ending = none ∧
      listener.Step (.made exchange) next ∧ family.Answers itself pid exchange ∧
      after = (family.set pid { member with role := .stage start next }).affected itself pid
        start.environment exchange.deed := by
  cases step with
  | make there stage running step answers =>
      exact ⟨_, _, _, _, there, stage, running, step, answers, rfl⟩

end Family

end HostnameSandbox

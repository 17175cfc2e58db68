import HostnameSandbox.Proofs.Supervision.Duty
import HostnameSandbox.Sandbox

/-!
# The stages care for their children

Both stages, and so the program, keep the contract of a process that cares for one child.  How
they come to an end is told by how far they have come: a stage that was told how its child ended
takes that over, and the others fail.
-/

namespace HostnameSandbox

/-! ### Actions -/

section Actions

variable {State α β : Type} {contract : Contract State}

/-- An action that is followed by another one keeps a contract if both do, and if what is wanted
holds where the first fails. -/
theorem keeps_action_bind {ends : Except Failure β → State → Prop} {first : Action α}
    {next : α → Action β} {state : State}
    (keeps : first.run.Keeps contract
      (fun
        | .ok value => (next value).run.Keeps contract ends
        | .error failure => ends (.error failure))
      state) :
    (first >>= next).run.Keeps contract ends state := by
  refine Process.keeps_bind (keeps.mono ?_)
  intro result state came
  cases result with
  | ok value => exact came
  | error failure => exact came

theorem keeps_action_lift {ends : Except Failure α → State → Prop} {process : Process α}
    {state : State} (keeps : process.Keeps contract (fun value => ends (.ok value)) state) :
    (liftM process : Action α).run.Keeps contract ends state :=
  Process.keeps_bind keeps

theorem keeps_lift_bind {ends : Except Failure β → State → Prop} {first : Process α}
    {next : α → Action β} {state : State}
    (keeps : first.Keeps contract (fun value => (next value).run.Keeps contract ends) state) :
    ((liftM first : Action α) >>= next).run.Keeps contract ends state :=
  keeps_action_bind (keeps_action_lift keeps)

end Actions

/-! ### Waiting for a child -/

/-- What a process that waits for a child takes over from it.  `label` is what the child is
called. -/
def concluded (label : String) : ExitStatus → Except Failure UInt8
  | .exited code => .ok code
  | .killed signal => .error (.runtime label signal.number)

/-- How a process that is to care for a child comes to an end once it has begun to create the
child: the end of the child is taken over, and that there is no child is a failure. -/
def Duty.Decides (label : String) (failed : Cause → Failure) :
    Duty → Except Failure UInt8 → Prop
  | .refused cause, result => result = .error (failed cause)
  | .settled _ status, result => result = concluded label status
  | .free, _ | .tending _, _ | .serving _ _, _ => False

section Stages

variable {mayStart : Option Bytes → Spawning → Prop} {supervisor : Supervisor}

theorem keeps_report {event : Event} {ends : Unit → Supervisor → Prop}
    (came : ends () supervisor) :
    (Process.report event).Keeps (supervision mayStart) ends supervisor :=
  Process.keeps_ask trivial fun _ => came

theorem keeps_listen {ends : Unit → Supervisor → Prop} (free : supervisor.duty = .free)
    (came : ends ()
      { supervisor with listening := .hangup :: .terminate :: supervisor.listening }) :
    Relay.listen.Keeps (supervision mayStart) ends supervisor := by
  refine ⟨⟨free, fun _ => rfl⟩, fun _ => ⟨⟨free, fun _ => rfl⟩, fun _ => ?_⟩⟩
  exact came

theorem signals_subset_listening (listening : List Signal) :
    Relay.signals ⊆ Signal.hangup :: Signal.terminate :: listening := by
  intro signal member
  simp only [Relay.signals, List.mem_cons, List.not_mem_nil, or_false] at member ⊢
  rcases member with isTerminate | isHangup
  · exact .inr (.inl isTerminate)
  · exact .inl isHangup

theorem keeps_forward {child : Pid} {signal : Signal} {ends : Unit → Supervisor → Prop}
    (serving : supervisor.duty = .serving child signal)
    (came : ends () { supervisor with duty := .tending child }) :
    (Relay.forward child signal).Keeps (supervision mayStart) ends supervisor := by
  refine ⟨trivial, fun _ => ⟨serving, fun reply => ?_⟩⟩
  cases reply with
  | ok _ => exact came
  | error errno => exact ⟨trivial, fun _ => came⟩

/-- A turn of waiting for a child ends as it began, or with the end of the child. -/
theorem keeps_turn {child : Pid} (tending : supervisor.duty = .tending child) :
    (Relay.turn child).Keeps (supervision mayStart)
      (fun
        | none => fun after => after = supervisor
        | some status => fun after =>
            after = { supervisor with duty := .settled child status })
      supervisor := by
  refine ⟨⟨tending, rfl⟩, fun reply => ?_⟩
  cases reply with
  | ended status => rfl
  | noted signal =>
      change (Relay.forward child signal >>= fun _ => pure none).Keeps _ _ _
      refine Turn.keeps_bind (keeps_forward rfl ?_)
      change { supervisor with duty := .tending child } = supervisor
      rw [← tending]

/-- The loop of waiting for a child comes to the end of the child. -/
theorem keeps_untilStatus {child : Pid} {ends : ExitStatus → Supervisor → Prop}
    (tending : supervisor.duty = .tending child)
    (came : ∀ status, ends status { supervisor with duty := .settled child status }) :
    (Process.untilStatus (Relay.turn child)).Keeps (supervision mayStart) ends supervisor := by
  refine ⟨trivial, fun state => state = supervisor, rfl, ?_⟩
  rintro _ rfl
  refine (keeps_turn tending).mono ?_
  intro outcome after same
  cases outcome with
  | none => exact same
  | some status =>
      rw [same]
      exact came status

theorem keeps_awaitChild {child : Pid} {label : String}
    {ends : Except Failure UInt8 → Supervisor → Prop}
    (tending : supervisor.duty = .tending child)
    (came : ∀ status,
      ends (concluded label status) { supervisor with duty := .settled child status }) :
    (awaitChild child label).run.Keeps (supervision mayStart) ends supervisor := by
  refine keeps_lift_bind (keeps_report ?_)
  refine keeps_lift_bind (keeps_untilStatus tending fun status => ?_)
  cases status with
  | exited code => exact keeps_lift_bind (keeps_report (came (.exited code)))
  | killed signal => exact keeps_lift_bind (keeps_report (came (.killed signal)))

/-! ### The stages -/

def Runner.spawning (runner : Runner) (command : Command) : Spawning :=
  ⟨command.program, command.args, runner.streams, .none, startingReactions .none⟩

def OuterStage.spawning (stage : OuterStage) (path : Bytes) (command : Command) : Spawning :=
  ⟨path, stage.arguments command, stage.streams, stage.isolation,
    startingReactions stage.isolation⟩

/-- Whether a program to start again is found at a path, where `own` is the path of the program
that is running if it could be told. -/
def Executable.IsAt (own : Option Bytes) (path : Bytes) : Executable → Prop
  | .running => own = some path
  | .path place => path = place
  | .unresolvable _ => False

def Runner.Decides (command : Command) (supervisor : Supervisor)
    (result : Except Failure UInt8) : Prop :=
  supervisor.duty.Decides command.program.lossy (.spawn command.program.lossy) result

/-- How the outer stage ends. -/
def OuterStage.Decides (stage : OuterStage) (supervisor : Supervisor)
    (result : Except Failure UInt8) : Prop :=
  (supervisor.duty = .free ∧ (stage.executable = .running → supervisor.Hindered) ∧
      ∃ cause, result = .error (.launch "current executable" cause)) ∨
    ∃ path, stage.executable.IsAt supervisor.own path ∧
      supervisor.duty.Decides path.lossy (.launch path.lossy) result

/-- How the inner stage ends with a command. -/
def InnerStage.Decides (command : Command) (supervisor : Supervisor)
    (result : Except Failure UInt8) : Prop :=
  (supervisor.duty = .free ∧ supervisor.Hindered ∧
      ∃ fault, result = .error (.namespaceSetup fault)) ∨
    Runner.Decides command supervisor result

/-- A runner cares for the child that runs its command. -/
theorem keeps_execute {runner : Runner} {command : Command}
    {ends : Except Failure UInt8 → Supervisor → Prop} (free : supervisor.duty = .free)
    (able : ¬ supervisor.Hindered)
    (may : mayStart supervisor.own (runner.spawning command))
    (came : ∀ result after, Runner.Decides command after result → ends result after) :
    (runner.execute command).run.Keeps (supervision mayStart) ends supervisor := by
  refine keeps_lift_bind (keeps_report ?_)
  refine keeps_lift_bind (keeps_listen free ?_)
  refine keeps_lift_bind (Process.keeps_ask
    ⟨free, signals_subset_listening _, able, may⟩ fun reply => ?_)
  cases reply with
  | error cause => exact came _ _ rfl
  | ok child => exact keeps_awaitChild rfl fun status => came _ _ rfl

theorem keeps_resolve {executable : Executable}
    {ends : Except Cause Bytes → Supervisor → Prop} (free : supervisor.duty = .free)
    (fails : ∀ cause after, after.duty = .free → (executable = .running → after.Hindered) →
      ends (.error cause) after)
    (finds : ∀ path own, executable.IsAt own path →
      ends (.ok path) { supervisor with own }) :
    executable.resolve.Keeps (supervision mayStart) ends supervisor := by
  cases executable with
  | running =>
      refine ⟨free, fun reply => ?_⟩
      cases reply with
      | ok path => exact finds path (some path) rfl
      | error cause => exact fails cause _ free fun _ => .inl rfl
  | path place => exact finds place supervisor.own rfl
  | unresolvable cause => exact fails cause supervisor free nofun

/-- The outer stage cares for the inner one. -/
theorem OuterStage.keeps_run {stage : OuterStage} {command : Command}
    {ends : Except Failure UInt8 → Supervisor → Prop} (free : supervisor.duty = .free)
    (able : ¬ supervisor.Hindered)
    (may : ∀ path own, stage.executable.IsAt own path →
      mayStart own (stage.spawning path command))
    (came : ∀ result after, stage.Decides after result → ends result after) :
    (stage.run command).run.Keeps (supervision mayStart) ends supervisor := by
  refine keeps_lift_bind (keeps_report ?_)
  refine keeps_lift_bind (keeps_resolve free ?_ ?_)
  · intro cause after idle hindered
    exact came _ _ (.inl ⟨idle, hindered, cause, rfl⟩)
  · intro path own isAt
    refine keeps_lift_bind (keeps_listen free ?_)
    have spawns : (do
        match ← (Process.ask (.spawn (stage.spawning path command)) : Process _) with
        | .error cause => throw (.launch path.lossy cause)
        | .ok child =>
            Process.report (.relaunched path.lossy child)
            awaitChild child path.lossy : Action UInt8).run.Keeps (supervision mayStart) ends
        { supervisor with
          own, listening := .hangup :: .terminate :: supervisor.listening } := by
      refine keeps_lift_bind (Process.keeps_ask
        ⟨free, signals_subset_listening _, able, may path own isAt⟩ fun reply => ?_)
      cases reply with
      | error cause => exact came _ _ (.inr ⟨path, isAt, rfl⟩)
      | ok child =>
          refine keeps_lift_bind (keeps_report ?_)
          exact keeps_awaitChild rfl fun status => came _ _ (.inr ⟨path, isAt, rfl⟩)
    dsimp only
    split
    · exact keeps_lift_bind (keeps_report spawns)
    · exact spawns

theorem Membership.keeps_ofPid {pid : Pid} {ends : Except Failure Membership → Supervisor → Prop}
    (free : supervisor.duty = .free)
    (fails : ∀ fault, ends (.error (.namespaceSetup fault)) { supervisor with failed := true })
    (reads : ∀ name,
      ends (.ok ⟨pid, name⟩) { supervisor with names := supervisor.names ++ [name] }) :
    (ofPid pid).run.Keeps (supervision mayStart) ends supervisor := by
  refine keeps_lift_bind (Process.keeps_ask free fun reply => ?_)
  cases reply with
  | error errno => exact fails _
  | ok name => exact reads name

/-- The inner stage goes on only in another namespace than its parent's. -/
theorem keeps_ensureFreshNamespace {ends : Except Failure Unit → Supervisor → Prop}
    (free : supervisor.duty = .free) (unread : supervisor.names = [])
    (fails : ∀ fault after, after.duty = .free → after.Hindered →
      ends (.error (.namespaceSetup fault)) after)
    (passes : ∀ own parent, own ≠ parent →
      ends (.ok ()) { supervisor with names := [own, parent] }) :
    ensureFreshNamespace.run.Keeps (supervision mayStart) ends supervisor := by
  refine keeps_action_bind (keeps_lift_bind (Process.keeps_ask free fun pid => ?_))
  refine Membership.keeps_ofPid free (fun fault => fails _ _ free (.inl rfl)) fun own => ?_
  refine keeps_action_bind (keeps_lift_bind (Process.keeps_ask free fun parentPid => ?_))
  refine Membership.keeps_ofPid free (fun fault => fails _ _ free (.inl rfl)) fun parent => ?_
  have names : supervisor.names ++ [own] ++ [parent] = [own, parent] := by rw [unread]; rfl
  change Process.Keeps _ ends _ { supervisor with names := supervisor.names ++ [own] ++ [parent] }
  rw [names]
  dsimp only
  split
  · next shared =>
      have same : own = parent := by simpa [Membership.sharesWith] using shared
      refine keeps_lift_bind (keeps_report ?_)
      exact fails _ _ free (.inr ⟨parent, by rw [same]⟩)
  · next shared =>
      have distinct : own ≠ parent := by simpa [Membership.sharesWith] using shared
      exact keeps_action_lift (keeps_report (passes own parent distinct))

theorem InnerStage.keeps_nameNamespace {stage : InnerStage}
    {ends : Except Failure Unit → Supervisor → Prop} (free : supervisor.duty = .free)
    (fails : ∀ fault, ends (.error (.namespaceSetup fault)) { supervisor with failed := true })
    (names : ends (.ok ()) supervisor) :
    stage.nameNamespace.run.Keeps (supervision mayStart) ends supervisor := by
  refine keeps_lift_bind (keeps_report ?_)
  refine keeps_lift_bind (Process.keeps_ask free fun reply => ?_)
  cases reply with
  | ok _ => exact names
  | error errno => exact keeps_lift_bind (keeps_report (fails _))

/-- The inner stage cares for the child that runs its command. -/
theorem InnerStage.keeps_run {stage : InnerStage} {command : Command}
    {ends : Except Failure UInt8 → Supervisor → Prop} (free : supervisor.duty = .free)
    (unread : supervisor.names = []) (able : supervisor.failed = false)
    (may : ∀ own, mayStart own (stage.runner.spawning command))
    (came : ∀ result after, InnerStage.Decides command after result → ends result after) :
    (stage.run command).run.Keeps (supervision mayStart) ends supervisor := by
  have fails : ∀ fault after, after.duty = .free → after.Hindered →
      ends (.error (.namespaceSetup fault)) after :=
    fun fault after idle hindered => came _ _ (.inl ⟨idle, hindered, fault, rfl⟩)
  refine keeps_lift_bind (keeps_report ?_)
  refine keeps_action_bind (keeps_ensureFreshNamespace free unread fails ?_)
  intro own parent distinct
  refine keeps_action_bind (InnerStage.keeps_nameNamespace free
    (fun fault => fails fault _ free (.inl rfl)) ?_)
  refine keeps_execute free ?_ (may _) fun result after decided => came _ _ (.inr decided)
  rintro (failed | ⟨name, same⟩)
  · exact absurd failed (by simp [able])
  · simp only [List.cons.injEq, and_true] at same
    exact distinct (same.1.trans same.2.symm)

end Stages

/-! ### The program -/

section Program

/-- What the program creates its child from that plays the stage of an invocation. -/
def Invocation.MayStart (invocation : Invocation) (verbose : Bool) (own : Option Bytes)
    (spawning : Spawning) : Prop :=
  match invocation.stage with
  | .outer => ∃ path, own = some path ∧
      spawning = (OuterStage.ofRunning.withVerbose verbose).spawning path invocation.command
  | .inner => spawning = InnerStage.standard.runner.spawning invocation.command

def Invocation.Decides (invocation : Invocation) (supervisor : Supervisor)
    (result : Except Failure UInt8) : Prop :=
  match invocation.stage with
  | .outer => OuterStage.ofRunning.Decides supervisor result
  | .inner => InnerStage.Decides invocation.command supervisor result

/-- The exit code that a run ends with. -/
def codeOf : Except Failure UInt8 → UInt8
  | .ok code => code
  | .error failure => exitCodeOf failure.exitCode

/-- Whether the program is started for an invocation, and whether verbosity is asked for. -/
def Start.Asks (start : Start) (invocation : Invocation) (verbose : Bool) : Prop :=
  ∃ request, CommandLine.parse start.args = .ok request ∧ request.verbose = verbose ∧
    request.invocation = .ok invocation

/-- What the program creates its child from. -/
def Sandbox.MayStart (start : Start) (own : Option Bytes) (spawning : Spawning) : Prop :=
  ∃ invocation verbose, start.Asks invocation verbose ∧
    invocation.MayStart verbose own spawning

/-- How the program ends. -/
def Sandbox.Decides (start : Start) (code : UInt8) (supervisor : Supervisor) : Prop :=
  (supervisor.duty = .free ∧ ∀ invocation verbose, ¬ start.Asks invocation verbose) ∨
    ∃ invocation verbose result, start.Asks invocation verbose ∧
      invocation.Decides supervisor result ∧ code = codeOf result

variable {supervisor : Supervisor}

theorem Invocation.keeps_run {invocation : Invocation} {verbose : Bool}
    {mayStart : Option Bytes → Spawning → Prop}
    {ends : Except Failure UInt8 → Supervisor → Prop} (free : supervisor.duty = .free)
    (unread : supervisor.names = []) (able : supervisor.failed = false)
    (may : ∀ own spawning, invocation.MayStart verbose own spawning → mayStart own spawning)
    (came : ∀ result after, invocation.Decides after result → ends result after) :
    (invocation.run verbose).run.Keeps (supervision mayStart) ends supervisor := by
  obtain ⟨stage, command⟩ := invocation
  refine keeps_lift_bind (keeps_report ?_)
  cases stage with
  | outer =>
      refine OuterStage.keeps_run free ?_ (fun path own isAt => ?_) came
      · rintro (failed | ⟨name, same⟩)
        · simp [able] at failed
        · simp [unread] at same
      · exact may own _ ⟨path, isAt, rfl⟩
  | inner =>
      exact InnerStage.keeps_run free unread able (fun own => may own _ rfl) came

/-- A decided duty is one in which the process does not wait for its child any more. -/
theorem Duty.Decides.child?_eq_none {label : String} {failed : Cause → Failure} {duty : Duty}
    {result : Except Failure UInt8} (decides : duty.Decides label failed result) :
    duty.child? = none := by
  cases duty with
  | tending child => exact decides.elim
  | serving child signal => exact decides.elim
  | _ => rfl

theorem OuterStage.Decides.child?_eq_none {stage : OuterStage}
    {result : Except Failure UInt8} (decides : stage.Decides supervisor result) :
    supervisor.duty.child? = none := by
  rcases decides with ⟨free, -⟩ | ⟨path, -, decides⟩
  · rw [free]
    rfl
  · exact decides.child?_eq_none

theorem InnerStage.Decides.child?_eq_none {command : Command}
    {result : Except Failure UInt8} (decides : InnerStage.Decides command supervisor result) :
    supervisor.duty.child? = none := by
  rcases decides with ⟨free, -⟩ | decides
  · rw [free]
    rfl
  · exact Duty.Decides.child?_eq_none decides

theorem Invocation.Decides.child?_eq_none {invocation : Invocation}
    {result : Except Failure UInt8} (decides : invocation.Decides supervisor result) :
    supervisor.duty.child? = none := by
  obtain ⟨stage, command⟩ := invocation
  cases stage with
  | outer => exact OuterStage.Decides.child?_eq_none decides
  | inner => exact InnerStage.Decides.child?_eq_none decides

theorem Sandbox.Decides.child?_eq_none {start : Start} {code : UInt8}
    (decides : Decides start code supervisor) : supervisor.duty.child? = none := by
  rcases decides with ⟨free, -⟩ | ⟨invocation, verbose, result, -, decides, -⟩
  · rw [free]
    rfl
  · exact decides.child?_eq_none

theorem Sandbox.keeps_finish {mayStart : Option Bytes → Spawning → Prop}
    {result : Except Failure UInt8} {ends : UInt8 → Supervisor → Prop}
    (idle : supervisor.duty.child? = none) (came : ends (codeOf result) supervisor) :
    (finish result).Keeps (supervision mayStart) ends supervisor := by
  cases result with
  | ok code => exact came
  | error failure => exact Process.keeps_bind ⟨idle, fun _ => came⟩

theorem keeps_react_other {mayStart : Option Bytes → Spawning → Prop} {signal : Signal}
    {reaction : Reaction} {ends : Unit → Supervisor → Prop} (free : supervisor.duty = .free)
    (other : signal ∉ Relay.signals)
    (came : ends () (supervisor.after ⟨.react signal reaction, reaction⟩)) :
    (Process.react signal reaction).Keeps (supervision mayStart) ends supervisor :=
  ⟨⟨free, fun member => absurd member other⟩, fun _ => came⟩

/-- A request is carried out by the stage that it names. -/
theorem Sandbox.keeps_serve {request : CommandLine.Request} {start : Start}
    (read : CommandLine.parse start.args = .ok request) :
    (serve request).run.Keeps (supervision (MayStart start))
      (fun result after => after.duty.child? = none ∧ Decides start (codeOf result) after)
      .initial := by
  have sole : ∀ {invocation verbose}, start.Asks invocation verbose →
      request.verbose = verbose ∧ request.invocation = .ok invocation := by
    rintro invocation verbose ⟨other, readOther, same, invoked⟩
    obtain rfl : request = other := Except.ok.inj (read.symm.trans readOther)
    exact ⟨same, invoked⟩
  unfold serve
  cases invoked : request.invocation with
  | error failure =>
      refine ⟨rfl, .inl ⟨rfl, fun invocation verbose asks => ?_⟩⟩
      have invokedToo := (sole asks).2
      rw [invoked] at invokedToo
      cases invokedToo
  | ok invocation =>
      have asks : start.Asks invocation request.verbose := ⟨request, read, rfl, invoked⟩
      refine Invocation.keeps_run rfl rfl rfl ?_ ?_
      · intro own spawning may
        exact ⟨invocation, request.verbose, asks, may⟩
      · intro result after decides
        exact ⟨decides.child?_eq_none,
          .inr ⟨invocation, request.verbose, result, asks, decides, rfl⟩⟩

theorem Sandbox.keeps_reactions {mayStart : Option Bytes → Spawning → Prop}
    {ends : PUnit → Supervisor → Prop} (came : ends ⟨⟩ .initial) :
    (reactions.forM fun (signal, reaction) => Process.react signal reaction).Keeps
      (supervision mayStart) ends .initial := by
  refine Process.keeps_bind (keeps_react_other rfl (by decide) ?_)
  refine Process.keeps_bind (keeps_react_other rfl (by decide) ?_)
  exact Process.keeps_bind (keeps_react_other rfl (by decide) came)

/-- The program cares for the child of its stage. -/
theorem Sandbox.keeps_program (start : Start) :
    (program start).Keeps (supervision (MayStart start)) (Decides start) .initial := by
  refine Process.keeps_bind (keeps_reactions ?_)
  cases read : CommandLine.parse start.args with
  | error refusal =>
      refine Process.keeps_bind (Process.keeps_bind ⟨rfl, fun _ => .inl ⟨rfl, ?_⟩⟩)
      rintro invocation verbose ⟨request, readToo, -⟩
      rw [read] at readToo
      cases readToo
  | ok request =>
      refine Process.keeps_bind (Process.keeps_ask rfl fun _ => ?_)
      refine Process.keeps_bind ((keeps_serve read).mono ?_)
      rintro result after ⟨idle, decides⟩
      exact keeps_finish idle decides

end Program

end HostnameSandbox

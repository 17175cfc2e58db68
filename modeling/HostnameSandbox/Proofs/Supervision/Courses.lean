import HostnameSandbox.Proofs.Supervision.Account

/-!
# What a stage logs about its run

A run of a stage is told by its log: whoever reads which events there are, knows where the run has
stopped and what it has come to.  Every run that comes to an end has a course, one of a few kinds
for each stage, and every course is that of a run.  The signals that are sent are those about which
a warning has been logged, in the same order.
-/

namespace HostnameSandbox

/-! ### The guard -/

/-- Why the guard of an inner stage does not let it pass. -/
inductive Barrier where
  /-- The link of its own namespace cannot be read. -/
  | blind (own : Pid) (errno : Errno)
  /-- The link of its parent's namespace cannot be read. -/
  | blindToParent (own : Pid) (link : String) (parent : Pid) (errno : Errno)
  | shared (own : Pid) (link : String) (parent : Pid)

namespace Barrier

def talk : Barrier → List Exchange
  | .blind own errno => [⟨.ownPid, own⟩, ⟨.namespaceOf own, .error errno⟩]
  | .blindToParent own link parent errno =>
      [⟨.ownPid, own⟩, ⟨.namespaceOf own, .ok link⟩, ⟨.parentPid, parent⟩,
        ⟨.namespaceOf parent, .error errno⟩]
  | .shared own link parent =>
      [⟨.ownPid, own⟩, ⟨.namespaceOf own, .ok link⟩, ⟨.parentPid, parent⟩,
        ⟨.namespaceOf parent, .ok link⟩, ⟨.report (.sharing link parent), ()⟩]

def log : Barrier → List (Level × Event)
  | .blind _ _ | .blindToParent _ _ _ _ => []
  | .shared _ link parent => [(.error, .sharing link parent)]

def fault : Barrier → SetupFault
  | .blind own errno => .unreadable own (.numbered errno)
  | .blindToParent _ _ parent errno => .unreadable parent (.numbered errno)
  | .shared _ link parent => .shared link parent

end Barrier

/-- What the guard of an inner stage has found out that lets it pass. -/
structure Passage where
  own : Pid
  link : String
  parent : Pid
  other : String
  distinct : link ≠ other

def Passage.talk (passage : Passage) : List Exchange :=
  [⟨.ownPid, passage.own⟩, ⟨.namespaceOf passage.own, .ok passage.link⟩,
    ⟨.parentPid, passage.parent⟩, ⟨.namespaceOf passage.parent, .ok passage.other⟩,
    ⟨.report (.fresh passage.link passage.other), ()⟩]

/-- What the guard comes to once it has read both links. -/
def compared (link : String) (parent : Pid) (other : String) : Process (Except Failure Unit) :=
  if link = other then
    .call (.report (.sharing link parent)) fun _ =>
      .done (.error (.namespaceSetup (.shared link parent)))
  else .call (.report (.fresh link other)) fun _ => .done (.ok ())

/-- Goes on with the link of a process's namespace. -/
def readLink (pid : Pid) (next : String → Process (Except Failure Unit)) :
    Process (Except Failure Unit) :=
  .call (.namespaceOf pid) fun
    | .error errno => .done (.error (.namespaceSetup (.unreadable pid (.numbered errno))))
    | .ok link => next link

theorem ensureFreshNamespace_eq : ensureFreshNamespace.run =
    .call .ownPid fun own => readLink own fun link =>
      .call .parentPid fun parent => readLink parent (compared link parent) := by
  refine congrArg (Process.call .ownPid) (funext fun own => ?_)
  refine congrArg (Process.call (.namespaceOf own)) (funext fun reply => ?_)
  cases reply with
  | error errno => rfl
  | ok link =>
      refine congrArg (Process.call .parentPid) (funext fun parent => ?_)
      refine congrArg (Process.call (.namespaceOf parent)) (funext fun reply => ?_)
      cases reply with
      | error errno => rfl
      | ok other =>
          change ExceptT.run (if _ then _ else _) = compared link parent other
          by_cases same : link = other
          · have shared : (Membership.mk own link).sharesWith ⟨parent, other⟩ = true := by
              simp [Membership.sharesWith, same]
            rw [if_pos shared, compared, if_pos same]
            rfl
          · have apart : ¬ (Membership.mk own link).sharesWith ⟨parent, other⟩ = true := by
              simp [Membership.sharesWith, same]
            rw [if_neg apart, compared, if_neg same]
            rfl

section Guarding

variable {talked : List Exchange} {came : Except Failure Unit}

theorem run_readLink_iff {pid : Pid} {next : String → Process (Except Failure Unit)} :
    Run Process.Step (readLink pid next) talked (.done came) ↔
      (∃ errno, talked = [⟨.namespaceOf pid, .error errno⟩] ∧
        came = .error (.namespaceSetup (.unreadable pid (.numbered errno)))) ∨
      ∃ link rest, talked = ⟨.namespaceOf pid, .ok link⟩ :: rest ∧
        Run Process.Step (next link) rest (.done came) := by
  rw [readLink, Process.run_call_iff]
  constructor
  · rintro ⟨reply, rest, rfl, run⟩
    cases reply with
    | error errno =>
        obtain ⟨rfl, rfl⟩ := Process.run_done_iff.1 run
        exact .inl ⟨errno, rfl, rfl⟩
    | ok link => exact .inr ⟨link, rest, rfl, run⟩
  · rintro (⟨errno, rfl, rfl⟩ | ⟨link, rest, rfl, run⟩)
    · exact ⟨.error errno, [], rfl, .start⟩
    · exact ⟨.ok link, rest, rfl, run⟩

theorem run_compared_iff {link other : String} {parent : Pid} :
    Run Process.Step (compared link parent other) talked (.done came) ↔
      (link = other ∧ talked = [⟨.report (.sharing link parent), ()⟩] ∧
        came = .error (.namespaceSetup (.shared link parent))) ∨
      (link ≠ other ∧ talked = [⟨.report (.fresh link other), ()⟩] ∧ came = .ok ()) := by
  unfold compared
  split
  · next same => simp [same, Process.run_report_iff, Process.run_done_iff]
  · next distinct => simp [distinct, Process.run_report_iff, Process.run_done_iff]

/-- The guard comes to a barrier or lets the stage pass. -/
theorem run_ensureFreshNamespace_iff :
    Run Process.Step ensureFreshNamespace.run talked (.done came) ↔
      (∃ barrier : Barrier, talked = barrier.talk ∧
        came = .error (.namespaceSetup barrier.fault)) ∨
      ∃ passage : Passage, talked = passage.talk ∧ came = .ok () := by
  simp only [ensureFreshNamespace_eq, Process.run_call_iff, run_readLink_iff, run_compared_iff]
  constructor
  · rintro ⟨own, _, rfl, ⟨errno, rfl, rfl⟩ | ⟨link, _, rfl, parent, _, rfl, ⟨errno, rfl, rfl⟩ |
      ⟨other, _, rfl, ⟨rfl, rfl, rfl⟩ | ⟨distinct, rfl, rfl⟩⟩⟩⟩
    · exact .inl ⟨.blind own errno, rfl, rfl⟩
    · exact .inl ⟨.blindToParent own link parent errno, rfl, rfl⟩
    · exact .inl ⟨.shared own link parent, rfl, rfl⟩
    · exact .inr ⟨⟨own, link, parent, other, distinct⟩, rfl, rfl⟩
  · rintro (⟨barrier, rfl, rfl⟩ | ⟨⟨own, link, parent, other, distinct⟩, rfl, rfl⟩)
    · cases barrier with
      | blind own errno => exact ⟨own, _, rfl, .inl ⟨errno, rfl, rfl⟩⟩
      | blindToParent own link parent errno =>
          exact ⟨own, _, rfl, .inr ⟨link, _, rfl, parent, _, rfl, .inl ⟨errno, rfl, rfl⟩⟩⟩
      | shared own link parent =>
          exact ⟨own, _, rfl, .inr ⟨link, _, rfl, parent, _, rfl,
            .inr ⟨link, _, rfl, .inl ⟨rfl, rfl, rfl⟩⟩⟩⟩
    · exact ⟨own, _, rfl, .inr ⟨link, _, rfl, parent, _, rfl,
        .inr ⟨other, _, rfl, .inr ⟨distinct, rfl, rfl⟩⟩⟩⟩

end Guarding

/-! ### The inner stage -/

/-- How a run of the inner stage goes that comes to an end. -/
inductive InnerStage.Course where
  | barred (barrier : Barrier)
  /-- The kernel refuses the name. -/
  | unnamed (passage : Passage) (errno : Errno)
  | ran (passage : Passage) (earlier : Signal → Reaction) (errand : Errand)

namespace InnerStage

variable {stage : InnerStage} {command : Command} {talked : List Exchange}

theorem nameNamespace_eq (stage : InnerStage) : stage.nameNamespace.run =
    .call (.report (.naming stage.hostname)) fun _ =>
      .call (.setHostname (Bytes.ofString stage.hostname.text)) fun
        | .ok () => .done (.ok ())
        | .error errno => .call (.report (.namingRefused stage.hostname errno)) fun _ =>
            .done (.error (.namespaceSetup (.refused errno))) := by
  refine congrArg (Process.call _) (funext fun _ => ?_)
  refine congrArg (Process.call _) (funext fun reply => ?_)
  cases reply <;> rfl

/-- The exchanges by which the namespace is given its name. -/
def namingTalk (stage : InnerStage) (reply : Except Errno Unit) : List Exchange :=
  ⟨.report (.naming stage.hostname), ()⟩ ::
    ⟨.setHostname (Bytes.ofString stage.hostname.text), reply⟩ ::
    match reply with
    | .ok () => []
    | .error errno => [⟨.report (.namingRefused stage.hostname errno), ()⟩]

theorem run_nameNamespace_iff {came : Except Failure Unit} :
    Run Process.Step stage.nameNamespace.run talked (.done came) ↔
      (∃ errno, talked = stage.namingTalk (.error errno) ∧
        came = .error (.namespaceSetup (.refused errno))) ∨
      (talked = stage.namingTalk (.ok ()) ∧ came = .ok ()) := by
  rw [nameNamespace_eq, Process.run_report_iff]
  simp only [Process.run_call_iff]
  constructor
  · rintro ⟨_, rfl, reply, rest, rfl, run⟩
    cases reply with
    | ok _ =>
        obtain ⟨rfl, rfl⟩ := Process.run_done_iff.1 run
        exact .inr ⟨rfl, rfl⟩
    | error errno =>
        obtain ⟨_, rfl, ends⟩ := Process.run_report_iff.1 run
        obtain ⟨rfl, rfl⟩ := Process.run_done_iff.1 ends
        exact .inl ⟨errno, rfl, rfl⟩
  · rintro (⟨errno, rfl, rfl⟩ | ⟨rfl, rfl⟩)
    · exact ⟨_, rfl, .error errno, _, rfl, Process.run_call (.report _) () .start⟩
    · exact ⟨_, rfl, .ok (), _, rfl, .start⟩

namespace Course

def talk (stage : InnerStage) (command : Command) : Course → List Exchange
  | .barred barrier => ⟨.report (.initializing command), ()⟩ :: barrier.talk
  | .unnamed passage errno =>
      ⟨.report (.initializing command), ()⟩ ::
        (passage.talk ++ stage.namingTalk (.error errno))
  | .ran passage earlier errand =>
      ⟨.report (.initializing command), ()⟩ ::
        (passage.talk ++ (stage.namingTalk (.ok ()) ++ stage.runner.talk command earlier errand))

def log (stage : InnerStage) (command : Command) : Course → List (Level × Event)
  | .barred barrier => (.info, .initializing command) :: barrier.log
  | .unnamed passage errno =>
      [(.info, .initializing command), (.debug, .fresh passage.link passage.other),
        (.debug, .naming stage.hostname), (.error, .namingRefused stage.hostname errno)]
  | .ran passage _ errand =>
      (.info, .initializing command) :: (.debug, .fresh passage.link passage.other) ::
        (.debug, .naming stage.hostname) :: Runner.log command errand

def kills : Course → List (Pid × Signal)
  | .barred _ | .unnamed _ _ => []
  | .ran _ _ errand => errand.kills

def result (command : Command) : Course → Except Failure UInt8
  | .barred barrier => .error (.namespaceSetup barrier.fault)
  | .unnamed _ errno => .error (.namespaceSetup (.refused errno))
  | .ran _ _ errand => Runner.result command errand

end Course

/-- How the inner stage goes on after its guard. -/
def passed (stage : InnerStage) (command : Command) :
    Except Failure Unit → Process (Except Failure UInt8)
  | .ok () => (stage.nameNamespace >>= fun _ => stage.runner.execute command).run
  | .error failure => .done (.error failure)

/-- How the inner stage goes on after it has given its namespace the name. -/
def called (stage : InnerStage) (command : Command) :
    Except Failure Unit → Process (Except Failure UInt8)
  | .ok () => (stage.runner.execute command).run
  | .error failure => .done (.error failure)

theorem run_eq_passed (stage : InnerStage) (command : Command) : (stage.run command).run =
    .call (.report (.initializing command)) fun _ =>
      ensureFreshNamespace.run >>= stage.passed command := by
  refine congrArg (Process.call _) (funext fun _ => ?_)
  refine congrArg (Process.bind ensureFreshNamespace.run) (funext fun result => ?_)
  cases result <;> rfl

theorem passed_eq_called (stage : InnerStage) (command : Command) :
    stage.passed command (.ok ()) = stage.nameNamespace.run >>= stage.called command := by
  refine congrArg (Process.bind stage.nameNamespace.run) (funext fun result => ?_)
  cases result <;> rfl

theorem run_called_iff {came : Except Failure UInt8} {named : Except Failure Unit} :
    Run Process.Step (stage.called command named) talked (.done came) ↔
      (∃ failure, named = .error failure ∧ talked = [] ∧ came = .error failure) ∨
      (named = .ok () ∧ ∃ earlier errand, talked = stage.runner.talk command earlier errand ∧
        came = Runner.result command errand) := by
  cases named with
  | ok _ => simp [called, Runner.run_iff]
  | error failure => simp [called, Process.run_done_iff]

theorem run_passed_iff {came : Except Failure UInt8} :
    Run Process.Step (stage.passed command (.ok ())) talked (.done came) ↔
      (∃ errno, talked = stage.namingTalk (.error errno) ∧
        came = .error (.namespaceSetup (.refused errno))) ∨
      ∃ earlier errand,
        talked = stage.namingTalk (.ok ()) ++ stage.runner.talk command earlier errand ∧
          came = Runner.result command errand := by
  have keeps : stage.nameNamespace.run.Keeps (supervision fun _ _ => True) (fun _ _ => True)
      .initial := keeps_nameNamespace rfl (fun _ => trivial) trivial
  rw [passed_eq_called, keeps.run_bind_iff]
  simp only [run_nameNamespace_iff, run_called_iff]
  constructor
  · rintro ⟨_, _, _, rfl, ⟨errno, rfl, rfl⟩ | ⟨rfl, rfl⟩,
      ⟨failure, same, rfl, rfl⟩ | ⟨same, earlier, errand, rfl, rfl⟩⟩
    · cases same
      exact .inl ⟨errno, List.append_nil _, rfl⟩
    · cases same
    · cases same
    · exact .inr ⟨earlier, errand, rfl, rfl⟩
  · rintro (⟨errno, rfl, rfl⟩ | ⟨earlier, errand, rfl, rfl⟩)
    · exact ⟨_, [], _, (List.append_nil _).symm, .inl ⟨errno, rfl, rfl⟩,
        .inl ⟨_, rfl, rfl, rfl⟩⟩
    · exact ⟨_, _, _, rfl, .inr ⟨rfl, rfl⟩, .inr ⟨rfl, earlier, errand, rfl, rfl⟩⟩

/-- The runs of the inner stage that come to an end are those of its courses. -/
theorem run_iff {came : Except Failure UInt8} :
    Run Process.Step (stage.run command).run talked (.done came) ↔
      ∃ course : Course, talked = course.talk stage command ∧ came = course.result command := by
  have keeps : ensureFreshNamespace.run.Keeps (supervision fun _ _ => True) (fun _ _ => True)
      .initial := keeps_ensureFreshNamespace rfl rfl (fun _ _ _ _ => trivial) fun _ _ _ => trivial
  rw [run_eq_passed, Process.run_report_iff]
  constructor
  · rintro ⟨_, rfl, run⟩
    obtain ⟨opening, rest, guarded, rfl, guards, goesOn⟩ := keeps.run_bind_iff.1 run
    rcases run_ensureFreshNamespace_iff.1 guards with ⟨barrier, rfl, rfl⟩ | ⟨passage, rfl, rfl⟩
    · obtain ⟨rfl, rfl⟩ := Process.run_done_iff.1 goesOn
      exact ⟨.barred barrier, congrArg (List.cons _) (List.append_nil _), rfl⟩
    · rcases run_passed_iff.1 goesOn with ⟨errno, rfl, rfl⟩ | ⟨earlier, errand, rfl, rfl⟩
      · exact ⟨.unnamed passage errno, rfl, rfl⟩
      · exact ⟨.ran passage earlier errand, rfl, rfl⟩
  · rintro ⟨course, rfl, rfl⟩
    cases course with
    | barred barrier =>
        refine ⟨_, rfl, keeps.run_bind_iff.2 ⟨barrier.talk, [], _, (List.append_nil _).symm,
          run_ensureFreshNamespace_iff.2 (.inl ⟨barrier, rfl, rfl⟩), .start⟩⟩
    | unnamed passage errno =>
        refine ⟨_, rfl, keeps.run_bind_iff.2 ⟨passage.talk, _, _, rfl,
          run_ensureFreshNamespace_iff.2 (.inr ⟨passage, rfl, rfl⟩), ?_⟩⟩
        exact run_passed_iff.2 (.inl ⟨errno, rfl, rfl⟩)
    | ran passage earlier errand =>
        refine ⟨_, rfl, keeps.run_bind_iff.2 ⟨passage.talk, _, _, rfl,
          run_ensureFreshNamespace_iff.2 (.inr ⟨passage, rfl, rfl⟩), ?_⟩⟩
        exact run_passed_iff.2 (.inr ⟨earlier, errand, rfl, rfl⟩)

theorem completable_ensureFreshNamespace : ensureFreshNamespace.run.Completable := by
  have reads {pid : Pid} {next : String → Process (Except Failure Unit)}
      (completable : ∀ link, (next link).Completable) : (readLink pid next).Completable := by
    refine Process.completable_call (.ok "") fun reply => ?_
    cases reply with
    | error errno => exact Process.completable_done
    | ok link => exact completable link
  rw [ensureFreshNamespace_eq]
  refine Process.completable_call 0 fun own => reads fun link => ?_
  refine Process.completable_call 0 fun parent => reads fun other => ?_
  unfold compared
  split <;> exact Process.completable_call () fun _ => Process.completable_done

theorem completable_nameNamespace (stage : InnerStage) :
    stage.nameNamespace.run.Completable := by
  rw [nameNamespace_eq]
  refine Process.completable_call () fun _ => Process.completable_call (.ok ()) fun reply => ?_
  cases reply with
  | ok _ => exact Process.completable_done
  | error errno => exact Process.completable_call () fun _ => Process.completable_done

theorem completable_run (stage : InnerStage) (command : Command) :
    (stage.run command).run.Completable := by
  have guards : ensureFreshNamespace.run.Keeps (supervision fun _ _ => True) (fun _ _ => True)
      .initial := keeps_ensureFreshNamespace rfl rfl (fun _ _ _ _ => trivial) fun _ _ _ => trivial
  have names : stage.nameNamespace.run.Keeps (supervision fun _ _ => True) (fun _ _ => True)
      .initial := keeps_nameNamespace rfl (fun _ => trivial) trivial
  rw [run_eq_passed]
  refine Process.completable_call () fun _ => ?_
  refine guards.completable_bind completable_ensureFreshNamespace fun guarded => ?_
  cases guarded with
  | error failure => exact Process.completable_done
  | ok _ =>
      rw [passed_eq_called]
      refine names.completable_bind (completable_nameNamespace stage) fun named => ?_
      cases named with
      | error failure => exact Process.completable_done
      | ok _ => exact Runner.completable _ command

namespace Course

variable {course : Course}

theorem loggedIn_talk : loggedIn (course.talk stage command) = course.log stage command := by
  cases course with
  | barred barrier => cases barrier <;> rfl
  | unnamed passage errno => rfl
  | ran passage earlier errand =>
      have ran : loggedIn (stage.runner.talk command earlier errand) = Runner.log command errand :=
        Runner.loggedIn_talk
      exact congrArg (fun log => _ :: _ :: _ :: log) ran

theorem sentIn_talk : sentIn (course.talk stage command) = course.kills := by
  cases course with
  | barred barrier => cases barrier <;> rfl
  | unnamed passage errno => rfl
  | ran passage earlier errand => exact Runner.sentIn_talk

theorem relayedIn_log : relayedIn (course.log stage command) = course.kills := by
  cases course with
  | barred barrier => cases barrier <;> rfl
  | unnamed passage errno => rfl
  | ran passage earlier errand => exact Runner.relayedIn_log

end Course

end InnerStage

/-! ### The outer stage -/

namespace Executable

/-- What may come of looking for the program to start again. -/
def Finds : Executable → Except Cause Bytes → Prop
  | .running, _ => True
  | .path place, found => found = .ok place
  | .unresolvable cause, found => found = .error cause

def talk : Executable → Except Cause Bytes → List Exchange
  | .running, found => [⟨.ownPath, found⟩]
  | .path _, _ | .unresolvable _, _ => []

theorem run_resolve_iff {executable : Executable} {talked : List Exchange}
    {found : Except Cause Bytes} :
    Run Process.Step executable.resolve talked (.done found) ↔
      executable.Finds found ∧ talked = executable.talk found := by
  cases executable with
  | running =>
      refine Process.run_call_iff.trans ⟨?_, ?_⟩
      · rintro ⟨reply, rest, rfl, run⟩
        obtain ⟨rfl, rfl⟩ := Process.run_done_iff.1 run
        exact ⟨trivial, rfl⟩
      · rintro ⟨-, rfl⟩
        exact ⟨found, [], rfl, .start⟩
  | path place => exact Process.run_done_iff.trans and_comm
  | unresolvable cause => exact Process.run_done_iff.trans and_comm

theorem completable_resolve (executable : Executable) : executable.resolve.Completable := by
  cases executable with
  | running => exact Process.completable_call (.ok []) fun _ => Process.completable_done
  | path place => exact Process.completable_done
  | unresolvable cause => exact Process.completable_done

end Executable

/-- How a run of an outer stage goes that comes to an end. -/
inductive OuterStage.Course (executable : Executable) where
  /-- It cannot be told which program to start again. -/
  | lost (cause : Cause) (finds : executable.Finds (.error cause))
  | launched (path : Bytes) (finds : executable.Finds (.ok path)) (earlier : Signal → Reaction)
      (errand : Errand)

namespace OuterStage

variable {stage : OuterStage} {command : Command} {talked : List Exchange} {path : Bytes}

/-- How the outer stage goes on once it has asked for its child. -/
def asked (path : Bytes) : Except Cause Pid → Process (Except Failure UInt8)
  | .error cause => .done (.error (.launch path.lossy cause))
  | .ok child => .call (.report (.relaunched path.lossy child)) fun _ =>
      (awaitChild child path.lossy).run

/-- The outer stage is about to create its child. -/
def asks (stage : OuterStage) (command : Command) (path : Bytes) :
    Process (Except Failure UInt8) :=
  .call (.spawn (stage.spawning path command)) (asked path)

/-- How the outer stage goes on once it has looked for the program to start again. -/
def located (stage : OuterStage) (command : Command) :
    Except Cause Bytes → Process (Except Failure UInt8)
  | .error cause => .done (.error (.launch "current executable" cause))
  | .ok path => .call (.react .terminate .caught) fun _ => .call (.react .hangup .caught) fun _ =>
      if stage.isolation.hasAny then
        .call (.report (.requesting stage.isolation)) fun _ => stage.asks command path
      else stage.asks command path

theorem run_eq_located (stage : OuterStage) (command : Command) : (stage.run command).run =
    .call (.report (.launching command)) fun _ =>
      stage.executable.resolve >>= stage.located command := by
  refine congrArg (Process.call _) (funext fun _ => ?_)
  change Process.bind (Process.bind stage.executable.resolve _) _ = _
  refine (Process.bind_assoc stage.executable.resolve _ _).trans ?_
  refine congrArg (Process.bind _) (funext fun found => ?_)
  cases found with
  | error cause => rfl
  | ok path =>
      refine congrArg (Process.call _) (funext fun _ => ?_)
      refine congrArg (Process.call _) (funext fun _ => ?_)
      change ExceptT.run (if stage.isolation.hasAny = true then _ else _) = _
      split
      · refine congrArg (Process.call _) (funext fun _ => ?_)
        refine congrArg (Process.call _) (funext fun reply => ?_)
        cases reply <;> rfl
      · refine congrArg (Process.call _) (funext fun reply => ?_)
        cases reply <;> rfl

/-- What the outer stage says about the namespaces that it asks for, if it asks for any. -/
def requestTalk (stage : OuterStage) : List Exchange :=
  if stage.isolation.hasAny then [⟨.report (.requesting stage.isolation), ()⟩] else []

def requestLog (stage : OuterStage) : List (Level × Event) :=
  if stage.isolation.hasAny then [(.debug, .requesting stage.isolation)] else []

namespace Course

variable {executable : Executable}

def errandTalk (stage : OuterStage) (command : Command) (path : Bytes) : Errand → List Exchange
  | .refused cause => [⟨.spawn (stage.spawning path command), .error cause⟩]
  | .tended child waited =>
      ⟨.spawn (stage.spawning path command), .ok child⟩ ::
        ⟨.report (.relaunched path.lossy child), ()⟩ :: waited.talk path.lossy child

def errandLog (path : Bytes) : Errand → List (Level × Event)
  | .refused _ => []
  | .tended child waited => (.debug, .relaunched path.lossy child) :: waited.log path.lossy child

def talk (stage : OuterStage) (command : Command) : Course stage.executable → List Exchange
  | .lost cause _ =>
      ⟨.report (.launching command), ()⟩ :: stage.executable.talk (.error cause)
  | .launched path _ earlier errand =>
      ⟨.report (.launching command), ()⟩ :: (stage.executable.talk (.ok path) ++
        (listening earlier ++ (stage.requestTalk ++ errandTalk stage command path errand)))

def log (stage : OuterStage) (command : Command) :
    Course stage.executable → List (Level × Event)
  | .lost _ _ => [(.info, .launching command)]
  | .launched path _ _ errand =>
      (.info, .launching command) :: (stage.requestLog ++ errandLog path errand)

def kills : Course executable → List (Pid × Signal)
  | .lost _ _ => []
  | .launched _ _ _ errand => errand.kills

def result : Course executable → Except Failure UInt8
  | .lost cause _ => .error (.launch "current executable" cause)
  | .launched path _ _ errand => errand.result path.lossy (.launch path.lossy)

end Course

theorem run_asks_iff {came : Except Failure UInt8} :
    Run Process.Step (stage.asks command path) talked (.done came) ↔
      ∃ errand, talked = Course.errandTalk stage command path errand ∧
        came = errand.result path.lossy (.launch path.lossy) := by
  rw [asks, Process.run_call_iff]
  constructor
  · rintro ⟨reply, rest, rfl, run⟩
    cases reply with
    | error cause =>
        obtain ⟨rfl, rfl⟩ := Process.run_done_iff.1 run
        exact ⟨.refused cause, rfl, rfl⟩
    | ok child =>
        obtain ⟨_, rfl, awaits⟩ := Process.run_report_iff.1 run
        obtain ⟨waited, rfl, rfl⟩ := Waited.run_iff.1 awaits
        exact ⟨.tended child waited, rfl, rfl⟩
  · rintro ⟨errand, rfl, rfl⟩
    cases errand with
    | refused cause => exact ⟨.error cause, [], rfl, .start⟩
    | tended child waited =>
        exact ⟨.ok child, _, rfl,
          Process.run_report_iff.2 ⟨_, rfl, Waited.run_iff.2 ⟨waited, rfl, rfl⟩⟩⟩

theorem run_requests_iff {came : Except Failure UInt8} :
    Run Process.Step
        (if stage.isolation.hasAny then
          .call (.report (.requesting stage.isolation)) fun _ => stage.asks command path
        else stage.asks command path) talked (.done came) ↔
      ∃ errand, talked = stage.requestTalk ++ Course.errandTalk stage command path errand ∧
        came = errand.result path.lossy (.launch path.lossy) := by
  unfold requestTalk
  split
  · rw [Process.run_report_iff]
    constructor
    · rintro ⟨_, rfl, run⟩
      obtain ⟨errand, rfl, rfl⟩ := run_asks_iff.1 run
      exact ⟨errand, rfl, rfl⟩
    · rintro ⟨errand, rfl, rfl⟩
      exact ⟨_, rfl, run_asks_iff.2 ⟨errand, rfl, rfl⟩⟩
  · exact run_asks_iff

/-- The runs of the outer stage that come to an end are those of its courses. -/
theorem run_iff {came : Except Failure UInt8} :
    Run Process.Step (stage.run command).run talked (.done came) ↔
      ∃ course : Course stage.executable, talked = course.talk stage command ∧
        came = course.result := by
  have keeps : stage.executable.resolve.Keeps (supervision fun _ _ => True) (fun _ _ => True)
      .initial := keeps_resolve rfl (fun _ _ _ _ => trivial) fun _ _ _ => trivial
  rw [run_eq_located, Process.run_report_iff]
  constructor
  · rintro ⟨_, rfl, run⟩
    obtain ⟨opening, rest, found, rfl, looks, goesOn⟩ := keeps.run_bind_iff.1 run
    obtain ⟨finds, rfl⟩ := Executable.run_resolve_iff.1 looks
    cases found with
    | error cause =>
        obtain ⟨rfl, rfl⟩ := Process.run_done_iff.1 goesOn
        exact ⟨.lost cause finds, congrArg (List.cons _) (List.append_nil _), rfl⟩
    | ok path =>
        obtain ⟨terminate, _, rfl, half⟩ := Process.run_call_done goesOn
        obtain ⟨hangup, _, rfl, listens⟩ := Process.run_call_done half
        obtain ⟨errand, rfl, rfl⟩ := run_requests_iff.1 listens
        let earlier (signal : Signal) : Reaction :=
          if signal = .terminate then terminate else hangup
        exact ⟨.launched path finds earlier errand, rfl, rfl⟩
  · rintro ⟨course, rfl, rfl⟩
    cases course with
    | lost cause finds =>
        exact ⟨_, rfl, keeps.run_bind_iff.2 ⟨_, [], _, (List.append_nil _).symm,
          Executable.run_resolve_iff.2 ⟨finds, rfl⟩, .start⟩⟩
    | launched path finds earlier errand =>
        refine ⟨_, rfl, keeps.run_bind_iff.2 ⟨_, _, .ok path, rfl,
          Executable.run_resolve_iff.2 ⟨finds, rfl⟩, ?_⟩⟩
        exact Process.run_call (.react _ _) _ (Process.run_call (.react _ _) _
          (run_requests_iff.2 ⟨errand, rfl, rfl⟩))

theorem completable_run (stage : OuterStage) (command : Command) :
    (stage.run command).run.Completable := by
  have keeps : stage.executable.resolve.Keeps (supervision fun _ _ => True) (fun _ _ => True)
      .initial := keeps_resolve rfl (fun _ _ _ _ => trivial) fun _ _ _ => trivial
  have asks (path : Bytes) : (stage.asks command path).Completable := by
    refine Process.completable_call (.ok 0) fun reply => ?_
    cases reply with
    | error cause => exact Process.completable_done
    | ok child => exact Process.completable_call () fun _ => Waited.completable child _
  rw [run_eq_located]
  refine Process.completable_call () fun _ => ?_
  refine keeps.completable_bind (Executable.completable_resolve _) fun found => ?_
  cases found with
  | error cause => exact Process.completable_done
  | ok path =>
      refine Process.completable_call .standard fun _ => ?_
      refine Process.completable_call .standard fun _ => ?_
      split
      · exact Process.completable_call () fun _ => asks path
      · exact asks path

namespace Course

variable {course : Course stage.executable}

theorem loggedIn_talk : loggedIn (course.talk stage command) = course.log stage command := by
  have silent (found : Except Cause Bytes) : loggedIn (stage.executable.talk found) = [] := by
    cases stage.executable <;> rfl
  have requests : loggedIn stage.requestTalk = stage.requestLog := by
    unfold requestTalk requestLog
    split <;> rfl
  cases course with
  | lost cause finds => exact congrArg (List.cons _) (silent _)
  | launched path finds earlier errand =>
      have errands : loggedIn (errandTalk stage command path errand) = errandLog path errand := by
        cases errand with
        | refused cause => rfl
        | tended child waited => exact congrArg (List.cons _) Waited.loggedIn_talk
      refine congrArg (List.cons _) ?_
      change loggedIn (_ ++ (listening earlier ++ (_ ++ _))) = _
      rw [loggedIn_append, silent, loggedIn_append, loggedIn_append, requests, errands]
      rfl

theorem sentIn_talk : sentIn (course.talk stage command) = course.kills := by
  have silent (found : Except Cause Bytes) : sentIn (stage.executable.talk found) = [] := by
    cases stage.executable <;> rfl
  have requests : sentIn stage.requestTalk = [] := by
    unfold requestTalk
    split <;> rfl
  cases course with
  | lost cause finds => exact silent _
  | launched path finds earlier errand =>
      have errands : sentIn (errandTalk stage command path errand) = errand.kills := by
        cases errand with
        | refused cause => rfl
        | tended child waited => exact Waited.sentIn_talk
      change sentIn (_ ++ (listening earlier ++ (_ ++ _))) = _
      rw [sentIn_append, silent, sentIn_append, sentIn_append, requests, errands]
      rfl

theorem relayedIn_log : relayedIn (course.log stage command) = course.kills := by
  have requests : relayedIn stage.requestLog = [] := by
    unfold requestLog
    split <;> rfl
  cases course with
  | lost cause finds => rfl
  | launched path finds earlier errand =>
      have errands : relayedIn (errandLog path errand) = errand.kills := by
        cases errand with
        | refused cause => rfl
        | tended child waited => exact Waited.relayedIn_log
      change relayedIn (_ ++ _) = _
      rw [relayedIn_append, requests, errands]
      rfl

end Course

end OuterStage

/-! ### What the logs tell -/

/-- What a run has come to whose last event is this one. -/
def Event.Concludes : Event → Except Failure UInt8 → Prop
  | .initializing _, result =>
      ∃ pid cause, result = .error (.namespaceSetup (.unreadable pid cause))
  | .sharing uts parent, result => result = .error (.namespaceSetup (.shared uts parent))
  | .namingRefused _ errno, result => result = .error (.namespaceSetup (.refused errno))
  | .executing command, result =>
      ∃ cause, result = .error (.spawn command.program.lossy cause)
  | .launching _, result | .requesting _, result =>
      ∃ program cause, result = .error (.launch program cause)
  | .exited _ code, result => result = .ok code
  | .killed program signal, result => result = .error (.runtime program signal.number)
  | .dispatching _ _, _ | .relaunched _ _, _ | .fresh _ _, _ | .naming _, _ | .waiting _ _, _
  | .relaying _ _, _ | .relayFailed _, _ => False

/-- The last of some events tells what a run has come to. -/
def Concluding (log : List (Level × Event)) (result : Except Failure UInt8) : Prop :=
  ∃ earlier level event, log = earlier ++ [(level, event)] ∧ event.Concludes result

theorem Concluding.prepend {log : List (Level × Event)} {result : Except Failure UInt8}
    (concluding : Concluding log result) (before : List (Level × Event)) :
    Concluding (before ++ log) result := by
  obtain ⟨earlier, level, event, rfl, concludes⟩ := concluding
  exact ⟨before ++ earlier, level, event, (List.append_assoc _ _ _).symm, concludes⟩

theorem Waited.concluding_log (waited : Waited) (label : String) (child : Pid) :
    Concluding (waited.log label child) (concluded label waited.status) := by
  refine ⟨_, _, _, (List.cons_append ..).symm, ?_⟩
  cases waited.status <;> rfl

theorem Runner.concluding_log (command : Command) (errand : Errand) :
    Concluding (Runner.log command errand) (Runner.result command errand) := by
  cases errand with
  | refused cause => exact ⟨[], _, _, rfl, cause, rfl⟩
  | tended child waited => exact (waited.concluding_log _ child).prepend [_]

theorem InnerStage.Course.concluding_log (stage : InnerStage) (command : Command)
    (course : Course) : Concluding (course.log stage command) (course.result command) := by
  cases course with
  | barred barrier =>
      cases barrier with
      | blind own errno => exact ⟨[], _, _, rfl, _, _, rfl⟩
      | blindToParent own link parent errno => exact ⟨[], _, _, rfl, _, _, rfl⟩
      | shared own link parent => exact ⟨[_], _, _, rfl, rfl⟩
  | unnamed passage errno => exact ⟨[_, _, _], _, _, rfl, rfl⟩
  | ran passage earlier errand => exact (Runner.concluding_log command errand).prepend [_, _, _]

theorem OuterStage.Course.concluding_log (stage : OuterStage) (command : Command)
    (course : Course stage.executable) : Concluding (course.log stage command) course.result := by
  cases course with
  | lost cause finds => exact ⟨[], _, _, rfl, _, _, rfl⟩
  | launched path finds earlier errand =>
      cases errand with
      | refused cause =>
          dsimp only [log, errandLog, requestLog]
          split
          · exact ⟨[_], _, _, rfl, _, _, rfl⟩
          · exact ⟨[], _, _, rfl, _, _, rfl⟩
      | tended child waited =>
          have ends := waited.concluding_log path.lossy child
          exact (ends.prepend [_]).prepend (_ :: stage.requestLog)

/-- The runs of a process have courses, and their logs tell what has come of them. -/
structure ToldByLog {Course : Type} (process : Process (Except Failure UInt8))
    (talk : Course → List Exchange) (log : Course → List (Level × Event))
    (kills : Course → List (Pid × Signal)) (result : Course → Except Failure UInt8) : Prop where
  /-- The runs that come to an end are those of the courses. -/
  ended : ∀ talked came, Run Process.Step process talked (.done came) ↔
    ∃ course, talked = talk course ∧ came = result course
  /-- A run has made some of the exchanges of a course, however far it has come. -/
  begun : ∀ talked after, Run Process.Step process talked after → ∃ course, talked <+: talk course
  logged : ∀ course, loggedIn (talk course) = log course
  /-- Just those signals are sent about which there is a warning, in the same order. -/
  warned : ∀ course, sentIn (talk course) = kills course ∧ relayedIn (log course) = kills course
  concluding : ∀ course, Concluding (log course) (result course)

theorem ToldByLog.begun_of_completable {Course : Type} {process : Process (Except Failure UInt8)}
    {talk : Course → List Exchange} {result : Course → Except Failure UInt8}
    (completable : process.Completable)
    (ended : ∀ talked came, Run Process.Step process talked (.done came) ↔
      ∃ course, talked = talk course ∧ came = result course)
    (talked : List Exchange) (after : Process (Except Failure UInt8))
    (run : Run Process.Step process talked after) : ∃ course, talked <+: talk course := by
  obtain ⟨further, came, ends⟩ := completable talked after run
  obtain ⟨course, whole, -⟩ := (ended _ came).1 (run.trans ends)
  exact ⟨course, further, whole⟩

end HostnameSandbox

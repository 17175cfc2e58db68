import HostnameSandbox.Proofs.Process.Completion
import HostnameSandbox.Proofs.Supervision.Stages

/-!
# What is logged about a child

What a process exchanges while it starts a child and waits for it, and what it logs about that: the
runs that come to an end are accounted for by the signals that were passed on and by how the child
has ended.
-/

namespace HostnameSandbox

/-- The events that are logged in some exchanges, with their levels. -/
def loggedIn (talk : List Exchange) : List (Level × Event) :=
  talk.filterMap fun
    | ⟨.report event, _⟩ => some (event.level, event)
    | _ => none

/-- The signals that are sent in some exchanges, and to whom. -/
def sentIn (talk : List Exchange) : List (Pid × Signal) :=
  talk.filterMap fun
    | ⟨.send child signal, _⟩ => some (child, signal)
    | _ => none

/-- The signals that are said to be passed on, and to whom. -/
def relayedIn (log : List (Level × Event)) : List (Pid × Signal) :=
  log.filterMap fun
    | (_, .relaying signal child) => some (child, signal)
    | _ => none

@[simp]
theorem loggedIn_append (first second : List Exchange) :
    loggedIn (first ++ second) = loggedIn first ++ loggedIn second :=
  List.filterMap_append

@[simp]
theorem sentIn_append (first second : List Exchange) :
    sentIn (first ++ second) = sentIn first ++ sentIn second :=
  List.filterMap_append

@[simp]
theorem relayedIn_append (first second : List (Level × Event)) :
    relayedIn (first ++ second) = relayedIn first ++ relayedIn second :=
  List.filterMap_append

/-! ### Waiting -/

/-- How a stage has waited for its child: the signals that it has passed on, each with what came of
that, and how the child has ended. -/
structure Waited where
  passings : List (Signal × Except Errno Unit)
  status : ExitStatus

namespace Waited

/-- The event that tells how a child has ended. -/
def ending (label : String) : ExitStatus → Event
  | .exited code => .exited label code
  | .killed signal => .killed label signal

def talk (waited : Waited) (label : String) (child : Pid) : List Exchange :=
  ⟨.report (.waiting label child), ()⟩ ::
    (waited.passings.flatMap (Process.passing child) ++
      [⟨.select child Relay.signals, .ended waited.status⟩,
        ⟨.report (ending label waited.status), ()⟩])

/-- What is logged about a signal that is passed on. -/
def passingLog (child : Pid) : Signal × Except Errno Unit → List (Level × Event)
  | (signal, .ok ()) => [(.warn, .relaying signal child)]
  | (signal, .error errno) => [(.warn, .relaying signal child), (.debug, .relayFailed errno)]

/-- What is logged about the end of a child. -/
def endingLog (label : String) : ExitStatus → Level × Event
  | .exited code => (.debug, .exited label code)
  | .killed signal => (.warn, .killed label signal)

/-- The log of waiting: any number of warnings about signals, each perhaps with a remark that it
could not be passed on, and then the end of the child. -/
def log (waited : Waited) (label : String) (child : Pid) : List (Level × Event) :=
  (.debug, .waiting label child) ::
    (waited.passings.flatMap (passingLog child) ++ [endingLog label waited.status])

theorem awaitChild_eq (child : Pid) (label : String) : (awaitChild child label).run =
    .call (.report (.waiting label child)) fun _ => Process.waiting child fun status =>
      .call (.report (ending label status)) fun _ => .done (concluded label status) := by
  refine congrArg (Process.call _) (funext fun _ => ?_)
  refine congrArg (Process.loop _) (funext fun status => ?_)
  cases status <;> rfl

variable {waited : Waited} {label : String} {child : Pid}

theorem run_iff {talk : List Exchange} {result : Except Failure UInt8} :
    Run Process.Step (awaitChild child label).run talk (.done result) ↔
      ∃ waited : Waited, talk = waited.talk label child ∧
        result = concluded label waited.status := by
  rw [awaitChild_eq]
  constructor
  · intro run
    obtain ⟨_, rest, rfl, begun⟩ := Process.run_call_done run
    rcases Process.run_waiting_cases begun with
      ⟨further, back⟩ | ⟨passings, status, later, rfl, told⟩
    · obtain ⟨-, never⟩ := Process.eq_nil_of_run_done back
      cases never
    · obtain ⟨_, none, rfl, ends⟩ := Process.run_call_done told
      obtain ⟨rfl, same⟩ := Process.eq_nil_of_run_done ends
      cases same
      exact ⟨⟨passings, status⟩, rfl, rfl⟩
  · rintro ⟨⟨passings, status⟩, rfl, rfl⟩
    exact Process.run_call (.report _) () (Process.run_waiting passings
      (Process.run_call (.report _) () .start))

theorem completable (child : Pid) (label : String) : (awaitChild child label).run.Completable := by
  rw [awaitChild_eq]
  exact Process.completable_call () fun _ => Process.completable_waiting fun status =>
    Process.completable_call () fun _ => Process.completable_done

theorem loggedIn_passings (child : Pid) (passings : List (Signal × Except Errno Unit)) :
    loggedIn (passings.flatMap (Process.passing child)) = passings.flatMap (passingLog child) := by
  induction passings with
  | nil => rfl
  | cons passed passings hypothesis =>
      obtain ⟨signal, reply⟩ := passed
      rw [List.flatMap_cons, loggedIn_append, hypothesis, List.flatMap_cons]
      cases reply <;> rfl

theorem sentIn_passings (child : Pid) (passings : List (Signal × Except Errno Unit)) :
    sentIn (passings.flatMap (Process.passing child)) =
      passings.map fun passed => (child, passed.1) := by
  induction passings with
  | nil => rfl
  | cons passed passings hypothesis =>
      obtain ⟨signal, reply⟩ := passed
      rw [List.flatMap_cons, sentIn_append, hypothesis]
      cases reply <;> rfl

theorem relayedIn_passings (child : Pid) (passings : List (Signal × Except Errno Unit)) :
    relayedIn (passings.flatMap (passingLog child)) =
      passings.map fun passed => (child, passed.1) := by
  induction passings with
  | nil => rfl
  | cons passed passings hypothesis =>
      obtain ⟨signal, reply⟩ := passed
      rw [List.flatMap_cons, relayedIn_append, hypothesis]
      cases reply <;> rfl

theorem loggedIn_talk : loggedIn (waited.talk label child) = waited.log label child := by
  have ends : loggedIn [⟨.select child Relay.signals, .ended waited.status⟩,
      ⟨.report (ending label waited.status), ()⟩] = [endingLog label waited.status] := by
    cases waited.status <;> rfl
  change (_, _) :: loggedIn (_ ++ _) = _
  rw [loggedIn_append, loggedIn_passings, ends]
  rfl

theorem sentIn_talk : sentIn (waited.talk label child) =
    waited.passings.map fun passed => (child, passed.1) := by
  change sentIn (_ ++ _) = _
  rw [sentIn_append, sentIn_passings]
  exact List.append_nil _

theorem relayedIn_log : relayedIn (waited.log label child) =
    waited.passings.map fun passed => (child, passed.1) := by
  have ends : relayedIn [endingLog label waited.status] = [] := by
    cases waited.status <;> rfl
  change relayedIn (_ ++ _) = _
  rw [relayedIn_append, relayedIn_passings, ends, List.append_nil]

end Waited

/-- What has come of starting a child: there is none, or it was waited for. -/
inductive Errand where
  | refused (cause : Cause)
  | tended (child : Pid) (waited : Waited)

def Errand.result (label : String) (failed : Cause → Failure) : Errand → Except Failure UInt8
  | .refused cause => .error (failed cause)
  | .tended _ waited => concluded label waited.status

/-- The signals that were passed on to the child. -/
def Errand.kills : Errand → List (Pid × Signal)
  | .refused _ => []
  | .tended child waited => waited.passings.map fun passed => (child, passed.1)

/-- The exchanges by which a process begins to listen, by what it did about signals before. -/
def listening (earlier : Signal → Reaction) : List Exchange :=
  Relay.signals.map fun signal => ⟨.react signal .caught, earlier signal⟩

/-! ### A runner -/

namespace Runner

variable {runner : Runner} {command : Command} {earlier : Signal → Reaction} {errand : Errand}

def talk (runner : Runner) (command : Command) (earlier : Signal → Reaction) :
    Errand → List Exchange
  | .refused cause =>
      ⟨.report (.executing command), ()⟩ ::
        (listening earlier ++ [⟨.spawn (runner.spawning command), .error cause⟩])
  | .tended child waited =>
      ⟨.report (.executing command), ()⟩ ::
        (listening earlier ++ ⟨.spawn (runner.spawning command), .ok child⟩ ::
          waited.talk command.program.lossy child)

def log (command : Command) : Errand → List (Level × Event)
  | .refused _ => [(.info, .executing command)]
  | .tended child waited => (.info, .executing command) :: waited.log command.program.lossy child

def result (command : Command) (errand : Errand) : Except Failure UInt8 :=
  errand.result command.program.lossy (.spawn command.program.lossy)

/-- The runner is about to create its child. -/
def asks (runner : Runner) (command : Command) : Process (Except Failure UInt8) :=
  .call (.spawn (runner.spawning command)) fun
    | .error cause => .done (.error (.spawn command.program.lossy cause))
    | .ok child => (awaitChild child command.program.lossy).run

theorem execute_eq (runner : Runner) (command : Command) : (runner.execute command).run =
    .call (.report (.executing command)) fun _ => .call (.react .terminate .caught) fun _ =>
      .call (.react .hangup .caught) fun _ => runner.asks command := by
  refine congrArg (Process.call _) (funext fun _ => congrArg (Process.call _) (funext fun _ => ?_))
  refine congrArg (Process.call _) (funext fun _ => ?_)
  refine congrArg (Process.call _) (funext fun reply => ?_)
  cases reply <;> rfl

theorem run_iff {talked : List Exchange} {came : Except Failure UInt8} :
    Run Process.Step (runner.execute command).run talked (.done came) ↔
      ∃ earlier errand, talked = runner.talk command earlier errand ∧
        came = result command errand := by
  rw [execute_eq]
  constructor
  · intro run
    obtain ⟨_, _, rfl, begun⟩ := Process.run_call_done run
    obtain ⟨terminate, _, rfl, half⟩ := Process.run_call_done begun
    obtain ⟨hangup, _, rfl, listens⟩ := Process.run_call_done half
    obtain ⟨reply, rest, rfl, asked⟩ := Process.run_call_done listens
    let earlier (signal : Signal) : Reaction := if signal = .terminate then terminate else hangup
    cases reply with
    | error cause =>
        obtain ⟨rfl, same⟩ := Process.eq_nil_of_run_done asked
        cases same
        exact ⟨earlier, .refused cause, rfl, rfl⟩
    | ok child =>
        obtain ⟨waited, rfl, rfl⟩ := Waited.run_iff.1 asked
        exact ⟨earlier, .tended child waited, rfl, rfl⟩
  · rintro ⟨earlier, errand, rfl, rfl⟩
    cases errand with
    | refused cause =>
        exact Process.run_call (.report _) () (Process.run_call (.react _ _) _
          (Process.run_call (.react _ _) _ (Process.run_call (.spawn _) (.error cause) .start)))
    | tended child waited =>
        exact Process.run_call (.report _) () (Process.run_call (.react _ _) _
          (Process.run_call (.react _ _) _ (Process.run_call (.spawn _) (.ok child)
            (Waited.run_iff.2 ⟨waited, rfl, rfl⟩))))

theorem completable (runner : Runner) (command : Command) :
    (runner.execute command).run.Completable := by
  rw [execute_eq]
  refine Process.completable_call () fun _ => Process.completable_call .standard fun _ => ?_
  refine Process.completable_call .standard fun _ => ?_
  refine Process.completable_call (.ok 0) fun reply => ?_
  cases reply with
  | error cause => exact Process.completable_done
  | ok child => exact Waited.completable child _

theorem loggedIn_talk : loggedIn (runner.talk command earlier errand) = log command errand := by
  cases errand with
  | refused cause => rfl
  | tended child waited => exact congrArg (List.cons _) Waited.loggedIn_talk

theorem sentIn_talk : sentIn (runner.talk command earlier errand) = errand.kills := by
  cases errand with
  | refused cause => rfl
  | tended child waited => exact Waited.sentIn_talk

theorem relayedIn_log : relayedIn (log command errand) = errand.kills := by
  cases errand with
  | refused cause => rfl
  | tended child waited => exact Waited.relayedIn_log

end Runner

end HostnameSandbox

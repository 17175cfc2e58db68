import HostnameSandbox.Proofs.Supervision.Brevity
import HostnameSandbox.Proofs.Supervision.History
import HostnameSandbox.Proofs.Supervision.Waiting

/-!
# What comes of waiting for a child

While a process waits for its child, signals may come, the child may end, and of the things that
have happened the process may be told any; the signals that it sends may reach the child or fail
to.  What the waiting comes to depends on how the child ends and on nothing else.
-/

namespace HostnameSandbox

/-- What has become of a child. -/
inductive Fate where
  | running
  /-- The child has ended, and its parent was not told yet. -/
  | ended (status : ExitStatus)
  /-- The parent was told.  The number of the child may be another process's from now on. -/
  | reaped (status : ExitStatus)
deriving DecidableEq

/-- How often the parent of a child was told about the end. -/
def Fate.reapings : Fate → Nat
  | .running | .ended _ => 0
  | .reaped _ => 1

/-- A process that waits for a child, the signals that it has noted, and what has become of the
child. -/
structure Vigil (α : Type) where
  process : Process α
  noted : List Signal
  fate : Fate

/-- What happens around a process that waits for a child. -/
inductive Incident where
  /-- A signal that is passed on comes. -/
  | arrived (signal : Signal)
  /-- The child ends. -/
  | ended (status : ExitStatus)
  /-- The process makes a call and is answered. -/
  | made (exchange : Exchange)

namespace Incident

def arrival? : Incident → Option Signal
  | .arrived signal => some signal
  | _ => none

def exchange? : Incident → Option Exchange
  | .made exchange => some exchange
  | _ => none

end Incident

def Exchange.beginsTurn : Exchange → Bool
  | ⟨.select _ _, _⟩ => true
  | _ => false

def Exchange.takes : Exchange → Bool
  | ⟨.select _ _, .noted _⟩ => true
  | _ => false

namespace Vigil

variable {α : Type}

def arrivalsIn (trace : List Incident) : List Signal := trace.filterMap Incident.arrival?

def talkIn (trace : List Incident) : List Exchange := trace.filterMap Incident.exchange?

/-- How many turns of the loop were begun and answered. -/
def turnsIn (trace : List Incident) : Nat := (talkIn trace).countP Exchange.beginsTurn

/-- How many turns passed a signal on. -/
def takesIn (trace : List Incident) : Nat := (talkIn trace).countP Exchange.takes

/-- The process that begins to wait for a child, where some signals came since it began to
listen. -/
def begin (child : Pid) (label : String) (pending : List Signal) :
    Vigil (Except Failure UInt8) :=
  ⟨(awaitChild child label).run, pending, .running⟩

/-- A process is told about a signal only if it asked for it and has noted it, and about the end
of its child only if the child has ended and it was not told before. -/
def Answers (child : Pid) (vigil : Vigil α) : Exchange → Prop
  | ⟨.select _ signals, .noted signal⟩ => signal ∈ signals ∧ signal ∈ vigil.noted
  | ⟨.select other _, .ended status⟩ => other = child ∧ vigil.fate = .ended status
  | _ => True

/-- What is left after an exchange: a signal that the process was told about is not noted any
more, and a child whose end it was told about is reaped. -/
def exchanged (vigil : Vigil α) (exchange : Exchange) (process : Process α) : Vigil α :=
  match exchange with
  | ⟨.select _ _, .noted signal⟩ =>
      { vigil with process, noted := vigil.noted.filter (· != signal) }
  | ⟨.select _ _, .ended status⟩ => { vigil with process, fate := .reaped status }
  | _ => { vigil with process }

/-- What may happen around a process that waits for a child. -/
inductive Step (child : Pid) : Vigil α → Incident → Vigil α → Prop
  | arrive {vigil : Vigil α} {signal : Signal} (passedOn : signal ∈ Relay.signals) :
      Step child vigil (.arrived signal) { vigil with noted := vigil.noted.insert signal }
  | depart {vigil : Vigil α} (status : ExitStatus) (running : vigil.fate = .running) :
      Step child vigil (.ended status) { vigil with fate := .ended status }
  | make {vigil : Vigil α} {exchange : Exchange} {process : Process α}
      (step : vigil.process.Step exchange process) (answers : vigil.Answers child exchange) :
      Step child vigil (.made exchange) (vigil.exchanged exchange process)

@[simp]
theorem arrivalsIn_append (first second : List Incident) :
    arrivalsIn (first ++ second) = arrivalsIn first ++ arrivalsIn second :=
  List.filterMap_append

@[simp]
theorem talkIn_append (first second : List Incident) :
    talkIn (first ++ second) = talkIn first ++ talkIn second :=
  List.filterMap_append

variable {child : Pid} {first vigil after : Vigil α} {incident : Incident} {exchange : Exchange}
  {process : Process α} {trace : List Incident} {status : ExitStatus}

@[simp]
theorem process_exchanged : (vigil.exchanged exchange process).process = process := by
  unfold exchanged
  split <;> rfl

theorem process_run (run : Run (Step child) first trace vigil) :
    Run Process.Step first.process (talkIn trace) vigil.process := by
  induction run with
  | start => exact .start
  | next run step hypothesis =>
      rw [talkIn_append]
      cases step with
      | arrive passedOn =>
          rw [show talkIn [.arrived _] = [] from rfl, List.append_nil]
          exact hypothesis
      | depart status running =>
          rw [show talkIn [.ended _] = [] from rfl, List.append_nil]
          exact hypothesis
      | make step answers =>
          rw [process_exchanged]
          exact .next hypothesis step

/-! ### The child -/

/-- A child that has ended did so once, as it is told. -/
theorem ended_mem_iff (running : first.fate = .running)
    (run : Run (Step child) first trace vigil) :
    .ended status ∈ trace ↔ vigil.fate = .ended status ∨ vigil.fate = .reaped status := by
  induction run with
  | start => simp [running]
  | next run step hypothesis =>
      rw [List.mem_append, List.mem_singleton, hypothesis]
      cases step with
      | arrive passedOn => simp
      | depart other running => simp [running, eq_comm]
      | @make exchange process step answers =>
          obtain ⟨request, reply⟩ := exchange
          cases request with
          | select pid signals =>
              cases reply with
              | noted signal => simp [exchanged]
              | ended other =>
                  obtain ⟨-, ended⟩ := answers
                  simp [exchanged, ended]
          | _ => simp [exchanged]

/-! ### Counts -/

/-- In a step, a turn passes a signal on or tells about the end of the child. -/
theorem turnsIn_of_step (step : Step child vigil incident after) :
    turnsIn [incident] + vigil.fate.reapings = takesIn [incident] + after.fate.reapings := by
  cases step with
  | arrive passedOn => rfl
  | depart status running =>
      rw [running]
      rfl
  | @make exchange process step answers =>
      obtain ⟨request, reply⟩ := exchange
      cases request with
      | select pid signals =>
          cases reply with
          | noted signal => rfl
          | ended status =>
              rw [answers.2]
              rfl
      | _ => rfl

/-- In a step, what is taken and what is noted was noted or has just come. -/
theorem takesIn_of_step (step : Step child vigil incident after) :
    takesIn [incident] + after.noted.length ≤
      (arrivalsIn [incident]).length + vigil.noted.length := by
  cases step with
  | @arrive signal passedOn =>
      change 0 + (vigil.noted.insert signal).length ≤ 1 + vigil.noted.length
      rw [List.length_insert]
      split <;> omega
  | depart status running => exact Nat.le_refl _
  | @make exchange process step answers =>
      obtain ⟨request, reply⟩ := exchange
      cases request with
      | select pid signals =>
          cases reply with
          | noted signal =>
              have fewer : (vigil.noted.filter (· != signal)).length < vigil.noted.length :=
                List.length_filter_lt_length_iff_exists.2 ⟨signal, answers.2, by simp⟩
              change 1 + (vigil.noted.filter (· != signal)).length ≤ 0 + vigil.noted.length
              omega
          | ended status => exact Nat.le_refl _
      | _ => exact Nat.le_refl _

theorem turnsIn_append (first second : List Incident) :
    turnsIn (first ++ second) = turnsIn first + turnsIn second := by
  simp [turnsIn]

theorem takesIn_append (first second : List Incident) :
    takesIn (first ++ second) = takesIn first + takesIn second := by
  simp [takesIn]

theorem turnsIn_of_run (running : first.fate = .running)
    (run : Run (Step child) first trace vigil) :
    turnsIn trace = takesIn trace + vigil.fate.reapings := by
  induction run with
  | start =>
      rw [running]
      rfl
  | next run step hypothesis =>
      have stepped := turnsIn_of_step step
      rw [turnsIn_append, takesIn_append]
      omega

theorem takesIn_of_run (run : Run (Step child) first trace vigil) :
    takesIn trace + vigil.noted.length ≤ (arrivalsIn trace).length + first.noted.length := by
  induction run with
  | start => exact Nat.le_refl _
  | next run step hypothesis =>
      have stepped := takesIn_of_step step
      rw [takesIn_append, arrivalsIn_append, List.length_append]
      omega

end Vigil

/-! ### What waits for a child -/

/-- The contract of a process that makes no other calls than those of waiting. -/
def onlyWaiting : Contract Unit where
  allows _ request := request.IsWaiting
  after state _ := state

/-- The contract of a process that waits for a child: it cares for the child, makes few calls
without being told about a signal, and makes no other calls than those of waiting. -/
def vigilance : Contract (Supervisor × Nat × Unit) :=
  (supervision fun _ _ => False).both ((brevity 5).both onlyWaiting)

namespace Vigil

/-- How far a process has come that has begun to wait for a child. -/
def standing (child : Pid) (talk : List Exchange) : Supervisor × Nat × Unit :=
  vigilance.afterAll ({ Supervisor.initial with duty := .tending child }, 3, ()) talk

def dutyAfter (child : Pid) (talk : List Exchange) : Duty := (standing child talk).1.duty

def callsLeft (child : Pid) (talk : List Exchange) : Nat := (standing child talk).2.1

variable {child : Pid} {label : String} {pending : List Signal} {trace : List Incident}
  {vigil after : Vigil (Except Failure UInt8)} {exchange : Exchange} {talk : List Exchange}
  {status : ExitStatus}

theorem dutyAfter_concat :
    dutyAfter child (talk ++ [exchange]) = (dutyAfter child talk).after exchange.deed := by
  unfold dutyAfter standing
  rw [vigilance.afterAll_concat]
  rfl

theorem callsLeft_concat :
    callsLeft child (talk ++ [exchange]) = (brevity 5).after (callsLeft child talk) exchange := by
  unfold callsLeft standing
  rw [vigilance.afterAll_concat]
  rfl

/-- A process that waits for a child, or has come to what it takes over from it. -/
def Waits (child : Pid) (label : String) (talk : List Exchange)
    (process : Process (Except Failure UInt8)) : Prop :=
  process.Keeps vigilance
    (fun result state =>
      ∃ status, state.1.duty = .settled child status ∧ result = concluded label status)
    (standing child talk)

theorem waits_awaitChild (child : Pid) (label : String) :
    Waits child label [] (awaitChild child label).run := by
  let supervisor : Supervisor := { Supervisor.initial with duty := .tending child }
  have cares : (awaitChild child label).run.Keeps (supervision fun _ _ => False)
      (fun result state =>
        ∃ status, state.duty = .settled child status ∧ result = concluded label status)
      supervisor :=
    keeps_awaitChild rfl fun status => ⟨status, rfl, rfl⟩
  have brief : (awaitChild child label).run.Keeps (brevity 5) (fun _ _ => True) 3 :=
    Brevity.keeps_awaitChild (show 0 + 5 ≤ 5 by decide) (Nat.le_refl 3) fun _ _ _ => trivial
  have waits : (awaitChild child label).run.Keeps onlyWaiting (fun _ _ => True) () :=
    Contract.Rests.keeps_awaitChild (fun _ isWaiting => ⟨isWaiting, fun _ => rfl⟩) fun _ => trivial
  exact (cares.both (brief.both waits)).mono fun _ _ came => came.1

theorem waits_of_run (run : Run (Step child) (begin child label pending) trace vigil) :
    Waits child label (talkIn trace) vigil.process :=
  Process.Keeps.run (waits_awaitChild child label) (process_run run)

/-- What a process that waits does next, by how far it has come. -/
theorem Waits.step {process after : Process (Except Failure UInt8)}
    (waits : Waits child label talk process) (step : process.Step exchange after) :
    exchange.request.IsWaiting ∧ (dutyAfter child talk).Permits exchange.deed ∧
      0 < callsLeft child talk := by
  obtain ⟨⟨cares, brief, waiting⟩, -⟩ := Process.Keeps.step waits step
  have cares : Supervisor.allows (fun _ _ => False) (standing child talk).1 exchange.request :=
    cares
  exact ⟨waiting, Supervisor.permits_of_allows cares, brief⟩

/-- How far the process has come accords with what has become of the child: until the process
was told about the end, it takes care of the child. -/
inductive Accords (child : Pid) : Duty → Fate → Prop
  | running (duty : Duty) (cared : duty.child? = some child) : Accords child duty .running
  | ended (duty : Duty) (cared : duty.child? = some child) (status : ExitStatus) :
      Accords child duty (.ended status)
  | reaped (status : ExitStatus) : Accords child (.settled child status) (.reaped status)

theorem Accords.of_cared {duty other : Duty} {fate : Fate} (accords : Accords child duty fate)
    (cared : duty.child? ≠ none) (goesOn : other.child? = duty.child?) :
    Accords child other fate := by
  cases accords with
  | running _ caredFor => exact .running other (goesOn.trans caredFor)
  | ended _ caredFor status => exact .ended other (goesOn.trans caredFor) status
  | reaped status => exact absurd rfl cared

theorem accords_of_run (run : Run (Step child) (begin child label pending) trace vigil) :
    Accords child (dutyAfter child (talkIn trace)) vigil.fate := by
  induction run with
  | start => exact .running _ rfl
  | @next trace incident between last run step hypothesis =>
      rw [talkIn_append]
      cases step with
      | arrive passedOn =>
          rw [show talkIn [.arrived _] = [] from rfl, List.append_nil]
          exact hypothesis
      | depart status running =>
          rw [show talkIn [.ended _] = [] from rfl, List.append_nil]
          rw [running] at hypothesis
          generalize dutyAfter child (talkIn trace) = duty at hypothesis ⊢
          cases hypothesis with
          | running _ cared => exact .ended duty cared status
      | @make exchange process step answers =>
          obtain ⟨waiting, permitted, -⟩ := (waits_of_run run).step step
          rw [show talkIn [.made exchange] = [exchange] from rfl, dutyAfter_concat]
          obtain ⟨request, reply⟩ := exchange
          cases request with
          | report event => exact hypothesis
          | select pid signals =>
              cases reply with
              | noted signal =>
                  replace permitted : dutyAfter child (talkIn trace) = .tending pid := permitted
                  rw [permitted] at hypothesis ⊢
                  exact hypothesis.of_cared nofun rfl
              | ended status =>
                  obtain ⟨rfl, -⟩ := answers
                  exact .reaped status
          | send pid signal =>
              replace permitted : dutyAfter child (talkIn trace) = .serving pid signal := permitted
              rw [permitted] at hypothesis ⊢
              exact hypothesis.of_cared nofun rfl
          | _ => cases waiting

/-- The calls that were made and those that are left are bounded by how often a signal was
taken. -/
theorem calls_of_run (run : Run (Step child) (begin child label pending) trace vigil) :
    (talkIn trace).length + callsLeft child (talkIn trace) ≤ 3 + 5 * takesIn trace := by
  induction run with
  | start => exact Nat.le_refl 3
  | @next trace incident between last run step hypothesis =>
      rw [talkIn_append, takesIn_append]
      cases step with
      | arrive passedOn =>
          rw [show talkIn [.arrived _] = [] from rfl, List.append_nil]
          exact Nat.le_trans hypothesis (by omega)
      | depart status running =>
          rw [show talkIn [.ended _] = [] from rfl, List.append_nil]
          exact Nat.le_trans hypothesis (by omega)
      | @make exchange process step answers =>
          obtain ⟨waiting, -, able⟩ := (waits_of_run run).step step
          rw [show talkIn [.made exchange] = [exchange] from rfl, callsLeft_concat,
            List.length_append, List.length_singleton]
          obtain ⟨request, reply⟩ := exchange
          cases request with
          | select pid signals =>
              cases reply with
              | noted signal =>
                  change _ + 1 + 5 ≤ 3 + 5 * (takesIn trace + 1)
                  omega
              | ended status =>
                  change _ + 1 + (callsLeft child (talkIn trace) - 1) ≤ 3 + 5 * takesIn trace
                  omega
          | report event =>
              change _ + 1 + (callsLeft child (talkIn trace) - 1) ≤ 3 + 5 * takesIn trace
              omega
          | send pid signal =>
              change _ + 1 + (callsLeft child (talkIn trace) - 1) ≤ 3 + 5 * takesIn trace
              omega
          | _ => cases waiting

/-- A process that waits has come to its result, or makes a call and is answered, or waits
where neither has the child ended nor is a signal noted. -/
theorem goesOn_of_run (run : Run (Step child) (begin child label pending) trace vigil) :
    (∃ result, vigil.process = .done result) ∨
      (∃ exchange after, Step child vigil (.made exchange) after) ∨
      vigil.fate = .running ∧ ∀ signal ∈ Relay.signals, signal ∉ vigil.noted := by
  have accords := accords_of_run run
  rcases Process.Keeps.progress (waits_of_run run) with
    ⟨result, done, -⟩ | ⟨request, ⟨cares, -, waiting⟩, goesOn⟩
  · exact .inl ⟨result, done⟩
  cases request with
  | report event =>
      obtain ⟨after, step⟩ := goesOn ()
      exact .inr (.inl ⟨_, _, .make step trivial⟩)
  | send pid signal =>
      obtain ⟨after, step⟩ := goesOn (.ok ())
      exact .inr (.inl ⟨_, _, .make step trivial⟩)
  | select pid signals =>
      obtain ⟨tending, rfl⟩ := cares
      replace tending : dutyAfter child (talkIn trace) = .tending pid := tending
      rw [tending] at accords
      generalize same : vigil.fate = fate at accords
      cases accords with
      | ended _ cared status =>
          obtain rfl : pid = child := Option.some.inj cared
          obtain ⟨after, step⟩ := goesOn (.ended status)
          exact .inr (.inl ⟨_, _, .make step ⟨rfl, same⟩⟩)
      | running _ cared =>
          by_cases noted : ∃ signal ∈ Relay.signals, signal ∈ vigil.noted
          · obtain ⟨signal, passedOn, noted⟩ := noted
            obtain ⟨after, step⟩ := goesOn (.noted signal)
            exact .inr (.inl ⟨_, _, .make step ⟨passedOn, noted⟩⟩)
          · exact .inr (.inr ⟨rfl, fun signal passedOn isNoted =>
              noted ⟨signal, passedOn, isNoted⟩⟩)
  | _ => cases waiting

end Vigil

/-- What comes of waiting for a child in a trace that leads to `vigil`, where the signals
`pending` came before the waiting began. -/
structure Attends (child : Pid) (label : String) (pending : List Signal)
    (trace : List Incident) (vigil : Vigil (Except Failure UInt8)) : Prop where
  /-- There is no result before the child has ended and the process was told so. -/
  result_after_end : ∀ {result}, vigil.process = .done result →
    ∃ status, .ended status ∈ trace ∧ vigil.fate = .reaped status ∧
      result = concluded label status
  /-- The result is an exit code exactly if the child exited with it. -/
  ok_iff : ∀ {result code}, vigil.process = .done result →
    (result = .ok code ↔ .ended (.exited code) ∈ trace)
  /-- The result is a failure exactly if a signal ended the child, which it names. -/
  error_iff : ∀ {result failure}, vigil.process = .done result →
    (result = .error failure ↔
      ∃ signal, .ended (.killed signal) ∈ trace ∧ failure = .runtime label signal.number)
  /-- In every other course of events in which the child ends alike, the result is the same. -/
  same_result : ∀ {other otherPending otherTrace otherVigil status result otherResult},
    Run (Vigil.Step other) (.begin other label otherPending) otherTrace otherVigil →
      .ended status ∈ trace → .ended status ∈ otherTrace → vigil.process = .done result →
        otherVigil.process = .done otherResult → result = otherResult
  /-- Signals are sent to the child only, and not once it has been reaped. -/
  sent : ∀ {pid signal reply after},
    Vigil.Step child vigil (.made ⟨.send pid signal, reply⟩) after →
      pid = child ∧ ∀ status, vigil.fate ≠ .reaped status
  /-- There is at most one turn more than signals came, and none more before the last turn. -/
  turns_le : Vigil.turnsIn trace ≤
    pending.length + (Vigil.arrivalsIn trace).length + vigil.fate.reapings
  /-- The process makes a bounded number of calls in all. -/
  calls_le : (Vigil.talkIn trace).length ≤
    5 * (pending.length + (Vigil.arrivalsIn trace).length) + 3
  /-- Nothing but a child that is running, where no signal is noted, keeps the process from
  going on to its result. -/
  goesOn : (∃ result, vigil.process = .done result) ∨
    (∃ exchange after, Vigil.Step child vigil (.made exchange) after) ∨
      vigil.fate = .running ∧ ∀ signal ∈ Relay.signals, signal ∉ vigil.noted

namespace Vigil

variable {child : Pid} {label : String} {pending : List Signal} {trace : List Incident}
  {vigil : Vigil (Except Failure UInt8)} {status : ExitStatus}

/-- Where the waiting has come to a result, that is taken over from the end of the child. -/
theorem concluded_of_done (run : Run (Step child) (begin child label pending) trace vigil)
    {result : Except Failure UInt8} (done : vigil.process = .done result) :
    ∃ status, vigil.fate = .reaped status ∧ result = concluded label status := by
  have waits := waits_of_run run
  have accords := accords_of_run run
  rw [done] at waits
  obtain ⟨status, settled, rfl⟩ := waits
  replace settled : dutyAfter child (talkIn trace) = .settled child status := settled
  rw [settled] at accords
  generalize same : vigil.fate = fate at accords
  cases accords with
  | running _ cared => cases cared
  | ended _ cared _ => cases cared
  | reaped status => exact ⟨status, rfl, rfl⟩

/-- Where the waiting has come to a result, the child ended once, and the result is taken over
from that. -/
theorem result_of_ended (run : Run (Step child) (begin child label pending) trace vigil)
    {result : Except Failure UInt8} (done : vigil.process = .done result)
    (ended : .ended status ∈ trace) : result = concluded label status := by
  obtain ⟨reaped, isReaped, rfl⟩ := concluded_of_done run done
  rcases (ended_mem_iff rfl run).1 ended with same | same
  · cases isReaped.symm.trans same
  · cases isReaped.symm.trans same
    rfl

theorem unreaped_of_send (run : Run (Step child) (begin child label pending) trace vigil)
    {pid : Pid} {signal : Signal} {reply : Except Errno Unit}
    {process : Process (Except Failure UInt8)}
    (step : vigil.process.Step ⟨.send pid signal, reply⟩ process) :
    pid = child ∧ ∀ status, vigil.fate ≠ .reaped status := by
  obtain ⟨-, permitted, -⟩ := (waits_of_run run).step step
  have accords := accords_of_run run
  replace permitted : dutyAfter child (talkIn trace) = .serving pid signal := permitted
  rw [permitted] at accords
  generalize vigil.fate = fate at accords
  cases accords with
  | running _ cared => exact ⟨Option.some.inj cared, nofun⟩
  | ended _ cared status => exact ⟨Option.some.inj cared, nofun⟩

/-- What waiting for a child comes to depends on the end of the child only, whatever signals
come, whichever of the things that have happened the process is told first, and whether or not
the signals that it sends arrive. -/
theorem attends_of_run (run : Run (Step child) (begin child label pending) trace vigil) :
    Attends child label pending trace vigil := by
  have taken := takesIn_of_run run
  replace taken : takesIn trace + vigil.noted.length ≤
      (arrivalsIn trace).length + pending.length := taken
  constructor
  case result_after_end =>
    intro result done
    obtain ⟨status, reaped, concludes⟩ := concluded_of_done run done
    exact ⟨status, (ended_mem_iff rfl run).2 (.inr reaped), reaped, concludes⟩
  case ok_iff =>
    intro result code done
    refine ⟨fun isCode => ?_, fun ended => result_of_ended run done ended⟩
    obtain ⟨status, reaped, rfl⟩ := concluded_of_done run done
    cases status with
    | killed signal => cases isCode
    | exited other =>
        cases isCode
        exact (ended_mem_iff rfl run).2 (.inr reaped)
  case error_iff =>
    intro result failure done
    constructor
    · intro isFailure
      obtain ⟨status, reaped, rfl⟩ := concluded_of_done run done
      cases status with
      | exited code => cases isFailure
      | killed signal =>
          cases isFailure
          exact ⟨signal, (ended_mem_iff rfl run).2 (.inr reaped), rfl⟩
    · rintro ⟨signal, ended, rfl⟩
      exact result_of_ended run done ended
  case same_result =>
    intro other otherPending otherTrace otherVigil status result otherResult runToo ended
      endedToo done doneToo
    rw [result_of_ended run done ended, result_of_ended runToo doneToo endedToo]
  case sent =>
    intro pid signal reply after step
    cases step with
    | make step answers => exact unreaped_of_send run step
  case turns_le =>
    rw [turnsIn_of_run rfl run]
    omega
  case calls_le =>
    have calls := calls_of_run run
    omega
  case goesOn => exact goesOn_of_run run

/-- What happens around a process to which a termination comes that it cannot pass on any more,
and then a hangup while it is told that its child was killed. -/
def lateTrace : List Incident :=
  [.made ⟨.report (.waiting "a" 7), ()⟩, .arrived .terminate, .ended (.killed .kill),
    .made ⟨.select 7 Relay.signals, .noted .terminate⟩,
    .made ⟨.report (.relaying .terminate 7), ()⟩, .made ⟨.send 7 .terminate, .error .noProcess⟩,
    .made ⟨.report (.relayFailed .noProcess), ()⟩, .arrived .hangup,
    .made ⟨.select 7 Relay.signals, .ended (.killed .kill)⟩,
    .made ⟨.report (.killed "a" .kill), ()⟩]

/-- The failed send and the hangup that is not taken do not change the result. -/
theorem attends_lateTrace : ∃ vigil,
    Run (Step 7) (begin 7 "a" []) lateTrace vigil ∧
      vigil.process = .done (.error (.runtime "a" 9)) ∧ vigil.noted = [.hangup] ∧
      Attends 7 "a" [] lateTrace vigil := by
  have run : Run (Step 7) (begin 7 "a" []) lateTrace
      ⟨.done (.error (.runtime "a" 9)), [.hangup], .reaped (.killed .kill)⟩ := by
    refine .cons (.make (.call _ _ _) trivial) ?_
    refine .cons (.arrive (by decide)) ?_
    refine .cons (.depart _ rfl) ?_
    refine .cons (.make (.loop (.call _ _ _)) ⟨by decide, by decide⟩) ?_
    refine .cons (.make (.call _ _ _) trivial) ?_
    refine .cons (.make (.call _ _ _) trivial) ?_
    refine .cons (.make (.call _ _ _) trivial) ?_
    refine .cons (.arrive (by decide)) ?_
    refine .cons (.make (.loop (.call _ _ _)) ⟨rfl, rfl⟩) ?_
    exact .cons (.make (.call _ _ _) trivial) .start
  exact ⟨_, run, rfl, rfl, attends_of_run run⟩

end Vigil

end HostnameSandbox

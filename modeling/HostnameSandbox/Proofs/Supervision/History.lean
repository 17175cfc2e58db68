import HostnameSandbox.Proofs.Supervision.Duty

/-!
# The history of a supervisor

What the exchanges of a process that cares for a child tell about it: it creates at most one
child, which is the one that it cares for, and is told at most once how that has ended.
-/

namespace HostnameSandbox

def Deed.created? : Deed → Option Pid
  | .created _ child => some child
  | _ => none

def Deed.told? : Deed → Option (Pid × ExitStatus)
  | .told child status => some (child, status)
  | _ => none

namespace Duty

def created? : Duty → Option Pid
  | .tending child | .serving child _ | .settled child _ => some child
  | .free | .refused _ => none

def told? : Duty → Option (Pid × ExitStatus)
  | .settled child status => some (child, status)
  | .free | .refused _ | .tending _ | .serving _ _ => none

/-- The child of a duty is the one that was cared for, or the one that a deed creates. -/
theorem created?_after {duty : Duty} {deed : Deed} (permitted : duty.Permits deed) :
    (duty.after deed).created?.toList = duty.created?.toList ++ deed.created?.toList := by
  cases deed with
  | other => simp [Duty.after, Deed.created?]
  | _ =>
      cases permitted
      rfl

theorem told?_after {duty : Duty} {deed : Deed} (permitted : duty.Permits deed) :
    (duty.after deed).told?.toList = duty.told?.toList ++ deed.told?.toList := by
  cases deed with
  | other => simp [Duty.after, Deed.told?]
  | _ =>
      cases permitted
      rfl

end Duty

/-- The children that were created in some exchanges. -/
def createdIn (talk : List Exchange) : List Pid :=
  talk.filterMap fun exchange => exchange.deed.created?

/-- What was told in some exchanges about the ends of children. -/
def toldIn (talk : List Exchange) : List (Pid × ExitStatus) :=
  talk.filterMap fun exchange => exchange.deed.told?

@[simp]
theorem createdIn_append (first second : List Exchange) :
    createdIn (first ++ second) = createdIn first ++ createdIn second :=
  List.filterMap_append

@[simp]
theorem toldIn_append (first second : List Exchange) :
    toldIn (first ++ second) = toldIn first ++ toldIn second :=
  List.filterMap_append

/-- What a process has done in some exchanges since its start. -/
def Supervisor.of (talk : List Exchange) : Supervisor :=
  talk.foldl Supervisor.after .initial

@[simp]
theorem Supervisor.of_nil : Supervisor.of [] = .initial :=
  rfl

@[simp]
theorem Supervisor.of_concat (talk : List Exchange) (exchange : Exchange) :
    Supervisor.of (talk ++ [exchange]) = (Supervisor.of talk).after exchange := by
  simp [Supervisor.of]

/-- A process that has begun to create a child is not told the path of its program any more. -/
theorem Supervisor.own_after_of_begun {mayStart : Option Bytes → Spawning → Prop}
    {supervisor : Supervisor} {exchange : Exchange} (begun : supervisor.duty ≠ .free)
    (allowed : supervisor.allows mayStart exchange.request) :
    (supervisor.after exchange).own = supervisor.own := by
  obtain ⟨request, reply⟩ := exchange
  cases request with
  | ownPath => exact absurd allowed begun
  | _ => rfl

theorem Supervisor.mayStart_of_created {mayStart : Option Bytes → Spawning → Prop}
    {supervisor : Supervisor} {exchange : Exchange} {spawning : Spawning} {child : Pid}
    (allowed : supervisor.allows mayStart exchange.request)
    (created : exchange.deed = .created spawning child) :
    mayStart (supervisor.after exchange).own spawning := by
  obtain ⟨request, reply⟩ := exchange
  cases request with
  | spawn other =>
      cases reply with
      | ok number =>
          cases created
          exact allowed.2.2.2
      | error cause => cases created
  | select other signals => cases reply <;> cases created
  | send other signal => cases created
  | _ => cases created

/-- A process that cares for a child, after some exchanges since its start. -/
structure Supervised {α : Type} (mayStart : Option Bytes → Spawning → Prop)
    (ends : α → Supervisor → Prop) (process : Process α) (talk : List Exchange) : Prop where
  keeps : process.Keeps (supervision mayStart) ends (Supervisor.of talk)
  ready : (Supervisor.of talk).Ready
  /-- The child was created from what it may be created from. -/
  started : ∀ exchange ∈ talk, ∀ spawning child, exchange.deed = .created spawning child →
    mayStart (Supervisor.of talk).own spawning
  created : createdIn talk = (Supervisor.of talk).duty.created?.toList
  told : toldIn talk = (Supervisor.of talk).duty.told?.toList

namespace Supervised

variable {α : Type} {mayStart : Option Bytes → Spawning → Prop} {ends : α → Supervisor → Prop}
  {process after : Process α} {talk : List Exchange} {exchange : Exchange}

theorem start (keeps : process.Keeps (supervision mayStart) ends .initial) :
    Supervised mayStart ends process [] :=
  ⟨keeps, Supervisor.ready_initial, fun _ => nofun, rfl, rfl⟩

theorem allows (supervised : Supervised mayStart ends process talk)
    (step : process.Step exchange after) :
    (Supervisor.of talk).allows mayStart exchange.request :=
  (supervised.keeps.step step).1

theorem permits (supervised : Supervised mayStart ends process talk)
    (step : process.Step exchange after) : (Supervisor.of talk).duty.Permits exchange.deed :=
  Supervisor.permits_of_allows (supervised.allows step)

theorem next (supervised : Supervised mayStart ends process talk)
    (step : process.Step exchange after) :
    Supervised mayStart ends after (talk ++ [exchange]) where
  keeps := by
    rw [Supervisor.of_concat]
    exact (supervised.keeps.step step).2
  ready := by
    rw [Supervisor.of_concat]
    exact supervised.ready.after (supervised.allows step)
  started := by
    intro other made spawning child created
    rw [Supervisor.of_concat]
    rcases List.mem_append.1 made with before | now
    · have begun : (Supervisor.of talk).duty ≠ .free := by
        intro free
        have member : child ∈ createdIn talk :=
          List.mem_filterMap.2 ⟨other, before, by rw [created]; rfl⟩
        rw [supervised.created, free] at member
        cases member
      rw [Supervisor.own_after_of_begun begun (supervised.allows step)]
      exact supervised.started other before spawning child created
    · obtain rfl := List.mem_singleton.1 now
      exact Supervisor.mayStart_of_created (supervised.allows step) created
  created := by
    rw [Supervisor.of_concat, Supervisor.after, Duty.created?_after (supervised.permits step),
      createdIn_append, supervised.created]
    simp only [createdIn, List.filterMap_cons, List.filterMap_nil]
    cases exchange.deed.created? <;> rfl
  told := by
    rw [Supervisor.of_concat, Supervisor.after, Duty.told?_after (supervised.permits step),
      toldIn_append, supervised.told]
    simp only [toldIn, List.filterMap_cons, List.filterMap_nil]
    cases exchange.deed.told? <;> rfl

/-- A process that is to care for a child does so in every run. -/
theorem of_run (keeps : process.Keeps (supervision mayStart) ends .initial)
    (run : Run Process.Step process talk after) : Supervised mayStart ends after talk := by
  induction run with
  | start => exact .start keeps
  | next run step hypothesis => exact hypothesis.next step

end Supervised

end HostnameSandbox

import HostnameSandbox.Proofs.Supervision.Waiting

/-!
# Preparing a namespace

What the inner stage does that others could see, it does in one order: it reads the name of its
own namespace and that of its parent's, gives its namespace the host name, and creates the child
that runs its command.  Each of this happens only if everything before has succeeded, and the
last two only if the names that were read differ.
-/

namespace HostnameSandbox

/-- A call other than those by which a process tells what it does, learns which process it is,
prepares for signals, and waits for its child. -/
def Call.IsEffect : Call → Bool
  | .report _ | .ownPid | .parentPid | .react _ _ | .select _ _ | .send _ _ => false
  | _ => true

/-- A call of a stage that has failed. -/
def Exchange.Fails : Exchange → Prop
  | ⟨.write _ _, .error _⟩ | ⟨.ownPath, .error _⟩ | ⟨.namespaceOf _, .error _⟩
  | ⟨.setHostname _, .error _⟩ | ⟨.spawn _, .error _⟩ | ⟨.send _ _, .error _⟩ => True
  | _ => False

/-- The name that an inner stage gives its namespace, and what it creates its child from. -/
structure Plan where
  name : Bytes
  target : Spawning

def InnerStage.plan (stage : InnerStage) (command : Command) : Plan :=
  ⟨Bytes.ofString stage.hostname.text, stage.runner.spawning command⟩

namespace Plan

/-- The effects in their order, for a process and its parent. -/
def calls (plan : Plan) (own parent : Pid) : List Call :=
  [.namespaceOf own, .namespaceOf parent, .setHostname plan.name, .spawn plan.target]

/-- The effects that may have come about. -/
inductive Effects (plan : Plan) (own parent : Pid) : List Exchange → Prop
  | none : Effects plan own parent []
  | own (reply : Except Errno String) : Effects plan own parent [⟨.namespaceOf own, reply⟩]
  | parent (link : String) (reply : Except Errno String) :
      Effects plan own parent [⟨.namespaceOf own, .ok link⟩, ⟨.namespaceOf parent, reply⟩]
  | named {link other : String} (distinct : link ≠ other) (reply : Except Errno Unit) :
      Effects plan own parent
        [⟨.namespaceOf own, .ok link⟩, ⟨.namespaceOf parent, .ok other⟩,
          ⟨.setHostname plan.name, reply⟩]
  | created {link other : String} (distinct : link ≠ other) (reply : Except Cause Pid) :
      Effects plan own parent
        [⟨.namespaceOf own, .ok link⟩, ⟨.namespaceOf parent, .ok other⟩,
          ⟨.setHostname plan.name, .ok ()⟩, ⟨.spawn plan.target, reply⟩]

/-- Only the process's own link and its parent's are read. -/
theorem Effects.read_cases {plan : Plan} {own parent other : Pid} {effects : List Exchange}
    {reply : Except Errno String} (done : plan.Effects own parent effects)
    (read : ⟨.namespaceOf other, reply⟩ ∈ effects) :
    other = own ∧ 0 < effects.length ∨ other = parent ∧ 1 < effects.length := by
  -- what comes after the two links is no link
  have links {first second : Except Errno String} {rest : List Exchange}
      (unread : ⟨.namespaceOf other, reply⟩ ∉ rest)
      (read : ⟨.namespaceOf other, reply⟩ ∈
        ⟨.namespaceOf own, first⟩ :: ⟨.namespaceOf parent, second⟩ :: rest) :
      other = own ∨ other = parent := by
    rcases List.mem_cons.1 read with is | later
    · cases is
      exact .inl rfl
    · rcases List.mem_cons.1 later with is | later
      · cases is
        exact .inr rfl
      · exact absurd later unread
  cases done with
  | none => cases read
  | own first =>
      cases List.mem_singleton.1 read
      exact .inl ⟨rfl, by simp⟩
  | parent link second => simpa using links (by simp) read
  | named distinct third => simpa using links (by simp) read
  | created distinct last => simpa using links (by simp) read

end Plan

/-- How far a process has come in preparing its namespace: what it knows of itself, its effects,
and whether it has told about a failure. -/
structure Preparation where
  own : Option Pid
  parent : Option Pid
  effects : List Exchange
  told : Bool

namespace Preparation

def initial : Preparation := ⟨none, none, [], false⟩

/-- The process could not read the name of a namespace. -/
def Unreadable (preparation : Preparation) : Prop :=
  ∃ pid errno, ⟨.namespaceOf pid, .error errno⟩ ∈ preparation.effects

/-- The effect that is to come next. -/
def next? (plan : Plan) (preparation : Preparation) : Option Call :=
  match preparation.effects with
  | [] => preparation.own.map .namespaceOf
  | [⟨.namespaceOf _, .ok _⟩] => preparation.parent.map .namespaceOf
  | [⟨.namespaceOf _, .ok link⟩, ⟨.namespaceOf _, .ok other⟩] =>
      if link = other then none else some (.setHostname plan.name)
  | [_, _, ⟨.setHostname _, .ok _⟩] => some (.spawn plan.target)
  | _ => none

/-- Which calls a process may make that prepares its namespace.  Where it could not read a name,
it does nothing more but tell about that, and nothing at all after it has told; `speaks` says
whether it may keep a log and tell about failures. -/
def Allows (plan : Plan) (speaks : Bool) (preparation : Preparation) (request : Call) : Prop :=
  preparation.told = false ∧
    (preparation.Unreadable → ∃ descriptor bytes, request = .write descriptor bytes) ∧
    match request with
    | .report _ | .react _ _ => True
    | .ownPid => preparation.own = none
    | .parentPid => preparation.parent = none
    | .select _ _ | .send _ _ => preparation.effects.length = 4
    | .openLog _ | .write _ _ => speaks = true
    | request => preparation.next? plan = some request

def after (preparation : Preparation) : Exchange → Preparation
  | ⟨.ownPid, pid⟩ => { preparation with own := some pid }
  | ⟨.parentPid, pid⟩ => { preparation with parent := some pid }
  | ⟨.write _ _, _⟩ => { preparation with told := true }
  | ⟨.report _, _⟩ | ⟨.react _ _, _⟩ | ⟨.select _ _, _⟩ | ⟨.send _ _, _⟩ | ⟨.openLog _, _⟩ =>
      preparation
  | exchange => { preparation with effects := preparation.effects ++ [exchange] }

/-- The namespace has kept its name, and no child was asked for. -/
def Unnamed (preparation : Preparation) : Prop :=
  ∀ exchange ∈ preparation.effects,
    (∀ name, exchange ≠ ⟨.setHostname name, .ok ()⟩) ∧
      ∀ spawning reply, exchange ≠ ⟨.spawn spawning, reply⟩

end Preparation

/-- The contract of a process that prepares its namespace. -/
def preparation (plan : Plan) (speaks : Bool) : Contract Preparation where
  allows := Preparation.Allows plan speaks
  after := Preparation.after

/-- The effects have come about in their order, by what the process knows of itself. -/
def Preparation.Orderly (plan : Plan) (state : Preparation) : Prop :=
  ∃ own parent, plan.Effects own parent state.effects ∧
    (0 < state.effects.length → state.own = some own) ∧
    (1 < state.effects.length → state.parent = some parent)

theorem Preparation.orderly_initial (plan : Plan) : initial.Orderly plan :=
  ⟨0, 0, .none, fun begun => absurd begun (by decide), fun begun => absurd begun (by decide)⟩

/-- The effect that is to come next is the next one in the order. -/
theorem Preparation.Orderly.effect {plan : Plan} {state : Preparation} {exchange : Exchange}
    (orderly : state.Orderly plan) (next : state.next? plan = some exchange.request) :
    Orderly plan { state with effects := state.effects ++ [exchange] } := by
  obtain ⟨own, parent, effects, told⟩ := state
  obtain ⟨pid, parentPid, done, knowsOwn, knowsParent⟩ := orderly
  obtain ⟨request, reply⟩ := exchange
  cases done with
  | none =>
      obtain ⟨pid, rfl, rfl⟩ := Option.map_eq_some_iff.1 next
      exact ⟨pid, 0, .own reply, fun _ => rfl, fun more => absurd more (by simp)⟩
  | own first =>
      cases first with
      | error errno => cases next
      | ok link =>
          obtain ⟨parentPid, rfl, rfl⟩ := Option.map_eq_some_iff.1 next
          exact ⟨pid, parentPid, .parent link reply, fun _ => knowsOwn (by simp), fun _ => rfl⟩
  | parent link second =>
      cases second with
      | error errno => cases next
      | ok other =>
          simp only [next?] at next
          split at next
          · cases next
          · next distinct =>
              cases next
              exact ⟨pid, parentPid, .named distinct reply, fun _ => knowsOwn (by simp),
                fun _ => knowsParent (by simp)⟩
  | named distinct third =>
      cases third with
      | error errno => cases next
      | ok _ =>
          cases next
          exact ⟨pid, parentPid, .created distinct reply, fun _ => knowsOwn (by simp),
            fun _ => knowsParent (by simp)⟩
  | created distinct last => cases next

/-- Whatever a process does that prepares its namespace, its effects stay in order. -/
theorem Preparation.Orderly.after {plan : Plan} {speaks : Bool} {state : Preparation}
    {exchange : Exchange} (orderly : state.Orderly plan)
    (allowed : state.Allows plan speaks exchange.request) :
    (state.after exchange).Orderly plan := by
  obtain ⟨request, reply⟩ := exchange
  obtain ⟨-, -, allowed⟩ := allowed
  cases request with
  | ownPid =>
      obtain ⟨own, parent, done, knowsOwn, knowsParent⟩ := orderly
      refine ⟨own, parent, done, fun begun => ?_, knowsParent⟩
      rw [show state.own = none from allowed] at knowsOwn
      cases knowsOwn begun
  | parentPid =>
      obtain ⟨own, parent, done, knowsOwn, knowsParent⟩ := orderly
      refine ⟨own, parent, done, knowsOwn, fun begun => ?_⟩
      rw [show state.parent = none from allowed] at knowsParent
      cases knowsParent begun
  | report event => exact orderly
  | react signal reaction => exact orderly
  | select child signals => exact orderly
  | send child signal => exact orderly
  | openLog filter => exact orderly
  | write descriptor bytes => exact orderly
  | _ => exact orderly.effect allowed

section Stage

variable {plan : Plan} {speaks : Bool} {state : Preparation}

/-- The process may go on: it could read what it has read, and has not told about a failure. -/
structure Preparation.Able (state : Preparation) : Prop where
  readable : ¬ state.Unreadable
  silent : state.told = false

namespace Preparation.Able

theorem keeps_report {event : Event} {ends : Unit → Preparation → Prop} (able : state.Able)
    (came : ends () state) :
    (Process.report event).Keeps (preparation plan speaks) ends state :=
  Process.keeps_ask ⟨able.silent, fun unreadable => absurd unreadable able.readable, trivial⟩
    fun _ => came

theorem keeps_react {signal : Signal} {reaction : Reaction} {ends : Unit → Preparation → Prop}
    (able : state.Able) (came : ends () state) :
    (Process.react signal reaction).Keeps (preparation plan speaks) ends state :=
  ⟨⟨able.silent, fun unreadable => absurd unreadable able.readable, trivial⟩, fun _ => came⟩

theorem keeps_listen {ends : Unit → Preparation → Prop} (able : state.Able)
    (came : ends () state) :
    Relay.listen.Keeps (preparation plan speaks) ends state :=
  Process.keeps_bind (able.keeps_react (Process.keeps_bind (able.keeps_react came)))

/-- Once its child was asked for, a process may wait. -/
theorem rests (able : state.Able) (asked : state.effects.length = 4) :
    (preparation plan speaks).Rests state := by
  have readable (request : Call) (unreadable : state.Unreadable) :
      ∃ descriptor bytes, request = .write descriptor bytes := absurd unreadable able.readable
  intro request waiting
  cases request with
  | report event => exact ⟨⟨able.silent, readable _, trivial⟩, fun _ => rfl⟩
  | select child signals => exact ⟨⟨able.silent, readable _, asked⟩, fun _ => rfl⟩
  | send child signal => exact ⟨⟨able.silent, readable _, asked⟩, fun _ => rfl⟩
  | _ => cases waiting

end Preparation.Able

theorem Membership.prepares_ofPid {pid : Pid}
    {ends : Except Failure Membership → Preparation → Prop} (able : state.Able)
    (next : state.next? plan = some (.namespaceOf pid))
    (came : ∀ reply,
      ends (match reply with
        | .error errno => .error (.namespaceSetup (.unreadable pid (.numbered errno)))
        | .ok name => .ok ⟨pid, name⟩)
        { state with effects := state.effects ++ [⟨.namespaceOf pid, reply⟩] }) :
    (ofPid pid).run.Keeps (preparation plan speaks) ends state := by
  refine keeps_lift_bind (Process.keeps_ask
    ⟨able.silent, fun unreadable => absurd unreadable able.readable, next⟩ fun reply => ?_)
  cases reply with
  | error errno => exact came (.error errno)
  | ok name => exact came (.ok name)

theorem Preparation.able_of_effects {own parent : Option Pid} {effects : List Exchange}
    (read : ∀ exchange ∈ effects, ∀ pid errno, exchange ≠ ⟨.namespaceOf pid, .error errno⟩) :
    Preparation.Able ⟨own, parent, effects, false⟩ where
  readable := fun ⟨pid, errno, member⟩ => read _ member pid errno rfl
  silent := rfl

/-- The inner stage fails before it has named its namespace, or goes on in another one than its
parent's. -/
theorem prepares_ensureFreshNamespace {ends : Except Failure Unit → Preparation → Prop}
    (fails : ∀ fault state, state.told = false → state.Unnamed →
      ends (.error (.namespaceSetup fault)) state)
    (passes : ∀ own parent link other, link ≠ other →
      ends (.ok ()) ⟨some own, some parent,
        [⟨.namespaceOf own, .ok link⟩, ⟨.namespaceOf parent, .ok other⟩], false⟩) :
    ensureFreshNamespace.run.Keeps (preparation plan speaks) ends .initial := by
  have begun {own : Option Pid} : Preparation.Able ⟨own, none, [], false⟩ :=
    Preparation.able_of_effects (by simp)
  refine keeps_action_bind (keeps_lift_bind (Process.keeps_ask
    ⟨rfl, fun unreadable => absurd unreadable begun.readable, rfl⟩ fun own => ?_))
  refine Membership.prepares_ofPid begun rfl fun reply => ?_
  cases reply with
  | error errno =>
      exact fails _ ⟨some own, none, [⟨.namespaceOf own, .error errno⟩], false⟩ rfl
        (by simp [Preparation.Unnamed])
  | ok link =>
      have able {parent : Option Pid} :
          Preparation.Able ⟨some own, parent, [⟨.namespaceOf own, .ok link⟩], false⟩ :=
        Preparation.able_of_effects (by simp)
      refine keeps_action_bind (keeps_lift_bind (Process.keeps_ask
        ⟨rfl, fun unreadable => absurd unreadable able.readable, rfl⟩ fun parent => ?_))
      refine Membership.prepares_ofPid able rfl fun reply => ?_
      let state : Preparation := ⟨some own, some parent,
        [⟨.namespaceOf own, .ok link⟩, ⟨.namespaceOf parent, reply⟩], false⟩
      have unnamed : state.Unnamed := by simp [state, Preparation.Unnamed]
      cases reply with
      | error errno => exact fails _ state rfl unnamed
      | ok other =>
          have read : state.Able := Preparation.able_of_effects (by simp)
          dsimp only
          split
          · exact keeps_lift_bind (read.keeps_report (fails _ state rfl unnamed))
          · next shared =>
              have distinct : link ≠ other := by simpa [Membership.sharesWith] using shared
              exact keeps_action_lift (read.keeps_report (passes own parent link other distinct))

/-- The inner stage fails before it has named its namespace, or has done everything in order. -/
theorem InnerStage.prepares_run {stage : InnerStage} {command : Command}
    {ends : Except Failure UInt8 → Preparation → Prop}
    (fails : ∀ fault state, state.told = false → state.Unnamed →
      ends (.error (.namespaceSetup fault)) state)
    (comes : ∀ result state, state.Able → (∀ fault, result ≠ .error (.namespaceSetup fault)) →
      ends result state) :
    (stage.run command).run.Keeps (preparation (stage.plan command) speaks) ends .initial := by
  have begun : Preparation.initial.Able := Preparation.able_of_effects (by simp)
  refine keeps_lift_bind (begun.keeps_report ?_)
  refine keeps_action_bind
    (prepares_ensureFreshNamespace fails fun own parent link other distinct => ?_)
  have read : Preparation.Able ⟨some own, some parent,
      [⟨.namespaceOf own, .ok link⟩, ⟨.namespaceOf parent, .ok other⟩], false⟩ :=
    Preparation.able_of_effects (by simp)
  refine keeps_action_bind (keeps_lift_bind (read.keeps_report ?_))
  refine keeps_lift_bind (Process.keeps_ask
    ⟨rfl, fun unreadable => absurd unreadable read.readable, if_neg distinct⟩ fun named => ?_)
  have asked : Preparation.Able ⟨some own, some parent,
      [⟨.namespaceOf own, .ok link⟩, ⟨.namespaceOf parent, .ok other⟩,
        ⟨.setHostname (stage.plan command).name, named⟩], false⟩ :=
    Preparation.able_of_effects (by simp)
  cases named with
  | error errno =>
      exact keeps_lift_bind (asked.keeps_report (fails _ _ rfl (by simp [Preparation.Unnamed])))
  | ok _ =>
      refine keeps_lift_bind (asked.keeps_report ?_)
      refine keeps_lift_bind (asked.keeps_listen ?_)
      refine keeps_lift_bind (Process.keeps_ask
        ⟨rfl, fun unreadable => absurd unreadable asked.readable, rfl⟩ fun reply => ?_)
      have started : Preparation.Able ⟨some own, some parent,
          [⟨.namespaceOf own, .ok link⟩, ⟨.namespaceOf parent, .ok other⟩,
            ⟨.setHostname (stage.plan command).name, .ok ()⟩,
            ⟨.spawn (stage.plan command).target, reply⟩], false⟩ :=
        Preparation.able_of_effects (by simp)
      cases reply with
      | error cause => exact comes _ _ started nofun
      | ok child =>
          refine (started.rests rfl).keeps_awaitChild fun status => comes _ _ started ?_
          cases status <;> nofun

end Stage

end HostnameSandbox

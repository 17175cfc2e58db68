import HostnameSandbox.Proofs.Relaying.Forwarding
import HostnameSandbox.Proofs.Supervision.Outcome

/-!
# Families of processes

A process that runs the program, the children that it creates, and theirs.  The processes go on
in any order, signals are on their way for any time, and what is answered to a call is bound
only by what has become of the child that it is about.  A child that runs the program itself is
a stage again; of any other nothing is known but that it may end.
-/

namespace HostnameSandbox

/-- What a process of a family is. -/
inductive Role where
  /-- It runs the program itself, and was started so. -/
  | stage (start : Start) (listener : Listener UInt8)
  /-- It runs another program. -/
  | other

/-- A process of a family. -/
structure Member where
  parent : Option Pid
  role : Role
  /-- The signals that are on their way to the process. -/
  coming : List Signal
  ending : Option ExitStatus

namespace Member

def receive (member : Member) (signal : Signal) : Member :=
  { member with coming := member.coming.insert signal }

/-- A process at its birth, where `itself` tells which names start the program itself. -/
def born (itself : Bytes → Bool) (parent : Pid) (environment : Environment)
    (spawning : Spawning) : Member where
  parent := some parent
  role :=
    if itself spawning.path then
      let start : Start := ⟨spawning.path, spawning.args, environment⟩
      .stage start (.fresh (Sandbox.program start))
    else .other
  coming := []
  ending := none

end Member

/-- The processes of a family, by their numbers. -/
def Family := Pid → Option Member

/-- What happens in a family. -/
inductive Happening where
  /-- Somebody outside sends a signal to a stage. -/
  | sent (pid : Pid) (signal : Signal)
  /-- A signal comes to a stage that listens to it. -/
  | came (pid : Pid) (signal : Signal)
  /-- A stage makes a call and is answered. -/
  | made (pid : Pid) (exchange : Exchange)
  /-- A process ends: by itself, or by a signal that is passed on but not listened to yet. -/
  | ended (pid : Pid) (status : ExitStatus)
  /-- A stage is killed by some other signal. -/
  | struck (pid : Pid) (signal : Signal)

namespace Family

def start (root : Pid) (start : Start) : Family := fun pid =>
  if pid = root then some ⟨none, .stage start (.fresh (Sandbox.program start)), [], none⟩
  else none

def set (family : Family) (pid : Pid) (member : Member) : Family := fun other =>
  if other = pid then some member else family other

def post (family : Family) (pid : Pid) (signal : Signal) : Family :=
  match family pid with
  | some member => family.set pid (member.receive signal)
  | none => family

/-- What an exchange of a stage does to the other processes. -/
def affected (family : Family) (itself : Bytes → Bool) (pid : Pid) (environment : Environment) :
    Deed → Family
  | .created spawning child => family.set child (.born itself pid environment spawning)
  | .passed child signal => family.post child signal
  | _ => family

/-- A process is told where the program itself is found, a number for its child that no other
process has, and how a child of its own has ended. -/
def Answers (family : Family) (itself : Bytes → Bool) (pid : Pid) : Exchange → Prop
  | ⟨.ownPath, .ok path⟩ => itself path = true
  | ⟨.spawn _, .ok child⟩ => family child = none
  | ⟨.select child _, .ended status⟩ =>
      ∃ member, family child = some member ∧ member.parent = some pid ∧
        member.ending = some status
  | _ => True

/-- What may happen in a family. -/
inductive Step (itself : Bytes → Bool) : Family → Happening → Family → Prop
  | send {family : Family} {pid : Pid} {member : Member} {start : Start}
      {listener : Listener UInt8} {signal : Signal} (there : family pid = some member)
      (stage : member.role = .stage start listener) (running : member.ending = none)
      (relayed : signal ∈ Relay.signals) :
      Step itself family (.sent pid signal) (family.set pid (member.receive signal))
  | come {family : Family} {pid : Pid} {member : Member} {start : Start}
      {listener after : Listener UInt8} {signal : Signal} (there : family pid = some member)
      (stage : member.role = .stage start listener) (running : member.ending = none)
      (coming : signal ∈ member.coming) (step : listener.Step (.arrived signal) after) :
      Step itself family (.came pid signal)
        (family.set pid
          { member with
            role := .stage start after, coming := member.coming.filter (· != signal) })
  | die {family : Family} {pid : Pid} {member : Member} {start : Start}
      {listener : Listener UInt8} {signal : Signal} (there : family pid = some member)
      (stage : member.role = .stage start listener) (running : member.ending = none)
      (coming : signal ∈ member.coming) (deaf : signal ∉ listener.supervisor.listening) :
      Step itself family (.ended pid (.killed signal))
        (family.set pid { member with ending := some (.killed signal) })
  | make {family : Family} {pid : Pid} {member : Member} {start : Start}
      {listener after : Listener UInt8} {exchange : Exchange} (there : family pid = some member)
      (stage : member.role = .stage start listener) (running : member.ending = none)
      (step : listener.Step (.made exchange) after)
      (answers : family.Answers itself pid exchange) :
      Step itself family (.made pid exchange)
        ((family.set pid { member with role := .stage start after }).affected itself pid
          start.environment exchange.deed)
  | finish {family : Family} {pid : Pid} {member : Member} {start : Start}
      {listener : Listener UInt8} {code : UInt8} (there : family pid = some member)
      (stage : member.role = .stage start listener) (running : member.ending = none)
      (done : listener.process = .done code) :
      Step itself family (.ended pid (.exited code))
        (family.set pid { member with ending := some (.exited code) })
  | depart {family : Family} {pid : Pid} {member : Member} {status : ExitStatus}
      (there : family pid = some member) (other : member.role = .other)
      (running : member.ending = none) (possible : status.IsPossible) :
      Step itself family (.ended pid status)
        (family.set pid { member with ending := some status })
  | strike {family : Family} {pid : Pid} {member : Member} {start : Start}
      {listener : Listener UInt8} {signal : Signal} (there : family pid = some member)
      (stage : member.role = .stage start listener) (running : member.ending = none)
      (possible : signal.number ≤ Signal.greatest) :
      Step itself family (.struck pid signal)
        (family.set pid { member with ending := some (.killed signal) })

end Family

end HostnameSandbox

import HostnameSandbox.Errno

/-!
# Limits

A process may use only so much of some resources.  A limit holds for now or for good; the one for
now counts, and may be anything up to the one for good, which can only be lowered.
-/

namespace HostnameSandbox

/-- What a process may use only so much of. -/
inductive Resource where
  /-- Seconds of processor time. -/
  | time
  /-- The size of the files that are written. -/
  | fileSize
  | data
  | stack
  /-- The size of what is kept of a process that has crashed. -/
  | crash
  | resident
  | processes
  /-- The numbers of open files. -/
  | files
  | locked
  | memory
  | locks
  /-- Signals that wait. -/
  | signals
  | messages
  | niceness
  | priority
  /-- Microseconds that a process of high priority goes on without a pause. -/
  | stretch
deriving DecidableEq, Repr

/-- A limit for good and one for now; without an amount there is none. -/
structure Limit where
  hard : Option Nat
  soft : Option Nat
deriving DecidableEq, Repr

/-- The limits of a process. -/
abbrev Limits := List (Resource × Limit)

namespace Limit

/-- No limit. -/
def none : Limit := ⟨Option.none, Option.none⟩

/-- The same limit for good and for now. -/
def both (amount : Nat) : Limit := ⟨some amount, some amount⟩

/-- Whether one amount is no more than another; no amount stands for all there is. -/
def isWithin : Option Nat → Option Nat → Bool
  | _, Option.none => true
  | Option.none, some _ => false
  | some one, some other => decide (one ≤ other)

/-- The limit after a change to the one that is wanted. -/
def change (limit wanted : Limit) : Except Errno Limit :=
  if !isWithin wanted.soft wanted.hard then .error .invalidArgument
  else if !isWithin wanted.hard limit.hard then .error .notPermitted
  else .ok wanted

end Limit

namespace Limits

/-- The limit to a resource. -/
def find (limits : Limits) (resource : Resource) : Limit :=
  ((limits.find? fun entry => entry.1 = resource).map Prod.snd).getD Limit.none

/-- The limits with another one to a resource. -/
def set (limits : Limits) (resource : Resource) (limit : Limit) : Limits :=
  limits.map fun entry => if entry.1 = resource then (resource, limit) else entry

/-- How much may be used of a resource, if not all there is. -/
def allowed? (limits : Limits) (resource : Resource) : Option Nat := (limits.find resource).soft

end Limits

end HostnameSandbox

import HostnameSandbox.Event.Directive
import HostnameSandbox.Text.Lossy

/-!
# Log settings

A log setting is a comma-separated list of directives.  Of the directives that select an
event, the most precise one decides whether it shows.
-/

namespace HostnameSandbox

namespace Event

/-- Which events are logged. -/
structure Filter where
  directives : List Directive
deriving DecidableEq, Repr

namespace Filter

/-- The filter that shows every event up to a level of detail. -/
def upTo (detail : Nat) : Filter := ⟨[⟨none, false, none, detail⟩]⟩

/-- Reads a log setting, unless it is malformed.  An empty setting shows errors; one of commas alone
has no directives. -/
def parse? (setting : String) : Option Filter := do
  if setting.isEmpty then some (upTo 1)
  else
    let pieces := (setting.toList.splitOn ',').filter fun piece => !piece.isEmpty
    return ⟨← pieces.mapM Directive.read?⟩

/-- The level of detail up to which a filter shows events like this one: the most precise
directive decides, the last one of several alike; without any, nothing shows. -/
def detailFor (filter : Filter) (event : Event) : Nat :=
  let selecting := filter.directives.filter fun directive => directive.selects event
  let decisive := selecting.foldl
    (fun best directive =>
      match best with
      | none => some directive
      | some best => some (if best.yieldsTo directive then directive else best))
    none
  (decisive.map Directive.detail).getD 0

/-- Whether an event is logged. -/
def admits (filter : Filter) (event : Event) : Bool :=
  event.level.detail ≤ filter.detailFor event

/-- The filter in force without a setting: what happens, or with `verbose` also the details. -/
def standard (verbose : Bool) : Filter :=
  upTo (if verbose then 4 else 3)

/-- The filter that a setting asks for; one that cannot be read counts as absent. -/
def choose (setting : Option Bytes) (verbose : Bool) : Filter :=
  match setting.bind Bytes.exact? with
  | none => standard verbose
  | some text => (parse? text).getD (standard verbose)

end Filter

end Event

end HostnameSandbox

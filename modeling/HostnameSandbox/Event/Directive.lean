import HostnameSandbox.Event
import HostnameSandbox.Event.Pattern
import HostnameSandbox.Text.Alphanumeric
import HostnameSandbox.Text.Blank

/-!
# Directives of log settings

A directive says up to which level of detail some events show.  It is a level for everything,
a component with a level, or a component alone, of which everything shows.  Brackets after the
component narrow it to what happens in a span, by its name, and to what has a field, by its
name and perhaps its value:

    component[span{field=value}]=level

No event happens in a span here, and values are looked up in spans only, so that a directive
with a span or a value selects no event; it has to be well formed nevertheless.
-/

namespace HostnameSandbox

namespace Event

/-- The level of detail at which everything shows. -/
def everything : Nat := 5

/-- The level of detail that a word names: a level, in any case, or a number up to 5. -/
def detail? (word : String) : Option Nat :=
  let digits := match word.toList with
    | '+' :: digits => digits
    | digits => digits
  let number :=
    if digits.isEmpty then none
    else
      digits.foldl
        (fun value digit => value.bind fun value =>
          if digit.isDigit then some (10 * value + (digit.toNat - '0'.toNat)) else none)
        (some 0)
  match number with
  | some number => if number ≤ everything then some number else none
  | none =>
      match String.ofList (word.toList.map Char.toLower) with
      | "off" => some 0
      | "" | "error" => some 1
      | "warn" => some 2
      | "info" => some 3
      | "debug" => some 4
      | "trace" => some everything
      | _ => none

/-- A field that is asked for: its name, and whether a value is asked for too. -/
structure Condition where
  name : String
  hasValue : Bool
deriving DecidableEq, Repr

/-- Reads the condition between braces; a value has to be well formed. -/
def Condition.read? (chars : List Char) : Option Condition :=
  if chars.isEmpty then none
  else
    let name := chars.takeWhile (· != '=')
    match chars.drop name.length with
    | [] => some ⟨String.ofList name, false⟩
    | _ :: rest =>
        if Pattern.isWellFormed (rest.takeWhile (· != '=')) then
          some ⟨String.ofList name, true⟩
        else none

/-- What shows of some events. -/
structure Directive where
  /-- What the components of the events begin with. -/
  target : Option String
  /-- Whether the events have to happen in a span with a certain name. -/
  inSpan : Bool
  condition : Option Condition
  detail : Nat
deriving DecidableEq, Repr

namespace Directive

/-- The characters with their places, counted in bytes from `place` on. -/
def placed : Nat → List Char → List (Nat × Char)
  | _, [] => []
  | place, char :: rest => (place, char) :: placed (place + char.utf8Size) rest

/-- The characters that begin at a place from `start` on. -/
def onward (text : List Char) (start : Nat) : List Char :=
  ((placed 0 text).filter fun entry => start ≤ entry.1).map Prod.snd

/-- The characters that begin at a place from `start` on and before `stop`. -/
def between (text : List Char) (start stop : Nat) : List Char :=
  ((placed 0 text).filter fun entry => start ≤ entry.1 && entry.1 < stop).map Prod.snd

/-- Whether a directive may begin with this character, apart from a bracket. -/
def mayBegin (char : Char) : Bool :=
  char = '-' || char = ':' || char = '_' || Alphanumeric.isAlphanumeric char

/-- The part of a directive that a reader is in, with the place where it began. -/
inductive Part where
  | start
  | name (since : Nat)
  | span (since : Nat)
  | condition (since : Nat)
  | conditionEnd
  | spanEnd
  | level (since : Nat)
deriving DecidableEq, Repr

/-- A directive as far as it has been read. -/
structure Draft where
  part : Part
  target : Option String
  inSpan : Bool
  condition : Option Condition
deriving DecidableEq, Repr

namespace Draft

/-- Before the first character. -/
def empty : Draft := ⟨.start, none, false, none⟩

/-- Reads one character at a place.  The words between two places are cut out of `text`. -/
def read (text : List Char) (draft : Draft) (place : Nat) (char : Char) : Option Draft :=
  match draft.part, char with
  | .start, '[' => some { draft with part := .span (place + 1) }
  | .start, _ => if mayBegin char then some { draft with part := .name place } else none
  | .name since, '=' =>
      some { draft with
        part := .level (place + 1)
        target := some (String.ofList (between text since place)) }
  | .name since, '[' =>
      some { draft with
        part := .span (place + 1)
        target := some (String.ofList (between text since place)) }
  | .name _, _ => some draft
  | .span _, ']' => some { draft with part := .spanEnd, inSpan := true }
  | .span since, '\x7b' =>
      some { draft with
        part := .condition (place + 1)
        inSpan := !(between text since place).isEmpty }
  | .span _, _ => some draft
  | .condition since, '\x7d' =>
      (Condition.read? (between text since place)).map fun condition =>
        { draft with part := .conditionEnd, condition }
  | .condition _, _ => some draft
  | .conditionEnd, ']' => some { draft with part := .spanEnd }
  | .conditionEnd, _ => none
  | .spanEnd, '=' => some { draft with part := .level (place + 1) }
  | .spanEnd, _ => none
  | .level _, _ => some draft

/-- The directive with a level of detail. -/
def directive (draft : Draft) (detail : Nat) : Directive :=
  ⟨draft.target, draft.inSpan, draft.condition, detail⟩

/-- The directive when no character follows.  A word alone is a level if it can be one. -/
def finish (text : List Char) (draft : Draft) : Option Directive :=
  match draft.part with
  | .name since =>
      let word := String.ofList (onward text since)
      match detail? word with
      | some detail => some (draft.directive detail)
      | none => some { draft.directive everything with target := some word }
  | .level since =>
      let word := onward text since
      if word.isEmpty then some (draft.directive everything)
      else (detail? (String.ofList word)).map draft.directive
  | .spanEnd => some (draft.directive everything)
  | .start | .span _ | .condition _ | .conditionEnd => none

end Draft

/-- Reads a directive.  Its parts are told apart in the trimmed text, but the words are cut out
of the text as it stands, so that a blank in front spoils most of them. -/
def read? (text : List Char) : Option Directive := do
  let draft ← (placed 0 (Blank.trimmed text)).foldlM
    (fun draft (place, char) => draft.read text place char)
    Draft.empty
  draft.finish text

/-- Whether a directive selects an event: the component begins as it asks, and the event has
the field that it asks for. -/
def selects (directive : Directive) (event : Event) : Bool :=
  let hasTarget := match directive.target with
    | none => true
    | some target => target.toList.isPrefixOf event.target.toList
  let meetsCondition := match directive.condition with
    | none => true
    | some condition =>
        !condition.hasValue &&
          ("message" :: event.fields.map Field.name).contains condition.name
  !directive.inSpan && hasTarget && meetsCondition

/-- How precise a directive is: by its component, then by its condition. -/
def precision (directive : Directive) : Nat × String :=
  ((directive.target.map fun target => target.utf8ByteSize + 1).getD 0,
    (directive.condition.map Condition.name).getD "")

/-- Whether a directive yields to one that comes later in the setting. -/
def yieldsTo (directive later : Directive) : Bool :=
  let (size, field) := directive.precision
  let (laterSize, laterField) := later.precision
  size < laterSize || (size = laterSize && (field < laterField || field = laterField))

end Directive

end Event

end HostnameSandbox

/-!
# Regular expressions

The tree of a regular expression, as far as it decides whether a matcher can be built for it.
Matchers work on text byte by byte and know of no tables of characters: an expression that
needs one, or that could match half of a character, has no matcher.
-/

namespace HostnameSandbox

namespace Event

namespace Pattern

/-- A character that an expression names; `isByte` tells whether it does so by the number of a
byte. -/
structure Literal where
  char : Char
  isByte : Bool
deriving DecidableEq, Repr

/-- What may be written between brackets. -/
inductive Members where
  | none
  | char (literal : Literal)
  | range (first last : Literal)
  /-- A named class. -/
  | named (negated : Bool)
  /-- A class with a letter of its own: digits, blanks, or what words are made of. -/
  | shorthand (negated : Bool)
  /-- A class that is given by a property of characters. -/
  | property
  | union (items : List Members)
  | brackets (negated : Bool) (inside : Members)
  /-- What two others have in common, or where they differ. -/
  | operation (left right : Members)

/-- A change of the modes in which an expression is read. -/
structure ModeChange where
  ignoresCase : Option Bool
  unicode : Option Bool
  spaced : Option Bool
deriving DecidableEq, Repr

/-- The modes that decide what an expression matches. -/
structure Modes where
  ignoresCase : Bool
  /-- Whether the expression is about characters, and not about bytes. -/
  unicode : Bool
deriving DecidableEq, Repr

/-- The modes at the beginning of an expression. -/
def Modes.initial : Modes := ⟨false, true⟩

/-- The modes after a change. -/
def Modes.apply (modes : Modes) (change : ModeChange) : Modes :=
  ⟨change.ignoresCase.getD modes.ignoresCase, change.unicode.getD modes.unicode⟩

/-- A regular expression. -/
inductive Expression where
  | empty
  | switch (change : ModeChange)
  | char (literal : Literal)
  /-- Any character. -/
  | any
  /-- A place in the text; `atWord` tells whether it is where a word begins or ends. -/
  | place (atWord : Bool)
  | shorthand (negated : Bool)
  | property
  | brackets (negated : Bool) (inside : Members)
  | repeated (item : Expression)
  | group (change : Option ModeChange) (inside : Expression)
  | sequence (items : List Expression)
  | alternatives (branches : List Expression)

namespace Members

/-- The members given one by one. -/
def ofItems : List Members → Members
  | [] => .none
  | [item] => item
  | items => .union items

mutual

/-- How deep the members are nested. -/
def depth : Members → Nat
  | .none | .char _ | .range _ _ | .named _ | .shorthand _ | .property => 0
  | .union items => depthAll items + 1
  | .brackets _ inside => depth inside + 1
  | .operation left right => max (depth left) (depth right) + 1

/-- How deep the deepest of several members are nested. -/
def depthAll : List Members → Nat
  | [] => 0
  | item :: items => max (depth item) (depthAll items)

end

/-- Whether a character is one that a class can hold. -/
def holdsChar (modes : Modes) (literal : Literal) : Bool :=
  if modes.unicode then !modes.ignoresCase else decide (literal.char.toNat < 0x80)

mutual

/-- Whether a matcher can be built for the members. -/
def isMatchable (modes : Modes) : Members → Bool
  | .none => true
  | .char literal => holdsChar modes literal
  | .range first last => holdsChar modes first && holdsChar modes last
  | .named negated => if modes.unicode then !modes.ignoresCase else !negated
  | .shorthand negated => !modes.unicode && !negated
  | .property => false
  | .union items => areMatchable modes items
  | .brackets negated inside => isMatchable modes inside && (modes.unicode || !negated)
  | .operation left right => isMatchable modes left && isMatchable modes right

/-- Whether a matcher can be built for each of several members. -/
def areMatchable (modes : Modes) : List Members → Bool
  | [] => true
  | item :: items => isMatchable modes item && areMatchable modes items

end

end Members

namespace Expression

/-- The expression of items that follow each other. -/
def ofItems : List Expression → Expression
  | [] => .empty
  | [item] => item
  | items => .sequence items

/-- The expression of several branches. -/
def ofBranches : List Expression → Expression
  | [branch] => branch
  | branches => .alternatives branches

mutual

/-- How deep an expression is nested. -/
def depth : Expression → Nat
  | .empty | .switch _ | .char _ | .any | .place _ | .shorthand _ | .property => 0
  | .brackets _ inside => inside.depth + 1
  | .repeated item => depth item + 1
  | .group _ inside => depth inside + 1
  | .sequence items => depthAll items + 1
  | .alternatives branches => depthAll branches + 1

/-- How deep the deepest of several expressions is nested. -/
def depthAll : List Expression → Nat
  | [] => 0
  | item :: items => max (depth item) (depthAll items)

end

mutual

/-- The modes after an expression, if a matcher can be built for it.  A change lasts to the end
of its group. -/
def modesAfter? (modes : Modes) : Expression → Option Modes
  | .empty => some modes
  | .switch change => some (modes.apply change)
  | .char literal =>
      let isMatchable := if modes.unicode then !modes.ignoresCase
        else !literal.isByte || decide (literal.char.toNat < 0x80)
      if isMatchable then some modes else none
  | .any => if modes.unicode then some modes else none
  | .place atWord => if atWord && modes.unicode then none else some modes
  | .shorthand negated => if modes.unicode || negated then none else some modes
  | .property => none
  | .brackets negated inside =>
      if inside.isMatchable modes && (modes.unicode || !negated) then some modes else none
  | .repeated item => modesAfter? modes item
  | .group change inside =>
      let within := (change.map modes.apply).getD modes
      (modesAfter? within inside).map fun _ => modes
  | .sequence items => modesAfterAll? modes items
  | .alternatives branches => modesAfterAll? modes branches

/-- The modes after several expressions, if a matcher can be built for each. -/
def modesAfterAll? (modes : Modes) : List Expression → Option Modes
  | [] => some modes
  | item :: items =>
      match modesAfter? modes item with
      | some modes => modesAfterAll? modes items
      | none => none

end

/-- How deep an expression may be nested. -/
def depthLimit : Nat := 250

/-- Whether a matcher can be built for an expression. -/
def isMatchable (expression : Expression) : Bool :=
  expression.depth ≤ depthLimit && (modesAfter? Modes.initial expression).isSome

end Expression

end Pattern

end Event

end HostnameSandbox

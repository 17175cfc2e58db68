import HostnameSandbox.Event.Pattern.Expression
import HostnameSandbox.Text.Alphanumeric
import HostnameSandbox.Text.Blank

/-!
# Reading regular expressions

An expression is read from left to right.  In the spaced mode, which a change of modes turns on,
blanks and comments between its parts mean nothing.  What stands in braces is not known here: the
value of a field ends at the first closing brace, so that no brace is ever closed in one.
-/

namespace HostnameSandbox

namespace Event

namespace Pattern

/-- How far an expression has been read. -/
structure Reader where
  rest : List Char
  /-- Whether blanks and comments mean nothing. -/
  spaced : Bool
  /-- The names of the groups so far. -/
  names : List (List Char)

/-- What is read may be malformed. -/
abbrev Reading := StateT Reader Option

namespace Reader

/-- What follows blanks and comments; `inComment` tells whether a comment is open. -/
def afterBlanks : Bool → List Char → List Char
  | _, [] => []
  | true, char :: rest => afterBlanks (char != '\n') rest
  | false, char :: rest =>
      if Blank.isBlank char then afterBlanks false rest
      else if char = '#' then afterBlanks true rest
      else char :: rest

/-- The next character. -/
def peek? : Reading (Option Char) := do
  return (← get).rest.head?

/-- The character after the next one. -/
def second? : Reading (Option Char) := do
  return (← get).rest[1]?

/-- What a look past blanks finds after them; a comment ends such a look at its first word. -/
def pastBlanks : Bool → List Char → Option Char
  | _, [] => none
  | inComment, char :: rest =>
      if Blank.isBlank char then pastBlanks inComment rest
      else if !inComment && char = '#' then pastBlanks true rest
      else some char

/-- The character after the next one, where blanks may stand in front of it. -/
def secondPastBlanks? : Reading (Option Char) := do
  let reader ← get
  if reader.spaced then
    return (pastBlanks false reader.rest.tail).or reader.rest.tail.head?
  else second?

/-- Passes over so many characters. -/
def skip (count : Nat) : Reading Unit :=
  modify fun reader => { reader with rest := reader.rest.drop count }

/-- Passes over blanks and comments, if they mean nothing. -/
def skipBlanks : Reading Unit :=
  modify fun reader =>
    if reader.spaced then { reader with rest := afterBlanks false reader.rest } else reader

/-- Passes over a character and what follows it that means nothing; something has to be left. -/
def advance : Reading Unit := do
  skip 1
  skipBlanks
  if (← get).rest.isEmpty then failure

/-- Passes over a word, if it is what comes next. -/
def passOver (word : String) : Reading Bool := do
  if word.toList.isPrefixOf (← get).rest then
    skip word.length
    return true
  else return false

/-! ### Escapes -/

/-- What an escape stands for. -/
inductive Escaped where
  | char (literal : Literal)
  | place (atWord : Bool)
  | shorthand (negated : Bool)
  | property

/-- The value of a hexadecimal digit. -/
def hexDigit? (char : Char) : Option Nat :=
  if char.isDigit then some (char.toNat - '0'.toNat)
  else if 'a' ≤ char && char ≤ 'f' then some (char.toNat - 'a'.toNat + 10)
  else if 'A' ≤ char && char ≤ 'F' then some (char.toNat - 'A'.toNat + 10)
  else none

/-- Reads so many hexadecimal digits after the one whose number is given. -/
def hexDigits : Nat → Nat → Reading Nat
  | 0, number => do
      skip 1
      skipBlanks
      return number
  | count + 1, number => do
      advance
      match (← peek?).bind hexDigit? with
      | some digit => hexDigits count (16 * number + digit)
      | none => failure

/-- Reads the character with a number of so many hexadecimal digits. -/
def numbered (digits : Nat) (isByte : Bool) : Reading Escaped := do
  let number ← hexDigits digits 0
  if number.isValidChar then return .char ⟨Char.ofNat number, isByte⟩ else failure

/-- The signs with a meaning of their own. -/
def signs : List Char :=
  ['\\', '.', '+', '*', '?', '(', ')', '|', '[', ']', '\x7b', '\x7d', '^', '$', '#', '&', '-', '~']

/-- Whether a backslash may stand in front of a character that means no more with it. -/
def mayBeEscaped (char : Char) : Bool :=
  signs.contains char ||
    (decide (char.toNat < 0x80) && !char.isAlphanum && char != '<' && char != '>')

/-- The character that an escaped letter stands for. -/
def letterChar : Char → Char
  | 'a' => '\x07'
  | 'f' => '\x0c'
  | 'n' => '\n'
  | 'r' => '\r'
  | 't' => '\t'
  | 'v' => '\x0b'
  | char => char

/-- Reads an escape from its backslash on. -/
def escape : Reading Escaped := do
  skip 1
  match ← peek? with
  | none => failure
  | some char =>
      if char = 'x' then numbered 2 true
      else if char = 'u' then numbered 4 false
      else if char = 'U' then numbered 8 false
      else if char = 'p' || char = 'P' then
        advance
        let letter ← peek?
        if letter = some '\\' || letter = some '\x7b' then failure
        skip 1
        skipBlanks
        return .property
      else
        skip 1
        if ['d', 's', 'w'].contains char then return .shorthand false
        else if ['D', 'S', 'W'].contains char then return .shorthand true
        else if mayBeEscaped char || ['a', 'f', 'n', 'r', 't', 'v'].contains char then
          return .char ⟨letterChar char, false⟩
        else if char = 'A' || char = 'z' then return .place false
        else if ['b', 'B', '<', '>'].contains char then return .place true
        else failure

/-! ### Brackets -/

/-- The classes with a name. -/
def classNames : List String :=
  ["alnum", "alpha", "ascii", "blank", "cntrl", "digit", "graph", "lower", "print", "punct",
    "space", "upper", "word", "xdigit"]

/-- Reads a named class from its opening bracket on, if it is one. -/
def namedClass? : Reading (Option Members) := do
  match (← get).rest with
  | '[' :: ':' :: rest =>
      let negated := rest.head? = some '^'
      let rest := if negated then rest.tail else rest
      let name := rest.takeWhile (· != ':')
      let after := rest.drop name.length
      if classNames.contains (String.ofList name) && [':', ']'].isPrefixOf after then
        modify fun reader => { reader with rest := after.drop 2 }
        return some (.named negated)
      else return none
  | _ => return none

/-- Reads one thing between brackets: an escape, or a character that stands for itself. -/
def bracketItem : Reading Escaped := do
  match ← peek? with
  | none => failure
  | some '\\' => escape
  | some char =>
      skip 1
      return .char ⟨char, false⟩

/-- Reads a member, or a range, which has to ascend. -/
def bracketRange : Reading Members := do
  let first ← bracketItem
  skipBlanks
  let next ← peek?
  if next.isNone then failure
  let after ← secondPastBlanks?
  if next != some '-' || after = some ']' || after = some '-' then
    match first with
    | .char literal => return .char literal
    | .shorthand negated => return .shorthand negated
    | .property => return .property
    | .place _ => failure
  else
    advance
    match first, ← bracketItem with
    | .char first, .char last =>
        if first.char ≤ last.char then return .range first last else failure
    | _, _ => failure

/-- Reads hyphens that stand for themselves. -/
def hyphens : Nat → List Members → Reading (List Members)
  | 0, _ => failure
  | steps + 1, items => do
      if (← peek?) = some '-' then
        advance
        hyphens steps (items ++ [.char ⟨'-', false⟩])
      else return items

/-- Reads the beginning of a class: its bracket, a sign of negation, then hyphens, or else a
closing bracket, that stand for themselves. -/
def openBrackets : Reading (Bool × List Members) := do
  advance
  let negated := (← peek?) = some '^'
  if negated then advance
  let items ← hyphens ((← get).rest.length + 1) []
  if items.isEmpty && (← peek?) = some ']' then
    advance
    return (negated, [.char ⟨']', false⟩])
  else return (negated, items)

/-- What an operation and the members after it make. -/
def operated (left : Option Members) (items : List Members) : Members :=
  match left with
  | none => .ofItems items.reverse
  | some left => .operation left (.ofItems items.reverse)

mutual

/-- Reads a class from its opening bracket on, within so many steps. -/
def brackets : Nat → Reading (Bool × Members)
  | 0 => failure
  | steps + 1 => do
      let (negated, items) ← openBrackets
      let inside ← bracketsRest steps none items.reverse
      return (negated, inside)

/-- Reads a class to its end: `left` is what stands in front of the last operation, and `items`
are the members since then, the latest first. -/
def bracketsRest : Nat → Option Members → List Members → Reading Members
  | 0, _, _ => failure
  | steps + 1, left, items => do
      skipBlanks
      let next ← peek?
      let second ← second?
      match next with
      | none => failure
      | some ']' =>
          skip 1
          return operated left items
      | some '[' =>
          match ← namedClass? with
          | some named => bracketsRest steps left (named :: items)
          | none =>
              let (negated, inside) ← brackets steps
              bracketsRest steps left (.brackets negated inside :: items)
      | some char =>
          if ['&', '-', '~'].contains char && second = some char then
            skip 2
            bracketsRest steps (some (operated left items)) []
          else
            let item ← bracketRange
            bracketsRest steps left (item :: items)

end

/-! ### Groups -/

/-- The modes with a letter. -/
def modeLetters : List Char := ['i', 'm', 's', 'U', 'u', 'R', 'x']

/-- Whether modes are known, each given once, with at most one sign that turns off, after which
one follows. -/
def areModes (letters : List Char) : Bool :=
  letters.all (fun letter => letter = '-' || modeLetters.contains letter) &&
    letters.eraseDups.length = letters.length && letters.getLast? != some '-'

/-- The change that letters ask for: those after the sign are turned off. -/
def changeOf (letters : List Char) : ModeChange :=
  let on := letters.takeWhile (· != '-')
  let asked (letter : Char) : Option Bool :=
    if letters.contains letter then some (on.contains letter) else none
  ⟨asked 'i', asked 'u', asked 'x'⟩

/-- Whether a group may have this name. -/
def isGroupName : List Char → Bool
  | [] => false
  | first :: rest =>
      (first = '_' || Alphanumeric.isLetter first) &&
        rest.all fun char =>
          ['_', '.', '[', ']'].contains char || Alphanumeric.isAlphanumeric char

/-- Reads the name of a group, which no other group may have. -/
def groupName : Reading Unit := do
  let reader ← get
  let name := reader.rest.takeWhile (· != '>')
  if isGroupName name && !reader.names.contains name && name.length < reader.rest.length then
    set { reader with rest := reader.rest.drop (name.length + 1), names := name :: reader.names }
  else failure

/-- What an opening parenthesis begins. -/
inductive Opened where
  | change (change : ModeChange)
  | group (change : Option ModeChange)

/-- Reads the beginning of a group, or a change of modes, from the parenthesis on. -/
def openGroup : Reading Opened := do
  skip 1
  skipBlanks
  for sign in ["?=", "?!", "?<=", "?<!"] do
    if ← passOver sign then failure
  if (← passOver "?P<") || (← passOver "?<") then
    groupName
    return .group none
  else if ← passOver "?" then
    let letters := (← get).rest.takeWhile fun char => char != ':' && char != ')'
    if !areModes letters then failure
    skip letters.length
    let ending ← peek?
    skip 1
    match ending with
    | none => failure
    | some ':' => return .group (some (changeOf letters))
    | some _ => if letters.isEmpty then failure else return .change (changeOf letters)
  else return .group none

/-! ### Expressions -/

/-- Reads one part of an expression that is neither a group nor a class nor a repetition. -/
def part : Reading Expression := do
  match ← peek? with
  | none => failure
  | some '\\' =>
      match ← escape with
      | .char literal => return .char literal
      | .place atWord => return .place atWord
      | .shorthand negated => return .shorthand negated
      | .property => return .property
  | some char =>
      skip 1
      match char with
      | '.' => return .any
      | '^' | '$' => return .place false
      | char => return .char ⟨char, false⟩

/-- Repeats the latest part, unless there is nothing to repeat. -/
def repeatLatest : List Expression → Reading (List Expression)
  | [] | .switch _ :: _ => failure
  | latest :: items => do
      skip 1
      if (← peek?) = some '?' then skip 1
      return .repeated latest :: items

/-- Chooses whether blanks and comments mean nothing. -/
def setSpaced (spaced : Bool) : Reading Unit :=
  modify fun reader => { reader with spaced }

mutual

/-- Reads branches to the end of a group or of the expression, within so many steps; the latest
of the earlier ones comes first. -/
def branches : Nat → List Expression → Reading Expression
  | 0, _ => failure
  | steps + 1, earlier => do
      let items ← branch steps []
      let all := Expression.ofItems items.reverse :: earlier
      if (← peek?) = some '|' then
        skip 1
        branches steps all
      else return .ofBranches all.reverse

/-- Reads a branch to its end; the latest of its parts comes first. -/
def branch : Nat → List Expression → Reading (List Expression)
  | 0, _ => failure
  | steps + 1, items => do
      skipBlanks
      match ← peek? with
      | none | some '|' | some ')' => return items
      | some '\x7b' => failure
      | some '*' | some '+' | some '?' => do
          let items ← repeatLatest items
          branch steps items
      | some '[' =>
          let (negated, inside) ← brackets steps
          branch steps (.brackets negated inside :: items)
      | some '(' =>
          let spaced := (← get).spaced
          match ← openGroup with
          | .change change =>
              setSpaced (change.spaced.getD spaced)
              branch steps (.switch change :: items)
          | .group change =>
              setSpaced ((change.bind ModeChange.spaced).getD spaced)
              let inside ← branches steps []
              if (← peek?) != some ')' then failure
              setSpaced spaced
              skip 1
              branch steps (.group change inside :: items)
      | some _ =>
          let item ← part
          branch steps (item :: items)

end

end Reader

/-- Reads a regular expression. -/
def Expression.read? (chars : List Char) : Option Expression :=
  match (Reader.branches (4 * chars.length + 4) []).run ⟨chars, false, []⟩ with
  | some (expression, reader) => if reader.rest.isEmpty then some expression else none
  | none => none

end Pattern

end Event

end HostnameSandbox

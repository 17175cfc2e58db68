import HostnameSandbox.Host.FileTree
import HostnameSandbox.Host.Shell.Pattern
import HostnameSandbox.Host.Shell.State

/-!
# Names that patterns stand for

A pattern of paths is replaced by the paths that it matches, in order.  Every part of a path between
slashes is matched for itself, and a dot at the beginning of a name only by a dot.
-/

namespace HostnameSandbox

namespace Shell

namespace Globbing

/-- The bytes of a pattern. -/
def bytes (pattern : Pattern) : Bytes := pattern.map Sign.byte

/-- Whether a sign is a slash. -/
def isSlash (sign : Sign) : Bool := sign.byte = FileTree.slash

/-- Whether brackets end before the next slash. -/
def closes : Pattern → Bool
  | sign :: next :: rest =>
      !isSlash sign && (Pattern.Sign.isSpecial next 0x5D || closes (next :: rest))
  | _ => false

/-- Whether a pattern begins with a sign that may stand for several bytes. -/
def beginsOpen : Pattern → Bool
  | [] => false
  | sign :: rest =>
      let negates := rest.head?.any fun next => Pattern.Sign.isSpecial next 0x21
      Pattern.Sign.isSpecial sign 0x2A || Pattern.Sign.isSpecial sign 0x3F ||
        (Pattern.Sign.isSpecial sign 0x5B && closes (if negates then rest.tail else rest))

/-- Whether a part of a pattern stands for more than itself; `following` is the pattern from there
on. -/
def isOpen : Pattern → Bool
  | [] => false
  | sign :: rest => if isSlash sign then false else beginsOpen (sign :: rest) || isOpen rest

/-- A pattern of a path, taken apart at the first part that stands for more than itself. -/
structure Parted where
  before : Pattern
  part : Pattern
  after : Option Pattern

/-- Takes a pattern apart, within so many parts, if a part of it stands for more than itself. -/
def part? : Nat → Pattern → Pattern → Option Parted
  | 0, _, _ => none
  | count + 1, before, pattern =>
      let part := pattern.takeWhile fun sign => !isSlash sign
      let rest := pattern.drop part.length
      if isOpen pattern then some ⟨before, part, if rest.isEmpty then none else some rest.tail⟩
      else
        match rest with
        | [] => none
        | slash :: rest => part? count (before ++ part ++ [slash]) rest

/-- The paths that a pattern matches below a directory, within so many parts. -/
def expandWithin : Nat → Bytes → Pattern → Doing (List Bytes)
  | 0, _, _ => return []
  | count + 1, directory, pattern => do
      match part? (pattern.length + 1) [] pattern with
      | none =>
          if directory.isEmpty then return []
          else
            let path := directory ++ bytes pattern
            match (← Doing.ask (.examine path false) : Except Errno FileFacts) with
            | .ok _ => return [path]
            | .error _ => return []
      | some ⟨before, part, after⟩ =>
          let directory := directory ++ bytes before
          let listed := if directory.isEmpty then FileTree.here else directory
          match (← Doing.ask (.list listed) : Except Errno (List Bytes)) with
          | .error _ => return []
          | .ok names =>
              let hidden := part.head?.any fun sign => sign.byte = 0x2E
              let found := names.filter fun name =>
                (hidden || name.head? ≠ some 0x2E) && Pattern.matchesText part name
              match after with
              | none => return found.map (directory ++ ·)
              | some after =>
                  let below ← found.mapM fun name =>
                    expandWithin count (directory ++ name ++ [FileTree.slash]) after
                  return below.flatten

/-- The paths that a pattern matches, in order. -/
def expand (pattern : Pattern) : Doing (List Bytes) := do
  if isOpen pattern || pattern.any isSlash then
    let found ← expandWithin (pattern.length + 1) [] pattern
    return found.mergeSort fun one other => decide (one ≤ other)
  else return []

end Globbing

end Shell

end HostnameSandbox

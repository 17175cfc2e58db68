import HostnameSandbox.Host.Shell.Code

/-!
# Patterns of names

A pattern is matched against a text as a whole.  An asterisk stands for any bytes, a question mark
for one, and brackets for one of those that they list; a byte that is literal stands for itself.
-/

namespace HostnameSandbox

namespace Shell

/-- A byte of a pattern, and whether it stands for itself. -/
structure Sign where
  byte : UInt8
  literal : Bool
deriving DecidableEq, Repr

/-- A pattern. -/
abbrev Pattern := List Sign

namespace Pattern

/-- Whether a sign is this byte with its special meaning. -/
def Sign.isSpecial (sign : Sign) (byte : UInt8) : Bool := !sign.literal && sign.byte = byte

/-- The number that a byte is when its highest bit counts as a sign. -/
def signedValue (byte : UInt8) : Int := if byte < 0x80 then byte.toNat else byte.toNat - 256

/-- Whether a byte is a letter. -/
def isLower (byte : UInt8) : Bool := 0x61 ≤ byte && byte ≤ 0x7A

/-- Whether a byte is a capital letter. -/
def isUpper (byte : UInt8) : Bool := 0x41 ≤ byte && byte ≤ 0x5A

/-- Whether a byte leaves a mark on paper. -/
def isGraphic (byte : UInt8) : Bool := 0x21 ≤ byte && byte ≤ 0x7E

/-- Whether a byte is a letter or a digit. -/
def isAlphanumeric (byte : UInt8) : Bool := isLower byte || isUpper byte || isDigit byte

/-- The classes of bytes that can be named between brackets. -/
def classes : List (String × (UInt8 → Bool)) :=
  [("alnum", isAlphanumeric), ("alpha", fun byte => isLower byte || isUpper byte),
    ("blank", fun byte => byte = 0x20 || byte = 0x09),
    ("cntrl", fun byte => byte < 0x20 || byte = 0x7F), ("digit", isDigit), ("graph", isGraphic),
    ("lower", isLower), ("print", fun byte => isGraphic byte || byte = 0x20),
    ("punct", fun byte => isGraphic byte && !isAlphanumeric byte),
    ("space", fun byte => byte = 0x20 || (0x09 ≤ byte && byte ≤ 0x0D)), ("upper", isUpper),
    ("xdigit", fun byte => isDigit byte || (0x41 ≤ byte && byte ≤ 0x46) ||
      (0x61 ≤ byte && byte ≤ 0x66))]

/-- The pattern in which every byte has its special meaning. -/
def ofBytes (bytes : Bytes) : Pattern := bytes.map fun byte => ⟨byte, false⟩

/-- The class that is named where a bracket has been opened inside others, and what follows it. -/
def class? (pattern : Pattern) : Option ((UInt8 → Bool) × Pattern) :=
  classes.findSome? fun (name, test) =>
    let written := ofBytes (Bytes.ofString (":" ++ name ++ ":]"))
    if written.isPrefixOf pattern then some (test, pattern.drop written.length) else none

/-- Whether the brackets that a pattern goes on with list a byte, and what follows them; `isFirst`
tells that nothing in them has been read, and `found` that the byte was listed before. -/
def listsWithin (byte : UInt8) : Nat → Bool → Bool → Pattern → Option (Bool × Pattern)
  | 0, _, _, _ | _, _, _, [] => none
  | count + 1, isFirst, found, sign :: rest =>
      if Sign.isSpecial sign 0x5D && !isFirst then some (found, rest)
      else
        match (if Sign.isSpecial sign 0x5B then class? rest else none) with
        | some (test, rest) => listsWithin byte count false (found || test byte) rest
        | none =>
            match rest with
            | hyphen :: last :: after =>
                if Sign.isSpecial hyphen 0x2D && !Sign.isSpecial last 0x5D then
                  let isInside := decide (signedValue sign.byte ≤ signedValue byte) &&
                    decide (signedValue byte ≤ signedValue last.byte)
                  listsWithin byte count false (found || isInside) after
                else listsWithin byte count false (found || sign.byte = byte) rest
            | _ => listsWithin byte count false (found || sign.byte = byte) rest

/-- Whether the brackets that a pattern goes on with admit a byte, and what follows them.  Brackets
that do not end are none. -/
def admits? (byte : UInt8) (pattern : Pattern) : Option (Bool × Pattern) :=
  let negates := pattern.head?.any fun sign => Sign.isSpecial sign 0x21
  let listed := if negates then pattern.tail else pattern
  (listsWithin byte listed.length true false listed).map fun (found, rest) =>
    (found != negates, rest)

/-- A pattern, and what is left of it when asterisks that it begins with are taken away. -/
def withSkips : Pattern → List Pattern
  | [] => [[]]
  | sign :: rest =>
      (sign :: rest) :: if Sign.isSpecial sign 0x2A then withSkips rest else []

/-- What has to match behind a byte with which a match of the pattern begins. -/
def behind? (byte : UInt8) : Pattern → Option Pattern
  | [] => none
  | sign :: rest =>
      if Sign.isSpecial sign 0x2A then some (sign :: rest)
      else if Sign.isSpecial sign 0x3F then some rest
      else
        match (if Sign.isSpecial sign 0x5B then admits? byte rest else none) with
        | some (admitted, rest) => if admitted then some rest else none
        | none => if byte = sign.byte then some rest else none

/-- What may have to match behind one byte more.  All patterns are ends of the same one, so that two
of one length are the same. -/
def advance (patterns : List Pattern) (byte : UInt8) : List Pattern :=
  ((patterns.filterMap (behind? byte)).flatMap withSkips).eraseDupsBy
    fun one other => one.length = other.length

/-- Whether one of the ends of a pattern matches a text. -/
def matchesFrom : List Pattern → Bytes → Bool
  | [], _ => false
  | patterns, [] => patterns.any List.isEmpty
  | patterns, byte :: text => matchesFrom (advance patterns byte) text

/-- Whether a pattern matches a text. -/
def matchesText (pattern : Pattern) (text : Bytes) : Bool := matchesFrom (withSkips pattern) text

/-- The places in a text up to which one of the ends of a pattern matches it, the text beginning at
`place`. -/
def placesFrom (place : Nat) : List Pattern → Bytes → List Nat
  | [], _ => []
  | patterns, text =>
      let rest := match text with
        | [] => []
        | byte :: text => placesFrom (place + 1) (advance patterns byte) text
      if patterns.any List.isEmpty then place :: rest else rest

/-- The places in a text up to which a pattern matches it. -/
def places (pattern : Pattern) (text : Bytes) : List Nat := placesFrom 0 (withSkips pattern) text

end Pattern

end Shell

end HostnameSandbox

import HostnameSandbox.Text.Bytes

/-!
# Quoting in messages

Words that come from a user are quoted where a program tells about them: always, in single quotes
with escapes, or only where a shell would not read the word back as it is.
-/

namespace HostnameSandbox

namespace Quoting

/-- The character with an ASCII code, as a byte. -/
def ascii (char : Char) : UInt8 := UInt8.ofNat char.toNat

/-- Whether a byte can be shown as it is. -/
def isPrintable (byte : UInt8) : Bool := 0x20 ≤ byte && byte < 0x7F

/-- The letters that stand for control bytes behind a backslash. -/
def letters : List (UInt8 × Char) :=
  [(0x07, 'a'), (0x08, 'b'), (0x0C, 'f'), (0x0A, 'n'), (0x0D, 'r'), (0x09, 't'), (0x0B, 'v')]

/-- What stands behind a backslash for a byte that cannot be shown: a letter, or three octal
digits. -/
def code (byte : UInt8) : Bytes :=
  match letters.find? fun entry => entry.1 = byte with
  | some entry => [ascii entry.2]
  | none => [0x30 + byte / 64, 0x30 + byte / 8 % 8, 0x30 + byte % 8]

/-- A byte between single quotes of a message. -/
def escaped (byte : UInt8) : Bytes :=
  if byte = ascii '\'' || byte = ascii '\\' then [0x5C, byte]
  else if isPrintable byte then [byte]
  else 0x5C :: code byte

/-- A word in single quotes. -/
def always (word : Bytes) : Bytes :=
  ascii '\'' :: word.flatMap escaped ++ [ascii '\'']

/-- The bytes that a shell takes for something else than themselves. -/
def special : Bytes := Bytes.ofString "!\"$&()*;<=>[^`|?\\' "

/-- Whether a byte makes quotes necessary; `first` tells whether it is at the beginning, and `alone`
whether there is no other. -/
def isSpecial (first alone : Bool) (byte : UInt8) : Bool :=
  special.contains byte || !isPrintable byte ||
    ((byte = ascii '#' || byte = ascii '~') && first) ||
    ((byte = ascii '\x7b' || byte = ascii '\x7d') && alone)

/-- Whether a word can be shown as it is. -/
def isSafe : Bytes → Bool
  | [] => false
  | byte :: rest => !isSpecial true rest.isEmpty byte && rest.all fun byte =>
      !isSpecial false false byte

/-- Whether double quotes keep a byte as it is. -/
def isKept (first alone : Bool) (byte : UInt8) : Bool :=
  isPrintable byte && !(Bytes.ofString "!\"$&()*;<=>[^`|?\\").contains byte &&
    (first || !(byte = ascii '#' || byte = ascii '~')) &&
    (alone || !(byte = ascii '\x7b' || byte = ascii '\x7d'))

/-- Whether double quotes keep a word as it is. -/
def isAllKept : Bytes → Bool
  | [] => true
  | byte :: rest => isKept true rest.isEmpty byte && rest.all (isKept false false)

/-- The inside of single quotes, where bytes that cannot be shown stand in quotes of their own;
`inside` tells whether those are open. -/
def shellInside : Bool → Bytes → Bytes
  | _, [] => []
  | inside, byte :: rest =>
      if byte = ascii '\'' then
        Bytes.ofString "'\\''" ++ shellInside false rest
      else if isPrintable byte then
        (if inside then Bytes.ofString "''" else []) ++ byte :: shellInside false rest
      else
        (if inside then [] else Bytes.ofString "'$'") ++ 0x5C :: code byte ++ shellInside true rest

/-- A word as a shell reads it back, in quotes where it has to be. -/
def forShell (word : Bytes) : Bytes :=
  if isSafe word then word
  else if word.contains (ascii '\'') && isAllKept word then
    ascii '"' :: word ++ [ascii '"']
  else ascii '\'' :: shellInside false word ++ [ascii '\'']

/-- The name of a file, which is followed by a colon: one that has a colon is quoted. -/
def fileName (name : Bytes) : Bytes :=
  if name.contains (ascii ':') && isSafe name then ascii '\'' :: name ++ [ascii '\'']
  else forShell name

end Quoting

end HostnameSandbox

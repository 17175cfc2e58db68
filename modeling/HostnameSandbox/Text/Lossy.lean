import HostnameSandbox.Text.Bytes

/-!
# Showing raw text

Raw text is shown by decoding it as UTF-8, where every maximal sequence of bytes that cannot
be part of a character is replaced by one U+FFFD.  The decoder is a machine that reads one
byte at a time and remembers at most one character that has begun.
-/

namespace HostnameSandbox

namespace Lossy

/-- A character whose first bytes have been read: how many bytes are due, the range that
the next of them lies in, and the bits read so far. -/
structure Begun where
  due : Nat
  low : UInt8
  high : UInt8
  bits : Nat
deriving DecidableEq, Repr

/-- What a byte above 0x7F begins, if it can begin a character.  The narrower ranges after
0xE0, 0xED, 0xF0 and 0xF4 leave out overlong forms, surrogates and numbers above 0x10FFFF. -/
def begin? (byte : UInt8) : Option Begun :=
  if 0xC2 ≤ byte ∧ byte ≤ 0xDF then some ⟨1, 0x80, 0xBF, byte.toNat - 0xC0⟩
  else if byte = 0xE0 then some ⟨2, 0xA0, 0xBF, 0⟩
  else if byte = 0xED then some ⟨2, 0x80, 0x9F, 0xD⟩
  else if 0xE1 ≤ byte ∧ byte ≤ 0xEF then some ⟨2, 0x80, 0xBF, byte.toNat - 0xE0⟩
  else if byte = 0xF0 then some ⟨3, 0x90, 0xBF, 0⟩
  else if 0xF1 ≤ byte ∧ byte ≤ 0xF3 then some ⟨3, 0x80, 0xBF, byte.toNat - 0xF0⟩
  else if byte = 0xF4 then some ⟨3, 0x80, 0x8F, 4⟩
  else none

/-- Stands for bytes that are not part of a character. -/
def replacement : Char := '\uFFFD'

/-- The state of the decoder: the character that has begun, if any, and the characters
decoded so far, the latest first. -/
structure Decoder where
  begun : Option Begun
  decoded : List Char
deriving DecidableEq, Repr

namespace Decoder

/-- The decoder before the first byte. -/
def start : Decoder := ⟨none, []⟩

/-- Reads a byte that is not the continuation of a character. -/
def readFirst (decoded : List Char) (byte : UInt8) : Decoder :=
  if byte < 0x80 then ⟨none, Char.ofNat byte.toNat :: decoded⟩
  else
    match begin? byte with
    | some begun => ⟨some begun, decoded⟩
    | none => ⟨none, replacement :: decoded⟩

/-- Reads one byte.  A byte that does not continue the character that has begun makes that
beginning one replacement and is read afresh. -/
def read (decoder : Decoder) (byte : UInt8) : Decoder :=
  match decoder.begun with
  | none => readFirst decoder.decoded byte
  | some begun =>
      if begun.low ≤ byte ∧ byte ≤ begun.high then
        let bits := 64 * begun.bits + byte.toNat % 64
        if begun.due ≤ 1 then ⟨none, Char.ofNat bits :: decoder.decoded⟩
        else ⟨some ⟨begun.due - 1, 0x80, 0xBF, bits⟩, decoder.decoded⟩
      else readFirst (replacement :: decoder.decoded) byte

/-- The text when no byte follows: an unfinished character becomes one replacement. -/
def finish (decoder : Decoder) : List Char :=
  match decoder.begun with
  | none => decoder.decoded.reverse
  | some _ => (replacement :: decoder.decoded).reverse

end Decoder

/-- The characters shown for raw text. -/
def decode (bytes : Bytes) : List Char :=
  (bytes.foldl Decoder.read Decoder.start).finish

end Lossy

/-- The text shown for raw text. -/
def Bytes.lossy (bytes : Bytes) : String :=
  String.ofList (Lossy.decode bytes)

/-- The text whose UTF-8 bytes these are, if there is one. -/
def Bytes.exact? (bytes : Bytes) : Option String :=
  if Bytes.ofString bytes.lossy = bytes then some bytes.lossy else none

end HostnameSandbox

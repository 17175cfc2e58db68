/-!
# Raw text

The operating system passes names, arguments and streams as bytes that need not be valid
UTF-8.  They stay bytes throughout the library; characters appear only in what is shown.
-/

namespace HostnameSandbox

/-- Raw text as the operating system passes it: any byte may occur. -/
abbrev Bytes := List UInt8

namespace Bytes

/-- The UTF-8 bytes of a text. -/
def ofString (text : String) : Bytes :=
  text.toList.flatMap String.utf8EncodeChar

/-- The decimal number that the bytes spell, if they are digits only. -/
def decimal? (bytes : Bytes) : Option Nat :=
  if bytes.isEmpty then none
  else
    bytes.foldl
      (fun value byte => value.bind fun value =>
        if 0x30 ≤ byte ∧ byte ≤ 0x39 then some (10 * value + (byte - 0x30).toNat) else none)
      (some 0)

/-- The integer that the bytes spell: digits, perhaps after one sign. -/
def integer? : Bytes → Option Int
  | 0x2D :: digits => (decimal? digits).map fun value => - (value : Int)
  | 0x2B :: digits => (decimal? digits).map fun value => (value : Int)
  | digits => (decimal? digits).map fun value => (value : Int)

end Bytes

end HostnameSandbox

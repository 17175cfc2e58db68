import HostnameSandbox.Text.Hidden

/-!
# Quoted text

A text in double quotes, where the characters that cannot be read off the page are written as
escapes: the usual short ones, and the code point in braces for every other.
-/

namespace HostnameSandbox

namespace Quoted

/-- The digits of a code point in base sixteen, lower case, without leading zeros. -/
def hexadecimal (code : Nat) : String :=
  String.ofList (Nat.toDigits 16 code)

/-- How one character is written between the quotes. -/
def escape (char : Char) : String :=
  if char = '"' then "\\\""
  else if char = '\\' then "\\\\"
  else if char = '\n' then "\\n"
  else if char = '\r' then "\\r"
  else if char = '\t' then "\\t"
  else if char = '\x00' then "\\0"
  else if Hidden.isHidden char then "\\u\x7b" ++ hexadecimal char.toNat ++ "\x7d"
  else char.toString

end Quoted

/-- A text in double quotes, with escapes. -/
def quoted (text : String) : String :=
  "\"" ++ String.join (text.toList.map Quoted.escape) ++ "\""

end HostnameSandbox

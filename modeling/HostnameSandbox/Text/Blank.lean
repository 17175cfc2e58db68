/-!
# Blanks

The characters that Unicode counts as white space.
-/

namespace HostnameSandbox

namespace Blank

/-- Whether a character is white space. -/
def isBlank (char : Char) : Bool :=
  char = ' ' || ('\t' ≤ char && char ≤ '\r') || ('\u2000' ≤ char && char ≤ '\u200a') ||
    ['\x85', '\xa0', '\u1680', '\u2028', '\u2029', '\u202f', '\u205f', '\u3000'].contains char

/-- A list without the blanks at its beginning and end. -/
def trimmed (chars : List Char) : List Char :=
  ((chars.dropWhile isBlank).reverse.dropWhile isBlank).reverse

end Blank

end HostnameSandbox

import HostnameSandbox.Event.Pattern.Reader

/-!
# Patterns

A log setting may ask for a value of a field, which it gives as a number, a truth value or a
regular expression.  Whether a matcher can be built for it decides whether the setting can be
read.
-/

namespace HostnameSandbox

namespace Event

namespace Pattern

/-- Whether a word is a number without a sign: digits with at most one point among them, and
perhaps an exponent; or infinity, or no number at all. -/
def isNumber (word : List Char) : Bool :=
  let lower := String.ofList (word.map Char.toLower)
  let mantissa := word.takeWhile fun char => char.isDigit || char = '.'
  let digits := mantissa.filter (· != '.')
  let exponent := word.drop mantissa.length
  let isWritten := match exponent with
    | [] => true
    | mark :: power =>
        let power := if power.head? = some '+' || power.head? = some '-' then power.tail else power
        mark.toLower = 'e' && !power.isEmpty && power.all Char.isDigit
  ["inf", "infinity", "nan"].contains lower ||
    (!digits.isEmpty && mantissa.length ≤ digits.length + 1 && isWritten)

/-- Whether a word can be asked for as the value of a field.  Numbers without a plus sign are
regular expressions anyway. -/
def isWellFormed (word : List Char) : Bool :=
  match word with
  | '+' :: rest => isNumber rest
  | word => ((Expression.read? word).map Expression.isMatchable).getD false

end Pattern

end Event

end HostnameSandbox

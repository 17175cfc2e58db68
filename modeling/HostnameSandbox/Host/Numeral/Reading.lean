import HostnameSandbox.Text.Bytes

/-!
# Reading numbers

Numbers at the beginning of a text, as the C library reads them: after blanks and a sign come
digits, in a base that is given or that a prefix announces.  What follows the number is kept, so
that a caller may ask that nothing does.
-/

namespace HostnameSandbox

/-- Something read at the beginning of a text, and what follows it. -/
structure Reading (α : Type) where
  value : α
  rest : Bytes
deriving DecidableEq, Repr

/-- A number as it is written, before it is fitted into a format: an exact quotient, or one of the
values that are no number. -/
inductive Quotient where
  | finite (negative : Bool) (numerator denominator : Nat)
  | infinite (negative : Bool)
  | undefined (negative : Bool)
deriving DecidableEq, Repr

namespace Numeral

/-- The value of a digit, in bases up to thirty-six. -/
def digit? (byte : UInt8) : Option Nat :=
  if 0x30 ≤ byte && byte ≤ 0x39 then some (byte - 0x30).toNat
  else if 0x61 ≤ byte && byte ≤ 0x7A then some ((byte - 0x61).toNat + 10)
  else if 0x41 ≤ byte && byte ≤ 0x5A then some ((byte - 0x41).toNat + 10)
  else none

/-- The value of a digit of a base. -/
def digitOf? (base : Nat) (byte : UInt8) : Option Nat :=
  (digit? byte).filter fun value => decide (value < base)

/-- Whether a byte is a digit of a base. -/
def isDigitOf (base : Nat) (byte : UInt8) : Bool := (digitOf? base byte).isSome

/-- Whether a byte is a decimal digit. -/
def isDigit (byte : UInt8) : Bool := isDigitOf 10 byte

/-- Blanks in front of a number. -/
def isBlank (byte : UInt8) : Bool := byte = 0x20 || (0x09 ≤ byte && byte ≤ 0x0D)

/-- The number that digits of a base spell. -/
def ofDigits (base : Nat) (digits : Bytes) : Nat :=
  digits.foldl (fun value byte => base * value + (digit? byte).getD 0) 0

/-- The sign at the beginning of a text; `true` is the negative one. -/
def sign : Bytes → Reading Bool
  | 0x2D :: rest => ⟨true, rest⟩
  | 0x2B :: rest => ⟨false, rest⟩
  | rest => ⟨false, rest⟩

/-- Whether a text begins with a digit of a base. -/
def beginsWith (base : Nat) (text : Bytes) : Bool := text.head?.any (isDigitOf base)

/-- The base of the digits that a text begins with.  A prefix only counts if a digit follows. -/
def base (given : Option Nat) : Bytes → Reading Nat
  | text@(0x30 :: letter :: rest) =>
      if (letter = 0x78 || letter = 0x58) && beginsWith 16 rest &&
          (given.isNone || given = some 16) then ⟨16, rest⟩
      else ⟨given.getD 8, text⟩
  | text => ⟨given.getD (if text.head? = some 0x30 then 8 else 10), text⟩

/-- The integer at the beginning of a text, in a given base or in the one that it announces. -/
def integer? (given : Option Nat) (text : Bytes) : Option (Reading Int) :=
  let ⟨negative, unsigned⟩ := sign (text.dropWhile isBlank)
  let ⟨base, digits⟩ := base given unsigned
  let number := digits.takeWhile (isDigitOf base)
  if number.isEmpty then none
  else
    let magnitude : Int := ofDigits base number
    some ⟨if negative then -magnitude else magnitude, digits.drop number.length⟩

/-- The least number that a signed word of sixty-four bits holds. -/
def leastSigned : Int := -(Int.pow 2 63)

/-- The greatest number that a signed word of sixty-four bits holds. -/
def greatestSigned : Int := Int.pow 2 63 - 1

/-- The greatest number that an unsigned word of sixty-four bits holds. -/
def greatestUnsigned : Int := Int.pow 2 64 - 1

/-- The nearest number that a signed word holds. -/
def clampSigned (value : Int) : Int := max leastSigned (min greatestSigned value)

/-- The number that an unsigned word holds for an integer: negative ones count from above, and the
greatest stands for those that are too large. -/
def wrapUnsigned (value : Int) : Nat :=
  if greatestUnsigned < value.natAbs then greatestUnsigned.toNat
  else (value % Int.pow 2 64).toNat

/-- The number that a signed word of sixty-four bits holds for an integer, counted around. -/
def wrapSigned (value : Int) : Int := Int.bmod value (Nat.pow 2 64)

/-- Exponents beyond this one are taken to be this one: no format holds them. -/
def exponentLimit : Nat := 20000

/-- The exponent that a text begins with after one of its letters, and the rest; without digits
there is none. -/
def exponent (lower upper : UInt8) (text : Bytes) : Reading Int :=
  match text with
  | letter :: after =>
      let ⟨negative, digits⟩ := sign after
      let number := digits.takeWhile isDigit
      if (letter = lower || letter = upper) && !number.isEmpty then
        let magnitude : Int := min (ofDigits 10 number) exponentLimit
        ⟨if negative then -magnitude else magnitude, digits.drop number.length⟩
      else ⟨0, text⟩
  | [] => ⟨0, text⟩

/-- The digits of a base with at most one point among them: those before it, those behind it, and
the rest.  There has to be a digit. -/
def pointed? (base : Nat) (text : Bytes) : Option (Bytes × Reading Bytes) :=
  let whole := text.takeWhile (isDigitOf base)
  let after := text.drop whole.length
  let (fraction, rest) := match after with
    | 0x2E :: behind =>
        let fraction := behind.takeWhile (isDigitOf base)
        (fraction, behind.drop fraction.length)
    | _ => ([], after)
  if whole.isEmpty && fraction.isEmpty then none else some (whole, ⟨fraction, rest⟩)

/-- A quotient times a power. -/
def scaled (negative : Bool) (number power : Nat) (exponent : Int) : Quotient :=
  if exponent < 0 then .finite negative number (power.pow exponent.natAbs)
  else .finite negative (number * power.pow exponent.natAbs) 1

/-- A small letter in place of a capital one. -/
def lower (byte : UInt8) : UInt8 := if 0x41 ≤ byte && byte ≤ 0x5A then byte + 0x20 else byte

/-- What follows a word at the beginning of a text, whatever the size of its letters. -/
def after? (word : String) (text : Bytes) : Option Bytes :=
  let letters := Bytes.ofString word
  if (text.take letters.length).map lower = letters then some (text.drop letters.length) else none

/-- Whether a byte may stand in the brackets behind an undefined value. -/
def isWordByte (byte : UInt8) : Bool := (digit? byte).isSome || byte = 0x5F

/-- What follows an undefined value: brackets may belong to it. -/
def afterUndefined (rest : Bytes) : Bytes :=
  match rest with
  | 0x28 :: inside =>
      match inside.dropWhile isWordByte with
      | 0x29 :: after => after
      | _ => rest
  | _ => rest

/-- The number at the beginning of a text, with a point, an exponent, or in base sixteen. -/
def quotient? (text : Bytes) : Option (Reading Quotient) :=
  let ⟨negative, unsigned⟩ := sign (text.dropWhile isBlank)
  let hexadecimal := match unsigned with
    | 0x30 :: letter :: rest =>
        if letter = 0x78 || letter = 0x58 then pointed? 16 rest else none
    | _ => none
  match hexadecimal, pointed? 10 unsigned with
  | some (whole, ⟨fraction, rest⟩), _ =>
      let ⟨exponent, rest⟩ := exponent 0x70 0x50 rest
      some ⟨scaled negative (ofDigits 16 (whole ++ fraction)) 2
        (exponent - 4 * fraction.length), rest⟩
  | none, some (whole, ⟨fraction, rest⟩) =>
      let ⟨exponent, rest⟩ := exponent 0x65 0x45 rest
      some ⟨scaled negative (ofDigits 10 (whole ++ fraction)) 10
        (exponent - fraction.length), rest⟩
  | none, none =>
      match after? "infinity" unsigned, after? "inf" unsigned, after? "nan" unsigned with
      | some rest, _, _ | none, some rest, _ => some ⟨.infinite negative, rest⟩
      | none, none, some rest => some ⟨.undefined negative, afterUndefined rest⟩
      | none, none, none => none

end Numeral

end HostnameSandbox

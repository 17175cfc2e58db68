import HostnameSandbox.Host.Numeral.Floating

/-!
# Laying out numbers

How numbers and texts are written by a directive of a format: with a sign or a prefix, with so many
digits, and filled up to a width.
-/

namespace HostnameSandbox

/-- How something is laid out. -/
structure Layout where
  /-- Blanks fill up the right side. -/
  left : Bool
  /-- Numbers that are not negative get a plus sign. -/
  plus : Bool
  /-- Numbers that are not negative get a blank. -/
  blank : Bool
  /-- The other form of a conversion is used: with a prefix, or with a point and all digits. -/
  alternate : Bool
  /-- Zeros fill up the left side. -/
  zero : Bool
  width : Nat
  precision : Option Nat
deriving DecidableEq, Repr

namespace Layout

/-- Nothing is asked for. -/
def plain : Layout := ⟨false, false, false, false, false, 0, none⟩

/-- Fills up to the width.  What is in front stays in front of zeros. -/
def fill (layout : Layout) (front body : Bytes) (zeros : Bool) : Bytes :=
  let missing := layout.width - (front.length + body.length)
  if layout.left then front ++ body ++ List.replicate missing 0x20
  else if zeros then front ++ List.replicate missing 0x30 ++ body
  else List.replicate missing 0x20 ++ front ++ body

/-- A text, of which the precision limits how much is shown. -/
def text (layout : Layout) (bytes : Bytes) : Bytes :=
  layout.fill [] ((layout.precision.map fun count => bytes.take count).getD bytes) false

/-- One byte. -/
def byte (layout : Layout) (byte : UInt8) : Bytes := layout.fill [] [byte] false

/-- The digits of a number in a base. -/
def digits (base number : Nat) : Bytes := Bytes.ofString (String.ofList (Nat.toDigits base number))

/-- Capital letters in place of small ones. -/
def capitals (bytes : Bytes) : Bytes :=
  bytes.map fun byte => if 0x61 ≤ byte && byte ≤ 0x7A then byte - 0x20 else byte

/-- Digits with zeros in front, up to a number of digits; zero is written without any digit if none
is asked for. -/
def atLeast (precision : Option Nat) (digits : Bytes) : Bytes :=
  match precision with
  | none => digits
  | some count =>
      if count = 0 && digits = [0x30] then []
      else List.replicate (count - digits.length) 0x30 ++ digits

/-- What stands in front of a number. -/
def signOf (layout : Layout) (negative : Bool) : Bytes :=
  if negative then [0x2D] else if layout.plus then [0x2B] else if layout.blank then [0x20] else []

/-- An integer in decimal digits. -/
def integer (layout : Layout) (value : Int) : Bytes :=
  layout.fill (layout.signOf (decide (value < 0)))
    (atLeast layout.precision (digits 10 value.natAbs)) (layout.zero && layout.precision.isNone)

/-- A natural number in a base, which is eight, ten or sixteen. -/
def natural (layout : Layout) (base : Nat) (value : Nat) : Bytes :=
  let body := atLeast layout.precision (digits base value)
  let body := if base = 8 && layout.alternate && body.head? ≠ some 0x30 then 0x30 :: body
    else body
  let front := if base = 16 && layout.alternate && value ≠ 0 then [0x30, 0x78] else []
  layout.fill front body (layout.zero && layout.precision.isNone)

/-- A number with so many digits behind the point. -/
def decimal (alternate : Bool) (count number : Nat) : Bytes :=
  let shown := digits 10 number
  let padded := List.replicate (count + 1 - shown.length) 0x30 ++ shown
  let whole := padded.take (padded.length - count)
  whole ++ (if count = 0 && !alternate then [] else 0x2E :: padded.drop whole.length)

/-- A finite number as a quotient. -/
def quotient (significand : Nat) (exponent : Int) : Nat × Nat :=
  if exponent < 0 then (significand, Nat.pow 2 exponent.natAbs)
  else (significand * Nat.pow 2 exponent.natAbs, 1)

/-- The digits of a quotient, so many behind the point. -/
def fixed (alternate : Bool) (count numerator denominator : Nat) : Bytes :=
  decimal alternate count (Floating.nearest (numerator * Nat.pow 10 count) denominator)

/-- A quotient times a power of ten, rounded. -/
def timesPower (numerator denominator : Nat) (power : Int) : Nat :=
  if power < 0 then Floating.nearest numerator (denominator * Nat.pow 10 power.natAbs)
  else Floating.nearest (numerator * Nat.pow 10 power.natAbs) denominator

/-- The decimal exponent and the digits of a quotient, one before the point and so many behind
it. -/
def scientificParts (count numerator denominator : Nat) : Int × Nat :=
  if numerator = 0 then (0, 0)
  else
    let estimate : Int :=
      ((digits 10 numerator).length : Int) - (digits 10 denominator).length
    let exponent := if timesPower numerator denominator (count - estimate) < Nat.pow 10 count then
      estimate - 1 else estimate
    let shown := timesPower numerator denominator (count - exponent)
    if Nat.pow 10 (count + 1) ≤ shown then
      (exponent + 1, timesPower numerator denominator (count - exponent - 1))
    else (exponent, shown)

/-- An exponent with its letter, its sign and at least so many digits. -/
def exponentText (letter : UInt8) (least : Nat) (exponent : Int) : Bytes :=
  let shown := digits 10 exponent.natAbs
  letter :: (if exponent < 0 then 0x2D else 0x2B) ::
    (List.replicate (least - shown.length) 0x30 ++ shown)

/-- A quotient with one digit before the point and an exponent. -/
def scientific (alternate : Bool) (count numerator denominator : Nat) : Bytes :=
  let (exponent, shown) := scientificParts count numerator denominator
  decimal alternate count shown ++ exponentText 0x65 2 exponent

/-- Digits without the zeros at their end behind the point. -/
def unpadded (body : Bytes) : Bytes :=
  if body.contains 0x2E then
    let kept := (body.reverse.dropWhile (· = 0x30)).reverse
    if kept.getLast? = some 0x2E then kept.dropLast else kept
  else body

/-- A quotient with so many significant digits, with an exponent if it is large or small. -/
def general (alternate : Bool) (count numerator denominator : Nat) : Bytes :=
  let count := max count 1
  let (exponent, shown) := scientificParts (count - 1) numerator denominator
  let trim := if alternate then id else unpadded
  if exponent < -4 || (count : Int) ≤ exponent then
    trim (decimal alternate (count - 1) shown) ++ exponentText 0x65 2 exponent
  else
    trim (fixed alternate ((count : Int) - 1 - exponent).toNat numerator denominator)

/-- A number in base sixteen, with the bits of its significand above `leading` before the point. -/
def hexadecimal (alternate : Bool) (precision : Option Nat) (leading : Nat) (significand : Nat)
    (exponent : Int) : Bytes :=
  let places := leading / 4
  let count := (precision.getD places)
  let rounded := if count < places then
      Floating.nearest significand (Nat.pow 16 (places - count)) *
        Nat.pow 16 (places - count)
    else significand
  let (rounded, exponent) := if Nat.pow 16 (places + 1) ≤ rounded then (rounded / 16, exponent + 4)
    else (rounded, exponent)
  let whole := digits 16 (rounded / Nat.pow 2 leading)
  let bits := digits 16 (rounded % Nat.pow 2 leading)
  let bits : Bytes := List.replicate (places - bits.length) 0x30 ++ bits
  let behind : Bytes := match precision with
    | none => (bits.reverse.dropWhile (· = 0x30)).reverse
    | some count => bits.take count ++ List.replicate (count - bits.length) 0x30
  let exponent := if significand = 0 then 0 else exponent + leading
  whole ++ (if behind.isEmpty && !alternate then [] else 0x2E :: behind) ++
    exponentText 0x70 1 exponent

/-- How a floating-point number is written. -/
inductive Style where
  | fixed
  | scientific
  | general
  | hexadecimal
deriving DecidableEq, Repr

/-- The digits that are shown if nothing else is asked for. -/
def usualPrecision : Nat := 6

/-- A floating-point number of a format. -/
def floating (layout : Layout) (format : BinaryFormat) (style : Style) (value : Floating) : Bytes :=
  let sign := layout.signOf value.isNegative
  let count := layout.precision.getD usualPrecision
  match value with
  | .infinite _ => layout.fill sign (Bytes.ofString "inf") false
  | .undefined _ => layout.fill sign (Bytes.ofString "nan") false
  | .finite _ significand exponent =>
      let (numerator, denominator) := quotient significand exponent
      match style with
      | .fixed => layout.fill sign (fixed layout.alternate count numerator denominator) layout.zero
      | .scientific =>
          layout.fill sign (scientific layout.alternate count numerator denominator) layout.zero
      | .general =>
          layout.fill sign (general layout.alternate count numerator denominator) layout.zero
      | .hexadecimal =>
          let leading := 4 * ((format.precision - 1) / 4)
          layout.fill (sign ++ [0x30, 0x78])
            (hexadecimal layout.alternate layout.precision leading significand exponent) layout.zero

end Layout

end HostnameSandbox

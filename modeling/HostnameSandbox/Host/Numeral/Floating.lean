import HostnameSandbox.Host.Numeral.Reading

/-!
# Binary floating-point numbers

A number of a binary format is a significand times a power of two.  A quotient is rounded to the
nearest number of the format, and of two to the one with the even significand.
-/

namespace HostnameSandbox

/-- A binary format: the number of bits in a significand, and the least and the greatest exponent
that goes with one. -/
structure BinaryFormat where
  precision : Nat
  leastExponent : Int
  greatestExponent : Int
deriving DecidableEq, Repr

namespace BinaryFormat

/-- The format of sixty-four bits. -/
def double : BinaryFormat := ⟨53, -1074, 971⟩

/-- The format of eighty bits. -/
def extended : BinaryFormat := ⟨64, -16445, 16320⟩

end BinaryFormat

/-- A number of a binary format, or one of the values that are no number. -/
inductive Floating where
  | finite (negative : Bool) (significand : Nat) (exponent : Int)
  | infinite (negative : Bool)
  | undefined (negative : Bool)
deriving DecidableEq, Repr

namespace Floating

/-- A quotient rounded to the nearest natural number, and of two to the even one. -/
def nearest (numerator denominator : Nat) : Nat :=
  let quotient := numerator / denominator
  let twice := 2 * (numerator % denominator)
  if denominator < twice || (twice = denominator && quotient % 2 = 1) then quotient + 1
  else quotient

/-- A quotient divided by a power of two. -/
def shifted (numerator denominator : Nat) (exponent : Int) : Nat × Nat :=
  if exponent < 0 then (numerator * Nat.pow 2 exponent.natAbs, denominator)
  else (numerator, denominator * Nat.pow 2 exponent.natAbs)

/-- A number of a format, and whether the quotient that it stands for is out of the range in which
the format is precise. -/
structure Rounded where
  value : Floating
  outOfRange : Bool

/-- The number of a format for a quotient. -/
def ofQuotient (format : BinaryFormat) : Quotient → Rounded
  | .infinite negative => ⟨.infinite negative, false⟩
  | .undefined negative => ⟨.undefined negative, false⟩
  | .finite negative numerator denominator =>
      if numerator = 0 || denominator = 0 then ⟨.finite negative 0 0, false⟩
      else
        let estimate : Int := (Nat.log2 numerator : Int) - Nat.log2 denominator - format.precision
        let (above, below) := shifted numerator denominator (estimate + 1)
        let fitting := if Nat.pow 2 format.precision ≤ above / below then estimate + 2
          else if above / below < Nat.pow 2 (format.precision - 1) then estimate
          else estimate + 1
        let exponent := max fitting format.leastExponent
        let (above, below) := shifted numerator denominator exponent
        let significand := nearest above below
        let (significand, exponent) :=
          if significand = Nat.pow 2 format.precision then
            (Nat.pow 2 (format.precision - 1), exponent + 1)
          else (significand, exponent)
        let tiny := decide (fitting < format.leastExponent) && above % below != 0
        if format.greatestExponent < exponent then ⟨.infinite negative, true⟩
        else ⟨.finite negative significand exponent, tiny⟩

/-- Whether the sign of a number is the negative one. -/
def isNegative : Floating → Bool
  | .finite negative _ _ | .infinite negative | .undefined negative => negative

end Floating

end HostnameSandbox

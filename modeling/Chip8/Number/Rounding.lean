/-!
# Exact values of doubles and rounding to a unit

A finite double is a signed whole number of units `2 ^ exponent`, and that is what its bits say.
Rounding it to a decimal place is therefore integer division: of the two neighbouring multiples the
nearer is taken, and of two equally near ones the even one. Nothing here is approximate, so a value
that only looks like a tie in decimal is still rounded to the side its bits are on.
-/

namespace Chip8

/-- `numerator / denominator` to the nearest whole number, a tie to the even one. -/
def roundHalfEven (numerator denominator : Nat) : Nat :=
  let quotient := numerator / denominator
  let twice := 2 * (numerator % denominator)
  if twice < denominator then quotient
  else if denominator < twice then quotient + 1
  else quotient + quotient % 2

inductive Double
  | notANumber
  | infinite (negative : Bool)
  /-- The value is `significand * 2 ^ exponent`, with the sign. -/
  | finite (negative : Bool) (significand : Nat) (exponent : Int)
  deriving DecidableEq, Repr

namespace Double

/-- Reads sign, exponent and fraction off the sixty-four bits. -/
def ofBits (bits : UInt64) : Double :=
  let word : Nat := bits.toNat
  let negative : Bool := word >>> 63 = 1
  let biased : Nat := (word >>> 52) % 2048
  let fraction : Nat := word % (1 <<< 52)
  if biased = 2047 then
    if fraction = 0 then .infinite negative else .notANumber
  else if biased = 0 then .finite negative fraction (-1074)
  else .finite negative ((1 <<< 52) + fraction) ((biased : Int) - 1075)

def ofFloat (f : Float) : Double := ofBits f.toBits

/-- `significand * 2 ^ exponent * scale` to the nearest whole number, a tie to the even one. -/
def roundScaled (significand : Nat) (exponent : Int) (scale : Nat) : Nat :=
  match exponent with
  | .ofNat e => (significand <<< e) * scale
  | .negSucc e => roundHalfEven (significand * scale) (1 <<< (e + 1))

/-- `significand * 2 ^ exponent` without its fraction. -/
def truncated (significand : Nat) (exponent : Int) : Nat :=
  match exponent with
  | .ofNat e => significand <<< e
  | .negSucc e => significand >>> (e + 1)

end Double

end Chip8

/-!
# Binary fractions of limited precision

Numbers of the form `± significand · 2 ^ exponent` with a bounded significand and a bounded
exponent, together with the infinities and the value that is no number. Two formats are used:
`double` with 53 significant bits and `single` with 24. All arithmetic is exact, on natural
numbers, followed by one rounding to the nearest number of the format, halves going to the even
significand.
-/

set_option autoImplicit false

namespace SearchQuery

/-- The numbers of a format are `± significand · 2 ^ exponent` with
`significand < 2 ^ precision` and `minExponent ≤ exponent ≤ maxExponent`. -/
structure BinaryFormat where
  precision : Nat
  minExponent : Int
  maxExponent : Int
deriving DecidableEq, Repr

namespace BinaryFormat

def double : BinaryFormat := ⟨53, -1074, 971⟩

def single : BinaryFormat := ⟨24, -149, 104⟩

end BinaryFormat

inductive Binary where
  | nan
  | infinite (negative : Bool)
  | finite (negative : Bool) (significand : Nat) (exponent : Int)
deriving DecidableEq, Repr

namespace Binary

def roundedQuotient (numerator denominator : Nat) : Nat :=
  let quotient := numerator / denominator
  let twice := 2 * (numerator % denominator)
  if twice > denominator || (twice == denominator && quotient % 2 == 1) then quotient + 1
  else quotient

/-- The fraction `numerator / denominator` divided by `base ^ power`, as a fraction. -/
def scaled (base numerator denominator : Nat) (power : Int) : Nat × Nat :=
  if 0 ≤ power then (numerator, denominator * Nat.pow base power.toNat)
  else (numerator * Nat.pow base (-power).toNat, denominator)

def floorLog2 (numerator denominator : Nat) : Int :=
  let guess : Int := (numerator.log2 : Int) - (denominator.log2 : Int)
  let (above, below) := scaled 2 numerator denominator guess
  if above ≥ below then guess else guess - 1

def zero (format : BinaryFormat) (negative : Bool) : Binary :=
  .finite negative 0 format.minExponent

def round (format : BinaryFormat) (negative : Bool) (numerator denominator : Nat) : Binary :=
  if numerator = 0 then
    zero format negative
  else
    let least := floorLog2 numerator denominator - (format.precision - 1 : Nat)
    let exponent := max least format.minExponent
    let (above, below) := scaled 2 numerator denominator exponent
    let significand := roundedQuotient above below
    let (significand, exponent) :=
      if significand = Nat.pow 2 format.precision then
        (Nat.pow 2 (format.precision - 1), exponent + 1)
      else (significand, exponent)
    if exponent > format.maxExponent then .infinite negative
    else .finite negative significand exponent

/-- The number of the format nearest to `± coefficient · 10 ^ power`. Powers that lie beyond the
format are recognised before they are computed. -/
def ofDecimal (format : BinaryFormat) (negative : Bool) (coefficient : Nat) (power : Int) :
    Binary :=
  if coefficient = 0 then
    zero format negative
  else
    let magnitude : Int := power + (Nat.toDigits 10 coefficient).length
    if 3 * (magnitude - 1) ≥ format.maxExponent + format.precision then
      .infinite negative
    else if 3 * magnitude ≤ format.minExponent - 1 then
      zero format negative
    else
      let (numerator, denominator) := scaled 10 coefficient 1 (-power)
      round format negative numerator denominator

def ofInt (format : BinaryFormat) (value : Int) : Binary :=
  round format (value < 0) value.natAbs 1

def toFormat (format : BinaryFormat) : Binary → Binary
  | .nan => .nan
  | .infinite negative => .infinite negative
  | .finite negative significand exponent =>
      let (numerator, denominator) := scaled 2 significand 1 (-exponent)
      round format negative numerator denominator

def isFinite : Binary → Bool
  | .finite _ _ _ => true
  | _ => false

def isZero : Binary → Bool
  | .finite _ significand _ => significand == 0
  | _ => false

def inUnits (unit : Int) (negative : Bool) (significand : Nat) (exponent : Int) : Int :=
  let magnitude : Int := (significand * Nat.pow 2 (exponent - unit).toNat : Nat)
  if negative then -magnitude else magnitude

/-- The order of two numbers by value. Zeros are equal whatever their signs, and what is no number
is not ordered. -/
def compare? : Binary → Binary → Option Ordering
  | .nan, _ => none
  | _, .nan => none
  | .infinite leftNegative, .infinite rightNegative => some (compare rightNegative leftNegative)
  | .infinite negative, .finite _ _ _ => some (if negative then .lt else .gt)
  | .finite _ _ _, .infinite negative => some (if negative then .gt else .lt)
  | .finite leftNegative leftSignificand leftExponent,
      .finite rightNegative rightSignificand rightExponent =>
      let unit := min leftExponent rightExponent
      some (compare (inUnits unit leftNegative leftSignificand leftExponent)
        (inUnits unit rightNegative rightSignificand rightExponent))

def fraction (significand : Nat) (exponent : Int) : Nat × Nat :=
  scaled 2 significand 1 (-exponent)

def product? (format : BinaryFormat) : Binary → Binary → Option Binary
  | .finite leftNegative leftSignificand leftExponent,
      .finite rightNegative rightSignificand rightExponent =>
      let (numerator, denominator) :=
        fraction (leftSignificand * rightSignificand) (leftExponent + rightExponent)
      some (round format (leftNegative != rightNegative) numerator denominator)
  | _, _ => none

def quotient? (format : BinaryFormat) : Binary → Binary → Option Binary
  | .finite leftNegative leftSignificand leftExponent,
      .finite rightNegative rightSignificand rightExponent =>
      if rightSignificand = 0 then
        none
      else
        let (numerator, denominator) := fraction leftSignificand (leftExponent - rightExponent)
        some (round format (leftNegative != rightNegative) numerator
          (denominator * rightSignificand))
  | _, _ => none

def negate : Binary → Binary
  | .nan => .nan
  | .infinite negative => .infinite (!negative)
  | .finite negative significand exponent => .finite (!negative) significand exponent

end Binary

end SearchQuery

import SearchQuery.Number.Binary

/-!
# Shortest decimal digits

The decimal numbers that round to a given binary number fill an interval. Among them the one with
the fewest digits is written, and of several with that many digits the one nearest to the number.
-/

set_option autoImplicit false

namespace SearchQuery

/-- `0.d₁d₂… · 10 ^ point` with the given digits. -/
structure DecimalDigits where
  row : List Char
  point : Int
deriving DecidableEq, Repr

inductive TieBreak where
  | toEven
  | up
deriving DecidableEq, Repr

namespace Shortest

/-- The reals that round to a positive number lie between `low / unit` and `high / unit`, the number
itself is `value / unit`, and the ends belong to the interval when `closed`. -/
structure Interval where
  low : Nat
  value : Nat
  high : Nat
  unit : Nat
  closed : Bool
deriving DecidableEq, Repr

/-- The interval of a positive number. It reaches half way to each neighbour, and below a power of
two the neighbour is half as far. -/
def Interval.ofBinary (format : BinaryFormat) (significand : Nat) (exponent : Int) : Interval :=
  let narrow := significand == Nat.pow 2 (format.precision - 1) && exponent > format.minExponent
  let (scale, unit) := Binary.scaled 2 1 4 (-exponent)
  { low := (4 * significand - if narrow then 1 else 2) * scale
    value := 4 * significand * scale
    high := (4 * significand + 2) * scale
    unit := unit
    closed := significand % 2 == 0 }

def Interval.inSteps (interval : Interval) (power : Int) : Interval :=
  let (scale, unit) := Binary.scaled 10 1 interval.unit power
  { low := interval.low * scale
    value := interval.value * scale
    high := interval.high * scale
    unit := unit
    closed := interval.closed }

def Interval.holds (interval : Interval) (steps : Nat) : Bool :=
  let place := steps * interval.unit
  if interval.closed then interval.low ≤ place && place ≤ interval.high
  else interval.low < place && place < interval.high

/-- The whole number of steps in the interval that is nearest to its number, if there is one. Only
the two neighbours of the number can be nearest. -/
def Interval.nearest? (tie : TieBreak) (interval : Interval) : Option Nat :=
  let below := interval.value / interval.unit
  let above := below + 1
  match interval.holds below, interval.holds above with
  | false, false => none
  | true, false => some below
  | false, true => some above
  | true, true =>
      let twice := 2 * (interval.value % interval.unit)
      if twice < interval.unit then some below
      else if twice > interval.unit then some above
      else
        match tie with
        | .up => some above
        | .toEven => some (if below % 2 == 0 then below else above)

/-- The least power of ten above the number, as its exponent, found from a guess that is at most a
few steps too low. -/
def pointFrom (interval : Interval) (guess : Int) : Nat → Int
  | 0 => guess
  | fuel + 1 =>
      let steps := interval.inSteps guess
      if steps.value < steps.unit then guess else pointFrom interval (guess + 1) fuel

def point (interval : Interval) : Int :=
  let bits : Int := Binary.floorLog2 interval.value interval.unit
  pointFrom interval (bits * 3 / 10 - 1) 40

def search (tie : TieBreak) (interval : Interval) (point : Int) (count : Nat) :
    Nat → Nat × Nat
  | 0 => (count, (interval.inSteps (point - count)).value / (interval.inSteps (point - count)).unit)
  | fuel + 1 =>
      match (interval.inSteps (point - count)).nearest? tie with
      | some steps => (count, steps)
      | none => search tie interval point (count + 1) fuel

def withoutTrailingZeros (row : List Char) : List Char :=
  (row.reverse.dropWhile (· == '0')).reverse

def digits (format : BinaryFormat) (tie : TieBreak) (significand : Nat) (exponent : Int) :
    DecimalDigits :=
  let interval := Interval.ofBinary format significand exponent
  let point := point interval
  let (count, steps) := search tie interval point 1 20
  let row := Nat.toDigits 10 steps
  ⟨withoutTrailingZeros row, point + ((row.length : Int) - count)⟩

end Shortest

end SearchQuery

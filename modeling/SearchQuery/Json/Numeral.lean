import SearchQuery.Json.Basic
import SearchQuery.Number.Binary
import SearchQuery.Number.Decimal

/-!
# Numerals of JSON text

A numeral is a number as JSON spells it: a sign, digits without leading zeros, and optionally a
fraction and a power of ten. Its value is a whole number when it has neither of the last two and
fits into 64 bits. Otherwise it is a fraction of double precision, computed from as many leading
digits as fit into 64 bits and a power of ten of double precision.
-/

set_option autoImplicit false

namespace SearchQuery

structure Numeral where
  negative : Bool
  whole : List Char
  part : List Char
  power : Option (Bool × List Char)
deriving DecidableEq, Repr

namespace Numeral

def readPart? : List Char → Option (List Char × List Char)
  | '.' :: rest =>
      let row := rest.takeWhile Char.isDigit
      if row.isEmpty then none else some (row, rest.dropWhile Char.isDigit)
  | text => some ([], text)

def readPower? (text : List Char) : Option (Option (Bool × List Char) × List Char) :=
  match text with
  | [] => some (none, [])
  | mark :: rest =>
      if mark == 'e' || mark == 'E' then
        let (negative, afterSign) := Decimal.takeSign rest
        let row := afterSign.takeWhile Char.isDigit
        if row.isEmpty then none
        else some (some (negative, row), afterSign.dropWhile Char.isDigit)
      else
        some (none, text)

def read? (text : List Char) : Option (Numeral × List Char) :=
  let (negative, unsigned) :=
    match text with
    | '-' :: rest => (true, rest)
    | _ => (false, text)
  let whole := unsigned.takeWhile Char.isDigit
  if whole.isEmpty || (whole.length > 1 && whole.head? == some '0') then
    none
  else
    match readPart? (unsigned.dropWhile Char.isDigit) with
    | none => none
    | some (part, afterPart) =>
      match readPower? afterPart with
      | none => none
      | some (power, rest) => some (⟨negative, whole, part, power⟩, rest)

/-- Continues a number with digits as long as it stays below `2 ^ 64`, and returns the digits that
are left. -/
def accumulate (value : Nat) : List Char → Nat × List Char
  | [] => (value, [])
  | c :: rest =>
      let next := 10 * value + Decimal.digitValue c
      if next < Decimal.wordBound then accumulate next rest else (value, c :: rest)

def greatestPower : Nat := 308

def powerOfTen (exponent : Nat) : Binary :=
  Binary.ofDecimal .double false 1 exponent

/-- The number divided by a power of ten, in steps that double precision can express. -/
def dividedByPower (value : Binary) (exponent : Nat) : Option Binary :=
  if exponent ≤ greatestPower then
    Binary.quotient? .double value (powerOfTen exponent)
  else if value.isZero then
    some value
  else
    match Binary.quotient? .double value (powerOfTen greatestPower) with
    | none => none
    | some smaller => dividedByPower smaller (exponent - greatestPower)
termination_by exponent
decreasing_by
  simp only [greatestPower] at *
  omega

def multipliedByPower (value : Binary) (exponent : Nat) : Option Binary :=
  if exponent ≤ greatestPower then
    match Binary.product? .double value (powerOfTen exponent) with
    | some (.finite negative significand exponent) => some (.finite negative significand exponent)
    | _ => none
  else if value.isZero then
    some value
  else
    none

def powerLimit : Nat := 2147483647

def magnitude? (significand : Nat) (exponent : Int) : Option Binary :=
  let value := Binary.ofInt .double significand
  if 0 ≤ exponent then multipliedByPower value exponent.toNat
  else dividedByPower value exponent.natAbs

def fraction? (numeral : Numeral) : Option Binary :=
  let (leading, dropped) := accumulate 0 numeral.whole
  let (significand, unused) := accumulate leading numeral.part
  let start : Int := dropped.length - (numeral.part.length - unused.length : Nat)
  match numeral.power with
  | none => magnitude? significand start
  | some (negative, row) =>
      let exponent := Decimal.digits 0 row
      if exponent > powerLimit then
        if significand = 0 || negative then some (Binary.zero .double false) else none
      else
        magnitude? significand (if negative then start - exponent else start + exponent)

def isWhole (numeral : Numeral) : Bool :=
  numeral.part.isEmpty && numeral.power.isNone

/-- The value of the numeral. Negative zero is a fraction; a number too great for double precision
has no value. -/
def value? (numeral : Numeral) : Option JsonNumber :=
  let exact := Decimal.digits 0 numeral.whole
  if numeral.isWhole && !numeral.negative && exact < Decimal.wordBound then
    some (.integer exact)
  else if numeral.isWhole && numeral.negative && 0 < exact && 2 * exact ≤ Decimal.wordBound then
    some (.integer (-(exact : Int)))
  else
    match numeral.fraction? with
    | none => none
    | some fraction => some (.double (if numeral.negative then fraction.negate else fraction))

end Numeral

end SearchQuery

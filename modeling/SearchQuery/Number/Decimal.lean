import SearchQuery.Number.Binary
import SearchQuery.Text.Basic

/-!
# Decimal numerals

A whole number is written with an optional sign followed by at least one digit; leading zeros are
allowed and no other character is.

A fraction is written as digits with an optional point, which may stand before the first or after
the last digit, an optional sign and an optional power of ten. The words for the infinities and
for what is no number are read in any case of letters.
-/

set_option autoImplicit false

namespace SearchQuery

namespace Decimal

def wordBound : Nat := 18446744073709551616

def digitValue (c : Char) : Nat :=
  c.toNat - '0'.toNat

/-- The number that a row of digits continues: `digits 12 ['3', '4']` is `1234`. -/
def digits (start : Nat) (row : List Char) : Nat :=
  row.foldl (fun value c => 10 * value + digitValue c) start

def readNat? (text : List Char) : Option Nat :=
  if text.isEmpty then none
  else if text.all Char.isDigit then some (digits 0 text)
  else none

def takeSign : List Char → Bool × List Char
  | '+' :: rest => (false, rest)
  | '-' :: rest => (true, rest)
  | text => (false, text)

def readInt? (text : List Char) : Option Int :=
  let (negative, row) := takeSign text
  match readNat? row with
  | none => none
  | some magnitude => some (if negative then -(magnitude : Int) else (magnitude : Int))

def readBounded? (least most : Int) (text : List Char) : Option Int :=
  match readInt? text with
  | none => none
  | some value => if least ≤ value ∧ value ≤ most then some value else none

structure Fraction where
  coefficient : Nat
  power : Int
deriving DecidableEq, Repr

/-- A power of ten that has reached this bound takes up no further digits: it lies beyond every
format. -/
def powerBound : Nat := 65536

def powerDigits (row : List Char) : Nat :=
  row.foldl (fun value c => if value < powerBound then 10 * value + digitValue c else value) 0

def readPower? : List Char → Option Int
  | [] => some 0
  | c :: rest =>
      if c == 'e' || c == 'E' then
        let (negative, row) := takeSign rest
        if row.isEmpty || !row.all Char.isDigit then none
        else some (if negative then -(powerDigits row : Int) else (powerDigits row : Int))
      else
        none

def readFraction? (text : List Char) : Option Fraction :=
  let whole := text.takeWhile Char.isDigit
  let afterWhole := text.dropWhile Char.isDigit
  let (part, afterPart) :=
    match afterWhole with
    | '.' :: rest => (rest.takeWhile Char.isDigit, rest.dropWhile Char.isDigit)
    | _ => ([], afterWhole)
  if whole.isEmpty && part.isEmpty then
    none
  else
    match readPower? afterPart with
    | none => none
    | some power => some ⟨digits (digits 0 whole) part, power - part.length⟩

end Decimal

namespace Binary

def read? (format : BinaryFormat) (text : String) : Option Binary :=
  let (negative, row) := Decimal.takeSign text.toList
  let word := String.ofList row
  if Text.sameLetters word "nan" then
    some .nan
  else if Text.sameLetters word "inf" || Text.sameLetters word "infinity" then
    some (.infinite negative)
  else
    match Decimal.readFraction? row with
    | none => none
    | some fraction => some (ofDecimal format negative fraction.coefficient fraction.power)

end Binary

end SearchQuery

import SearchQuery.Number.Shortest

/-!
# Number layouts

How the digits of a binary number are written. A layout decides where positional notation ends,
whether a whole number keeps a fractional part, and how the values without digits are spelled.
-/

set_option autoImplicit false

namespace SearchQuery

structure NumberLayout where
  tie : TieBreak
  /-- The least and the greatest exponent written positionally; all of them without this bound. -/
  positional : Option (Int × Int)
  /-- What follows the last digit of a whole number written positionally. -/
  wholeTail : String
  nan : String
  infinity : String
  negativeInfinity : String
deriving DecidableEq, Repr

namespace NumberLayout

def isPositional (layout : NumberLayout) (exponent : Int) : Bool :=
  match layout.positional with
  | none => true
  | some (least, most) => least ≤ exponent && exponent ≤ most

def positionalText (layout : NumberLayout) (digits : DecimalDigits) : String :=
  if digits.point ≤ 0 then
    "0." ++ String.ofList (List.replicate (-digits.point).toNat '0' ++ digits.row)
  else
    let whole := digits.point.toNat
    if digits.row.length ≤ whole then
      String.ofList (digits.row ++ List.replicate (whole - digits.row.length) '0') ++
        layout.wholeTail
    else
      String.ofList (digits.row.take whole) ++ "." ++ String.ofList (digits.row.drop whole)

def scientificText (digits : DecimalDigits) : String :=
  let exponent := digits.point - 1
  let fraction := digits.row.drop 1
  String.ofList (digits.row.take 1) ++
    (if fraction.isEmpty then "" else "." ++ String.ofList fraction) ++
    (if 0 ≤ exponent then "e+" else "e-") ++ exponent.natAbs.repr

def text (layout : NumberLayout) (format : BinaryFormat) : Binary → String
  | .nan => layout.nan
  | .infinite negative => if negative then layout.negativeInfinity else layout.infinity
  | .finite negative significand exponent =>
      let sign := if negative then "-" else ""
      if significand = 0 then
        sign ++ "0" ++ layout.wholeTail
      else
        let digits := Shortest.digits format layout.tie significand exponent
        if layout.isPositional (digits.point - 1) then
          sign ++ layout.positionalText digits
        else
          sign ++ scientificText digits

end NumberLayout

end SearchQuery

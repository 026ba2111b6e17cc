import SearchQuery.Number.Layout

/-!
# JSON values

The values that JSON text can hold. An object keeps its fields in order. Whole numbers are kept
apart from fractions, and fractions have one of two precisions.
-/

set_option autoImplicit false

namespace SearchQuery

inductive JsonNumber where
  | integer (value : Int)
  | double (value : Binary)
  | single (value : Binary)
deriving DecidableEq, Repr

inductive Json where
  | null
  | bool (value : Bool)
  | number (value : JsonNumber)
  | string (text : String)
  | array (items : List Json)
  | object (fields : List (String × Json))

namespace JsonNumber

/-- Fractions of double precision are written positionally from `1e-5` to below `1e16`, always with
a fractional part; what has no digits is `null`. -/
def doubleLayout : NumberLayout :=
  ⟨.toEven, some (-5, 15), ".0", "null", "null", "null"⟩

/-- Fractions of single precision are written positionally from `1e-6` to below `1e13`, always with
a fractional part; what has no digits is `null`. -/
def singleLayout : NumberLayout :=
  ⟨.toEven, some (-6, 12), ".0", "null", "null", "null"⟩

def text : JsonNumber → String
  | .integer value => toString value
  | .double value => doubleLayout.text .double value
  | .single value => singleLayout.text .single value

end JsonNumber

namespace Json

def field? (name : String) (fields : List (String × Json)) : Option Json :=
  fields.lookup name

/-- Sets a field: an existing one keeps its place, a new one goes last. -/
def setField (fields : List (String × Json)) (name : String) (value : Json) :
    List (String × Json) :=
  match fields with
  | [] => [(name, value)]
  | (other, kept) :: rest =>
      if other = name then (name, value) :: rest else (other, kept) :: setField rest name value

end Json

end SearchQuery

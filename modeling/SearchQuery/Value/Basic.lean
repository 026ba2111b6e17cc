import SearchQuery.Error
import SearchQuery.Json.Basic
import SearchQuery.Number.Decimal

/-!
# Typed values

The values that attributes are compared with. A query holds literals, which are texts; the declared
type of the attribute turns a literal into a value or refuses it.
-/

set_option autoImplicit false

namespace SearchQuery

inductive Value where
  | string (text : String)
  | integer (number : Int)
  | long (number : Int)
  | double (number : Binary)
  | float (number : Binary)
  | boolean (truth : Bool)
  | enumeration (label : String)
deriving DecidableEq, Repr

namespace Value

def tag : Value → TypeTag
  | .string _ => .string
  | .integer _ => .integer
  | .long _ => .long
  | .double _ => .double
  | .float _ => .float
  | .boolean _ => .boolean
  | .enumeration _ => .enumeration

/-- Fractions as plain text never have an exponent, and whole ones have no fractional part. -/
def plainLayout : NumberLayout :=
  ⟨.up, none, "", "NaN", "inf", "-inf"⟩

def truthText (truth : Bool) : String :=
  if truth then "true" else "false"

def plainText : Value → String
  | .string text => text
  | .integer number => toString number
  | .long number => toString number
  | .double number => plainLayout.text .double number
  | .float number => plainLayout.text .single number
  | .boolean truth => truthText truth
  | .enumeration label => label

/-- The value itself as a JSON value. What is no finite number is `null`. -/
def content : Value → Json
  | .string text => .string text
  | .integer number => .number (.integer number)
  | .long number => .number (.integer number)
  | .double number => if number.isFinite then .number (.double number) else .null
  | .float number => if number.isFinite then .number (.single number) else .null
  | .boolean truth => .bool truth
  | .enumeration label => .string label

def toJson (value : Value) : Json :=
  .object [("type", .string value.tag.name), ("value", value.content)]

def readInteger? (literal : String) : Option Int :=
  Decimal.readBounded? (-2147483648) 2147483647 literal.toList

def readLong? (literal : String) : Option Int :=
  Decimal.readBounded? (-9223372036854775808) 9223372036854775807 literal.toList

/-- A fraction that the format can hold; the infinities are refused. -/
def readFinite? (format : BinaryFormat) (literal : String) : Option Binary :=
  match Binary.read? format literal with
  | none => none
  | some number => if number.isFinite then some number else none

def readTruth? (literal : String) : Option Bool :=
  if Text.sameLetters literal "true" then some true
  else if Text.sameLetters literal "false" then some false
  else none

def ofLiteral? (literal : String) : AttributeType → Option Value
  | .string => some (.string literal)
  | .integer => (readInteger? literal).map .integer
  | .long => (readLong? literal).map .long
  | .double => (readFinite? .double literal).map .double
  | .float => (readFinite? .single literal).map .float
  | .boolean => (readTruth? literal).map .boolean
  | .enumeration labels => if labels.contains literal then some (.enumeration literal) else none

def coerce (name literal : String) (target : AttributeType) : Except SearchError Value :=
  match ofLiteral? literal target with
  | some value => .ok value
  | none => .error (.valueCoercion name literal target)

end Value

end SearchQuery

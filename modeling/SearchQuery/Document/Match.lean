import SearchQuery.Document.Basic
import SearchQuery.Filter

/-!
# Documents that satisfy a filter

A filter is true, false or unknown of a document. A test of an attribute without any value is
unknown, negation leaves the unknown unknown, and the connectives follow three-valued logic. A
document is kept when the filter is true of it.
-/

set_option autoImplicit false

namespace SearchQuery

/-- Three truth values: `none` is the unknown one. -/
abbrev Truth := Option Bool

namespace Truth

def and : Truth → Truth → Truth
  | some false, _ => some false
  | _, some false => some false
  | some true, some true => some true
  | _, _ => none

def or : Truth → Truth → Truth
  | some true, _ => some true
  | _, some true => some true
  | some false, some false => some false
  | _, _ => none

def not : Truth → Truth
  | some truth => some (!truth)
  | none => none

end Truth

namespace Document

def text? : Json → Option String
  | .string text => some text
  | .number number => some number.text
  | .bool truth => some (Value.truthText truth)
  | _ => none

def numberAsDouble : JsonNumber → Binary
  | .integer value => Binary.ofInt .double value
  | .double value => value
  | .single value => value

def double? : Json → Option Binary
  | .number number => some (numberAsDouble number)
  | .string text => Binary.read? .double text
  | _ => none

/-- The order of a value and a whole number. Whole numbers are compared exactly, fractions in double
precision. -/
def compareInteger? (value : Json) (number : Int) : Option Ordering :=
  match value with
  | .number (.integer integer) => some (compare integer number)
  | .number other => (numberAsDouble other).compare? (Binary.ofInt .double number)
  | .string text =>
      match Value.readLong? text with
      | some integer => some (compare integer number)
      | none =>
        match Binary.read? .double text with
        | none => none
        | some fraction => fraction.compare? (Binary.ofInt .double number)
  | _ => none

def truth? : Json → Option Bool
  | .bool truth => some truth
  | .string text => Value.readTruth? text
  | _ => none

def compare? (value : Json) : Value → Option Ordering
  | .integer number => compareInteger? value number
  | .long number => compareInteger? value number
  | .double number =>
      match double? value with
      | none => none
      | some fraction => fraction.compare? number
  | .float number =>
      match double? value with
      | none => none
      | some fraction => (fraction.toFormat .single).compare? number
  | .boolean truth => (truth? value).map (compare · truth)
  | .string text => (text? value).map (compare · text)
  | .enumeration label => (text? value).map (compare · label)

def like (anchor : Anchor) (value : Json) (pattern : Value) : Bool :=
  match text? value with
  | none => false
  | some text =>
      anchor.occurs (Text.lowercase pattern.plainText).toList (Text.lowercase text).toList

def satisfies (value : Json) (kind : Comparison) (other : Value) : Bool :=
  match kind with
  | .like => like .contains value other
  | .startsWith => like .start value other
  | .endsWith => like .ending value other
  | .notLike => (text? value).isSome && !like .contains value other
  | .equal => compare? value other == some .eq
  | .notEqual => compare? value other == some .lt || compare? value other == some .gt
  | .greaterThan => compare? value other == some .gt
  | .greaterOrEqual => compare? value other == some .gt || compare? value other == some .eq
  | .lessThan => compare? value other == some .lt
  | .lessOrEqual => compare? value other == some .lt || compare? value other == some .eq

/-- Some value of the attribute passes the test; unknown when it has no value. -/
def anyPresent (document : Json) (name : String) (test : Json → Bool) : Truth :=
  match presentValues document name with
  | [] => none
  | values => some (values.any test)

def evaluate (document : Json) : Filter → Truth
  | .comparison name kind value =>
      anyPresent document name fun present => satisfies present kind value
  | .membership name values =>
      anyPresent document name fun present =>
        values.any fun value => compare? present value == some .eq
  | .isNull name => some (presentValues document name).isEmpty
  | .isNotNull name => some !(presentValues document name).isEmpty
  | .and left right => (evaluate document left).and (evaluate document right)
  | .or left right => (evaluate document left).or (evaluate document right)
  | .not inner => (evaluate document inner).not

def isMatch (filter : Filter) (document : Json) : Bool :=
  evaluate document filter == some true

def select (filter : Filter) (documents : List Json) : List Json :=
  documents.filter (isMatch filter)

def collection : Json → List Json
  | .array items => items
  | document => [document]

end Document

end SearchQuery

import SearchQuery.Predicate.Basic
import SearchQuery.Text.Lowercase
import SearchQuery.Value.Basic

/-!
# Filters

A filter is a search with typed values, ready for a store. `Predicate.toFilter` gives the literals
of a predicate the types that the store declares. As JSON, each node of a filter is an object with
one field, which is named for the kind of the node. Some comparisons ask that one text occur in
another, anywhere or at one of its ends. In memory the two texts are compared directly; for a
database a pattern is written with `%` for any text, `_` for any character and a backslash before a
character that is meant literally.
-/

set_option autoImplicit false

namespace SearchQuery

inductive Comparison where
  | equal
  | notEqual
  | greaterThan
  | greaterOrEqual
  | lessThan
  | lessOrEqual
  | like
  | notLike
  | startsWith
  | endsWith
deriving DecidableEq, Repr

def Comparison.name : Comparison → String
  | .equal => "equal"
  | .notEqual => "not_equal"
  | .greaterThan => "greater_than"
  | .greaterOrEqual => "greater_or_equal"
  | .lessThan => "less_than"
  | .lessOrEqual => "less_or_equal"
  | .like => "like"
  | .notLike => "not_like"
  | .startsWith => "starts_with"
  | .endsWith => "ends_with"

def Operator.comparison? : Operator → Option Comparison
  | .equal => some .equal
  | .notEqual => some .notEqual
  | .greaterThan => some .greaterThan
  | .greaterOrEqual => some .greaterOrEqual
  | .lessThan => some .lessThan
  | .lessOrEqual => some .lessOrEqual
  | .like => some .like
  | .notLike => some .notLike
  | .startsWith => some .startsWith
  | .endsWith => some .endsWith
  | .isIn => none
  | .notIn => none
  | .isNull => none
  | .isNotNull => none

inductive Filter where
  | comparison (name : String) (kind : Comparison) (value : Value)
  | membership (name : String) (values : List Value)
  | isNull (name : String)
  | isNotNull (name : String)
  | and (left right : Filter)
  | or (left right : Filter)
  | not (inner : Filter)
deriving DecidableEq, Repr

/-- The declared types of attributes. An attribute without a type holds strings. -/
def TypeResolver : Type := String → Option AttributeType

def TypeResolver.typeOf (types : TypeResolver) (name : String) : AttributeType :=
  (types name).getD .string

namespace Predicate

/-- The literals of one attribute as values, up to the first one that is none. -/
def coerceAll (name : String) (target : AttributeType) : List String → Except SearchError (List Value)
  | [] => .ok []
  | literal :: rest => do
      let value ← Value.coerce name literal target
      let values ← coerceAll name target rest
      return value :: values

/-- The filter of a predicate under the declared types. Two negations in a row cancel out. -/
def toFilter (types : TypeResolver) : Predicate → Except SearchError Filter
  | .bare name operator =>
      match operator with
      | .isNull => .ok (.isNull name)
      | .isNotNull => .ok (.isNotNull name)
      | other => .error (.invalidPredicate (.unsupportedForm name other))
  | .single name operator literal =>
      match operator.comparison? with
      | none => .error (.invalidPredicate (.unsupportedForm name operator))
      | some kind => do
          let value ← Value.coerce name literal (types.typeOf name)
          return .comparison name kind value
  | .multiple name operator literals => do
      let values ← coerceAll name (types.typeOf name) literals
      match operator with
      | .isIn => return .membership name values
      | .notIn => return .not (.membership name values)
      | other => .error (.invalidPredicate (.unsupportedForm name other))
  | .and left right => do
      let leftFilter ← left.toFilter types
      let rightFilter ← right.toFilter types
      return .and leftFilter rightFilter
  | .or left right => do
      let leftFilter ← left.toFilter types
      let rightFilter ← right.toFilter types
      return .or leftFilter rightFilter
  | .not (.not inner) => inner.toFilter types
  | .not inner => do
      let filter ← inner.toFilter types
      return .not filter

end Predicate

def Search.toFilter (types : TypeResolver) : Search → Except SearchError (Option Filter)
  | .all => .ok none
  | .only predicate => (predicate.toFilter types).map some

namespace Filter

def toJson : Filter → Json
  | .comparison name kind value =>
      .object [("comparison", .object
        [("attribute", .string name), ("operator", .string kind.name),
          ("value", value.toJson)])]
  | .membership name values =>
      .object [("membership", .object
        [("attribute", .string name), ("values", .array (values.map Value.toJson))])]
  | .isNull name => .object [("is_null", .object [("attribute", .string name)])]
  | .isNotNull name => .object [("is_not_null", .object [("attribute", .string name)])]
  | .and left right => .object [("and", .array [left.toJson, right.toJson])]
  | .or left right => .object [("or", .array [left.toJson, right.toJson])]
  | .not inner => .object [("not", inner.toJson)]

def toJson? : Option Filter → Json
  | none => .null
  | some filter => filter.toJson

end Filter

/-! ## Patterns -/

inductive Anchor where
  | contains
  | start
  | ending
deriving DecidableEq, Repr

def occursIn (part : List Char) : List Char → Bool
  | [] => part.isEmpty
  | c :: rest => part.isPrefixOf (c :: rest) || occursIn part rest

def Anchor.occurs (anchor : Anchor) (part text : List Char) : Bool :=
  match anchor with
  | .contains => occursIn part text
  | .start => part.isPrefixOf text
  | .ending => part.isSuffixOf text

/-- The text with a backslash before each character that patterns give a meaning. -/
def escapedPattern : List Char → List Char
  | [] => []
  | c :: rest =>
      if c == '\\' || c == '%' || c == '_' then '\\' :: c :: escapedPattern rest
      else c :: escapedPattern rest

def Anchor.pattern (anchor : Anchor) (text : List Char) : List Char :=
  match anchor with
  | .contains => '%' :: escapedPattern text ++ ['%']
  | .start => escapedPattern text ++ ['%']
  | .ending => '%' :: escapedPattern text

/-- The pattern for the lowercase text of a value. -/
def Anchor.boundPattern (anchor : Anchor) (value : Value) : Value :=
  .string (String.ofList (anchor.pattern (Text.lowercase value.plainText).toList))

end SearchQuery

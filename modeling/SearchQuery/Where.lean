import SearchQuery.Filter
import SearchQuery.Text.Basic

/-!
# Conditions with placeholders

A condition is what stands after `WHERE` in a statement. It never holds a value: every value is
bound to a numbered placeholder, in the order in which the placeholders occur. It is written with
quoted column names, and every conjunction and disjunction has its own parentheses.
-/

set_option autoImplicit false

namespace SearchQuery

inductive Sign where
  | equal
  | notEqual
  | greaterThan
  | greaterOrEqual
  | lessThan
  | lessOrEqual
deriving DecidableEq, Repr

def Sign.text : Sign → String
  | .equal => "="
  | .notEqual => "<>"
  | .greaterThan => ">"
  | .greaterOrEqual => ">="
  | .lessThan => "<"
  | .lessOrEqual => "<="

/-- A condition; numbers stand for placeholders. -/
inductive Condition where
  | compare (name : String) (sign : Sign) (placeholder : Nat)
  | like (name : String) (negated : Bool) (placeholder : Nat)
  | within (name : String) (placeholders : List Nat)
  | isNull (name : String)
  | isNotNull (name : String)
  | and (left right : Condition)
  | or (left right : Condition)
  | not (inner : Condition)
deriving DecidableEq, Repr

inductive Expression where
  | sign (sign : Sign)
  | pattern (anchor : Anchor) (negated : Bool)
deriving DecidableEq, Repr

def Comparison.expression : Comparison → Expression
  | .equal => .sign .equal
  | .notEqual => .sign .notEqual
  | .greaterThan => .sign .greaterThan
  | .greaterOrEqual => .sign .greaterOrEqual
  | .lessThan => .sign .lessThan
  | .lessOrEqual => .sign .lessOrEqual
  | .like => .pattern .contains false
  | .notLike => .pattern .contains true
  | .startsWith => .pattern .start false
  | .endsWith => .pattern .ending false

structure BoundCondition where
  condition : Condition
  parameters : List Value
deriving DecidableEq, Repr

/-- The number of the last placeholder in use, and the values bound so far. -/
structure Bindings where
  counter : UInt64
  parameters : List Value

abbrev Binder := StateT Bindings (Except SearchError)

def bindValue (value : Value) : Binder Nat := do
  modify fun bindings => ⟨bindings.counter + 1, bindings.parameters ++ [value]⟩
  return (← get).counter.toNat

namespace Filter

/-- A membership test without values has no condition. -/
def build : Filter → Binder Condition
  | .comparison name kind value =>
      match kind.expression with
      | .sign sign => return .compare name sign (← bindValue value)
      | .pattern anchor negated =>
          return .like name negated (← bindValue (anchor.boundPattern value))
  | .membership name values => do
      if values.isEmpty then
        throw (.invalidPredicate (.emptyMembership name))
      return .within name (← values.mapM bindValue)
  | .isNull name => return .isNull name
  | .isNotNull name => return .isNotNull name
  | .and left right => return .and (← left.build) (← right.build)
  | .or left right => return .or (← left.build) (← right.build)
  | .not inner => return .not (← inner.build)

def toCondition (used : Nat) (filter : Filter) : Except SearchError BoundCondition := do
  let (condition, bindings) ← filter.build.run ⟨.ofNat used, []⟩
  return ⟨condition, bindings.parameters⟩

end Filter

/-! ## The text of a condition -/

namespace Condition

def doubledQuotes : List Char → List Char
  | [] => []
  | c :: rest => if c = '"' then '"' :: '"' :: doubledQuotes rest else c :: doubledQuotes rest

def quotedPart (part : List Char) : List Char :=
  '"' :: doubledQuotes part ++ ['"']

def separated (separator : List Char) : List (List Char) → List Char
  | [] => []
  | [text] => text
  | text :: next :: rest => text ++ separator ++ separated separator (next :: rest)

def column (name : String) : List Char :=
  separated ['.'] ((Text.dottedParts name.toList).map quotedPart)

def placeholderText (placeholder : Nat) : List Char :=
  '$' :: (Nat.repr placeholder).toList

def characters : Condition → List Char
  | .compare name sign placeholder =>
      column name ++ ' ' :: sign.text.toList ++ ' ' :: placeholderText placeholder
  | .like name negated placeholder =>
      "LOWER(".toList ++ column name ++ (if negated then ") NOT LIKE " else ") LIKE ").toList ++
        placeholderText placeholder
  | .within name placeholders =>
      column name ++ " IN (".toList ++
        separated [',', ' '] (placeholders.map placeholderText) ++ [')']
  | .isNull name => column name ++ " IS NULL".toList
  | .isNotNull name => column name ++ " IS NOT NULL".toList
  | .and left right => '(' :: left.characters ++ " AND ".toList ++ right.characters ++ [')']
  | .or left right => '(' :: left.characters ++ " OR ".toList ++ right.characters ++ [')']
  | .not inner => "NOT (".toList ++ inner.characters ++ [')']

def text (condition : Condition) : String :=
  String.ofList condition.characters

end Condition

def BoundCondition.parametersJson (bound : BoundCondition) : Json :=
  .array (bound.parameters.map Value.toJson)

end SearchQuery

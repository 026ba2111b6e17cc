/-!
# Search operators and joining words

The catalog of operators a query may use. Each operator has a two-letter code, by which queries
name it, and an arity, which says what kind of value follows the code. A group joins exactly two
expressions, with one of two words.
-/

set_option autoImplicit false

namespace SearchQuery

inductive Arity where
  | none
  | single
  | multiple
deriving DecidableEq, Repr

def Arity.phrase : Arity → String
  | .none => "no value"
  | .single => "a single value"
  | .multiple => "a list of values"

inductive Operator where
  | equal
  | notEqual
  | greaterThan
  | greaterOrEqual
  | lessThan
  | lessOrEqual
  | like
  | notLike
  | startsWith
  | endsWith
  | isIn
  | notIn
  | isNull
  | isNotNull
deriving DecidableEq, Repr

namespace Operator

def catalog : List Operator :=
  [.equal, .notEqual, .greaterThan, .greaterOrEqual, .lessThan, .lessOrEqual, .like, .notLike,
    .startsWith, .endsWith, .isIn, .notIn, .isNull, .isNotNull]

def code : Operator → String
  | .equal => "eq"
  | .notEqual => "ne"
  | .greaterThan => "gt"
  | .greaterOrEqual => "ge"
  | .lessThan => "lt"
  | .lessOrEqual => "le"
  | .like => "lk"
  | .notLike => "nl"
  | .startsWith => "sw"
  | .endsWith => "ew"
  | .isIn => "in"
  | .notIn => "ni"
  | .isNull => "nu"
  | .isNotNull => "nn"

def arity : Operator → Arity
  | .isNull => .none
  | .isNotNull => .none
  | .isIn => .multiple
  | .notIn => .multiple
  | _ => .single

/-- The operator that a code names. Codes are matched exactly, case included. -/
def ofCode? (text : String) : Option Operator :=
  catalog.find? fun operator => operator.code == text

theorem ofCode?_code (operator : Operator) : ofCode? operator.code = some operator := by
  cases operator <;> rfl

theorem code_of_ofCode? {text : String} {operator : Operator}
    (found : ofCode? text = some operator) : operator.code = text := by
  simpa using List.find?_some found

end Operator

inductive Join where
  | and
  | or
deriving DecidableEq, Repr

def Join.keyword : Join → String
  | .and => "AND"
  | .or => "OR"

end SearchQuery

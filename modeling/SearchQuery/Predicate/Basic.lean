import SearchQuery.Error
import SearchQuery.Text.Basic
import SearchQuery.Worklist

/-!
# Predicates

A search is a tree: tests of one attribute at the leaves, conjunctions, disjunctions and negations
above them. The constructors `bare?`, `single?` and `multiple?` admit exactly the leaves that a
query can spell; the tree type itself admits every combination.
-/

set_option autoImplicit false

namespace SearchQuery

def reservedCharacters : List Char :=
  ['|', ':', '(', ')', '"', '!', ',', '\\']

def isNameCharacter (c : Char) : Bool :=
  !Text.isBlank c && !reservedCharacters.contains c

inductive Predicate where
  | bare (name : String) (operator : Operator)
  | single (name : String) (operator : Operator) (value : String)
  | multiple (name : String) (operator : Operator) (values : List String)
  | and (left right : Predicate)
  | or (left right : Predicate)
  /-- Negations are kept as written: two in a row stay two. -/
  | not (inner : Predicate)
deriving DecidableEq, Repr

namespace Predicate

def checkName (name : String) : Except SearchError Unit :=
  if name.isEmpty then
    .error (.invalidPredicate .emptyName)
  else
    match name.toList.find? fun c => !isNameCharacter c with
    | none => .ok ()
    | some character => .error (.invalidPredicate (.reservedCharacter name character))

def checkArity (name : String) (operator : Operator) (given : Arity) : Except SearchError Unit :=
  if operator.arity = given then
    .ok ()
  else
    .error (.invalidPredicate (.wrongArity name operator given))

def checkValue (name value : String) : Except SearchError Unit :=
  if value.isEmpty then .error (.invalidPredicate (.blankValue name)) else .ok ()

def bare? (name : String) (operator : Operator) : Except SearchError Predicate := do
  checkName name
  checkArity name operator .none
  return .bare name operator

def single? (name : String) (operator : Operator) (value : String) :
    Except SearchError Predicate := do
  checkName name
  checkArity name operator .single
  checkValue name value
  return .single name operator value

def multiple? (name : String) (operator : Operator) (values : List String) :
    Except SearchError Predicate := do
  checkName name
  checkArity name operator .multiple
  if values.isEmpty then
    .error (.invalidPredicate (.noValues name operator))
  values.forM (checkValue name)
  return .multiple name operator values

def name? : Predicate → Option String
  | .bare name _ => some name
  | .single name _ _ => some name
  | .multiple name _ _ => some name
  | .and _ _ => none
  | .or _ _ => none
  | .not _ => none

def operator? : Predicate → Option Operator
  | .bare _ operator => some operator
  | .single _ operator _ => some operator
  | .multiple _ operator _ => some operator
  | .and _ _ => none
  | .or _ _ => none
  | .not _ => none

theorem sizeOf_pos (predicate : Predicate) : 0 < sizeOf predicate := by
  cases predicate <;> simp +arith

theorem load_pair_lt {left right whole : Predicate}
    (both : sizeOf left + sizeOf right < sizeOf whole) :
    Worklist.load [right, left] < sizeOf whole := by
  simp only [Worklist.load]
  omega

/-- A leaf has a name, and a group leads on to its two sides, the left one last, so that it is taken
first. -/
def visitName : (predicate : Predicate) → Worklist.Visit String predicate
  | .bare name operator => ⟨[], [name], sizeOf_pos (.bare name operator)⟩
  | .single name operator value => ⟨[], [name], sizeOf_pos (.single name operator value)⟩
  | .multiple name operator values => ⟨[], [name], sizeOf_pos (.multiple name operator values)⟩
  | .and left right => ⟨[right, left], [], load_pair_lt (by simp +arith)⟩
  | .or left right => ⟨[right, left], [], load_pair_lt (by simp +arith)⟩
  | .not inner => ⟨[inner], [], by simp [Worklist.load]⟩

def attributeNames (predicate : Predicate) : List String :=
  Worklist.run visitName [predicate] []

def negated (predicate : Predicate) : Nat → Predicate
  | 0 => predicate
  | count + 1 => .not (predicate.negated count)

def joined (left : Predicate) : Join → Predicate → Predicate
  | .and, right => .and left right
  | .or, right => .or left right

end Predicate

inductive Search where
  | all
  | only (predicate : Predicate)
deriving DecidableEq, Repr

namespace Search

def isAll : Search → Bool
  | .all => true
  | .only _ => false

def predicate? : Search → Option Predicate
  | .all => none
  | .only predicate => some predicate

def ofPredicate? : Option Predicate → Search
  | none => .all
  | some predicate => .only predicate

end Search

end SearchQuery

import SearchQuery.Document.Match
import SearchQuery.Proofs.Sql.Syntax

/-!
# What a clause says of a row

A clause is evaluated on one row, with a value bound to every parameter.  A column without a value
is `NULL`, tests of it are unknown, and the connectives take the lesser or the greater of their two
sides, where the unknown stands between the false and the true.  What a database would refuse has no
truth at all: a parameter without a value, or a test of things of different kinds.
-/

set_option autoImplicit false

namespace SearchQuery.Sql

/-! ## Three truth values -/

/-- The place of a truth value in the order false, unknown, true. -/
def rank : Truth → Nat
  | some false => 0
  | none => 1
  | some true => 2

def lesser (left right : Truth) : Truth :=
  if rank left ≤ rank right then left else right

def greater (left right : Truth) : Truth :=
  if rank left ≤ rank right then right else left

def opposite (truth : Truth) : Truth :=
  if rank truth = 0 then some true else if rank truth = 1 then none else some false

theorem lesser_eq_and (left right : Truth) : lesser left right = left.and right := by
  obtain _ | _ | _ := left <;> obtain _ | _ | _ := right <;> rfl

theorem greater_eq_or (left right : Truth) : greater left right = left.or right := by
  obtain _ | _ | _ := left <;> obtain _ | _ | _ := right <;> rfl

theorem opposite_eq_not (truth : Truth) : opposite truth = truth.not := by
  obtain _ | _ | _ := truth <;> rfl

theorem opposite_opposite (truth : Truth) : opposite (opposite truth) = truth := by
  obtain _ | _ | _ := truth <;> rfl

/-! ## Data -/

/-- What is compared: a text, a whole number or a truth value. -/
inductive Datum where
  | text (text : String)
  | number (number : Int)
  | truth (truth : Bool)
deriving DecidableEq, Repr

def Datum.ofLeaf? : Json → Option Datum
  | .string content => some (.text content)
  | .number (.integer value) => some (.number value)
  | .bool value => some (.truth value)
  | _ => none

def Datum.ofValue? : Value → Option Datum
  | .string content => some (.text content)
  | .enumeration label => some (.text label)
  | .integer value => some (.number value)
  | .long value => some (.number value)
  | .boolean value => some (.truth value)
  | .double _ => none
  | .float _ => none

/-- The orders in which a comparison holds. -/
def holds : Sign → Ordering → Bool
  | .equal, order => order.isEq
  | .notEqual, order => order.isNe
  | .greaterThan, order => order.isGT
  | .greaterOrEqual, order => order.isGE
  | .lessThan, order => order.isLT
  | .lessOrEqual, order => order.isLE

def firstThen (accepts : Char → Bool) (next : List Char → Bool) : List Char → Bool
  | [] => false
  | c :: rest => accepts c && next rest

/-- A pattern matches a text: `%` stands for any text, `_` for any character, and a character after
a backslash for itself. -/
def likeMatch : List Char → List Char → Bool
  | [], text => text.isEmpty
  | c :: pattern, text =>
      if c = '%' then
        (List.range (text.length + 1)).any fun skipped => likeMatch pattern (text.drop skipped)
      else if c = '_' then
        firstThen (fun _ => true) (likeMatch pattern) text
      else if c = '\\' then
        match pattern with
        | [] => false
        | literal :: others => firstThen (· == literal) (likeMatch others) text
      else
        firstThen (· == c) (likeMatch pattern) text

/-! ## Clauses -/

/-- What a clause is evaluated with: the row, the values of the parameters, and two things that the
database decides, how it writes texts in lowercase and how it orders them. -/
structure Session where
  row : List String → Option Json
  parameter : Nat → Option Value
  lower : String → String
  collate : String → String → Ordering

namespace Session

variable (session : Session)

def order? : Datum → Datum → Option Ordering
  | .text left, .text right => some (session.collate left right)
  | .number left, .number right => some (compare left right)
  | .truth left, .truth right => some (compare left right)
  | _, _ => none

/-- What an operand holds: `NULL`, or a datum. -/
def cell? : Operand → Option (Option Datum)
  | .column path =>
      match session.row path with
      | none => some none
      | some leaf => (Datum.ofLeaf? leaf).map some
  | .lower path =>
      match session.row path with
      | none => some none
      | some (.string text) => some (some (.text (session.lower text)))
      | some _ => none

def bound? (number : Nat) : Option Datum :=
  (session.parameter number).bind Datum.ofValue?

def isNull : Operand → Bool
  | .column path => (session.row path).isNone
  | .lower path => (session.row path).isNone

/-- A test of a cell, which is unknown of `NULL`. -/
def test? (passes? : Datum → Option Bool) : Option Datum → Option Truth
  | none => some none
  | some datum => (passes? datum).map some

def compare? (sign : Sign) (other : Datum) (datum : Datum) : Option Bool :=
  (session.order? datum other).map (holds sign)

def like? (negated : Bool) : Datum → Datum → Option Bool
  | .text pattern, .text text => some (likeMatch pattern.toList text.toList != negated)
  | _, _ => none

/-- `IN` is a disjunction of equations. -/
def within? (cell : Option Datum) : List Nat → Option Truth
  | [] => some (some false)
  | number :: rest => do
      let other ← session.bound? number
      let first ← test? (session.compare? .equal other) cell
      let others ← within? cell rest
      return greater first others

end Session

/-- The truth of a clause. -/
def Clause.evaluate? (session : Session) : Clause → Option Truth
  | .compare operand sign number => do
      let cell ← session.cell? operand
      let other ← session.bound? number
      Session.test? (session.compare? sign other) cell
  | .like operand negated number => do
      let cell ← session.cell? operand
      let pattern ← session.bound? number
      Session.test? (Session.like? negated pattern) cell
  | .within operand numbers => do
      let cell ← session.cell? operand
      session.within? cell numbers
  | .null operand negated => some (some (session.isNull operand != negated))
  | .and left right => do
      let leftTruth ← left.evaluate? session
      let rightTruth ← right.evaluate? session
      return lesser leftTruth rightTruth
  | .or left right => do
      let leftTruth ← left.evaluate? session
      let rightTruth ← right.evaluate? session
      return greater leftTruth rightTruth
  | .not inner => do
      let truth ← inner.evaluate? session
      return opposite truth

/-- The row is kept: the clause is true of it, and not only unknown. -/
def Clause.keeps (session : Session) (clause : Clause) : Prop :=
  clause.evaluate? session = some (some true)

end SearchQuery.Sql

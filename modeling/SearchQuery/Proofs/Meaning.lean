import SearchQuery.Proofs.Sql.Meaning
import SearchQuery.Proofs.Translation

/-!
# What a predicate says of a document

A predicate is true, false or unknown of a document by its own structure: a leaf looks at the values
of its attribute, the connectives take the lesser or the greater truth, and every negation turns the
truth around.  The filter of the predicate says the same of every document.
-/

set_option autoImplicit false

namespace SearchQuery

open Sql (lesser greater opposite)

/-! ## Leaves -/

/-- Whether the text of the value occurs in that of the document value, case ignored; a document
value without a text has no answer. -/
def Document.occurrence? (anchor : Anchor) (present : Json) (value : Value) : Option Bool :=
  (text? present).map fun text =>
    anchor.occurs (Text.lowercase value.plainText).toList (Text.lowercase text).toList

/-- A document value passes the test against one value. -/
def Operator.accepts (operator : Operator) (present : Json) (value : Value) : Bool :=
  match operator with
  | .equal => (Document.compare? present value).any Ordering.isEq
  | .notEqual => (Document.compare? present value).any Ordering.isNe
  | .greaterThan => (Document.compare? present value).any Ordering.isGT
  | .greaterOrEqual => (Document.compare? present value).any Ordering.isGE
  | .lessThan => (Document.compare? present value).any Ordering.isLT
  | .lessOrEqual => (Document.compare? present value).any Ordering.isLE
  | .like => Document.occurrence? .contains present value == some true
  | .notLike => Document.occurrence? .contains present value == some false
  | .startsWith => Document.occurrence? .start present value == some true
  | .endsWith => Document.occurrence? .ending present value == some true
  | .isIn | .notIn | .isNull | .isNotNull => false

/-- The truth of a test of an attribute: unknown without a value, and else whether some value
passes. -/
def Document.tested (document : Json) (name : String) (test : Json → Bool) : Truth :=
  if (presentValues document name).isEmpty then none
  else some ((presentValues document name).any test)

theorem Document.anyPresent_eq_tested (document : Json) (name : String) (test : Json → Bool) :
    anyPresent document name test = tested document name test := by
  rw [anyPresent, tested]
  cases presentValues document name <;> rfl

theorem Document.satisfies_eq_accepts (present : Json) (kind : Comparison) (value : Value) :
    satisfies present kind value = kind.operator.accepts present value := by
  cases kind with
  | like =>
      simp only [satisfies, like, Comparison.operator, Operator.accepts, occurrence?]
      cases text? present <;> simp
  | notLike =>
      simp only [satisfies, like, Comparison.operator, Operator.accepts, occurrence?]
      cases text? present <;> simp
  | startsWith =>
      simp only [satisfies, like, Comparison.operator, Operator.accepts, occurrence?]
      cases text? present <;> simp
  | endsWith =>
      simp only [satisfies, like, Comparison.operator, Operator.accepts, occurrence?]
      cases text? present <;> simp
  | _ =>
      simp only [satisfies, Comparison.operator, Operator.accepts]
      obtain _ | _ | _ | _ := compare? present value <;> rfl

namespace Predicate

/-- The truth of a predicate of a document.  A literal that is no value of its type is passed by
nothing. -/
def meaning (types : TypeResolver) (document : Json) : Predicate → Truth
  | .bare name .isNull => some (Document.presentValues document name).isEmpty
  | .bare name .isNotNull => some !(Document.presentValues document name).isEmpty
  | .bare _ _ => none
  | .single name operator literal =>
      Document.tested document name fun present =>
        (Value.ofLiteral? literal (types.typeOf name)).any fun value =>
          operator.accepts present value
  | .multiple name .isIn literals => within name literals
  | .multiple name .notIn literals => opposite (within name literals)
  | .multiple _ _ _ => none
  | .and left right => lesser (left.meaning types document) (right.meaning types document)
  | .or left right => greater (left.meaning types document) (right.meaning types document)
  | .not inner => opposite (inner.meaning types document)
where
  /-- Some value of the attribute equals one of the literals. -/
  within (name : String) (literals : List String) : Truth :=
    Document.tested document name fun present =>
      literals.any fun literal =>
        (Value.ofLiteral? literal (types.typeOf name)).any fun value =>
          Operator.equal.accepts present value

variable {types : TypeResolver} {document : Json}

theorem evaluate_negated {predicate : Predicate} {filter : Filter}
    (same : Document.evaluate document filter = predicate.meaning types document) (count : Nat) :
    Document.evaluate document (filter.negated (count % 2)) =
      (predicate.negated count).meaning types document := by
  have cancels : ∀ inner : Predicate,
      (Predicate.not (.not inner)).meaning types document = inner.meaning types document := by
    intro inner
    rw [meaning, meaning, Sql.opposite_opposite]
  rw [negated_parity (meaning types document) cancels]
  rcases Nat.mod_two_eq_zero_or_one count with even | odd
  · rw [even, Filter.negated, negated, same]
  · rw [odd, Filter.negated, Filter.negated, negated, negated, Document.evaluate, meaning, same,
      Sql.opposite_eq_not]

theorem any_of_spell {name : String} {literals : List String} {values : List Value}
    (spelled : Spell types name literals values) (test : Value → Bool) :
    (literals.any fun literal => (Value.ofLiteral? literal (types.typeOf name)).any test) =
      values.any test := by
  induction spelled with
  | nil => rfl
  | cons first _ inductionHypothesis =>
      rw [List.any_cons, List.any_cons, first, inductionHypothesis]
      rfl

theorem evaluate_membership {name : String} {literals : List String} {values : List Value}
    (spelled : Spell types name literals values) :
    Document.evaluate document (.membership name values) =
      meaning.within types document name literals := by
  rw [Document.evaluate, Document.anyPresent_eq_tested, meaning.within]
  congr 1
  funext present
  rw [any_of_spell spelled]
  congr 1
  funext value
  exact Document.satisfies_eq_accepts present .equal value

theorem Translates.evaluate_eq {predicate : Predicate} {filter : Filter}
    (translates : Translates types predicate filter) :
    Document.evaluate document filter = predicate.meaning types document := by
  induction translates with
  | isNull name => rfl
  | isNotNull name => rfl
  | comparison kind spelled =>
      rw [Document.evaluate, Document.anyPresent_eq_tested, meaning, spelled]
      congr 1
      funext present
      exact Document.satisfies_eq_accepts present kind _
  | isIn spelled => exact evaluate_membership spelled
  | notIn spelled =>
      rw [Document.evaluate, evaluate_membership spelled, meaning, Sql.opposite_eq_not]
  | and _ _ leftSame rightSame =>
      rw [Document.evaluate, meaning, leftSame, rightSame, Sql.lesser_eq_and]
  | or _ _ leftSame rightSame =>
      rw [Document.evaluate, meaning, leftSame, rightSame, Sql.greater_eq_or]
  | negations count _ _ innerSame => exact evaluate_negated innerSame (count + 1)

/-- The filter of a predicate says of every document what the predicate says of it. -/
theorem evaluate_toFilter_eq_meaning {types : TypeResolver} {predicate : Predicate}
    {filter : Filter} (translated : predicate.toFilter types = .ok filter) (document : Json) :
    Document.evaluate document filter = predicate.meaning types document :=
  (translates_of_toFilter predicate 0 filter translated).evaluate_eq

def sampleDoubt : Predicate :=
  .or (.not (.not (.not (.single "tags" .equal "red")))) (.not (.multiple "size" .notIn ["4", "5"]))

def sampleDoubtFilter : Filter :=
  .or (.not (.comparison "tags" .equal (.string "red")))
    (.not (.not (.membership "size" [.integer 4, .integer 5])))

def sampleDoubtTypes : TypeResolver := fun name =>
  if name = "size" then some .integer else none

def sampleTagged (size : List (String × Json)) : Json :=
  .object (("tags", .array [.string "blue", .string "red"]) :: size)

/-- With a red tag among others the first half is false, so the second decides; it is unknown as
long as there is no size. -/
theorem evaluate_toFilter_eq_meaning_tagged :
    sampleDoubt.toFilter sampleDoubtTypes = .ok sampleDoubtFilter ∧
      Document.evaluate (sampleTagged []) sampleDoubtFilter = none ∧
      Document.evaluate (sampleTagged [("size", .number (.integer 5))]) sampleDoubtFilter =
        some true := by
  have translated : sampleDoubt.toFilter sampleDoubtTypes = .ok sampleDoubtFilter := by
    decide +kernel
  have doubtful : sampleDoubt.meaning sampleDoubtTypes (sampleTagged []) = none := by
    decide +kernel
  have certain : sampleDoubt.meaning sampleDoubtTypes
      (sampleTagged [("size", .number (.integer 5))]) = some true := by
    decide +kernel
  refine ⟨translated, ?_, ?_⟩
  · rw [evaluate_toFilter_eq_meaning translated, doubtful]
  · rw [evaluate_toFilter_eq_meaning translated, certain]

end Predicate

end SearchQuery

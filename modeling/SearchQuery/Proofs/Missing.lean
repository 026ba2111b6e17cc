import SearchQuery.Proofs.Meaning
import SearchQuery.Proofs.Rearrangement

/-!
# What a document does not say

An attribute without a value leaves the tests of it unknown.  A filter may be decided all the same,
and then its answer stands whatever values the attribute gets.  Questions for the absence of a value
are left out here, because these are answered by the absence.
-/

set_option autoImplicit false

namespace SearchQuery

/-! ## Truth values that are decided further -/

namespace Truth

/-- The second truth value is the first, unless the first is unknown. -/
def PersistsIn (truth other : Truth) : Prop :=
  ∀ answer, truth = some answer → other = some answer

variable {left right otherLeft otherRight : Truth}

theorem and_eq_true_iff (left right : Truth) :
    left.and right = some true ↔ left = some true ∧ right = some true := by
  obtain _ | _ | _ := left <;> obtain _ | _ | _ := right <;> decide

theorem and_eq_false_iff (left right : Truth) :
    left.and right = some false ↔ left = some false ∨ right = some false := by
  obtain _ | _ | _ := left <;> obtain _ | _ | _ := right <;> decide

theorem or_eq_true_iff (left right : Truth) :
    left.or right = some true ↔ left = some true ∨ right = some true := by
  obtain _ | _ | _ := left <;> obtain _ | _ | _ := right <;> decide

theorem or_eq_false_iff (left right : Truth) :
    left.or right = some false ↔ left = some false ∧ right = some false := by
  obtain _ | _ | _ := left <;> obtain _ | _ | _ := right <;> decide

theorem PersistsIn.and (leftPersists : left.PersistsIn otherLeft)
    (rightPersists : right.PersistsIn otherRight) :
    (left.and right).PersistsIn (otherLeft.and otherRight) := by
  intro answer whole
  cases answer with
  | true =>
      rw [and_eq_true_iff] at whole ⊢
      exact ⟨leftPersists true whole.1, rightPersists true whole.2⟩
  | false =>
      rw [and_eq_false_iff] at whole ⊢
      rcases whole with leftFalse | rightFalse
      · exact .inl (leftPersists false leftFalse)
      · exact .inr (rightPersists false rightFalse)

theorem PersistsIn.or (leftPersists : left.PersistsIn otherLeft)
    (rightPersists : right.PersistsIn otherRight) :
    (left.or right).PersistsIn (otherLeft.or otherRight) := by
  intro answer whole
  cases answer with
  | true =>
      rw [or_eq_true_iff] at whole ⊢
      rcases whole with leftTrue | rightTrue
      · exact .inl (leftPersists true leftTrue)
      · exact .inr (rightPersists true rightTrue)
  | false =>
      rw [or_eq_false_iff] at whole ⊢
      exact ⟨leftPersists false whole.1, rightPersists false whole.2⟩

theorem PersistsIn.not {truth other : Truth} (persists : truth.PersistsIn other) :
    truth.not.PersistsIn other.not := by
  intro answer whole
  cases truth with
  | none => cases whole
  | some inner =>
      rw [persists inner rfl]
      exact whole

end Truth

/-- The filter does not ask whether an attribute has a value. -/
def Filter.comparesOnly : Filter → Bool
  | .comparison _ _ _ => true
  | .membership _ _ => true
  | .isNull _ => false
  | .isNotNull _ => false
  | .and left right => left.comparesOnly && right.comparesOnly
  | .or left right => left.comparesOnly && right.comparesOnly
  | .not inner => inner.comparesOnly

namespace Document

/-- The second document has the values of the first for the attribute, unless the first has none. -/
def Keeps (document other : Json) (name : String) : Prop :=
  presentValues document name = [] ∨
    SameValues (presentValues document name) (presentValues other name)

variable {document other : Json}

theorem anyPresent_persistsIn {name : String} {test : Json → Bool}
    (kept : Keeps document other name) (blind : ∀ value, test (outline value) = test value) :
    (anyPresent document name test).PersistsIn (anyPresent other name test) := by
  rw [anyPresent_eq_tested, anyPresent_eq_tested, tested, tested]
  rcases kept with missing | same
  · intro answer known
    rw [missing, List.isEmpty_nil, if_pos rfl] at known
    cases known
  · intro answer known
    rw [← same.isEmpty_eq, ← same.any_eq blind]
    exact known

theorem evaluate_persistsIn {filter : Filter} (compares : filter.comparesOnly = true)
    (kept : ∀ name ∈ filter.attributeNames, Keeps document other name) :
    (evaluate document filter).PersistsIn (evaluate other filter) := by
  induction filter with
  | comparison name kind value =>
      apply anyPresent_persistsIn (kept name List.mem_cons_self)
      intro present
      exact satisfies_outline present kind value
  | membership name values =>
      apply anyPresent_persistsIn (kept name List.mem_cons_self)
      intro present
      simp only [compare?_outline]
  | isNull name => cases compares
  | isNotNull name => cases compares
  | and left right leftPersists rightPersists =>
      rw [Filter.comparesOnly, Bool.and_eq_true] at compares
      rw [Filter.attributeNames, List.forall_mem_append] at kept
      exact (leftPersists compares.1 kept.1).and (rightPersists compares.2 kept.2)
  | or left right leftPersists rightPersists =>
      rw [Filter.comparesOnly, Bool.and_eq_true] at compares
      rw [Filter.attributeNames, List.forall_mem_append] at kept
      exact (leftPersists compares.1 kept.1).or (rightPersists compares.2 kept.2)
  | not inner innerPersists => exact (innerPersists compares kept).not

/-- The answer to a filter that asks for no absence stands when values are filled in. -/
theorem decided_answer_stands {filter : Filter} {answer : Bool}
    (compares : filter.comparesOnly = true)
    (kept : ∀ name ∈ filter.attributeNames, Keeps document other name)
    (decided : evaluate document filter = some answer) : evaluate other filter = some answer :=
  evaluate_persistsIn compares kept answer decided

def sampleChoice : Filter :=
  .or (.comparison "tags" .equal (.string "red"))
    (.not (.comparison "size" .greaterThan (.integer 5)))

/-- A red tag decides the choice before there is a size, and whatever the size turns out to be. -/
theorem decided_answer_stands_choice :
    evaluate (.object [("tags", .array [.string "red", .string "blue"]), ("size", .null)])
      sampleChoice = some true ∧
    evaluate (.object [("size", .number (.integer 9)),
        ("tags", .array [.string "blue", .array [.string "red", .string "red"]])])
      sampleChoice = some true := by
  have known : evaluate (.object [("tags", .array [.string "red", .string "blue"]),
      ("size", .null)]) sampleChoice = some true := by
    decide +kernel
  refine ⟨known, decided_answer_stands rfl ?_ known⟩
  have names : sampleChoice.attributeNames = ["tags", "size"] := rfl
  rw [names, List.forall_mem_cons, List.forall_mem_singleton]
  have first : presentValues (.object [("tags", .array [.string "red", .string "blue"]),
      ("size", .null)]) "tags" = [.string "blue", .string "red"] := by with_unfolding_all rfl
  have second : presentValues (.object [("size", .number (.integer 9)),
      ("tags", .array [.string "blue", .array [.string "red", .string "red"]])]) "tags" =
      [.string "red", .string "red", .string "blue"] := by with_unfolding_all rfl
  refine ⟨.inr ?_, .inl (by with_unfolding_all rfl)⟩
  rw [first, second]
  intro seen
  grind [outline]

end Document

end SearchQuery

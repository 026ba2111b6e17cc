import SearchQuery.Proofs.Meaning

/-!
# The algebra of comparisons

A test asks for some value of the attribute that passes, so a test that accepts what either of two
others accepts is their disjunction, of every document.  Negation is another matter: with several
values a test and its opposite may both be passed, and with a value that cannot be compared both may
fail.  They are opposite where there is at most one value and the test applies to it.
-/

set_option autoImplicit false

namespace SearchQuery

/-- A disjunction of tests for equality, in brackets. -/
inductive EqualityChain where
  | test (value : Value)
  | or (left right : EqualityChain)

namespace EqualityChain

def values : EqualityChain → List Value
  | .test value => [value]
  | .or left right => left.values ++ right.values

def filter (name : String) : EqualityChain → Filter
  | .test value => .comparison name .equal value
  | .or left right => .or (left.filter name) (right.filter name)

theorem exists_of_ne_nil {values : List Value} (nonempty : values ≠ []) :
    ∃ chain : EqualityChain, chain.values = values := by
  induction values with
  | nil => exact absurd rfl nonempty
  | cons value rest inductionHypothesis =>
      by_cases last : rest = []
      · exact ⟨.test value, by rw [last]; rfl⟩
      · obtain ⟨chain, same⟩ := inductionHypothesis last
        exact ⟨.or (.test value) chain, by rw [values, values, same]; rfl⟩

end EqualityChain

namespace Document

variable {document : Json} {name : String} {value : Value}

/-! ## Disjunctions -/

theorem anyPresent_or (document : Json) (name : String) (first second : Json → Bool) :
    anyPresent document name (fun present => first present || second present) =
      (anyPresent document name first).or (anyPresent document name second) := by
  have divided : ∀ values : List Json,
      (values.any fun present => first present || second present) =
        (values.any first || values.any second) := by
    intro values
    rw [Bool.eq_iff_iff]
    simp only [List.any_eq_true, Bool.or_eq_true, and_or_left, exists_or]
  rw [anyPresent_eq_tested, anyPresent_eq_tested, anyPresent_eq_tested, tested, tested, tested,
    divided]
  by_cases missing : (presentValues document name).isEmpty = true
  · rw [if_pos missing, if_pos missing, if_pos missing]
    rfl
  · rw [if_neg missing, if_neg missing, if_neg missing]
    cases (presentValues document name).any first <;>
      cases (presentValues document name).any second <;> rfl

theorem evaluate_chain (document : Json) (name : String) (chain : EqualityChain) :
    evaluate document (chain.filter name) = evaluate document (.membership name chain.values) := by
  induction chain with
  | test value =>
      rw [EqualityChain.filter, EqualityChain.values, evaluate, evaluate]
      simp only [satisfies, List.any_cons, List.any_nil, Bool.or_false]
  | or left right leftSame rightSame =>
      calc evaluate document ((EqualityChain.or left right).filter name)
          = (evaluate document (left.filter name)).or (evaluate document (right.filter name)) := rfl
        _ = (evaluate document (.membership name left.values)).or
              (evaluate document (.membership name right.values)) := by rw [leftSame, rightSame]
        _ = anyPresent document name (fun present =>
              (left.values.any fun value => compare? present value == some .eq) ||
                right.values.any fun value => compare? present value == some .eq) :=
            (anyPresent_or document name _ _).symm
        _ = evaluate document (.membership name (left.values ++ right.values)) := by
            rw [evaluate]
            simp only [List.any_append]

theorem evaluate_membership_perm {values others : List Value} (reordered : values.Perm others) :
    evaluate document (.membership name values) = evaluate document (.membership name others) := by
  rw [evaluate, evaluate]
  simp only [reordered.any_eq]

/-! ## Negations -/

theorem anyPresent_not {test other : Json → Bool} (single : (presentValues document name).length ≤ 1)
    (opposite : ∀ present ∈ presentValues document name, test present = !other present) :
    anyPresent document name test = (anyPresent document name other).not := by
  rw [anyPresent_eq_tested, anyPresent_eq_tested, tested, tested]
  cases values : presentValues document name with
  | nil => rfl
  | cons present rest =>
      rw [values] at single opposite
      have noMore : rest = [] := List.length_eq_zero_iff.mp (by simpa using single)
      subst rest
      simp [Truth.not, opposite present List.mem_cons_self]

theorem satisfies_opposite {present : Json} (comparable : (compare? present value).isSome = true) :
    satisfies present .notEqual value = !satisfies present .equal value ∧
      satisfies present .greaterOrEqual value = !satisfies present .lessThan value ∧
      satisfies present .lessOrEqual value = !satisfies present .greaterThan value := by
  obtain ⟨order, compared⟩ := Option.isSome_iff_exists.mp comparable
  simp only [satisfies, compared]
  cases order <;> decide

/-- The value is a string, a number or a truth value. -/
def isScalar : Json → Bool
  | .string _ => true
  | .number _ => true
  | .bool _ => true
  | _ => false

theorem satisfies_notLike {present : Json} (scalar : isScalar present = true) :
    satisfies present .notLike value = !satisfies present .like value := by
  have hasText : (text? present).isSome = true := by
    cases present with
    | string | number | bool => rfl
    | null | array | object => cases scalar
  rw [satisfies, satisfies, hasText, Bool.true_and]

/-- Membership is the disjunction of equalities, in any order and any brackets, and each comparison
that allows two orders is the disjunction of the two.  Of an attribute with at most one value a
comparison and its opposite are negations of each other if the value can be compared, and so are the
two searches for a text if the value has one. -/
theorem comparisons_obey_one_algebra (document : Json) (name : String) (value : Value) :
    (∀ values : List Value, values ≠ [] →
      (∃ chain : EqualityChain, chain.values.Perm values) ∧
      ∀ chain : EqualityChain, chain.values.Perm values →
        evaluate document (.membership name values) = evaluate document (chain.filter name)) ∧
    evaluate document (.comparison name .greaterOrEqual value) =
      evaluate document
        (.or (.comparison name .greaterThan value) (.comparison name .equal value)) ∧
    evaluate document (.comparison name .lessOrEqual value) =
      evaluate document (.or (.comparison name .lessThan value) (.comparison name .equal value)) ∧
    evaluate document (.comparison name .notEqual value) =
      evaluate document
        (.or (.comparison name .lessThan value) (.comparison name .greaterThan value)) ∧
    ((presentValues document name).length ≤ 1 →
      ((∀ present ∈ presentValues document name, (compare? present value).isSome = true) →
        evaluate document (.comparison name .notEqual value) =
          evaluate document (.not (.comparison name .equal value)) ∧
        evaluate document (.comparison name .greaterOrEqual value) =
          evaluate document (.not (.comparison name .lessThan value)) ∧
        evaluate document (.comparison name .lessOrEqual value) =
          evaluate document (.not (.comparison name .greaterThan value))) ∧
      ((∀ present ∈ presentValues document name, isScalar present = true) →
        evaluate document (.comparison name .notLike value) =
          evaluate document (.not (.comparison name .like value)))) := by
  refine ⟨?_, anyPresent_or .., anyPresent_or .., anyPresent_or .., ?_⟩
  · intro values nonempty
    refine ⟨?_, ?_⟩
    · obtain ⟨chain, same⟩ := EqualityChain.exists_of_ne_nil nonempty
      exact ⟨chain, by rw [same]⟩
    · intro chain reordered
      rw [evaluate_chain, evaluate_membership_perm reordered]
  · intro single
    refine ⟨?_, ?_⟩
    · intro comparable
      refine ⟨?_, ?_, ?_⟩
      · exact anyPresent_not single fun present member =>
          (satisfies_opposite (comparable present member)).1
      · exact anyPresent_not single fun present member =>
          (satisfies_opposite (comparable present member)).2.1
      · exact anyPresent_not single fun present member =>
          (satisfies_opposite (comparable present member)).2.2
    · intro scalar
      exact anyPresent_not single fun present member => satisfies_notLike (scalar present member)

/-- An attribute with several values, one of them an object, and an attribute with one value. -/
def sampleReadings : Json :=
  .object [("n", .array [.number (.integer 3), .string "7", .object []]), ("m", .bool true)]

/-- The value that is no number equals nothing and does no harm.  With several values a comparison
and its opposite may both hold, with one value they may not. -/
theorem comparisons_obey_one_algebra_readings :
    evaluate sampleReadings (.or (.comparison "n" .equal (.double .nan))
      (.comparison "n" .equal (.integer 3))) = some true ∧
    evaluate sampleReadings (.membership "n" [.integer 3, .double .nan]) = some true ∧
    evaluate sampleReadings (.comparison "n" .notEqual (.integer 3)) = some true ∧
    (presentValues sampleReadings "m").length = 1 ∧
    evaluate sampleReadings (.comparison "m" .notEqual (.boolean false)) =
      evaluate sampleReadings (.not (.comparison "m" .equal (.boolean false))) ∧
    evaluate sampleReadings (.comparison "m" .notLike (.boolean false)) =
      evaluate sampleReadings (.not (.comparison "m" .like (.boolean false))) := by
  have present : presentValues sampleReadings "m" = [.bool true] := by with_unfolding_all rfl
  have either : evaluate sampleReadings (.or (.comparison "n" .equal (.double .nan))
      (.comparison "n" .equal (.integer 3))) = some true := by
    decide +kernel
  have apart : evaluate sampleReadings (.comparison "n" .notEqual (.integer 3)) = some true := by
    decide +kernel
  obtain ⟨members, _⟩ := comparisons_obey_one_algebra sampleReadings "n" (.integer 3)
  obtain ⟨_, sameTruth⟩ := members [.integer 3, .double .nan] (List.cons_ne_nil _ _)
  obtain ⟨_, _, _, _, negations⟩ :=
    comparisons_obey_one_algebra sampleReadings "m" (.boolean false)
  obtain ⟨orders, texts⟩ := negations (by rw [present]; exact Nat.le_refl 1)
  rw [present] at orders texts
  refine ⟨either, ?_, apart, by rw [present]; rfl, ?_, ?_⟩
  · rw [sameTruth (.or (.test (.double .nan)) (.test (.integer 3))) (List.Perm.swap ..)]
    exact either
  · exact (orders (List.forall_mem_singleton.mpr rfl)).1
  · exact texts (List.forall_mem_singleton.mpr rfl)

end Document

end SearchQuery

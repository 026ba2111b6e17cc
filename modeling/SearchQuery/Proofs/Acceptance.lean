import SearchQuery.Proofs.RoundTrip
import SearchQuery.Proofs.Skeleton
import SearchQuery.Request

/-!
# What is accepted can be processed

Query text, request parameters and the constructors lead to well-formed predicates only.  A
well-formed predicate becomes a filter unless one of its literals is no value of its type, and the
filter always has a condition.
-/

set_option autoImplicit false

namespace SearchQuery

/-! ## Where predicates come from -/

/-- What the validating constructors and the connectives build. -/
inductive Predicate.Constructed : Predicate → Prop where
  | bare {name : String} {operator : Operator} {leaf : Predicate}
      (built : Predicate.bare? name operator = .ok leaf) : Constructed leaf
  | single {name : String} {operator : Operator} {value : String} {leaf : Predicate}
      (built : Predicate.single? name operator value = .ok leaf) : Constructed leaf
  | multiple {name : String} {operator : Operator} {values : List String} {leaf : Predicate}
      (built : Predicate.multiple? name operator values = .ok leaf) : Constructed leaf
  | and {left right : Predicate} (leftBuilt : Constructed left) (rightBuilt : Constructed right) :
      Constructed (.and left right)
  | or {left right : Predicate} (leftBuilt : Constructed left) (rightBuilt : Constructed right) :
      Constructed (.or left right)
  | not {inner : Predicate} (innerBuilt : Constructed inner) : Constructed (.not inner)

theorem Predicate.Constructed.wellFormed {predicate : Predicate}
    (constructed : predicate.Constructed) : predicate.WellFormed := by
  induction constructed with
  | bare built =>
      obtain ⟨wellFormed, rfl⟩ := (bare?_eq_ok_iff _ _ _).mp built
      exact wellFormed
  | single built =>
      obtain ⟨wellFormed, rfl⟩ := (single?_eq_ok_iff _ _ _ _).mp built
      exact wellFormed
  | multiple built =>
      obtain ⟨wellFormed, rfl⟩ := (multiple?_eq_ok_iff _ _ _ _).mp built
      exact wellFormed
  | and _ _ leftWell rightWell => exact ⟨leftWell, rightWell⟩
  | or _ _ leftWell rightWell => exact ⟨leftWell, rightWell⟩
  | not _ innerWell => exact innerWell

theorem Predicate.constructed_of_wellFormed :
    ∀ predicate : Predicate, predicate.WellFormed → predicate.Constructed := by
  intro predicate
  induction predicate with
  | bare name operator =>
      intro wellFormed
      exact .bare ((bare?_eq_ok_iff name operator _).mpr ⟨wellFormed, rfl⟩)
  | single name operator value =>
      intro wellFormed
      exact .single ((single?_eq_ok_iff name operator value _).mpr ⟨wellFormed, rfl⟩)
  | multiple name operator values =>
      intro wellFormed
      exact .multiple ((multiple?_eq_ok_iff name operator values _).mpr ⟨wellFormed, rfl⟩)
  | and left right leftBuilt rightBuilt =>
      intro wellFormed
      exact .and (leftBuilt wellFormed.1) (rightBuilt wellFormed.2)
  | or left right leftBuilt rightBuilt =>
      intro wellFormed
      exact .or (leftBuilt wellFormed.1) (rightBuilt wellFormed.2)
  | not inner innerBuilt =>
      intro wellFormed
      exact .not (innerBuilt wellFormed)

/-- Every restriction that a request carries has been read from some text under its limits. -/
theorem RequestForm.exists_text_of_search {form : RequestForm} {parameters : List Parameter}
    {predicate : Predicate} (success : form.search parameters = .ok (.only predicate)) :
    ∃ text, Search.parseCharacters form.limits text = .ok (.only predicate) := by
  rw [search] at success
  split at success
  next parameter _ => exact ⟨parameter.value.toList, success⟩
  next =>
    obtain ⟨terms, _, joined⟩ := (bind_eq_ok_iff _ _ _).mp success
    split at joined
    · cases joined
    · exact ⟨joinBalanced terms, joined⟩

/-! ## From predicates to filters -/

/-- A literal of the error is no value of the type that its attribute has. -/
def SearchError.RefusesLiteral (types : TypeResolver) (error : SearchError) : Prop :=
  ∃ name literal, error = .valueCoercion name literal (types.typeOf name) ∧
    Value.ofLiteral? literal (types.typeOf name) = none

/-- A translation that ends in a filter without empty lists, or in a refused literal. -/
def Processable (types : TypeResolver) : Except SearchError Filter → Prop
  | .ok filter => filter.emptyMemberships = []
  | .error error => error.RefusesLiteral types

theorem Value.coerce_cases (types : TypeResolver) (name literal : String) :
    (∃ value, coerce name literal (types.typeOf name) = .ok value) ∨
      ∃ error, coerce name literal (types.typeOf name) = .error error ∧
        error.RefusesLiteral types := by
  rw [coerce]
  cases read : ofLiteral? literal (types.typeOf name) with
  | some value => exact .inl ⟨value, rfl⟩
  | none => exact .inr ⟨_, rfl, name, literal, rfl, read⟩

namespace Predicate

variable {types : TypeResolver}

theorem coerceAll_cases (name : String) (literals : List String) :
    (∃ values, coerceAll name (types.typeOf name) literals = .ok values ∧
        values.length = literals.length) ∨
      ∃ error, coerceAll name (types.typeOf name) literals = .error error ∧
        error.RefusesLiteral types := by
  induction literals with
  | nil => exact .inl ⟨[], rfl, rfl⟩
  | cons literal rest inductionHypothesis =>
      rw [coerceAll]
      rcases Value.coerce_cases types name literal with ⟨value, coerced⟩ | ⟨error, failed, refused⟩
      · rw [coerced]
        rcases inductionHypothesis with ⟨values, restCoerced, sameLength⟩ | ⟨error, failed, refused⟩
        · rw [restCoerced]
          exact .inl ⟨value :: values, rfl, congrArg (· + 1) sameLength⟩
        · rw [failed]
          exact .inr ⟨error, rfl, refused⟩
      · rw [failed]
        exact .inr ⟨error, rfl, refused⟩

theorem processable_bind {first : Except SearchError Filter}
    {next : Filter → Except SearchError Filter} (firstDone : Processable types first)
    (nextDone : ∀ filter, filter.emptyMemberships = [] → Processable types (next filter)) :
    Processable types (first >>= next) := by
  cases first with
  | error error => exact firstDone
  | ok filter => exact nextDone filter firstDone

theorem processable_join {join : Filter → Filter → Filter} {left right : Except SearchError Filter}
    (collects : ∀ first second, (join first second).emptyMemberships =
      first.emptyMemberships ++ second.emptyMemberships)
    (leftDone : Processable types left) (rightDone : Processable types right) :
    Processable types (left >>= fun first => right >>= fun second => .ok (join first second)) := by
  apply processable_bind leftDone
  intro first firstFull
  apply processable_bind rightDone
  intro second secondFull
  rw [Processable, collects, firstFull, secondFull]
  rfl

theorem processable_multiple {name : String} {operator : Operator} {literals : List String}
    (wellFormed : (Predicate.multiple name operator literals).WellFormed) :
    Processable types ((Predicate.multiple name operator literals).toFilter types) := by
  obtain ⟨_, arity, nonempty, _⟩ := wellFormed
  rw [toFilter]
  rcases coerceAll_cases name literals with ⟨values, coerced, sameLength⟩ | ⟨error, failed, refused⟩
  · have valuesNonempty : values ≠ [] := by
      rintro rfl
      exact nonempty (List.length_eq_zero_iff.mp sameLength.symm)
    rw [coerced]
    cases operator with
    | isIn => exact if_neg valuesNonempty
    | notIn => exact if_neg valuesNonempty
    | _ => cases arity
  · rw [failed]
    exact refused

theorem processable_single {name : String} {operator : Operator} {literal : String}
    {kind : Comparison} (compares : operator.comparison? = some kind) :
    Processable types ((Predicate.single name operator literal).toFilter types) := by
  rw [toFilter, compares]
  rcases Value.coerce_cases types name literal with ⟨value, coerced⟩ | ⟨error, failed, refused⟩
  · simp only [coerced]
    rfl
  · simp only [failed]
    exact refused

/-- The induction is that of the translation, which passes over two negations at once. -/
theorem processable_toFilter (types : TypeResolver) (predicate : Predicate) :
    predicate.WellFormed → Processable types (predicate.toFilter types) := by
  induction predicate using toFilter.induct with
  | case1 name =>
      intro _
      rfl
  | case2 name =>
      intro _
      rfl
  | case3 name other notNull notPresent =>
      intro wellFormed
      have arity : other.arity = .none := wellFormed.2
      cases other <;> contradiction
  | case4 name operator literal noComparison =>
      intro wellFormed
      have arity : operator.arity = .single := wellFormed.2.1
      cases operator <;> contradiction
  | case5 name operator literal kind compares =>
      intro _
      exact processable_single compares
  | case6 name operator literals => exact processable_multiple
  | case7 left right leftDone rightDone =>
      intro wellFormed
      rw [toFilter]
      exact processable_join (fun _ _ => rfl) (leftDone wellFormed.1) (rightDone wellFormed.2)
  | case8 left right leftDone rightDone =>
      intro wellFormed
      rw [toFilter]
      exact processable_join (fun _ _ => rfl) (leftDone wellFormed.1) (rightDone wellFormed.2)
  | case9 inner innerDone =>
      intro wellFormed
      rw [toFilter]
      exact innerDone wellFormed
  | case10 inner notNegated innerDone =>
      intro wellFormed
      rw [toFilter]
      · apply processable_bind (innerDone wellFormed)
        intro filter full
        exact full
      · exact notNegated

/-- Query texts and requests lead to well-formed predicates within the depth limit, and the
constructors lead to all well-formed ones.  A well-formed predicate fails to become a filter only
for a literal that is no value of its type, and its filter has a condition, however many
placeholders are in use. -/
theorem accepted_can_be_processed :
    (∀ (limits : Limits) (text : String) (predicate : Predicate),
      Search.parse limits text = .ok (.only predicate) →
        predicate.WellFormed ∧ predicate.depth ≤ limits.maxDepth) ∧
    (∀ (form : RequestForm) (parameters : List Parameter) (predicate : Predicate),
      form.search parameters = .ok (.only predicate) →
        predicate.WellFormed ∧ predicate.depth ≤ form.limits.maxDepth) ∧
    (∀ predicate : Predicate, predicate.Constructed ↔ predicate.WellFormed) ∧
    (∀ (predicate : Predicate) (types : TypeResolver), predicate.WellFormed →
      (∀ error, predicate.toFilter types = .error error →
        ∃ name literal, error = .valueCoercion name literal (types.typeOf name) ∧
          Value.ofLiteral? literal (types.typeOf name) = none) ∧
      (∀ filter, predicate.toFilter types = .ok filter →
        ∀ used, ∃ bound, filter.toCondition used = .ok bound)) := by
  refine ⟨?_, ?_, ?_, ?_⟩
  · intro limits text predicate accepted
    obtain ⟨wellFormed, _, shallow⟩ := parseCharacters_wellFormed accepted
    exact ⟨wellFormed, shallow⟩
  · intro form parameters predicate accepted
    obtain ⟨text, read⟩ := RequestForm.exists_text_of_search accepted
    obtain ⟨wellFormed, _, shallow⟩ := parseCharacters_wellFormed read
    exact ⟨wellFormed, shallow⟩
  · intro predicate
    exact ⟨Constructed.wellFormed, constructed_of_wellFormed predicate⟩
  · intro predicate types wellFormed
    have done := processable_toFilter types predicate wellFormed
    refine ⟨?_, ?_⟩
    · intro error failed
      rw [failed] at done
      exact done
    · intro filter translated used
      rw [translated] at done
      exact ⟨_, (Filter.toCondition_eq_ok_iff filter used _).mpr ⟨done, rfl⟩⟩

def sampleSearch : Predicate :=
  .and (.single "age" .greaterOrEqual "20")
    (.or (.multiple "status" .notIn ["A,B", "C"]) (.bare "status" .isNull))

def sampleTypes (status : AttributeType) : TypeResolver := fun name =>
  if name = "age" then some .integer else if name = "status" then some status else none

/-- One query under two declarations: as texts its list is processed, as numbers it is refused at
its first literal. -/
theorem accepted_can_be_processed_sample :
    Search.parse {} "(age|ge:\"20\" AND (status|ni:\"A\\,B,C\" OR status|nu:))" =
        .ok (.only sampleSearch) ∧
      sampleSearch.WellFormed ∧ sampleSearch.depth ≤ 64 ∧
      (∃ filter bound, sampleSearch.toFilter (sampleTypes .string) = .ok filter ∧
        filter.toCondition 7 = .ok bound) ∧
      sampleSearch.toFilter (sampleTypes .integer) =
        .error (.valueCoercion "status" "A,B" .integer) ∧
      Value.ofLiteral? "A,B" .integer = none := by
  obtain ⟨texts, _, _, translated⟩ := accepted_can_be_processed
  have spelled : sampleSearch.text =
      "(age|ge:\"20\" AND (status|ni:\"A\\,B,C\" OR status|nu:))" := rfl
  have short : sampleSearch.text.length ≤ 4096 := by
    rw [spelled]
    decide
  have accepted : Search.parse {} sampleSearch.text = .ok (.only sampleSearch) :=
    parse_text (by decide) short (by decide)
  rw [spelled] at accepted
  obtain ⟨wellFormed, shallow⟩ := texts {} _ sampleSearch accepted
  obtain ⟨filter, filtered⟩ :
      ∃ filter, sampleSearch.toFilter (sampleTypes .string) = .ok filter := ⟨_, rfl⟩
  have refused : sampleSearch.toFilter (sampleTypes .integer) =
      .error (.valueCoercion "status" "A,B" .integer) := rfl
  obtain ⟨bound, built⟩ := (translated sampleSearch _ wellFormed).2 filter filtered 7
  refine ⟨accepted, wellFormed, shallow, ⟨filter, bound, filtered, built⟩, refused, ?_⟩
  obtain ⟨name, literal, sameError, noValue⟩ := (translated sampleSearch _ wellFormed).1 _ refused
  cases sameError
  exact noValue

end Predicate

end SearchQuery

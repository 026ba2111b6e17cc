import SearchQuery.Proofs.Assembly
import SearchQuery.Proofs.Basic
import SearchQuery.Query

/-!
# Well-formed predicates

The trees that query text can spell.  The validating constructors build exactly the well-formed
leaves, so every predicate that a query is read into is well-formed, and its groups are nested no
deeper than the limit.
-/

set_option autoImplicit false

namespace SearchQuery.Predicate

def ValidName (name : String) : Prop :=
  name ≠ "" ∧ ∀ c ∈ name.toList, isNameCharacter c = true

instance (name : String) : Decidable (ValidName name) :=
  decidable_of_iff (name ≠ "" ∧ name.toList.all isNameCharacter = true)
    (and_congr_right' List.all_eq_true)

/-- Every leaf has a valid name, an operator of its own arity, and values that are not empty. -/
def WellFormed : Predicate → Prop
  | .bare name operator => ValidName name ∧ operator.arity = .none
  | .single name operator value => ValidName name ∧ operator.arity = .single ∧ value ≠ ""
  | .multiple name operator values =>
      ValidName name ∧ operator.arity = .multiple ∧ values ≠ [] ∧ ∀ value ∈ values, value ≠ ""
  | .and left right => left.WellFormed ∧ right.WellFormed
  | .or left right => left.WellFormed ∧ right.WellFormed
  | .not inner => inner.WellFormed

instance decidableWellFormed : ∀ predicate : Predicate, Decidable predicate.WellFormed
  | .bare _ _ => inferInstanceAs (Decidable (_ ∧ _))
  | .single _ _ _ => inferInstanceAs (Decidable (_ ∧ _ ∧ _))
  | .multiple _ _ _ => inferInstanceAs (Decidable (_ ∧ _ ∧ _ ∧ _))
  | .and left right =>
      @instDecidableAnd _ _ (decidableWellFormed left) (decidableWellFormed right)
  | .or left right =>
      @instDecidableAnd _ _ (decidableWellFormed left) (decidableWellFormed right)
  | .not inner => decidableWellFormed inner

/-- The deepest nesting of conjunctions and disjunctions; negations add nothing. -/
def depth : Predicate → Nat
  | .bare _ _ => 0
  | .single _ _ _ => 0
  | .multiple _ _ _ => 0
  | .and left right => max left.depth right.depth + 1
  | .or left right => max left.depth right.depth + 1
  | .not inner => inner.depth

theorem wellFormed_negated (predicate : Predicate) (count : Nat) :
    (predicate.negated count).WellFormed ↔ predicate.WellFormed := by
  induction count with
  | zero => exact Iff.rfl
  | succ count inductionHypothesis => exact inductionHypothesis

theorem depth_negated (predicate : Predicate) (count : Nat) :
    (predicate.negated count).depth = predicate.depth := by
  induction count with
  | zero => rfl
  | succ count inductionHypothesis => exact inductionHypothesis

theorem wellFormed_joined (left right : Predicate) (join : Join) :
    (left.joined join right).WellFormed ↔ left.WellFormed ∧ right.WellFormed := by
  cases join <;> exact Iff.rfl

theorem depth_joined (left right : Predicate) (join : Join) :
    (left.joined join right).depth = max left.depth right.depth + 1 := by
  cases join <;> rfl

/-! ## The validating constructors -/

theorem checkName_eq_ok_iff (name : String) : checkName name = .ok () ↔ ValidName name := by
  unfold checkName ValidName
  by_cases nameEmpty : name = ""
  · simp [nameEmpty]
  · simp only [String.isEmpty_iff, nameEmpty, if_false, ne_eq, not_false_eq_true, true_and]
    split
    next noneFound => simpa using noneFound
    next character found =>
      have refused := List.find?_some found
      have member := List.mem_of_find?_eq_some found
      simp only [reduceCtorEq, false_iff]
      intro allAllowed
      simp [allAllowed character member] at refused

theorem checkArity_eq_ok_iff (name : String) (operator : Operator) (given : Arity) :
    checkArity name operator given = .ok () ↔ operator.arity = given := by
  unfold checkArity
  split <;> simp_all

theorem checkValue_eq_ok_iff (name value : String) :
    checkValue name value = .ok () ↔ value ≠ "" := by
  unfold checkValue
  split <;> simp_all

/-- A check in front of a construction only stands in its way. -/
theorem check_bind_eq_ok_iff {α : Type} (check : Except SearchError Unit)
    (next : Except SearchError α) (result : α) :
    (check >>= fun _ => next) = .ok result ↔ check = .ok () ∧ next = .ok result := by
  rw [bind_eq_ok_iff]
  exact ⟨fun ⟨_, both⟩ => both, fun both => ⟨(), both⟩⟩

theorem bare?_eq_ok_iff (name : String) (operator : Operator) (leaf : Predicate) :
    bare? name operator = .ok leaf ↔
      (Predicate.bare name operator).WellFormed ∧ leaf = .bare name operator := by
  rw [bare?, check_bind_eq_ok_iff, checkName_eq_ok_iff, check_bind_eq_ok_iff,
    checkArity_eq_ok_iff]
  constructor
  · rintro ⟨valid, arity, result⟩
    exact ⟨⟨valid, arity⟩, (Except.ok.inj result).symm⟩
  · rintro ⟨⟨valid, arity⟩, rfl⟩
    exact ⟨valid, arity, rfl⟩

theorem single?_eq_ok_iff (name : String) (operator : Operator) (value : String)
    (leaf : Predicate) :
    single? name operator value = .ok leaf ↔
      (Predicate.single name operator value).WellFormed ∧ leaf = .single name operator value := by
  rw [single?, check_bind_eq_ok_iff, checkName_eq_ok_iff, check_bind_eq_ok_iff,
    checkArity_eq_ok_iff, check_bind_eq_ok_iff, checkValue_eq_ok_iff]
  constructor
  · rintro ⟨valid, arity, nonempty, result⟩
    exact ⟨⟨valid, arity, nonempty⟩, (Except.ok.inj result).symm⟩
  · rintro ⟨⟨valid, arity, nonempty⟩, rfl⟩
    exact ⟨valid, arity, nonempty, rfl⟩

theorem forM_checkValue_eq_ok_iff (name : String) (values : List String) :
    values.forM (checkValue name) = .ok () ↔ ∀ value ∈ values, value ≠ "" := by
  induction values with
  | nil => simp [pure, Except.pure]
  | cons value rest inductionHypothesis =>
      change (checkValue name value >>= fun _ => rest.forM (checkValue name)) = .ok () ↔ _
      rw [check_bind_eq_ok_iff, checkValue_eq_ok_iff, inductionHypothesis]
      simp

theorem multiple?_eq_ok_iff (name : String) (operator : Operator) (values : List String)
    (leaf : Predicate) :
    multiple? name operator values = .ok leaf ↔
      (Predicate.multiple name operator values).WellFormed ∧
        leaf = .multiple name operator values := by
  rw [multiple?, check_bind_eq_ok_iff, checkName_eq_ok_iff, check_bind_eq_ok_iff,
    checkArity_eq_ok_iff]
  by_cases noValues : values = []
  · simp [noValues, WellFormed, bind, Except.bind]
  · simp only [List.isEmpty_iff, noValues, if_false]
    rw [check_bind_eq_ok_iff, forM_checkValue_eq_ok_iff]
    constructor
    · rintro ⟨valid, arity, nonempty, result⟩
      exact ⟨⟨valid, arity, noValues, nonempty⟩, (Except.ok.inj result).symm⟩
    · rintro ⟨⟨valid, arity, _, nonempty⟩, rfl⟩
      exact ⟨valid, arity, nonempty, rfl⟩

/-! ## What a query is read into -/

theorem ofTerm_wellFormed {name code : String} {literal : Option String} {leaf : Predicate}
    (built : ofTerm name code literal = .ok leaf) : leaf.WellFormed ∧ leaf.depth = 0 := by
  unfold ofTerm at built
  split at built
  · cases built
  · split at built
    · rw [bare?_eq_ok_iff] at built
      obtain ⟨wellFormed, rfl⟩ := built
      exact ⟨wellFormed, rfl⟩
    · cases built
    · rw [single?_eq_ok_iff] at built
      obtain ⟨wellFormed, rfl⟩ := built
      exact ⟨wellFormed, rfl⟩
    · split at built
      · rw [multiple?_eq_ok_iff] at built
        obtain ⟨wellFormed, rfl⟩ := built
        exact ⟨wellFormed, rfl⟩
      · rw [multiple?_eq_ok_iff] at built
        obtain ⟨wellFormed, rfl⟩ := built
        exact ⟨wellFormed, rfl⟩
    · cases built

end SearchQuery.Predicate

namespace SearchQuery

theorem Phrase.predicate_wellFormed :
    ∀ (phrase : Phrase) {predicate : Predicate}, phrase.predicate = .ok predicate →
      predicate.WellFormed ∧ predicate.depth = phrase.nesting := by
  intro phrase
  induction phrase with
  | term negations name code literal =>
      intro predicate denoted
      rw [Phrase.predicate] at denoted
      cases built : Predicate.ofTerm name code literal with
      | error error => rw [built] at denoted; cases denoted
      | ok leaf =>
          rw [built] at denoted
          cases denoted
          rw [Predicate.wellFormed_negated, Predicate.depth_negated]
          exact Predicate.ofTerm_wellFormed built
  | group negations left join right leftInduction rightInduction =>
      intro predicate denoted
      rw [Phrase.predicate] at denoted
      cases leftDenoted : left.predicate with
      | error error => rw [leftDenoted] at denoted; cases denoted
      | ok first =>
          cases rightDenoted : right.predicate with
          | error error => rw [leftDenoted, rightDenoted] at denoted; cases denoted
          | ok second =>
              rw [leftDenoted, rightDenoted] at denoted
              cases denoted
              obtain ⟨leftWellFormed, leftDepth⟩ := leftInduction leftDenoted
              obtain ⟨rightWellFormed, rightDepth⟩ := rightInduction rightDenoted
              rw [Predicate.wellFormed_negated, Predicate.depth_negated,
                Predicate.wellFormed_joined, Predicate.depth_joined, leftDepth, rightDepth]
              exact ⟨⟨leftWellFormed, rightWellFormed⟩, rfl⟩

/-- A text that is read is blank and asks for everything, or its tokens derive a phrase, which denotes
what it asks for. -/
theorem Search.parseCharacters_cases {limits : Limits} {text : List Char} {search : Search}
    (success : parseCharacters limits text = .ok search) :
    (search = .all ∧ text.all Text.isBlank = true) ∨
      ∃ (tokens : List PlacedToken) (phrase : Phrase) (predicate : Predicate),
        search = .only predicate ∧ scan text = .ok tokens ∧
          tokens.map PlacedToken.token = phrase.tokens ∧ phrase.nesting ≤ limits.maxDepth ∧
          phrase.predicate = .ok predicate := by
  unfold parseCharacters at success
  split at success
  · cases success
  split at success
  next blank =>
    cases success
    exact .inl ⟨rfl, blank⟩
  next =>
    split at success
    · cases success
    next tokens scanned =>
      cases assembled : assemble text limits.maxDepth tokens with
      | error error =>
          rw [assembled] at success
          cases success
      | ok predicate =>
          rw [assembled] at success
          cases success
          obtain ⟨phrase, spelled, nested, denoted⟩ := phrase_of_assemble assembled
          exact .inr ⟨tokens, phrase, predicate, rfl, scanned, spelled, nested, denoted⟩

theorem Search.length_of_parseCharacters {limits : Limits} {text : List Char} {search : Search}
    (success : parseCharacters limits text = .ok search) : text.length ≤ limits.maxLength := by
  unfold parseCharacters at success
  split at success
  · cases success
  next fits => exact Nat.not_lt.mp fits

theorem parseCharacters_wellFormed {limits : Limits} {text : List Char} {predicate : Predicate}
    (success : Search.parseCharacters limits text = .ok (.only predicate)) :
    predicate.WellFormed ∧ text.length ≤ limits.maxLength ∧
      predicate.depth ≤ limits.maxDepth := by
  rcases Search.parseCharacters_cases success with
    ⟨all, _⟩ | ⟨_, phrase, _, same, _, _, nested, denoted⟩
  · cases all
  · cases same
    obtain ⟨wellFormed, depth⟩ := phrase.predicate_wellFormed denoted
    exact ⟨wellFormed, Search.length_of_parseCharacters success, depth ▸ nested⟩

end SearchQuery

import SearchQuery.Proofs.Escaping
import SearchQuery.Proofs.WellFormed

/-!
# The canonical text of a predicate reads back

The canonical text of a well-formed predicate is the spelling of a phrase that denotes the
predicate, so it is read back as exactly that tree when it keeps the limits.  No other tree is read
back from its own text.
-/

set_option autoImplicit false

namespace SearchQuery

/-! ## Reading the spelling of a phrase -/

theorem parseCharacters_of_scan {limits : Limits} {text : List Char} {placed : List PlacedToken}
    {phrase : Phrase} (scanned : scan text = .ok placed)
    (tokensSpelled : placed.map PlacedToken.token = phrase.tokens)
    (visible : text.all Text.isBlank = false) (short : text.length ≤ limits.maxLength)
    (shallow : phrase.nesting ≤ limits.maxDepth) :
    Search.parseCharacters limits text = phrase.predicate.map .only := by
  rw [Search.parseCharacters, if_neg (Nat.not_lt.mpr short), if_neg (by simp [visible]), scanned]
  change (assemble text limits.maxDepth placed).map Search.only = _
  rw [assemble_phrase _ tokensSpelled shallow]

/-- Under limits that its spelling keeps, a phrase is read as what it denotes, its error
included. -/
theorem parseCharacters_phrase {limits : Limits} {phrase : Phrase} (spelled : phrase.Spelled)
    (short : phrase.characters.length ≤ limits.maxLength)
    (shallow : phrase.nesting ≤ limits.maxDepth) :
    Search.parseCharacters limits phrase.characters = phrase.predicate.map .only := by
  obtain ⟨placed, tokensSpelled, scanned⟩ := scan_phrase spelled
  exact parseCharacters_of_scan scanned tokensSpelled (not_all_blank_phrase phrase) short shallow

namespace Predicate

/-! ## The phrase of a predicate -/

def phrase : Predicate → Phrase
  | .bare name operator => .term 0 name operator.code none
  | .single name operator value =>
      .term 0 name operator.code (some (String.ofList (escaped needsEscape value.toList)))
  | .multiple name operator values =>
      .term 0 name operator.code (some (String.ofList (escapedList values)))
  | .and left right => .group 0 left.phrase .and right.phrase
  | .or left right => .group 0 left.phrase .or right.phrase
  | .not inner => inner.phrase.negate

theorem characters_phrase (predicate : Predicate) :
    predicate.phrase.characters = predicate.characters := by
  induction predicate with
  | bare name operator =>
      simp [phrase, Phrase.characters, characters, head, Phrase.literalCharacters]
  | single name operator value =>
      simp [phrase, Phrase.characters, characters, head, Phrase.literalCharacters]
  | multiple name operator values =>
      simp [phrase, Phrase.characters, characters, head, Phrase.literalCharacters]
  | and left right leftInduction rightInduction =>
      simp [phrase, Phrase.characters, characters, leftInduction, rightInduction, Join.keyword]
  | or left right leftInduction rightInduction =>
      simp [phrase, Phrase.characters, characters, leftInduction, rightInduction, Join.keyword]
  | not inner inductionHypothesis =>
      rw [phrase, Phrase.characters_negate, inductionHypothesis, characters]

theorem nesting_phrase (predicate : Predicate) : predicate.phrase.nesting = predicate.depth := by
  induction predicate with
  | bare name operator => rfl
  | single name operator value => rfl
  | multiple name operator values => rfl
  | and left right leftInduction rightInduction =>
      rw [phrase, Phrase.nesting, leftInduction, rightInduction, depth]
  | or left right leftInduction rightInduction =>
      rw [phrase, Phrase.nesting, leftInduction, rightInduction, depth]
  | not inner inductionHypothesis =>
      rw [phrase, Phrase.nesting_negate, inductionHypothesis, depth]

theorem code_spelled (operator : Operator) :
    operator.code.toList ≠ [] ∧ ∀ c ∈ operator.code.toList, c.isAlphanum = true := by
  rw [← List.all_eq_true]
  cases operator <;> decide

theorem termSpelled_of_validName {name : String} (valid : ValidName name) (operator : Operator)
    {literal : Option String}
    (literalAllowed : ∀ content ∈ literal, isLiteralContent content.toList = true) :
    TermSpelled name operator.code literal where
  nameNonempty := by simpa using valid.1
  nameAllowed := valid.2
  codeNonempty := (code_spelled operator).1
  codeAllowed := (code_spelled operator).2
  literalAllowed := literalAllowed

theorem spelled_negate (phrase : Phrase) : phrase.negate.Spelled ↔ phrase.Spelled := by
  cases phrase <;> exact Iff.rfl

theorem phrase_spelled :
    ∀ predicate : Predicate, predicate.WellFormed → predicate.phrase.Spelled := by
  intro predicate
  induction predicate with
  | bare name operator =>
      intro wellFormed
      exact termSpelled_of_validName wellFormed.1 operator (by simp)
  | single name operator value =>
      intro wellFormed
      apply termSpelled_of_validName wellFormed.1 operator
      rintro content ⟨⟩
      rw [String.toList_ofList]
      exact isLiteralContent_escaped value.toList
  | multiple name operator values =>
      intro wellFormed
      apply termSpelled_of_validName wellFormed.1 operator
      rintro content ⟨⟩
      rw [String.toList_ofList]
      exact isLiteralContent_escapedList values
  | and left right leftInduction rightInduction =>
      intro wellFormed
      exact ⟨leftInduction wellFormed.1, rightInduction wellFormed.2⟩
  | or left right leftInduction rightInduction =>
      intro wellFormed
      exact ⟨leftInduction wellFormed.1, rightInduction wellFormed.2⟩
  | not inner inductionHypothesis =>
      intro wellFormed
      exact (spelled_negate inner.phrase).2 (inductionHypothesis wellFormed)

/-! ## What the phrase denotes -/

theorem ofTerm_bare {name : String} {operator : Operator}
    (wellFormed : (Predicate.bare name operator).WellFormed) :
    ofTerm name operator.code none = .ok (.bare name operator) := by
  simp only [ofTerm, Operator.ofCode?_code, wellFormed.2]
  exact (bare?_eq_ok_iff name operator _).2 ⟨wellFormed, rfl⟩

theorem ofTerm_single {name : String} {operator : Operator} {value : String}
    (wellFormed : (Predicate.single name operator value).WellFormed) :
    ofTerm name operator.code (some (String.ofList (escaped needsEscape value.toList))) =
      .ok (.single name operator value) := by
  simp only [ofTerm, Operator.ofCode?_code, wellFormed.2.1, String.toList_ofList,
    unescaped_escaped, String.ofList_toList]
  exact (single?_eq_ok_iff name operator value _).2 ⟨wellFormed, rfl⟩

/-- The literal of a list is empty only if the list is empty or has one empty element. -/
theorem escapedList_ne_nil {values : List String} (nonempty : values ≠ [])
    (valuesNonempty : ∀ value ∈ values, value ≠ "") : escapedList values ≠ [] := by
  intro noText
  have divided := splitList_escapedList values nonempty
  rw [noText] at divided
  cases values with
  | nil => exact nonempty rfl
  | cons value rest =>
      simp only [splitList, List.map_cons, List.cons.injEq] at divided
      exact valuesNonempty value List.mem_cons_self (String.toList_eq_nil_iff.mp divided.1.symm)

theorem ofTerm_multiple {name : String} {operator : Operator} {values : List String}
    (wellFormed : (Predicate.multiple name operator values).WellFormed) :
    ofTerm name operator.code (some (String.ofList (escapedList values))) =
      .ok (.multiple name operator values) := by
  have literalNonempty : (String.ofList (escapedList values)).isEmpty = false := by
    simpa using escapedList_ne_nil wellFormed.2.2.1 wellFormed.2.2.2
  have values_back : (splitList (escapedList values)).map String.ofList = values := by
    rw [splitList_escapedList values wellFormed.2.2.1, List.map_map]
    simp [Function.comp_def]
  simp only [ofTerm, Operator.ofCode?_code, wellFormed.2.1, literalNonempty, Bool.false_eq_true,
    if_false, String.toList_ofList, values_back]
  exact (multiple?_eq_ok_iff name operator values _).2 ⟨wellFormed, rfl⟩

theorem predicate_phrase :
    ∀ predicate : Predicate, predicate.WellFormed → predicate.phrase.predicate = .ok predicate := by
  intro predicate
  induction predicate with
  | bare name operator =>
      intro wellFormed
      rw [phrase, Phrase.predicate, ofTerm_bare wellFormed]
      rfl
  | single name operator value =>
      intro wellFormed
      rw [phrase, Phrase.predicate, ofTerm_single wellFormed]
      rfl
  | multiple name operator values =>
      intro wellFormed
      rw [phrase, Phrase.predicate, ofTerm_multiple wellFormed]
      rfl
  | and left right leftInduction rightInduction =>
      intro wellFormed
      rw [phrase, Phrase.predicate, leftInduction wellFormed.1, rightInduction wellFormed.2]
      rfl
  | or left right leftInduction rightInduction =>
      intro wellFormed
      rw [phrase, Phrase.predicate, leftInduction wellFormed.1, rightInduction wellFormed.2]
      rfl
  | not inner inductionHypothesis =>
      intro wellFormed
      rw [phrase, Phrase.predicate_negate, inductionHypothesis wellFormed]
      rfl

/-! ## The round trip -/

theorem parse_text {limits : Limits} {predicate : Predicate} (wellFormed : predicate.WellFormed)
    (short : predicate.text.length ≤ limits.maxLength)
    (shallow : predicate.depth ≤ limits.maxDepth) :
    Search.parse limits predicate.text = .ok (.only predicate) := by
  rw [text, String.length_ofList, ← characters_phrase] at short
  rw [← nesting_phrase] at shallow
  rw [Search.parse, text, String.toList_ofList, ← characters_phrase,
    parseCharacters_phrase (phrase_spelled predicate wellFormed) short shallow,
    predicate_phrase predicate wellFormed]
  rfl

theorem text_injective {predicate other : Predicate} (wellFormed : predicate.WellFormed)
    (otherWellFormed : other.WellFormed) (sameText : predicate.text = other.text) :
    predicate = other := by
  let limits : Limits := ⟨predicate.text.length, max predicate.depth other.depth⟩
  have first : Search.parse limits predicate.text = .ok (.only predicate) :=
    parse_text wellFormed (Nat.le_refl _) (Nat.le_max_left _ _)
  have second : Search.parse limits other.text = .ok (.only other) :=
    parse_text otherWellFormed (Nat.le_of_eq (congrArg String.length sameText.symm))
      (Nat.le_max_right _ _)
  rw [sameText, second] at first
  cases first
  rfl

/-- Every text of a predicate holds a mark, so none is the empty text of the search without
restriction. -/
theorem text_ne_empty (predicate : Predicate) : predicate.text ≠ Search.all.text := by
  have notBlank := not_all_blank_phrase predicate.phrase
  rw [characters_phrase] at notBlank
  intro sameText
  rw [text, Search.text, String.ofList_eq_empty_iff] at sameText
  rw [sameText] at notBlank
  cases notBlank

/-- The round trip, exactly on the well-formed trees that keep the limits; in particular distinct
well-formed trees have distinct texts, none of them empty. -/
theorem parse_text_eq_ok_iff :
    (∀ (limits : Limits) (predicate : Predicate),
      Search.parse limits predicate.text = .ok (.only predicate) ↔
        predicate.WellFormed ∧ predicate.text.length ≤ limits.maxLength ∧
          predicate.depth ≤ limits.maxDepth) ∧
    (∀ predicate other : Predicate, predicate.WellFormed → other.WellFormed →
      predicate ≠ other → predicate.text ≠ other.text) ∧
    (∀ predicate : Predicate, predicate.WellFormed → predicate.text ≠ Search.all.text) := by
  refine ⟨fun limits predicate => ⟨fun success => ?_, fun kept => ?_⟩, ?_, ?_⟩
  · have checked := parseCharacters_wellFormed success
    rwa [String.length_toList] at checked
  · exact parse_text kept.1 kept.2.1 kept.2.2
  · intro predicate other wellFormed otherWellFormed distinct sameText
    exact distinct (text_injective wellFormed otherWellFormed sameText)
  · intro predicate _
    exact text_ne_empty predicate

end Predicate

end SearchQuery

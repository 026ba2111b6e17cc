import SearchQuery.Proofs.Request

/-!
# The text written for a request is canonical

The parameters of a request are written out as query text, and the search that this text is read
into has a canonical text.  The two are the same, so a request with this text as its query
parameter is answered like the request with one parameter for each attribute.
-/

set_option autoImplicit false

namespace SearchQuery

/-! ## Two ways to escape a list -/

/-- Elements that are cut out at the separators hold none to be hidden. -/
theorem escapedList_splitOn (value : List Char) :
    escapedList ((value.splitOn separatorMark).map String.ofList) = escaped needsEscape value := by
  induction value with
  | nil => rfl
  | cons c rest inductionHypothesis =>
      obtain ⟨first, others, divided⟩ :=
        List.exists_cons_of_ne_nil (List.splitOn_ne_nil separatorMark rest)
      rw [divided, List.map_cons] at inductionHypothesis
      rw [List.splitOn_cons_eq_if_modifyHead, escaped_cons, ← inductionHypothesis, divided]
      by_cases isSeparator : c = separatorMark
      · subst isSeparator
        rfl
      · have sameMarks : escaped needsEscapeInList [c] = escaped needsEscape [c] := by
          simp [escaped, needsEscapeInList, isSeparator]
        rw [if_neg (by simpa using isSeparator), List.modifyHead_cons, List.map_cons,
          escapedList_cons_first, sameMarks]

/-! ## The text of a test and of its leaf -/

namespace Test

theorem characters_leaf {test : Test} {leaf : Predicate} (built : test.leaf = .ok leaf) :
    leaf.characters = test.text := by
  obtain ⟨field, code, value⟩ := test
  rw [Test.leaf] at built
  cases found : Operator.ofCode? code with
  | none => simp [found] at built
  | some operator =>
      obtain rfl := Operator.code_of_ofCode? found
      simp only [found] at built
      by_cases noValue : value = ""
      · subst noValue
        by_cases bare : operator.arity = .none
        · simp only [if_true, bare] at built
          cases built
          exact (text_bare field operator.code).symm
        · simp [bare] at built
      · rw [text_valued field operator.code noValue, Parameter.quoted]
        cases arity : operator.arity with
        | none => simp [noValue, arity] at built
        | single =>
            simp only [noValue, if_false, arity] at built
            cases built
            simp [Predicate.characters, Predicate.head]
        | multiple =>
            simp only [noValue, if_false, arity] at built
            split at built
            next blank => cases built
            next noBlank =>
              cases built
              have sameText := escapedList_splitOn value.toList
              rw [separatorMark] at sameText
              simp [Predicate.characters, Predicate.head, sameText]

theorem map_characters_leaves :
    ∀ {tests : List Test} {leaves : List Predicate}, tests.mapM leaf = .ok leaves →
      leaves.map Predicate.characters = tests.map text := by
  intro tests
  induction tests with
  | nil =>
      intro leaves built
      cases built
      rfl
  | cons test others inductionHypothesis =>
      intro leaves built
      rw [List.mapM_cons, bind_eq_ok_iff] at built
      obtain ⟨first, firstBuilt, built⟩ := built
      rw [bind_eq_ok_iff] at built
      obtain ⟨rest, restBuilt, built⟩ := built
      cases built
      rw [List.map_cons, List.map_cons, characters_leaf firstBuilt, inductionHypothesis restBuilt]

end Test

/-- The canonical text of a balanced conjunction joins the texts of its parts in the same balance. -/
theorem exists_balanced_characters :
    ∀ leaves : List Predicate, leaves ≠ [] →
      ∃ predicate, balanced Predicate.and leaves = some predicate ∧
        predicate.characters = joinBalanced (leaves.map Predicate.characters) := by
  apply halving_induction
  · intro nonempty
    exact absurd rfl nonempty
  · intro leaf _
    refine ⟨leaf, balanced_single leaf, ?_⟩
    rw [List.map_cons, List.map_nil, joinBalanced_single]
  · intro left right halves leftJoined rightJoined _
    obtain ⟨first, leftBalanced, leftText⟩ := leftJoined halves.left_nonempty
    obtain ⟨second, rightBalanced, rightText⟩ := rightJoined halves.nonempty
    have textHalves :
        Halves (left.map Predicate.characters) (right.map Predicate.characters) :=
      halves.of_length (List.length_map _) (List.length_map _)
    refine ⟨.and first second, balanced_halves halves leftBalanced rightBalanced, ?_⟩
    rw [List.map_append, joinBalanced_halves textHalves, Predicate.characters, leftText, rightText]

/-! ## Reading a phrase, backwards -/

/-- Whatever the limits, the spelling of a phrase is read as nothing else than what it denotes. -/
theorem predicate_of_parseCharacters_phrase {limits : Limits} {phrase : Phrase} {search : Search}
    (spelled : phrase.Spelled)
    (success : Search.parseCharacters limits phrase.characters = .ok search) :
    ∃ predicate, search = .only predicate ∧ phrase.predicate = .ok predicate := by
  rcases Search.parseCharacters_cases success with
    ⟨_, blank⟩ | ⟨tokens, other, predicate, rfl, otherScanned, otherSpelled, _, denoted⟩
  · rw [not_all_blank_phrase phrase] at blank
    cases blank
  · obtain ⟨placed, tokensSpelled, scanned⟩ := scan_phrase spelled
    rw [scanned] at otherScanned
    cases otherScanned
    obtain rfl := Phrase.tokens_injective (tokensSpelled.symm.trans otherSpelled)
    exact ⟨predicate, rfl, denoted⟩

theorem Test.characters_of_parseCharacters {limits : Limits} {tests : List Test}
    {search : Search} (nonempty : tests ≠ []) (allValid : ∀ test ∈ tests, test.Valid)
    (success :
      Search.parseCharacters limits (joinBalanced (tests.map Test.text)) = .ok search) :
    search.text.toList = joinBalanced (tests.map Test.text) := by
  obtain ⟨phrase, spelled, spelling, _, built⟩ := exists_phrase tests nonempty allValid
  rw [← spelling] at success
  obtain ⟨predicate, rfl, denoted⟩ := predicate_of_parseCharacters_phrase spelled success
  obtain ⟨error, failed, _⟩ | ⟨_, leaves, tree, leavesBuilt, joined⟩ := denotes_cases built
  · rw [denoted] at failed
    cases failed
  · rw [denoted] at tree
    cases tree
    have leavesNonempty : leaves ≠ [] := by
      rintro rfl
      rw [balanced_nil] at joined
      cases joined
    obtain ⟨_, balancedLeaves, characters⟩ := exists_balanced_characters leaves leavesNonempty
    rw [joined] at balancedLeaves
    cases balancedLeaves
    rw [Search.text, Predicate.text, String.toList_ofList, characters,
      map_characters_leaves leavesBuilt]

namespace RequestForm

/-! ## Requests that succeed -/

theorem wellNamed_of_mapM_term? :
    ∀ {parameters : List Parameter} {found : List (Option (List Char))},
      parameters.mapM Parameter.term? = .ok found →
      ∀ parameter ∈ parameters, Parameter.WellNamed parameter.name := by
  intro parameters
  induction parameters with
  | nil =>
      intro found success parameter member
      cases member
  | cons first others inductionHypothesis =>
      intro found success parameter member
      rw [List.mapM_cons, bind_eq_ok_iff] at success
      obtain ⟨term, firstFound, success⟩ := success
      rw [bind_eq_ok_iff] at success
      obtain ⟨rest, restFound, _⟩ := success
      rcases List.mem_cons.mp member with rfl | later
      · apply Classical.byContradiction
        intro malformed
        obtain ⟨fault, refused, _⟩ := Parameter.term?_of_not_wellNamed malformed
        rw [refused] at firstFound
        cases firstFound
      · exact inductionHypothesis restFound parameter later

theorem exists_tests_of_terms {form : RequestForm} {parameters : List Parameter}
    {terms : List (List Char)} (written : form.terms parameters = .ok terms) :
    ∃ tests : List Test, (∀ test ∈ tests, test.Valid) ∧ terms = tests.map Test.text := by
  have wellNamed : ∀ parameter ∈ form.fields parameters,
      Parameter.WellNamed parameter.name := by
    rw [terms_eq_mapM] at written
    cases found : (form.fields parameters).mapM Parameter.term? with
    | error error => simp [found, Except.map] at written
    | ok answers => exact wellNamed_of_mapM_term? found
  obtain ⟨answers, asked⟩ := exists_asked _ wellNamed
  refine ⟨answers.filterMap id, valid_of_asked asked, ?_⟩
  rw [terms_of_asked asked rfl] at written
  exact (Except.ok.inj written).symm

/-- The search of a request without query text is unrestricted and no parameter has a term, or the
text that joins the terms is read into it and is its canonical text. -/
theorem search_cases {form : RequestForm} {parameters : List Parameter} {search : Search}
    (noQuery : ∀ parameter ∈ parameters, parameter.name ≠ form.queryParameterName)
    (found : form.search parameters = .ok search) :
    search = .all ∨
      ∃ terms, form.terms parameters = .ok terms ∧
        search.text.toList = joinBalanced terms ∧
        Search.parseCharacters form.limits (joinBalanced terms) = .ok search := by
  rw [search_of_no_query noQuery, bind_eq_ok_iff] at found
  obtain ⟨terms, written, found⟩ := found
  split at found
  next => exact .inl (Except.ok.inj found).symm
  next someTerms =>
    right
    obtain ⟨tests, allValid, rfl⟩ := exists_tests_of_terms written
    have nonempty : tests ≠ [] := by
      rintro rfl
      exact someTerms rfl
    exact ⟨_, written, Test.characters_of_parseCharacters nonempty allValid found, found⟩

theorem search_of_query {form : RequestForm} {before after : List Parameter} (text : String)
    (firstQuery : ∀ parameter ∈ before, parameter.name ≠ form.queryParameterName) :
    form.search (before ++ ⟨form.queryParameterName, text⟩ :: after) =
      Search.parse form.limits text := by
  have skipped : before.find? (fun parameter => parameter.name == form.queryParameterName) =
      none := by
    simpa using firstQuery
  rw [search, List.find?_append, skipped]
  simp

/-- The canonical text of what a request without query text asks for is, character for character, the
text that is written for its parameters.  A request that carries this text as its query is
answered alike, whatever its other parameters are. -/
theorem search_text_eq_written_text {form : RequestForm} {parameters : List Parameter}
    {search : Search}
    (noQuery : ∀ parameter ∈ parameters, parameter.name ≠ form.queryParameterName)
    (found : form.search parameters = .ok search) :
    (search ≠ .all → ∃ terms, form.terms parameters = .ok terms ∧
      search.text = String.ofList (joinBalanced terms)) ∧
    ∀ before after : List Parameter,
      (∀ parameter ∈ before, parameter.name ≠ form.queryParameterName) →
      form.search (before ++ ⟨form.queryParameterName, search.text⟩ :: after) = .ok search := by
  constructor
  · intro restricted
    rcases search_cases noQuery found with unrestricted | ⟨terms, written, sameText, _⟩
    · exact absurd unrestricted restricted
    · exact ⟨terms, written, by rw [← sameText, String.ofList_toList]⟩
  · intro before after firstQuery
    rw [search_of_query search.text firstQuery, Search.parse]
    rcases search_cases noQuery found with rfl | ⟨terms, _, sameText, read⟩
    · simp [Search.parseCharacters, Search.text]
    · rw [sameText]
      exact read

/-- Two fields, of which the second is a list with a quote, a backslash and a comma. -/
def quotedParameters : List Parameter :=
  [⟨"size", "5"⟩, ⟨"title", "a\"\\,b"⟩, ⟨"tags[ni]", "x\\,\"y"⟩]

def quotedSearch : Search :=
  .only (.and (.single "title" .equal "a\"\\,b") (.multiple "tags" .notIn ["x\\", "\"y"]))

/-- The list is cut before it is escaped again, and still both texts are the same. -/
theorem search_text_eq_written_text_quoted :
    ({} : RequestForm).search quotedParameters = .ok quotedSearch ∧
      (∃ terms, ({} : RequestForm).terms quotedParameters = .ok terms ∧
        quotedSearch.text = String.ofList (joinBalanced terms)) ∧
      ({} : RequestForm).search [⟨"title", "("⟩, ⟨"q", quotedSearch.text⟩, ⟨"q", "("⟩] =
        .ok quotedSearch := by
  have noQuery : ∀ parameter ∈ quotedParameters,
      parameter.name ≠ ({} : RequestForm).queryParameterName := by
    decide
  have found : ({} : RequestForm).search quotedParameters = .ok quotedSearch := by
    decide +kernel
  obtain ⟨written, again⟩ := search_text_eq_written_text noQuery found
  exact ⟨found, written (by decide), again [⟨"title", "("⟩] [⟨"q", "("⟩] (by decide)⟩

end RequestForm

end SearchQuery

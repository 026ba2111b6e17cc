import Mathlib.Algebra.Ring.Nat
import SearchQuery.Proofs.OpenGroups
import SearchQuery.Proofs.RoundTrip

/-!
# How much canonical text can grow

A query may leave out the blanks around a joining word where a parenthesis or a negation stands next
to it, and canonical text has both of them.  Everything else in canonical text is as short as it
can be written: names and codes are copied, and an escape mark stands only where it is needed.
-/

set_option autoImplicit false

namespace SearchQuery

/-! ## Literals -/

/-- The other literal is no longer, and reading it gives the same. -/
structure Respells {α : Type} (read : List Char → α) (content other : List Char) : Prop where
  readable : ∀ after, readLiteral (other ++ quoteMark :: after) = some (other, after)
  noLonger : other.length ≤ content.length
  sameReading : read other = read content

theorem length_escaped_single_le (hidden : Char → Bool) (c : Char) :
    (escaped hidden [c]).length ≤ 2 := by
  cases isHidden : hidden c with
  | true => rw [escaped_hidden [] isHidden]; exact Nat.le_refl 2
  | false => rw [escaped_shown [] isHidden]; exact Nat.le_succ 1

theorem length_escaped_unescaped {content : List Char}
    (allowed : isLiteralContent content = true) :
    (escaped needsEscape (unescaped content)).length ≤ content.length := by
  fun_induction isLiteralContent content with
  | case1 => exact Nat.le_refl 0
  | case2 => cases allowed
  | case3 => cases allowed
  | case4 hidden rest _ inductionHypothesis =>
      have shorter := inductionHypothesis allowed
      have onePair := length_escaped_single_le needsEscape hidden
      rw [unescaped_escape, escaped_cons, List.length_append, List.length_cons, List.length_cons]
      omega
  | case5 c rest notQuote notEscape inductionHypothesis =>
      have shorter := inductionHypothesis allowed
      have shown : needsEscape c = false := by simp [needsEscape, notQuote, notEscape]
      rw [unescaped_plain rest notEscape, escaped_shown _ shown, List.length_cons,
        List.length_cons]
      omega

theorem exists_splitList_eq_cons (content : List Char) :
    ∃ first others, splitList content = first :: others := by
  apply List.exists_cons_of_ne_nil
  fun_cases splitList content with
  | case1 => exact List.cons_ne_nil _ _
  | case2 => exact List.cons_ne_nil _ _
  | case3 hidden rest => cases splitList rest <;> exact List.cons_ne_nil _ _
  | case4 => exact List.cons_ne_nil _ _
  | case5 c rest => cases splitList rest <;> exact List.cons_ne_nil _ _

/-- A character in front of a list takes no more room than its escaped form. -/
theorem length_escapedList_consFirst (c : Char) (content : List Char) :
    (escapedList ((consFirst c (splitList content)).map String.ofList)).length =
      (escaped needsEscapeInList [c]).length +
        (escapedList ((splitList content).map String.ofList)).length := by
  obtain ⟨first, others, divided⟩ := exists_splitList_eq_cons content
  rw [divided, consFirst, List.map_cons, List.map_cons, escapedList_cons_first,
    List.length_append]

theorem length_escapedList_splitList {content : List Char}
    (allowed : isLiteralContent content = true) :
    (escapedList ((splitList content).map String.ofList)).length ≤ content.length := by
  fun_induction isLiteralContent content with
  | case1 => exact Nat.le_refl 0
  | case2 => cases allowed
  | case3 => cases allowed
  | case4 hidden rest _ inductionHypothesis =>
      have shorter := inductionHypothesis allowed
      have onePair := length_escaped_single_le needsEscapeInList hidden
      rw [splitList_escape, length_escapedList_consFirst, List.length_cons, List.length_cons]
      omega
  | case5 c rest notQuote notEscape inductionHypothesis =>
      have shorter := inductionHypothesis allowed
      by_cases isSeparator : c = separatorMark
      · obtain ⟨first, others, divided⟩ := exists_splitList_eq_cons rest
        rw [divided] at shorter
        rw [List.map_cons] at shorter
        rw [isSeparator, splitList_separator, divided, List.map_cons, List.map_cons]
        simp only [escapedList, String.toList_ofList, escaped, List.nil_append, List.length_cons]
        omega
      · have shown : needsEscapeInList c = false := by
          simp [needsEscapeInList, needsEscape, notQuote, notEscape, isSeparator]
        rw [splitList_plain rest notEscape isSeparator, length_escapedList_consFirst,
          escaped_shown [] shown, List.length_cons, List.length_cons]
        simp only [escaped, List.length_nil]
        omega

theorem respells_escaped {content : List Char} (allowed : isLiteralContent content = true) :
    Respells unescaped content (escaped needsEscape (unescaped content)) where
  readable := readLiteral_append (isLiteralContent_escaped _)
  noLonger := length_escaped_unescaped allowed
  sameReading := unescaped_escaped _

theorem respells_escapedList {content : List Char} (allowed : isLiteralContent content = true) :
    Respells splitList content (escapedList ((splitList content).map String.ofList)) where
  readable := readLiteral_append (isLiteralContent_escapedList _)
  noLonger := length_escapedList_splitList allowed
  sameReading := by
    obtain ⟨first, others, divided⟩ := exists_splitList_eq_cons content
    rw [splitList_escapedList _ (by simp [divided]), List.map_map]
    simp [Function.comp_def]

/-! ## Terms -/

namespace Predicate

/-- A term that is built has its own name and code, and the value or the list that its literal
holds. -/
theorem ofTerm_cases {name code : String} {literal : Option String} {leaf : Predicate}
    (built : ofTerm name code literal = .ok leaf) :
    ∃ operator, operator.code = code ∧
      ((literal = none ∧ leaf = .bare name operator) ∨
        ∃ content, literal = some content ∧
          (leaf = .single name operator (String.ofList (unescaped content.toList)) ∨
            leaf = .multiple name operator ((splitList content.toList).map String.ofList))) := by
  unfold ofTerm at built
  split at built
  · cases built
  next operator found =>
    refine ⟨operator, Operator.code_of_ofCode? found, ?_⟩
    split at built
    · obtain ⟨_, rfl⟩ := (bare?_eq_ok_iff name operator leaf).mp built
      exact .inl ⟨rfl, rfl⟩
    · cases built
    next content _ =>
      obtain ⟨_, rfl⟩ := (single?_eq_ok_iff name operator _ leaf).mp built
      exact .inr ⟨content, rfl, .inl rfl⟩
    next content _ =>
      split at built
      · obtain ⟨⟨_, _, nonempty, _⟩, _⟩ := (multiple?_eq_ok_iff name operator [] leaf).mp built
        exact absurd rfl nonempty
      · obtain ⟨_, rfl⟩ := (multiple?_eq_ok_iff name operator _ leaf).mp built
        exact .inr ⟨content, rfl, .inr rfl⟩
    · cases built

theorem length_characters_ofTerm {name code : String} {literal : Option String} {leaf : Predicate}
    (spelled : TermSpelled name code literal) (built : ofTerm name code literal = .ok leaf) :
    leaf.characters.length ≤ (termCharacters name code literal).length := by
  obtain ⟨operator, rfl, shape⟩ := ofTerm_cases built
  rw [length_termCharacters]
  rcases shape with ⟨rfl, rfl⟩ | ⟨content, rfl, shape⟩
  · simp only [characters, head, List.length_append, List.length_cons, List.length_nil]
    omega
  · have allowed := spelled.literalAllowed content rfl
    have value := length_escaped_unescaped allowed
    have list := length_escapedList_splitList allowed
    rcases shape with rfl | rfl
    all_goals
      simp only [characters, head, Phrase.literalCharacters, String.toList_ofList,
        List.length_append, List.length_cons, List.length_nil]
      omega

/-! ## Whole predicates -/

/-- The terms of the tree, from left to right. -/
def terms : Predicate → List Predicate
  | .bare name operator => [.bare name operator]
  | .single name operator value => [.single name operator value]
  | .multiple name operator values => [.multiple name operator values]
  | .and left right => left.terms ++ right.terms
  | .or left right => left.terms ++ right.terms
  | .not inner => inner.terms

/-- The number of conjunctions and disjunctions. -/
def joinCount : Predicate → Nat
  | .bare _ _ => 0
  | .single _ _ _ => 0
  | .multiple _ _ _ => 0
  | .and left right => left.joinCount + right.joinCount + 1
  | .or left right => left.joinCount + right.joinCount + 1
  | .not inner => inner.joinCount

theorem terms_negated (predicate : Predicate) (count : Nat) :
    (predicate.negated count).terms = predicate.terms := by
  induction count with
  | zero => rfl
  | succ count inductionHypothesis => exact inductionHypothesis

theorem terms_joined (left right : Predicate) (join : Join) :
    (left.joined join right).terms = left.terms ++ right.terms := by
  cases join <;> rfl

theorem joinCount_negated (predicate : Predicate) (count : Nat) :
    (predicate.negated count).joinCount = predicate.joinCount := by
  induction count with
  | zero => rfl
  | succ count inductionHypothesis => exact inductionHypothesis

theorem joinCount_joined (left right : Predicate) (join : Join) :
    (left.joined join right).joinCount = left.joinCount + right.joinCount + 1 := by
  cases join <;> rfl

theorem length_characters_negated (predicate : Predicate) (count : Nat) :
    (predicate.negated count).characters.length = count + predicate.characters.length := by
  induction count with
  | zero => exact (Nat.zero_add _).symm
  | succ count inductionHypothesis =>
      rw [negated, characters, List.length_cons, inductionHypothesis]
      omega

/-- A group takes two parentheses, the joining word and the two blanks around it. -/
theorem length_characters_joined (left right : Predicate) (join : Join) :
    (left.joined join right).characters.length =
      left.characters.length + right.characters.length + join.keyword.length + 4 := by
  cases join with
  | and =>
      have spaced : " AND ".toList.length = Join.and.keyword.length + 2 := rfl
      simp only [joined, characters, List.length_append, List.length_cons, List.length_nil, spaced]
      omega
  | or =>
      have spaced : " OR ".toList.length = Join.or.keyword.length + 2 := rfl
      simp only [joined, characters, List.length_append, List.length_cons, List.length_nil, spaced]
      omega

end Predicate

/-! ## The tokens of a text -/

/-- The characters that a token takes in every text. -/
def Token.width : Token → Nat
  | .opening => 1
  | .closing => 1
  | .not => 1
  | .join joining => joining.keyword.length
  | .word text => text.length
  | .term name code literal => (termCharacters name code literal).length

def Token.isTerm : Token → Bool
  | .term _ _ _ => true
  | _ => false

/-- The leaf has the name and the code of the term, and is written in no more characters. -/
def Token.Shortens : Token → Predicate → Prop
  | .term name code literal, leaf =>
      leaf.name? = some name ∧ leaf.operator?.map Operator.code = some code ∧
        leaf.characters.length ≤ (termCharacters name code literal).length
  | _, _ => False

theorem Token.shortens_of_ofTerm {name code : String} {literal : Option String}
    {leaf : Predicate} (spelled : TermSpelled name code literal)
    (built : Predicate.ofTerm name code literal = .ok leaf) :
    (Token.term name code literal).Shortens leaf ∧ leaf.terms = [leaf] := by
  have noLonger := Predicate.length_characters_ofTerm spelled built
  obtain ⟨operator, rfl, ⟨_, rfl⟩ | ⟨_, _, rfl | rfl⟩⟩ := Predicate.ofTerm_cases built
  all_goals exact ⟨⟨rfl, rfl, noLonger⟩, rfl⟩

theorem Token.Spells.length_eq {token : Token} {spelling : List Char}
    (spells : token.Spells spelling) : spelling.length = token.width := by
  cases spells with
  | opening => rfl
  | closing => rfl
  | not => rfl
  | join isWord keyword =>
      rw [Text.sameLetters, beq_iff_eq, String.toList_ofList] at keyword
      have lengths := congrArg List.length keyword
      rw [List.length_map, List.length_map, String.length_toList] at lengths
      exact lengths
  | word isWord plain => exact String.length_ofList.symm
  | term spelled => rfl

theorem Piece.sum_width_le {trailing : List Char} :
    ∀ {pieces : List Piece} (position : Nat), Regular trailing pieces →
      ((tokens position pieces).map fun placed => placed.token.width).sum ≤
        (text trailing pieces).length := by
  intro pieces
  induction pieces with
  | nil =>
      intro position _
      exact Nat.zero_le _
  | cons piece rest inductionHypothesis =>
      intro position regular
      obtain ⟨_, spells, _, restRegular⟩ := regular
      have first := spells.length_eq
      have others := inductionHypothesis
        (position + piece.blanks.length + piece.spelling.length) restRegular
      simp only [tokens, text, List.map_cons, List.sum_cons, List.length_append]
      omega

theorem sum_width_le_of_scan {text : List Char} {tokens : List PlacedToken}
    (scanned : scan text = .ok tokens) :
    ((tokens.map PlacedToken.token).map Token.width).sum ≤ text.length := by
  obtain ⟨trailing, pieces, regular, rfl, rfl⟩ := exists_pieces_of_scanFrom scanned
  rw [List.map_map]
  exact Piece.sum_width_le 0 regular

/-! ## Phrases -/

namespace Phrase

theorem spelled_of_tokens :
    ∀ phrase : Phrase, (∀ token ∈ phrase.tokens, ∃ spelling, token.Spells spelling) →
      phrase.Spelled := by
  intro phrase
  induction phrase with
  | term negations name code literal =>
      intro allSpelled
      obtain ⟨_, spells⟩ := allSpelled (.term name code literal) (by simp [tokens])
      cases spells with
      | term spelled => exact spelled
  | group negations left join right leftInduction rightInduction =>
      intro allSpelled
      constructor
      · apply leftInduction
        intro token member
        exact allSpelled token (by simp [tokens, member])
      · apply rightInduction
        intro token member
        exact allSpelled token (by simp [tokens, member])

theorem sum_width_replicate_not (count : Nat) :
    ((List.replicate count Token.not).map Token.width).sum = count := by
  simp [Token.width]

theorem predicate_term {negations : Nat} {name code : String} {literal : Option String}
    {predicate : Predicate}
    (denoted : (Phrase.term negations name code literal).predicate = .ok predicate) :
    ∃ leaf, Predicate.ofTerm name code literal = .ok leaf ∧ predicate = leaf.negated negations := by
  rw [Phrase.predicate] at denoted
  cases built : Predicate.ofTerm name code literal with
  | error error => rw [built] at denoted; cases denoted
  | ok leaf =>
      rw [built] at denoted
      cases denoted
      exact ⟨leaf, rfl, rfl⟩

theorem predicate_group {negations : Nat} {left right : Phrase} {join : Join}
    {predicate : Predicate}
    (denoted : (Phrase.group negations left join right).predicate = .ok predicate) :
    ∃ first second, left.predicate = .ok first ∧ right.predicate = .ok second ∧
      predicate = (first.joined join second).negated negations := by
  rw [Phrase.predicate] at denoted
  cases leftDenoted : left.predicate with
  | error error => rw [leftDenoted] at denoted; cases denoted
  | ok first =>
      cases rightDenoted : right.predicate with
      | error error => rw [leftDenoted, rightDenoted] at denoted; cases denoted
      | ok second =>
          rw [leftDenoted, rightDenoted] at denoted
          cases denoted
          exact ⟨first, second, rfl, rfl, rfl⟩

/-- What a phrase denotes is written with no more characters than the tokens of the phrase take,
apart from two blanks for each of its groups. -/
theorem length_characters_le :
    ∀ (phrase : Phrase) {predicate : Predicate}, phrase.Spelled →
      phrase.predicate = .ok predicate →
      predicate.characters.length ≤
        (phrase.tokens.map Token.width).sum + 2 * predicate.joinCount := by
  intro phrase
  induction phrase with
  | term negations name code literal =>
      intro predicate spelled denoted
      obtain ⟨leaf, built, rfl⟩ := predicate_term denoted
      have noLonger := Predicate.length_characters_ofTerm spelled built
      rw [Predicate.length_characters_negated, tokens, List.map_append, List.sum_append,
        sum_width_replicate_not]
      simp only [List.map_cons, List.map_nil, List.sum_cons, List.sum_nil, Token.width]
      omega
  | group negations left join right leftInduction rightInduction =>
      intro predicate spelled denoted
      obtain ⟨first, second, leftDenoted, rightDenoted, rfl⟩ := predicate_group denoted
      have firstLength := leftInduction spelled.1 leftDenoted
      have secondLength := rightInduction spelled.2 rightDenoted
      rw [Predicate.length_characters_negated, Predicate.joinCount_negated,
        Predicate.length_characters_joined, Predicate.joinCount_joined, tokens]
      simp only [List.map_append, List.map_cons, List.map_nil, List.sum_append,
        List.sum_cons, List.sum_nil, sum_width_replicate_not, Token.width]
      omega

theorem filter_isTerm_replicate_not (count : Nat) :
    (List.replicate count Token.not).filter Token.isTerm = [] := by
  simp [Token.isTerm]

theorem shortens_terms :
    ∀ (phrase : Phrase) {predicate : Predicate}, phrase.Spelled →
      phrase.predicate = .ok predicate →
      List.Forall₂ Token.Shortens (phrase.tokens.filter Token.isTerm) predicate.terms := by
  intro phrase
  induction phrase with
  | term negations name code literal =>
      intro predicate spelled denoted
      obtain ⟨leaf, built, rfl⟩ := predicate_term denoted
      obtain ⟨shortens, alone⟩ := Token.shortens_of_ofTerm spelled built
      rw [Predicate.terms_negated, alone, tokens, List.filter_append,
        filter_isTerm_replicate_not]
      exact .cons shortens .nil
  | group negations left join right leftInduction rightInduction =>
      intro predicate spelled denoted
      obtain ⟨first, second, leftDenoted, rightDenoted, rfl⟩ := predicate_group denoted
      have firstTerms := leftInduction spelled.1 leftDenoted
      have secondTerms := rightInduction spelled.2 rightDenoted
      rw [Predicate.terms_negated, Predicate.terms_joined, tokens]
      simp only [List.filter_append, filter_isTerm_replicate_not, List.filter_cons,
        List.filter_nil, Token.isTerm, Bool.false_eq_true, if_false, List.nil_append,
        List.append_nil]
      exact List.rel_append firstTerms secondTerms

end Phrase

/-! ## Query text -/

/-- Canonical text is longer than the query it was read from by at most two blanks for each join:
the terms of the query and those of the predicate correspond in order, and names, codes and literals
do not become longer.  A literal that is written anew is read as the same value or the same
list. -/
theorem canonical_text_grows_only_at_joins :
    (∀ (limits : Limits) (text : String) (predicate : Predicate),
      Search.parse limits text = .ok (.only predicate) →
      predicate.text.length ≤ text.length + 2 * predicate.joinCount ∧
      ∃ tokens, scan text.toList = .ok tokens ∧
        (∀ position name code literal, ⟨position, .term name code literal⟩ ∈ tokens →
          termCharacters name code literal <+: text.toList.drop position) ∧
        List.Forall₂ Token.Shortens ((tokens.map PlacedToken.token).filter Token.isTerm)
          predicate.terms) ∧
    ∀ text content after : List Char, readLiteral text = some (content, after) →
      Respells unescaped content (escaped needsEscape (unescaped content)) ∧
      Respells splitList content (escapedList ((splitList content).map String.ofList)) := by
  constructor
  · intro limits text predicate accepted
    rcases Search.parseCharacters_cases accepted with
      ⟨all, _⟩ | ⟨tokens, phrase, _, same, scanned, yields, _, denoted⟩
    · cases all
    cases same
    have spelled : phrase.Spelled := by
      apply phrase.spelled_of_tokens
      intro token member
      rw [← yields] at member
      obtain ⟨placed, placedMember, rfl⟩ := List.mem_map.mp member
      obtain ⟨spelling, spells, _⟩ := exists_spelling_of_scan scanned placedMember
      exact ⟨spelling, spells⟩
    have written := phrase.length_characters_le spelled denoted
    have standing := sum_width_le_of_scan scanned
    rw [yields, String.length_toList] at standing
    refine ⟨?_, tokens, scanned, ?_, ?_⟩
    · rw [Predicate.text, String.length_ofList]
      omega
    · intro position name code literal member
      obtain ⟨spelling, spells, there⟩ := exists_spelling_of_scan scanned member
      cases spells
      exact there
    · rw [yields]
      exact phrase.shortens_terms spelled denoted
  · intro text content after readable
    obtain ⟨_, allowed⟩ := readLiteral_sound readable
    exact ⟨respells_escaped allowed, respells_escapedList allowed⟩

/-- A query without blanks around the outer join, where one mark is escaped without need. -/
def gluedText : String :=
  "((a|nn: and!b|in:\"\\x,y\")OR!(c|nn: or d|eq:\"\\\"\"))"

def gluedPredicate : Predicate :=
  .or (.and (.bare "a" .isNotNull) (.not (.multiple "b" .isIn ["x", "y"])))
    (.not (.or (.bare "c" .isNotNull) (.single "d" .equal "\"")))

/-- The literal of the list loses its escape mark, and three blanks are added at the joins. -/
theorem canonical_text_grows_only_at_joins_glued :
    gluedPredicate.text = "((a|nn: AND !b|in:\"x,y\") OR !(c|nn: OR d|eq:\"\\\"\"))" ∧
      gluedPredicate.text.length = gluedText.length + 2 ∧
      gluedPredicate.text.length ≤ gluedText.length + 2 * gluedPredicate.joinCount ∧
      Respells splitList "\\x,y".toList (escapedList ["x", "y"]) := by
  have accepted : Search.parse {} gluedText = .ok (.only gluedPredicate) := by decide +kernel
  have readable : readLiteral "\\x,y\")".toList = some ("\\x,y".toList, [')']) := by decide +kernel
  refine ⟨by decide +kernel, by decide +kernel, ?_, ?_⟩
  · exact (canonical_text_grows_only_at_joins.1 {} gluedText gluedPredicate accepted).1
  · exact (canonical_text_grows_only_at_joins.2 _ _ _ readable).2

end SearchQuery

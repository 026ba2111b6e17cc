import SearchQuery.Proofs.Faults
import SearchQuery.Proofs.RoundTrip

/-!
# Truncated queries

A text that is cut off is scanned, if it is scanned at all, into the tokens before the cut and at
most one token more: what is left of the token that the cut falls into, which is a word or a term
without its literal.  Such a remainder never completes a phrase, so a truncated query is never taken
for another query.
-/

set_option autoImplicit false

namespace SearchQuery

/-! ## A cut within a token -/

/-- What may be read of a token that is cut off: the beginning of a word or of a name is a word, and
a term may lose its literal. -/
inductive Token.Curtailed : Token → Token → Prop where
  | word (full : Token) (word : List Char) : Curtailed full (wordToken (String.ofList word))
  | term (name code content : String) :
      Curtailed (.term name code (some content)) (.term name code none)

theorem Token.Spells.isBlank_eq_false {token : Token} {c : Char} {rest : List Char}
    (spells : token.Spells (c :: rest)) : Text.isBlank c = false := by
  have noBlanks := spells.takeWhile_isBlank token.endsBefore_nil
  rw [List.append_nil] at noBlanks
  by_contra blank
  rw [List.takeWhile_cons_of_pos (by simpa using blank)] at noBlanks
  cases noBlanks

theorem literalCharacters_cut {literal full : Option String} {back : List Char}
    (literalAllowed : ∀ content ∈ literal, isLiteralContent content.toList = true)
    (fullAllowed : ∀ content ∈ full, isLiteralContent content.toList = true) (cut : back ≠ [])
    (same : Phrase.literalCharacters full = Phrase.literalCharacters literal ++ back) :
    literal = none ∧ ∃ content, full = some content := by
  cases full with
  | none =>
      have nothing := (List.append_eq_nil_iff.mp same.symm).2
      exact absurd nothing cut
  | some fullContent =>
      cases literal with
      | none => exact ⟨rfl, fullContent, rfl⟩
      | some content =>
          simp only [Phrase.literalCharacters, List.cons_append, List.append_assoc,
            List.cons.injEq, true_and, List.nil_append] at same
          have readFull := readLiteral_append (fullAllowed fullContent rfl) []
          have readPart := readLiteral_append (literalAllowed content rfl) back
          rw [same, readPart, Option.some.injEq, Prod.mk.injEq] at readFull
          exact absurd readFull.2 cut

theorem termCharacters_cut {name code fullName fullCode : String} {literal full : Option String}
    {back : List Char} (spelled : TermSpelled name code literal)
    (fullSpelled : TermSpelled fullName fullCode full) (cut : back ≠ [])
    (same : termCharacters fullName fullCode full = termCharacters name code literal ++ back) :
    fullName = name ∧ fullCode = code ∧ literal = none ∧ ∃ content, full = some content := by
  have nameStops : ∀ rest : List Char, ('|' :: rest).takeWhile isNameCharacter = [] := by
    intro rest
    exact List.takeWhile_cons_of_neg (by decide)
  simp only [termCharacters, List.append_assoc, List.cons_append] at same
  obtain ⟨sameName, afterName⟩ := Text.run_append_injective fullSpelled.nameAllowed (nameStops _)
    spelled.nameAllowed (nameStops _) same
  obtain ⟨sameCode, afterCode⟩ := Text.run_append_injective fullSpelled.codeAllowed rfl
    spelled.codeAllowed rfl (List.cons.inj afterName).2
  refine ⟨String.toList_injective sameName, String.toList_injective sameCode, ?_⟩
  exact literalCharacters_cut spelled.literalAllowed fullSpelled.literalAllowed cut
    (List.cons.inj afterCode).2

theorem Token.Spells.curtailed {full left : Token} {front back : List Char}
    (spells : full.Spells (front ++ back)) (leftSpells : left.Spells front)
    (cut : ¬left.EndsBefore back) : full.Curtailed left := by
  cases leftSpells with
  | opening => exact absurd trivial cut
  | closing => exact absurd trivial cut
  | not => exact absurd trivial cut
  | join isWord keyword =>
      rw [← wordToken_of_keyword keyword]
      exact .word full front
  | word isWord plain =>
      rw [← wordToken_of_plain plain]
      exact .word full front
  | @term name code literal spelled =>
      have someBack : back ≠ [] := by
        rintro rfl
        exact cut (Token.endsBefore_nil _)
      have separator : '|' ∈ termCharacters name code literal ++ back := by
        simp [termCharacters]
      generalize whole : termCharacters name code literal ++ back = text at spells separator
      cases spells with
      | opening => cases separator; contradiction
      | closing => cases separator; contradiction
      | not => cases separator; contradiction
      | join isWord _ => exact absurd (isWord.inside _ separator) (by decide)
      | word isWord _ => exact absurd (isWord.inside _ separator) (by decide)
      | term fullSpelled =>
          obtain ⟨rfl, rfl, rfl, content, rfl⟩ :=
            termCharacters_cut spelled fullSpelled someBack whole.symm
          exact .term _ _ content

theorem Piece.eq_nil_of_text_eq_nil {trailing : List Char} {pieces : List Piece}
    (regular : Regular trailing pieces) (nothing : text trailing pieces = []) : pieces = [] := by
  cases pieces with
  | nil => rfl
  | cons piece rest =>
      obtain ⟨_, spells, _, _⟩ := regular
      have lengths := congrArg List.length nothing
      simp only [text, List.length_append, List.length_nil] at lengths
      have taken := spells.length_pos
      omega

/-- The beginning of a spelling is scanned into one token at most. -/
theorem scanFrom_of_cut {full : Token} {front back : List Char} {position : Nat}
    {placed : List PlacedToken} (spells : full.Spells (front ++ back)) (someFront : front ≠ [])
    (someBack : back ≠ []) (scanned : scanFrom position front = .ok placed) :
    ∃ left, placed = [⟨position, left⟩] ∧ full.Curtailed left := by
  have visible : ∀ c rest, front = c :: rest → Text.isBlank c = false := by
    rintro c rest rfl
    exact spells.isBlank_eq_false
  obtain ⟨trailing, pieces, regular, covers, rfl⟩ := exists_pieces_of_scanFrom scanned
  cases pieces with
  | nil =>
      rw [Piece.text] at covers
      subst covers
      obtain ⟨c, rest, divided⟩ := List.exists_cons_of_ne_nil someFront
      have blank := regular c (by rw [divided]; exact List.mem_cons_self)
      rw [visible c rest divided] at blank
      cases blank
  | cons piece rest =>
      obtain ⟨blanks, spelling, left⟩ := piece
      obtain ⟨allBlank, leftSpells, ends, restRegular⟩ := regular
      simp only [Piece.text] at covers ends
      obtain rfl : blanks = [] := by
        cases blanks with
        | nil => rfl
        | cons c others =>
            have blank := allBlank c List.mem_cons_self
            rw [visible c _ covers.symm] at blank
            cases blank
      have cut : ¬left.EndsBefore (Piece.text trailing rest ++ back) := by
        intro endsThere
        have sameText : spelling ++ (Piece.text trailing rest ++ back) = (front ++ back) ++ [] := by
          rw [← covers, List.nil_append, List.append_nil, List.append_assoc]
        have nothing :=
          (leftSpells.eq_of_append_eq endsThere spells full.endsBefore_nil sameText).2.2
        exact someBack (List.append_eq_nil_iff.mp nothing).2
      cases after : Piece.text trailing rest with
      | nil =>
          obtain rfl := Piece.eq_nil_of_text_eq_nil restRegular after
          rw [after, List.nil_append] at cut
          rw [after, List.nil_append, List.append_nil] at covers
          subst covers
          exact ⟨left, rfl, spells.curtailed leftSpells cut⟩
      | cons c others =>
          rw [after] at ends cut
          exact absurd (ends.with_rest (others ++ back)) cut

/-! ## A cut anywhere in a text -/

/-- What may be read of a text whose end has been cut off: the tokens before the cut, and perhaps
one that is left of the next.  If no token is lost, the end was blank. -/
def Remain (back : List Char) (whole tokens : List Token) : Prop :=
  (∃ lost, whole = tokens ++ lost ∧ (lost = [] → ∀ c ∈ back, Text.isBlank c = true)) ∨
    ∃ kept full lost left, whole = kept ++ full :: lost ∧ tokens = kept ++ [left] ∧
      full.Curtailed left

theorem Remain.nothing {back : List Char} {whole : List Token}
    (blank : whole = [] → ∀ c ∈ back, Text.isBlank c = true) : Remain back whole [] :=
  .inl ⟨whole, rfl, blank⟩

theorem Remain.cons {back : List Char} {whole tokens : List Token} (token : Token)
    (remain : Remain back whole tokens) : Remain back (token :: whole) (token :: tokens) := by
  rcases remain with ⟨lost, rfl, blank⟩ | ⟨kept, full, lost, left, rfl, rfl, curtailed⟩
  · exact .inl ⟨lost, rfl, blank⟩
  · exact .inr ⟨token :: kept, full, lost, left, rfl, rfl, curtailed⟩

theorem scanFrom_allBlank {blanks : List Char} (position : Nat)
    (allBlank : ∀ c ∈ blanks, Text.isBlank c = true) : scanFrom position blanks = .ok [] := by
  have passed := scanFrom_blanks [] blanks position allBlank
  rw [List.append_nil, scanFrom.eq_def _ []] at passed
  exact passed

/-- A token that ends before the rest of a text ends before any part of that rest. -/
theorem Token.EndsBefore.of_append {token : Token} {front back : List Char}
    (ends : token.EndsBefore (front ++ back)) : token.EndsBefore front := by
  cases front with
  | nil => exact token.endsBefore_nil
  | cons c rest => exact ends.with_rest rest

theorem remain_of_scanFrom {trailing back : List Char} :
    ∀ (pieces : List Piece) (position : Nat) (front : List Char) (placed : List PlacedToken),
      Piece.Regular trailing pieces → Piece.text trailing pieces = front ++ back →
      scanFrom position front = .ok placed →
      Remain back (pieces.map Piece.token) (placed.map PlacedToken.token) := by
  intro pieces
  induction pieces with
  | nil =>
      intro position front placed allBlank divided scanned
      rw [Piece.text] at divided
      subst divided
      rw [scanFrom_allBlank position fun c member => allBlank c (List.mem_append_left _ member)]
        at scanned
      cases scanned
      exact .nothing fun _ c member => allBlank c (List.mem_append_right _ member)
  | cons piece rest inductionHypothesis =>
      intro position front placed regular divided scanned
      obtain ⟨allBlank, spells, ends, restRegular⟩ := regular
      have beforeToken : Remain back ((piece :: rest).map Piece.token) [] :=
        .nothing fun nothing => absurd nothing (List.cons_ne_nil _ _)
      have afterToken : ∀ front, Piece.text trailing rest = front ++ back →
          scanFrom (position + piece.blanks.length) (piece.spelling ++ front) = .ok placed →
          Remain back ((piece :: rest).map Piece.token) (placed.map PlacedToken.token) := by
        intro front restDivided scanned
        rw [restDivided] at ends
        rw [scanFrom_spells spells ends.of_append] at scanned
        cases later : scanFrom (position + piece.blanks.length + piece.spelling.length) front with
        | error flaw =>
            rw [later] at scanned
            cases scanned
        | ok tokens =>
            rw [later] at scanned
            cases scanned
            have remain := inductionHypothesis _ front tokens restRegular restDivided later
            exact remain.cons piece.token
      rw [Piece.text, List.append_eq_append_iff] at divided
      rcases divided with ⟨front, rfl, divided⟩ | ⟨blanksBack, blanksDivided, _⟩
      · rw [scanFrom_blanks _ _ _ allBlank] at scanned
        rw [List.append_eq_append_iff] at divided
        rcases divided with ⟨front, rfl, divided⟩ | ⟨spellingBack, spellingDivided, backDivided⟩
        · exact afterToken front divided scanned
        · by_cases noFront : front = []
          · rw [noFront, scanFrom.eq_def] at scanned
            cases scanned
            exact beforeToken
          by_cases noBack : spellingBack = []
          · rw [noBack, List.append_nil] at spellingDivided
            rw [noBack, List.nil_append] at backDivided
            refine afterToken [] backDivided.symm ?_
            rw [spellingDivided, List.append_nil, scanned]
          · rw [spellingDivided] at spells
            obtain ⟨left, rfl, curtailed⟩ := scanFrom_of_cut spells noFront noBack scanned
            exact .inr ⟨[], piece.token, rest.map Piece.token, left, rfl, rfl, curtailed⟩
      · have frontBlank : ∀ c ∈ front, Text.isBlank c = true := by
          intro c member
          exact allBlank c (by rw [blanksDivided]; exact List.mem_append_left _ member)
        rw [scanFrom_allBlank position frontBlank] at scanned
        cases scanned
        exact beforeToken

theorem Piece.map_token_tokens :
    ∀ (pieces : List Piece) (position : Nat),
      (tokens position pieces).map PlacedToken.token = pieces.map Piece.token := by
  intro pieces
  induction pieces with
  | nil => intro position; rfl
  | cons piece rest inductionHypothesis =>
      intro position
      rw [tokens, List.map_cons, List.map_cons, inductionHypothesis]

theorem remain_of_scan {front back : List Char} {whole tokens : List PlacedToken}
    (wholeScanned : scan (front ++ back) = .ok whole) (scanned : scan front = .ok tokens) :
    Remain back (whole.map PlacedToken.token) (tokens.map PlacedToken.token) := by
  obtain ⟨trailing, pieces, regular, covers, rfl⟩ := exists_pieces_of_scanFrom wholeScanned
  rw [Piece.map_token_tokens]
  exact remain_of_scanFrom pieces 0 front tokens regular covers scanned

/-! ## What remains of a phrase -/

namespace Phrase

/-- A phrase ends with a term or with the parenthesis that closes a group. -/
theorem exists_last_token (phrase : Phrase) :
    ∃ others last, phrase.tokens = others ++ [last] ∧
      (last = .closing ∨ ∃ name code literal, last = .term name code literal) := by
  cases phrase with
  | term negations name code literal => exact ⟨_, _, rfl, .inr ⟨name, code, literal, rfl⟩⟩
  | group negations left join right =>
      refine ⟨List.replicate negations .not ++
        (.opening :: left.tokens ++ .join join :: right.tokens), .closing, ?_, .inl rfl⟩
      simp only [tokens, List.append_assoc, List.cons_append]

/-- Every term of a phrase that denotes a predicate is built. -/
theorem ofTerm_of_mem {name code : String} {literal : Option String} :
    ∀ (phrase : Phrase) {predicate : Predicate}, phrase.predicate = .ok predicate →
      .term name code literal ∈ phrase.tokens →
      ∃ leaf, Predicate.ofTerm name code literal = .ok leaf := by
  intro phrase
  induction phrase with
  | term negations otherName otherCode otherLiteral =>
      intro predicate denoted member
      simp only [tokens, List.mem_append, List.mem_replicate, reduceCtorEq, and_false,
        List.mem_singleton, false_or] at member
      cases member
      rw [Phrase.predicate] at denoted
      cases built : Predicate.ofTerm name code literal with
      | error error =>
          rw [built] at denoted
          cases denoted
      | ok leaf => exact ⟨leaf, rfl⟩
  | group negations left join right leftInduction rightInduction =>
      intro predicate denoted member
      simp only [tokens, List.mem_append, List.mem_replicate, List.mem_cons, reduceCtorEq,
        and_false, List.not_mem_nil, false_or, or_false] at member
      rw [Phrase.predicate] at denoted
      cases leftDenoted : left.predicate with
      | error error =>
          rw [leftDenoted] at denoted
          cases denoted
      | ok first =>
          cases rightDenoted : right.predicate with
          | error error =>
              rw [leftDenoted, rightDenoted] at denoted
              cases denoted
          | ok second =>
              rcases member with inLeft | inRight
              · exact leftInduction leftDenoted inLeft
              · exact rightInduction rightDenoted inRight

end Phrase

/-- A term that is built has a literal exactly if its operator takes a value. -/
theorem Predicate.arity_of_ofTerm {name code : String} {literal : Option String} {leaf : Predicate}
    (built : ofTerm name code literal = .ok leaf) :
    ∃ operator, Operator.ofCode? code = some operator ∧
      (operator.arity = .none ↔ literal = none) := by
  unfold ofTerm at built
  split at built
  · cases built
  next operator found =>
    refine ⟨operator, found, ?_⟩
    split at built
    next arity => simp [arity]
    next => cases built
    next arity => simp [arity]
    next arity => simp [arity]
    next => cases built

/-- What remains of a phrase is itself a phrase only if nothing but blanks has been cut off. -/
theorem Phrase.blank_of_remain {phrase other : Phrase} {predicate otherPredicate : Predicate}
    {back : List Char} (denoted : phrase.predicate = .ok predicate)
    (otherDenoted : other.predicate = .ok otherPredicate)
    (remain : Remain back phrase.tokens other.tokens) : ∀ c ∈ back, Text.isBlank c = true := by
  rcases remain with ⟨lost, divided, blank⟩ | ⟨kept, full, lost, left, whole, rest, curtailed⟩
  · have same : other.tokens ++ lost = phrase.tokens ++ [] := by rw [divided, List.append_nil]
    exact blank (tokens_append_injective other phrase lost [] same).2
  · obtain ⟨others, last, ended, kind⟩ := other.exists_last_token
    obtain ⟨_, sameLast⟩ := List.append_inj' (rest.symm.trans ended) rfl
    obtain rfl : left = last := (List.cons.inj sameLast).1
    cases curtailed with
    | word _ word =>
        unfold wordToken at kind
        split at kind
        · simp at kind
        · split at kind <;> simp at kind
    | term name code content =>
        have fullMember : Token.term name code (some content) ∈ phrase.tokens := by
          rw [whole]
          simp
        have leftMember : Token.term name code none ∈ other.tokens := by
          rw [rest]
          simp
        obtain ⟨leaf, built⟩ := phrase.ofTerm_of_mem denoted fullMember
        obtain ⟨otherLeaf, otherBuilt⟩ := other.ofTerm_of_mem otherDenoted leftMember
        obtain ⟨operator, found, takes⟩ := Predicate.arity_of_ofTerm built
        obtain ⟨sameOperator, otherFound, otherTakes⟩ := Predicate.arity_of_ofTerm otherBuilt
        rw [found] at otherFound
        cases otherFound
        exact absurd (takes.mp (otherTakes.mpr rfl)) (by simp)

/-! ## Truncated text -/

theorem Phrase.head_visible {phrase : Phrase} (spelled : phrase.Spelled) :
    ∃ c, phrase.characters.head? = some c ∧ Text.isBlank c = false := by
  have inFront : ∀ (negations : Nat) (rest : List Char),
      (∃ c, rest.head? = some c ∧ Text.isBlank c = false) →
      ∃ c, (List.replicate negations '!' ++ rest).head? = some c ∧ Text.isBlank c = false := by
    intro negations rest visible
    cases negations with
    | zero => exact visible
    | succ count => exact ⟨'!', rfl, by decide⟩
  cases phrase with
  | term negations name code literal =>
      apply inFront
      have noRest : endsTerm [] = true := rfl
      obtain ⟨c, rest, divided, visible, _⟩ := readLexeme_term spelled 0 noRest
      rw [List.append_nil, termCharacters] at divided
      exact ⟨c, by rw [divided]; rfl, visible⟩
  | group negations left join right => exact inFront negations _ ⟨'(', rfl, by decide⟩

theorem Phrase.last_visible (phrase : Phrase) :
    ∃ c, phrase.characters.getLast? = some c ∧ Text.isBlank c = false := by
  cases phrase with
  | term negations name code literal =>
      cases literal with
      | none => exact ⟨':', by simp [characters, literalCharacters, List.getLast?_cons], by decide⟩
      | some content =>
          exact ⟨quoteMark, by simp [characters, literalCharacters, List.getLast?_cons], by decide⟩
  | group negations left join right =>
      exact ⟨')', by simp [characters, List.getLast?_cons], by decide⟩

/-- A phrase that denotes a predicate is read from no proper beginning of its spelling. -/
theorem Search.parseCharacters_of_cut {limits : Limits} {phrase : Phrase} {predicate : Predicate}
    {front back : List Char} (spelled : phrase.Spelled) (denoted : phrase.predicate = .ok predicate)
    (divided : phrase.characters = front ++ back) (someFront : front ≠ []) (someBack : back ≠ []) :
    ∃ error, parseCharacters limits front = .error error := by
  cases result : parseCharacters limits front with
  | error error => exact ⟨error, rfl⟩
  | ok search =>
      exfalso
      rcases parseCharacters_cases result with
        ⟨_, allBlank⟩ | ⟨tokens, other, _, _, scanned, otherSpelled, _, otherDenoted⟩
      · obtain ⟨c, first, visible⟩ := Phrase.head_visible spelled
        rw [divided, List.head?_append_of_ne_nil front someFront] at first
        have blank := List.all_eq_true.mp allBlank c (List.mem_of_head? first)
        rw [visible] at blank
        cases blank
      · obtain ⟨placed, tokensSpelled, wholeScanned⟩ := scan_phrase spelled
        rw [divided] at wholeScanned
        have remain := remain_of_scan wholeScanned scanned
        rw [tokensSpelled, otherSpelled] at remain
        obtain ⟨c, last, visible⟩ := phrase.last_visible
        rw [divided, List.getLast?_append_of_ne_nil front someBack] at last
        have blank := Phrase.blank_of_remain denoted otherDenoted remain c
          (List.mem_of_getLast? last)
        rw [visible] at blank
        cases blank

namespace Predicate

/-- The text of a well-formed predicate that has lost its end is no query, wherever it is cut and
whatever the limits are. -/
theorem parse_truncated_text {predicate : Predicate} (wellFormed : predicate.WellFormed)
    {front : String} (begins : front.toList <+: predicate.text.toList) (someText : front ≠ "")
    (shorter : front ≠ predicate.text) (limits : Limits) :
    ∃ error, Search.parse limits front = .error error := by
  obtain ⟨back, divided⟩ := begins
  have someBack : back ≠ [] := by
    rintro rfl
    rw [List.append_nil] at divided
    exact shorter (String.toList_injective divided)
  rw [text, String.toList_ofList, ← characters_phrase] at divided
  exact Search.parseCharacters_of_cut (phrase_spelled predicate wellFormed)
    (predicate_phrase predicate wellFormed) divided.symm (by simpa using someText) someBack

/-- A list with a backslash, a comma and a quote, and an attribute named like a joining word. -/
def sampleMarked : Predicate :=
  .not (.or (.multiple "tags" .isIn ["a\\", "b,c\""]) (.single "OR" .equal " AND "))

/-- Cut off behind a code, where a term without a value would be complete, between a backslash and
the quote that it hides, and before the last parenthesis. -/
theorem parse_truncated_text_marked :
    sampleMarked.text = "!(tags|in:\"a\\\\,b\\,c\\\"\" OR OR|eq:\" AND \")" ∧
      (∃ error, Search.parse {} "!(tags|in:" = .error error) ∧
      (∃ error, Search.parse {} "!(tags|in:\"a\\\\,b\\,c\\" = .error error) ∧
      ∃ error,
        Search.parse {} "!(tags|in:\"a\\\\,b\\,c\\\"\" OR OR|eq:\" AND \"" = .error error := by
  have wellFormed : sampleMarked.WellFormed := by decide
  have spelled :
      sampleMarked.text = "!(tags|in:\"a\\\\,b\\,c\\\"\" OR OR|eq:\" AND \")" := by
    decide +kernel
  refine ⟨spelled, ?_, ?_, ?_⟩
  all_goals
    refine parse_truncated_text wellFormed ?_ (by decide) ?_ {}
    · rw [spelled]
      decide +kernel
    · rw [spelled]
      decide

end Predicate

end SearchQuery

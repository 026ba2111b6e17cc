import SearchQuery.Proofs.Basic
import SearchQuery.Proofs.Phrase
import SearchQuery.Token

/-!
# Scanning the spelling of a phrase

A phrase whose names, codes and literals query text can spell is scanned back into its own tokens,
wherever its spelling stands in a longer text, as long as what follows lets a term end.
-/

set_option autoImplicit false

namespace SearchQuery

/-! ## Literals -/

/-- Text that may stand between the quotes of a literal: no quote outside an escape pair, and no
escape mark without the character that it hides. -/
def isLiteralContent : List Char → Bool
  | [] => true
  | c :: rest =>
      if c = quoteMark then
        false
      else if c = escapeMark then
        match rest with
        | [] => false
        | _ :: rest => isLiteralContent rest
      else
        isLiteralContent rest

theorem readLiteral_quote (after : List Char) :
    readLiteral (quoteMark :: after) = some ([], after) := by
  rw [readLiteral.eq_def]
  simp

theorem readLiteral_escape (hidden : Char) (rest : List Char) :
    readLiteral (escapeMark :: hidden :: rest) =
      (readLiteral rest).map fun found => (escapeMark :: hidden :: found.1, found.2) := by
  have differ : escapeMark ≠ quoteMark := by decide
  rw [readLiteral.eq_def]
  simp only [differ, if_false, if_true]
  cases readLiteral rest <;> rfl

theorem readLiteral_plain {c : Char} (rest : List Char) (notQuote : c ≠ quoteMark)
    (notEscape : c ≠ escapeMark) :
    readLiteral (c :: rest) = (readLiteral rest).map fun found => (c :: found.1, found.2) := by
  rw [readLiteral.eq_def]
  simp only [notQuote, notEscape, if_false]
  cases readLiteral rest <;> rfl

theorem readLiteral_append {content : List Char} (allowed : isLiteralContent content = true)
    (after : List Char) :
    readLiteral (content ++ quoteMark :: after) = some (content, after) := by
  fun_induction isLiteralContent content with
  | case1 => exact readLiteral_quote after
  | case2 => cases allowed
  | case3 => cases allowed
  | case4 hidden rest _ inductionHypothesis =>
      rw [List.cons_append, List.cons_append, readLiteral_escape, inductionHypothesis allowed]
      rfl
  | case5 c rest notQuote notEscape inductionHypothesis =>
      rw [List.cons_append, readLiteral_plain _ notQuote notEscape, inductionHypothesis allowed]
      rfl

/-! ## Names -/

theorem isBlank_of_isNameCharacter {c : Char} (allowed : isNameCharacter c = true) :
    Text.isBlank c = false := by
  simp only [isNameCharacter, Bool.and_eq_true, Bool.not_eq_true'] at allowed
  exact allowed.1

theorem not_mem_reserved_of_isNameCharacter {c : Char} (allowed : isNameCharacter c = true) :
    c ∉ reservedCharacters := by
  simp only [isNameCharacter, Bool.and_eq_true, Bool.not_eq_true'] at allowed
  simpa using allowed.2

theorem isWordCharacter_of_isNameCharacter {c : Char} (allowed : isNameCharacter c = true) :
    isWordCharacter c = true := by
  have notReserved := not_mem_reserved_of_isNameCharacter allowed
  simp only [reservedCharacters, List.mem_cons, List.not_mem_nil, or_false, not_or] at notReserved
  simp [isWordCharacter, isBlank_of_isNameCharacter allowed, wordDelimiters, quoteMark, notReserved]

/-! ## Terms -/

/-- The parts of a term that query text can spell. -/
structure TermSpelled (name code : String) (literal : Option String) : Prop where
  nameNonempty : name.toList ≠ []
  nameAllowed : ∀ c ∈ name.toList, isNameCharacter c = true
  codeNonempty : code.toList ≠ []
  codeAllowed : ∀ c ∈ code.toList, c.isAlphanum = true
  literalAllowed : ∀ content ∈ literal, isLiteralContent content.toList = true

def termCharacters (name code : String) (literal : Option String) : List Char :=
  name.toList ++ '|' :: code.toList ++ ':' :: Phrase.literalCharacters literal

theorem length_termCharacters (name code : String) (literal : Option String) :
    (termCharacters name code literal).length =
      name.toList.length + 1 + code.toList.length + 1 +
        (Phrase.literalCharacters literal).length := by
  simp only [termCharacters, List.length_append, List.length_cons]
  omega

theorem readTerm_spelled {name code : String} {literal : Option String}
    (spelled : TermSpelled name code literal) (start : Nat) {after : List Char}
    (ends : endsTerm after = true) :
    readTerm start name.toList (code.toList ++ ':' :: Phrase.literalCharacters literal ++ after) =
      .ok ⟨.term name code literal, (termCharacters name code literal).length, after⟩ := by
  have noBadCharacter : (name.toList.findIdx? fun c => !isNameCharacter c) = none := by
    rw [List.findIdx?_eq_none_iff]
    intro c member
    simp [spelled.nameAllowed c member]
  have codeFound : (code.toList ++ ':' :: Phrase.literalCharacters literal ++ after).takeWhile
      Char.isAlphanum = code.toList := by
    rw [List.append_assoc]
    exact Text.takeWhile_run spelled.codeAllowed rfl
  have codeDropped : (code.toList ++ ':' :: Phrase.literalCharacters literal ++ after).dropWhile
      Char.isAlphanum = ':' :: (Phrase.literalCharacters literal ++ after) := by
    rw [List.append_assoc]
    exact Text.dropWhile_run spelled.codeAllowed rfl
  have codePresent : code.toList.isEmpty = false := by
    simpa using spelled.codeNonempty
  simp only [readTerm, noBadCharacter, codeFound, codeDropped, codePresent, Bool.false_eq_true,
    if_false, length_termCharacters]
  cases literal with
  | none =>
      simp only [Phrase.literalCharacters, List.nil_append, List.length_nil]
      split
      next =>
        simp [endsTerm, Text.isBlank] at ends
      next => simp [readTerm.finish, ends]
  | some content =>
      have literalRead := readLiteral_append (spelled.literalAllowed content rfl) after
      simp only [Phrase.literalCharacters, List.append_assoc, List.cons_append, List.nil_append]
      simp only [quoteMark] at literalRead ⊢
      simp [literalRead, readTerm.finish, ends, Nat.add_assoc]

/-! ## One token at the front of a text -/

theorem scanFrom_blank {c : Char} (position : Nat) (rest : List Char)
    (blank : Text.isBlank c = true) :
    scanFrom position (c :: rest) = scanFrom (position + 1) rest := by
  rw [scanFrom.eq_def]
  simp only [blank, if_true]

theorem scanFrom_lexeme {position : Nat} {c : Char} {rest : List Char} {lexeme : Lexeme}
    (notBlank : Text.isBlank c = false) (readable : readLexeme position c rest = .ok lexeme) :
    scanFrom position (c :: rest) =
      (scanFrom (position + lexeme.width) lexeme.rest).map
        fun tokens => ⟨position, lexeme.token⟩ :: tokens := by
  rw [scanFrom.eq_def]
  simp only [notBlank, Bool.false_eq_true, if_false]
  split
  next flaw failed =>
    rw [failed] at readable
    cases readable
  next found success =>
    rw [success] at readable
    cases readable
    cases scanFrom (position + lexeme.width) lexeme.rest <;> rfl

theorem scanFrom_not (position : Nat) (rest : List Char) :
    scanFrom position ('!' :: rest) =
      (scanFrom (position + 1) rest).map fun tokens => ⟨position, .not⟩ :: tokens := by
  have readable : readLexeme position '!' rest = .ok ⟨.not, 1, rest⟩ := by simp [readLexeme]
  exact scanFrom_lexeme (by decide) readable

theorem scanFrom_opening (position : Nat) (rest : List Char) :
    scanFrom position ('(' :: rest) =
      (scanFrom (position + 1) rest).map fun tokens => ⟨position, .opening⟩ :: tokens := by
  have readable : readLexeme position '(' rest = .ok ⟨.opening, 1, rest⟩ := by simp [readLexeme]
  exact scanFrom_lexeme (by decide) readable

theorem scanFrom_closing (position : Nat) (rest : List Char) :
    scanFrom position (')' :: rest) =
      (scanFrom (position + 1) rest).map fun tokens => ⟨position, .closing⟩ :: tokens := by
  have readable : readLexeme position ')' rest = .ok ⟨.closing, 1, rest⟩ := by simp [readLexeme]
  exact scanFrom_lexeme (by decide) readable

/-- What a word is depends on the text after it. -/
def afterWord (start : Nat) (word : List Char) : List Char → Except Flaw Lexeme
  | '|' :: after => readTerm start word after
  | ':' :: _ => .error ⟨start + word.length, .missingCode (String.ofList word)⟩
  | after => .ok ⟨wordToken (String.ofList word), word.length, after⟩

theorem readLexeme_word {c : Char} {rest after : List Char} (start : Nat) (word : List Char)
    (divided : c :: rest = word ++ after) (nonempty : word ≠ [])
    (inWord : ∀ d ∈ word, isWordCharacter d = true)
    (stops : after.takeWhile isWordCharacter = []) :
    readLexeme start c rest = afterWord start word after := by
  have firstInWord : isWordCharacter c = true := by
    cases word with
    | nil => exact absurd rfl nonempty
    | cons first others =>
        rw [List.cons_append, List.cons.injEq] at divided
        exact divided.1 ▸ inWord first List.mem_cons_self
  have notMark : c ≠ '(' ∧ c ≠ ')' ∧ c ≠ '!' ∧ c ≠ quoteMark := by
    refine ⟨?_, ?_, ?_, ?_⟩ <;> rintro rfl <;> exact absurd firstInWord (by decide)
  have wordFound := Text.takeWhile_run inWord stops
  have wordDropped := Text.dropWhile_run inWord stops
  have wordPresent : word.isEmpty = false := by simpa using nonempty
  simp only [readLexeme, notMark, if_false, divided, wordFound, wordDropped, wordPresent,
    Bool.false_eq_true]
  rfl

/-- A joining word ends at any mark that neither continues a word nor makes a term of it. -/
theorem scanFrom_join_before (position : Nat) (join : Join) {mark : Char} (rest : List Char)
    (stops : isWordCharacter mark = false) (noTerm : mark ≠ '|' ∧ mark ≠ ':') :
    scanFrom position (join.keyword.toList ++ mark :: rest) =
      (scanFrom (position + join.keyword.toList.length) (mark :: rest)).map
        fun tokens => ⟨position, .join join⟩ :: tokens := by
  have wordStops : (mark :: rest).takeWhile isWordCharacter = [] := by
    simp [stops]
  have wordRead : ∀ word, afterWord position word (mark :: rest) =
      .ok ⟨wordToken (String.ofList word), word.length, mark :: rest⟩ := by
    intro word
    simp [afterWord, noTerm.1, noTerm.2]
  cases join with
  | and =>
      have readable := readLexeme_word position ['A', 'N', 'D'] rfl (by simp)
        (List.all_eq_true.mp rfl) wordStops
      rw [wordRead] at readable
      exact scanFrom_lexeme (by decide) readable
  | or =>
      have readable := readLexeme_word position ['O', 'R'] rfl (by simp)
        (List.all_eq_true.mp rfl) wordStops
      rw [wordRead] at readable
      exact scanFrom_lexeme (by decide) readable

theorem scanFrom_join (position : Nat) (join : Join) (rest : List Char) :
    scanFrom position (join.keyword.toList ++ ' ' :: rest) =
      (scanFrom (position + join.keyword.toList.length) (' ' :: rest)).map
        fun tokens => ⟨position, .join join⟩ :: tokens :=
  scanFrom_join_before position join rest (by decide) (by decide)

theorem readLexeme_term {name code : String} {literal : Option String}
    (spelled : TermSpelled name code literal) (start : Nat) {after : List Char}
    (ends : endsTerm after = true) :
    ∃ c rest, termCharacters name code literal ++ after = c :: rest ∧
      Text.isBlank c = false ∧ readLexeme start c rest =
        .ok ⟨.term name code literal, (termCharacters name code literal).length, after⟩ := by
  obtain ⟨first, others, nameDivided⟩ := List.exists_cons_of_ne_nil spelled.nameNonempty
  have firstAllowed : isNameCharacter first = true :=
    spelled.nameAllowed first (by rw [nameDivided]; exact List.mem_cons_self)
  have textDivided : termCharacters name code literal ++ after = name.toList ++
      '|' :: (code.toList ++ ':' :: Phrase.literalCharacters literal ++ after) := by
    simp only [termCharacters, List.append_assoc, List.cons_append]
  refine ⟨first, others ++ '|' :: (code.toList ++ ':' :: Phrase.literalCharacters literal ++ after),
    ?_, isBlank_of_isNameCharacter firstAllowed, ?_⟩
  · rw [textDivided, nameDivided, List.cons_append]
  · rw [readLexeme_word start name.toList (by rw [nameDivided, List.cons_append])
      spelled.nameNonempty
      (fun c member => isWordCharacter_of_isNameCharacter (spelled.nameAllowed c member))
      (by simp [isWordCharacter, wordDelimiters])]
    exact readTerm_spelled spelled start ends

theorem scanFrom_term {name code : String} {literal : Option String}
    (spelled : TermSpelled name code literal) (position : Nat) {after : List Char}
    (ends : endsTerm after = true) :
    scanFrom position (termCharacters name code literal ++ after) =
      (scanFrom (position + (termCharacters name code literal).length) after).map
        fun tokens => ⟨position, .term name code literal⟩ :: tokens := by
  obtain ⟨c, rest, textDivided, notBlank, readable⟩ := readLexeme_term spelled position ends
  rw [textDivided]
  exact scanFrom_lexeme notBlank readable

/-! ## Whole phrases -/

def Phrase.Spelled : Phrase → Prop
  | .term _ name code literal => TermSpelled name code literal
  | .group _ left _ right => left.Spelled ∧ right.Spelled

theorem scanFrom_negations :
    ∀ (count position : Nat), ∃ placed : List PlacedToken,
      placed.map PlacedToken.token = List.replicate count .not ∧
        ∀ rest, scanFrom position (List.replicate count '!' ++ rest) =
          (scanFrom (position + count) rest).map fun tokens => placed ++ tokens := by
  intro count
  induction count with
  | zero =>
      intro position
      refine ⟨[], rfl, fun rest => ?_⟩
      simp only [List.replicate_zero, List.nil_append, Nat.add_zero]
      cases scanFrom position rest <;> rfl
  | succ count inductionHypothesis =>
      intro position
      obtain ⟨placed, spelled, scanned⟩ := inductionHypothesis (position + 1)
      refine ⟨⟨position, .not⟩ :: placed, ?_, fun rest => ?_⟩
      · rw [List.map_cons, spelled, List.replicate_succ]
      · rw [List.replicate_succ, List.cons_append, scanFrom_not, scanned,
          Nat.add_assoc, Nat.add_comm 1 count]
        cases scanFrom (position + (count + 1)) rest <;> rfl

/-- The spelling of a phrase is scanned into its tokens, and scanning goes on after it. -/
theorem scanFrom_phrase :
    ∀ (phrase : Phrase) (position : Nat), phrase.Spelled → ∃ placed : List PlacedToken,
      placed.map PlacedToken.token = phrase.tokens ∧
        ∀ rest, endsTerm rest = true →
          scanFrom position (phrase.characters ++ rest) =
            (scanFrom (position + phrase.characters.length) rest).map
              fun tokens => placed ++ tokens := by
  intro phrase
  induction phrase with
  | term negations name code literal =>
      intro position spelled
      obtain ⟨nots, notsSpelled, notsScanned⟩ := scanFrom_negations negations position
      refine ⟨nots ++ [⟨position + negations, .term name code literal⟩], ?_, ?_⟩
      · rw [List.map_append, notsSpelled]
        rfl
      · intro rest ends
        have termScanned := scanFrom_term spelled (position + negations) ends
        have divided : (Phrase.term negations name code literal).characters ++ rest =
            List.replicate negations '!' ++ (termCharacters name code literal ++ rest) := by
          rw [Phrase.characters, termCharacters, List.append_assoc]
        have width : (Phrase.term negations name code literal).characters.length =
            negations + (termCharacters name code literal).length := by
          rw [Phrase.characters, List.length_append, List.length_replicate, termCharacters]
        rw [divided, notsScanned, termScanned, width, Nat.add_assoc]
        cases scanFrom (position + (negations + (termCharacters name code literal).length)) rest with
        | error flaw => rfl
        | ok tokens => simp [Except.map]
  | group negations left join right leftInduction rightInduction =>
      intro position spelled
      obtain ⟨nots, notsSpelled, notsScanned⟩ := scanFrom_negations negations position
      let leftStart := position + negations + 1
      let joinStart := leftStart + left.characters.length + 1
      let rightStart := joinStart + join.keyword.toList.length + 1
      let closing := rightStart + right.characters.length
      obtain ⟨leftPlaced, leftSpelled, leftScanned⟩ := leftInduction leftStart spelled.1
      obtain ⟨rightPlaced, rightSpelled, rightScanned⟩ := rightInduction rightStart spelled.2
      refine ⟨nots ++ (⟨position + negations, .opening⟩ :: leftPlaced ++
        ⟨joinStart, .join join⟩ :: rightPlaced ++ [⟨closing, .closing⟩]), ?_, ?_⟩
      · simp only [List.map_append, List.map_cons, List.map_nil, notsSpelled, leftSpelled,
          rightSpelled, Phrase.tokens]
      · intro rest _
        have divided : (Phrase.group negations left join right).characters ++ rest =
            List.replicate negations '!' ++ '(' :: (left.characters ++ ' ' ::
              (join.keyword.toList ++ ' ' :: (right.characters ++ ')' :: rest))) := by
          simp only [Phrase.characters, List.append_assoc, List.cons_append, List.nil_append]
        have finish : position + (Phrase.group negations left join right).characters.length =
            closing + 1 := by
          simp only [Phrase.characters, List.length_append, List.length_cons, List.length_nil,
            List.length_replicate, closing, rightStart, joinStart, leftStart]
          omega
        rw [divided, notsScanned, scanFrom_opening, leftScanned _ rfl, scanFrom_blank _ _ rfl,
          scanFrom_join, scanFrom_blank _ _ rfl, rightScanned _ rfl, scanFrom_closing, finish]
        cases scanFrom (closing + 1) rest with
        | error flaw => rfl
        | ok tokens => simp [Except.map, joinStart, closing]

theorem scan_phrase {phrase : Phrase} (spelled : phrase.Spelled) :
    ∃ placed : List PlacedToken, placed.map PlacedToken.token = phrase.tokens ∧
      scan phrase.characters = .ok placed := by
  obtain ⟨placed, tokensSpelled, scanned⟩ := scanFrom_phrase phrase 0 spelled
  have alone := scanned [] rfl
  rw [List.append_nil, scanFrom.eq_def _ []] at alone
  refine ⟨placed, tokensSpelled, ?_⟩
  simpa [scan, Except.map] using alone

theorem not_all_blank_phrase (phrase : Phrase) : phrase.characters.all Text.isBlank = false := by
  have separatorNotBlank : Text.isBlank '|' = false := by decide
  have openingNotBlank : Text.isBlank '(' = false := by decide
  cases phrase with
  | term negations name code literal => simp [Phrase.characters, separatorNotBlank]
  | group negations left join right => simp [Phrase.characters, openingNotBlank]

end SearchQuery

import Mathlib.Data.List.Forall2
import SearchQuery.Proofs.Escaping

/-!
# Which texts are scanned, and into what

A division of a text lists its tokens with their spellings and the blanks before each of them, and
nothing of the text is left over.  A text has at most one division.  The scanner succeeds on exactly
the texts that have one, and returns its tokens, each at the place where its spelling begins.
-/

set_option autoImplicit false

namespace SearchQuery

/-! ## Spellings of tokens -/

structure IsWord (word : List Char) : Prop where
  nonempty : word ≠ []
  inside : ∀ c ∈ word, isWordCharacter c = true

inductive Token.Spells : Token → List Char → Prop where
  | opening : Spells .opening ['(']
  | closing : Spells .closing [')']
  | not : Spells .not ['!']
  /-- A joining word may be written in letters of any case. -/
  | join {join : Join} {word : List Char} (isWord : IsWord word)
      (keyword : Text.sameLetters (String.ofList word) join.keyword = true) :
      Spells (.join join) word
  | word {word : List Char} (isWord : IsWord word)
      (plain : ∀ join : Join, Text.sameLetters (String.ofList word) join.keyword = false) :
      Spells (.word (String.ofList word)) word
  | term {name code : String} {literal : Option String} (spelled : TermSpelled name code literal) :
      Spells (.term name code literal) (termCharacters name code literal)

def EndsWord (after : List Char) : Prop :=
  ∀ c ∈ after.head?, Text.isBlank c = true ∨ c = '(' ∨ c = ')' ∨ c = '!'

/-- What may follow a token: anything after a mark, and only an end after words and terms. -/
def Token.EndsBefore (after : List Char) : Token → Prop
  | .opening => True
  | .closing => True
  | .not => True
  | .join _ => EndsWord after
  | .word _ => EndsWord after
  | .term _ _ _ => ∀ c ∈ after.head?, Text.isBlank c = true ∨ c = ')'

theorem endsTerm_iff (after : List Char) :
    endsTerm after = true ↔ ∀ c ∈ after.head?, Text.isBlank c = true ∨ c = ')' := by
  cases after with
  | nil => simp [endsTerm]
  | cons c rest => simp [endsTerm, or_comm]

theorem isWordCharacter_eq_false_iff (c : Char) :
    isWordCharacter c = false ↔ Text.isBlank c = true ∨ c ∈ wordDelimiters := by
  by_cases blank : Text.isBlank c = true
  · simp [isWordCharacter, blank]
  · simp [isWordCharacter, blank]

theorem isBlank_of_isWordCharacter {c : Char} (inside : isWordCharacter c = true) :
    Text.isBlank c = false := by
  simp only [isWordCharacter, Bool.and_eq_true, Bool.not_eq_true'] at inside
  exact inside.1

theorem wordToken_of_keyword {word : String} {join : Join}
    (keyword : Text.sameLetters word join.keyword = true) : wordToken word = .join join := by
  cases join with
  | and => rw [wordToken, if_pos keyword]
  | or =>
      have notAnd : ¬Text.sameLetters word Join.and.keyword = true := by
        intro both
        simp only [Text.sameLetters, beq_iff_eq] at keyword both
        exact absurd (keyword.symm.trans both) (by decide)
      rw [wordToken, if_neg notAnd, if_pos keyword]

theorem wordToken_of_plain {word : String}
    (plain : ∀ join : Join, Text.sameLetters word join.keyword = false) :
    wordToken word = .word word := by
  rw [wordToken, plain .and, plain .or]
  rfl

theorem wordToken_spells {word : List Char} (isWord : IsWord word) :
    (wordToken (String.ofList word)).Spells word := by
  by_cases keyword : ∃ join : Join, Text.sameLetters (String.ofList word) join.keyword = true
  · obtain ⟨join, same⟩ := keyword
    rw [wordToken_of_keyword same]
    exact .join isWord same
  · have plain : ∀ join : Join, Text.sameLetters (String.ofList word) join.keyword = false := by
      intro join
      exact Bool.eq_false_iff.mpr fun same => keyword ⟨join, same⟩
    rw [wordToken_of_plain plain]
    exact .word isWord plain

theorem wordToken_endsBefore {word : String} {after : List Char} (ends : EndsWord after) :
    (wordToken word).EndsBefore after := by
  unfold wordToken
  split
  · exact ends
  split
  · exact ends
  · exact ends

theorem Token.Spells.length_pos {token : Token} {spelling : List Char}
    (spells : token.Spells spelling) : 0 < spelling.length := by
  cases spells with
  | opening => exact Nat.one_pos
  | closing => exact Nat.one_pos
  | not => exact Nat.one_pos
  | join isWord _ => exact List.length_pos_iff.mpr isWord.nonempty
  | word isWord _ => exact List.length_pos_iff.mpr isWord.nonempty
  | term _ =>
      rw [length_termCharacters]
      omega

/-! ## A spelling is read as its token -/

theorem afterWord_of_endsWord {word after : List Char} (start : Nat) (ends : EndsWord after) :
    afterWord start word after = .ok ⟨wordToken (String.ofList word), word.length, after⟩ := by
  cases after with
  | nil => rfl
  | cons c rest =>
      have noTerm : c ≠ '|' ∧ c ≠ ':' := by
        constructor <;> rintro rfl <;> exact absurd (ends _ rfl) (by decide)
      simp [afterWord, noTerm.1, noTerm.2]

theorem EndsWord.stops {after : List Char} (ends : EndsWord after) :
    ∀ c ∈ after.head?, isWordCharacter c = false := by
  intro c first
  rw [isWordCharacter_eq_false_iff]
  rcases ends c first with blank | rfl | rfl | rfl
  · exact .inl blank
  all_goals exact .inr (by decide)

theorem readLexeme_of_isWord {word after : List Char} (isWord : IsWord word) (start : Nat)
    (ends : EndsWord after) :
    ∃ c rest, word ++ after = c :: rest ∧ Text.isBlank c = false ∧
      readLexeme start c rest =
        .ok ⟨wordToken (String.ofList word), word.length, after⟩ := by
  obtain ⟨c, others, divided⟩ := List.exists_cons_of_ne_nil isWord.nonempty
  have firstInside := isWord.inside c (by rw [divided]; exact List.mem_cons_self)
  refine ⟨c, others ++ after, by rw [divided, List.cons_append],
    isBlank_of_isWordCharacter firstInside, ?_⟩
  rw [readLexeme_word start word (by rw [divided, List.cons_append]) isWord.nonempty isWord.inside
    (Text.takeWhile_eq_nil ends.stops)]
  exact afterWord_of_endsWord start ends

theorem readLexeme_of_spells {token : Token} {spelling after : List Char}
    (spells : token.Spells spelling) (start : Nat) (ends : token.EndsBefore after) :
    ∃ c rest, spelling ++ after = c :: rest ∧ Text.isBlank c = false ∧
      readLexeme start c rest = .ok ⟨token, spelling.length, after⟩ := by
  cases spells with
  | opening => exact ⟨'(', after, rfl, by decide, rfl⟩
  | closing => exact ⟨')', after, rfl, by decide, rfl⟩
  | not => exact ⟨'!', after, rfl, by decide, rfl⟩
  | join isWord keyword =>
      rw [← wordToken_of_keyword keyword]
      exact readLexeme_of_isWord isWord start ends
  | word isWord plain =>
      rw [← wordToken_of_plain plain]
      exact readLexeme_of_isWord isWord start ends
  | term spelled => exact readLexeme_term spelled start ((endsTerm_iff after).mpr ends)

/-- A spelling that may stand in front of what follows it is the only one there. -/
theorem Token.Spells.eq_of_append_eq {token other : Token} {spelling otherSpelling : List Char}
    {after otherAfter : List Char} (spells : token.Spells spelling)
    (ends : token.EndsBefore after) (otherSpells : other.Spells otherSpelling)
    (otherEnds : other.EndsBefore otherAfter)
    (same : spelling ++ after = otherSpelling ++ otherAfter) :
    token = other ∧ spelling = otherSpelling ∧ after = otherAfter := by
  obtain ⟨c, rest, divided, _, readable⟩ := readLexeme_of_spells spells 0 ends
  obtain ⟨d, others, otherDivided, _, otherReadable⟩ :=
    readLexeme_of_spells otherSpells 0 otherEnds
  obtain ⟨rfl, rfl⟩ : c = d ∧ rest = others := by
    rw [← List.cons.injEq, ← divided, ← otherDivided, same]
  rw [readable, Except.ok.injEq, Lexeme.mk.injEq] at otherReadable
  obtain ⟨sameToken, _, sameAfter⟩ := otherReadable
  rw [sameAfter] at same
  exact ⟨sameToken, List.append_cancel_right same, sameAfter⟩

/-! ## What is read as a token is a spelling -/

theorem readLiteral_sound {text content after : List Char}
    (readable : readLiteral text = some (content, after)) :
    text = content ++ quoteMark :: after ∧ isLiteralContent content = true := by
  fun_induction readLiteral text generalizing content after with
  | case1 => cases readable
  | case2 rest =>
      cases readable
      exact ⟨rfl, rfl⟩
  | case3 => cases readable
  | case4 => cases readable
  | case5 hidden rest inner innerAfter found _ inductionHypothesis =>
      cases readable
      obtain ⟨divided, allowed⟩ := inductionHypothesis found
      exact ⟨by rw [divided]; rfl, by rw [isLiteralContent_escape, allowed]⟩
  | case6 => cases readable
  | case7 c rest notQuote notEscape inner innerAfter found inductionHypothesis =>
      cases readable
      obtain ⟨divided, allowed⟩ := inductionHypothesis found
      exact ⟨by rw [divided]; rfl, by rw [isLiteralContent_plain _ notQuote notEscape, allowed]⟩

/-- The lexeme has been cut off the front of the text, and what was cut off spells its token. -/
def Lexeme.Covers (lexeme : Lexeme) (text : List Char) : Prop :=
  ∃ spelling, text = spelling ++ lexeme.rest ∧ spelling.length = lexeme.width ∧
    lexeme.token.Spells spelling

theorem finish_covers {start width : Nat} {name code after rest : List Char}
    {literal : Option String} {lexeme : Lexeme}
    (spelled : TermSpelled (String.ofList name) (String.ofList code) literal)
    (divided : rest = code ++ ':' :: Phrase.literalCharacters literal ++ after)
    (measured : width =
      name.length + 1 + code.length + 1 + (Phrase.literalCharacters literal).length)
    (finished : readTerm.finish start name code width literal after = .ok lexeme) :
    lexeme.Covers (name ++ '|' :: rest) ∧ lexeme.token.EndsBefore lexeme.rest := by
  rw [readTerm.finish] at finished
  by_cases ends : endsTerm after = true
  · rw [if_pos ends] at finished
    cases finished
    refine ⟨⟨termCharacters (String.ofList name) (String.ofList code) literal, ?_, ?_,
      .term spelled⟩, (endsTerm_iff after).mp ends⟩
    · simp [termCharacters, divided]
    · rw [length_termCharacters, measured, String.toList_ofList, String.toList_ofList]
  · rw [if_neg ends] at finished
    cases finished

theorem termSpelled_of_characters {name code : List Char} {literal : Option String}
    (nameNonempty : name ≠ []) (nameAllowed : ∀ c ∈ name, isNameCharacter c = true)
    (codeNonempty : code ≠ []) (codeAllowed : ∀ c ∈ code, c.isAlphanum = true)
    (literalAllowed : ∀ content ∈ literal, isLiteralContent content.toList = true) :
    TermSpelled (String.ofList name) (String.ofList code) literal where
  nameNonempty := by rwa [String.toList_ofList]
  nameAllowed := by rwa [String.toList_ofList]
  codeNonempty := by rwa [String.toList_ofList]
  codeAllowed := by rwa [String.toList_ofList]
  literalAllowed := literalAllowed

theorem readTerm_covers {start : Nat} {name rest : List Char} {lexeme : Lexeme}
    (nonempty : name ≠ []) (readable : readTerm start name rest = .ok lexeme) :
    lexeme.Covers (name ++ '|' :: rest) ∧ lexeme.token.EndsBefore lexeme.rest := by
  have whole := List.takeWhile_append_dropWhile (p := Char.isAlphanum) (l := rest)
  unfold readTerm at readable
  split at readable
  · cases readable
  next nameAllowed =>
    dsimp only at readable
    split at readable
    · cases readable
    next codePresent =>
      have termSpelled : ∀ literal : Option String,
          (∀ content ∈ literal, isLiteralContent content.toList = true) →
          TermSpelled (String.ofList name)
            (String.ofList (rest.takeWhile Char.isAlphanum)) literal := by
        intro literal
        exact termSpelled_of_characters nonempty (by simpa using nameAllowed)
          (by simpa using codePresent) (List.all_eq_true.mp List.all_takeWhile)
      split at readable
      next body codeEnds =>
        rw [codeEnds] at whole
        split at readable
        next inner =>
          split at readable
          · cases readable
          next content after found =>
            obtain ⟨divided, allowed⟩ := readLiteral_sound found
            refine finish_covers (termSpelled (some (String.ofList content)) ?_) ?_ ?_ readable
            · rintro _ ⟨⟩
              rw [String.toList_ofList, allowed]
            · exact whole.symm.trans (by simp [divided, Phrase.literalCharacters, quoteMark])
            · simp only [Phrase.literalCharacters, String.toList_ofList, List.cons_append,
                List.length_cons, List.length_append, List.length_nil]
              omega
        next =>
          refine finish_covers (termSpelled none (by simp)) ?_ rfl readable
          exact whole.symm.trans (by simp [Phrase.literalCharacters])
      next => cases readable

theorem afterWord_covers {start : Nat} {word after : List Char} {lexeme : Lexeme}
    (isWord : IsWord word) (stops : ∀ c ∈ after.head?, isWordCharacter c = false)
    (readable : afterWord start word after = .ok lexeme) :
    lexeme.Covers (word ++ after) ∧
      (lexeme.token.EndsBefore lexeme.rest ∨ lexeme.rest.head? = some quoteMark) := by
  unfold afterWord at readable
  split at readable
  next rest =>
    obtain ⟨covers, ends⟩ := readTerm_covers isWord.nonempty readable
    exact ⟨covers, .inl ends⟩
  next => cases readable
  next noTerm noCode =>
    cases readable
    refine ⟨⟨word, rfl, rfl, wordToken_spells isWord⟩, ?_⟩
    cases after with
    | nil => exact .inl (wordToken_endsBefore (by simp [EndsWord]))
    | cons c rest =>
        have outside := (isWordCharacter_eq_false_iff c).mp (stops c rfl)
        by_cases quoted : c = quoteMark
        · exact .inr (by rw [quoted]; rfl)
        · refine .inl (wordToken_endsBefore ?_)
          rintro d ⟨⟩
          have noMark : c ≠ '|' ∧ c ≠ ':' :=
            ⟨fun isMark => noTerm rest (by rw [isMark]), fun isMark => noCode rest (by rw [isMark])⟩
          simpa [wordDelimiters, noMark, quoted] using outside

/-- A character of a word begins a longest word, and what the word is depends on the text after it. -/
theorem exists_word_of_readLexeme {c : Char} {rest : List Char}
    (inside : isWordCharacter c = true) :
    ∃ word after, c :: rest = word ++ after ∧ IsWord word ∧
      (∀ d ∈ after.head?, isWordCharacter d = false) ∧
      ∀ start, readLexeme start c rest = afterWord start word after := by
  have divided := List.takeWhile_append_dropWhile (p := isWordCharacter) (l := c :: rest)
  have isWord : IsWord ((c :: rest).takeWhile isWordCharacter) := by
    refine ⟨?_, List.all_eq_true.mp List.all_takeWhile⟩
    rw [List.takeWhile_cons_of_pos inside]
    exact List.cons_ne_nil _ _
  have stops : ∀ d ∈ ((c :: rest).dropWhile isWordCharacter).head?,
      isWordCharacter d = false := by
    intro d first
    have outside := List.head?_dropWhile_not isWordCharacter (c :: rest)
    rw [first] at outside
    exact outside
  refine ⟨_, _, divided.symm, isWord, stops, fun start => ?_⟩
  exact readLexeme_word start _ divided.symm isWord.nonempty isWord.inside
    (Text.takeWhile_eq_nil stops)

theorem readLexeme_covers {start : Nat} {c : Char} {rest : List Char} {lexeme : Lexeme}
    (notBlank : Text.isBlank c = false) (readable : readLexeme start c rest = .ok lexeme) :
    lexeme.Covers (c :: rest) ∧
      (lexeme.token.EndsBefore lexeme.rest ∨ lexeme.rest.head? = some quoteMark) := by
  by_cases inside : isWordCharacter c = true
  · obtain ⟨word, after, divided, isWord, stops, read⟩ := exists_word_of_readLexeme inside
    rw [read] at readable
    rw [divided]
    exact afterWord_covers isWord stops readable
  · have delimiter := (isWordCharacter_eq_false_iff c).mp (by simpa using inside)
    rw [notBlank] at delimiter
    simp only [Bool.false_eq_true, false_or, wordDelimiters, List.mem_cons, List.not_mem_nil,
      or_false] at delimiter
    rcases delimiter with rfl | rfl | rfl | rfl | rfl | rfl
    · cases readable
      exact ⟨⟨['('], rfl, rfl, .opening⟩, .inl trivial⟩
    · cases readable
      exact ⟨⟨[')'], rfl, rfl, .closing⟩, .inl trivial⟩
    · cases readable
    · cases readable
    · cases readable
      exact ⟨⟨['!'], rfl, rfl, .not⟩, .inl trivial⟩
    · cases readable

/-! ## Divisions of a text -/

/-- A token as it stands in a text, behind the blanks that separate it from what comes before. -/
structure Piece where
  blanks : List Char
  spelling : List Char
  token : Token

namespace Piece

/-- The text of the pieces, with blanks at its end. -/
def text (trailing : List Char) : List Piece → List Char
  | [] => trailing
  | piece :: rest => piece.blanks ++ (piece.spelling ++ text trailing rest)

/-- Every token is spelled, and what comes after it lets it end. -/
def Regular (trailing : List Char) : List Piece → Prop
  | [] => ∀ c ∈ trailing, Text.isBlank c = true
  | piece :: rest =>
      (∀ c ∈ piece.blanks, Text.isBlank c = true) ∧ piece.token.Spells piece.spelling ∧
        piece.token.EndsBefore (text trailing rest) ∧ Regular trailing rest

/-- The tokens of the pieces; the first piece stands at the given position. -/
def tokens (position : Nat) : List Piece → List PlacedToken
  | [] => []
  | piece :: rest =>
      ⟨position + piece.blanks.length, piece.token⟩ ::
        tokens (position + piece.blanks.length + piece.spelling.length) rest

end Piece

structure Division (characters : List Char) where
  pieces : List Piece
  trailing : List Char
  covers : Piece.text trailing pieces = characters
  regular : Piece.Regular trailing pieces

def Division.tokens {characters : List Char} (division : Division characters) :
    List PlacedToken :=
  Piece.tokens 0 division.pieces

/-! ## A divided text is scanned -/

theorem scanFrom_blanks (rest : List Char) :
    ∀ (blanks : List Char) (position : Nat), (∀ c ∈ blanks, Text.isBlank c = true) →
      scanFrom position (blanks ++ rest) = scanFrom (position + blanks.length) rest := by
  intro blanks
  induction blanks with
  | nil =>
      intro position _
      rfl
  | cons c others inductionHypothesis =>
      intro position allBlank
      rw [List.cons_append, scanFrom_blank _ _ (allBlank c List.mem_cons_self),
        inductionHypothesis _ fun d member => allBlank d (List.mem_cons_of_mem c member),
        List.length_cons, Nat.add_assoc, Nat.add_comm 1]

theorem scanFrom_spells {token : Token} {spelling after : List Char}
    (spells : token.Spells spelling) (ends : token.EndsBefore after) (position : Nat) :
    scanFrom position (spelling ++ after) =
      (scanFrom (position + spelling.length) after).map
        fun tokens => ⟨position, token⟩ :: tokens := by
  obtain ⟨c, rest, divided, notBlank, readable⟩ := readLexeme_of_spells spells position ends
  rw [divided]
  exact scanFrom_lexeme notBlank readable

theorem scanFrom_pieces {trailing : List Char} :
    ∀ (pieces : List Piece) (position : Nat), Piece.Regular trailing pieces →
      scanFrom position (Piece.text trailing pieces) = .ok (Piece.tokens position pieces) := by
  intro pieces
  induction pieces with
  | nil =>
      intro position allBlank
      have scanned := scanFrom_blanks [] trailing position allBlank
      rw [List.append_nil, scanFrom.eq_def _ []] at scanned
      exact scanned
  | cons piece rest inductionHypothesis =>
      intro position regular
      obtain ⟨allBlank, spells, ends, restRegular⟩ := regular
      rw [Piece.text, scanFrom_blanks _ _ _ allBlank, scanFrom_spells spells ends,
        inductionHypothesis _ restRegular]
      rfl

/-! ## A scanned text is divided -/

theorem scanFrom_quote (position : Nat) (rest : List Char) :
    scanFrom position (quoteMark :: rest) = .error ⟨position, .literalWithoutAttribute⟩ := by
  rw [scanFrom.eq_def]
  simp [readLexeme, Text.isBlank, quoteMark]

/-- A blank in front of the pieces belongs to the first of them, or to the end of the text. -/
theorem Piece.exists_blank_cons {c : Char} {trailing : List Char} {pieces : List Piece}
    (blank : Text.isBlank c = true) (regular : Regular trailing pieces) (position : Nat) :
    ∃ otherTrailing others, Regular otherTrailing others ∧
      text otherTrailing others = c :: text trailing pieces ∧
      tokens position others = tokens (position + 1) pieces := by
  cases pieces with
  | nil =>
      refine ⟨c :: trailing, [], ?_, rfl, rfl⟩
      rintro d (_ | ⟨_, member⟩)
      · exact blank
      · exact regular d member
  | cons piece rest =>
      obtain ⟨allBlank, others⟩ := regular
      refine ⟨trailing, ⟨c :: piece.blanks, piece.spelling, piece.token⟩ :: rest,
        ⟨?_, others⟩, rfl, ?_⟩
      · rintro d (_ | ⟨_, member⟩)
        · exact blank
        · exact allBlank d member
      · simp only [tokens, List.length_cons]
        rw [Nat.add_assoc position 1, Nat.add_comm 1]

theorem exists_pieces_of_scanFrom {position : Nat} {characters : List Char}
    {placed : List PlacedToken} (scanned : scanFrom position characters = .ok placed) :
    ∃ trailing pieces, Piece.Regular trailing pieces ∧
      Piece.text trailing pieces = characters ∧ Piece.tokens position pieces = placed := by
  fun_induction scanFrom position characters generalizing placed with
  | case1 position =>
      cases scanned
      exact ⟨[], [], by simp [Piece.Regular], rfl, rfl⟩
  | case2 position c rest blank inductionHypothesis =>
      obtain ⟨trailing, pieces, regular, covers, tokensPlaced⟩ := inductionHypothesis scanned
      obtain ⟨otherTrailing, others, otherRegular, otherCovers, otherPlaced⟩ :=
        Piece.exists_blank_cons blank regular position
      exact ⟨otherTrailing, others, otherRegular, by rw [otherCovers, covers],
        by rw [otherPlaced, tokensPlaced]⟩
  | case3 => cases scanned
  | case4 => cases scanned
  | case5 position c rest visible lexeme readable tokens restScanned inductionHypothesis =>
      cases scanned
      obtain ⟨trailing, pieces, regular, covers, tokensPlaced⟩ := inductionHypothesis restScanned
      obtain ⟨⟨spelling, divided, measured, spells⟩, ends | quoted⟩ :=
        readLexeme_covers (by simpa using visible) readable
      · refine ⟨trailing, ⟨[], spelling, lexeme.token⟩ :: pieces, ⟨by simp, spells, ?_, regular⟩,
          ?_, ?_⟩
        · rw [covers]
          exact ends
        · rw [divided, Piece.text, covers]
          rfl
        · rw [Piece.tokens, List.length_nil, Nat.add_zero, measured, tokensPlaced]
      · obtain ⟨after, restDivided⟩ := List.head?_eq_some_iff.mp quoted
        rw [restDivided, scanFrom_quote] at restScanned
        cases restScanned

/-! ## There is one division -/

theorem Token.Spells.takeWhile_isBlank {token : Token} {spelling after : List Char}
    (spells : token.Spells spelling) (ends : token.EndsBefore after) :
    (spelling ++ after).takeWhile Text.isBlank = [] := by
  obtain ⟨c, rest, divided, notBlank, _⟩ := readLexeme_of_spells spells 0 ends
  rw [divided, List.takeWhile_cons_of_neg (by simp [notBlank])]

theorem Piece.text_injective {trailing otherTrailing : List Char} :
    ∀ {pieces others : List Piece}, Regular trailing pieces → Regular otherTrailing others →
      text trailing pieces = text otherTrailing others →
      pieces = others ∧ trailing = otherTrailing := by
  have noPiece : ∀ {trailing otherTrailing : List Char} {piece : Piece} {rest : List Piece},
      Regular trailing [] → Regular otherTrailing (piece :: rest) →
      text trailing [] ≠ text otherTrailing (piece :: rest) := by
    rintro trailing otherTrailing piece rest allBlank ⟨blanks, spells, ends, _⟩ same
    rw [text, text, ← List.append_nil trailing] at same
    have nothing := (Text.run_append_injective allBlank rfl blanks
      (spells.takeWhile_isBlank ends) same).2
    have noSpelling : piece.spelling = [] := (List.append_eq_nil_iff.mp nothing.symm).1
    exact absurd spells.length_pos (by rw [noSpelling]; exact Nat.lt_irrefl 0)
  intro pieces
  induction pieces with
  | nil =>
      intro others regular otherRegular same
      cases others with
      | nil => exact ⟨rfl, same⟩
      | cons piece rest => exact absurd same (noPiece regular otherRegular)
  | cons piece rest inductionHypothesis =>
      intro others regular otherRegular same
      cases others with
      | nil => exact absurd same.symm (noPiece otherRegular regular)
      | cons other otherRest =>
          obtain ⟨allBlank, spells, ends, restRegular⟩ := regular
          obtain ⟨otherBlank, otherSpells, otherEnds, otherRestRegular⟩ := otherRegular
          obtain ⟨sameBlanks, sameVisible⟩ := Text.run_append_injective allBlank
            (spells.takeWhile_isBlank ends) otherBlank (otherSpells.takeWhile_isBlank otherEnds)
            same
          obtain ⟨sameToken, sameSpelling, sameRest⟩ :=
            spells.eq_of_append_eq ends otherSpells otherEnds sameVisible
          obtain ⟨sameOthers, sameTrailing⟩ :=
            inductionHypothesis restRegular otherRestRegular sameRest
          cases piece
          cases other
          cases sameBlanks
          cases sameSpelling
          cases sameToken
          exact ⟨by rw [sameOthers], sameTrailing⟩

/-! ## Positions -/

theorem Piece.le_position {placed : PlacedToken} :
    ∀ {pieces : List Piece} {position : Nat}, placed ∈ tokens position pieces →
      position ≤ placed.position := by
  intro pieces
  induction pieces with
  | nil =>
      intro position member
      cases member
  | cons piece rest inductionHypothesis =>
      intro position member
      rcases List.mem_cons.mp member with rfl | later
      · exact Nat.le_add_right _ _
      · have further := inductionHypothesis later
        omega

theorem Piece.tokens_increasing {trailing : List Char} :
    ∀ {pieces : List Piece} (position : Nat), Regular trailing pieces →
      (tokens position pieces).Pairwise fun first second => first.position < second.position := by
  intro pieces
  induction pieces with
  | nil =>
      intro position _
      exact List.Pairwise.nil
  | cons piece rest inductionHypothesis =>
      intro position regular
      obtain ⟨_, spells, _, restRegular⟩ := regular
      refine List.Pairwise.cons ?_ (inductionHypothesis _ restRegular)
      intro placed later
      have behind := le_position later
      have taken := spells.length_pos
      dsimp only
      omega

theorem Piece.tokens_standing {trailing : List Char} :
    ∀ (pieces : List Piece) (front : List Char),
      List.Forall₂ (fun placed piece => placed.token = piece.token ∧
          piece.spelling <+: (front ++ text trailing pieces).drop placed.position)
        (tokens front.length pieces) pieces := by
  intro pieces
  induction pieces with
  | nil =>
      intro front
      exact .nil
  | cons piece rest inductionHypothesis =>
      intro front
      have later := inductionHypothesis (front ++ piece.blanks ++ piece.spelling)
      simp only [List.length_append, List.append_assoc] at later
      refine .cons ⟨rfl, ?_⟩ ?_
      · rw [text, ← List.append_assoc front, ← List.length_append, List.drop_left]
        exact List.prefix_append _ _
      · simpa only [text, List.append_assoc, Nat.add_assoc] using later

/-- A text is scanned if and only if it can be divided into blanks and spellings of tokens.  It can
then be divided in one way only, and the tokens are those of the division in the same order, each
at the position where its spelling begins, so that the positions increase. -/
theorem scan_eq_ok_iff_division (characters : List Char) :
    (∀ placed, scan characters = .ok placed ↔
      ∃ division : Division characters, division.tokens = placed) ∧
    (∀ division other : Division characters, division = other) ∧
    ∀ division : Division characters,
      List.Forall₂ (fun placed piece => placed.token = piece.token ∧
          piece.spelling <+: characters.drop placed.position) division.tokens division.pieces ∧
        division.tokens.Pairwise fun first second => first.position < second.position := by
  refine ⟨?_, ?_, ?_⟩
  · intro placed
    constructor
    · intro scanned
      obtain ⟨trailing, pieces, regular, covers, tokensPlaced⟩ := exists_pieces_of_scanFrom scanned
      exact ⟨⟨pieces, trailing, covers, regular⟩, tokensPlaced⟩
    · rintro ⟨⟨pieces, trailing, rfl, regular⟩, rfl⟩
      exact scanFrom_pieces pieces 0 regular
  · rintro ⟨pieces, trailing, covers, regular⟩ ⟨others, otherTrailing, otherCovers, otherRegular⟩
    obtain ⟨rfl, rfl⟩ :=
      Piece.text_injective regular otherRegular (covers.trans otherCovers.symm)
    rfl
  · rintro ⟨pieces, trailing, rfl, regular⟩
    exact ⟨Piece.tokens_standing pieces [], Piece.tokens_increasing 0 regular⟩

end SearchQuery

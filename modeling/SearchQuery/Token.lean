import SearchQuery.Predicate.Text

/-!
# From text to tokens

The units a query text is made of are the marks for groups and negation, the joining words, stray
words, and whole terms, each with the position of its first character.

The scanner reads a text from left to right. Blanks separate tokens and mean nothing else; a word
that is followed by `|` starts a term, and a term must end at a blank, at `)` or at the end of the
text. The first character that fits no token is reported with its position.
-/

set_option autoImplicit false

namespace SearchQuery

inductive Token where
  | opening
  | closing
  | not
  | join (join : Join)
  | word (text : String)
  /-- `name|code:` with the literal that follows it, its escape marks kept. -/
  | term (name code : String) (literal : Option String)
deriving DecidableEq, Repr

structure PlacedToken where
  position : Nat
  token : Token
deriving DecidableEq, Repr

structure Flaw where
  position : Nat
  fault : ParseFault
deriving DecidableEq, Repr

/-- A token read from the front of a text, the number of characters it took, and what follows. -/
structure Lexeme where
  token : Token
  width : Nat
  rest : List Char
deriving DecidableEq, Repr

def wordDelimiters : List Char :=
  ['(', ')', '|', ':', '!', quoteMark]

def isWordCharacter (c : Char) : Bool :=
  !Text.isBlank c && !wordDelimiters.contains c

/-- Reads a literal after its opening quote: its content, escape marks kept, and what follows the
closing quote. There is no result when the text ends first. -/
def readLiteral : List Char → Option (List Char × List Char)
  | [] => none
  | c :: rest =>
      if c = quoteMark then
        some ([], rest)
      else if c = escapeMark then
        match rest with
        | [] => none
        | hidden :: rest =>
            match readLiteral rest with
            | none => none
            | some (content, after) => some (c :: hidden :: content, after)
      else
        match readLiteral rest with
        | none => none
        | some (content, after) => some (c :: content, after)

def endsTerm : List Char → Bool
  | [] => true
  | c :: _ => c == ')' || Text.isBlank c

def readTerm (start : Nat) (name rest : List Char) : Except Flaw Lexeme :=
  match name.findIdx? fun c => !isNameCharacter c with
  | some offset => .error ⟨start + offset, .invalidNameCharacter⟩
  | none =>
    let code := rest.takeWhile Char.isAlphanum
    let codeWidth := name.length + 1 + code.length
    if code.isEmpty then
      .error ⟨start + codeWidth, .missingCodeFor (String.ofList name)⟩
    else
      match rest.dropWhile Char.isAlphanum with
      | ':' :: body =>
        match body with
        | '"' :: inner =>
          match readLiteral inner with
          | none => .error ⟨start + (codeWidth + 1), .unterminatedLiteral⟩
          | some (content, after) =>
            finish code (codeWidth + 1 + content.length + 2) (some (String.ofList content)) after
        | _ => finish code (codeWidth + 1) none body
      | _ => .error ⟨start + codeWidth, .missingColon (String.ofList name) (String.ofList code)⟩
where
  finish (code : List Char) (width : Nat) (literal : Option String) (after : List Char) :
      Except Flaw Lexeme :=
    if endsTerm after then
      .ok ⟨.term (String.ofList name) (String.ofList code) literal, width, after⟩
    else
      .error ⟨start + width, .unquotedValue (String.ofList name)⟩

def wordToken (word : String) : Token :=
  if Text.sameLetters word Join.and.keyword then .join .and
  else if Text.sameLetters word Join.or.keyword then .join .or
  else .word word

def readLexeme (start : Nat) (c : Char) (rest : List Char) : Except Flaw Lexeme :=
  if c = '(' then .ok ⟨.opening, 1, rest⟩
  else if c = ')' then .ok ⟨.closing, 1, rest⟩
  else if c = '!' then .ok ⟨.not, 1, rest⟩
  else if c = quoteMark then .error ⟨start, .literalWithoutAttribute⟩
  else
    let word := (c :: rest).takeWhile isWordCharacter
    if word.isEmpty then
      if c = '|' then .error ⟨start, .missingName⟩ else .error ⟨start, .unexpectedCharacter c⟩
    else
      match (c :: rest).dropWhile isWordCharacter with
      | '|' :: after => readTerm start word after
      | ':' :: _ => .error ⟨start + word.length, .missingCode (String.ofList word)⟩
      | after => .ok ⟨wordToken (String.ofList word), word.length, after⟩

theorem readLiteral_length {text content after : List Char}
    (readable : readLiteral text = some (content, after)) :
    text.length = content.length + 1 + after.length := by
  fun_induction readLiteral text generalizing content after <;>
    grind

theorem readTerm_length {start : Nat} {name rest : List Char} {lexeme : Lexeme}
    (readable : readTerm start name rest = .ok lexeme) :
    name.length < lexeme.width ∧
      name.length + 1 + rest.length = lexeme.width + lexeme.rest.length := by
  have split :=
    congrArg List.length (List.takeWhile_append_dropWhile (p := Char.isAlphanum) (l := rest))
  rw [List.length_append] at split
  unfold readTerm at readable
  simp only [readTerm.finish] at readable
  grind [readLiteral_length]

theorem readLexeme_length {start : Nat} {c : Char} {rest : List Char} {lexeme : Lexeme}
    (readable : readLexeme start c rest = .ok lexeme) :
    0 < lexeme.width ∧ rest.length + 1 = lexeme.width + lexeme.rest.length := by
  have split :=
    congrArg List.length (List.takeWhile_append_dropWhile (p := isWordCharacter) (l := c :: rest))
  rw [List.length_append, List.length_cons] at split
  unfold readLexeme at readable
  split at readable
  · cases readable
    exact ⟨Nat.one_pos, Nat.add_comm _ _⟩
  split at readable
  · cases readable
    exact ⟨Nat.one_pos, Nat.add_comm _ _⟩
  split at readable
  · cases readable
    exact ⟨Nat.one_pos, Nat.add_comm _ _⟩
  split at readable
  · cases readable
  dsimp only at readable
  split at readable
  · split at readable <;> cases readable
  next wordFound =>
    have wordWidth : 0 < ((c :: rest).takeWhile isWordCharacter).length :=
      List.length_pos_iff.2 fun noWord => wordFound (by rw [noWord]; rfl)
    split at readable
    next separator =>
      have termWidth := readTerm_length readable
      rw [separator, List.length_cons] at split
      omega
    next => cases readable
    next =>
      cases readable
      exact ⟨wordWidth, split.symm⟩

def scanFrom (position : Nat) (text : List Char) : Except Flaw (List PlacedToken) :=
  match text with
  | [] => .ok []
  | c :: rest =>
    if Text.isBlank c then
      scanFrom (position + 1) rest
    else
      match _readable : readLexeme position c rest with
      | .error flaw => .error flaw
      | .ok lexeme =>
        match scanFrom (position + lexeme.width) lexeme.rest with
        | .error flaw => .error flaw
        | .ok tokens => .ok (⟨position, lexeme.token⟩ :: tokens)
termination_by text.length
decreasing_by
  · simp
  · have := readLexeme_length _readable
    simp only [List.length_cons]
    omega

def scan (text : List Char) : Except Flaw (List PlacedToken) :=
  scanFrom 0 text

end SearchQuery

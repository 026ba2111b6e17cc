import SearchQuery.Document.Basic
import SearchQuery.Proofs.Skeleton
import SearchQuery.Proofs.Sql.Syntax
import SearchQuery.Where

/-!
# The text of a condition reads as the condition

The reader recovers from the text of a condition the tree that was written, with every column as
the path of its attribute and every placeholder with its number.  The proof goes through the atoms
of the condition: its text is divided into these atoms, and these atoms are read as the clause.
-/

set_option autoImplicit false

namespace SearchQuery

namespace Sql

/-! ## Atoms at the front of a text -/

@[simp]
theorem readAtoms_space (rest : List Char) : readAtoms (' ' :: rest) = readAtoms rest := by
  rw [readAtoms.eq_def]
  simp only [if_true]

theorem readAtoms_atom {c : Char} {rest after : List Char} {atom : Atom} (notSpace : c ≠ ' ')
    (readable : readAtom c rest = some (atom, after)) :
    readAtoms (c :: rest) = (readAtoms after).map fun atoms => atom :: atoms := by
  rw [readAtoms.eq_def]
  simp only [notSpace, if_false]
  split
  next failed => rw [failed] at readable; cases readable
  next found foundAfter success =>
    rw [success] at readable
    cases readable
    rfl

@[simp]
theorem readAtoms_opening (rest : List Char) :
    readAtoms ('(' :: rest) = (readAtoms rest).map fun atoms => .opening :: atoms :=
  readAtoms_atom (by decide) (by simp [readAtom])

@[simp]
theorem readAtoms_closing (rest : List Char) :
    readAtoms (')' :: rest) = (readAtoms rest).map fun atoms => .closing :: atoms :=
  readAtoms_atom (by decide) (by simp [readAtom])

theorem readAtoms_comma (rest : List Char) :
    readAtoms (',' :: rest) = (readAtoms rest).map fun atoms => .comma :: atoms :=
  readAtoms_atom (by decide) (by simp [readAtom])

theorem readAtoms_dot (rest : List Char) :
    readAtoms ('.' :: rest) = (readAtoms rest).map fun atoms => .dot :: atoms :=
  readAtoms_atom (by decide) (by simp [readAtom])

/-- The text after an atom does not continue it: it is empty or starts with a space or with a mark
that stands for itself. -/
def delimits : List Char → Bool
  | [] => true
  | c :: _ => c == ' ' || c == '(' || c == ')' || c == ',' || c == '.'

@[simp]
theorem delimits_space (rest : List Char) : delimits (' ' :: rest) = true := by
  simp [delimits]

@[simp]
theorem delimits_opening (rest : List Char) : delimits ('(' :: rest) = true := by
  simp [delimits]

@[simp]
theorem delimits_closing (rest : List Char) : delimits (')' :: rest) = true := by
  simp [delimits]

theorem takeWhile_eq_nil_of_delimits {rest : List Char} (delimited : delimits rest = true)
    (inside : Char → Bool) (marksOutside : [' ', '(', ')', ',', '.'].any inside = false) :
    rest.takeWhile inside = [] := by
  cases rest with
  | nil => rfl
  | cons c others =>
      have isMark : c ∈ [' ', '(', ')', ',', '.'] := by
        simpa [delimits, or_assoc] using delimited
      simp [List.any_eq_false.mp marksOutside c isMark]

theorem readIdentifier_doubledQuotes {rest : List Char} (delimited : delimits rest = true) :
    ∀ part : List Char,
      readIdentifier (Condition.doubledQuotes part ++ '"' :: rest) = some (part, rest) := by
  intro part
  induction part with
  | nil =>
      rw [Condition.doubledQuotes, List.nil_append, readIdentifier.eq_def]
      cases rest with
      | nil => simp
      | cons c others =>
          have notQuote : c ≠ '"' := by
            rintro rfl
            exact absurd delimited (by simp [delimits])
          simp [notQuote]
  | cons c others inductionHypothesis =>
      by_cases isQuote : c = '"'
      · rw [Condition.doubledQuotes, if_pos isQuote, List.cons_append, List.cons_append,
          readIdentifier.eq_def]
        simp [inductionHypothesis, isQuote]
      · rw [Condition.doubledQuotes, if_neg isQuote, List.cons_append, readIdentifier.eq_def]
        simp [inductionHypothesis, isQuote]

@[simp]
theorem readAtoms_identifier (part : List Char) {rest : List Char}
    (delimited : delimits rest = true) :
    readAtoms (Condition.quotedPart part ++ rest) =
      (readAtoms rest).map fun atoms => .identifier (String.ofList part) :: atoms := by
  have readable : readAtom '"' (Condition.doubledQuotes part ++ '"' :: rest) =
      some (.identifier (String.ofList part), rest) := by
    rw [readAtom, if_pos rfl, readIdentifier_doubledQuotes delimited]
    rfl
  have divided : Condition.quotedPart part ++ rest =
      '"' :: (Condition.doubledQuotes part ++ '"' :: rest) := by
    simp [Condition.quotedPart]
  rw [divided]
  exact readAtoms_atom (by decide) readable

@[simp]
theorem readAtoms_parameter (number : Nat) {rest : List Char} (delimited : delimits rest = true) :
    readAtoms (Condition.placeholderText number ++ rest) =
      (readAtoms rest).map fun atoms => .parameter number :: atoms := by
  have allDigits : ∀ c ∈ Nat.toDigits 10 number, c.isDigit = true := fun c member =>
    Nat.isDigit_of_mem_toDigits (by decide) (by decide) member
  have noMoreDigits := takeWhile_eq_nil_of_delimits delimited Char.isDigit rfl
  have digitsRead := Text.takeWhile_run allDigits noMoreDigits
  have digitsDropped := Text.dropWhile_run allDigits noMoreDigits
  rw [Condition.placeholderText, List.cons_append, Nat.toList_repr]
  apply readAtoms_atom (by decide)
  simp [readAtom, digitsRead, digitsDropped, Nat.toDigits_ne_nil, Nat.ofDigitChars_ten_toDigits]

@[simp]
theorem readAtoms_keyword (keyword : Keyword) {rest : List Char}
    (delimited : delimits rest = true) :
    readAtoms (keyword.spelling ++ rest) =
      (readAtoms rest).map fun atoms => .keyword keyword :: atoms := by
  have allLetters : ∀ c ∈ keyword.spelling, c.isAlpha = true := by
    rw [← List.all_eq_true]
    cases keyword <;> rfl
  have found := keyword.ofSpelling?_spelling
  cases spelled : keyword.spelling with
  | nil => cases keyword <;> cases spelled
  | cons first others =>
      rw [spelled] at allLetters found
      have firstLetter := allLetters first List.mem_cons_self
      have othersLetters : ∀ c ∈ others, c.isAlpha = true := fun c member =>
        allLetters c (List.mem_cons_of_mem first member)
      have noMoreLetters := takeWhile_eq_nil_of_delimits delimited Char.isAlpha rfl
      have lettersRead := Text.takeWhile_run othersLetters noMoreLetters
      have lettersDropped := Text.dropWhile_run othersLetters noMoreLetters
      have notMark : ∀ mark ∈ ['"', '$', '.', ',', '(', ')', ' '], first ≠ mark := by
        rintro mark isMark rfl
        have marksOutside : ['"', '$', '.', ',', '(', ')', ' '].any Char.isAlpha = false := rfl
        exact List.any_eq_false.mp marksOutside first isMark firstLetter
      simp only [List.mem_cons, List.not_mem_nil, or_false, forall_eq_or_imp, forall_eq] at notMark
      apply readAtoms_atom notMark.2.2.2.2.2.2
      simp [readAtom, notMark, firstLetter, lettersRead, lettersDropped, found]

@[simp]
theorem readAtoms_sign (sign : Sign) (rest : List Char) :
    readAtoms (sign.text.toList ++ ' ' :: rest) =
      (readAtoms rest).map fun atoms => .sign sign :: atoms := by
  rw [← readAtoms_space rest]
  cases sign with
  | equal =>
      have readable : readAtom '=' (' ' :: rest) = some (.sign .equal, ' ' :: rest) := rfl
      exact readAtoms_atom (by decide) readable
  | notEqual =>
      have readable : readAtom '<' ('>' :: ' ' :: rest) = some (.sign .notEqual, ' ' :: rest) := rfl
      exact readAtoms_atom (by decide) readable
  | greaterThan =>
      have readable : readAtom '>' (' ' :: rest) = some (.sign .greaterThan, ' ' :: rest) := rfl
      exact readAtoms_atom (by decide) readable
  | greaterOrEqual =>
      have readable : readAtom '>' ('=' :: ' ' :: rest) =
          some (.sign .greaterOrEqual, ' ' :: rest) := rfl
      exact readAtoms_atom (by decide) readable
  | lessThan =>
      have readable : readAtom '<' (' ' :: rest) = some (.sign .lessThan, ' ' :: rest) := rfl
      exact readAtoms_atom (by decide) readable
  | lessOrEqual =>
      have readable : readAtom '<' ('=' :: ' ' :: rest) =
          some (.sign .lessOrEqual, ' ' :: rest) := rfl
      exact readAtoms_atom (by decide) readable

/-! ## Lists of atoms -/

/-- Items that each read as one atom, with a separator that reads as one between them. -/
theorem readAtoms_separated {α : Type} {write : α → List Char} {atom : α → Atom}
    {separator : List Char} {separatorAtom : Atom}
    (itemRead : ∀ item rest, delimits rest = true →
      readAtoms (write item ++ rest) = (readAtoms rest).map fun atoms => atom item :: atoms)
    (separatorRead : ∀ rest,
      readAtoms (separator ++ rest) = (readAtoms rest).map fun atoms => separatorAtom :: atoms)
    (separatorDelimits : ∀ rest, delimits (separator ++ rest) = true)
    {rest : List Char} (delimited : delimits rest = true) :
    ∀ items : List α,
      readAtoms (Condition.separated separator (items.map write) ++ rest) =
        (readAtoms rest).map fun atoms =>
          (items.map atom).intersperse separatorAtom ++ atoms := by
  intro items
  induction items with
  | nil => simp [Condition.separated]
  | cons first others inductionHypothesis =>
      cases others with
      | nil =>
          simp only [List.map_cons, List.map_nil, Condition.separated]
          rw [itemRead first rest delimited]
          rfl
      | cons second tail =>
          rw [List.map_cons, List.map_cons] at inductionHypothesis
          simp only [List.map_cons, Condition.separated, List.append_assoc]
          rw [itemRead first _ (separatorDelimits _), separatorRead, inductionHypothesis]
          simp [Function.comp_def, List.intersperse]

def pathAtoms (path : List String) : List Atom :=
  (path.map Atom.identifier).intersperse .dot

def parameterAtoms (parameters : List Nat) : List Atom :=
  (parameters.map Atom.parameter).intersperse .comma

@[simp]
theorem readAtoms_column (name : String) {rest : List Char} (delimited : delimits rest = true) :
    readAtoms (Condition.column name ++ rest) =
      (readAtoms rest).map fun atoms => pathAtoms (Document.path name) ++ atoms := by
  have separatorRead : ∀ rest, readAtoms (['.'] ++ rest) =
      (readAtoms rest).map fun atoms => Atom.dot :: atoms := readAtoms_dot
  rw [Condition.column, pathAtoms, Document.path, List.map_map]
  exact readAtoms_separated (fun part rest delimited => readAtoms_identifier part delimited)
    separatorRead (fun rest => rfl) delimited (Text.dottedParts name.toList)

@[simp]
theorem readAtoms_placeholders (placeholders : List Nat) {rest : List Char}
    (delimited : delimits rest = true) :
    readAtoms (Condition.separated [',', ' '] (placeholders.map Condition.placeholderText) ++ rest)
      = (readAtoms rest).map fun atoms => parameterAtoms placeholders ++ atoms := by
  have separatorRead : ∀ rest, readAtoms ([',', ' '] ++ rest) =
      (readAtoms rest).map fun atoms => Atom.comma :: atoms := by
    intro rest
    rw [List.cons_append, readAtoms_comma, List.cons_append, readAtoms_space]
    rfl
  exact readAtoms_separated (fun number rest delimited => readAtoms_parameter number delimited)
    separatorRead (fun rest => rfl) delimited placeholders

/-! ## The atoms of a condition -/

end Sql

namespace Condition

open Sql

def atoms : Condition → List Atom
  | .compare name sign placeholder =>
      pathAtoms (Document.path name) ++ [.sign sign, .parameter placeholder]
  | .like name negated placeholder =>
      .keyword .lower :: .opening :: pathAtoms (Document.path name) ++
        .closing :: (if negated then [.keyword .not] else []) ++
          [.keyword .like, .parameter placeholder]
  | .within name placeholders =>
      pathAtoms (Document.path name) ++
        .keyword .within :: .opening :: parameterAtoms placeholders ++ [.closing]
  | .isNull name => pathAtoms (Document.path name) ++ [.keyword .is, .keyword .null]
  | .isNotNull name =>
      pathAtoms (Document.path name) ++ [.keyword .is, .keyword .not, .keyword .null]
  | .and left right => .opening :: left.atoms ++ .keyword .and :: right.atoms ++ [.closing]
  | .or left right => .opening :: left.atoms ++ .keyword .or :: right.atoms ++ [.closing]
  | .not inner => .keyword .not :: .opening :: inner.atoms ++ [.closing]

theorem readAtoms_characters :
    ∀ (condition : Condition) {rest : List Char}, delimits rest = true →
      readAtoms (condition.characters ++ rest) =
        (readAtoms rest).map fun others => condition.atoms ++ others := by
  intro condition
  induction condition with
  | compare name sign placeholder =>
      intro rest delimited
      rw [characters.eq_def]
      simp [atoms, delimited, Function.comp_def]
  | like name negated placeholder =>
      intro rest delimited
      have opened : "LOWER(".toList = Keyword.lower.spelling ++ ['('] := rfl
      have closed : (if negated then ") NOT LIKE " else ") LIKE ").toList =
          ')' :: ' ' :: (if negated then Keyword.not.spelling ++ [' '] else []) ++
            Keyword.like.spelling ++ [' '] := by
        cases negated <;> rfl
      rw [characters.eq_def]
      dsimp only
      rw [opened, closed]
      cases negated <;> simp [atoms, delimited, Function.comp_def]
  | within name placeholders =>
      intro rest delimited
      have opened : " IN (".toList = ' ' :: Keyword.within.spelling ++ [' ', '('] := rfl
      rw [characters.eq_def]
      simp [opened, atoms, Function.comp_def]
  | isNull name =>
      intro rest delimited
      have asked : " IS NULL".toList =
          ' ' :: Keyword.is.spelling ++ ' ' :: Keyword.null.spelling := rfl
      rw [characters.eq_def]
      simp [asked, atoms, delimited, Function.comp_def]
  | isNotNull name =>
      intro rest delimited
      have asked : " IS NOT NULL".toList =
          ' ' :: Keyword.is.spelling ++ ' ' :: Keyword.not.spelling ++
            ' ' :: Keyword.null.spelling := rfl
      rw [characters.eq_def]
      simp [asked, atoms, delimited, Function.comp_def]
  | and left right leftRead rightRead =>
      intro rest delimited
      have joined : " AND ".toList = ' ' :: Keyword.and.spelling ++ [' '] := rfl
      rw [characters.eq_def]
      simp [joined, atoms, leftRead, rightRead, Function.comp_def]
  | or left right leftRead rightRead =>
      intro rest delimited
      have joined : " OR ".toList = ' ' :: Keyword.or.spelling ++ [' '] := rfl
      rw [characters.eq_def]
      simp [joined, atoms, leftRead, rightRead, Function.comp_def]
  | not inner innerRead =>
      intro rest delimited
      have opened : "NOT (".toList = Keyword.not.spelling ++ [' ', '('] := rfl
      rw [characters.eq_def]
      simp [opened, atoms, innerRead, Function.comp_def]

end Condition

/-! ## The clause of a condition -/

namespace Sql

theorem readPath_pathAtoms {rest : List Atom} (noDot : rest.head? ≠ some .dot) :
    ∀ {path : List String}, path ≠ [] → readPath (pathAtoms path ++ rest) = some (path, rest) := by
  intro path
  induction path with
  | nil =>
      intro nonempty
      exact absurd rfl nonempty
  | cons part others inductionHypothesis =>
      intro _
      cases others with
      | nil =>
          cases rest with
          | nil => rfl
          | cons atom atoms =>
              have notDot : atom ≠ .dot := by
                rintro rfl
                exact noDot rfl
              cases atom <;> first | rfl | exact absurd rfl notDot
      | cons next tail =>
          have read := inductionHypothesis (List.cons_ne_nil next tail)
          change (readPath (pathAtoms (next :: tail) ++ rest)).map _ = _
          rw [read]
          rfl

theorem pathAtoms_eq_cons {path : List String} (nonempty : path ≠ []) :
    ∃ part others, pathAtoms path = .identifier part :: others := by
  obtain ⟨part, _ | ⟨next, tail⟩, rfl⟩ := List.exists_cons_of_ne_nil nonempty
  · exact ⟨part, [], rfl⟩
  · exact ⟨part, .dot :: pathAtoms (next :: tail), rfl⟩

theorem readOperand_column {path : List String} (nonempty : path ≠ []) {rest : List Atom}
    (noDot : rest.head? ≠ some .dot) :
    readOperand (pathAtoms path ++ rest) = some (.column path, rest) := by
  have read := readPath_pathAtoms noDot nonempty
  obtain ⟨part, others, starts⟩ := pathAtoms_eq_cons nonempty
  rw [starts] at read ⊢
  change (readPath (.identifier part :: others ++ rest)).map _ = _
  rw [read]
  rfl

theorem readOperand_lower {path : List String} (nonempty : path ≠ []) (rest : List Atom) :
    readOperand (.keyword .lower :: .opening :: (pathAtoms path ++ .closing :: rest)) =
      some (.lower path, rest) := by
  have noDot : (Atom.closing :: rest).head? ≠ some .dot := by simp
  simp only [readOperand, readPath_pathAtoms noDot nonempty]

theorem readParameters_parameterAtoms (rest : List Atom) :
    ∀ {parameters : List Nat}, parameters ≠ [] →
      readParameters (parameterAtoms parameters ++ .closing :: rest) = some (parameters, rest) := by
  intro parameters
  induction parameters with
  | nil =>
      intro nonempty
      exact absurd rfl nonempty
  | cons number others inductionHypothesis =>
      intro _
      cases others with
      | nil => rfl
      | cons next tail =>
          have read := inductionHypothesis (List.cons_ne_nil next tail)
          change (readParameters (parameterAtoms (next :: tail) ++ .closing :: rest)).map _ = _
          rw [read]
          rfl

/-! ## Levels -/

theorem readClause_conjunction {steps : Nat} {atoms rest : List Atom} {clause : Clause}
    (read : readClause steps .negation atoms = some (clause, rest))
    (noAnd : rest.head? ≠ some (.keyword .and)) :
    readClause (steps + 1) .conjunction atoms = some (clause, rest) := by
  rw [readClause.eq_def]
  simp only [read]
  split
  next left after continues =>
    cases continues
    exact absurd rfl noAnd
  next => rfl

theorem readClause_disjunction {steps : Nat} {atoms rest : List Atom} {clause : Clause}
    (read : readClause steps .conjunction atoms = some (clause, rest))
    (noOr : rest.head? ≠ some (.keyword .or)) :
    readClause (steps + 1) .disjunction atoms = some (clause, rest) := by
  rw [readClause.eq_def]
  simp only [read]
  split
  next left after continues =>
    cases continues
    exact absurd rfl noOr
  next => rfl

theorem readClause_and {steps : Nat} {atoms middle rest : List Atom} {left right : Clause}
    (leftRead : readClause steps .negation atoms = some (left, .keyword .and :: middle))
    (rightRead : readClause steps .conjunction middle = some (right, rest)) :
    readClause (steps + 1) .conjunction atoms = some (.and left right, rest) := by
  rw [readClause.eq_def]
  simp only [leftRead, rightRead, Option.map_some]

theorem readClause_or {steps : Nat} {atoms middle rest : List Atom} {left right : Clause}
    (leftRead : readClause steps .conjunction atoms = some (left, .keyword .or :: middle))
    (rightRead : readClause steps .disjunction middle = some (right, rest)) :
    readClause (steps + 1) .disjunction atoms = some (.or left right, rest) := by
  rw [readClause.eq_def]
  simp only [leftRead, rightRead, Option.map_some]

theorem readClause_column {steps : Nat} {path : List String} (nonempty : path ≠ [])
    {atoms rest : List Atom} {clause : Clause} (noDot : atoms.head? ≠ some .dot)
    (tested : readTest (.column path) atoms = some (clause, rest)) :
    readClause (steps + 1) .negation (pathAtoms path ++ atoms) = some (clause, rest) := by
  have operandRead := readOperand_column nonempty noDot
  obtain ⟨part, others, starts⟩ := pathAtoms_eq_cons nonempty
  rw [starts, List.cons_append] at operandRead ⊢
  rw [readClause.eq_def]
  simp only [operandRead, tested]

theorem readClause_lower {steps : Nat} {path : List String} (nonempty : path ≠ [])
    {atoms rest : List Atom} {clause : Clause}
    (tested : readTest (.lower path) atoms = some (clause, rest)) :
    readClause (steps + 1) .negation
        (.keyword .lower :: .opening :: (pathAtoms path ++ .closing :: atoms)) =
      some (clause, rest) := by
  rw [readClause.eq_def]
  simp only [readOperand_lower nonempty, tested]

end Sql

namespace Condition

open Sql

def clause : Condition → Clause
  | .compare name sign placeholder => .compare (.column (Document.path name)) sign placeholder
  | .like name negated placeholder => .like (.lower (Document.path name)) negated placeholder
  | .within name placeholders => .within (.column (Document.path name)) placeholders
  | .isNull name => .null (.column (Document.path name)) false
  | .isNotNull name => .null (.column (Document.path name)) true
  | .and left right => .and left.clause right.clause
  | .or left right => .or left.clause right.clause
  | .not inner => .not inner.clause

/-- No list of the condition is empty, as the parentheses of `IN` need something between them. -/
def ListsNonempty : Condition → Prop
  | .within _ placeholders => placeholders ≠ []
  | .and left right => left.ListsNonempty ∧ right.ListsNonempty
  | .or left right => left.ListsNonempty ∧ right.ListsNonempty
  | .not inner => inner.ListsNonempty
  | _ => True

theorem path_ne_nil (name : String) : Document.path name ≠ [] := by
  have partsNonempty : ∀ text : List Char, Text.dottedParts text ≠ [] := by
    intro text
    induction text with
    | nil => simp [Text.dottedParts]
    | cons c rest inductionHypothesis =>
        rw [Text.dottedParts]
        split
        · simp
        · split <;> simp
  simpa [Document.path] using partsNonempty name.toList

theorem atoms_ne_nil (condition : Condition) : condition.atoms ≠ [] := by
  cases condition <;> simp [atoms]

theorem exists_step {condition : Condition} {steps : Nat}
    (enough : 4 * condition.atoms.length ≤ steps) : ∃ left, steps = left + 1 := by
  have positive : 0 < condition.atoms.length := List.length_pos_iff.mpr condition.atoms_ne_nil
  exact ⟨steps - 1, by omega⟩

/-- In a group the level of a condition does not matter: what follows is no connective of it. -/
theorem readClause_disjunction_of_negation {steps : Nat} {atoms rest : List Atom}
    {clause : Clause} (read : readClause steps .negation atoms = some (clause, .closing :: rest)) :
    readClause (steps + 2) .disjunction atoms = some (clause, .closing :: rest) :=
  readClause_disjunction (readClause_conjunction read (by simp)) (by simp)

theorem readClause_atoms :
    ∀ (condition : Condition), condition.ListsNonempty →
      ∀ (steps : Nat) (rest : List Atom), 4 * condition.atoms.length ≤ steps →
        readClause steps .negation (condition.atoms ++ rest) = some (condition.clause, rest) := by
  intro condition
  induction condition with
  | compare name sign placeholder =>
      intro _ steps rest enough
      obtain ⟨left, rfl⟩ := exists_step enough
      rw [atoms, List.append_assoc]
      exact readClause_column (path_ne_nil name) (by simp) rfl
  | like name negated placeholder =>
      intro _ steps rest enough
      obtain ⟨left, rfl⟩ := exists_step enough
      cases negated with
      | false =>
          simp only [atoms, List.append_assoc, List.cons_append, List.nil_append]
          exact readClause_lower (path_ne_nil name) rfl
      | true =>
          simp only [atoms, List.append_assoc, List.cons_append, List.nil_append]
          exact readClause_lower (path_ne_nil name) rfl
  | within name placeholders =>
      intro nonempty steps rest enough
      obtain ⟨left, rfl⟩ := exists_step enough
      simp only [atoms, List.append_assoc, List.cons_append, List.nil_append]
      apply readClause_column (path_ne_nil name) (by simp)
      rw [readTest, readParameters_parameterAtoms rest nonempty]
      rfl
  | isNull name =>
      intro _ steps rest enough
      obtain ⟨left, rfl⟩ := exists_step enough
      rw [atoms, List.append_assoc]
      exact readClause_column (path_ne_nil name) (by simp) rfl
  | isNotNull name =>
      intro _ steps rest enough
      obtain ⟨left, rfl⟩ := exists_step enough
      rw [atoms, List.append_assoc]
      exact readClause_column (path_ne_nil name) (by simp) rfl
  | and left right leftRead rightRead =>
      intro nonempty steps rest enough
      simp only [atoms, List.length_append, List.length_cons, List.length_nil] at enough
      obtain ⟨inner, rfl⟩ : ∃ inner, steps = inner + 4 := ⟨steps - 4, by omega⟩
      simp only [atoms, List.append_assoc, List.cons_append, List.nil_append]
      apply readClause_group
      apply readClause_disjunction _ (by simp)
      apply readClause_and (leftRead nonempty.1 (inner + 1) _ (by omega))
      exact readClause_conjunction (rightRead nonempty.2 inner _ (by omega)) (by simp)
  | or left right leftRead rightRead =>
      intro nonempty steps rest enough
      simp only [atoms, List.length_append, List.length_cons, List.length_nil] at enough
      obtain ⟨inner, rfl⟩ : ∃ inner, steps = inner + 4 := ⟨steps - 4, by omega⟩
      simp only [atoms, List.append_assoc, List.cons_append, List.nil_append]
      apply readClause_group
      apply readClause_or
      · exact readClause_conjunction (leftRead nonempty.1 (inner + 1) _ (by omega)) (by simp)
      · exact readClause_disjunction_of_negation (rightRead nonempty.2 inner _ (by omega))
  | not operand operandRead =>
      intro nonempty steps rest enough
      simp only [atoms, List.length_append, List.length_cons, List.length_nil] at enough
      obtain ⟨inner, rfl⟩ : ∃ inner, steps = inner + 4 := ⟨steps - 4, by omega⟩
      simp only [atoms, List.append_assoc, List.cons_append, List.nil_append]
      apply readClause_not
      apply readClause_group
      exact readClause_disjunction_of_negation (operandRead nonempty inner _ (by omega))

theorem ofText?_text {condition : Condition} (nonempty : condition.ListsNonempty) :
    Clause.ofText? condition.text = some condition.clause := by
  have divided : readAtoms condition.characters = some condition.atoms := by
    have read : readAtoms (condition.characters ++ []) = _ := readAtoms_characters condition rfl
    simpa [readAtoms_nil] using read
  have read : readClause (4 * condition.atoms.length + 4) .disjunction condition.atoms =
      some (condition.clause, []) := by
    have direct := readClause_atoms condition nonempty (4 * condition.atoms.length + 2) []
      (by omega)
    rw [List.append_nil] at direct
    exact readClause_disjunction (readClause_conjunction direct (by simp)) (by simp)
  rw [Clause.ofText?, text, String.toList_ofList, divided]
  simp only [Clause.ofAtoms?, read]

end Condition

/-- What becomes of a filter can be read back: its lists have items. -/
theorem Filter.toCondition_listsNonempty :
    ∀ {filter : Filter} {used : Nat} {bound : BoundCondition},
      filter.toCondition used = .ok bound → bound.condition.ListsNonempty := by
  apply toCondition_induction
  · intro name kind sign value used _
    trivial
  · intro name kind anchor negated value used _
    trivial
  · intro name values used nonempty
    simpa [Condition.ListsNonempty, placeholdersAfter] using nonempty
  · intro name used
    trivial
  · intro name used
    trivial
  · intro left right used leftBound rightBound leftNonempty rightNonempty
    exact ⟨leftNonempty, rightNonempty⟩
  · intro left right used leftBound rightBound leftNonempty rightNonempty
    exact ⟨leftNonempty, rightNonempty⟩
  · intro inner used bound innerNonempty
    exact innerNonempty

end SearchQuery

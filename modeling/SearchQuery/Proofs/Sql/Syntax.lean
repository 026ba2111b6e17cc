import SearchQuery.Where

/-!
# Reading the text of a condition

A reader for the conditions of a database: quoted identifiers with dots between them, numbered
parameters, comparison signs, `LIKE`, `IN`, `IS NULL`, and the connectives, of which `NOT` binds
closest and `OR` least.  It knows nothing of how conditions are written here.
-/

set_option autoImplicit false

namespace SearchQuery.Sql

/-! ## Atoms -/

inductive Keyword where
  | and
  | or
  | not
  | like
  | within
  | is
  | null
  | lower
deriving DecidableEq, Repr

namespace Keyword

def all : List Keyword :=
  [.and, .or, .not, .like, .within, .is, .null, .lower]

def spelling : Keyword → List Char
  | .and => "AND".toList
  | .or => "OR".toList
  | .not => "NOT".toList
  | .like => "LIKE".toList
  | .within => "IN".toList
  | .is => "IS".toList
  | .null => "NULL".toList
  | .lower => "LOWER".toList

def ofSpelling? (letters : List Char) : Option Keyword :=
  all.find? fun keyword => keyword.spelling == letters

theorem ofSpelling?_spelling (keyword : Keyword) :
    ofSpelling? keyword.spelling = some keyword := by
  cases keyword <;> rfl

end Keyword

inductive Atom where
  | identifier (name : String)
  | parameter (number : Nat)
  | sign (sign : Sign)
  | keyword (keyword : Keyword)
  | dot
  | comma
  | opening
  | closing
deriving DecidableEq, Repr

/-- Reads an identifier after its opening quote; a quote inside is written twice. -/
def readIdentifier : List Char → Option (List Char × List Char)
  | [] => none
  | c :: rest =>
      if c = '"' then
        match rest with
        | [] => some ([], [])
        | next :: after =>
            if next = '"' then
              (readIdentifier after).map fun found => ('"' :: found.1, found.2)
            else
              some ([], next :: after)
      else
        (readIdentifier rest).map fun found => (c :: found.1, found.2)

/-- Reads a comparison sign, the longest one that the text starts with. -/
def readSign (c : Char) (rest : List Char) : Option (Sign × List Char) :=
  match c, rest with
  | '=', rest => some (.equal, rest)
  | '<', '>' :: after => some (.notEqual, after)
  | '<', '=' :: after => some (.lessOrEqual, after)
  | '<', rest => some (.lessThan, rest)
  | '>', '=' :: after => some (.greaterOrEqual, after)
  | '>', rest => some (.greaterThan, rest)
  | _, _ => none

/-- Reads the atom that starts with the given character, which is not a space. -/
def readAtom (c : Char) (rest : List Char) : Option (Atom × List Char) :=
  if c = '"' then
    (readIdentifier rest).map fun found => (.identifier (String.ofList found.1), found.2)
  else if c = '$' then
    let digits := rest.takeWhile Char.isDigit
    if digits.isEmpty then
      none
    else
      some (.parameter (Nat.ofDigitChars 10 digits 0), rest.dropWhile Char.isDigit)
  else if c = '.' then some (.dot, rest)
  else if c = ',' then some (.comma, rest)
  else if c = '(' then some (.opening, rest)
  else if c = ')' then some (.closing, rest)
  else if c.isAlpha then
    (Keyword.ofSpelling? (c :: rest.takeWhile Char.isAlpha)).map fun keyword =>
      (.keyword keyword, rest.dropWhile Char.isAlpha)
  else
    (readSign c rest).map fun found => (.sign found.1, found.2)

theorem readIdentifier_length {text : List Char} {found : List Char × List Char}
    (readable : readIdentifier text = some found) : found.2.length ≤ text.length := by
  fun_induction readIdentifier text generalizing found with
  | case1 => cases readable
  | case2 => cases readable; simp
  | case3 after inductionHypothesis =>
      obtain ⟨inner, innerRead, rfl⟩ := Option.map_eq_some_iff.mp readable
      have shorter := inductionHypothesis innerRead
      simp only [List.length_cons]
      omega
  | case4 next after _ => cases readable; simp
  | case5 c rest _ inductionHypothesis =>
      obtain ⟨inner, innerRead, rfl⟩ := Option.map_eq_some_iff.mp readable
      have shorter := inductionHypothesis innerRead
      simp only [List.length_cons]
      omega

theorem readSign_length {c : Char} {rest : List Char} {found : Sign × List Char}
    (readable : readSign c rest = some found) : found.2.length ≤ rest.length := by
  unfold readSign at readable
  split at readable <;> cases readable <;> simp

theorem readAtom_length {c : Char} {rest : List Char} {found : Atom × List Char}
    (readable : readAtom c rest = some found) : found.2.length ≤ rest.length := by
  unfold readAtom at readable
  split at readable
  · obtain ⟨inner, innerRead, rfl⟩ := Option.map_eq_some_iff.mp readable
    exact readIdentifier_length innerRead
  split at readable
  · dsimp only at readable
    split at readable <;> cases readable
    exact (List.dropWhile_sublist Char.isDigit).length_le
  split at readable
  · cases readable; exact Nat.le_refl _
  split at readable
  · cases readable; exact Nat.le_refl _
  split at readable
  · cases readable; exact Nat.le_refl _
  split at readable
  · cases readable; exact Nat.le_refl _
  split at readable
  · obtain ⟨keyword, _, rfl⟩ := Option.map_eq_some_iff.mp readable
    exact (List.dropWhile_sublist Char.isAlpha).length_le
  · obtain ⟨inner, innerRead, rfl⟩ := Option.map_eq_some_iff.mp readable
    exact readSign_length innerRead

def readAtoms (text : List Char) : Option (List Atom) :=
  match text with
  | [] => some []
  | c :: rest =>
    if c = ' ' then
      readAtoms rest
    else
      match _found : readAtom c rest with
      | none => none
      | some (atom, after) => (readAtoms after).map fun atoms => atom :: atoms
termination_by text.length
decreasing_by
  · simp
  · have shorter : after.length ≤ rest.length := readAtom_length _found
    simp only [List.length_cons]
    omega

theorem readAtoms_nil : readAtoms [] = some [] := by
  rw [readAtoms.eq_def]

/-! ## Clauses -/

/-- What a test looks at: a column, or the lowercase text of a column. -/
inductive Operand where
  | column (path : List String)
  | lower (path : List String)
deriving DecidableEq, Repr

inductive Clause where
  | compare (operand : Operand) (sign : Sign) (parameter : Nat)
  | like (operand : Operand) (negated : Bool) (parameter : Nat)
  | within (operand : Operand) (parameters : List Nat)
  | null (operand : Operand) (negated : Bool)
  | and (left right : Clause)
  | or (left right : Clause)
  | not (inner : Clause)
deriving DecidableEq, Repr

def readPath : List Atom → Option (List String × List Atom)
  | .identifier name :: .dot :: rest =>
      (readPath rest).map fun found => (name :: found.1, found.2)
  | .identifier name :: rest => some ([name], rest)
  | _ => none

def readOperand : List Atom → Option (Operand × List Atom)
  | .keyword .lower :: .opening :: rest =>
      match readPath rest with
      | some (path, .closing :: after) => some (.lower path, after)
      | _ => none
  | atoms => (readPath atoms).map fun found => (.column found.1, found.2)

/-- Reads the parameters of a list after its opening parenthesis. -/
def readParameters : List Atom → Option (List Nat × List Atom)
  | .parameter number :: .comma :: rest =>
      (readParameters rest).map fun found => (number :: found.1, found.2)
  | .parameter number :: .closing :: rest => some ([number], rest)
  | _ => none

def readTest (operand : Operand) : List Atom → Option (Clause × List Atom)
  | .sign sign :: .parameter number :: rest => some (.compare operand sign number, rest)
  | .keyword .like :: .parameter number :: rest => some (.like operand false number, rest)
  | .keyword .not :: .keyword .like :: .parameter number :: rest =>
      some (.like operand true number, rest)
  | .keyword .within :: .opening :: rest =>
      (readParameters rest).map fun found => (.within operand found.1, found.2)
  | .keyword .is :: .keyword .null :: rest => some (.null operand false, rest)
  | .keyword .is :: .keyword .not :: .keyword .null :: rest => some (.null operand true, rest)
  | _ => none

/-- How loosely a part of a condition may be bound. -/
inductive Level where
  | disjunction
  | conjunction
  | negation
deriving DecidableEq, Repr

/-- Reads a clause of the given level from the front of a list.  The first argument bounds the
number of steps. -/
def readClause : Nat → Level → List Atom → Option (Clause × List Atom)
  | 0, _, _ => none
  | steps + 1, .disjunction, atoms =>
      match readClause steps .conjunction atoms with
      | some (left, .keyword .or :: rest) =>
          (readClause steps .disjunction rest).map fun found => (.or left found.1, found.2)
      | found => found
  | steps + 1, .conjunction, atoms =>
      match readClause steps .negation atoms with
      | some (left, .keyword .and :: rest) =>
          (readClause steps .conjunction rest).map fun found => (.and left found.1, found.2)
      | found => found
  | steps + 1, .negation, .keyword .not :: rest =>
      (readClause steps .negation rest).map fun found => (.not found.1, found.2)
  | steps + 1, .negation, .opening :: rest =>
      match readClause steps .disjunction rest with
      | some (inner, .closing :: after) => some (inner, after)
      | _ => none
  | _ + 1, .negation, atoms =>
      match readOperand atoms with
      | some (operand, rest) => readTest operand rest
      | none => none

theorem readClause_not {steps : Nat} {atoms rest : List Atom} {clause : Clause}
    (read : readClause steps .negation atoms = some (clause, rest)) :
    readClause (steps + 1) .negation (.keyword .not :: atoms) = some (.not clause, rest) := by
  rw [readClause.eq_def]
  simp only [read, Option.map_some]

theorem readClause_group {steps : Nat} {atoms rest : List Atom} {clause : Clause}
    (read : readClause steps .disjunction atoms = some (clause, .closing :: rest)) :
    readClause (steps + 1) .negation (.opening :: atoms) = some (clause, rest) := by
  rw [readClause.eq_def]
  simp only [read]

namespace Clause

/-- The clause that a list of atoms spells.  An atom is met at most once on each of the three levels
and once more behind a connective, so four steps an atom are enough. -/
def ofAtoms? (atoms : List Atom) : Option Clause :=
  match readClause (4 * atoms.length + 4) .disjunction atoms with
  | some (clause, []) => some clause
  | _ => none

def ofText? (text : String) : Option Clause :=
  match readAtoms text.toList with
  | some atoms => ofAtoms? atoms
  | none => none

end Clause

end SearchQuery.Sql

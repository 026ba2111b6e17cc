import SearchQuery.Predicate.Basic

/-!
# The text of predicates

Every predicate has one canonical text: `name|code:` followed by the quoted value if there is one,
groups in parentheses, and `!` before what it negates. Inside quotes a backslash hides the meaning
of the quote and of the backslash, and in lists also that of the comma.

A term of a query is a name, an operator code and perhaps a literal. The literal still has its
escape marks; what it means depends on the arity of the operator.
-/

set_option autoImplicit false

namespace SearchQuery

def quoteMark : Char := '"'

def escapeMark : Char := '\\'

def separatorMark : Char := ','

def needsEscape (c : Char) : Bool :=
  c == quoteMark || c == escapeMark

def needsEscapeInList (c : Char) : Bool :=
  needsEscape c || c == separatorMark

/-- The value with an escape mark before each character that asks for one. -/
def escaped (hidden : Char → Bool) : List Char → List Char
  | [] => []
  | c :: rest => if hidden c then escapeMark :: c :: escaped hidden rest else c :: escaped hidden rest

def escapedList : List String → List Char
  | [] => []
  | [value] => escaped needsEscapeInList value.toList
  | value :: rest =>
      escaped needsEscapeInList value.toList ++ separatorMark :: escapedList rest

namespace Predicate

def head (name : String) (operator : Operator) : List Char :=
  name.toList ++ '|' :: operator.code.toList ++ [':']

def characters : Predicate → List Char
  | .bare name operator => head name operator
  | .single name operator value =>
      head name operator ++ quoteMark :: escaped needsEscape value.toList ++ [quoteMark]
  | .multiple name operator values =>
      head name operator ++ quoteMark :: escapedList values ++ [quoteMark]
  | .and left right => '(' :: left.characters ++ " AND ".toList ++ right.characters ++ [')']
  | .or left right => '(' :: left.characters ++ " OR ".toList ++ right.characters ++ [')']
  | .not inner => '!' :: inner.characters

def text (predicate : Predicate) : String :=
  String.ofList predicate.characters

end Predicate

namespace Search

def text : Search → String
  | .all => ""
  | .only predicate => predicate.text

end Search

/-! ## Leaves from terms -/

/-- The value of a literal: escape marks are dropped, the characters after them kept. -/
def unescaped : List Char → List Char
  | [] => []
  | c :: rest =>
      if c = escapeMark then
        match rest with
        | [] => []
        | hidden :: rest => hidden :: unescaped rest
      else
        c :: unescaped rest

def consFirst (c : Char) : List (List Char) → List (List Char)
  | [] => [[c]]
  | first :: rest => (c :: first) :: rest

/-- The elements of a literal list: separators behind no escape mark divide it. -/
def splitList : List Char → List (List Char)
  | [] => [[]]
  | c :: rest =>
      if c = escapeMark then
        match rest with
        | [] => [[]]
        | hidden :: rest => consFirst hidden (splitList rest)
      else if c = separatorMark then
        [] :: splitList rest
      else
        consFirst c (splitList rest)

def Predicate.ofTerm (name code : String) (literal : Option String) :
    Except SearchError Predicate :=
  match Operator.ofCode? code with
  | none => .error (.unknownOperator code)
  | some operator =>
    match operator.arity, literal with
    | .none, none => Predicate.bare? name operator
    | .none, some _ => .error (.invalidPredicate (.takesNoValue name operator))
    | .single, some content =>
        Predicate.single? name operator (String.ofList (unescaped content.toList))
    | .multiple, some content =>
        if content.isEmpty then
          Predicate.multiple? name operator []
        else
          Predicate.multiple? name operator ((splitList content.toList).map String.ofList)
    | _, none => .error (.invalidPredicate (.requiresValue name operator))

end SearchQuery

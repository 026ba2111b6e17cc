import SearchQuery.Query

/-!
# Searches from request parameters

A request carries a search either as one parameter with query text, or as one parameter for each
attribute: `lastName=DOE`, `age[ge]=20`. In the second form the parameters are written out as query
text and read like any other query, so both forms are checked alike. Names and values are quoted so
that none of them can change the structure of the text.
-/

set_option autoImplicit false

namespace SearchQuery

structure RequestForm where
  queryName : String := "q"
  nameStart : String := ""
  /-- Parameters that never belong to a search; case is ignored. -/
  reserved : List String := ["page", "size", "sort", "paged", "unpaged"]
  limits : Limits := {}
deriving DecidableEq, Repr

structure Parameter where
  name : String
  value : String
deriving DecidableEq, Repr

namespace Parameter

/-- A bracketed name `field[code]`, divided: the field is not empty and neither part holds a
bracket. -/
def bracketed? (name : List Char) : Option (List Char × List Char) :=
  let isPlain (c : Char) : Bool := c != '[' && c != ']'
  let field := name.takeWhile isPlain
  match name.dropWhile isPlain with
  | '[' :: rest =>
      if !field.isEmpty && rest.dropWhile isPlain == [']'] then
        some (field, rest.takeWhile isPlain)
      else
        none
  | _ => none

def target? (name : String) : Except SearchError (List Char × Option (List Char)) :=
  match bracketed? name.toList with
  | some (field, inner) =>
      let code := Text.trimBlanks inner
      if code.isEmpty then .error (.invalidPredicate (.emptyParameterCode name))
      else .ok (field, some code)
  | none =>
      if name.toList.any fun c => c == '[' || c == ']' then
        .error (.invalidPredicate (.malformedParameter name))
      else
        .ok (name.toList, none)

/-- A value in quotes. Commas stay as they are, so that lists still divide. -/
def quoted (value : String) : List Char :=
  quoteMark :: escaped needsEscape value.toList ++ [quoteMark]

/-- The query text of a parameter. A field without a code is compared for equality, and without a
value it says nothing. -/
def term? (parameter : Parameter) : Except SearchError (Option (List Char)) := do
  let (field, code) ← target? parameter.name
  if field.isEmpty || !field.all isNameCharacter then
    .error (.invalidPredicate (.invalidParameterField (String.ofList field)))
  else
    match code with
    | some code =>
        if !code.all Char.isAlphanum then
          .error (.invalidPredicate (.invalidParameterCode parameter.name (String.ofList code)))
        else if parameter.value.isEmpty then
          return some (field ++ '|' :: code ++ [':'])
        else
          return some (field ++ '|' :: code ++ ':' :: quoted parameter.value)
    | none =>
        if parameter.value.isEmpty then
          return none
        else
          return some (field ++ "|eq:".toList ++ quoted parameter.value)

end Parameter

/-- One conjunction of all terms, nested as evenly as possible; the left half is never smaller. -/
def joinBalanced (terms : List (List Char)) : List Char :=
  match terms with
  | [] => []
  | [term] => term
  | first :: second :: rest =>
      let half := (rest.length + 3) / 2
      '(' :: joinBalanced ((first :: second :: rest).take half) ++ " AND ".toList ++
        joinBalanced ((first :: second :: rest).drop half) ++ [')']
termination_by terms.length
decreasing_by
  · simp only [List.length_take, List.length_cons]
    omega
  · simp only [List.length_drop, List.length_cons]
    omega

namespace RequestForm

def queryParameterName (form : RequestForm) : String :=
  form.nameStart ++ form.queryName

def isReserved (form : RequestForm) (name : String) : Bool :=
  Text.sameLetters name form.queryParameterName || Text.sameLetters name form.queryName ||
    form.reserved.any fun reserved => Text.sameLetters reserved name

def terms (form : RequestForm) : List Parameter → Except SearchError (List (List Char))
  | [] => .ok []
  | parameter :: rest =>
      if form.isReserved parameter.name then
        form.terms rest
      else do
        let term ← parameter.term?
        let others ← form.terms rest
        return term.toList ++ others

def search (form : RequestForm) (parameters : List Parameter) : Except SearchError Search :=
  match parameters.find? fun parameter => parameter.name == form.queryParameterName with
  | some parameter => Search.parse form.limits parameter.value
  | none => do
      let terms ← form.terms parameters
      if terms.isEmpty then
        return .all
      else
        Search.parseCharacters form.limits (joinBalanced terms)

end RequestForm

end SearchQuery

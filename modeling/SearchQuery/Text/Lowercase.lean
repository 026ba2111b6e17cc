import SearchQuery.Text.CaseTable

/-!
# Lowercase text

The full lowercase form of a text. Most characters have a lowercase form of their own; the capital
sigma has two, of which the final one is used at the end of a word, and the dotted capital I
becomes two characters.
-/

set_option autoImplicit false

namespace SearchQuery.Text

def isCaseIgnorable (c : Char) : Bool :=
  inRanges caseIgnorableRanges c.toNat

def isCased (c : Char) : Bool :=
  c.isAlpha || inRanges casedRanges c.toNat

def lowercaseCharacter (c : Char) : List Char :=
  if c.toNat < 0x80 then
    [c.toLower]
  else if c = 'İ' then
    ['i', Char.ofNat 0x0307]
  else
    match caseRuns.find? fun run => run.holds c.toNat with
    | none => [c]
    | some run => [Char.ofNat (c.toNat + run.shift).toNat]

def startsCased (text : List Char) : Bool :=
  match text.dropWhile isCaseIgnorable with
  | [] => false
  | c :: _ => isCased c

/-- The lowercase form of a text; the flag tells whether a cased character stands before it,
ignorable ones skipped. -/
def lowercaseAfter (afterCased : Bool) : List Char → List Char
  | [] => []
  | c :: rest =>
      let form :=
        if c = 'Σ' then
          [if afterCased && !startsCased rest then 'ς' else 'σ']
        else
          lowercaseCharacter c
      form ++ lowercaseAfter (if isCaseIgnorable c then afterCased else isCased c) rest

def lowercase (text : String) : String :=
  String.ofList (lowercaseAfter false text.toList)

end SearchQuery.Text

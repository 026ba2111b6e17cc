import SearchQuery.Yaml.Scalar

/-!
# From YAML text to tokens

A mapping key is recognised only at the colon after it. The scanner therefore remembers where a key
may have started and puts the missing tokens there once the colon is found. Outside brackets the
column of an entry decides which blocks it belongs to.
-/

set_option autoImplicit false

namespace SearchQuery.Yaml

structure KeyCandidate where
  /-- Nothing but a key can stand here. -/
  required : Bool
  tokenIndex : Nat
  index : Nat
  line : Nat
  column : Nat
deriving DecidableEq, Repr

structure Scanner where
  cursor : Cursor
  indents : List Nat
  /-- The candidates of the open brackets, the innermost first; the last one is for block text. -/
  candidates : List (Option KeyCandidate)
  keyAllowed : Bool
  tokens : List Token
deriving DecidableEq, Repr

namespace Scanner

def start (text : List Char) : Scanner :=
  ⟨⟨text, 0, 0, 0⟩, [], [none], true, []⟩

def inFlow (scanner : Scanner) : Bool :=
  scanner.candidates.length > 1

def emit (scanner : Scanner) (token : Token) : Scanner :=
  { scanner with tokens := scanner.tokens ++ [token] }

def emitMark (scanner : Scanner) (token : Token) (width : Nat) : Scanner :=
  { scanner with
    tokens := scanner.tokens ++ [token]
    cursor := scanner.cursor.skip width }

def closeBlocks (column : Nat) (scanner : Scanner) : Scanner :=
  if scanner.inFlow then
    scanner
  else
    let closed := scanner.indents.takeWhile fun indent => indent > column
    { scanner with
      indents := scanner.indents.dropWhile fun indent => indent > column
      tokens := scanner.tokens ++ closed.map fun _ => .blockEnd }

def closeAll (scanner : Scanner) : Scanner :=
  { scanner with
    indents := []
    tokens := scanner.tokens ++ scanner.indents.map fun _ => .blockEnd }

/-- Opens a block at the column unless one is open there; its first token goes to the given place. -/
def openBlock (column place : Nat) (token : Token) (scanner : Scanner) : Scanner :=
  if !scanner.inFlow && (scanner.indents.head?.all fun indent => indent < column) then
    { scanner with
      indents := column :: scanner.indents
      tokens := scanner.tokens.take place ++ token :: scanner.tokens.drop place }
  else
    scanner

/-- Gives up the candidate of the innermost level, unless it has to be a key. -/
def dropCandidate (scanner : Scanner) : Option Scanner :=
  match scanner.candidates with
  | [] => none
  | some candidate :: outer =>
      if candidate.required then none else some { scanner with candidates := none :: outer }
  | none :: _ => some scanner

def addCandidate (scanner : Scanner) : Option Scanner :=
  if scanner.keyAllowed then
    match scanner.dropCandidate with
    | none => none
    | some cleared =>
      let cursor := scanner.cursor
      let required := !scanner.inFlow && scanner.indents.head? == some cursor.column
      let candidate : KeyCandidate :=
        ⟨required, scanner.tokens.length, cursor.index, cursor.line, cursor.column⟩
      some { cleared with candidates := some candidate :: cleared.candidates.drop 1 }
  else
    some scanner

def keyLength : Nat := 1024

/-- Gives up the candidates that the text has left behind: a key stands on one line. -/
def dropStale (scanner : Scanner) : Option Scanner :=
  let isStale (candidate : KeyCandidate) : Bool :=
    candidate.line < scanner.cursor.line ||
      candidate.index + keyLength < scanner.cursor.index
  let staleRequired := scanner.candidates.any fun candidate =>
    candidate.any fun known => isStale known && known.required
  if staleRequired then
    none
  else
    some { scanner with
      candidates := scanner.candidates.map fun candidate =>
        candidate.filter fun known => !isStale known }

/-- Passes over spaces, comments, line breaks and a mark of byte order at the start of a line. A tab
is spacing only where no key may start. -/
def skipToToken : Nat → Scanner → Scanner
  | 0, scanner => scanner
  | fuel + 1, scanner =>
    match scanner.cursor.rest with
    | [] => scanner
    | c :: rest =>
      if c == ' ' || (c == '\t' && (scanner.inFlow || !scanner.keyAllowed)) ||
          (isOrderMark c && scanner.cursor.column == 0) then
        skipToToken fuel { scanner with cursor := scanner.cursor.skip 1 }
      else if c == '#' then
        let comment := rest.takeWhile fun next => !isBreak next
        skipToToken fuel { scanner with cursor := scanner.cursor.skip (1 + comment.length) }
      else if isBreak c then
        skipToToken fuel
          { scanner with
            cursor := scanner.cursor.skipBreak
            keyAllowed := scanner.keyAllowed || !scanner.inFlow }
      else
        scanner

def documentMark (token : Token) (scanner : Scanner) : Option Scanner :=
  match scanner.closeAll.dropCandidate with
  | none => none
  | some cleared => some { cleared.emitMark token 3 with keyAllowed := false }

def openFlow (token : Token) (scanner : Scanner) : Option Scanner :=
  match scanner.addCandidate with
  | none => none
  | some saved =>
    some { saved.emitMark token 1 with
      candidates := none :: saved.candidates
      keyAllowed := true }

def closeFlow (token : Token) (scanner : Scanner) : Option Scanner :=
  match scanner.dropCandidate with
  | none => none
  | some cleared =>
    some { cleared.emitMark token 1 with
      candidates := if cleared.inFlow then cleared.candidates.drop 1 else cleared.candidates
      keyAllowed := false }

def flowEntry (scanner : Scanner) : Option Scanner :=
  match scanner.dropCandidate with
  | none => none
  | some cleared => some { cleared.emitMark .flowEntry 1 with keyAllowed := true }

def blockEntry (scanner : Scanner) : Option Scanner :=
  if !scanner.inFlow && !scanner.keyAllowed then
    none
  else
    let opened :=
      scanner.openBlock scanner.cursor.column scanner.tokens.length .blockSequenceStart
    match opened.dropCandidate with
    | none => none
    | some cleared => some { cleared.emitMark .blockEntry 1 with keyAllowed := true }

def explicitKey (scanner : Scanner) : Option Scanner :=
  if !scanner.inFlow && !scanner.keyAllowed then
    none
  else
    let opened :=
      scanner.openBlock scanner.cursor.column scanner.tokens.length .blockMappingStart
    match opened.dropCandidate with
    | none => none
    | some cleared => some { cleared.emitMark .key 1 with keyAllowed := !cleared.inFlow }

def value (scanner : Scanner) : Option Scanner :=
  match scanner.candidates with
  | some candidate :: outer =>
      let keyed :=
        { scanner with
          tokens := scanner.tokens.take candidate.tokenIndex ++
            Token.key :: scanner.tokens.drop candidate.tokenIndex }
      let opened := keyed.openBlock candidate.column candidate.tokenIndex .blockMappingStart
      some { opened.emitMark .value 1 with
        candidates := none :: outer
        keyAllowed := false }
  | _ =>
      if !scanner.inFlow && !scanner.keyAllowed then
        none
      else
        let opened :=
          scanner.openBlock scanner.cursor.column scanner.tokens.length .blockMappingStart
        some { opened.emitMark .value 1 with keyAllowed := !scanner.inFlow }

def quotedScalar (quote : Char) (scanner : Scanner) : Option Scanner :=
  match scanner.addCandidate with
  | none => none
  | some saved =>
    match readQuoted quote (saved.cursor.rest.length + 1) (saved.cursor.skip 1) [] with
    | none => none
    | some (text, cursor) =>
      some { saved.emit (.scalar (String.ofList text) false) with
        cursor := cursor
        keyAllowed := false }

def plainScalar (scanner : Scanner) : Option Scanner :=
  match scanner.addCandidate with
  | none => none
  | some saved =>
    let indent := (saved.indents.head?.map (· + 1)).getD 0
    match readPlain saved.inFlow indent (saved.cursor.rest.length + 2) saved.cursor Gap.none []
      with
    | none => none
    | some scalar =>
      some { saved.emit (.scalar (String.ofList scalar.text) true) with
        cursor := scalar.cursor
        keyAllowed := scalar.endsLine }

def isIndicator (c : Char) : Bool :=
  ['-', '?', ':', ',', '[', ']', '\x7b', '\x7d', '#', '&', '*', '!', '|', '>', '\x27', '"', '%',
    '@', '\x60'].contains c

def startsPlain (scanner : Scanner) (c : Char) (rest : List Char) : Bool :=
  (!isIndicator c && !isSpacing c) ||
    (c == '-' && !(rest.head?.any isSpacing)) ||
    (!scanner.inFlow && (c == '?' || c == ':') && !atWordEnd rest)

def readToken (scanner : Scanner) (c : Char) (rest : List Char) : Option Scanner :=
  if scanner.cursor.atDocumentMark "---" then scanner.documentMark .documentStart
  else if scanner.cursor.atDocumentMark "..." then scanner.documentMark .documentEnd
  else if c == '[' then scanner.openFlow .flowSequenceStart
  else if c == '\x7b' then scanner.openFlow .flowMappingStart
  else if c == ']' then scanner.closeFlow .flowSequenceEnd
  else if c == '\x7d' then scanner.closeFlow .flowMappingEnd
  else if c == ',' then scanner.flowEntry
  else if c == '-' && atWordEnd rest then scanner.blockEntry
  else if c == '?' && (scanner.inFlow || atWordEnd rest) then scanner.explicitKey
  else if c == ':' && (scanner.inFlow || atWordEnd rest) then scanner.value
  else if c == '\x27' || c == '"' then scanner.quotedScalar c
  else if scanner.startsPlain c rest then scanner.plainScalar
  else none

def run : Nat → Scanner → Option (List Token)
  | 0, _ => none
  | fuel + 1, scanner =>
    match (scanner.skipToToken (scanner.cursor.rest.length + 1)).dropStale with
    | none => none
    | some ready =>
      let closed := ready.closeBlocks ready.cursor.column
      match closed.cursor.rest with
      | [] => closed.closeAll.dropCandidate.map Scanner.tokens
      | c :: rest =>
        match closed.readToken c rest with
        | none => none
        | some next => run fuel next

end Scanner

def scan? (text : String) : Option (List Token) :=
  let characters := text.toList
  if characters.all isPrintable then
    (Scanner.start characters).run (characters.length + 1)
  else
    none

end SearchQuery.Yaml
